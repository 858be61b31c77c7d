import Wavis.RoomInfo

namespace Wavis

inductive ShareResult where
  | ok (signals : List OutboundSignal)
  | noop
  | error (msg : SignalingMessage)

namespace RoomInfo

def shareTypes (info : RoomInfo) (participantId : String) : HashSet WireShareType :=
  (info.activeShareTypes.lookup participantId).getD ∅

def setShareTypes (participantId : String) (types : HashSet WireShareType) (info : RoomInfo) :
    RoomInfo :=
  { info with activeShareTypes := info.activeShareTypes.insert participantId types }

def clearShares (participantId : String) (info : RoomInfo) : RoomInfo :=
  { info with
    activeShares := info.activeShares.erase participantId
    activeShareTypes := info.activeShareTypes.erase participantId }

def shareStarted (info : RoomInfo) (participantId : String) (shareType : Option WireShareType) :
    ShareResult :=
  .ok [.broadcastAll
    (.shareStarted participantId (lookupDisplayName info.participants participantId) shareType)]

def shareStopped (info : RoomInfo) (participantId : String) (shareType : Option WireShareType) :
    OutboundSignal :=
  .broadcastAll
    (.shareStopped participantId (lookupDisplayName info.participants participantId) shareType)

def startShare (peers : List PeerId) (senderId : PeerId) (role : ParticipantRole)
    (shareType : Option WireShareType) (info : RoomInfo) : ShareResult × RoomInfo :=
  if info.roomType ≠ .sfu then
    (.error (.error "screen sharing unavailable in P2P mode"), info)
  else if info.sharePermission = .hostOnly ∧ role ≠ .host then
    (.error (.error "permission denied: only host can share in this room"), info)
  else if senderId ∉ peers then (.error (.error "not in room"), info)
  else if info.subRoomState.any fun subRooms =>
      (subRooms.participantAssignments.lookup senderId).isNone then
    (.error (.error "not in room"), info)
  else if info.activeShares.contains senderId then
    let existing := info.shareTypes senderId
    match shareType with
    | some kind =>
      if existing.contains kind then (.noop, info.setShareTypes senderId existing)
      else
        -- The slot of the other category stays as it is.
        let kept := existing.retain fun other _ => other.isAudioOnly != kind.isAudioOnly
        (info.shareStarted senderId shareType,
          info.setShareTypes senderId (kept.insert kind ()))
    | none =>
      if existing.entries.isEmpty then (.noop, info.setShareTypes senderId existing)
      else (info.shareStarted senderId shareType, info.setShareTypes senderId ∅)
  else
    let started := { info with activeShares := info.activeShares.insert senderId () }
    let typed := match shareType with
      | some kind => started.setShareTypes senderId ((started.shareTypes senderId).insert kind ())
      | none => started
    (typed.shareStarted senderId shareType, typed)

def stopShare (peers : List PeerId) (target : PeerId) (shareTypeToStop : Option WireShareType)
    (info : RoomInfo) : ShareResult × RoomInfo :=
  if info.roomType ≠ .sfu then
    (.error (.error "screen sharing unavailable in P2P mode"), info)
  else if target ∉ peers then (.noop, info)
  else if !info.activeShares.contains target then (.noop, info)
  else
    match shareTypeToStop, info.activeShareTypes.lookup target with
    | some stopType, some types =>
      if !types.contains stopType then (.noop, info)
      else
        let left := types.erase stopType
        if left.entries.isEmpty then
          (.ok [info.shareStopped target none], info.clearShares target)
        else (.ok [info.shareStopped target (some stopType)], info.setShareTypes target left)
    | _, _ => (.ok [info.shareStopped target none], info.clearShares target)

def stopAllShares (info : RoomInfo) : ShareResult × RoomInfo :=
  if info.roomType ≠ .sfu then
    (.error (.error "screen sharing unavailable in P2P mode"), info)
  else if info.activeShares.entries.isEmpty then (.noop, info)
  else
    (.ok (info.activeShares.keys.map fun participantId => info.shareStopped participantId none),
      { info with activeShares := ∅, activeShareTypes := ∅ })

def cleanupShare (peerId : PeerId) (info : RoomInfo) : Option (List OutboundSignal) × RoomInfo :=
  if info.activeShares.contains peerId then
    (some [info.shareStopped peerId none], info.clearShares peerId)
  else (none, info)

def setSharePermission (peers : List PeerId) (senderId : PeerId)
    (permission : WireSharePermission) (info : RoomInfo) : ShareResult × RoomInfo :=
  let newPermission := SharePermission.ofWire permission
  if senderId ∉ peers then (.error (.error "not in room"), info)
  else if info.roomType ≠ .sfu then (.error (.error "not supported in P2P mode"), info)
  else if info.sharePermission = newPermission then (.noop, info)
  else
    (.ok [.broadcastAll (.sharePermissionChanged permission)],
      { info with sharePermission := newPermission })

def activeSharePayloads (info : RoomInfo) : List ActiveSharePayload :=
  info.activeShares.keys.flatMap fun participantId =>
    match info.activeShareTypes.lookup participantId with
    | some types =>
      if types.entries.isEmpty then [⟨participantId, none⟩]
      else types.keys.map fun shareType => ⟨participantId, some shareType⟩
    | none => [⟨participantId, none⟩]

end RoomInfo

end Wavis
