import Wavis.SfuRelay

/-! The bridge between channel membership in the database and participation in rooms. -/

namespace Wavis

open Concurrency InMemoryRoomState

structure SubRoomActionResult where
  signals : List OutboundSignal := []
  expiry : Option PendingSubRoomExpiry := none

inductive VoiceJoinError where
  | notChannelMember
  | channelBanned
  | invalidChannelId
  | roomFull
  | databaseError (reason : String)
  | sfuError (reason : String)
  | internalError (reason : String)

structure VoiceJoinResult where
  roomId : RoomId
  participantRole : ParticipantRole
  signals : List OutboundSignal
  channelId : Uuid
  /-- The session of the same user that this join has replaced. -/
  evictedPeerId : Option PeerId
  subRoomExpiry : Option PendingSubRoomExpiry

def mapChannelRole : ChannelRole → ParticipantRole
  | .owner => .host
  | .admin => .host
  | .member => .guest

def subRoomStateSignals (roomId : RoomId) : BackendProg (List OutboundSignal) := do
  let info ← roomState (getRoomInfo roomId)
  match info.bind (·.subRoomState) with
  | none => pure []
  | some subRooms => do
      let now ← Op.perform .getNow
      pure [.broadcastAll (.subRoomState (subRooms.payload now))]

def syncSubRoomStateOnVoiceJoin (roomId : RoomId) (participantId : PeerId)
    (supportsSubRooms : Bool) : BackendProg SubRoomActionResult := do
  let before ← roomState (updateRoomInfo roomId (.syncSubRooms participantId supportsSubRooms))
  let event := before.bind fun (members, _) =>
    (members.info.syncSubRoomsOnVoiceJoin participantId supportsSubRooms).1
  let signals ← subRoomStateSignals roomId
  pure { signals := event.toList.map .broadcastAll ++ signals }

/-- The signals of a change of the sub-rooms, followed by the new state of all of them. -/
def announceSubRooms (roomId : RoomId) (change : SubRoomChange) :
    BackendProg SubRoomActionResult := do
  let signals ← subRoomStateSignals roomId
  pure { signals := change.events.map .broadcastAll ++ signals, expiry := change.expiry }

def createSubRoom (roomId : RoomId) : BackendProg (Except String SubRoomActionResult) := do
  match ← roomState (updateRoomInfo roomId .createSubRoom) with
  | none => pure (.error "room state unavailable")
  | some (members, now) => do
      let result ← announceSubRooms roomId (members.info.createSubRoom now).1
      pure (.ok result)

def joinSubRoom (roomId : RoomId) (subRoomId : String) (participantId : PeerId) :
    BackendProg (Except String SubRoomActionResult) := do
  match ← roomState (withRoomWrite roomId (.joinSubRoom subRoomId participantId)) with
  | none => pure (.error "voice session not found")
  | some (members, now) =>
    match (members.info.joinSubRoom subRoomId participantId now).1 with
    | .error message => pure (.error message)
    | .ok change => do
        let result ← announceSubRooms roomId change
        pure (.ok result)

def leaveSubRoom (roomId : RoomId) (participantId : PeerId) :
    BackendProg (Except String SubRoomActionResult) := do
  match ← roomState (withRoomWrite roomId (.leaveSubRoom participantId)) with
  | none => pure (.error "voice session not found")
  | some (members, now) => do
      let result ← announceSubRooms roomId (members.info.leaveSubRoom participantId now).1
      pure (.ok result)

def removeParticipantFromSubRoom (roomId : RoomId) (participantId : PeerId) :
    BackendProg SubRoomActionResult := do
  match ← leaveSubRoom roomId participantId with
  | .error _ => pure {}
  | .ok result => pure result

/-- The new state of the sub-rooms, if something has changed. -/
def announceIfChanged (roomId : RoomId) (changed : Bool) : BackendProg SubRoomActionResult := do
  if changed then
    let signals ← subRoomStateSignals roomId
    pure { signals }
  else pure {}

def changePassthrough (roomId : RoomId) (edit : InfoEdit)
    (outcome : RoomInfo → Except String Bool) :
    BackendProg (Except String SubRoomActionResult) := do
  match ← roomState (withRoomWrite roomId edit) with
  | none => pure (.error "voice session not found")
  | some (members, _) =>
    match outcome members.info with
    | .error message => pure (.error message)
    | .ok changed => do
        let result ← announceIfChanged roomId changed
        pure (.ok result)

def setPassthrough (roomId : RoomId) (participantId : PeerId) (targetSubRoomId : String) :
    BackendProg (Except String SubRoomActionResult) :=
  changePassthrough roomId (.setPassthrough participantId targetSubRoomId) fun info =>
    (info.setPassthrough participantId targetSubRoomId).1

def clearPassthrough (roomId : RoomId) (participantId : PeerId) :
    BackendProg (Except String SubRoomActionResult) :=
  changePassthrough roomId (.clearPassthrough participantId) fun info =>
    (info.clearPassthrough participantId).1

/-- A setting of the sub-rooms; `none` when the room is gone. -/
def changeSubRoomSetting (roomId : RoomId) (edit : InfoEdit) (changed : RoomInfo → Bool) :
    BackendProg (Option SubRoomActionResult) := do
  match ← roomState (withRoomWrite roomId edit) with
  | none => pure none
  | some (members, _) => do
      let result ← announceIfChanged roomId (changed members.info)
      pure (some result)

def setPassthroughEnabled (roomId : RoomId) (channelId : Uuid) (enabled : Bool) :
    BackendProg (Except String SubRoomActionResult) := do
  match ← Op.perform (.updatePassthrough channelId enabled) with
  | .error e => pure (.error e)
  | .ok false => pure (.error "channel not found")
  | .ok true =>
    match ← changeSubRoomSetting roomId (.setPassthroughEnabled enabled) fun info =>
      (info.setPassthroughEnabled enabled).1 with
    | none => pure (.error "voice session not found")
    | some result => pure (.ok result)

def setPassthroughVolume (roomId : RoomId) (volumePercent : Nat) :
    BackendProg SubRoomActionResult := do
  let result ← changeSubRoomSetting roomId (.setPassthroughVolume volumePercent) fun info =>
    (info.setPassthroughVolume volumePercent).1
  pure (result.getD {})

def setPassthroughFilter (roomId : RoomId) (enabled : Bool) (strength : Nat) :
    BackendProg (Except String SubRoomActionResult) := do
  match ← changeSubRoomSetting roomId (.setPassthroughFilter enabled strength) fun info =>
    (info.setPassthroughFilter enabled strength).1 with
  | none => pure (.error "room not found")
  | some result => pure (.ok result)

def expireSubRoom (roomId : RoomId) (subRoomId : String) (expectedDeleteAt : Instant) :
    BackendProg SubRoomActionResult := do
  match ← roomState (withRoomWrite roomId (.expireSubRoom subRoomId expectedDeleteAt)) with
  | none => pure {}
  | some (members, _) =>
    if (members.info.expireSubRoom subRoomId expectedDeleteAt).1 then
      announceSubRooms roomId ⟨[.subRoomDeleted subRoomId], none⟩
    else pure {}

def newVoiceRoom (config : Config) (handle : SfuRoomHandle) (passthroughEnabled : Bool) :
    RoomInfo :=
  (RoomInfo.newSfu config.maxParticipants handle).withSubRooms
    { SubRoomState.new defaultSubRoomId with passthroughEnabled }

/-- Creates a room for the channel and enters it into the map, whose lock is held. -/
def createActiveRoom (config : Config) (channelId : Uuid) (passthroughEnabled : Bool) :
    BackendProg (Except VoiceJoinError (RoomId × Bool)) := do
  let suffix ← Op.perform .randomText
  let roomId := s!"channel-{channelId}-{suffix}"
  match ← Op.perform (.sfuCreateRoom roomId) with
  | .error e => do
      Op.perform .unlockActiveRoom
      pure (.error (.sfuError e.text))
  | .ok handle =>
    if ← roomState (createRoom roomId (newVoiceRoom config handle passthroughEnabled)) then
      Op.perform (.publishActiveRoom channelId roomId)
      pure (.ok (roomId, true))
    else
      Op.perform .unlockActiveRoom
      pure (.error (.internalError "room already exists in state"))

/-- The room of the channel, and whether it is new. The lock of the map is held from the lookup to
the end, across the call of the SFU. -/
def ensureActiveRoom (config : Config) (channelId : Uuid) (passthroughEnabled : Bool) :
    BackendProg (Except VoiceJoinError (RoomId × Bool)) := do
  match ← Op.perform (.lockActiveRoom channelId) with
  | none => createActiveRoom config channelId passthroughEnabled
  | some roomId => do
      let info ← roomState (getRoomInfo roomId)
      if info.isSome then
        let _ ← roomState (updateRoomInfo roomId (.activateSubRooms passthroughEnabled))
        Op.perform .unlockActiveRoom
        pure (.ok (roomId, false))
      else
        Op.perform (.evictActiveRoom channelId)
        createActiveRoom config channelId passthroughEnabled

def rollbackRoom (roomId : RoomId) (channelId : Uuid) : BackendProg Unit := do
  let _ ← roomState (removeEmptyRoom roomId)
  Op.perform (.removeActiveRoomIf channelId roomId)

def RoomInfo.findUser (info : RoomInfo) (userId : Uuid) : Option PeerId :=
  (info.participants.find? (·.userId = some userId.text)).map (·.participantId)

/-- What the eviction of an older session of the same user leaves to be announced. -/
structure Eviction where
  peerId : PeerId
  signals : List OutboundSignal
  expiry : Option PendingSubRoomExpiry

def evictStaleSession (roomId : RoomId) (userId : Uuid) : BackendProg (Option Eviction) := do
  let info ← roomState (getRoomInfo roomId)
  match info.bind (·.findUser userId) with
  | none => pure none
  | some stalePeerId => do
      let info ← roomState (getRoomInfo roomId)
      let handle := info.bind (·.sfuHandle)
      sfuRemoveAll handle [userId.text]
      let viewerIds ← takeViewerIdentities roomId stalePeerId
      sfuRemoveAll handle viewerIds
      let shareSignals ← cleanupShareOnDisconnect roomId stalePeerId
      roomState (removePeerPreserveRoom stalePeerId)
      let _ ← roomState (updateRoomInfo roomId (.dropParticipant stalePeerId))
      let subRoomResult ← removeParticipantFromSubRoom roomId stalePeerId
      pure (some
        { peerId := stalePeerId
          signals := .broadcastExcept stalePeerId (.participantLeft stalePeerId)
            :: subRoomResult.signals ++ shareSignals.getD []
          expiry := subRoomResult.expiry })

/-- Who joins, and what the client tells about itself. -/
structure VoiceJoiner where
  userId : Uuid
  peerId : PeerId
  displayName : String
  profileColor : Option String
  supportsSubRooms : Bool

def VoiceJoiner.participant (joiner : VoiceJoiner) : ParticipantInfo :=
  newParticipant joiner.peerId joiner.displayName (some joiner.userId.text) joiner.profileColor

/-- The part of a voice join that follows the insertion of the peer. -/
def completeVoiceJoin (config : Config) (joiner : VoiceJoiner) (channelId : Uuid)
    (role : ParticipantRole) (roomId : RoomId) (eviction : Option Eviction)
    (existing : List ParticipantInfo) : BackendProg (Except VoiceJoinError VoiceJoinResult) := do
  let peerId := joiner.peerId
  let _ ← roomState (updateRoomInfo roomId (.join joiner.participant))
  let subRoomSync ← syncSubRoomStateOnVoiceJoin roomId peerId joiner.supportsSubRooms
  match ← Op.perform (.sign peerId config.tokenMode roomId
    (livekitIdentity peerId (some joiner.userId.text)) joiner.displayName) with
  | .error e => pure (.error (.sfuError e.text))
  | .ok token => do
      let peerCount ← roomState (peerCount roomId)
      let info ← roomState (getRoomInfo roomId)
      let shareState ← shareStateSnapshot roomId peerId
      pure (.ok
        { roomId
          participantRole := role
          signals := ((eviction.map (·.signals)).getD [])
            ++ joinSignals config roomId joiner.participant existing token peerCount
              (info.map (·.sharePermission.toWire)) shareState
            ++ subRoomSync.signals
          channelId
          evictedPeerId := eviction.map (·.peerId)
          subRoomExpiry := eviction.bind (·.expiry) })

/-- Joins the room that `ensureActiveRoom` has answered. A failed join rolls a new room back. -/
def enterVoiceRoom (config : Config) (joiner : VoiceJoiner) (channelId : Uuid)
    (role : ParticipantRole) (roomId : RoomId) (created : Bool) :
    BackendProg (Except VoiceJoinError VoiceJoinResult) := do
  let peerId := joiner.peerId
  let eviction ← evictStaleSession roomId joiner.userId
  let info ← roomState (getRoomInfo roomId)
  match info.bind (·.sfuHandle) with
  | none => pure (.error (.internalError "room missing SFU handle"))
  | some handle =>
    match ← Op.perform (.sfuAddParticipant handle
      (livekitIdentity peerId (some joiner.userId.text))) with
    | .error e => do
        if created then rollbackRoom roomId channelId
        pure (.error (.sfuError e.text))
    | .ok _ => do
        let before ← roomState (getRoomInfo roomId)
        match ← roomState (tryAddPeerWith peerId roomId none) with
        | .error _ => do
            if created then rollbackRoom roomId channelId
            pure (.error .roomFull)
        | .ok _ =>
          completeVoiceJoin config joiner channelId role roomId eviction
            ((before.map (·.participants)).getD [])

def joinVoice (config : Config) (channelId : String) (joiner : VoiceJoiner) :
    BackendProg (Except VoiceJoinError VoiceJoinResult) := do
  match Uuid.parseStr channelId with
  | none => pure (.error .invalidChannelId)
  | some channelId =>
    match ← Op.perform (.selectVoiceMembership channelId joiner.userId) with
    | .error e => pure (.error (.databaseError e))
    | .ok none => pure (.error .notChannelMember)
    | .ok (some (membership, passthroughEnabled)) =>
      if membership.bannedAt.isSome then pure (.error .channelBanned)
      else
        match ← ensureActiveRoom config channelId passthroughEnabled with
        | .error e => pure (.error e)
        | .ok (roomId, created) =>
          enterVoiceRoom config joiner channelId (mapChannelRole membership.role) roomId
            created

def findUserInVoice (channelId userId : Uuid) : BackendProg (Option (RoomId × PeerId)) := do
  match ← Op.perform (.readActiveRoom channelId) with
  | none => pure none
  | some roomId => do
      let info ← roomState (getRoomInfo roomId)
      pure ((info.bind (·.findUser userId)).map fun peerId => (roomId, peerId))

/-- Gives up a room whose last participant was ejected: its SFU room, the room itself and its entry
in the map, the last two in the way a rollback does it. -/
def releaseVoiceRoom (roomId : RoomId) (channelId : Uuid) : BackendProg Unit := do
  let info ← roomState (getRoomInfo roomId)
  match info.bind (·.sfuHandle) with
  | some handle =>
    let _ ← Op.perform (.sfuDestroyRoom handle)
  | none => pure ()
  rollbackRoom roomId channelId

def ejectBannedUser (roomId : RoomId) (peerId : PeerId) (channelId : Uuid) :
    BackendProg (Except VoiceJoinError (List OutboundSignal)) := do
  match ← handleKick roomId .host peerId with
  | .error e => pure (.error (.internalError e.text))
  | .ok signals => do
      let remaining ← roomState (peerCount roomId)
      if remaining = 0 then releaseVoiceRoom roomId channelId
      pure (.ok signals)

def getCurrentChannelRole (channelId userId : Uuid) :
    BackendProg (Except VoiceJoinError (Option ChannelRole)) := do
  match ← Op.perform (.selectMembership channelId userId) with
  | .error e => pure (.error (.databaseError e))
  | .ok membership =>
    pure (.ok ((membership.filter (·.bannedAt.isNone)).map (·.role)))

end Wavis
