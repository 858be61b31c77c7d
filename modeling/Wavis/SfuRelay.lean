import Wavis.Relay

namespace Wavis

open Concurrency InMemoryRoomState

def shareStateSnapshot (roomId : RoomId) (targetPeerId : PeerId) : BackendProg OutboundSignal := do
  let info ← roomState (getRoomInfo roomId)
  match info with
  | some info =>
    pure (.toPeer targetPeerId (.shareState info.activeShares.keys info.activeSharePayloads))
  | none => pure (.toPeer targetPeerId (.shareState [] []))

def cleanupShareOnDisconnect (roomId : RoomId) (peerId : PeerId) :
    BackendProg (Option (List OutboundSignal)) := do
  match ← roomState (withRoomWrite roomId (.cleanupShare peerId)) with
  | none => pure none
  | some (members, _) => pure (members.info.cleanupShare peerId).1

def newParticipant (peerId : PeerId) (displayName : String) (userId profileColor : Option String) :
    ParticipantInfo where
  participantId := peerId
  displayName
  userId
  profileColor
  isMuted := false
  isHostMuted := false
  isDeafened := false

/-- The signals of a completed join, in the order in which they are sent. -/
def joinSignals (config : Config) (roomId : RoomId) (participant : ParticipantInfo)
    (existing : List ParticipantInfo) (token : SignedToken) (peerCount : Nat)
    (sharePermission : Option WireSharePermission) (shareState : OutboundSignal) :
    List OutboundSignal :=
  let peerId := participant.participantId
  [.toPeer peerId (.joined
      { roomId, peerId, peerCount
        participants := existing ++ [participant]
        iceConfig := none
        sharePermission }),
    .toPeer peerId (.mediaToken token config.sfuUrl)]
    ++ (if existing.isEmpty then [] else [.toPeer peerId (.roomState existing)])
    ++ [shareState,
      .broadcastExcept peerId (.participantJoined peerId participant.displayName
        participant.userId participant.profileColor)]

/-- The SFU room of a room. The first joiner creates both. -/
def getOrCreateSfuRoom (config : Config) (roomId : RoomId) :
    BackendProg (Except SfuError SfuRoomHandle) := do
  let info ← roomState (getRoomInfo roomId)
  match info.bind (·.sfuHandle) with
  | some handle => pure (.ok handle)
  | none =>
    match ← Op.perform (.sfuCreateRoom roomId) with
    | .error e => pure (.error e)
    | .ok handle => do
        let _ ← roomState (createRoom roomId (.newSfu config.maxParticipants handle))
        pure (.ok handle)

/-- The part of a join that follows the signing of its token. -/
def completeSfuJoin (config : Config) (roomId : RoomId) (participant : ParticipantInfo)
    (inviteCode : Option String) (token : SignedToken) :
    BackendProg (Except SfuError (List OutboundSignal)) := do
  let peerId := participant.participantId
  let before ← roomState (getRoomInfo roomId)
  match ← roomState (tryAddPeerWith peerId roomId (joinCheck roomId inviteCode)) with
  | .error .inviteExhausted => pure (.error .inviteExhausted)
  | .error _ => pure (.error .roomFull)
  | .ok _ => do
      let _ ← roomState (updateRoomInfo roomId (.join participant))
      let peerCount ← roomState (peerCount roomId)
      let info ← roomState (getRoomInfo roomId)
      let shareState ← shareStateSnapshot roomId peerId
      pure (.ok (joinSignals config roomId participant ((before.map (·.participants)).getD [])
        token peerCount (info.map (·.sharePermission.toWire)) shareState))

def handleSfuJoin (config : Config) (roomId : RoomId) (peerId : PeerId) (displayName : String)
    (profileColor inviteCode : Option String) :
    BackendProg (Except SfuError (List OutboundSignal)) := do
  match ← getOrCreateSfuRoom config roomId with
  | .error e => pure (.error e)
  | .ok handle =>
    match ← Op.perform (.sfuAddParticipant handle peerId) with
    | .error e => pure (.error e)
    | .ok _ =>
      if ← roomState (isParticipantRevoked roomId peerId config.tokenMode.ttlWindow) then
        pure (.error (.tokenError "participant revoked"))
      else
        match ← Op.perform (.sign peerId config.tokenMode roomId peerId displayName) with
        | .error e => pure (.error e)
        | .ok token =>
          completeSfuJoin config roomId (newParticipant peerId displayName none profileColor)
            inviteCode token

def maxViewerWindowIdLen : Nat := 32

def isViewerWindowId (windowId : String) : Bool :=
  windowId != "" && windowId.utf8ByteSize ≤ maxViewerWindowIdLen
    && windowId.toList.all isIdentifierChar

def viewerIdentity (peerId : PeerId) (userId : Option String) (windowId : String) : String :=
  s!"{livekitIdentity peerId userId}-vw-{windowId}"

/-- A hidden, subscribe-only token for a window of a participant. -/
def handleViewerTokenRequest (config : Config) (roomId : RoomId) (peerId : PeerId)
    (userId : Option String) (windowId : String) :
    BackendProg (Except SfuError (List OutboundSignal)) := do
  if !isViewerWindowId windowId then
    pure (.error (.invalidInput
      "window_id must be 1–32 chars of ASCII alphanumeric, hyphens, underscores"))
  else
    let info ← roomState (getRoomInfo roomId)
    if !(info.any fun info => info.roomType == .sfu && info.sfuHandle.isSome) then
      pure (.error (.participantError "viewer tokens are only available in SFU rooms"))
    else if ← roomState (isParticipantRevoked roomId peerId config.tokenMode.ttlWindow) then
      pure (.error (.tokenError "participant revoked"))
    else
      let identity := viewerIdentity peerId userId windowId
      match validateIdentifier identity "viewer_identity" with
      | .error e => pure (.error e)
      | .ok _ =>
        match ← Op.perform (.signViewer peerId config.tokenMode roomId identity) with
        | .error e => pure (.error e)
        | .ok token => do
            let before ← roomState
              (updateRoomInfo roomId (.recordViewerIdentity peerId identity))
            if before.any fun (members, _) =>
                (members.info.recordViewerIdentity peerId identity).1 then
              pure (.ok [.toPeer peerId
                (.viewerToken windowId token config.sfuUrl identity)])
            else pure (.error (.participantError "too many viewer windows"))

/-- Takes an identity and its viewers out of the SFU room, as far as the SFU complies. -/
def sfuRemoveAll (handle : Option SfuRoomHandle) (identities : List String) : BackendProg Unit :=
  match handle with
  | none => pure ()
  | some handle => Prog.each (fun identity => do
      let _ ← Op.perform (.sfuRemoveParticipant handle identity)
      pure ()) identities

def takeViewerIdentities (roomId : RoomId) (peerId : PeerId) : BackendProg (List String) := do
  let before ← roomState (updateRoomInfo roomId (.takeViewerIdentities peerId))
  pure ((before.map fun (members, _) => (members.info.takeViewerIdentities peerId).1).getD [])

def handleSfuLeave (roomId : RoomId) (peerId : PeerId) : BackendProg (List OutboundSignal) := do
  let info ← roomState (getRoomInfo roomId)
  let handle := info.bind (·.sfuHandle)
  let viewerIds ← takeViewerIdentities roomId peerId
  sfuRemoveAll handle (peerId :: viewerIds)
  let shareSignals ← cleanupShareOnDisconnect roomId peerId
  roomState (removePeer peerId)
  let _ ← roomState (updateRoomInfo roomId (.dropParticipant peerId))
  let _ ← roomState (updateRoomInfo roomId (.addRevokedParticipant peerId))
  let remaining ← roomState (peerCount roomId)
  match handle with
  | some handle =>
    if remaining = 0 then
      let _ ← Op.perform (.sfuDestroyRoom handle)
  | none => pure ()
  Op.perform (.removed peerId roomId)
  pure (.broadcastExcept peerId (.participantLeft peerId) :: shareSignals.getD [])

def participantInRoom (roomId : RoomId) (participantId : PeerId) : BackendProg Bool := do
  let info ← roomState (getRoomInfo roomId)
  pure (info.any fun info => info.participants.any (·.participantId = participantId))

def notInRoom (targetId : PeerId) : SfuError :=
  .participantError s!"target participant {targetId} not in room"

def kickParticipant (roomId : RoomId) (targetId : PeerId) :
    BackendProg (List OutboundSignal) := do
  let info ← roomState (getRoomInfo roomId)
  let handle := info.bind (·.sfuHandle)
  sfuRemoveAll handle [targetId]
  let viewerIds ← takeViewerIdentities roomId targetId
  sfuRemoveAll handle viewerIds
  roomState (removePeer targetId)
  let _ ← roomState (updateRoomInfo roomId (.kick targetId))
  Op.perform (.removed targetId roomId)
  let kicked := .participantKicked targetId "kicked"
  pure [.toPeer targetId kicked, .broadcastExcept targetId kicked]

def handleKick (roomId : RoomId) (kickerRole : ParticipantRole) (targetId : PeerId) :
    BackendProg (Except SfuError (List OutboundSignal)) := do
  if kickerRole ≠ .host then pure (.error (.unauthorized "only hosts can kick participants"))
  else if !(← participantInRoom roomId targetId) then pure (.error (notInRoom targetId))
  else
    let signals ← kickParticipant roomId targetId
    pure (.ok signals)

def handleHostFlag (roomId : RoomId) (role : ParticipantRole) (targetId : PeerId)
    (refusal : String) (edit : InfoEdit) (announcement : SignalingMessage) :
    BackendProg (Except SfuError (List OutboundSignal)) := do
  if role ≠ .host then pure (.error (.unauthorized refusal))
  else if !(← participantInRoom roomId targetId) then pure (.error (notInRoom targetId))
  else
    let _ ← roomState (updateRoomInfo roomId edit)
    pure (.ok [.broadcastAll announcement])

def handleMute (roomId : RoomId) (muterRole : ParticipantRole) (targetId : PeerId) :
    BackendProg (Except SfuError (List OutboundSignal)) :=
  handleHostFlag roomId muterRole targetId "only hosts can mute participants" (.mute targetId)
    (.participantMuted targetId)

def handleUnmute (roomId : RoomId) (unmuterRole : ParticipantRole) (targetId : PeerId) :
    BackendProg (Except SfuError (List OutboundSignal)) :=
  handleHostFlag roomId unmuterRole targetId "only hosts can unmute participants"
    (.unmute targetId) (.participantUnmuted targetId)

inductive CreateRoomError where
  | roomAlreadyExists
  | invalidRoomId
  | sfuUnavailable
  | sfu (e : SfuError)
  | inviteGeneration (reason : String)

def CreateRoomError.text : CreateRoomError → String
  | roomAlreadyExists => "room already exists"
  | invalidRoomId => "invalid room ID"
  | sfuUnavailable => "SFU unavailable"
  | sfu e => "SFU error: " ++ e.text
  | inviteGeneration reason => s!"invite generation failed: {reason}"

/-- The client may ask for a room type; otherwise the capacity decides. -/
def determineRoomType (clientHint : Option String) (maxParticipants : Nat) : RoomType :=
  if clientHint = some "p2p" then .p2p
  else if clientHint = some "sfu" then .sfu
  else if maxParticipants > 2 then .sfu
  else .p2p

/-- Creates the room and adds its creator; `none` is a panic. -/
def createAndEnter (config : Config) (roomId : RoomId) (peerId : PeerId) (roomType : RoomType)
    (sfuAvailable : Bool) : BackendProg (Option (Except CreateRoomError Unit)) := do
  match roomType with
  | .p2p => do
      let _ ← roomState (createRoom roomId .newP2p)
      let added ← roomState (addPeer peerId roomId)
      pure (added.map .ok)
  | .sfu =>
    if !sfuAvailable then pure (some (.error .sfuUnavailable))
    else
      match ← Op.perform (.sfuCreateRoom roomId) with
      | .error e => pure (some (.error (.sfu e)))
      | .ok handle => do
          let _ ← roomState (createRoom roomId (.newSfu config.maxParticipants handle))
          match ← roomState (addPeer peerId roomId) with
          | none => pure none
          | some _ =>
            match ← Op.perform (.sfuAddParticipant handle peerId) with
            | .error e => do
                roomState (removePeer peerId)
                pure (some (.error (.sfu e)))
            | .ok _ => pure (some (.ok ()))

def issueCreatorToken (config : Config) (roomId : RoomId) (peerId : PeerId) (displayName : String)
    (roomType : RoomType) : BackendProg (Except CreateRoomError (List OutboundSignal)) := do
  match roomType with
  | .p2p => pure (.ok [])
  | .sfu =>
    match ← Op.perform (.sign peerId config.tokenMode roomId peerId displayName) with
    | .error e => pure (.error (.sfu e))
    | .ok token => do
        let _ ← roomState (updateRoomInfo roomId (.recordTokenIssued peerId))
        pure (.ok [.toPeer peerId (.mediaToken token config.sfuUrl)])

/-- Explicit creation of a room; the creator needs no invite. -/
def handleCreateRoom (config : Config) (roomId : RoomId) (peerId : PeerId) (displayName : String)
    (profileColor roomTypeHint : Option String) (issuerId : String) (sfuAvailable : Bool) :
    BackendProg (Option (Except CreateRoomError (List OutboundSignal))) := do
  let roomId := trim roomId
  if roomId = "" then pure (some (.error .invalidRoomId))
  else
    let info ← roomState (getRoomInfo roomId)
    if info.isSome then pure (some (.error .roomAlreadyExists))
    else
      let roomType := determineRoomType roomTypeHint config.maxParticipants
      match ← createAndEnter config roomId peerId roomType sfuAvailable with
      | none => pure none
      | some (.error e) => pure (some (.error e))
      | some (.ok _) => do
          let now ← Op.perform .getNow
          match ← Op.perform (.generateInvite roomId issuerId none now) with
          | .error e => do
              roomState (removePeer peerId)
              pure (some (.error (.inviteGeneration e.text)))
          | .ok invite => do
              let _ ← roomState (updateRoomInfo roomId
                (.addParticipant (newParticipant peerId displayName none profileColor)))
              match ← issueCreatorToken config roomId peerId displayName roomType with
              | .error e => pure (some (.error e))
              | .ok tokenSignals =>
                pure (some (.ok (.toPeer peerId
                  (.roomCreated roomId peerId invite.code
                    config.inviteStore.defaultTtlSecs invite.remainingUses none)
                  :: tokenSignals)))

end Wavis
