import Wavis.WsDispatch

/-! What a joined connection may ask for. Most actions take the caller's room from the reverse
index; sub-rooms, passthrough, chat and viewer notices take it from the session instead. -/

namespace Wavis

open Concurrency InMemoryRoomState

inductive DispatchOutcome where
  | continue
  | break

def maxSdpBytes : Nat := 64 * 1024

def maxIceCandidateBytes : Nat := 2 * 1024

/-! ## Relayed signaling -/

/-- Forwards a message to the other peer of a P2P room. -/
def handleSignalingEvent (senderPeerId : PeerId) (message : SignalingMessage) :
    BackendProg Unit := do
  match ← relaySignaling senderPeerId message with
  | .relayed target message => sendTo target message
  | .noPeer error => sendTo senderPeerId error

def senderSfuHandle (senderId : PeerId) : BackendProg (Option SfuRoomHandle) := do
  match ← roomState (getRoomForPeer senderId) with
  | none => pure none
  | some roomId => do
      let info ← roomState (getRoomInfo roomId)
      if info.any (·.roomType = .sfu) then
        let info ← roomState (getRoomInfo roomId)
        pure (info.bind (·.sfuHandle))
      else pure none

def dispatchOffer (config : Config) (senderId : PeerId) (description : SessionDescription) :
    BackendProg Unit := do
  if description.sdp.utf8ByteSize > maxSdpBytes then sendError senderId "sdp too large"
  else
    match ← senderSfuHandle senderId with
    | none => handleSignalingEvent senderId (.offer description)
    | some handle =>
      if config.signalingProxy then
        match ← Op.perform (.sfuForward handle senderId) with
        | .ok answerSdp => sendTo senderId (.answer ⟨answerSdp, "answer"⟩)
        | .error e => sendError senderId ("SFU offer failed: " ++ e.text)

def dispatchIceCandidate (config : Config) (senderId : PeerId) (candidate : IceCandidate) :
    BackendProg Unit := do
  if candidate.candidate.utf8ByteSize > maxIceCandidateBytes then
    sendError senderId "ice candidate too large"
  else
    match ← senderSfuHandle senderId with
    | none => handleSignalingEvent senderId (.iceCandidate candidate)
    | some handle =>
      if config.signalingProxy then
        let _ ← Op.perform (.sfuForward handle senderId)

/-- In an SFU room answers come from the SFU; one sent by a client is ignored. -/
def dispatchAnswer (senderId : PeerId) (description : SessionDescription) :
    BackendProg Unit := do
  if description.sdp.utf8ByteSize > maxSdpBytes then sendError senderId "sdp too large"
  else
    match ← roomState (getRoomForPeer senderId) with
    | none => handleSignalingEvent senderId (.answer description)
    | some roomId => do
        let info ← roomState (getRoomInfo roomId)
        if info.any (·.roomType = .sfu) then pure ()
        else handleSignalingEvent senderId (.answer description)

/-! ## Invites and viewer tokens -/

def dispatchInviteCreate (config : Config) (senderId : PeerId) (issuerId : String)
    (maxUses : Option Nat) : BackendProg Unit := do
  match ← requireRoom senderId with
  | none => pure ()
  | some roomId => do
      let now ← Op.perform .getNow
      match ← Op.perform (.generateInvite roomId issuerId maxUses now) with
      | .ok record =>
        sendTo senderId (.inviteCreated record.code
          config.inviteStore.defaultTtlSecs record.remainingUses)
      | .error (.roomLimitReached _ _) => sendError senderId "invite limit reached for room"
      | .error (.globalLimitReached _) => sendError senderId "global invite limit reached"
      | .error .notFound => sendError senderId "invite code not found"

def dispatchInviteRevoke (session : SignalingSession) (inviteCode : String) :
    BackendProg Unit := do
  match ← Op.perform (.revokeInvite inviteCode session.roomId session.role) with
  | .ok _ => sendTo session.participantId (.inviteRevoked inviteCode)
  | .error .unauthorized => sendError session.participantId "unauthorized"
  | .error .notFound => sendError session.participantId "invite code not found"

def dispatchRequestViewerToken (config : Config) (session : SignalingSession)
    (windowId : String) : BackendProg Unit := do
  let requesterId := session.participantId
  if ← checkActionRateLimit requesterId then
    match ← requireRoom requesterId with
    | none => pure ()
    | some roomId =>
      match ← handleViewerTokenRequest config roomId requesterId
        (session.userId.map (·.text)) windowId with
      | .ok signals => dispatchSignals signals roomId
      | .error e => sendError requesterId ("viewer token request failed: " ++ e.text)

/-! ## Moderation -/

/-- A host action on a member of the caller's SFU room. -/
def dispatchHostAction (session : SignalingSession) (targetId : PeerId)
    (action : RoomId → ParticipantRole → BackendProg Unit) : BackendProg Unit := do
  let callerId := session.participantId
  if ← checkActionRateLimit callerId then
    match ← requireSfuRoom callerId with
    | none => pure ()
    | some (roomId, info) =>
      match ← resolveEffectiveRole callerId session with
      | none => pure ()
      | some role =>
        if ← requireHost callerId role then
          if ← requireTargetInRoom callerId info targetId then action roomId role

def dispatchKick (session : SignalingSession) (targetId : PeerId) : BackendProg Unit :=
  dispatchHostAction session targetId fun roomId role => do
    match ← handleKick roomId role targetId with
    | .ok signals => do
        let subRoomResult ← removeParticipantFromSubRoom roomId targetId
        dispatchSignals (signals ++ subRoomResult.signals) roomId
        scheduleSubRoomExpiry roomId subRoomResult.expiry
    | .error e => sendError session.participantId ("kick failed: " ++ e.text)

def dispatchMute (session : SignalingSession) (targetId : PeerId) : BackendProg Unit :=
  dispatchHostAction session targetId fun roomId role => do
    match ← handleMute roomId role targetId with
    | .ok signals => dispatchSignals signals roomId
    | .error e => sendError session.participantId ("mute failed: " ++ e.text)

def dispatchUnmute (session : SignalingSession) (targetId : PeerId) : BackendProg Unit :=
  dispatchHostAction session targetId fun roomId role => do
    match ← handleUnmute roomId role targetId with
    | .ok signals => dispatchSignals signals roomId
    | .error e => sendError session.participantId ("unmute failed: " ++ e.text)

/-! ## Flags and profile of the caller -/

def handleSelfFlag (senderId : PeerId) (flag : SelfFlag) (announcement : SignalingMessage) :
    BackendProg Unit := do
  if ← Op.perform (.allow .deafen) then
    match ← requireRoom senderId with
    | none => pure ()
    | some roomId => do
        let _ ← roomState (updateRoomInfo roomId (.selfFlag senderId flag))
        dispatchSignals [.broadcastAll announcement] roomId
  else sendError senderId msgActionRateLimitExceeded

def dispatchUpdateProfileColor (senderId : PeerId) (profileColor : String) :
    BackendProg Unit := do
  if ← checkActionRateLimit senderId then
    match ← requireRoom senderId with
    | none => pure ()
    | some roomId =>
      dispatchSignals [.broadcastAll (.participantColorUpdated senderId profileColor)] roomId

def dispatchUpdateUsername (senderId : PeerId) (username : String) : BackendProg Unit := do
  if ← checkActionRateLimit senderId then
    match ← requireRoom senderId with
    | none => pure ()
    | some roomId => do
        let _ ← roomState (updateRoomInfo roomId (.rename senderId username))
        dispatchSignals [.broadcastAll (.participantUsernameUpdated senderId username)] roomId

/-! ## Screen shares -/

/-- A share request under the room's lock; `missing` is its result when the room is gone. -/
def runShare (roomId : RoomId) (edit : InfoEdit) (missing : ShareResult)
    (result : RoomMembers → ShareResult) : BackendProg ShareResult := do
  match ← roomState (withRoomWrite roomId edit) with
  | none => pure missing
  | some (members, _) => pure (result members)

def handleStartShareWithType (roomId : RoomId) (senderId : PeerId) (role : ParticipantRole)
    (shareType : Option WireShareType) : BackendProg ShareResult :=
  runShare roomId (.startShare senderId role shareType) (.error (.error "not in room"))
    fun members => (members.info.startShare members.peers senderId role shareType).1

def handleStopShare (roomId : RoomId) (peerId : PeerId) (targetParticipantId : Option PeerId)
    (role : ParticipantRole) (shareTypeToStop : Option WireShareType) :
    BackendProg ShareResult := do
  let target := targetParticipantId.getD peerId
  if target ≠ peerId ∧ role ≠ .host then
    pure (.error (.error "permission denied: only host can stop another participant's share"))
  else
    runShare roomId (.stopShare target shareTypeToStop) .noop
      fun members => (members.info.stopShare members.peers target shareTypeToStop).1

def handleStopAllShares (roomId : RoomId) (role : ParticipantRole) :
    BackendProg ShareResult := do
  if role ≠ .host then pure (.error (.error "permission denied: only host can stop all shares"))
  else runShare roomId .stopAllShares .noop fun members => members.info.stopAllShares.1

def handleSetSharePermission (roomId : RoomId) (senderId : PeerId) (role : ParticipantRole)
    (permission : WireSharePermission) : BackendProg ShareResult := do
  if role ≠ .host then pure (.error (.error "unauthorized"))
  else
    runShare roomId (.setSharePermission senderId permission) (.error (.error "not in room"))
      fun members => (members.info.setSharePermission members.peers senderId permission).1

def dispatchShare (senderId : PeerId) (action : RoomId → BackendProg ShareResult) :
    BackendProg Unit := do
  match ← requireRoom senderId with
  | none => pure ()
  | some roomId =>
    match ← action roomId with
    | .ok signals => dispatchSignals signals roomId
    | .noop => pure ()
    | .error err => sendTo senderId err

def dispatchStartShare (session : SignalingSession) (shareType : Option WireShareType) :
    BackendProg Unit := do
  let senderId := session.participantId
  if ← checkActionRateLimit senderId then
    dispatchShare senderId fun roomId =>
      handleStartShareWithType roomId senderId session.role shareType

/-- Stopping a share is not answered when the rate limit is exceeded. -/
def dispatchStopShare (session : SignalingSession) (targetParticipantId : Option PeerId)
    (shareType : Option WireShareType) : BackendProg Unit := do
  let senderId := session.participantId
  if ← Op.perform (.allow .action) then
    dispatchShare senderId fun roomId =>
      handleStopShare roomId senderId targetParticipantId session.role shareType

def dispatchStopAllShares (session : SignalingSession) : BackendProg Unit := do
  if ← Op.perform (.allow .action) then
    dispatchShare session.participantId fun roomId => handleStopAllShares roomId session.role

def dispatchSetSharePermission (session : SignalingSession) (permission : WireSharePermission) :
    BackendProg Unit := do
  let senderId := session.participantId
  if ← checkActionRateLimit senderId then
    match ← requireRoom senderId with
    | none => pure ()
    | some roomId =>
      match ← resolveEffectiveRole senderId session with
      | none => pure ()
      | some role =>
        match ← handleSetSharePermission roomId senderId role permission with
        | .ok signals => dispatchSignals signals roomId
        | .noop => pure ()
        | .error err => sendTo senderId err

/-! ## Sub-rooms and passthrough -/

def withVoiceSession (peerId : PeerId) (session : SignalingSession) (refusal : String)
    (action : Uuid → BackendProg Unit) : BackendProg Unit := do
  match session.channelId with
  | none => sendError peerId refusal
  | some channelId =>
    if ← Op.perform (.allow .action) then action channelId

def requireHostRole (callerId : PeerId) (channelId userId : Uuid) : BackendProg Bool := do
  match ← getCurrentChannelRole channelId userId with
  | .ok (some role) => requireHost callerId (mapChannelRole role)
  | .ok none => do
      sendError callerId "not authorized"
      pure false
  | .error _ => do
      sendError callerId "internal error"
      pure false

def finishSubRoomAction (peerId : PeerId) (roomId : RoomId) :
    Except String SubRoomActionResult → BackendProg Unit
  | .ok result => do
      dispatchSignals result.signals roomId
      scheduleSubRoomExpiry roomId result.expiry
  | .error message => sendError peerId message

/-- A sub-room or passthrough request that any participant may make. -/
def dispatchSubRoomAction (peerId : PeerId) (session : SignalingSession) (refusal : String)
    (action : BackendProg (Except String SubRoomActionResult)) : BackendProg Unit :=
  withVoiceSession peerId session refusal fun _ => do
    let result ← action
    finishSubRoomAction peerId session.roomId result

/-- A passthrough setting, for hosts of the channel only. -/
def dispatchHostSetting (peerId : PeerId) (session : SignalingSession) (refusal : String)
    (action : Uuid → BackendProg Unit) : BackendProg Unit :=
  withVoiceSession peerId session refusal fun channelId => do
    match session.userId with
    | none => pure ()
    | some userId =>
      if ← requireHostRole peerId channelId userId then action channelId

def dispatchSetPassthroughEnabled (peerId : PeerId) (session : SignalingSession)
    (enabled : Bool) : BackendProg Unit :=
  dispatchHostSetting peerId session "set_passthrough_enabled requires a channel voice session"
    fun channelId => do
      match ← setPassthroughEnabled session.roomId channelId enabled with
      | .ok result => dispatchSignals result.signals session.roomId
      | .error message => sendError peerId message

def dispatchSetPassthroughVolume (peerId : PeerId) (session : SignalingSession)
    (volume : Nat) : BackendProg Unit :=
  dispatchHostSetting peerId session "set_passthrough_volume requires a channel voice session"
    fun _ => do
      let result ← setPassthroughVolume session.roomId volume
      dispatchSignals result.signals session.roomId

/-- A filter setting for a room that is gone is not answered. -/
def dispatchSetPassthroughFilter (peerId : PeerId) (session : SignalingSession)
    (enabled : Bool) (strength : Nat) : BackendProg Unit :=
  dispatchHostSetting peerId session "set_passthrough_filter requires a channel voice session"
    fun _ => do
      match ← setPassthroughFilter session.roomId enabled strength with
      | .ok result => dispatchSignals result.signals session.roomId
      | .error _ => pure ()

/-! ## Chat and viewers -/

def sessionDisplayName (session : SignalingSession) : BackendProg String := do
  let info ← roomState (getRoomInfo session.roomId)
  let participant := info.bind fun info =>
    info.participants.find? (·.participantId = session.participantId)
  pure (nonEmptyOr (participant.map (·.displayName)) session.participantId)

def dispatchChatSend (peerId : PeerId) (session : SignalingSession) (text : String) :
    BackendProg Unit := do
  if ← Op.perform (.allow .chat) then
    let displayName ← sessionDisplayName session
    let timestamp ← Op.perform .randomText
    let messageId ← Op.perform .randomText
    dispatchSignals [.broadcastAll (.chatMessage session.participantId
      (session.userId.map (·.text)) displayName text timestamp (some messageId))] session.roomId
  else sendError peerId "chat rate limit exceeded"

def dispatchChatHistoryRequest (peerId : PeerId) (session : SignalingSession)
    (since : Option String) : BackendProg Unit := do
  match ← Op.perform (.selectChatHistory session.channelId session.roomId since) with
  | .ok messages => sendTo peerId (.chatHistoryResponse messages)
  | .error _ => sendError peerId "failed to load chat history"

def dispatchViewerSubscribed (session : SignalingSession) (targetId : PeerId) :
    BackendProg Unit := do
  if ← Op.perform (.allow .action) then
    let peers ← roomState (getPeersInRoom session.roomId)
    if targetId ∈ peers then
      let displayName ← sessionDisplayName session
      sendTo targetId (.viewerJoined session.participantId displayName)

/-! ## The dispatch -/

def dispatchAuth (peerId : PeerId) (accessToken : String) : BackendProg Unit := do
  match ← Op.perform (.authenticate accessToken) with
  | .ok userId => do
      Op.perform (.setUser peerId userId)
      sendTo peerId (.authSuccess userId.text)
  | .error _ => sendTo peerId (.authFailed "authentication failed")

def dispatchAction (config : Config) (peerId : PeerId) (issuerId : String)
    (session : SignalingSession) (msg : SignalingMessage) : BackendProg Unit :=
  let senderId := session.participantId
  let roomId := session.roomId
  let roomsRefusal := "rooms require a channel voice session"
  let passthroughRefusal := "passthrough requires a channel voice session"
  match msg with
  | .offer description => dispatchOffer config senderId description
  | .answer description => dispatchAnswer senderId description
  | .iceCandidate candidate => dispatchIceCandidate config senderId candidate
  | .inviteCreate maxUses => dispatchInviteCreate config senderId issuerId maxUses
  | .inviteRevoke inviteCode => dispatchInviteRevoke session inviteCode
  | .requestViewerToken windowId => dispatchRequestViewerToken config session windowId
  | .kickParticipant targetId => dispatchKick session targetId
  | .muteParticipant targetId => dispatchMute session targetId
  | .unmuteParticipant targetId => dispatchUnmute session targetId
  | .selfMute => handleSelfFlag senderId .muted (.participantSelfMuted senderId)
  | .selfUnmute => handleSelfFlag senderId .unmuted (.participantSelfUnmuted senderId)
  | .selfDeafen => handleSelfFlag senderId .deafened (.participantDeafened senderId)
  | .selfUndeafen => handleSelfFlag senderId .undeafened (.participantUndeafened senderId)
  | .updateProfileColor profileColor => dispatchUpdateProfileColor senderId profileColor
  | .updateUsername username => dispatchUpdateUsername senderId username
  | .startShare shareType => dispatchStartShare session shareType
  | .stopShare targetId shareType => dispatchStopShare session targetId shareType
  | .stopAllShares => dispatchStopAllShares session
  | .setSharePermission permission => dispatchSetSharePermission session permission
  | .createSubRoom => dispatchSubRoomAction peerId session roomsRefusal (createSubRoom roomId)
  | .joinSubRoom subRoomId =>
    dispatchSubRoomAction peerId session roomsRefusal (joinSubRoom roomId subRoomId senderId)
  | .leaveSubRoom =>
    dispatchSubRoomAction peerId session roomsRefusal (leaveSubRoom roomId senderId)
  | .setPassthrough targetSubRoomId =>
    dispatchSubRoomAction peerId session passthroughRefusal
      (setPassthrough roomId senderId targetSubRoomId)
  | .clearPassthrough =>
    dispatchSubRoomAction peerId session passthroughRefusal (clearPassthrough roomId senderId)
  | .setPassthroughEnabled enabled => dispatchSetPassthroughEnabled peerId session enabled
  | .setPassthroughVolume volume => dispatchSetPassthroughVolume peerId session volume
  | .setPassthroughFilter enabled strength =>
    dispatchSetPassthroughFilter peerId session enabled strength
  | .subRoomState _ => sendError peerId "unexpected server-generated room message"
  | .subRoomCreated _ => sendError peerId "unexpected server-generated room message"
  | .subRoomJoined _ _ _ => sendError peerId "unexpected server-generated room message"
  | .subRoomLeft _ _ => sendError peerId "unexpected server-generated room message"
  | .subRoomDeleted _ => sendError peerId "unexpected server-generated room message"
  | .chatSend text => dispatchChatSend peerId session text
  | .chatHistoryRequest since => dispatchChatHistoryRequest peerId session since
  | .viewerSubscribed targetId => dispatchViewerSubscribed session targetId
  | .ping => pure ()
  -- All other messages are the server's own.
  | _ => sendError senderId "invalid message type from client"

def dispatchMessage (config : Config) (peerId : PeerId) (connection : Connection)
    (msg : SignalingMessage) : BackendProg DispatchOutcome := do
  match msg, connection.session with
  | .auth accessToken, _ => do
      dispatchAuth peerId accessToken
      pure .continue
  | .join payload, _ => do
      dispatchJoin config peerId connection payload
      pure .continue
  | .createRoom payload, _ => do
      dispatchCreateRoom config peerId connection payload
      pure .continue
  | .joinVoice payload, _ => do
      dispatchJoinVoice config peerId connection payload
      pure .continue
  | .leave, some session => do
      handleLeave session peerId
      pure .break
  | .leave, none => pure .break
  | msg, some session => do
      dispatchAction config peerId connection.issuerId session msg
      pure .continue
  | _, none => pure .continue

/-- One frame of a connection. A frame that breaks the limits of the transport closes the
connection; one that is illegal in its state is answered with an error. -/
def handleFrame (config : Config) (peerId : PeerId) (msg : SignalingMessage) :
    BackendProg Unit := do
  match ← Op.perform (.getConnection peerId) with
  | none => pure ()
  | some connection =>
    if ← Op.perform (.allow .message) then
      match validateStateTransition msg connection.session.isSome
        connection.authenticatedUserId.isSome with
      | .error reason => sendError peerId reason
      | .ok _ =>
        match ← dispatchMessage config peerId connection msg with
        | .continue => pure ()
        | .break => closeConnection peerId
    else closeConnection peerId

end Wavis
