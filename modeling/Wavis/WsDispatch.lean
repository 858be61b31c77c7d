import Wavis.WsSession

namespace Wavis

open Concurrency InMemoryRoomState

def msgActionRateLimitExceeded : String := "action rate limit exceeded"

def coldStartEstimatedWaitSecs : Nat := 120

/-- Which messages are legal before and after the join. -/
def validateStateTransition (msg : SignalingMessage) (joined authenticated : Bool) :
    Except String Unit :=
  match msg with
  | .ping => .ok ()
  | .auth _ =>
    if joined then .error "auth not permitted after join"
    else if authenticated then .error "already authenticated"
    else .ok ()
  | .join _ => if joined then .error "already joined" else .ok ()
  | .createRoom _ => if joined then .error "already joined" else .ok ()
  | .joinVoice _ =>
    if joined then .error "already joined"
    else if authenticated then .ok ()
    else .error "not authenticated"
  | .chatHistoryRequest _ => if joined then .ok () else .error "not in a room"
  | .selfDeafen => if joined then .ok () else .error "not in a room"
  | .selfUndeafen => if joined then .ok () else .error "not in a room"
  | _ => if joined then .ok () else .error "not authenticated"

def checkActionRateLimit (callerId : PeerId) : BackendProg Bool := do
  if ← Op.perform (.allow .action) then pure true
  else
    sendError callerId msgActionRateLimitExceeded
    pure false

def requireRoom (callerId : PeerId) : BackendProg (Option RoomId) := do
  match ← roomState (getRoomForPeer callerId) with
  | some roomId => pure (some roomId)
  | none => do
      sendError callerId "not in a room"
      pure none

def requireSfuRoom (callerId : PeerId) : BackendProg (Option (RoomId × RoomInfo)) := do
  match ← requireRoom callerId with
  | none => pure none
  | some roomId => do
      let info ← roomState (getRoomInfo roomId)
      match info.filter (·.roomType = .sfu) with
      | some info => pure (some (roomId, info))
      | none => do
          sendError callerId "action not supported in P2P mode"
          pure none

/-- The role of a channel session is read again from the database, so a demotion takes effect at
once; a legacy session keeps the role of its join. -/
def resolveEffectiveRole (callerId : PeerId) (session : SignalingSession) :
    BackendProg (Option ParticipantRole) := do
  match session.channelId, session.userId with
  | some channelId, some userId =>
    match ← getCurrentChannelRole channelId userId with
    | .ok (some role) => pure (some (mapChannelRole role))
    | .ok none => do
        sendError callerId "not authorized"
        pure none
    | .error _ => do
        sendError callerId "internal error"
        pure none
  | _, _ => pure (some session.role)

def requireHost (callerId : PeerId) (role : ParticipantRole) : BackendProg Bool := do
  if role = .host then pure true
  else
    sendError callerId "unauthorized"
    pure false

def requireTargetInRoom (callerId : PeerId) (info : RoomInfo) (targetId : PeerId) :
    BackendProg Bool := do
  if info.participants.any (·.participantId = targetId) then pure true
  else
    sendError callerId "target not in room"
    pure false

/-- TURN credentials for the joiner, in the message that tells it that it has joined. -/
def injectTurnCredentials (config : Config) (peerId : PeerId) (now : Instant)
    (signals : List OutboundSignal) : List OutboundSignal :=
  match config.iceConfig with
  | none => signals
  | some iceConfig => signals.map fun signal =>
    match signal with
    | ⟨.peer target, .joined payload⟩ =>
      if target = peerId then
        ⟨.peer target, .joined { payload with iceConfig := some (iceConfig peerId now) }⟩
      else signal
    | ⟨target, .roomCreated roomId peer code expires uses _⟩ =>
      ⟨target, .roomCreated roomId peer code expires uses (some (iceConfig peerId now))⟩
    | _ => signal

/-- The first joiner of a legacy room is its host. -/
def legacyRole (roomId : RoomId) : BackendProg ParticipantRole := do
  let info ← roomState (getRoomInfo roomId)
  pure (if info.any (·.participants.length = 1) then .host else .guest)

/-- A legacy join has succeeded: the signals go out and the connection gets its session. -/
def enterSession (config : Config) (peerId : PeerId) (connection : Connection) (roomId : RoomId)
    (signals : List OutboundSignal) : BackendProg Unit := do
  let now ← Op.perform .getNow
  dispatchSignals (injectTurnCredentials config peerId now signals) roomId
  let role ← legacyRole roomId
  Op.perform (.setSession peerId
    { participantId := peerId
      roomId
      role
      userId := connection.authenticatedUserId
      channelId := none })

def isSfuAvailable : BackendProg Bool := do
  match ← Op.perform .readHealth with
  | .available => pure true
  | _ => pure false

/-- The invite checks that precede a join; the error is what the client gets. -/
def admitJoin (config : Config) (roomId : RoomId) (inviteCode : Option String) :
    BackendProg (Except SignalingMessage (Option String)) := do
  if !config.requireInviteCode then pure (.ok none)
  else
    let now ← Op.perform .getNow
    match inviteCode.filter (· ≠ "") with
    | none => pure (.error (.joinRejected .inviteRequired))
    | some code =>
      if !(← Op.perform (.allow .globalJoin)) then
        pure (.error (.error "server busy, try again later"))
      else if !(← Op.perform (.allow .join)) then pure (.error (.joinRejected .rateLimited))
      else
        match ← Op.perform (.validateInvite code roomId now) with
        | .error reason => pure (.error (.joinRejected reason))
        | .ok _ => pure (.ok (some code))

/-- An optional text, or a default when it is absent or empty. -/
def nonEmptyOr (text : Option String) (default : String) : String :=
  (text.filter (· ≠ "")).getD default

def dispatchJoin (config : Config) (peerId : PeerId) (connection : Connection)
    (payload : JoinPayload) : BackendProg Unit := do
  let roomId := trim payload.roomId
  if roomId = "" then sendError peerId "invalid room ID"
  else
    match ← admitJoin config roomId payload.inviteCode with
    | .error refusal => sendTo peerId refusal
    | .ok inviteCode =>
      match determineRoomType payload.roomType config.maxParticipants with
      | .p2p =>
        match ← handleP2pJoin roomId peerId inviteCode with
        | .joined signals => enterSession config peerId connection roomId signals
        | .roomFull => sendTo peerId (.joinRejected .roomFull)
        | .inviteRejected reason => sendTo peerId (.joinRejected reason)
      | .sfu =>
        if !(← isSfuAvailable) then sendError peerId "SFU unavailable"
        else
          match ← handleSfuJoin config roomId peerId (nonEmptyOr payload.displayName peerId)
            payload.profileColor inviteCode with
          | .ok signals => enterSession config peerId connection roomId signals
          | .error .roomFull => sendTo peerId (.joinRejected .roomFull)
          | .error .inviteExhausted => sendTo peerId (.joinRejected .inviteExhausted)
          | .error e => sendError peerId ("join failed: " ++ e.text)

/-- The task of the connection dies in a panic; nothing is cleaned up. -/
def abortConnection (peerId : PeerId) : BackendProg Unit := do
  Op.perform (.unregister peerId)
  Op.perform (.closeConnection peerId)

def dispatchCreateRoom (config : Config) (peerId : PeerId) (connection : Connection)
    (payload : CreateRoomPayload) : BackendProg Unit := do
  let sfuAvailable ← isSfuAvailable
  match ← handleCreateRoom config payload.roomId peerId (nonEmptyOr payload.displayName peerId)
    payload.profileColor payload.roomType connection.issuerId sfuAvailable with
  | none => abortConnection peerId
  | some (.error e) => sendError peerId e.text
  | some (.ok signals) => do
      let now ← Op.perform .getNow
      let roomId := trim payload.roomId
      Op.perform (.setSession peerId
        { participantId := peerId
          roomId
          role := .host
          userId := connection.authenticatedUserId
          channelId := none })
      dispatchSignals (injectTurnCredentials config peerId now signals) roomId

/-- Why a voice join has to wait for the SFU, or cannot be served at all. -/
def coldStart (config : Config) : BackendProg (Option SignalingMessage) := do
  match ← Op.perform .readHealth with
  | .available => pure none
  | .starting since => do
      let now ← Op.perform .getNow
      pure (some (.sfuColdStarting
        (max (coldStartEstimatedWaitSecs - Duration.asSecs (now - since)) 15)))
  | .unavailable =>
    if config.ec2Controller then pure (some (.sfuColdStarting coldStartEstimatedWaitSecs))
    else pure (some (.error "SFU unavailable"))

/-- The session of the user that a voice join has replaced is told so and cut off. -/
def displaceSession : Option PeerId → BackendProg Unit
  | none => pure ()
  | some evictedId => do
      sendTo evictedId (.sessionDisplaced "another session connected")
      Op.perform (.unregister evictedId)

def finishVoiceJoin (config : Config) (peerId : PeerId) (userId : Uuid)
    (result : VoiceJoinResult) : BackendProg Unit := do
  let now ← Op.perform .getNow
  Op.perform (.setSession peerId
    { participantId := peerId
      roomId := result.roomId
      role := result.participantRole
      userId := some userId
      channelId := some result.channelId })
  dispatchSignals (injectTurnCredentials config peerId now result.signals) result.roomId
  scheduleSubRoomExpiry result.roomId result.subRoomExpiry
  displaceSession result.evictedPeerId

def voiceJoinRejection : VoiceJoinError → JoinRejectionReason
  | .roomFull => .roomFull
  | _ => .notAuthorized

def dispatchJoinVoice (config : Config) (peerId : PeerId) (connection : Connection)
    (payload : JoinVoicePayload) : BackendProg Unit := do
  match connection.authenticatedUserId with
  | none => pure ()
  | some userId =>
    match ← coldStart config with
    | some refusal => sendTo peerId refusal
    | none =>
      if !(← Op.perform (.allow .globalJoin)) then
        sendError peerId "server busy, try again later"
      else if !(← Op.perform (.allow .join)) then
        sendTo peerId (.joinRejected .rateLimited)
      else
        match ← joinVoice config payload.channelId
          { userId, peerId
            displayName := (payload.displayName.filter (trim · ≠ "")).getD peerId
            profileColor := payload.profileColor
            supportsSubRooms := payload.supportsSubRooms = some true } with
        | .ok result => finishVoiceJoin config peerId userId result
        | .error e => sendTo peerId (.joinRejected (voiceJoinRejection e))

end Wavis
