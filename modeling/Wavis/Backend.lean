import Wavis.Invite
import Wavis.Jwt
import Wavis.RoomState

/-! All stores the handlers share, and the steps they perform on them: a lock-protected section, a
call of the SFU bridge, a database statement, a message handed to a connection. What the code cannot
determine is chosen by the environment of a step: failures, verdicts of the rate limiters, random
texts, and how much time has passed.

The SFU is its rooms and the identities in each of them. Its rooms are named by the room ids, as
LiveKit names them. A participant is in no room before its client connects: the bridge only checks
it. -/

namespace Wavis

open Concurrency

/-! ## Configuration -/

structure Config where
  jwtSecret : String
  jwtIssuer : String
  tokenTtlSecs : Nat
  livekitApiKey : Option String
  livekitApiSecret : Option String
  /-- A development SFU whose signaling the backend forwards. -/
  signalingProxy : Bool
  sfuUrl : String
  maxRoomParticipants : Nat
  requireInviteCode : Bool
  ec2Controller : Bool
  inviteStore : InviteStoreConfig
  iceConfig : Option (PeerId → Instant → IceConfigPayload)

namespace Config

def maxParticipants (config : Config) : Nat := max 3 (min config.maxRoomParticipants 6)

def tokenMode (config : Config) : TokenMode :=
  if config.signalingProxy then .custom config.jwtSecret config.jwtIssuer config.tokenTtlSecs
  else
    match config.livekitApiKey, config.livekitApiSecret with
    | some apiKey, some apiSecret => .livekit apiKey apiSecret livekitTokenTtlSecs
    | _, _ => .custom config.jwtSecret config.jwtIssuer config.tokenTtlSecs

/-- The refresh task reads its credentials itself, and has no fallback for missing LiveKit keys. -/
def refreshMode (config : Config) : TokenMode :=
  if config.signalingProxy then .custom config.jwtSecret config.jwtIssuer defaultTokenTtlSecs
  else
    .livekit (config.livekitApiKey.getD "") (config.livekitApiSecret.getD "") livekitTokenTtlSecs

end Config

/-! ## Sessions and the channel database -/

/-- The context a connection keeps from its successful join until it is closed. -/
structure SignalingSession where
  participantId : PeerId
  roomId : RoomId
  role : ParticipantRole
  userId : Option Uuid
  channelId : Option Uuid
  leaveHandled : Bool := false
  cleanupComplete : Bool := false

structure Connection where
  issuerId : String
  authenticatedUserId : Option Uuid
  session : Option SignalingSession

inductive ChannelRole where
  | owner
  | admin
  | member
  deriving DecidableEq

structure ChannelMembership where
  role : ChannelRole
  bannedAt : Option Instant
  deriving DecidableEq

/-- The committed rows that voice reads, and the rows an open transaction has updated. -/
structure ChannelDb where
  memberships : HashMap (Uuid × Uuid) ChannelMembership
  passthroughEnabled : HashMap Uuid Bool
  locked : HashSet (Uuid × Uuid)

inductive SfuHealth where
  | available
  | unavailable
  | starting (since : Instant)

/-! ## History -/

def SignalingMessage.token : SignalingMessage → Option SignedToken
  | mediaToken token _ => some token
  | viewerToken _ token _ _ => some token
  | _ => none

/-- What has been signed, delivered and removed so far, for the theorems to speak of; no code reads
it. An event about a room carries the object the map held for the room at that time; a delivered
message is about the room of the token it carries. -/
inductive Event where
  | signed (peerId : PeerId) (token : SignedToken) (room : Option ArcId) (time : Instant)
  | delivered (peerId : PeerId) (msg : SignalingMessage) (room : Option ArcId) (time : Instant)
  | removed (peerId : PeerId) (roomId : RoomId) (room : Option ArcId) (time : Instant)

/-! ## The shared state -/

structure World where
  roomState : InMemoryRoomState
  inviteStore : InviteStore
  activeRoomMap : HashMap Uuid RoomId
  /-- A voice join holds the write lock of the active-room map. -/
  activeRoomLocked : Bool
  sfu : HashMap SfuRoomHandle (HashSet String)
  db : ChannelDb
  connections : HashMap PeerId Connection
  /-- The connections that still have an outbound channel. -/
  senders : HashSet PeerId
  nextPeerId : Nat
  expiries : List (RoomId × PendingSubRoomExpiry)
  clock : Instant
  history : List Event

/-- A server that has just started, on a given database. -/
def World.initial (config : Config) (db : ChannelDb) : World where
  roomState := .new
  inviteStore := .new config.inviteStore
  activeRoomMap := ∅
  activeRoomLocked := false
  sfu := ∅
  db
  connections := ∅
  senders := ∅
  nextPeerId := 1
  expiries := []
  clock := 0
  history := []

/-- The closure of a join: consume one use of an invite, if one is required. -/
abbrev JoinCheck := Option (String × RoomId)

def JoinCheck.run (now : Instant) (check : JoinCheck) (store : InviteStore) :
    Except JoinRejectionReason Unit × InviteStore :=
  match check with
  | some (code, roomId) => store.validateAndConsume code roomId now
  | none => (.ok (), store)

inductive Limiter where
  | message
  | action
  | deafen
  | chat
  | globalJoin
  | join
  | channelRequest

inductive Op where
  | room (o : RoomOp JoinCheck)
  | readActiveRoom (channelId : Uuid)
  | lockActiveRoom (channelId : Uuid)
  | evictActiveRoom (channelId : Uuid)
  | publishActiveRoom (channelId : Uuid) (roomId : RoomId)
  | unlockActiveRoom
  | removeActiveRoomIf (channelId : Uuid) (roomId : RoomId)
  | sfuCreateRoom (roomId : RoomId)
  | sfuDestroyRoom (handle : SfuRoomHandle)
  | sfuAddParticipant (handle : SfuRoomHandle) (identity : String)
  | sfuRemoveParticipant (handle : SfuRoomHandle) (identity : String)
  | sfuForward (handle : SfuRoomHandle) (peerId : PeerId)
  | generateInvite (roomId : RoomId) (issuerId : String) (maxUses : Option Nat) (now : Instant)
  | validateInvite (code : String) (roomId : RoomId) (now : Instant)
  | revokeInvite (code : String) (roomId : RoomId) (role : ParticipantRole)
  | removeRoomInvites (roomId : RoomId)
  | selectVoiceMembership (channelId userId : Uuid)
  | selectMembership (channelId userId : Uuid)
  | updateBan (channelId userId : Uuid)
  | commitBan (channelId userId : Uuid) (bannedAt : Instant)
  | updatePassthrough (channelId : Uuid) (enabled : Bool)
  | selectChatHistory (channelId : Option Uuid) (roomId : RoomId) (since : Option String)
  | sign (peerId : PeerId) (mode : TokenMode) (roomId : RoomId) (identity displayName : String)
  | signViewer (peerId : PeerId) (mode : TokenMode) (roomId : RoomId) (identity : String)
  | send (peerId : PeerId) (msg : SignalingMessage)
  | unregister (peerId : PeerId)
  | accept (userId : Option Uuid)
  | getConnection (peerId : PeerId)
  | setUser (peerId : PeerId) (userId : Uuid)
  | setSession (peerId : PeerId) (session : SignalingSession)
  | closeConnection (peerId : PeerId)
  | allow (limiter : Limiter)
  | readHealth
  | authenticate (accessToken : String)
  | randomText
  | getNow
  | scheduleExpiry (roomId : RoomId) (expiry : PendingSubRoomExpiry)
  | removed (peerId : PeerId) (roomId : RoomId)

@[reducible] def Op.Resp : Op → Type
  | room o => o.Resp
  | readActiveRoom _ => Option RoomId
  | lockActiveRoom _ => Option RoomId
  | evictActiveRoom _ => Unit
  | publishActiveRoom _ _ => Unit
  | unlockActiveRoom => Unit
  | removeActiveRoomIf _ _ => Unit
  | sfuCreateRoom _ => Except SfuError SfuRoomHandle
  | sfuDestroyRoom _ => Except SfuError Unit
  | sfuAddParticipant _ _ => Except SfuError Unit
  | sfuRemoveParticipant _ _ => Except SfuError Unit
  | sfuForward _ _ => Except SfuError String
  | generateInvite _ _ _ _ => Except InviteError InviteRecord
  | validateInvite _ _ _ => Except JoinRejectionReason Unit
  | revokeInvite _ _ _ => Except InviteRevokeError Unit
  | removeRoomInvites _ => Unit
  | selectVoiceMembership _ _ => Except String (Option (ChannelMembership × Bool))
  | selectMembership _ _ => Except String (Option ChannelMembership)
  | updateBan _ _ => Except String Unit
  | commitBan _ _ _ => Except String Unit
  | updatePassthrough _ _ => Except String Bool
  | selectChatHistory _ _ _ => Except String (List ChatHistoryMessagePayload)
  | sign _ _ _ _ _ => Except SfuError SignedToken
  | signViewer _ _ _ _ => Except SfuError SignedToken
  | send _ _ => Unit
  | unregister _ => Unit
  | accept _ => PeerId
  | getConnection _ => Option Connection
  | setUser _ _ => Unit
  | setSession _ _ => Unit
  | closeConnection _ => Unit
  | allow _ => Bool
  | readHealth => SfuHealth
  | authenticate _ => Except String Uuid
  | randomText => String
  | getNow => Instant
  | scheduleExpiry _ _ => Unit
  | removed _ _ => Unit

structure Env where
  elapsed : Duration := 0
  sfuFault : Option SfuError := none
  clockFault : Option String := none
  encodeFault : Option String := none
  dbFault : Option String := none
  allowed : Bool := true
  health : SfuHealth := .available
  text : String := ""
  userId : Except String Uuid := .error "token expired"
  chatHistory : List ChatHistoryMessagePayload := []

namespace World

def tick (w : World) (elapsed : Duration) : World := { w with clock := w.clock + elapsed }

def record (w : World) (event : Event) : World := { w with history := w.history ++ [event] }

def roomArc (w : World) (roomId : RoomId) : Option ArcId := w.roomState.rooms.lookup roomId

def registered (w : World) (handle : SfuRoomHandle) : HashSet String :=
  (w.sfu.lookup handle).getD ∅

def unregisterIdentity (w : World) (handle : SfuRoomHandle) (identity : String) : World :=
  match w.sfu.lookup handle with
  | none => w
  | some identities => { w with sfu := w.sfu.insert handle (identities.erase identity) }

def setConnection (w : World) (peerId : PeerId) (change : Connection → Connection) : World :=
  match w.connections.lookup peerId with
  | none => w
  | some connection => { w with connections := w.connections.insert peerId (change connection) }

def deliver (w : World) (peerId : PeerId) (msg : SignalingMessage) : World :=
  if w.senders.contains peerId then
    let room := msg.token.bind fun token => w.roomArc token.roomId
    w.record (.delivered peerId msg room w.clock)
  else w

def signed (w : World) (peerId : PeerId) :
    Except SfuError SignedToken → Except SfuError SignedToken × World
  | .error e => (.error e, w)
  | .ok token => (.ok token, w.record (.signed peerId token (w.roomArc token.roomId) w.clock))

end World

def signFor (env : Env) (mode : TokenMode) (peerId : PeerId) (roomId : RoomId)
    (identity displayName : String) (nowSecs : Nat) : Except SfuError SignedToken :=
  match mode with
  | .custom jwtSecret issuer ttlSecs =>
    signMediaToken roomId peerId jwtSecret issuer ttlSecs nowSecs env.clockFault env.encodeFault
  | .livekit apiKey apiSecret ttlSecs =>
    signLivekitToken roomId identity displayName apiKey apiSecret ttlSecs nowSecs env.encodeFault

def signViewerFor (env : Env) (mode : TokenMode) (roomId : RoomId) (identity : String)
    (nowSecs : Nat) : Except SfuError SignedToken :=
  match mode with
  | .custom _ _ _ => .error (.tokenError "viewer tokens require LiveKit mode")
  | .livekit apiKey apiSecret ttlSecs =>
    signLivekitViewerToken roomId identity apiKey apiSecret ttlSecs nowSecs env.encodeFault

open World in
/-- What a step does after the time of its environment has passed. The active-room map is the only
lock that is held across steps, so only the steps that need it can block. -/
def Op.run (env : Env) (w : World) : (o : Op) → Option (o.Resp × World)
  | room o =>
    let (answer, roomState, inviteStore) :=
      o.exec (JoinCheck.run w.clock) w.clock (w.roomState, w.inviteStore)
    some (answer, { w with roomState, inviteStore })
  | readActiveRoom channelId =>
    if w.activeRoomLocked then none else some (w.activeRoomMap.lookup channelId, w)
  | lockActiveRoom channelId =>
    if w.activeRoomLocked then none
    else some (w.activeRoomMap.lookup channelId, { w with activeRoomLocked := true })
  | evictActiveRoom channelId =>
    some ((), { w with activeRoomMap := w.activeRoomMap.erase channelId })
  | publishActiveRoom channelId roomId =>
    some ((), { w with
      activeRoomMap := w.activeRoomMap.insert channelId roomId
      activeRoomLocked := false })
  | unlockActiveRoom => some ((), { w with activeRoomLocked := false })
  | removeActiveRoomIf channelId roomId =>
    if w.activeRoomLocked then none
    else if w.activeRoomMap.lookup channelId = some roomId then
      some ((), { w with activeRoomMap := w.activeRoomMap.erase channelId })
    else some ((), w)
  | sfuCreateRoom roomId =>
    match env.sfuFault with
    | some e => some (.error e, w)
    | none => some (.ok roomId, { w with sfu := w.sfu.insert roomId (w.registered roomId) })
  | sfuDestroyRoom handle =>
    match env.sfuFault with
    | some e => some (.error e, w)
    | none => some (.ok (), { w with sfu := w.sfu.erase handle })
  | sfuAddParticipant _ _ =>
    match env.sfuFault with
    | some e => some (.error e, w)
    | none => some (.ok (), w)
  | sfuRemoveParticipant handle identity =>
    match env.sfuFault with
    | some e => some (.error e, w)
    | none => some (.ok (), w.unregisterIdentity handle identity)
  | sfuForward _ _ =>
    match env.sfuFault with
    | some e => some (.error e, w)
    | none => some (.ok env.text, w)
  | generateInvite roomId issuerId maxUses now =>
    let (answer, inviteStore) := w.inviteStore.generate roomId issuerId maxUses now env.text
    some (answer, { w with inviteStore })
  | validateInvite code roomId now => some (w.inviteStore.validate code roomId now, w)
  | revokeInvite code roomId role =>
    let (answer, inviteStore) := w.inviteStore.revokeAuthorized code roomId role
    some (answer, { w with inviteStore })
  | removeRoomInvites roomId =>
    some ((), { w with inviteStore := w.inviteStore.removeRoomInvites roomId })
  | selectVoiceMembership channelId userId =>
    match env.dbFault with
    | some e => some (.error e, w)
    | none =>
      match w.db.memberships.lookup (channelId, userId),
        w.db.passthroughEnabled.lookup channelId with
      | some membership, some passthrough => some (.ok (some (membership, passthrough)), w)
      | _, _ => some (.ok none, w)
  | selectMembership channelId userId =>
    match env.dbFault with
    | some e => some (.error e, w)
    | none => some (.ok (w.db.memberships.lookup (channelId, userId)), w)
  | updateBan channelId userId =>
    -- A row that an open transaction has updated is locked until that transaction ends.
    if w.db.locked.contains (channelId, userId) then none
    else
      match env.dbFault, w.db.memberships.lookup (channelId, userId) with
      | some e, _ => some (.error e, w)
      | none, none => some (.error "no rows returned", w)
      | none, some _ => some (.ok (), { w with
          db := { w.db with locked := w.db.locked.insert (channelId, userId) () } })
  | commitBan channelId userId bannedAt =>
    let unlocked := w.db.locked.erase (channelId, userId)
    match env.dbFault, w.db.memberships.lookup (channelId, userId) with
    | some e, _ => some (.error e, { w with db := { w.db with locked := unlocked } })
    | none, none => some (.ok (), { w with db := { w.db with locked := unlocked } })
    | none, some membership =>
      let banned := { membership with bannedAt := some bannedAt }
      some (.ok (), { w with db := { w.db with
        memberships := w.db.memberships.insert (channelId, userId) banned
        locked := unlocked } })
  | updatePassthrough channelId enabled =>
    match env.dbFault with
    | some e => some (.error e, w)
    | none =>
      match w.db.passthroughEnabled.lookup channelId with
      | none => some (.ok false, w)
      | some _ => some (.ok true, { w with db := { w.db with
          passthroughEnabled := w.db.passthroughEnabled.insert channelId enabled } })
  | selectChatHistory _ _ _ =>
    match env.dbFault with
    | some e => some (.error e, w)
    | none => some (.ok env.chatHistory, w)
  | sign peerId mode roomId identity displayName =>
    some (w.signed peerId
      (signFor env mode peerId roomId identity displayName (Duration.asSecs w.clock)))
  | signViewer peerId mode roomId identity =>
    some (w.signed peerId (signViewerFor env mode roomId identity (Duration.asSecs w.clock)))
  | send peerId msg => some ((), w.deliver peerId msg)
  | unregister peerId => some ((), { w with senders := w.senders.erase peerId })
  | accept userId =>
    let peerId := s!"peer-{w.nextPeerId}"
    let connection : Connection := ⟨env.text, userId, none⟩
    some (peerId, { w with
      connections := w.connections.insert peerId connection
      senders := w.senders.insert peerId ()
      nextPeerId := w.nextPeerId + 1 })
  | getConnection peerId => some (w.connections.lookup peerId, w)
  | setUser peerId userId =>
    some ((), w.setConnection peerId fun connection =>
      { connection with authenticatedUserId := some userId })
  | setSession peerId session =>
    some ((), w.setConnection peerId fun connection => { connection with session := some session })
  | closeConnection peerId => some ((), { w with connections := w.connections.erase peerId })
  | allow _ => some (env.allowed, w)
  | readHealth => some (env.health, w)
  | authenticate _ => some (env.userId, w)
  | randomText => some (env.text, w)
  | getNow => some (w.clock, w)
  | scheduleExpiry roomId expiry =>
    some ((), { w with expiries := w.expiries ++ [(roomId, expiry)] })
  | removed peerId roomId =>
    some ((), w.record (.removed peerId roomId (w.roomArc roomId) w.clock))

def Op.exec (o : Op) (env : Env) (w : World) : Option (o.Resp × World) :=
  o.run env (w.tick env.elapsed)

abbrev BackendProg (α : Type) := Prog Op.Resp α

def Op.perform (o : Op) : BackendProg o.Resp := Prog.perform o

def roomState {α : Type} (program : RoomProg JoinCheck α) : BackendProg α :=
  program.lift Op.room fun _ answer => answer

end Wavis
