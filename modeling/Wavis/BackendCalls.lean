import Wavis.ChannelRoutes

/-! Every connection handles its frames one after the other, beside all other connections, the
requests of the HTTP interface, the refresh task and the timers. -/

namespace Wavis

open Concurrency InMemoryRoomState

/-- Tokens are renewed when three quarters of their lifetime have passed. -/
def refreshThresholdSecs (config : Config) : Nat := config.refreshMode.ttlSecs * 3 / 4

def refreshToken (config : Config) (roomId : RoomId) (participants : List ParticipantInfo)
    (peerId : PeerId) : BackendProg Unit := do
  let participant := participants.find? (·.participantId = peerId)
  let displayName := (participant.map (·.displayName)).getD peerId
  match ← Op.perform (.sign peerId config.refreshMode roomId
    (livekitIdentity peerId (participant.bind (·.userId))) displayName) with
  | .error _ => pure ()
  | .ok token => do
      sendTo peerId (.mediaToken token config.sfuUrl)
      let _ ← roomState (updateRoomInfo roomId (.recordTokenIssued peerId))

def refreshRoom (config : Config) :
    RoomId × SfuRoomHandle × List PeerId → BackendProg Unit
  | (roomId, _, peers) => do
      if config.signalingProxy then Prog.each (refreshToken config roomId []) peers
      else
        let info ← roomState (getRoomInfo roomId)
        Prog.each (refreshToken config roomId ((info.map (·.participants)).getD [])) peers

def refreshTick (config : Config) : BackendProg Unit := do
  let rooms ← roomState (RoomOp.perform (.roomsNeedingTokenRefresh (refreshThresholdSecs config)))
  Prog.each (refreshRoom config) rooms

def runSubRoomExpiry (roomId : RoomId) (expiry : PendingSubRoomExpiry) : BackendProg Unit := do
  let result ← expireSubRoom roomId expiry.subRoomId expiry.deleteAt
  dispatchSignals result.signals roomId

inductive BackendCall where
  /-- A socket is opened; the token of the handshake may have identified its user. -/
  | connect (userId : Option Uuid)
  | message (peerId : PeerId) (msg : SignalingMessage)
  | disconnect (peerId : PeerId)
  | banMember (channelId requesterUserId targetUserId : Uuid)
  | refreshTokens
  | expireSubRoom (roomId : RoomId) (expiry : PendingSubRoomExpiry)

namespace BackendCall

@[reducible] def Ret : BackendCall → Type
  | connect _ => PeerId
  | message _ _ => Unit
  | disconnect _ => Unit
  | banMember _ _ _ => Except ChannelError Unit
  | refreshTokens => Unit
  | expireSubRoom _ _ => Unit

def body (config : Config) : (call : BackendCall) → BackendProg call.Ret
  | connect userId => Op.perform (.accept userId)
  | message peerId msg => handleFrame config peerId msg
  | disconnect peerId => closeConnection peerId
  | banMember channelId requesterUserId targetUserId =>
    banMemberRoute channelId requesterUserId targetUserId
  | refreshTokens => refreshTick config
  | expireSubRoom roomId expiry => runSubRoomExpiry roomId expiry

def peer : BackendCall → Option PeerId
  | message peerId _ => some peerId
  | disconnect peerId => some peerId
  | _ => none

def isRefresh : BackendCall → Bool
  | refreshTokens => true
  | _ => false

end BackendCall

abbrev BackendThread := Thread Op.Resp BackendCall.Ret

abbrev BackendPool := Pool Op.Resp BackendCall.Ret World

abbrev BackendAct := Act BackendCall Env

def backend (config : Config) : System Op.Resp BackendCall.Ret Env World where
  exec := Op.exec
  body := BackendCall.body config

def BackendPool.initial (config : Config) (db : ChannelDb) : BackendPool :=
  ⟨World.initial config db, []⟩

/-- Whether two calls belong to one task, which makes them one after the other. -/
def BackendCall.sameTask (call call' : BackendCall) : Bool :=
  (call.peer.isSome && call.peer == call'.peer) || (call.isRefresh && call'.isRefresh)

/-- How tasks make calls: a task makes its next call when the last one has returned, and a timer
fires when its time has come. -/
def BackendPool.Usage (pool : BackendPool) : BackendAct → Prop
  | .start call =>
    (∀ thread ∈ pool.threads, thread.active = true → call.sameTask thread.call = false)
      ∧ match call with
        | .expireSubRoom roomId expiry =>
          (roomId, expiry) ∈ pool.shared.expiries ∧ expiry.deleteAt ≤ pool.shared.clock
        | _ => True
  | .step _ _ => True

instance BackendPool.decidableUsage (pool : BackendPool) (act : BackendAct) :
    Decidable (pool.Usage act) := by
  unfold BackendPool.Usage
  split
  · refine @instDecidableAnd _ _ inferInstance ?_
    split <;> infer_instance
  · infer_instance

/-- A server without invites whose media runs over LiveKit. -/
def openServer : Config where
  jwtSecret := "a-secret-of-at-least-thirty-two-bytes"
  jwtIssuer := "wavis-backend"
  tokenTtlSecs := defaultTokenTtlSecs
  livekitApiKey := some "key"
  livekitApiSecret := some "a-secret-of-at-least-thirty-two-bytes"
  signalingProxy := false
  sfuUrl := "ws://localhost:7880"
  maxRoomParticipants := 6
  requireInviteCode := false
  ec2Controller := false
  inviteStore := {}
  iceConfig := none

def ChannelDb.empty : ChannelDb := ⟨∅, ∅, ∅⟩

/-- The database of a single channel whose members are not banned. -/
def ChannelDb.ofMembers (channelId : Uuid) (members : List (Uuid × ChannelRole)) : ChannelDb :=
  let memberships : HashMap (Uuid × Uuid) ChannelMembership :=
    members.foldl (fun rows member => rows.insert (channelId, member.1) ⟨member.2, none⟩) ∅
  ⟨memberships, (∅ : HashMap Uuid Bool).insert channelId false, ∅⟩

def lobby : Uuid := ⟨"00000000-0000-4000-8000-000000000000", by decide⟩

def alice : Uuid := ⟨"00000000-0000-4000-8000-00000000000a", by decide⟩

def bob : Uuid := ⟨"00000000-0000-4000-8000-00000000000b", by decide⟩

def carol : Uuid := ⟨"00000000-0000-4000-8000-00000000000c", by decide⟩

def lobbyDb : ChannelDb := .ofMembers lobby [(alice, .owner), (bob, .member)]

def joinLobby : SignalingMessage :=
  .joinVoice { channelId := lobby.text, displayName := none, profileColor := none,
               supportsSubRooms := none }

def opens (thread : Nat) (userId : Option Uuid) : List BackendAct :=
  [.start (.connect userId), .step thread {}]

end Wavis
