import Wavis.Proof.Passive
import Wavis.Proof.RoomRecords

namespace Wavis

open Concurrency

def BackendCall.voiceChannel : BackendCall → Option Uuid
  | .message _ (.joinVoice payload) => Uuid.parseStr payload.channelId
  | _ => none

/-- The calls that make up the life of a channel voice session. -/
def BackendCall.isVoice : BackendCall → Bool
  | .connect _ => true
  | .message _ (.joinVoice _) => true
  | .message _ .leave => true
  | .disconnect _ => true
  | .banMember _ _ _ => true
  | _ => false

def BackendCall.isBan : BackendCall → Bool
  | .banMember _ _ _ => true
  | _ => false

def BackendPool.VoiceUsage (pool : BackendPool) (act : BackendAct) : Prop :=
  BackendPool.Usage pool act ∧ match act with
    | .start call => call.isVoice = true
    | .step _ _ => True

instance (pool : BackendPool) (act : BackendAct) : Decidable (pool.VoiceUsage act) := by
  refine act.casesOn ?_ ?_ <;> intros <;> dsimp only [BackendPool.VoiceUsage] <;> infer_instance

/-- What the holder of the map's lock has found: the channel's room, that this room is gone, or that
the channel has no room. -/
inductive LockPhase where
  | free
  | held (channelId : Uuid) (roomId : RoomId)
  | gone (channelId : Uuid) (roomId : RoomId)
  | vacant (channelId : Uuid)

/-- The thread has looked a room up, has just added a peer to it, or is about to remove one. -/
inductive Custody where
  | idle
  | target (roomId : RoomId) (arc : ArcId)
  | pushed (peerId : PeerId) (roomId : RoomId)
  | unlinked (peerId : PeerId) (roomId : RoomId)
  | found (peerId : PeerId) (roomId : RoomId) (arc : ArcId)

/-- What is known of the connection: it has a session of some channel, it has none, or its peer has
been added to a room and it is about to get a session. -/
inductive ConnPhase where
  | unknown
  | joined (channelId : Option Uuid)
  | fresh
  | linked

structure VoicePhase where
  lock : LockPhase
  custody : Custody
  conn : ConnPhase

namespace LockPhase

def next : LockPhase → (o : Op) → o.Resp → LockPhase
  | free, .lockActiveRoom channelId, none => vacant channelId
  | free, .lockActiveRoom channelId, some roomId => held channelId roomId
  | held channelId roomId, .room (.readRoom roomId'), none =>
    if roomId' = roomId then gone channelId roomId else held channelId roomId
  | gone channelId _, .evictActiveRoom _, _ => vacant channelId
  | _, .publishActiveRoom _ _, _ => free
  | _, .unlockActiveRoom, _ => free
  | φ, _, _ => φ

end LockPhase

namespace Custody

def next : Custody → (o : Op) → o.Resp → Custody
  | unlinked peerId roomId, .room (.getRoom _), some arc => found peerId roomId arc
  | _, .room (.getRoom roomId), some arc => target roomId arc
  | _, .room (.getRoom _), none => idle
  | target roomId _, .room (.tryPush _ peerId _), .ok _ => pushed peerId roomId
  | _, .room (.linkPeer _ _), _ => idle
  | _, .room (.unlinkPeer peerId), some roomId => unlinked peerId roomId
  | _, .room (.unlinkPeer _), none => idle
  | _, .room (.retainPeers _ _), _ => idle
  | φ, _, _ => φ

/-- The thread is neither adding nor removing a peer. -/
def isIdle : Custody → Bool
  | idle => true
  | target _ _ => true
  | _ => false

def mayLookup (roomId : RoomId) : Custody → Prop
  | idle => True
  | target _ _ => True
  | unlinked _ roomId' => roomId' = roomId
  | _ => False

end Custody

namespace ConnPhase

def next : ConnPhase → (o : Op) → o.Resp → ConnPhase
  | _, .getConnection _, none => unknown
  | _, .getConnection _, some connection =>
    match connection.session with
    | none => fresh
    | some session => joined session.channelId
  | _, .room (.linkPeer _ _), _ => linked
  | _, .setSession _ session, _ => joined session.channelId
  | _, .closeConnection _, _ => unknown
  | φ, _, _ => φ

end ConnPhase

namespace VoicePhase

def initial : VoicePhase := ⟨.free, .idle, .unknown⟩

def next (φ : VoicePhase) (o : Op) (answer : o.Resp) : VoicePhase :=
  ⟨φ.lock.next o answer, φ.custody.next o answer, φ.conn.next o answer⟩

def May (call : BackendCall) (φ : VoicePhase) : Op → Prop
  | .lockActiveRoom _ => φ.lock = .free
  | .evictActiveRoom channelId => ∃ roomId, φ.lock = .gone channelId roomId
  | .publishActiveRoom channelId _ => φ.lock = .vacant channelId
  | .unlockActiveRoom => φ.lock ≠ .free
  | .room (.createRoom _ info) =>
    (∃ channelId, φ.lock = .vacant channelId) ∧ info.participants = []
  | .room (.ensureRoom _) => False
  | .room (.getRoom roomId) => φ.custody.mayLookup roomId
  | .room (.tryPush arc peerId _) =>
    (∃ roomId, φ.custody = .target roomId arc) ∧ call.peer = some peerId
      ∧ call.voiceChannel.isSome = true ∧ φ.conn = .fresh
  | .room (.pushUnlessMoving _ _ _) => False
  | .room (.push _ _) => False
  | .room (.retainPeers arc peerId) => ∃ roomId, φ.custody = .found peerId roomId arc
  | .room (.linkPeer peerId roomId) => φ.custody = .pushed peerId roomId ∧ φ.conn = .fresh
  | .room (.unlinkPeer _) => φ.custody.isIdle = true
  | .room (.updateObject _ edit) => edit.adds = none
  | .commitBan _ _ _ => call.isBan = true
  | .setSession peerId session => call.peer = some peerId
      ∧ (φ.conn = .linked ∧ session.channelId = call.voiceChannel
        ∨ φ.conn = .joined session.channelId)
  | .closeConnection peerId => call.peer = some peerId
  | .getConnection peerId => call.peer = some peerId
  | .setUser _ _ => False
  | _ => True

/-- The thread holds nothing, and this is known of its connection. -/
structure Calm (conn : ConnPhase) (φ : VoicePhase) : Prop where
  lock : φ.lock = .free
  conn : φ.conn = conn
  custody : φ.custody.isIdle = true

end VoicePhase

def Op.calm : Op → Bool
  | .lockActiveRoom _ => false
  | .evictActiveRoom _ => false
  | .publishActiveRoom _ _ => false
  | .unlockActiveRoom => false
  | .room (.createRoom _ _) => false
  | .room (.ensureRoom _) => false
  | .room (.tryPush _ _ _) => false
  | .room (.pushUnlessMoving _ _ _) => false
  | .room (.push _ _) => false
  | .room (.retainPeers _ _) => false
  | .room (.linkPeer _ _) => false
  | .room (.unlinkPeer _) => false
  | .room (.updateObject _ edit) => edit.adds.isNone
  | .commitBan _ _ _ => false
  | .setSession _ _ => false
  | .closeConnection _ => false
  | .getConnection _ => false
  | .setUser _ _ => false
  | _ => true

def Op.silent : Op → Bool
  | .lockActiveRoom _ => false
  | .evictActiveRoom _ => false
  | .publishActiveRoom _ _ => false
  | .unlockActiveRoom => false
  | .room (.readRoom _) => false
  | .room (.getRoom _) => false
  | .room (.tryPush _ _ _) => false
  | .room (.retainPeers _ _) => false
  | .room (.linkPeer _ _) => false
  | .room (.unlinkPeer _) => false
  | .setSession _ _ => false
  | .closeConnection _ => false
  | .getConnection _ => false
  | _ => true

def voiceProtocol : Protocol Op.Resp BackendCall.Ret VoicePhase where
  init _ := .initial
  next := VoicePhase.next
  may := VoicePhase.May
  post _ _ _ := True

namespace VoicePhase

section

variable (φ : VoicePhase) (peerId : PeerId) (roomId : RoomId) {channelId : Uuid} (answer : Unit)
  (arc : ArcId)

theorem next_silent {o : Op} (h : o.silent = true) (answer : o.Resp) : φ.next o answer = φ := by
  obtain ⟨lock, custody, conn⟩ := φ
  cases o with
  | room ro =>
    cases ro <;> first
      | (cases lock <;> cases custody <;> rfl)
      | cases h
  | _ =>
    first
    | (cases lock <;> cases custody <;> rfl)
    | cases h

theorem next_unlinkPeer_none :
    φ.next (.room (.unlinkPeer peerId)) none = { φ with custody := .idle } := by
  obtain ⟨lock, custody, conn⟩ := φ
  cases lock <;> cases custody <;> rfl

theorem next_unlinkPeer_some :
    φ.next (.room (.unlinkPeer peerId)) (some roomId)
      = { φ with custody := .unlinked peerId roomId } := by
  obtain ⟨lock, custody, conn⟩ := φ
  cases lock <;> cases custody <;> rfl

theorem next_retainPeers (isEmpty : Bool) :
    φ.next (.room (.retainPeers arc peerId)) isEmpty = { φ with custody := .idle } := by
  obtain ⟨lock, custody, conn⟩ := φ
  cases lock <;> cases custody <;> rfl

theorem next_getRoom_none :
    φ.next (.room (.getRoom roomId)) none = { φ with custody := .idle } := by
  obtain ⟨lock, custody, conn⟩ := φ
  cases lock <;> cases custody <;> rfl

theorem next_getRoom_some (h : φ.custody.isIdle = true) :
    φ.next (.room (.getRoom roomId)) (some arc)
      = { φ with custody := .target roomId arc } := by
  obtain ⟨lock, custody, conn⟩ := φ
  cases lock <;> cases custody <;> first | rfl | cases h

theorem next_linkPeer :
    φ.next (.room (.linkPeer peerId roomId)) answer
      = { φ with custody := .idle, conn := .linked } := by
  obtain ⟨lock, custody, conn⟩ := φ
  cases lock <;> cases custody <;> rfl

theorem next_lockActiveRoom (answer : Option RoomId) (h : φ.lock = .free) :
    φ.next (.lockActiveRoom channelId) answer
      = { φ with lock := match answer with
            | none => .vacant channelId
            | some roomId => .held channelId roomId } := by
  obtain ⟨lock, custody, conn⟩ := φ
  cases h
  cases answer <;> cases custody <;> rfl

theorem next_unlockActiveRoom : φ.next .unlockActiveRoom answer = { φ with lock := .free } := by
  obtain ⟨lock, custody, conn⟩ := φ
  cases lock <;> cases custody <;> rfl

theorem next_publishActiveRoom (channelId : Uuid) (answer : Unit) :
    φ.next (.publishActiveRoom channelId roomId) answer = { φ with lock := .free } := by
  obtain ⟨lock, custody, conn⟩ := φ
  cases lock <;> cases custody <;> rfl

theorem next_evictActiveRoom (h : φ.lock = .gone channelId roomId) :
    φ.next (.evictActiveRoom channelId) answer = { φ with lock := .vacant channelId } := by
  obtain ⟨lock, custody, conn⟩ := φ
  cases h
  cases custody <;> rfl

theorem next_readRoom_some (members : RoomMembers) :
    φ.next (.room (.readRoom roomId)) (some members) = φ := by
  obtain ⟨lock, custody, conn⟩ := φ
  cases lock <;> cases custody <;> rfl

theorem next_readRoom_none (h : φ.lock = .held channelId roomId) :
    φ.next (.room (.readRoom roomId)) none = { φ with lock := .gone channelId roomId } := by
  obtain ⟨lock, custody, conn⟩ := φ
  cases h
  cases custody <;> simp [VoicePhase.next, LockPhase.next] <;> exact ⟨rfl, rfl⟩

theorem next_setSession (session : SignalingSession) (answer : Unit) :
    φ.next (.setSession peerId session) answer
      = { φ with conn := .joined session.channelId } := by
  obtain ⟨lock, custody, conn⟩ := φ
  cases lock <;> cases custody <;> rfl

theorem next_closeConnection :
    φ.next (.closeConnection peerId) answer = { φ with conn := .unknown } := by
  obtain ⟨lock, custody, conn⟩ := φ
  cases lock <;> cases custody <;> rfl

theorem next_getConnection (answer : Option Connection) :
    φ.next (.getConnection peerId) answer
      = { φ with conn := match answer with
            | none => .unknown
            | some connection =>
              match connection.session with
              | none => .fresh
              | some session => .joined session.channelId } := by
  obtain ⟨lock, custody, conn⟩ := φ
  cases answer <;> cases lock <;> cases custody <;> rfl

end

theorem initial_calm : Calm .unknown initial := ⟨rfl, rfl, rfl⟩

theorem Calm.stays {call : BackendCall} {conn : ConnPhase} {φ : VoicePhase} {o : Op}
    (h : Calm conn φ) (ho : o.calm = true) :
    May call φ o ∧ ∀ answer, Calm conn (next φ o answer) := by
  obtain ⟨lock, custody, conn'⟩ := φ
  obtain ⟨rfl, rfl, hidle⟩ := h
  cases o with
  | room ro =>
    cases ro with
    | getRoom roomId =>
      refine ⟨?_, ?_⟩
      · cases custody <;> trivial
      · intro answer
        cases answer <;> cases custody <;> first | exact ⟨rfl, rfl, rfl⟩ | cases hidle
    | updateObject arc edit =>
      refine ⟨Option.isNone_iff_eq_none.mp ho, fun answer => ⟨rfl, rfl, ?_⟩⟩
      cases custody <;> first | rfl | cases hidle
    | _ =>
      first
      | (refine ⟨trivial, fun answer => ⟨rfl, rfl, ?_⟩⟩
         cases custody <;> first | rfl | cases hidle)
      | cases ho
  | _ =>
    first
    | (refine ⟨trivial, fun answer => ⟨rfl, rfl, ?_⟩⟩
       cases custody <;> first | rfl | cases hidle)
    | cases ho

end VoicePhase

theorem InfoEdit.adds_of_passive {edit : InfoEdit} (h : edit.passive = true) :
    edit.adds = none := by
  cases edit <;> first | rfl | cases h

theorem Op.calm_of_passive {o : Op} (h : o.passive = true) : o.calm = true := by
  cases o with
  | room ro =>
    cases ro with
    | updateObject arc edit => exact Option.isNone_iff_eq_none.mpr (InfoEdit.adds_of_passive h)
    | _ => first | rfl | cases h
  | _ => first | rfl | cases h

end Wavis
