import Wavis.Relay

/-! Joins that consume an invite while they hold the lock of their room, beside all calls that
change rooms or the invite store. -/

namespace Wavis

open Concurrency InMemoryRoomState

/-- What the theorems speak of; no code reads it. -/
inductive InviteEvent where
  | opened (roomId : RoomId) (arc : ArcId)
  | generated (record : InviteRecord)
  | revoked (code : String)
  | inserted (peerId : PeerId) (code : String) (arc : ArcId) (time : Instant)

structure InviteWorld where
  roomState : InMemoryRoomState
  inviteStore : InviteStore
  log : List InviteEvent

inductive InviteOp where
  | room (o : RoomOp JoinCheck)
  | generate (roomId : RoomId) (issuerId : String) (maxUses : Option Nat) (now : Instant)
  | revoke (code : String)
  | revokeAuthorized (code : String) (roomId : RoomId) (role : ParticipantRole)
  | sweepExpired (now : Instant)
  | removeRoomInvites (roomId : RoomId)

@[reducible] def InviteOp.Resp : InviteOp → Type
  | room o => o.Resp
  | generate _ _ _ _ => Except InviteError InviteRecord
  | revoke _ => Except InviteError Unit
  | revokeAuthorized _ _ _ => Except InviteRevokeError Unit
  | sweepExpired _ => Nat
  | removeRoomInvites _ => Unit

/-- The time of a section, and the code that is drawn in it. -/
structure InviteEnv where
  now : Instant := 0
  code : String := ""

def RoomOp.inviteEvents (now : Instant) (before after : InMemoryRoomState) :
    RoomOp JoinCheck → List InviteEvent
  | createRoom roomId _ =>
    if (before.rooms.lookup roomId).isNone then [.opened roomId before.nextArc] else []
  | ensureRoom roomId =>
    if (before.rooms.lookup roomId).isNone then [.opened roomId before.nextArc] else []
  | tryPush arc peerId (some (code, _)) =>
    if peerId ∉ (before.heap arc).peers ∧ peerId ∈ (after.heap arc).peers then
      [.inserted peerId code arc now]
    else []
  | _ => []

/-- A revocation that has found the code goes into the log. -/
def revokedEvents {ε : Type} (code : String) : Except ε Unit → List InviteEvent
  | .ok _ => [.revoked code]
  | .error _ => []

def InviteOp.exec (env : InviteEnv) (w : InviteWorld) : (o : InviteOp) → o.Resp × InviteWorld
  | room o =>
    let (answer, roomState, inviteStore) :=
      o.exec (JoinCheck.run env.now) env.now (w.roomState, w.inviteStore)
    (answer, ⟨roomState, inviteStore, w.log ++ o.inviteEvents env.now w.roomState roomState⟩)
  | generate roomId issuerId maxUses now =>
    let (answer, inviteStore) := w.inviteStore.generate roomId issuerId maxUses now env.code
    (answer, ⟨w.roomState, inviteStore, w.log ++ (answer.toOption.map .generated).toList⟩)
  | revoke code =>
    let (answer, inviteStore) := w.inviteStore.revoke code
    (answer, ⟨w.roomState, inviteStore, w.log ++ revokedEvents code answer⟩)
  | revokeAuthorized code roomId role =>
    let (answer, inviteStore) := w.inviteStore.revokeAuthorized code roomId role
    (answer, ⟨w.roomState, inviteStore, w.log ++ revokedEvents code answer⟩)
  | sweepExpired now =>
    let (count, inviteStore) := w.inviteStore.sweepExpired now
    (count, ⟨w.roomState, inviteStore, w.log⟩)
  | removeRoomInvites roomId =>
    ((), ⟨w.roomState, w.inviteStore.removeRoomInvites roomId, w.log⟩)

abbrev InviteProg (α : Type) := Prog InviteOp.Resp α

def InviteOp.perform (o : InviteOp) : InviteProg o.Resp := Prog.perform o

inductive InviteCall where
  | createRoom (roomId : RoomId) (info : RoomInfo)
  /-- A join; without a code its closure accepts everybody. -/
  | tryAddPeerWith (peerId : PeerId) (roomId : RoomId) (inviteCode : Option String)
  | addPeer (peerId : PeerId) (roomId : RoomId)
  | removePeer (peerId : PeerId)
  | removePeerPreserveRoom (peerId : PeerId)
  | removeEmptyRoom (roomId : RoomId)
  | generate (roomId : RoomId) (issuerId : String) (maxUses : Option Nat) (now : Instant)
  | revoke (code : String)
  | revokeAuthorized (code : String) (roomId : RoomId) (role : ParticipantRole)
  | sweepExpired (now : Instant)
  | removeRoomInvites (roomId : RoomId)

namespace InviteCall

@[reducible] def Ret : InviteCall → Type
  | createRoom _ _ => Bool
  | tryAddPeerWith _ _ _ => Except JoinRejectionReason Nat
  | addPeer _ _ => Option Unit
  | removePeer _ => Unit
  | removePeerPreserveRoom _ => Unit
  | removeEmptyRoom _ => Bool
  | generate _ _ _ _ => Except InviteError InviteRecord
  | revoke _ => Except InviteError Unit
  | revokeAuthorized _ _ _ => Except InviteRevokeError Unit
  | sweepExpired _ => Nat
  | removeRoomInvites _ => Unit

def ofRooms {α : Type} (program : RoomProg JoinCheck α) : InviteProg α :=
  program.lift InviteOp.room fun _ answer => answer

def body : (call : InviteCall) → InviteProg call.Ret
  | createRoom roomId info => ofRooms (InMemoryRoomState.createRoom roomId info)
  | tryAddPeerWith peerId roomId inviteCode =>
    ofRooms (InMemoryRoomState.tryAddPeerWith peerId roomId (joinCheck roomId inviteCode))
  | addPeer peerId roomId => ofRooms (InMemoryRoomState.addPeer peerId roomId)
  | removePeer peerId => ofRooms (InMemoryRoomState.removePeer peerId)
  | removePeerPreserveRoom peerId => ofRooms (InMemoryRoomState.removePeerPreserveRoom peerId)
  | removeEmptyRoom roomId => ofRooms (InMemoryRoomState.removeEmptyRoom roomId)
  | generate roomId issuerId maxUses now => InviteOp.perform (.generate roomId issuerId maxUses now)
  | revoke code => InviteOp.perform (.revoke code)
  | revokeAuthorized code roomId role => InviteOp.perform (.revokeAuthorized code roomId role)
  | sweepExpired now => InviteOp.perform (.sweepExpired now)
  | removeRoomInvites roomId => InviteOp.perform (.removeRoomInvites roomId)

end InviteCall

abbrev InvitePool := Pool InviteOp.Resp InviteCall.Ret InviteWorld

def inviteSystem : System InviteOp.Resp InviteCall.Ret InviteEnv InviteWorld where
  exec o env w := some (o.exec env w)
  body := InviteCall.body

def InvitePool.initial (config : InviteStoreConfig) : InvitePool :=
  ⟨⟨.new, .new config, []⟩, []⟩

/-- The invite that was generated last under the code, with the events since then. -/
def tenure (code : String) (log : List InviteEvent) : Option (InviteRecord × List InviteEvent) :=
  log.foldl (fun last event =>
    match event with
    | .generated record =>
      if record.code = code then some (record, [])
      else last.map fun (generated, since) => (generated, since ++ [event])
    | _ => last.map fun (generated, since) => (generated, since ++ [event])) none

def InviteEvent.insertsWith (code : String) : InviteEvent → Bool
  | inserted _ code' _ _ => code' == code
  | _ => false

def InviteEvent.revokes (code : String) : InviteEvent → Bool
  | revoked code' => code' == code
  | _ => false

def insertions (code : String) (events : List InviteEvent) : Nat :=
  events.countP (·.insertsWith code)

end Wavis
