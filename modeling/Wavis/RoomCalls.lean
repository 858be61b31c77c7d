import Wavis.RoomState

/-! The calls that change the membership of rooms, as a system whose runs interleave their sections.
-/

namespace Wavis

open Concurrency

variable {F κ : Type}

inductive RoomCall (F : Type) where
  | createRoom (roomId : RoomId) (info : RoomInfo)
  | tryAddPeerWith (peerId : PeerId) (roomId : RoomId) (f : F)
  | addPeer (peerId : PeerId) (roomId : RoomId)
  | removePeer (peerId : PeerId)
  | removePeerPreserveRoom (peerId : PeerId)
  | removeEmptyRoom (roomId : RoomId)

namespace RoomCall

@[reducible] def Ret : RoomCall F → Type
  | createRoom _ _ => Bool
  | tryAddPeerWith _ _ _ => Except JoinRejectionReason Nat
  | addPeer _ _ => Option Unit
  | removePeer _ => Unit
  | removePeerPreserveRoom _ => Unit
  | removeEmptyRoom _ => Bool

open InMemoryRoomState in
def body : (call : RoomCall F) → RoomProg F call.Ret
  | createRoom roomId info => InMemoryRoomState.createRoom roomId info
  | tryAddPeerWith peerId roomId f => InMemoryRoomState.tryAddPeerWith peerId roomId f
  | addPeer peerId roomId => InMemoryRoomState.addPeer peerId roomId
  | removePeer peerId => InMemoryRoomState.removePeer peerId
  | removePeerPreserveRoom peerId => InMemoryRoomState.removePeerPreserveRoom peerId
  | removeEmptyRoom roomId => InMemoryRoomState.removeEmptyRoom roomId

def peer : RoomCall F → Option PeerId
  | createRoom _ _ => none
  | tryAddPeerWith peerId _ _ => some peerId
  | addPeer peerId _ => some peerId
  | removePeer peerId => some peerId
  | removePeerPreserveRoom peerId => some peerId
  | removeEmptyRoom _ => none

def target : RoomCall F → Option RoomId
  | tryAddPeerWith _ roomId _ => some roomId
  | addPeer _ roomId => some roomId
  | _ => none

/-- Where the peer is once the call has returned a value, if it was at `place` before. A refused
join and a panic leave it where it was. -/
def place : (call : RoomCall F) → call.Ret → Option RoomId → Option RoomId
  | createRoom _ _, _, place => place
  | tryAddPeerWith _ roomId _, .ok _, _ => some roomId
  | tryAddPeerWith _ _ _, .error _, place => place
  | addPeer _ roomId, some _, _ => some roomId
  | addPeer _ _, none, place => place
  | removePeer _, _, _ => none
  | removePeerPreserveRoom _, _, _ => none
  | removeEmptyRoom _, _, place => place

end RoomCall

abbrev RoomThread (F : Type) := Thread (@RoomOp.Resp F) (@RoomCall.Ret F)

abbrev RoomPool (F κ : Type) := Pool (@RoomOp.Resp F) (@RoomCall.Ret F) (InMemoryRoomState × κ)

abbrev RoomAct (F : Type) := Act (RoomCall F) Instant

/-- The environment of a section is the time at which it runs. -/
def roomSystem (run : F → κ → Except JoinRejectionReason Unit × κ) :
    System (@RoomOp.Resp F) (@RoomCall.Ret F) Instant (InMemoryRoomState × κ) where
  exec o now state := some (o.exec run now state)
  body := RoomCall.body

def RoomPool.initial (k : κ) : RoomPool F κ := ⟨(.new, k), []⟩

/-- Where the peer is after a thread, if it was at `place` before its call. -/
def RoomThread.moves (peerId : PeerId) (place : Option RoomId) (thread : RoomThread F) :
    Option RoomId :=
  match thread with
  | ⟨call, _, .ret value⟩ => if call.peer = some peerId then call.place value place else place
  | ⟨_, _, .op _ _⟩ => place

/-- Where the completed calls have put the peer, in the order in which they were made. -/
def lastPlace (threads : List (RoomThread F)) (peerId : PeerId) : Option RoomId :=
  threads.foldl (RoomThread.moves peerId) none

def InMemoryRoomState.Absent (state : InMemoryRoomState) (peerId : PeerId) : Prop :=
  state.peerToRoom.lookup peerId = none
    ∧ ∀ entry ∈ state.rooms.entries, peerId ∉ (state.heap entry.2).peers

instance (state : InMemoryRoomState) (peerId : PeerId) : Decidable (state.Absent peerId) :=
  inferInstanceAs (Decidable (_ ∧ _))

/-- How the backend uses the room state: calls for one peer do not overlap, and a peer is passed to
`tryAddPeerWith` only while it is in no room. -/
def RoomPool.Usage (pool : RoomPool F κ) : RoomAct F → Prop
  | .start call =>
    (∀ thread ∈ pool.threads, thread.active = true →
      call.peer = none ∨ thread.call.peer ≠ call.peer)
      ∧ match call with
        | .tryAddPeerWith peerId _ _ => pool.shared.1.Absent peerId
        | _ => True
  | .step _ _ => True

instance RoomPool.decidableUsage (pool : RoomPool F κ) (act : RoomAct F) :
    Decidable (pool.Usage act) := by
  unfold RoomPool.Usage
  split
  · refine @instDecidableAnd _ _ inferInstance ?_
    split <;> infer_instance
  · infer_instance

/-- The object a section adds a new peer to. -/
def RoomOp.addsTo (run : F → κ → Except JoinRejectionReason Unit × κ) :
    RoomOp F → InMemoryRoomState × κ → Option ArcId
  | tryPush arc peerId f, (state, k) =>
    let members := state.heap arc
    if peerId ∈ members.peers ∨ members.peers.length ≥ members.info.maxParticipants then none
    else
      match (run f k).1 with
      | .error _ => none
      | .ok () => some arc
  | pushUnlessMoving arc peerId roomId, (state, _) =>
    if peerId ∈ (state.heap arc).peers then none
    else
      match state.peerToRoom.lookup peerId with
      | some old => if old ≠ roomId then none else some arc
      | none => some arc
  | push arc peerId, (state, _) =>
    if peerId ∈ (state.heap arc).peers then none else some arc
  | _, _ => none

def RoomOp.isRetain : RoomOp F → Bool
  | retainPeers _ _ => true
  | _ => false

/-- The section does not act on what an earlier section of its call saw and another call has changed
since: a room is taken out of the map only while it is empty, a peer is added only to the object
that the map still holds for the room, and a peer that `addPeer` has taken out of its old room still
finds the new one. -/
def RoomOp.Current (run : F → κ → Except JoinRejectionReason Unit × κ)
    (state : InMemoryRoomState × κ) (call : RoomCall F) (trace : List ((o : RoomOp F) × o.Resp))
    (o : RoomOp F) : Prop :=
  (match o with
    | removeRoom roomId => ∀ members ∈ state.1.find roomId, members.peers = []
    | getRoom roomId =>
      trace.any (fun event => event.1.isRetain) = true → (state.1.rooms.lookup roomId).isSome
    | _ => True)
    ∧ ∀ arc ∈ o.addsTo run state, ∀ roomId ∈ call.target, state.1.rooms.lookup roomId = some arc

instance (run : F → κ → Except JoinRejectionReason Unit × κ) (state : InMemoryRoomState × κ)
    (call : RoomCall F) (trace : List ((o : RoomOp F) × o.Resp)) (o : RoomOp F) :
    Decidable (o.Current run state call trace) := by
  unfold RoomOp.Current
  refine @instDecidableAnd _ _ ?_ inferInstance
  cases o <;> infer_instance

def RoomPool.Current (run : F → κ → Except JoinRejectionReason Unit × κ) (pool : RoomPool F κ) :
    RoomAct F → Prop
  | .start _ => True
  | .step i _ =>
    match pool.threads[i]? with
    | some ⟨call, trace, .op o _⟩ => o.Current run pool.shared call trace
    | _ => True

instance (run : F → κ → Except JoinRejectionReason Unit × κ) (pool : RoomPool F κ)
    (act : RoomAct F) : Decidable (pool.Current run act) := by
  unfold RoomPool.Current
  split
  · infer_instance
  · split <;> infer_instance

/-- The two indexes agree with each other and with the calls that have returned. -/
structure RoomPool.Consistent (pool : RoomPool F κ) : Prop where
  index : ∀ peerId roomId, pool.shared.1.peerToRoom.lookup peerId = some roomId
    ↔ ∃ members, pool.shared.1.find roomId = some members ∧ peerId ∈ members.peers
  nodup : ∀ roomId members, pool.shared.1.find roomId = some members → members.peers.Nodup
  oneRoom : ∀ peerId roomId roomId' members members',
    pool.shared.1.find roomId = some members → pool.shared.1.find roomId' = some members' →
    peerId ∈ members.peers → peerId ∈ members'.peers → roomId = roomId'
  notLost : ∀ peerId, pool.shared.1.peerToRoom.lookup peerId = lastPlace pool.threads peerId

end Wavis
