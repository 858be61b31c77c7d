import Wavis.RoomCalls

namespace Wavis

open Concurrency

variable {F κ : Type} (peerId : PeerId) (roomId : RoomId)

/-- How far a call has brought its peer. -/
inductive IndexPhase where
  | settled
  | holding (arc : ArcId)
  | moving (old : RoomId)
  | movingFrom (old : RoomId) (arc : ArcId)
  | left (old : RoomId)
  | leftHolding (old : RoomId) (arc : ArcId)
  | pushed
  | arrived
  | unlinked (old : RoomId)
  | unlinkedFrom (old : RoomId) (arc : ArcId)
  | out
  | missing

namespace IndexPhase

def next (φ : IndexPhase) : (o : RoomOp F) → o.Resp → IndexPhase
  | .getRoom _, none =>
    match φ with
    | moving _ => missing
    | left _ => missing
    | unlinked _ => missing
    | φ => φ
  | .getRoom _, some arc =>
    match φ with
    | settled => holding arc
    | moving old => movingFrom old arc
    | left old => leftHolding old arc
    | unlinked old => unlinkedFrom old arc
    | φ => φ
  | .tryPush _ _ _, .ok _ => pushed
  | .tryPush _ _ _, .error _ => settled
  | .pushUnlessMoving _ _ _, none => pushed
  | .pushUnlessMoving _ _ _, some old => moving old
  | .push _ _, _ => pushed
  | .retainPeers _ _, _ =>
    match φ with
    | movingFrom old _ => left old
    | _ => out
  | .linkPeer _ _, _ => arrived
  | .unlinkPeer _, none => out
  | .unlinkPeer _, some old => unlinked old
  | _, _ => φ

inductive May : RoomCall F → IndexPhase → RoomOp F → Prop
  | createRoom {roomId : RoomId} {info : RoomInfo} :
      May (.createRoom roomId info) settled (.createRoom roomId info)
  | checkEmpty {roomId : RoomId} : May (.removeEmptyRoom roomId) settled (.checkEmpty roomId)
  | removeEmpty {roomId : RoomId} : May (.removeEmptyRoom roomId) settled (.removeRoom roomId)
  | tryLookup {peerId : PeerId} {roomId : RoomId} {f : F} :
      May (.tryAddPeerWith peerId roomId f) settled (.getRoom roomId)
  | tryPush {peerId : PeerId} {roomId : RoomId} {f : F} {arc : ArcId} :
      May (.tryAddPeerWith peerId roomId f) (holding arc) (.tryPush arc peerId f)
  | tryLink {peerId : PeerId} {roomId : RoomId} {f : F} :
      May (.tryAddPeerWith peerId roomId f) pushed (.linkPeer peerId roomId)
  | ensure {peerId : PeerId} {roomId : RoomId} :
      May (.addPeer peerId roomId) settled (.ensureRoom roomId)
  | lookup {peerId : PeerId} {roomId : RoomId} :
      May (.addPeer peerId roomId) settled (.getRoom roomId)
  | pushUnlessMoving {peerId : PeerId} {roomId : RoomId} {arc : ArcId} :
      May (.addPeer peerId roomId) (holding arc) (.pushUnlessMoving arc peerId roomId)
  | lookupOld {peerId : PeerId} {roomId old : RoomId} :
      May (.addPeer peerId roomId) (moving old) (.getRoom old)
  | retainOld {peerId : PeerId} {roomId old : RoomId} {arc : ArcId} :
      May (.addPeer peerId roomId) (movingFrom old arc) (.retainPeers arc peerId)
  | removeOld {peerId : PeerId} {roomId old : RoomId} :
      May (.addPeer peerId roomId) (left old) (.removeRoom old)
  | lookupAgain {peerId : PeerId} {roomId old : RoomId} :
      May (.addPeer peerId roomId) (left old) (.getRoom roomId)
  | push {peerId : PeerId} {roomId old : RoomId} {arc : ArcId} :
      May (.addPeer peerId roomId) (leftHolding old arc) (.push arc peerId)
  | link {peerId : PeerId} {roomId : RoomId} :
      May (.addPeer peerId roomId) pushed (.linkPeer peerId roomId)
  | unlink {peerId : PeerId} {call : RoomCall F}
      (hcall : call = .removePeer peerId ∨ call = .removePeerPreserveRoom peerId) :
      May call settled (.unlinkPeer peerId)
  | lookupUnlinked {peerId : PeerId} {call : RoomCall F} {old : RoomId}
      (hcall : call = .removePeer peerId ∨ call = .removePeerPreserveRoom peerId) :
      May call (unlinked old) (.getRoom old)
  | retain {peerId : PeerId} {call : RoomCall F} {old : RoomId} {arc : ArcId}
      (hcall : call = .removePeer peerId ∨ call = .removePeerPreserveRoom peerId) :
      May call (unlinkedFrom old arc) (.retainPeers arc peerId)
  | removeLeft {peerId : PeerId} {roomId : RoomId} :
      May (.removePeer peerId) out (.removeRoom roomId)
  /-- A room the call needs was not in the map: no run of `Current` sections gets here. -/
  | missing {peerId : PeerId} {roomId : RoomId} {o : RoomOp F} :
      May (.addPeer peerId roomId) missing o

/-- The phases in which a call returns, and with which value. -/
def Post : (call : RoomCall F) → IndexPhase → call.Ret → Prop
  | .tryAddPeerWith _ _ _, φ, .ok _ => φ = arrived
  | .tryAddPeerWith _ _ _, φ, .error _ => φ = settled
  | .addPeer _ _, φ, some _ => φ = arrived
  | .addPeer _ _, φ, none => φ = settled ∨ φ = missing
  | .removePeer _, φ, _ => φ = out ∨ φ = missing
  | .removePeerPreserveRoom _, φ, _ => φ = out ∨ φ = missing
  | .createRoom _ _, _, _ => True
  | .removeEmptyRoom _, _, _ => True

end IndexPhase

def indexProtocol : Protocol (@RoomOp.Resp F) (@RoomCall.Ret F) IndexPhase where
  init _ := .settled
  next := IndexPhase.next
  may := IndexPhase.May
  post := IndexPhase.Post

open IndexPhase InMemoryRoomState

theorem removePeerFromRoomOnly_obeys (old : RoomId) :
    (removePeerFromRoomOnly peerId old : RoomProg F Unit).Obeys next
      (May (.addPeer peerId roomId)) (fun φ _ => φ = left old ∨ φ = missing) (moving old) := by
  refine ⟨.lookupOld, ?_⟩
  rintro (_ | arc)
  · exact .inr rfl
  refine ⟨.retainOld, ?_⟩
  rintro (_ | _)
  · exact .inl rfl
  · exact ⟨.removeOld, fun _ => .inl rfl⟩

theorem removePeerInternal_obeys {peerId : PeerId} (removeEmptyRoom : Bool) {call : RoomCall F}
    (hcall : call = .removePeer peerId ∧ removeEmptyRoom = true
      ∨ call = .removePeerPreserveRoom peerId ∧ removeEmptyRoom = false) :
    (removePeerInternal peerId removeEmptyRoom : RoomProg F Unit).Obeys next
      (May call) (fun φ _ => φ = out ∨ φ = missing) settled := by
  have hcall' : call = .removePeer peerId ∨ call = .removePeerPreserveRoom peerId :=
    hcall.imp And.left And.left
  refine ⟨.unlink hcall', ?_⟩
  rintro (_ | old)
  · exact .inl rfl
  refine ⟨.lookupUnlinked hcall', ?_⟩
  rintro (_ | arc)
  · exact .inr rfl
  refine ⟨.retain hcall', ?_⟩
  rcases hcall with ⟨rfl, rfl⟩ | ⟨rfl, rfl⟩
  · rintro (_ | _)
    · exact .inl rfl
    · exact ⟨.removeLeft, fun _ => .inl rfl⟩
  · exact fun _ => .inl rfl

theorem addPeer_obeys :
    (addPeer peerId roomId : RoomProg F (Option Unit)).Obeys next
      (May (.addPeer peerId roomId)) (@Post F (.addPeer peerId roomId)) settled := by
  refine ⟨.ensure, fun _ => ⟨.lookup, ?_⟩⟩
  rintro (_ | arc)
  · exact .inl rfl
  refine ⟨.pushUnlessMoving, ?_⟩
  rintro (_ | old)
  · exact ⟨.link, fun _ => rfl⟩
  apply Prog.Obeys.bind (removePeerFromRoomOnly_obeys peerId roomId old)
  rintro φ _ (rfl | rfl)
  · refine ⟨.lookupAgain, ?_⟩
    rintro (_ | arc₂)
    · exact .inr rfl
    · exact ⟨.push, fun _ => ⟨.link, fun _ => rfl⟩⟩
  · refine ⟨.missing, ?_⟩
    rintro (_ | arc₂)
    · exact .inr rfl
    · exact ⟨.missing, fun _ => ⟨.link, fun _ => rfl⟩⟩

theorem roomCall_holds (run : F → κ → Except JoinRejectionReason Unit × κ) (call : RoomCall F) :
    indexProtocol.Holds ((roomSystem run).spawn call) := by
  cases call with
  | createRoom roomId info => exact ⟨.createRoom, fun _ => trivial⟩
  | tryAddPeerWith peerId roomId f =>
    refine ⟨.tryLookup, ?_⟩
    rintro (_ | arc)
    · rfl
    refine ⟨.tryPush, ?_⟩
    rintro (reason | newCount)
    · rfl
    · exact ⟨.tryLink, fun _ => rfl⟩
  | addPeer peerId roomId => exact addPeer_obeys peerId roomId
  | removePeer peerId => exact removePeerInternal_obeys true (.inl ⟨rfl, rfl⟩)
  | removePeerPreserveRoom peerId => exact removePeerInternal_obeys false (.inr ⟨rfl, rfl⟩)
  | removeEmptyRoom roomId =>
    refine ⟨.checkEmpty, ?_⟩
    rintro (_ | _)
    · exact trivial
    · exact ⟨.removeEmpty, fun _ => trivial⟩

end Wavis
