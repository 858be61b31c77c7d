import Wavis.Proof.RoomIndexProtocol

/-! `IndexPhase.Local` says where the peer of a call stands in each phase. The sections of other
calls leave it there as long as none of them acts on a stale observation. -/

namespace Wavis

variable {place : Option RoomId} {roomId : RoomId}

open Concurrency IndexPhase InMemoryRoomState

open RoomOp (exec)

variable {F κ : Type} {link : Option RoomId} {peerId : PeerId} {arc : ArcId}

/-- The peer is listed only in the object of `room`, if at all, and the index sends it to `link`. -/
structure PeerAt (state : InMemoryRoomState) (peerId : PeerId) (room : Option (RoomId × ArcId))
    (link : Option RoomId) : Prop where
  link : state.peerToRoom.lookup peerId = link
  listed : ∀ arc, peerId ∈ (state.heap arc).peers ↔ room.map Prod.snd = some arc
  mapped : ∀ entry ∈ room, state.rooms.lookup entry.1 = some entry.2

namespace PeerAt

variable {state : InMemoryRoomState} {other : PeerId} {room : Option (RoomId × ArcId)}

section

variable (h : PeerAt state peerId room link)
include h

theorem insertRoom (hroom : state.rooms.lookup roomId = none) (info : RoomInfo) :
    PeerAt (state.insertRoom roomId info) peerId room link where
  link := h.link
  listed := by
    intro arc'
    by_cases harc : arc' = state.nextArc
    · subst harc
      have hfresh : room.map Prod.snd ≠ some state.nextArc := by
        intro hsnd
        obtain ⟨entry, hentry, hsnd⟩ := Option.map_eq_some_iff.mp hsnd
        have hlt := state.rooms_lt (h.mapped entry hentry)
        rw [hsnd] at hlt
        exact Nat.lt_irrefl _ hlt
      simp [InMemoryRoomState.insertRoom, hfresh]
    · simp only [InMemoryRoomState.insertRoom, Function.update_of_ne harc]
      exact h.listed arc'
  mapped := by
    intro entry hentry
    have hne : entry.1 ≠ roomId := by
      rintro rfl
      rw [h.mapped entry hentry] at hroom
      cases hroom
    simp only [InMemoryRoomState.insertRoom]
    rw [AList.lookup_insert_ne hne]
    exact h.mapped entry hentry

theorem eraseRoom (hempty : ∀ members ∈ state.find roomId, members.peers = []) :
    PeerAt (state.eraseRoom roomId) peerId room link where
  link := h.link
  listed := h.listed
  mapped := by
    intro entry hentry
    have hmapped := h.mapped entry hentry
    have hne : entry.1 ≠ roomId := by
      rintro rfl
      have hnil := hempty (state.heap entry.2) (by simp [find, hmapped])
      have hmem : peerId ∈ (state.heap entry.2).peers :=
        (h.listed entry.2).mpr (by rw [Option.mem_def.mp hentry]; rfl)
      rw [hnil] at hmem
      cases hmem
    simp only [InMemoryRoomState.eraseRoom]
    rw [AList.lookup_erase_ne hne]
    exact hmapped

theorem setMembers {members : RoomMembers}
    (hpeers : peerId ∈ members.peers ↔ peerId ∈ (state.heap arc).peers) :
    PeerAt (state.setMembers arc members) peerId room link where
  link := h.link
  listed := by
    intro arc'
    by_cases harc : arc' = arc
    · subst harc
      simp only [setMembers, Function.update_self]
      rw [hpeers]
      exact h.listed arc'
    · simp only [InMemoryRoomState.setMembers, Function.update_of_ne harc]
      exact h.listed arc'
  mapped := h.mapped

section

variable (hne : peerId ≠ other)
include hne

theorem push_other :
    PeerAt (state.setMembers arc ((state.heap arc).push other)) peerId room link := by
  apply h.setMembers
  unfold RoomMembers.push
  split_ifs
  · rfl
  · simp [hne]

theorem retain_other :
    PeerAt (state.setMembers arc ((state.heap arc).retain other)) peerId room link := by
  apply h.setMembers
  simp [RoomMembers.retain, hne]

theorem link_other : PeerAt (state.linkPeer other roomId) peerId room link where
  link := by
    simp only [linkPeer]
    rw [AList.lookup_insert_ne hne]
    exact h.link
  listed := h.listed
  mapped := h.mapped

theorem unlink_other : PeerAt (state.unlinkPeer other) peerId room link where
  link := by
    simp only [unlinkPeer]
    rw [AList.lookup_erase_ne hne]
    exact h.link
  listed := h.listed
  mapped := h.mapped

end

end

theorem push_self (h : PeerAt state peerId none link)
    (hmapped : state.rooms.lookup roomId = some arc) :
    PeerAt (state.setMembers arc ((state.heap arc).push peerId)) peerId (some (roomId, arc))
      link where
  link := h.link
  listed := by
    intro arc'
    have habsent : ∀ arc', peerId ∉ (state.heap arc').peers := by
      intro arc' hmem
      cases (h.listed arc').mp hmem
    by_cases harc : arc' = arc
    · subst harc
      simp [InMemoryRoomState.setMembers, RoomMembers.push, habsent]
    · simp [InMemoryRoomState.setMembers, Function.update_of_ne harc, habsent, Ne.symm harc]
  mapped := by
    rintro entry ⟨⟩
    exact hmapped

theorem retain_self (h : PeerAt state peerId (some (roomId, arc)) link) :
    PeerAt (state.setMembers arc ((state.heap arc).retain peerId)) peerId none link where
  link := h.link
  listed := by
    intro arc'
    by_cases harc : arc' = arc
    · subst harc
      simp [InMemoryRoomState.setMembers, RoomMembers.retain]
    · simp only [InMemoryRoomState.setMembers, Function.update_of_ne harc]
      rw [h.listed arc']
      simp [Ne.symm harc]
  mapped := by
    rintro entry ⟨⟩

theorem link_self (h : PeerAt state peerId room link) :
    PeerAt (state.linkPeer peerId roomId) peerId room (some roomId) where
  link := AList.lookup_insert _
  listed := h.listed
  mapped := h.mapped

theorem unlink_self (h : PeerAt state peerId room link) :
    PeerAt (state.unlinkPeer peerId) peerId room none where
  link := AList.lookup_erase _ _
  listed := h.listed
  mapped := h.mapped

end PeerAt

variable {run : F → κ → Except JoinRejectionReason Unit × κ} {state : InMemoryRoomState × κ}
  {call : RoomCall F} {φ : IndexPhase} {o : RoomOp F} {trace : List ((o : RoomOp F) × o.Resp)}
  (now : Instant)

theorem PeerAt.exec_other {room : Option (RoomId × ArcId)} (h : PeerAt state.1 peerId room link)
    (now : Instant) (hmay : May call φ o) (hφ : call.peer.isSome → φ ≠ missing)
    (hcurrent : o.Current run state call trace) (hne : call.peer ≠ some peerId) :
    PeerAt (o.exec run now state).2.1 peerId room link := by
  have hother : ∀ {other : PeerId}, call.peer = some other → peerId ≠ other := by
    rintro other hother rfl
    exact hne hother
  cases hmay with
  | createRoom | ensure =>
    simp only [exec]
    split
    · exact h
    · rename_i hlookup
      exact h.insertRoom hlookup _
  | checkEmpty | tryLookup | lookup | lookupOld | lookupAgain | lookupUnlinked => exact h
  | removeEmpty | removeOld | removeLeft => exact h.eraseRoom hcurrent.1
  | tryPush =>
    simp only [exec]
    split_ifs
    · exact h
    · exact h
    · split
      · exact h
      · exact h.push_other (hother rfl)
  | pushUnlessMoving =>
    simp only [exec]
    split
    · split_ifs
      · exact h
      · exact h.push_other (hother rfl)
    · exact h.push_other (hother rfl)
  | push => exact h.push_other (hother rfl)
  | retainOld => exact h.retain_other (hother rfl)
  | tryLink | link => exact h.link_other (hother rfl)
  | unlink hcall =>
    refine h.unlink_other (hother ?_)
    rcases hcall with rfl | rfl <;> rfl
  | retain hcall =>
    refine h.retain_other (hother ?_)
    rcases hcall with rfl | rfl <;> rfl
  | missing => exact absurd rfl (hφ rfl)

/-- The peer is linked to `place` and listed there, or is in no room at all. -/
def Settled (state : InMemoryRoomState) (peerId : PeerId) (place : Option RoomId) : Prop :=
  ∃ room, PeerAt state peerId room place ∧ room.map Prod.fst = place

def IndexPhase.Local (state : InMemoryRoomState) (peerId : PeerId) (place : Option RoomId)
    (call : RoomCall F) : IndexPhase → Prop
  | settled => Settled state peerId place ∧ ((∃ p r f, call = .tryAddPeerWith p r f) → place = none)
  | holding _ =>
    Settled state peerId place ∧ ((∃ p r f, call = .tryAddPeerWith p r f) → place = none)
  | moving old => ∃ arc, PeerAt state peerId (some (old, arc)) (some old)
  | movingFrom old arc => PeerAt state peerId (some (old, arc)) (some old)
  | left old => PeerAt state peerId none (some old)
  | leftHolding old _ => PeerAt state peerId none (some old)
  | pushed => ∃ roomId ∈ call.target, ∃ arc link, PeerAt state peerId (some (roomId, arc)) link
  | arrived => ∃ roomId ∈ call.target, Settled state peerId (some roomId)
  | unlinked old => ∃ arc, PeerAt state peerId (some (old, arc)) none
  | unlinkedFrom old arc => PeerAt state peerId (some (old, arc)) none
  | out => PeerAt state peerId none none
  | missing => False

theorem IndexPhase.Local.mono {state state' : InMemoryRoomState}
    (h : φ.Local state peerId place call)
    (hat : ∀ room link, PeerAt state peerId room link → PeerAt state' peerId room link) :
    φ.Local state' peerId place call := by
  have hsettled : ∀ place, Settled state peerId place → Settled state' peerId place :=
    fun _ ⟨room, hroom, hplace⟩ => ⟨room, hat _ _ hroom, hplace⟩
  cases φ with
  | settled | holding => exact ⟨hsettled _ h.1, h.2⟩
  | moving | unlinked =>
    obtain ⟨arc, h⟩ := h
    exact ⟨arc, hat _ _ h⟩
  | movingFrom | left | leftHolding | unlinkedFrom | out => exact hat _ _ h
  | pushed =>
    obtain ⟨roomId, hroom, arc, link, h⟩ := h
    exact ⟨roomId, hroom, arc, link, hat _ _ h⟩
  | arrived =>
    obtain ⟨roomId, hroom, h⟩ := h
    exact ⟨roomId, hroom, hsettled _ h⟩
  | missing => exact h

theorem Settled.of_none {state : InMemoryRoomState} (h : Settled state peerId none) :
    PeerAt state peerId none none := by
  obtain ⟨room, hroom, hplace⟩ := h
  rw [Option.map_eq_none_iff] at hplace
  exact hplace ▸ hroom

theorem Settled.of_some {state : InMemoryRoomState} (h : Settled state peerId (some roomId)) :
    ∃ arc, PeerAt state peerId (some (roomId, arc)) (some roomId) := by
  obtain ⟨room, hroom, hplace⟩ := h
  obtain ⟨⟨roomId', arc⟩, rfl, rfl⟩ := Option.map_eq_some_iff.mp hplace
  exact ⟨arc, hroom⟩

theorem PeerAt.not_listed {state : InMemoryRoomState} (h : PeerAt state peerId none link)
    (arc : ArcId) : peerId ∉ (state.heap arc).peers := by
  intro hmem
  cases (h.listed arc).mp hmem

theorem pushUnlessMoving_local (h : Settled state.1 peerId place)
    (hcurrent : (RoomOp.pushUnlessMoving arc peerId roomId : RoomOp F).Current run state
      (.addPeer peerId roomId) trace) :
    ((holding arc).next (.pushUnlessMoving arc peerId roomId : RoomOp F)
      ((RoomOp.pushUnlessMoving arc peerId roomId).exec run now state).1).Local
        ((RoomOp.pushUnlessMoving arc peerId roomId : RoomOp F).exec run now state).2.1
        peerId place (.addPeer peerId roomId : RoomCall F) := by
  obtain ⟨state, k⟩ := state
  cases place with
  | none =>
    have hat := h.of_none
    have hadds : (.pushUnlessMoving arc peerId roomId : RoomOp F).addsTo run (state, k)
        = some arc := by
      simp [RoomOp.addsTo, hat.not_listed, hat.link]
    simp only [exec, hat.link, IndexPhase.next]
    exact ⟨roomId, rfl, arc, none, hat.push_self (hcurrent.2 arc hadds roomId rfl)⟩
  | some old =>
    obtain ⟨arcOld, hat⟩ := h.of_some
    by_cases hold : old = roomId
    · subst hold
      have hlisted : peerId ∈ (state.heap arc).peers := by
        by_contra hlisted
        have hadds : (.pushUnlessMoving arc peerId old : RoomOp F).addsTo run (state, k)
            = some arc := by
          simp [RoomOp.addsTo, hlisted, hat.link]
        have harc := hcurrent.2 arc hadds old rfl
        rw [hat.mapped _ rfl, Option.some.injEq] at harc
        exact hlisted ((hat.listed arc).mpr (congrArg some harc))
      have hpush : (state.heap arc).push peerId = state.heap arc := by
        simp [RoomMembers.push, hlisted]
      simp only [exec, hat.link, ne_eq, not_true_eq_false, if_false, IndexPhase.next,
        hpush]
      exact ⟨old, rfl, arcOld, some old, hat.setMembers .rfl⟩
    · simp only [exec, hat.link, ne_eq, hold, not_false_eq_true, if_true,
        IndexPhase.next]
      exact ⟨arcOld, hat⟩

theorem tryPush_local {f : F} (h : Settled state.1 peerId place) (hplace : place = none)
    (hcurrent : (RoomOp.tryPush arc peerId f).Current run state
      (.tryAddPeerWith peerId roomId f) trace) :
    ((holding arc).next (.tryPush arc peerId f)
      ((RoomOp.tryPush arc peerId f).exec run now state).1).Local
        ((RoomOp.tryPush arc peerId f).exec run now state).2.1
        peerId place (.tryAddPeerWith peerId roomId f) := by
  obtain ⟨state, k⟩ := state
  subst hplace
  have hat := h.of_none
  have habsent := hat.not_listed arc
  simp only [exec, habsent, if_false]
  split_ifs with hfull
  · exact ⟨h, fun _ => rfl⟩
  · split
    · exact ⟨h, fun _ => rfl⟩
    · rename_i k' hrun
      have hadds : (RoomOp.tryPush arc peerId f).addsTo run (state, k) = some arc := by
        simp [RoomOp.addsTo, habsent, hfull, hrun]
      exact ⟨roomId, rfl, arc, none, hat.push_self (hcurrent.2 arc hadds roomId rfl)⟩

theorem link_local (h : pushed.Local state.1 peerId place call)
    (htarget : call.target = some roomId) :
    arrived.Local (state.1.linkPeer peerId roomId) peerId place call := by
  obtain ⟨roomId', hroom, arc, link, hat⟩ := h
  rw [htarget] at hroom
  cases hroom
  exact ⟨roomId, htarget, _, hat.link_self, rfl⟩

theorem unlink_local (h : Settled state.1 peerId place) :
    (settled.next (.unlinkPeer peerId : RoomOp F)
      ((RoomOp.unlinkPeer peerId).exec run now state).1).Local
        ((RoomOp.unlinkPeer peerId : RoomOp F).exec run now state).2.1 peerId place call := by
  obtain ⟨state, k⟩ := state
  cases place with
  | none =>
    have hat := h.of_none
    simp only [exec, hat.link, IndexPhase.next]
    exact hat.unlink_self
  | some old =>
    obtain ⟨arc, hat⟩ := h.of_some
    simp only [exec, hat.link, IndexPhase.next]
    exact ⟨arc, hat.unlink_self⟩

/-- **The call's own section.** -/
theorem IndexPhase.Local.exec_self (h : φ.Local state.1 peerId place call) (hmay : May call φ o)
    (hcurrent : o.Current run state call trace) (hpeer : call.peer = some peerId)
    (htrace : ∀ old, φ = left old → trace.any (fun event => event.1.isRetain) = true) :
    (φ.next o (o.exec run now state).1).Local (o.exec run now state).2.1 peerId place call := by
  cases hmay with
  | createRoom | checkEmpty | removeEmpty => cases hpeer
  | tryLookup | lookup =>
    cases hpeer
    simp only [exec]
    cases state.1.rooms.lookup _ <;> exact h
  | tryPush =>
    cases hpeer
    exact tryPush_local now h.1 (h.2 ⟨_, _, _, rfl⟩) hcurrent
  | tryLink | link =>
    cases hpeer
    exact link_local h rfl
  | ensure =>
    simp only [exec]
    split
    · exact h
    · rename_i hlookup
      exact h.mono fun _ _ hat => hat.insertRoom hlookup _
  | pushUnlessMoving =>
    cases hpeer
    exact pushUnlessMoving_local now h.1 hcurrent
  | lookupOld | lookupUnlinked =>
    obtain ⟨arc, hat⟩ := h
    simp only [exec, hat.mapped _ rfl, IndexPhase.next]
    exact hat
  | retainOld =>
    cases hpeer
    exact .retain_self h
  | removeOld | removeLeft => exact .eraseRoom h hcurrent.1
  | lookupAgain =>
    have hsome := hcurrent.1 (htrace _ rfl)
    obtain ⟨arc, harc⟩ := Option.isSome_iff_exists.mp hsome
    simp only [exec, harc, IndexPhase.next]
    exact h
  | push =>
    cases hpeer
    rename_i roomId old arc
    have hadds : (.push arc peerId : RoomOp F).addsTo run state = some arc := by
      simp [RoomOp.addsTo, PeerAt.not_listed h]
    exact ⟨roomId, rfl, arc, some old, .push_self h (hcurrent.2 arc hadds roomId rfl)⟩
  | unlink hcall =>
    have hpeer' := hpeer
    rcases hcall with rfl | rfl <;> cases hpeer' <;> exact unlink_local now h.1
  | retain hcall =>
    have hpeer' := hpeer
    rcases hcall with rfl | rfl <;> cases hpeer' <;> exact .retain_self h
  | missing => exact h.elim

theorem settled_of_post {value : call.Ret} (h : φ.Local state.1 peerId place call)
    (hpost : Post call φ value) (hpeer : call.peer = some peerId) :
    Settled state.1 peerId (call.place value place) := by
  cases call with
  | createRoom | removeEmptyRoom => cases hpeer
  | tryAddPeerWith =>
    cases value with
    | ok newCount =>
      cases hpost
      obtain ⟨roomId, ⟨⟩, hsettled⟩ := h
      exact hsettled
    | error reason =>
      cases hpost
      exact h.1
  | addPeer =>
    cases value with
    | some =>
      cases hpost
      obtain ⟨roomId, ⟨⟩, hsettled⟩ := h
      exact hsettled
    | none =>
      rcases hpost with rfl | rfl
      · exact h.1
      · exact h.elim
  | removePeer | removePeerPreserveRoom =>
    rcases hpost with rfl | rfl
    · exact ⟨none, h, rfl⟩
    · exact h.elim

end Wavis
