import Wavis.RoomState

namespace Wavis

variable {state state' : InMemoryRoomState} {now : Instant} {F κ : Type} {k' k : κ}
  {run : F → κ → Except JoinRejectionReason Unit × κ} {o : RoomOp F} {answer : o.Resp}

namespace InMemoryRoomState

def Resides (state : InMemoryRoomState) (peerId : PeerId) (roomId : RoomId) : Prop :=
  ∃ arc, state.rooms.lookup roomId = some arc ∧ peerId ∈ (state.heap arc).peers

variable {roomId : RoomId} {peerId : PeerId} {arc : ArcId}

theorem Resides.mem (h : state.Resides peerId roomId)
    (harc : state.rooms.lookup roomId = some arc) : peerId ∈ (state.heap arc).peers := by
  obtain ⟨arc', harc', hmem⟩ := h
  rw [harc, Option.some.injEq] at harc'
  exact harc' ▸ hmem

theorem Resides.rooms_ne_none (h : state.Resides peerId roomId) :
    state.rooms.lookup roomId ≠ none := by
  obtain ⟨arc, harc, -⟩ := h
  rw [harc]
  simp

/-- Inhabited rooms keep their object, and every resident but one stays. -/
structure Evolves (gone : Option (PeerId × RoomId)) (state state' : InMemoryRoomState) :
    Prop where
  rooms : ∀ {peerId roomId arc}, state.rooms.lookup roomId = some arc →
    peerId ∈ (state.heap arc).peers → state'.rooms.lookup roomId = some arc
  peers : ∀ {peerId roomId arc}, state.rooms.lookup roomId = some arc →
    peerId ∈ (state.heap arc).peers → gone ≠ some (peerId, roomId) →
    peerId ∈ (state'.heap arc).peers
  fresh : state.nextArc ≤ state'.nextArc
  old : ∀ {roomId arc}, arc < state.nextArc → state'.rooms.lookup roomId = some arc →
    state.rooms.lookup roomId = some arc

namespace Evolves

variable {gone : Option (PeerId × RoomId)}

theorem resides (h : Evolves gone state state') (hgone : gone ≠ some (peerId, roomId))
    (hres : state.Resides peerId roomId) : state'.Resides peerId roomId := by
  obtain ⟨arc, harc, hmem⟩ := hres
  exact ⟨arc, h.rooms harc hmem, h.peers harc hmem hgone⟩

theorem of_same (hrooms : state'.rooms = state.rooms) (hnext : state'.nextArc = state.nextArc)
    (hpeers : ∀ arc peerId, peerId ∈ (state.heap arc).peers →
      peerId ∈ (state'.heap arc).peers) : Evolves none state state' where
  rooms harc _ := by rw [hrooms]; exact harc
  peers _ hmem _ := hpeers _ _ hmem
  fresh := Nat.le_of_eq hnext.symm
  old _ h := by rw [← hrooms]; exact h

theorem refl (state : InMemoryRoomState) : Evolves none state state :=
  of_same rfl rfl fun _ _ => id

theorem insertRoom (info : RoomInfo) (hnone : state.rooms.lookup roomId = none) :
    Evolves none state (state.insertRoom roomId info) where
  rooms {peerId roomId' arc} harc _ := by
    have hne : roomId' ≠ roomId := by
      rintro rfl
      rw [hnone] at harc
      cases harc
    exact (AList.lookup_insert_ne hne).trans harc
  peers {peerId roomId' arc} harc hmem _ := by
    have hne : arc ≠ state.nextArc := Nat.ne_of_lt (state.rooms_lt harc)
    simpa [InMemoryRoomState.insertRoom, hne] using hmem
  fresh := Nat.le_succ _
  old {roomId' arc} hlt h := by
    by_cases hroom : roomId' = roomId
    · subst hroom
      have hnew : (state.insertRoom roomId' info).rooms.lookup roomId' = some state.nextArc :=
        AList.lookup_insert _
      rw [hnew, Option.some.injEq] at h
      exact absurd h.symm (Nat.ne_of_lt hlt)
    · exact (AList.lookup_insert_ne hroom).symm.trans h

theorem eraseRoom
    (hempty : ∀ arc, state.rooms.lookup roomId = some arc → (state.heap arc).peers = []) :
    Evolves none state (state.eraseRoom roomId) where
  rooms {peerId roomId' arc} harc hmem := by
    have hne : roomId' ≠ roomId := by
      rintro rfl
      rw [hempty arc harc] at hmem
      cases hmem
    exact (AList.lookup_erase_ne hne).trans harc
  peers _ hmem _ := hmem
  fresh := Nat.le_refl _
  old {roomId' arc} _ h := by
    have hne : roomId' ≠ roomId := by
      rintro rfl
      have hnone : (state.eraseRoom roomId').rooms.lookup roomId' = none := AList.lookup_erase _ _
      rw [hnone] at h
      cases h
    exact (AList.lookup_erase_ne hne).symm.trans h

theorem setMembers (arc : ArcId) {members : RoomMembers}
    (hpeers : ∀ peerId ∈ (state.heap arc).peers, peerId ∈ members.peers) :
    Evolves none state (state.setMembers arc members) := by
  refine of_same rfl rfl ?_
  intro arc' peerId hmem
  by_cases harc : arc' = arc
  · subst harc
    simpa [InMemoryRoomState.setMembers] using hpeers peerId hmem
  · simpa [InMemoryRoomState.setMembers, harc] using hmem

theorem push (arc : ArcId) (peerId : PeerId) :
    Evolves none state (state.setMembers arc ((state.heap arc).push peerId)) := by
  apply setMembers
  intro peerId' hmem
  unfold RoomMembers.push
  split_ifs
  · exact hmem
  · exact List.mem_append_left _ hmem

theorem retain (harc : state.rooms.lookup roomId = some arc) :
    Evolves (some (peerId, roomId)) state
      (state.setMembers arc ((state.heap arc).retain peerId)) where
  rooms harc _ := harc
  peers {peerId' roomId' arc'} harc' hmem hgone := by
    by_cases heq : arc' = arc
    · subst heq
      have hne : peerId' ≠ peerId := by
        rintro rfl
        exact hgone (by rw [state.rooms_inj harc harc'])
      simpa [InMemoryRoomState.setMembers, RoomMembers.retain, hne] using hmem
    · simpa [InMemoryRoomState.setMembers, heq] using hmem
  fresh := Nat.le_refl _
  old _ h := h

end Evolves

end InMemoryRoomState

open InMemoryRoomState

/-- The section takes nobody out of a room, and no inhabited room out of the map. -/
def RoomOp.Spares {F : Type} (state : InMemoryRoomState) : RoomOp F → Prop
  | removeRoom roomId => ∀ arc, state.rooms.lookup roomId = some arc → (state.heap arc).peers = []
  | retainPeers _ _ => False
  | _ => True

theorem RoomOp.exec_evolves (hexec : o.exec run now (state, k) = (answer, state', k'))
    (hspares : o.Spares state) : Evolves none state state' := by
  obtain rfl : (o.exec run now (state, k)).2.1 = state' := by rw [hexec]
  cases o with
  | createRoom roomId info =>
    simp only [RoomOp.exec]
    split
    · exact .refl state
    · rename_i hnone
      exact .insertRoom info hnone
  | ensureRoom roomId =>
    simp only [RoomOp.exec]
    split
    · exact .refl state
    · rename_i hnone
      exact .insertRoom .newP2p hnone
  | removeRoom roomId => exact .eraseRoom hspares
  | tryPush arc peerId f =>
    simp only [RoomOp.exec]
    split_ifs
    · exact .refl state
    · exact .refl state
    · split
      · exact .refl state
      · exact .push arc peerId
  | pushUnlessMoving arc peerId roomId =>
    simp only [RoomOp.exec]
    split
    · split_ifs
      · exact .refl state
      · exact .push arc peerId
    · exact .push arc peerId
  | push arc peerId => exact .push arc peerId
  | retainPeers arc peerId => exact hspares.elim
  | linkPeer peerId roomId | unlinkPeer peerId => exact .of_same rfl rfl fun _ _ => id
  | updateInfo roomId edit =>
    simp only [RoomOp.exec]
    split
    · exact .refl state
    · exact .setMembers _ fun _ => id
  | updateObject arc edit => exact .setMembers arc fun _ => id
  | getRoom roomId | checkEmpty roomId | getRoomForPeer peerId | readRoom roomId
  | roomsNeedingTokenRefresh refreshAfterSecs => exact .refl state

theorem RoomOp.exec_peerToRoom (hexec : o.exec run now (state, k) = (answer, state', k'))
    (hlink : ∀ peerId roomId, o ≠ .linkPeer peerId roomId)
    (hunlink : ∀ peerId, o ≠ .unlinkPeer peerId) : state'.peerToRoom = state.peerToRoom := by
  obtain rfl : (o.exec run now (state, k)).2.1 = state' := by rw [hexec]
  cases o with
  | linkPeer peerId roomId => exact absurd rfl (hlink peerId roomId)
  | unlinkPeer peerId => exact absurd rfl (hunlink peerId)
  | createRoom roomId info | ensureRoom roomId =>
    simp only [RoomOp.exec]
    split <;> rfl
  | tryPush arc peerId f =>
    simp only [RoomOp.exec]
    split_ifs
    · rfl
    · rfl
    · split <;> rfl
  | pushUnlessMoving arc peerId roomId =>
    simp only [RoomOp.exec]
    split
    · split_ifs <;> rfl
    · rfl
  | updateInfo roomId edit =>
    simp only [RoomOp.exec]
    split <;> rfl
  | _ => rfl

end Wavis
