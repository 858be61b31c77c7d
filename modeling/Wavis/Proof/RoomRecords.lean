import Wavis.Proof.RoomEdit
import Wavis.RoomState

namespace Wavis

open InMemoryRoomState

def RoomOp.edits {F : Type} (state : InMemoryRoomState) (roomId : RoomId) :
    RoomOp F → Option InfoEdit
  | updateInfo roomId' edit => if roomId' = roomId then some edit else none
  | updateObject arc edit => if state.rooms.lookup roomId = some arc then some edit else none
  | _ => none

def RoomOp.creates {F : Type} (roomId : RoomId) : RoomOp F → Option RoomInfo
  | createRoom roomId' info => if roomId' = roomId then some info else none
  | ensureRoom roomId' => if roomId' = roomId then some .newP2p else none
  | _ => none

variable {members' : RoomMembers} {info : RoomInfo} {now : Instant}

section

variable {state : InMemoryRoomState} {roomId roomId' : RoomId} {members : RoomMembers}

theorem InMemoryRoomState.find_eq_some :
    state.find roomId = some members
      ↔ ∃ arc, state.rooms.lookup roomId = some arc ∧ state.heap arc = members := by
  simp [find]

theorem InMemoryRoomState.find_insertRoom
    (h : (state.insertRoom roomId' info).find roomId = some members) :
    roomId' = roomId ∧ members = ⟨[], info⟩ ∨ state.find roomId = some members := by
  obtain ⟨arc, harc, rfl⟩ := find_eq_some.mp h
  by_cases hroom : roomId = roomId'
  · subst hroom
    have hnew : (state.insertRoom roomId info).rooms.lookup roomId = some state.nextArc :=
      AList.lookup_insert _
    obtain rfl : state.nextArc = arc := Option.some.inj (hnew.symm.trans harc)
    exact Or.inl ⟨rfl, Function.update_self ..⟩
  · have hold : state.rooms.lookup roomId = some arc :=
      (AList.lookup_insert_ne hroom).symm.trans harc
    have hne : arc ≠ state.nextArc := Nat.ne_of_lt (state.rooms_lt hold)
    exact Or.inr (find_eq_some.mpr ⟨arc, hold, (Function.update_of_ne hne ..).symm⟩)

theorem InMemoryRoomState.find_eraseRoom
    (h : (state.eraseRoom roomId').find roomId = some members) :
    state.find roomId = some members := by
  obtain ⟨arc, harc, rfl⟩ := find_eq_some.mp h
  have herase : (state.rooms.erase roomId').lookup roomId = some arc := harc
  by_cases hroom : roomId = roomId'
  · subst hroom
    rw [AList.lookup_erase] at herase
    cases herase
  · exact find_eq_some.mpr ⟨arc, (AList.lookup_erase_ne hroom).symm.trans herase, rfl⟩

theorem InMemoryRoomState.find_setMembers {arc : ArcId}
    (h : (state.setMembers arc members').find roomId = some members) :
    state.rooms.lookup roomId = some arc ∧ members = members'
      ∨ state.rooms.lookup roomId ≠ some arc ∧ state.find roomId = some members := by
  obtain ⟨arc', harc, rfl⟩ := find_eq_some.mp h
  by_cases heq : arc' = arc
  · subst heq
    exact Or.inl ⟨harc, Function.update_self ..⟩
  · refine Or.inr ⟨?_, find_eq_some.mpr ⟨arc', harc, (Function.update_of_ne heq ..).symm⟩⟩
    intro h'
    exact heq (Option.some.inj (harc.symm.trans h'))

end

theorem RoomMembers.push_info (members : RoomMembers) (peerId : PeerId) :
    (members.push peerId).info = members.info := by
  unfold push
  split_ifs <;> rfl

theorem RoomOp.find_exec {F κ : Type} {run : F → κ → Except JoinRejectionReason Unit × κ}
    {state state' : InMemoryRoomState} {k k' : κ} {o : RoomOp F} {answer : o.Resp}
    {roomId : RoomId} (hexec : o.exec run now (state, k) = (answer, state', k'))
    (hfind : state'.find roomId = some members') :
    o.creates roomId = some members'.info
      ∨ ∃ members, state.find roomId = some members
        ∧ members'.info = (o.edits state roomId).elim members.info
          fun edit => edit.apply now members.peers members.info := by
  obtain rfl : (o.exec run now (state, k)).2.1 = state' := by rw [hexec]
  have hsame : state.find roomId = some members' → ∃ members, state.find roomId = some members
      ∧ members'.info = members.info := fun h => ⟨members', h, rfl⟩
  have hpushed : ∀ arc peerId, (state.setMembers arc ((state.heap arc).push peerId)).find roomId
      = some members' → ∃ members, state.find roomId = some members
        ∧ members'.info = members.info := by
    intro arc peerId h
    rcases find_setMembers h with ⟨harc, rfl⟩ | ⟨-, hold⟩
    · exact ⟨_, find_eq_some.mpr ⟨arc, harc, rfl⟩, RoomMembers.push_info _ _⟩
    · exact hsame hold
  have hedited : ∀ arc edit, (state.setMembers arc ((state.heap arc).edit edit now)).find roomId
      = some members' → ∃ members, state.find roomId = some members
        ∧ members'.info = if state.rooms.lookup roomId = some arc
          then edit.apply now members.peers members.info else members.info := by
    intro arc edit h
    rcases find_setMembers h with ⟨harc, rfl⟩ | ⟨hne, hold⟩
    · exact ⟨_, find_eq_some.mpr ⟨arc, harc, rfl⟩, by rw [if_pos harc]; rfl⟩
    · exact ⟨members', hold, by rw [if_neg hne]⟩
  have hinserted : ∀ roomId' info, (state.insertRoom roomId' info).find roomId = some members' →
      (if roomId' = roomId then some info else none) = some members'.info
        ∨ ∃ members, state.find roomId = some members ∧ members'.info = members.info := by
    intro roomId' info h
    rcases find_insertRoom h with ⟨rfl, rfl⟩ | hold
    · exact .inl (if_pos rfl)
    · exact .inr (hsame hold)
  cases o with
  | createRoom roomId' info =>
    simp only [RoomOp.exec] at hfind
    split at hfind
    · exact .inr (hsame hfind)
    · exact hinserted roomId' info hfind
  | ensureRoom roomId' =>
    simp only [RoomOp.exec] at hfind
    split at hfind
    · exact .inr (hsame hfind)
    · exact hinserted roomId' .newP2p hfind
  | removeRoom roomId' => exact .inr (hsame (find_eraseRoom hfind))
  | tryPush arc peerId f =>
    simp only [RoomOp.exec] at hfind
    split_ifs at hfind
    · exact .inr (hsame hfind)
    · exact .inr (hsame hfind)
    · split at hfind
      · exact .inr (hsame hfind)
      · exact .inr (hpushed arc peerId hfind)
  | pushUnlessMoving arc peerId roomId' =>
    simp only [RoomOp.exec] at hfind
    split at hfind
    · split_ifs at hfind
      · exact .inr (hsame hfind)
      · exact .inr (hpushed arc peerId hfind)
    · exact .inr (hpushed arc peerId hfind)
  | push arc peerId => exact .inr (hpushed arc peerId hfind)
  | retainPeers arc peerId =>
    refine .inr ?_
    rcases find_setMembers hfind with ⟨harc, rfl⟩ | ⟨-, hold⟩
    · exact ⟨_, find_eq_some.mpr ⟨arc, harc, rfl⟩, rfl⟩
    · exact hsame hold
  | updateInfo roomId' edit =>
    refine .inr ?_
    simp only [RoomOp.exec] at hfind
    split at hfind
    · rename_i hnone
      refine ⟨members', hfind, ?_⟩
      have hne : roomId' ≠ roomId := by
        rintro rfl
        rw [InMemoryRoomState.find, hnone] at hfind
        cases hfind
      simp [RoomOp.edits, hne]
    · rename_i arc harc
      obtain ⟨members, hold, hinfo⟩ := hedited arc edit hfind
      refine ⟨members, hold, ?_⟩
      rw [hinfo]
      by_cases hroom : roomId' = roomId
      · subst hroom
        simp [RoomOp.edits, harc]
      · have hne : state.rooms.lookup roomId ≠ some arc :=
          fun h => hroom (state.rooms_inj harc h)
        simp [RoomOp.edits, hroom, hne]
  | updateObject arc edit =>
    obtain ⟨members, hold, hinfo⟩ := hedited arc edit hfind
    refine .inr ⟨members, hold, ?_⟩
    rw [hinfo]
    simp only [RoomOp.edits]
    split_ifs <;> rfl
  | _ => exact .inr (hsame hfind)

def InfoEdit.adds : InfoEdit → Option ParticipantInfo
  | addParticipant participant => some participant
  | join participant => some participant
  | _ => none

theorem mem_updateFirst {α : Type} {test : α → Bool} {change : α → α} {list : List α} {a : α}
    (h : a ∈ updateFirst test change list) : a ∈ list ∨ ∃ b ∈ list, a = change b := by
  induction list with
  | nil => cases h
  | cons head rest ih =>
    unfold updateFirst at h
    split_ifs at h
    · rcases List.mem_cons.mp h with rfl | hmem
      · exact Or.inr ⟨head, List.mem_cons_self, rfl⟩
      · exact Or.inl (List.mem_cons_of_mem head hmem)
    · rcases List.mem_cons.mp h with rfl | hmem
      · exact Or.inl List.mem_cons_self
      · rcases ih hmem with hold | ⟨b, hb, rfl⟩
        · exact Or.inl (List.mem_cons_of_mem head hold)
        · exact Or.inr ⟨b, List.mem_cons_of_mem head hb, rfl⟩

variable {participant : ParticipantInfo}

theorem mem_updateParticipant {participantId : PeerId}
    {change : ParticipantInfo → ParticipantInfo}
    (h : participant ∈ (info.updateParticipant participantId change).participants)
    (hchange : ∀ old, (change old).participantId = old.participantId
      ∧ (change old).userId = old.userId) :
    ∃ old ∈ info.participants, old.participantId = participant.participantId
      ∧ old.userId = participant.userId := by
  rcases mem_updateFirst h with hold | ⟨old, hold, rfl⟩
  · exact ⟨participant, hold, rfl, rfl⟩
  · exact ⟨old, hold, (hchange old).1.symm, (hchange old).2.symm⟩

theorem InfoEdit.mem_participants_apply {edit : InfoEdit} {peers : List PeerId}
    (h : participant ∈ (edit.apply now peers info).participants) :
    edit.adds = some participant ∨ ∃ old ∈ info.participants,
      old.participantId = participant.participantId ∧ old.userId = participant.userId := by
  have hsame : participant ∈ info.participants → ∃ old ∈ info.participants,
      old.participantId = participant.participantId ∧ old.userId = participant.userId :=
    fun hmem => ⟨participant, hmem, rfl, rfl⟩
  cases hcore : edit.sharesOrSubRooms with
  | true =>
    rw [(sameCore_apply hcore now peers info).participants] at h
    exact .inr (hsame h)
  | false =>
    cases edit with
    | addParticipant added | join added =>
      rcases List.mem_append.mp h with hold | hnew
      · exact .inr (hsame hold)
      · rw [List.mem_singleton] at hnew
        exact .inl (congrArg some hnew.symm)
    | dropParticipant participantId | kick participantId =>
      exact Or.inr (hsame (List.mem_of_mem_filter h))
    | mute participantId | unmute participantId =>
      exact .inr (mem_updateParticipant h fun _ => ⟨rfl, rfl⟩)
    | selfFlag participantId flag =>
      exact .inr (mem_updateParticipant h fun _ => by cases flag <;> exact ⟨rfl, rfl⟩)
    | rename participantId username =>
      exact .inr (mem_updateParticipant h fun _ => ⟨rfl, rfl⟩)
    | recordViewerIdentity peerId identity =>
      obtain ⟨viewerIdentities, heq⟩ := info.recordViewerIdentity_eq peerId identity
      rw [InfoEdit.apply, heq] at h
      exact .inr (hsame h)
    | _ => first | exact .inr (hsame h) | cases hcore

end Wavis
