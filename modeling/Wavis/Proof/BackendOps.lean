import Wavis.BackendCalls

namespace Wavis

open World

variable {channelId : Uuid} {roomId : RoomId} {w w' : World} {o : Op} {env : Env} {answer : o.Resp}
  {state' state : InMemoryRoomState} {now : Instant} {F κ : Type} {k' k : κ}
  {run : F → κ → Except JoinRejectionReason Unit × κ}

theorem Op.exec_room {ro : RoomOp JoinCheck} {answer : ro.Resp}
    (h : (Op.room ro).exec env w = some (answer, w')) :
    ro.exec (JoinCheck.run (w.clock + env.elapsed)) (w.clock + env.elapsed)
      (w.roomState, w.inviteStore) = (answer, w'.roomState, w'.inviteStore) := by
  cases h
  rfl

theorem Op.exec_roomState (h : o.exec env w = some (answer, w')) :
    w'.roomState = w.roomState
      ∨ ∃ ro, o = .room ro ∧ w'.roomState
        = (ro.exec (JoinCheck.run (w.clock + env.elapsed)) (w.clock + env.elapsed)
            (w.roomState, w.inviteStore)).2.1 := by
  cases o with
  | room ro =>
    cases h
    exact .inr ⟨ro, rfl, rfl⟩
  | _ =>
    left
    simp only [Op.exec, Op.run, signed, unregisterIdentity, deliver,
      setConnection] at h
    (repeat' split at h) <;> first | (cases h; rfl) | (cases h)

def Op.onActiveRooms : Op → Bool
  | lockActiveRoom _ => true
  | evictActiveRoom _ => true
  | publishActiveRoom _ _ => true
  | unlockActiveRoom => true
  | removeActiveRoomIf _ _ => true
  | _ => false

theorem Op.exec_activeRooms (h : o.exec env w = some (answer, w'))
    (ho : o.onActiveRooms = false) :
    w'.activeRoomMap = w.activeRoomMap ∧ w'.activeRoomLocked = w.activeRoomLocked := by
  cases o with
  | lockActiveRoom channelId | evictActiveRoom channelId | publishActiveRoom channelId roomId
  | unlockActiveRoom | removeActiveRoomIf channelId roomId => cases ho
  | _ =>
    simp only [Op.exec, Op.run, signed, unregisterIdentity, deliver,
      setConnection] at h
    (repeat' split at h) <;> first | (cases h; exact ⟨rfl, rfl⟩) | (cases h)

theorem Op.exec_lockActiveRoom {answer : Option RoomId}
    (h : (Op.lockActiveRoom channelId).exec env w = some (answer, w')) :
    w.activeRoomLocked = false ∧ answer = w.activeRoomMap.lookup channelId
      ∧ w' = { w.tick env.elapsed with activeRoomLocked := true } := by
  have hrun : (if w.activeRoomLocked then none
      else some (w.activeRoomMap.lookup channelId,
        { w.tick env.elapsed with activeRoomLocked := true })) = some (answer, w') := h
  split_ifs at hrun with hlocked
  cases hrun
  exact ⟨by simpa using hlocked, rfl, rfl⟩

theorem Op.exec_readActiveRoom {answer : Option RoomId}
    (h : (Op.readActiveRoom channelId).exec env w = some (answer, w')) :
    answer = w.activeRoomMap.lookup channelId := by
  have hrun : (if w.activeRoomLocked then none
      else some (w.activeRoomMap.lookup channelId, w.tick env.elapsed)) = some (answer, w') := h
  split_ifs at hrun
  cases hrun
  rfl

theorem Op.exec_removeActiveRoomIf {answer : Unit}
    (h : (Op.removeActiveRoomIf channelId roomId).exec env w = some (answer, w')) :
    w.activeRoomLocked = false
      ∧ (w.activeRoomMap.lookup channelId = some roomId
          ∧ w' = { w.tick env.elapsed with activeRoomMap := w.activeRoomMap.erase channelId }
        ∨ w.activeRoomMap.lookup channelId ≠ some roomId ∧ w' = w.tick env.elapsed) := by
  have hrun : (if w.activeRoomLocked then none
      else if w.activeRoomMap.lookup channelId = some roomId then
        some ((), { w.tick env.elapsed with activeRoomMap := w.activeRoomMap.erase channelId })
      else some ((), w.tick env.elapsed)) = some (answer, w') := h
  split_ifs at hrun with hlocked hentry
  · cases hrun
    exact ⟨by simpa using hlocked, .inl ⟨hentry, rfl⟩⟩
  · cases hrun
    exact ⟨by simpa using hlocked, .inr ⟨hentry, rfl⟩⟩

def Op.onConnections : Op → Bool
  | accept _ => true
  | setUser _ _ => true
  | setSession _ _ => true
  | closeConnection _ => true
  | _ => false

theorem Op.exec_connections (h : o.exec env w = some (answer, w'))
    (ho : o.onConnections = false) :
    w'.connections = w.connections ∧ w'.nextPeerId = w.nextPeerId := by
  cases o with
  | accept userId | setUser peerId userId | setSession peerId session | closeConnection peerId =>
    cases ho
  | _ =>
    simp only [Op.exec, Op.run, signed, unregisterIdentity, deliver] at h
    (repeat' split at h) <;> first | (cases h; exact ⟨rfl, rfl⟩) | (cases h)

theorem Op.exec_memberships (h : o.exec env w = some (answer, w'))
    (ho : ∀ channelId userId bannedAt, o ≠ .commitBan channelId userId bannedAt) :
    w'.db.memberships = w.db.memberships := by
  cases o with
  | commitBan channelId userId bannedAt => exact absurd rfl (ho channelId userId bannedAt)
  | _ =>
    simp only [Op.exec, Op.run, signed, unregisterIdentity, deliver,
      setConnection] at h
    (repeat' split at h) <;> first | (cases h; rfl) | (cases h)

def Op.onInvites : Op → Bool
  | room _ => true
  | generateInvite _ _ _ _ => true
  | revokeInvite _ _ _ => true
  | removeRoomInvites _ => true
  | _ => false

section

variable (h : o.exec env w = some (answer, w'))
include h

theorem Op.exec_inviteStore (ho : o.onInvites = false) : w'.inviteStore = w.inviteStore := by
  cases o with
  | room ro | generateInvite roomId issuerId maxUses now | revokeInvite code roomId role
  | removeRoomInvites roomId => cases ho
  | _ =>
    simp only [Op.exec, Op.run, signed, unregisterIdentity, deliver,
      setConnection] at h
    (repeat' split at h) <;> first | (cases h; rfl) | (cases h)

theorem Op.exec_clock : w'.clock = w.clock + env.elapsed := by
  cases o with
  | _ =>
    simp only [Op.exec, Op.run, signed, unregisterIdentity, deliver,
      setConnection] at h
    (repeat' split at h) <;> first | (cases h; rfl) | (cases h)

theorem Op.clock_le : w.clock ≤ w'.clock :=
  (Nat.le_add_right _ _).trans (Op.exec_clock h).ge

end

theorem RoomOp.exec_rooms_some {o : RoomOp F} {answer : o.Resp} {arc : ArcId}
    (hexec : o.exec run now (state, k) = (answer, state', k'))
    (h : state'.rooms.lookup roomId = some arc) :
    state.rooms.lookup roomId = some arc
      ∨ state.rooms.lookup roomId = none
        ∧ ((∃ info, o = .createRoom roomId info) ∨ o = .ensureRoom roomId) := by
  obtain rfl : (o.exec run now (state, k)).2.1 = state' := by rw [hexec]
  have hinsert : ∀ roomId' info, (state.insertRoom roomId' info).rooms.lookup roomId = some arc →
      roomId = roomId' ∨ state.rooms.lookup roomId = some arc := by
    intro roomId' info hlookup
    by_cases hroom : roomId = roomId'
    · exact .inl hroom
    · exact .inr ((AList.lookup_insert_ne hroom).symm.trans hlookup)
  cases o with
  | createRoom roomId' info =>
    simp only [RoomOp.exec] at h
    split at h
    · exact .inl h
    · rename_i hnone
      rcases hinsert roomId' info h with rfl | hold
      · exact .inr ⟨hnone, .inl ⟨info, rfl⟩⟩
      · exact .inl hold
  | ensureRoom roomId' =>
    simp only [RoomOp.exec] at h
    split at h
    · exact .inl h
    · rename_i hnone
      rcases hinsert roomId' .newP2p h with rfl | hold
      · exact .inr ⟨hnone, .inr rfl⟩
      · exact .inl hold
  | removeRoom roomId' =>
    have hlookup : (state.rooms.erase roomId').lookup roomId = some arc := h
    by_cases hroom : roomId = roomId'
    · rw [hroom, AList.lookup_erase] at hlookup
      cases hlookup
    · exact .inl ((AList.lookup_erase_ne hroom).symm.trans hlookup)
  | tryPush arc peerId f =>
    simp only [RoomOp.exec] at h
    split_ifs at h
    · exact .inl h
    · exact .inl h
    · split at h <;> exact .inl h
  | pushUnlessMoving arc peerId roomId =>
    simp only [RoomOp.exec] at h
    split at h
    · split_ifs at h <;> exact .inl h
    · exact .inl h
  | updateInfo roomId edit =>
    simp only [RoomOp.exec] at h
    split at h <;> exact .inl h
  | _ => exact .inl h

theorem RoomOp.exec_rooms_none {o : RoomOp F} {answer : o.Resp}
    (hexec : o.exec run now (state, k) = (answer, state', k'))
    (hcreate : ∀ roomId info, o ≠ .createRoom roomId info)
    (hensure : ∀ roomId, o ≠ .ensureRoom roomId) (h : state.rooms.lookup roomId = none) :
    state'.rooms.lookup roomId = none := by
  by_contra hsome
  obtain ⟨arc, harc⟩ := Option.ne_none_iff_exists'.mp hsome
  rcases RoomOp.exec_rooms_some hexec harc with hold | ⟨-, ⟨info, ho⟩ | ho⟩
  · rw [h] at hold
    cases hold
  · exact hcreate roomId info ho
  · exact hensure roomId ho

end Wavis
