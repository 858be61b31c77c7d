import Wavis.Proof.Capacity

/-! A room id may enter the map again after its room has been removed. Every entry makes a new
object, so the object stands for the incarnation. -/

namespace Wavis

open Concurrency InMemoryRoomState InviteRecord

/-- What was done with a code, and in which incarnations. -/
inductive InviteUse where
  | admitted (code : String) (born : Option ArcId) (room : ArcId)
  | deleted (code : String) (born room : Option ArcId)

def InviteUse.Sound : InviteUse → Prop
  | admitted _ born room => ∀ arc, born = some arc → arc = room
  | deleted _ born room => ∀ arc, born = some arc → room ≠ some arc

instance InviteUse.decidableSound (use : InviteUse) : Decidable use.Sound :=
  match use with
  | admitted _ none _ => isTrue (by simp [InviteUse.Sound])
  | admitted _ (some arc) room => decidable_of_iff (arc = room) (by simp [InviteUse.Sound])
  | deleted _ none _ => isTrue (by simp [InviteUse.Sound])
  | deleted _ (some arc) room => decidable_of_iff (room ≠ some arc) (by simp [InviteUse.Sound])

structure InviteHistory where
  /-- The incarnation in which the record of a code was generated; `none` if there was none. -/
  born : String → Option ArcId
  uses : List InviteUse

def InviteStore.codesOf (store : InviteStore) (roomId : RoomId) : List String :=
  (store.invites.entries.filter fun entry => entry.2.roomId = roomId).map (·.1)

def InviteStore.validCodes (store : InviteStore) (roomId : RoomId) (now : Instant) : List String :=
  (store.invites.entries.filter fun entry => entry.2.rejection roomId now = none).map (·.1)

def InviteHistory.add (history : InviteHistory) (uses : List InviteUse) : InviteHistory :=
  { history with uses := history.uses ++ uses }

def InviteHistory.note : (o : Op) → World → o.Resp → World → InviteHistory → InviteHistory
  | .generateInvite roomId _ _ _, w, .ok record, _, history =>
    { history with born := Function.update history.born record.code (w.roomArc roomId) }
  | .room (.tryPush arc peerId (some (code, roomId))), w, _, w', history =>
    if w.roomArc roomId = some arc ∧ peerId ∉ (w.roomState.heap arc).peers
        ∧ peerId ∈ (w'.roomState.heap arc).peers then
      history.add [.admitted code (history.born code) arc]
    else history
  | .removeRoomInvites roomId, w, _, _, history =>
    history.add ((w.inviteStore.codesOf roomId).map fun code =>
      InviteUse.deleted code (history.born code) (w.roomArc roomId))
  | _, _, _, _, history => history

def inviteBackend (config : Config) :
    System Op.Resp BackendCall.Ret Env (World × InviteHistory) :=
  (backend config).annotated InviteHistory.note

abbrev InviteBackendPool := Pool Op.Resp BackendCall.Ret (World × InviteHistory)

def InviteBackendPool.initial (config : Config) (db : ChannelDb) : InviteBackendPool :=
  ⟨(World.initial config db, ⟨fun _ => none, []⟩), []⟩

/-- A room enters the map, and its invites are removed, only while the other is absent. -/
def Op.KeepsApart (w : World) : Op → Prop
  | .room (.createRoom roomId _) =>
    w.roomArc roomId = none → w.inviteStore.validCodes roomId w.clock = []
  | .room (.ensureRoom roomId) =>
    w.roomArc roomId = none → w.inviteStore.validCodes roomId w.clock = []
  | .removeRoomInvites roomId => w.roomArc roomId = none
  | _ => True

instance Op.decidableKeepsApart (w : World) (o : Op) : Decidable (o.KeepsApart w) := by
  unfold Op.KeepsApart
  split <;> infer_instance

def InviteBackendPool.KeepsApart (pool : InviteBackendPool) : BackendAct → Prop
  | .start _ => True
  | .step i _ => ∀ o ∈ pool.nextOp i, o.KeepsApart pool.shared.1

instance InviteBackendPool.decidableKeepsApart (pool : InviteBackendPool) (act : BackendAct) :
    Decidable (pool.KeepsApart act) := by
  refine act.casesOn ?_ ?_ <;> intros <;> dsimp only [InviteBackendPool.KeepsApart] <;>
    infer_instance

structure InviteHistory.Current (history : InviteHistory) (w : World) : Prop where
  stored : ∀ code record arc, w.inviteStore.invites.lookup code = some record →
    record.rejection record.roomId w.clock = none → history.born code = some arc →
    ∀ room, w.roomArc record.roomId = some room → arc = room
  sound : ∀ use ∈ history.uses, use.Sound

section

variable {record : InviteRecord} {roomId : RoomId} {now : Instant} {store store' : InviteStore}
  {w w' : World} {history : InviteHistory} {state' state : InMemoryRoomState} {code : String}
  {o : RoomOp JoinCheck} {arc : ArcId} {answer : o.Resp}

structure InviteRecord.ComesFrom (record before : InviteRecord) : Prop where
  roomId : record.roomId = before.roomId
  valid : ∀ roomId now, record.rejection roomId now = none → before.rejection roomId now = none

theorem InviteRecord.ComesFrom.refl (record : InviteRecord) : record.ComesFrom record :=
  ⟨rfl, fun _ _ => id⟩

theorem InviteRecord.rejection_eq_none_iff :
    record.rejection roomId now = none ↔ record.revoked = false
      ∧ now < record.expiresAt ∧ record.roomId = roomId ∧ record.remainingUses ≠ 0 := by
  unfold rejection
  split_ifs with hrevoked hexpired hother hused
  · simp [hrevoked]
  · simp [Nat.not_lt.mpr hexpired]
  · simp [hother]
  · simp [hused]
  · simp only [true_iff]
    exact ⟨by simpa using hrevoked, Nat.not_le.mp hexpired, not_not.mp hother, hused⟩

theorem InviteRecord.rejection_mono {now' : Instant} (hle : now ≤ now')
    (h : record.rejection roomId now' = none) : record.rejection roomId now = none := by
  rw [rejection_eq_none_iff] at h ⊢
  exact ⟨h.1, Nat.lt_of_le_of_lt hle h.2.1, h.2.2⟩

theorem InviteStore.mem_validCodes (h : store.invites.lookup code = some record)
    (hvalid : record.rejection roomId now = none) : code ∈ store.validCodes roomId now := by
  have hmem : (⟨code, record⟩ : Sigma fun _ : String => InviteRecord) ∈ store.invites.entries :=
    AList.mem_lookup_iff.mp h
  exact List.mem_map.mpr ⟨_, List.mem_filter.mpr ⟨hmem, by simpa using hvalid⟩, rfl⟩

def InviteStore.ComesFrom (store before : InviteStore) : Prop :=
  ∀ code record, store.invites.lookup code = some record →
    ∃ record', before.invites.lookup code = some record' ∧ record.ComesFrom record'

theorem InviteStore.ComesFrom.refl (store : InviteStore) : store.ComesFrom store :=
  fun _ record h => ⟨record, h, .refl record⟩

theorem InviteStore.ComesFrom.replace {record' : InviteRecord}
    (hfound : store.invites.lookup code = some record) (h : record'.ComesFrom record) :
    InviteStore.ComesFrom { store with invites := store.invites.insert code record' } store := by
  intro other found hother
  by_cases hcode : other = code
  · subst hcode
    rw [AList.lookup_insert, Option.some.injEq] at hother
    exact ⟨record, hfound, hother ▸ h⟩
  · rw [AList.lookup_insert_ne hcode] at hother
    exact ⟨found, hother, .refl found⟩

theorem JoinCheck.run_comesFrom (check : JoinCheck) (now : Instant) (store : InviteStore) :
    (check.run now store).2.ComesFrom store := by
  cases check with
  | none => exact .refl store
  | some check =>
    simp only [JoinCheck.run, InviteStore.validateAndConsume]
    split
    · exact .refl store
    · rename_i found hfound
      split
      · exact .refl store
      · refine .replace hfound ⟨rfl, fun roomId now hvalid => ?_⟩
        rw [rejection_eq_none_iff] at hvalid ⊢
        obtain ⟨hrevoked, hexpires, hroom, huses⟩ := hvalid
        exact ⟨hrevoked, hexpires, hroom, fun hzero => huses (by simp [hzero])⟩

theorem RoomOp.exec_inviteStore
    (hexec : o.exec (JoinCheck.run now) now (state, store) = (answer, state', store')) :
    store'.ComesFrom store := by
  obtain rfl : (o.exec (JoinCheck.run now) now (state, store)).2.2 = store' := by rw [hexec]
  cases o with
  | tryPush arc peerId check =>
    simp only [RoomOp.exec]
    have hrun := check.run_comesFrom now store
    split_ifs
    · exact .refl store
    · exact .refl store
    · split
      · rename_i heq
        rwa [heq] at hrun
      · rename_i heq
        rwa [heq] at hrun
  | createRoom roomId info | ensureRoom roomId =>
    simp only [RoomOp.exec]
    split <;> exact .refl store
  | pushUnlessMoving arc peerId roomId =>
    simp only [RoomOp.exec]
    split
    · split_ifs <;> exact .refl store
    · exact .refl store
  | updateInfo roomId edit =>
    simp only [RoomOp.exec]
    split <;> exact .refl store
  | _ => exact .refl store

theorem run_ok_of_inserted {peerId : PeerId} {check : JoinCheck}
    {answer : (RoomOp.tryPush arc peerId check).Resp}
    (hexec : (RoomOp.tryPush arc peerId check).exec (JoinCheck.run now) now (state, store)
      = (answer, state', store')) (hnew : peerId ∉ (state.heap arc).peers)
    (hin : peerId ∈ (state'.heap arc).peers) : (check.run now store).1 = .ok () := by
  obtain rfl : ((RoomOp.tryPush arc peerId check).exec (JoinCheck.run now) now (state, store)).2.1
      = state' := by rw [hexec]
  simp only [RoomOp.exec, hnew, if_false] at hin
  split_ifs at hin with hfull
  · exact absurd hin hnew
  · split at hin
    · exact absurd hin hnew
    · rename_i hrun
      rw [hrun]

namespace InviteHistory.Current

variable {env : Env}

section

variable (h : history.Current w)
include h

theorem keep (hclock : w.clock ≤ w'.clock) (hinvites : w'.inviteStore.ComesFrom w.inviteStore)
    (hrooms : ∀ roomId arc, w'.roomArc roomId = some arc →
      w.roomArc roomId = some arc ∨ w.inviteStore.validCodes roomId w.clock = []) :
    history.Current w' where
  stored code record arc hrecord hvalid hborn room hroom := by
    obtain ⟨record', hrecord', hfrom⟩ := hinvites code record hrecord
    have hbefore := rejection_mono hclock (hfrom.valid _ _ hvalid)
    rw [hfrom.roomId] at hroom hbefore
    rcases hrooms _ room hroom with hold | hempty
    · exact h.stored code record' arc hrecord' hbefore hborn room hold
    · have hmem := InviteStore.mem_validCodes hrecord' hbefore
      rw [hempty] at hmem
      cases hmem
  sound := h.sound

theorem add {uses : List InviteUse} (huses : ∀ use ∈ uses, use.Sound) :
    (history.add uses).Current w where
  stored := h.stored
  sound use hmem := (List.mem_append.mp hmem).elim (h.sound use) (huses use)

/-- A join of a room that is in the map consumes an invite of that incarnation. -/
theorem sound_admitted (hnow : w.clock ≤ now)
    (hrun : (JoinCheck.run now (some (code, roomId)) w.inviteStore).1 = .ok ())
    (hroom : w.roomArc roomId = some arc) :
    (InviteUse.admitted code (history.born code) arc).Sound := by
  intro born hborn
  simp only [JoinCheck.run, InviteStore.validateAndConsume] at hrun
  split at hrun
  · cases hrun
  · rename_i record hrecord
    split at hrun
    · cases hrun
    · rename_i hvalid
      obtain rfl : record.roomId = roomId := (rejection_eq_none_iff.mp hvalid).2.2.1
      exact h.stored code record born hrecord (rejection_mono hnow hvalid) hborn arc
        hroom

theorem room (hexec : (Op.room o).exec env w = some (answer, w'))
    (hapart : (Op.room o).KeepsApart w) :
    (InviteHistory.note (.room o) w answer w' history).Current w' := by
  have hroom := Op.exec_room hexec
  have hkept : history.Current w' := by
    refine h.keep (Op.clock_le hexec) (RoomOp.exec_inviteStore hroom) fun roomId arc harc => ?_
    rcases RoomOp.exec_rooms_some hroom harc with hold | ⟨hnone, ⟨info, rfl⟩ | rfl⟩
    · exact .inl hold
    · exact .inr (hapart hnone)
    · exact .inr (hapart hnone)
  cases o with
  | tryPush arc peerId check =>
    cases check with
    | none => exact hkept
    | some check =>
      obtain ⟨code, roomId⟩ := check
      simp only [InviteHistory.note]
      split_ifs with hcondition
      · obtain ⟨hlive, hnew, hin⟩ := hcondition
        refine hkept.add fun use huse => ?_
        rw [List.mem_singleton.mp huse]
        exact h.sound_admitted (Nat.le_add_right _ _) (run_ok_of_inserted hroom hnew hin) hlive
      · exact hkept
  | _ => exact hkept

theorem same (hclock : w.clock ≤ w'.clock) (hrooms : w'.roomState = w.roomState)
    (hinvites : w'.inviteStore = w.inviteStore) : history.Current w' :=
  h.keep hclock (hinvites ▸ .refl _) fun roomId arc harc => .inl (by
    rwa [World.roomArc, hrooms] at harc)

theorem generateInvite {issuerId : String} {maxUses : Option Nat}
    {answer : Except InviteError InviteRecord}
    (hexec : (Op.generateInvite roomId issuerId maxUses now).exec env w = some (answer, w')) :
    (InviteHistory.note (.generateInvite roomId issuerId maxUses now) w answer w' history).Current
      w' := by
  have hrooms : w'.roomState = w.roomState := by cases hexec; rfl
  have hgen : w.inviteStore.generate roomId issuerId maxUses now env.text
      = (answer, w'.inviteStore) := by cases hexec; rfl
  have hclock := Op.clock_le hexec
  simp only [InviteStore.generate] at hgen
  split_ifs at hgen
  · obtain ⟨rfl, hstore⟩ := Prod.mk.inj hgen
    exact h.same hclock hrooms hstore.symm
  · obtain ⟨rfl, hstore⟩ := Prod.mk.inj hgen
    exact h.same hclock hrooms hstore.symm
  · obtain ⟨rfl, hstore⟩ := Prod.mk.inj hgen
    refine ⟨fun code record arc hrecord hvalid hborn room hroom => ?_, h.sound⟩
    rw [← hstore] at hrecord
    rw [World.roomArc, hrooms] at hroom
    by_cases hcode : code = env.text
    · subst hcode
      rw [AList.lookup_insert, Option.some.injEq] at hrecord
      subst hrecord
      simp only [InviteHistory.note, Function.update_self] at hborn
      exact Option.some.inj (hborn.symm.trans hroom)
    · rw [AList.lookup_insert_ne hcode] at hrecord
      simp only [InviteHistory.note, Function.update_of_ne hcode] at hborn
      exact h.stored code record arc hrecord (rejection_mono hclock hvalid) hborn room
        hroom

theorem revokeInvite {role : ParticipantRole} {answer : Except InviteRevokeError Unit}
    (hexec : (Op.revokeInvite code roomId role).exec env w = some (answer, w')) :
    history.Current w' := by
  have hrooms : w'.roomState = w.roomState := by cases hexec; rfl
  have hstore : w'.inviteStore = (w.inviteStore.revokeAuthorized code roomId role).2 := by
    cases hexec
    rfl
  refine h.keep (Op.clock_le hexec) ?_ fun roomId arc harc => .inl ?_
  · rw [hstore]
    unfold InviteStore.revokeAuthorized
    split
    · exact .refl _
    · rename_i record hfound
      split_ifs
      · exact .refl _
      · exact .refl _
      · refine .replace hfound ⟨rfl, fun roomId now hvalid => ?_⟩
        rw [rejection_eq_none_iff] at hvalid
        cases hvalid.1
  · rwa [World.roomArc, hrooms] at harc

theorem removeRoomInvites {answer : Unit}
    (hexec : (Op.removeRoomInvites roomId).exec env w = some (answer, w'))
    (hapart : w.roomArc roomId = none) :
    (InviteHistory.note (.removeRoomInvites roomId) w answer w' history).Current w' := by
  have hrooms : w'.roomState = w.roomState := by cases hexec; rfl
  have hstore : w'.inviteStore = w.inviteStore.removeRoomInvites roomId := by cases hexec; rfl
  have hkept : history.Current w' := by
    refine h.keep (Op.clock_le hexec) (fun code record hrecord => ?_) fun roomId arc harc => .inl ?_
    · rw [hstore, InviteStore.removeRoomInvites, HashMap.lookup_retain,
        Option.filter_eq_some_iff] at hrecord
      exact ⟨record, hrecord.1, .refl record⟩
    · rwa [World.roomArc, hrooms] at harc
  refine hkept.add fun use huse => ?_
  obtain ⟨code, -, rfl⟩ := List.mem_map.mp huse
  intro arc _ harc
  rw [hapart] at harc
  cases harc

theorem step {o : Op} {answer : o.Resp} (hexec : o.exec env w = some (answer, w'))
    (hapart : o.KeepsApart w) : (InviteHistory.note o w answer w' history).Current w' := by
  have hother : o.onInvites = false → history.Current w' := by
    intro ho
    refine h.same (Op.clock_le hexec) ?_ (Op.exec_inviteStore hexec ho)
    rcases Op.exec_roomState hexec with hsame | ⟨ro, rfl, -⟩
    · exact hsame
    · cases ho
  cases o with
  | room o => exact h.room hexec hapart
  | generateInvite roomId issuerId maxUses now => exact h.generateInvite hexec
  | revokeInvite code roomId role => exact h.revokeInvite hexec
  | removeRoomInvites roomId => exact h.removeRoomInvites hexec hapart
  | _ => exact hother rfl

end

end InviteHistory.Current

end

theorem InviteHistory.current_initial (config : Config) (db : ChannelDb) :
    InviteHistory.Current ⟨fun _ => none, []⟩ (World.initial config db) where
  stored _ _ _ hrecord := by cases hrecord
  sound _ huse := by cases huse

/-- **Invites and incarnations.** -/
theorem invite_uses_sound (config : Config) (db : ChannelDb) {pool : InviteBackendPool}
    (hreach : (inviteBackend config).Reach
      (fun pool act => BackendPool.Usage pool.erased act ∧ InviteBackendPool.KeepsApart pool act)
      (InviteBackendPool.initial config db) pool) :
    ∀ use ∈ pool.shared.2.uses, use.Sound := by
  have hcurrent : pool.shared.2.Current pool.shared.1 := by
    refine hreach.shared_invariant (I := fun s => s.2.Current s.1)
      (InviteHistory.current_initial config db) ?_
    intro pool i env o answer shared h hallowed hop hexec
    obtain ⟨hbackend, hnote⟩ := System.exec_annotated hexec
    rw [hnote]
    exact h.step hbackend (hallowed.2 o hop)
  exact hcurrent.sound

def inviteServer : Config := { openServer with requireInviteCode := true }

def joinWithInvite (roomId : RoomId) (code : String) : SignalingMessage :=
  .join { roomId, roomType := some "p2p", inviteCode := some code, displayName := none,
          profileColor := none }

/-- A room is created, joined with its invite and left by both peers, whose departure removes the
invite; it is created again and joined with a new one. -/
theorem invite_uses_sound_two_peers :
    ∃ pool : InviteBackendPool, pool.shared.2.uses.length = 3
      ∧ ∀ use ∈ pool.shared.2.uses, use.Sound := by
  obtain ⟨pool, hreach, htest⟩ := System.exists_reach_of_replay (inviteBackend inviteServer)
    (fun pool act => BackendPool.Usage pool.erased act ∧ InviteBackendPool.KeepsApart pool act)
    (InviteBackendPool.initial inviteServer .empty)
    (opens 0 none ++ opens 1 none ++ opens 2 none ++ opens 3 none
      ++ .start (.message "peer-1" (createP2p "room"))
      :: .replicate 15 (.step 4 { text := "first" })
      ++ .start (.message "peer-2" (joinWithInvite "room" "first"))
      :: .replicate 16 (.step 5 {})
      ++ .start (.disconnect "peer-1") :: .replicate 12 (.step 6 {})
      ++ .start (.disconnect "peer-2") :: .replicate 13 (.step 7 {})
      ++ .start (.message "peer-3" (createP2p "room"))
      :: .replicate 15 (.step 8 { text := "second" })
      ++ .start (.message "peer-4" (joinWithInvite "room" "second"))
      :: .replicate 16 (.step 9 {}))
    (fun pool => pool.shared.2.uses.length = 3) (by decide)
  exact ⟨pool, htest, invite_uses_sound inviteServer .empty hreach⟩

/-- A room is created again before its invites are removed, and a peer enters with an old one. -/
def recreatedRoom : List BackendAct :=
  opens 0 none ++ opens 1 none ++ opens 2 none
    ++ .start (.message "peer-1" (createP2p "room"))
    :: List.replicate 15 (.step 3 { text := "first" })
    ++ .start (.message "peer-1" .leave) :: List.replicate 12 (.step 4 {})
    ++ .start (.message "peer-2" (createP2p "room"))
    :: List.replicate 15 (.step 5 { text := "second" })
    ++ .start (.message "peer-3" (joinWithInvite "room" "first")) :: List.replicate 10 (.step 6 {})

theorem not_invite_uses_sound :
    ¬ ∀ (config : Config) (db : ChannelDb) (pool : InviteBackendPool),
      (inviteBackend config).Reach (fun pool act => BackendPool.Usage pool.erased act)
        (InviteBackendPool.initial config db) pool →
      ∀ use ∈ pool.shared.2.uses, use.Sound := by
  intro h
  obtain ⟨pool, hreach, htest⟩ := System.exists_reach_of_replay (inviteBackend inviteServer)
    (fun pool act => BackendPool.Usage pool.erased act)
    (InviteBackendPool.initial inviteServer .empty) recreatedRoom
    (fun pool => ¬ ∀ use ∈ pool.shared.2.uses, use.Sound) (by decide)
  exact htest (h inviteServer .empty pool hreach)

end Wavis
