import Wavis.Proof.Bans

/-! While somebody whose row is banned is listed in the channel's active room, some ban request has
the user still to look for, or has not yet finished kicking it. -/

namespace Wavis

open Concurrency InMemoryRoomState List

def World.Banned (w : World) (channelId userId : Uuid) : Prop :=
  ∃ membership ∈ w.db.memberships.lookup (channelId, userId), membership.bannedAt.isSome = true

def World.Listed (w : World) (roomId : RoomId) (peerId : PeerId) (userId : Uuid) : Prop :=
  ∃ members ∈ w.roomState.find roomId, ∃ participant ∈ members.info.participants,
    participant.participantId = peerId ∧ participant.userId = some userId.text

structure World.Lingers (w : World) (channelId userId : Uuid) (roomId : RoomId)
    (peerId : PeerId) : Prop where
  banned : w.Banned channelId userId
  active : w.activeRoomMap.lookup channelId = some roomId
  listed : w.Listed roomId peerId userId

namespace BanPhase

def stillLooks (channelId userId : Uuid) (roomId : RoomId) : BanPhase → Bool
  | committed channelId' userId' => channelId' = channelId && userId' = userId
  | looking channelId' userId' roomId' =>
    channelId' = channelId && userId' = userId && roomId' = roomId
  | _ => false

def Covers (channelId userId : Uuid) (roomId : RoomId) (peerId : PeerId) (φ : BanPhase) : Prop :=
  φ.stillLooks channelId userId roomId = true ∨ φ = found roomId peerId ∨ φ = kicking roomId peerId

end BanPhase

def RoomInfo.OnePeer (info : RoomInfo) (userId : Uuid) : Prop :=
  ∀ participant ∈ info.participants, ∀ other ∈ info.participants,
    participant.userId = some userId.text → other.userId = some userId.text →
    participant.participantId = other.participantId

/-- Whoever is added although the row is banned is still to be looked for. -/
def BackendPool.StillLooked (pool : BackendPool) (roomId : RoomId)
    (participant : ParticipantInfo) : Prop :=
  ∀ row ∈ pool.shared.db.memberships.entries, row.2.bannedAt.isSome = true →
    pool.shared.activeRoomMap.lookup row.1.1 = some roomId →
    participant.userId = some row.1.2.text →
    ∃ thread ∈ pool.threads, (banPhase thread).stillLooks row.1.1 row.1.2 roomId = true

/-- The step does not fall between a ban and its enforcement. -/
def BackendPool.BanCurrentOp (pool : BackendPool) (φ : BanPhase) : Op → Prop
  | .room (.updateInfo roomId edit) =>
    (pool.shared.roomState.find roomId).isSome = true →
      ∀ participant ∈ edit.adds, pool.StillLooked roomId participant
  | .room (.readRoom roomId) =>
    match φ with
    | .looking _ userId _ => ∀ members ∈ pool.shared.roomState.find roomId,
        members.info.OnePeer userId
    | _ => True
  | .publishActiveRoom _ roomId =>
    ∀ members ∈ pool.shared.roomState.find roomId, members.info.participants = []
  | _ => True

def BackendPool.BanCurrent (pool : BackendPool) : BackendAct → Prop
  | .start _ => True
  | .step i _ =>
    match pool.threads[i]? with
    | some ⟨call, trace, .op o rest⟩ => pool.BanCurrentOp (banPhase ⟨call, trace, .op o rest⟩) o
    | _ => True

instance (info : RoomInfo) (userId : Uuid) : Decidable (info.OnePeer userId) := by
  unfold RoomInfo.OnePeer
  infer_instance

instance (pool : BackendPool) (roomId : RoomId)
    (participant : ParticipantInfo) : Decidable (pool.StillLooked roomId participant) := by
  unfold BackendPool.StillLooked
  infer_instance

instance (pool : BackendPool) (φ : BanPhase) (o : Op) : Decidable (pool.BanCurrentOp φ o) := by
  unfold BackendPool.BanCurrentOp
  split
  · infer_instance
  · split <;> infer_instance
  · infer_instance
  · infer_instance

instance (pool : BackendPool) (act : BackendAct) : Decidable (pool.BanCurrent act) :=
  match act with
  | .start _ => instDecidableTrue
  | .step i _ => by
    dsimp only [BackendPool.BanCurrent]
    generalize pool.threads[i]? = thread
    exact match thread with
      | none | some ⟨_, _, .ret _⟩ => instDecidableTrue
      | some ⟨_, _, .op _ _⟩ => inferInstance

theorem BackendPool.BanCurrent.op {pool : BackendPool} {i : Nat} {env : Env}
    {call : BackendCall} {trace : List ((o : Op) × o.Resp)} {o : Op}
    {rest : o.Resp → BackendProg call.Ret} (h : pool.BanCurrent (.step i env))
    (hget : pool.threads[i]? = some ⟨call, trace, .op o rest⟩) :
    pool.BanCurrentOp (banPhase ⟨call, trace, .op o rest⟩) o := by
  simp only [BackendPool.BanCurrent, hget] at h
  exact h

section

variable {w w' : World} {o : Op} {env : Env} {answer : o.Resp} {channelId userId : Uuid}
  {roomId : RoomId}

section

variable (hexec : o.exec env w = some (answer, w'))
include hexec

theorem active_of_exec (h : w'.activeRoomMap.lookup channelId = some roomId) :
    w.activeRoomMap.lookup channelId = some roomId ∨ o = .publishActiveRoom channelId roomId := by
  have herased : ∀ channelId', (w.activeRoomMap.erase channelId').lookup channelId = some roomId →
      w.activeRoomMap.lookup channelId = some roomId := by
    intro channelId' herase
    by_cases hchannel : channelId = channelId'
    · subst hchannel
      rw [AList.lookup_erase] at herase
      cases herase
    · exact (AList.lookup_erase_ne hchannel).symm.trans herase
  cases o with
  | publishActiveRoom channelId' roomId' =>
    cases hexec
    have hinsert : (w.activeRoomMap.insert channelId' roomId').lookup channelId
        = some roomId := h
    by_cases hchannel : channelId = channelId'
    · subst hchannel
      rw [AList.lookup_insert, Option.some.injEq] at hinsert
      exact .inr (by rw [hinsert])
    · exact Or.inl ((AList.lookup_insert_ne hchannel).symm.trans hinsert)
  | lockActiveRoom channelId' =>
    obtain ⟨-, -, rfl⟩ := Op.exec_lockActiveRoom hexec
    exact .inl h
  | unlockActiveRoom =>
    cases hexec
    exact .inl h
  | evictActiveRoom channelId' =>
    cases hexec
    exact .inl (herased channelId' h)
  | removeActiveRoomIf channelId' roomId' =>
    obtain ⟨-, ⟨-, rfl⟩ | ⟨-, rfl⟩⟩ := Op.exec_removeActiveRoomIf hexec
    · exact .inl (herased channelId' h)
    · exact .inl h
  | _ =>
    rw [(Op.exec_activeRooms hexec rfl).1] at h
    exact .inl h

theorem banned_of_exec (h : w'.Banned channelId userId) :
    w.Banned channelId userId ∨ ∀ φ, BanPhase.next φ o answer = .committed channelId userId := by
  by_cases hcommit : ∃ channelId' userId' bannedAt, o = .commitBan channelId' userId' bannedAt
  · obtain ⟨channelId', userId', bannedAt, rfl⟩ := hcommit
    simp only [Op.exec, Op.run] at hexec
    split at hexec
    · cases hexec
      exact .inl h
    · cases hexec
      exact .inl h
    · rename_i membership hfault hrow
      cases hexec
      by_cases hsame : (channelId, userId) = (channelId', userId')
      · cases hsame
        exact .inr fun φ => by cases φ <;> rfl
      · obtain ⟨membership', hlookup, hsome⟩ := h
        exact Or.inl ⟨membership', (AList.lookup_insert_ne hsame).symm.trans hlookup, hsome⟩
  · refine .inl ?_
    unfold World.Banned at h ⊢
    rw [Op.exec_memberships hexec fun channelId' userId' bannedAt heq =>
      hcommit ⟨channelId', userId', bannedAt, heq⟩] at h
    exact h

theorem listed_of_exec {φ : BanPhase} {peerId : PeerId} (hmay : φ.May o)
    (h : w'.Listed roomId peerId userId) :
    w.Listed roomId peerId userId ∨ ∃ edit participant, o = .room (.updateInfo roomId edit)
      ∧ (w.roomState.find roomId).isSome = true ∧ edit.adds = some participant
      ∧ participant.userId = some userId.text := by
  obtain ⟨members', hfind, participant, hmem, rfl, huser⟩ := h
  rcases Op.exec_roomState hexec with hsame | ⟨ro, rfl, -⟩
  · rw [hsame] at hfind
    exact .inl ⟨members', hfind, participant, hmem, rfl, huser⟩
  rcases RoomOp.find_exec (Op.exec_room hexec) hfind with hcreates | ⟨members, hold, hinfo⟩
  · have hnobody : members'.info.participants = [] := by
      cases ro <;> simp only [RoomOp.creates] at hcreates <;> try cases hcreates
      case createRoom roomId' info =>
          split_ifs at hcreates
          rw [← Option.some.inj hcreates]
          exact hmay
      case ensureRoom roomId' =>
          split_ifs at hcreates
          rw [← Option.some.inj hcreates]
          rfl
    rw [hnobody] at hmem
    cases hmem
  · cases hedits : ro.edits w.roomState roomId with
    | none =>
      rw [hedits] at hinfo
      rw [show members'.info = members.info from hinfo] at hmem
      exact .inl ⟨members, hold, participant, hmem, rfl, huser⟩
    | some edit =>
      rw [hedits] at hinfo
      rw [show members'.info = edit.apply _ members.peers members.info from hinfo] at hmem
      rcases InfoEdit.mem_participants_apply hmem with hadds | ⟨old, hmemOld, hid, hsameUser⟩
      · cases ro <;> simp only [RoomOp.edits] at hedits <;> try cases hedits
        case updateInfo roomId' edit' =>
            split_ifs at hedits with hroom
            obtain rfl := Option.some.inj hedits
            subst hroom
            exact .inr ⟨edit', participant, rfl, by rw [hold]; rfl, hadds, huser⟩
        case updateObject arc edit' =>
            split_ifs at hedits
            obtain rfl := Option.some.inj hedits
            rw [show edit'.adds = none from hmay] at hadds
            cases hadds
      · exact .inl ⟨members, hold, old, hmemOld, hid, hsameUser.trans huser⟩

end

end

namespace BanPhase

variable {φ : BanPhase} {w w' : World} {o : Op} {env : Env} {answer : o.Resp}
  {channelId userId : Uuid} {roomId : RoomId} {peerId : PeerId} {participant : ParticipantInfo}

theorem next_adds {edit : InfoEdit} {answer : Option (RoomMembers × Instant)}
    (h : edit.adds = some participant) : φ.next (.room (.updateInfo roomId edit)) answer = φ := by
  cases edit <;> cases h <;> cases φ <;> rfl

theorem findUser_of_onePeer {info : RoomInfo} (hone : info.OnePeer userId)
    (hmem : participant ∈ info.participants) (huser : participant.userId = some userId.text) :
    info.findUser userId = some participant.participantId := by
  unfold RoomInfo.findUser
  cases hfind : info.participants.find? (·.userId = some userId.text) with
  | none =>
    have hnone := find?_eq_none.mp hfind participant hmem
    simp [huser] at hnone
  | some other =>
    have hother := find?_some hfind
    have hsame := hone other (mem_of_find?_eq_some hfind) participant hmem
      (by simpa using hother) huser
    rw [Option.map_some, hsame]

theorem kick_drops {answer : Option (RoomMembers × Instant)}
    (hexec : (Op.room (.updateInfo roomId (.kick peerId))).exec env w = some (answer, w')) :
    ¬ w'.Listed roomId peerId userId := by
  rintro ⟨members', hfind, participant, hmem, rfl, -⟩
  rcases RoomOp.find_exec (Op.exec_room hexec) hfind with hcreates | ⟨members, -, hinfo⟩
  · cases hcreates
  · have hedits : RoomOp.edits w.roomState roomId
        (.updateInfo roomId (.kick participant.participantId) : RoomOp JoinCheck)
        = some (.kick participant.participantId) := if_pos rfl
    rw [hedits] at hinfo
    rw [show members'.info = InfoEdit.apply _ members.peers members.info
      (.kick participant.participantId) from hinfo] at hmem
    have hfilter := of_mem_filter hmem
    simp at hfilter

/-- A request that is on its way to a participant keeps going until the participant is gone. -/
theorem Covers.next {pool : BackendPool} (h : φ.Covers channelId userId roomId peerId)
    (hmay : φ.May o) (hcurrent : pool.BanCurrentOp φ o)
    (hexec : o.exec env pool.shared = some (answer, w'))
    (hbefore : pool.shared.Lingers channelId userId roomId peerId)
    (hafter : w'.Lingers channelId userId roomId peerId) :
    (φ.next o answer).Covers channelId userId roomId peerId := by
  obtain ⟨members, hfind, participant, hmem, rfl, huser⟩ := hbefore.listed
  rw [Option.mem_def] at hfind
  cases φ with
  | idle => rcases h with h | h | h <;> cases h
  | committed channelId' userId' =>
    obtain ⟨rfl, rfl⟩ : channelId' = channelId ∧ userId' = userId := by
      rcases h with h | h | h
      · simpa [stillLooks] using h
      · cases h
      · cases h
    cases o with
    | readActiveRoom channelId =>
      obtain rfl : channelId' = channelId := hmay
      rw [Op.exec_readActiveRoom hexec, hbefore.active]
      exact .inl (by simp [BanPhase.next, stillLooks])
    | commitBan channelId userId bannedAt => cases hmay
    | room ro =>
      cases ro with
      | updateInfo roomId' edit => cases edit <;> exact h
      | _ => exact h
    | _ => exact h
  | looking channelId' userId' roomId' =>
    obtain ⟨⟨rfl, rfl⟩, rfl⟩ : (channelId' = channelId ∧ userId' = userId)
        ∧ roomId' = roomId := by
      rcases h with h | h | h
      · simpa [stillLooks] using h
      · cases h
      · cases h
    cases o with
    | commitBan channelId userId bannedAt => cases hmay
    | room ro =>
      cases ro with
      | readRoom roomId =>
        obtain rfl : roomId' = roomId := hmay
        have hone : members.info.OnePeer userId' := hcurrent members hfind
        rw [← (Prod.mk.inj (Op.exec_room hexec)).1]
        refine .inr (.inl ?_)
        simp [BanPhase.next, hfind, findUser_of_onePeer hone hmem huser]
      | updateInfo roomId' edit => cases edit <;> exact h
      | _ => exact h
    | _ => exact h
  | found roomId' peerId' =>
    obtain ⟨rfl, rfl⟩ : roomId' = roomId ∧ peerId' = participant.participantId := by
      rcases h with h | h | h
      · cases h
      · simpa using h
      · cases h
    cases o with
    | commitBan channelId userId bannedAt => cases hmay
    | room ro =>
      cases ro with
      | readRoom roomId =>
        obtain rfl : roomId' = roomId := hmay
        have hlists : members.info.lists participant.participantId = true :=
          any_eq_true.mpr ⟨participant, hmem, by simp⟩
        rw [← (Prod.mk.inj (Op.exec_room hexec)).1]
        refine .inr (.inr ?_)
        simp [BanPhase.next, hfind, hlists]
      | updateInfo roomId' edit => cases edit <;> exact h
      | _ => exact h
    | _ => exact h
  | kicking roomId' peerId' =>
    obtain ⟨rfl, rfl⟩ : roomId' = roomId ∧ peerId' = participant.participantId := by
      rcases h with h | h | h
      · cases h
      · cases h
      · simpa using h
    cases o with
    | commitBan channelId userId bannedAt => cases hmay
    | room ro =>
      cases ro with
      | updateInfo roomId edit =>
        cases edit with
        | kick peerId =>
          obtain ⟨rfl, rfl⟩ := hmay
          exact absurd hafter.listed (kick_drops hexec)
        | _ => exact h
      | _ => exact h
    | _ => exact h

end BanPhase

/-- A ban request is on its way to everybody who lingers. -/
def BanInv (pool : BackendPool) : Prop :=
  ∀ channelId userId roomId peerId, pool.shared.Lingers channelId userId roomId peerId →
    ∃ thread ∈ pool.threads, (banPhase thread).Covers channelId userId roomId peerId

namespace BanInv

variable {pool : BackendPool} {i : Nat}

theorem initial (config : Config) (db : ChannelDb) : BanInv (BackendPool.initial config db) := by
  intro channelId userId roomId peerId h
  cases h.active

theorem start (h : BanInv pool) (config : Config) (call : BackendCall) :
    BanInv { pool with threads := pool.threads ++ [(backend config).spawn call] } := by
  intro channelId userId roomId peerId hlingers
  obtain ⟨thread, hthread, hcovers⟩ := h channelId userId roomId peerId hlingers
  exact ⟨thread, mem_append_left _ hthread, hcovers⟩

theorem covered_set {old new : BackendThread} {p q : BanPhase → Prop}
    (hget : pool.threads[i]? = some old) (h : ∃ thread ∈ pool.threads, p (banPhase thread))
    (hother : ∀ φ, p φ → q φ) (hself : p (banPhase old) → q (banPhase new)) :
    ∃ thread ∈ pool.threads.set i new, q (banPhase thread) := by
  obtain ⟨thread, hthread, hp⟩ := h
  obtain ⟨j, hj⟩ := mem_iff_getElem?.mp hthread
  by_cases hji : j = i
  · subst hji
    obtain rfl : old = thread := Option.some.inj (hget.symm.trans hj)
    have hlt : j < pool.threads.length := (List.getElem?_eq_some_iff.mp hget).1
    exact ⟨new, mem_iff_getElem?.mpr ⟨j, by rw [getElem?_set_self hlt]⟩, hself hp⟩
  · refine ⟨thread, mem_iff_getElem?.mpr ⟨j, ?_⟩, hother _ hp⟩
    rw [getElem?_set_ne (Ne.symm hji), hj]

theorem step {env : Env} {call : BackendCall} {trace : List ((o : Op) × o.Resp)} {o : Op}
    {rest : o.Resp → BackendProg call.Ret} {answer : o.Resp} {shared : World} (h : BanInv pool)
    (hget : pool.threads[i]? = some ⟨call, trace, .op o rest⟩)
    (hmay : (banPhase ⟨call, trace, .op o rest⟩).May o)
    (hcurrent : pool.BanCurrentOp (banPhase ⟨call, trace, .op o rest⟩) o)
    (hexec : o.exec env pool.shared = some (answer, shared)) :
    BanInv ⟨shared, pool.threads.set i ⟨call, trace ++ [⟨o, answer⟩], rest answer⟩⟩ := by
  have hphase : banPhase ⟨call, trace ++ [⟨o, answer⟩], rest answer⟩
      = (banPhase ⟨call, trace, .op o rest⟩).next o answer :=
    banProtocol.phase_step call trace o rest answer
  intro channelId userId roomId peerId hafter
  have hkept : pool.shared.Lingers channelId userId roomId peerId → ∃ thread ∈
      pool.threads.set i ⟨call, trace ++ [⟨o, answer⟩], rest answer⟩,
      (banPhase thread).Covers channelId userId roomId peerId := by
    intro hbefore
    refine covered_set hget (h channelId userId roomId peerId hbefore) (fun _ => id) ?_
    intro hcovers
    rw [hphase]
    exact hcovers.next hmay hcurrent hexec hbefore hafter
  rcases banned_of_exec hexec hafter.banned with hbanned | hcommitted
  swap
  · -- The ban that has just been stored is about to be looked into.
    have hlt : i < pool.threads.length := (List.getElem?_eq_some_iff.mp hget).1
    refine ⟨_, mem_iff_getElem?.mpr ⟨i, getElem?_set_self hlt⟩, Or.inl ?_⟩
    rw [hphase, hcommitted]
    simp [BanPhase.stillLooks]
  rcases active_of_exec hexec hafter.active with hactive | rfl
  swap
  · obtain ⟨members, hfind, participant, hmem, -⟩ := hafter.listed
    cases hexec
    rw [hcurrent members hfind] at hmem
    cases hmem
  rcases listed_of_exec hexec hmay hafter.listed with
    hlisted | ⟨edit, participant, rfl, hfind, hadds, huser⟩
  · exact hkept ⟨hbanned, hactive, hlisted⟩
  · obtain ⟨membership, hrow, hsome⟩ := hbanned
    have hlooked := hcurrent hfind participant hadds ⟨(channelId, userId), membership⟩
      (AList.mem_lookup_iff.mp hrow) hsome hactive huser
    refine covered_set hget hlooked (fun _ => .inl) ?_
    intro hstill
    rw [hphase, BanPhase.next_adds hadds]
    exact .inl hstill

end BanInv

def World.BannedAbsent (w : World) : Prop :=
  ∀ channelId userId roomId members, w.Banned channelId userId →
    w.activeRoomMap.lookup channelId = some roomId → w.roomState.find roomId = some members →
    ∀ participant ∈ members.info.participants, participant.userId ≠ some userId.text

/-- **Banned users are not in voice** when all calls have returned. -/
theorem bannedAbsent_of_current (config : Config) (db : ChannelDb) (pool : BackendPool)
    (hreach : (backend config).Reach
      (fun pool act => BackendPool.VoiceUsage pool act ∧ BackendPool.BanCurrent pool act)
      (BackendPool.initial config db) pool)
    (hquiescent : pool.Quiescent) : pool.shared.BannedAbsent := by
  obtain ⟨hinv, hholds⟩ : BanInv pool ∧ ∀ thread ∈ pool.threads, banProtocol.Holds thread := by
    refine System.Reach.invariant
      (fun pool call hstart => voiceCall_holds_ban config hstart.1.2) rfl
      (BanInv.initial config db) ?_ ?_ hreach
    · intro pool call h _
      exact h.start config call
    · intro pool i env call trace o rest answer shared h hallowed hget hmay _ hexec
      exact h.step hget hmay (BackendPool.BanCurrent.op hallowed.2 hget) hexec
  intro channelId userId roomId members hbanned hactive hfind participant hmem huser
  obtain ⟨thread, hthread, hcovers⟩ := hinv channelId userId roomId participant.participantId
    ⟨hbanned, hactive, members, hfind, participant, hmem, rfl, huser⟩
  have hidle : banPhase thread = .idle := by
    have hpost := hholds thread hthread
    have hreturned := hquiescent thread hthread
    obtain ⟨call, trace, rest⟩ := thread
    cases rest with
    | ret a => exact hpost
    | op o rest => cases hreturned
  rw [hidle] at hcovers
  rcases hcovers with h | h | h <;> cases h

/-- A member who is listed after the ban was stored and before the look is found. -/
theorem bannedAbsent_of_current_ejected :
    ∃ pool : BackendPool, pool.Quiescent ∧ pool.shared.Banned lobby bob
      ∧ (pool.shared.activeRoomMap.lookup lobby).isSome = true ∧ pool.shared.BannedAbsent := by
  obtain ⟨pool, hreach, hquiescent, hbanned, hactive⟩ :=
    System.exists_reach_of_replay (backend openServer)
    (fun pool act => BackendPool.VoiceUsage pool act ∧ BackendPool.BanCurrent pool act)
    (BackendPool.initial openServer lobbyDb)
    (opens 0 (some alice) ++ opens 1 (some bob)
      ++ .start (.message "peer-1" joinLobby) :: .replicate 36 (.step 2 {})
      ++ .start (.message "peer-2" joinLobby) :: .replicate 17 (.step 3 {})
      ++ .start (.banMember lobby alice bob) :: .replicate 6 (.step 4 {})
      ++ .step 3 {} :: .replicate 21 (.step 4 {}) ++ .replicate 19 (.step 3 {}))
    (fun pool => pool.Quiescent
      ∧ (∃ membership ∈ pool.shared.db.memberships.lookup (lobby, bob),
        membership.bannedAt.isSome = true)
      ∧ (pool.shared.activeRoomMap.lookup lobby).isSome = true) (by decide)
  exact ⟨pool, hquiescent, hbanned, hactive,
    bannedAbsent_of_current openServer lobbyDb pool hreach hquiescent⟩

/-- The ban is stored and enforced between the check of a join and its insertion. -/
theorem not_bannedAbsent :
    ¬ ∀ (config : Config) (db : ChannelDb) (pool : BackendPool),
      (backend config).Reach BackendPool.VoiceUsage (BackendPool.initial config db) pool →
      pool.Quiescent → pool.shared.BannedAbsent := by
  intro h
  obtain ⟨pool, hreach, hquiescent, hbanned, roomId, hactive, members, hfind, participant, hmem,
    huser⟩ :=
    System.exists_reach_of_replay (backend openServer)
    BackendPool.VoiceUsage (BackendPool.initial openServer lobbyDb)
    (opens 0 (some bob) ++ .start (.message "peer-1" joinLobby) :: replicate 6 (.step 1 {})
      ++ .start (.banMember lobby alice bob) :: replicate 7 (.step 2 {})
      ++ replicate 30 (.step 1 {}))
    (fun pool => pool.Quiescent
      ∧ (∃ membership ∈ pool.shared.db.memberships.lookup (lobby, bob),
        membership.bannedAt.isSome = true)
      ∧ ∃ roomId ∈ pool.shared.activeRoomMap.lookup lobby,
        ∃ members ∈ pool.shared.roomState.find roomId,
          ∃ participant ∈ members.info.participants, participant.userId = some bob.text)
    (by decide)
  exact h openServer lobbyDb pool hreach hquiescent lobby bob roomId members hbanned hactive hfind
    participant hmem huser

end Wavis
