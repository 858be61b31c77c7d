import Wavis.Proof.VoicePrograms

/-! What a voice join has read under the lock stays true until it gives the lock back: rooms are
created under the lock only, and all other writers of the map have to wait. -/

namespace Wavis

open Concurrency

abbrev voicePhase (thread : BackendThread) : VoicePhase := voiceProtocol.phase thread

theorem voicePhase_step (call : BackendCall) (trace : List ((o : Op) × o.Resp)) (o : Op)
    (rest : o.Resp → BackendProg call.Ret) (answer : o.Resp) :
    voicePhase ⟨call, trace ++ [⟨o, answer⟩], rest answer⟩
      = (voicePhase ⟨call, trace, .op o rest⟩).next o answer :=
  voiceProtocol.phase_step call trace o rest answer

namespace LockPhase

def holder : LockPhase → Option Unit
  | free => none
  | _ => some ()

def Knows (w : World) : LockPhase → Prop
  | free => True
  | held channelId roomId => w.activeRoomMap.lookup channelId = some roomId
  | gone channelId roomId => w.activeRoomMap.lookup channelId = some roomId
      ∧ w.roomState.rooms.lookup roomId = none
  | vacant channelId => w.activeRoomMap.lookup channelId = none

theorem Knows.of_eq {w w' : World} {φ : LockPhase} (h : φ.Knows w)
    (hactive : w'.activeRoomMap = w.activeRoomMap)
    (hrooms : ∀ roomId, w.roomState.rooms.lookup roomId = none →
      w'.roomState.rooms.lookup roomId = none) : φ.Knows w' := by
  cases φ with
  | free => trivial
  | held channelId roomId =>
    simp only [Knows, hactive]
    exact h
  | gone channelId roomId =>
    simp only [Knows, hactive]
    exact ⟨h.1, hrooms roomId h.2⟩
  | vacant channelId =>
    simp only [Knows, hactive]
    exact h

theorem next_eq {φ : LockPhase} {o : Op} (answer : o.Resp) (ho : o.onActiveRooms = false)
    (hread : ∀ roomId, o ≠ .room (.readRoom roomId)) : φ.next o answer = φ := by
  cases o with
  | room ro =>
    cases ro with
    | readRoom roomId => exact absurd rfl (hread roomId)
    | _ => cases φ <;> rfl
  | _ => first | (cases φ <;> rfl) | cases ho

theorem next_readRoom (φ : LockPhase) (roomId : RoomId) (answer : Option RoomMembers) :
    φ.next (.room (.readRoom roomId)) answer = φ
      ∨ ∃ channelId, φ = .held channelId roomId ∧ answer = none
        ∧ φ.next (.room (.readRoom roomId)) answer = .gone channelId roomId := by
  cases φ with
  | held channelId roomId' =>
    cases answer with
    | some members => exact .inl rfl
    | none =>
      by_cases hroom : roomId = roomId'
      · subst hroom
        exact .inr ⟨channelId, rfl, rfl, if_pos rfl⟩
      · exact .inl (if_neg hroom)
  | _ => exact .inl rfl

end LockPhase

structure LockInv (pool : BackendPool) : Prop where
  exclusive : Exclusive (fun thread => (voicePhase thread).lock.holder) pool.threads
  locked : ∀ thread ∈ pool.threads, (voicePhase thread).lock ≠ .free →
    pool.shared.activeRoomLocked = true
  knows : ∀ thread ∈ pool.threads, (voicePhase thread).lock.Knows pool.shared

namespace LockInv

variable {pool : BackendPool} {thread new : BackendThread} {shared : World} {i : Nat}

theorem initial (config : Config) (db : ChannelDb) : LockInv (BackendPool.initial config db) := by
  refine ⟨.nil _, ?_, ?_⟩ <;> intro thread hthread <;> cases hthread

section

variable (h : LockInv pool)
include h

theorem start (config : Config) (call : BackendCall) :
    LockInv { pool with threads := pool.threads ++ [(backend config).spawn call] } := by
  have hfree : (voicePhase ((backend config).spawn call)).lock = .free := rfl
  refine ⟨?_, ?_, ?_⟩
  · apply h.exclusive.concat
    intro thread _ b hb
    rw [hfree] at hb
    cases hb
  · intro thread hthread
    rcases List.mem_append.mp hthread with hold | hnew
    · exact h.locked thread hold
    · rw [List.mem_singleton] at hnew
      subst hnew
      exact fun hne => absurd hfree hne
  · intro thread hthread
    rcases List.mem_append.mp hthread with hold | hnew
    · exact h.knows thread hold
    · rw [List.mem_singleton] at hnew
      subst hnew
      rw [hfree]
      trivial

/-- While the lock is free, no thread is in the middle of anything. -/
theorem free_of_unlocked (hlocked : pool.shared.activeRoomLocked = false)
    (hthread : thread ∈ pool.threads) : (voicePhase thread).lock = .free := by
  by_contra hne
  rw [h.locked thread hthread hne] at hlocked
  cases hlocked

/-- Beside the holder of the lock, no thread is in the middle of anything. -/
theorem free_of_holder {j : Nat} {holder : BackendThread} (hi : pool.threads[i]? = some holder)
    (hholder : (voicePhase holder).lock ≠ .free) (hji : j ≠ i)
    (hj : pool.threads[j]? = some thread) : (voicePhase thread).lock = .free := by
  by_contra hne
  have hown : ∀ φ : LockPhase, φ ≠ .free → φ.holder = some () := by
    intro φ hφ
    cases φ <;> first | rfl | exact absurd rfl hφ
  exact hji (h.exclusive j i thread holder () hj hi (hown _ hne) (hown _ hholder))

/-- A step on the map or its lock: no other thread is in the middle of anything. -/
theorem move
    (hothers : ∀ j thread, j ≠ i → pool.threads[j]? = some thread →
      (voicePhase thread).lock = .free)
    (hlocked : (voicePhase new).lock ≠ .free → shared.activeRoomLocked = true)
    (hknows : (voicePhase new).lock.Knows shared) : LockInv ⟨shared, pool.threads.set i new⟩ := by
  refine ⟨?_, ?_, ?_⟩
  · apply h.exclusive.set
    intro j thread hji hj b _ hb
    simp only [hothers j thread hji hj, LockPhase.holder] at hb
    cases hb
  · intro thread hthread hne
    rcases mem_set_cases hthread with rfl | ⟨j, hji, hj⟩
    · exact hlocked hne
    · exact absurd (hothers j thread hji hj) hne
  · intro thread hthread
    rcases mem_set_cases hthread with rfl | ⟨j, hji, hj⟩
    · exact hknows
    · rw [hothers j thread hji hj]
      trivial

/-- A step that leaves the map, its lock and the phase alone, and creates no room. -/
theorem keep {old : BackendThread} (hget : pool.threads[i]? = some old)
    (hphase : (voicePhase new).lock = (voicePhase old).lock)
    (hactive : shared.activeRoomMap = pool.shared.activeRoomMap
      ∧ shared.activeRoomLocked = pool.shared.activeRoomLocked)
    (hrooms : ∀ roomId, pool.shared.roomState.rooms.lookup roomId = none →
      shared.roomState.rooms.lookup roomId = none) : LockInv ⟨shared, pool.threads.set i new⟩ := by
  have hold : ∀ thread ∈ pool.threads.set i new, ∃ thread' ∈ pool.threads,
      (voicePhase thread).lock = (voicePhase thread').lock := by
    intro thread hthread
    rcases mem_set_cases hthread with rfl | ⟨j, -, hj⟩
    · exact ⟨old, List.mem_of_getElem? hget, hphase⟩
    · exact ⟨thread, List.mem_of_getElem? hj, rfl⟩
  refine ⟨?_, ?_, ?_⟩
  · apply h.exclusive.set_of_eq hget
    intro b hb
    rw [← hphase]
    exact hb
  · intro thread hthread hne
    obtain ⟨thread', hmem, heq⟩ := hold thread hthread
    rw [heq] at hne
    exact hactive.2.trans (h.locked thread' hmem hne)
  · intro thread hthread
    obtain ⟨thread', hmem, heq⟩ := hold thread hthread
    rw [heq]
    exact (h.knows thread' hmem).of_eq hactive.1 hrooms

theorem step {env : Env} {call : BackendCall} {trace : List ((o : Op) × o.Resp)} {o : Op}
    {rest : o.Resp → BackendProg call.Ret} {answer : o.Resp}
    (hget : pool.threads[i]? = some ⟨call, trace, .op o rest⟩)
    (hmay : VoicePhase.May call (voicePhase ⟨call, trace, .op o rest⟩) o)
    (hexec : o.exec env pool.shared = some (answer, shared)) :
    LockInv ⟨shared, pool.threads.set i ⟨call, trace ++ [⟨o, answer⟩], rest answer⟩⟩ := by
  have hphase := voicePhase_step call trace o rest answer
  have hknows := h.knows _ (List.mem_of_getElem? hget)
  generalize hφ : voicePhase ⟨call, trace, .op o rest⟩ = φ at hphase hmay hknows
  have hothers : φ.lock ≠ .free → ∀ j thread, j ≠ i → pool.threads[j]? = some thread →
      (voicePhase thread).lock = .free := by
    intro hne j thread hji hj
    exact h.free_of_holder hget (hφ ▸ hne) hji hj
  have hunlocked : pool.shared.activeRoomLocked = false → ∀ j thread, j ≠ i →
      pool.threads[j]? = some thread → (voicePhase thread).lock = .free := by
    intro hfree j thread _ hj
    exact h.free_of_unlocked hfree (List.mem_of_getElem? hj)
  cases o with
  | lockActiveRoom channelId =>
    obtain ⟨hfree, rfl, rfl⟩ := Op.exec_lockActiveRoom hexec
    refine h.move (hunlocked hfree) (fun _ => rfl) ?_
    rw [hphase, VoicePhase.next_lockActiveRoom φ _ hmay]
    split <;> assumption
  | evictActiveRoom channelId =>
    obtain ⟨roomId, hgone⟩ := hmay
    cases hexec
    refine h.move (hothers (by simp [hgone])) (fun _ => ?_) ?_
    · exact h.locked _ (List.mem_of_getElem? hget) (by rw [hφ, hgone]; simp)
    · rw [hphase, VoicePhase.next_evictActiveRoom φ roomId _ hgone]
      exact AList.lookup_erase _ _
  | publishActiveRoom channelId roomId =>
    cases hexec
    have hfree : (voicePhase ⟨call, trace ++ [⟨.publishActiveRoom channelId roomId, ()⟩],
        rest ()⟩).lock = .free := by
      rw [hphase, VoicePhase.next_publishActiveRoom]
    refine h.move (hothers (by simp [show φ.lock = .vacant channelId from hmay]))
      (fun hne => absurd hfree hne) ?_
    rw [hfree]
    trivial
  | unlockActiveRoom =>
    cases hexec
    have hfree : (voicePhase ⟨call, trace ++ [⟨.unlockActiveRoom, ()⟩], rest ()⟩).lock
        = .free := by
      rw [hphase, VoicePhase.next_unlockActiveRoom]
    refine h.move (hothers hmay) (fun hne => absurd hfree hne) ?_
    rw [hfree]
    trivial
  | removeActiveRoomIf channelId roomId =>
    obtain ⟨hfree, -⟩ := Op.exec_removeActiveRoomIf hexec
    have hold := h.free_of_unlocked hfree (List.mem_of_getElem? hget)
    have hnew : (voicePhase ⟨call, trace ++ [⟨.removeActiveRoomIf channelId roomId, answer⟩],
        rest answer⟩).lock = .free := by
      rw [hphase, VoicePhase.next_silent φ rfl, ← hφ]
      exact hold
    refine h.move (hunlocked hfree) (fun hne => absurd hnew hne) ?_
    rw [hnew]
    trivial
  | room ro =>
    have hactive := Op.exec_activeRooms hexec rfl
    have hroom := Op.exec_room hexec
    cases ro with
    | createRoom roomId info =>
      -- The creator holds the lock, so nobody else relies on a room being absent.
      obtain ⟨⟨channelId, hvacant⟩, -⟩ := hmay
      have hlock : (voicePhase ⟨call, trace ++ [⟨.room (.createRoom roomId info), answer⟩],
          rest answer⟩).lock = .vacant channelId := by
        rw [hphase, VoicePhase.next_silent φ rfl, hvacant]
      refine h.move (hothers (by simp [hvacant])) (fun _ => ?_) ?_
      · rw [hactive.2]
        exact h.locked _ (List.mem_of_getElem? hget) (by rw [hφ, hvacant]; simp)
      · rw [hlock]
        rw [hvacant] at hknows
        simpa [LockPhase.Knows, hactive.1] using hknows
    | ensureRoom roomId => exact hmay.elim
    | readRoom roomId =>
      obtain ⟨rfl, hsame⟩ := Prod.mk.inj hroom
      obtain ⟨hstate, -⟩ := Prod.mk.inj hsame
      have hrooms : ∀ roomId, pool.shared.roomState.rooms.lookup roomId = none →
          shared.roomState.rooms.lookup roomId = none := by
        rw [← hstate]
        exact fun _ => id
      rcases φ.lock.next_readRoom roomId (pool.shared.roomState.find roomId) with
        hsame | ⟨channelId, hheld, hnone, hgone⟩
      · refine h.keep hget ?_ hactive hrooms
        rw [hphase, hφ]
        exact hsame
      · refine h.move (hothers (by simp [hheld])) (fun _ => ?_) ?_
        · rw [hactive.2]
          exact h.locked _ (List.mem_of_getElem? hget) (by rw [hφ, hheld]; simp)
        · rw [hheld] at hknows
          have hlock : ((φ.next (.room (.readRoom roomId))
              (pool.shared.roomState.find roomId))).lock = .gone channelId roomId := hgone
          rw [hphase]
          exact hlock ▸ ⟨hactive.1 ▸ hknows, hrooms roomId (Option.map_eq_none_iff.mp hnone)⟩
    | _ =>
      refine h.keep hget ?_ hactive fun roomId => RoomOp.exec_rooms_none hroom (by simp) (by simp)
      rw [hphase, hφ]
      exact LockPhase.next_eq answer rfl (by simp)
  | _ =>
    refine h.keep hget ?_ (Op.exec_activeRooms hexec rfl) ?_
    · rw [hphase, hφ]
      exact LockPhase.next_eq answer rfl (by simp)
    · rcases Op.exec_roomState hexec with hsame | ⟨ro, hro, -⟩
      · rw [hsame]
        exact fun _ => id
      · cases hro

end

/-- The map has no room for the channel when a new one is entered, and the room it had is gone when
its entry is dropped to make place. -/
theorem of_reach {config : Config} {db : ChannelDb}
    {allowed : BackendPool → BackendAct → Prop}
    (hvoice : ∀ pool call, allowed pool (.start call) → call.isVoice = true)
    (hreach : (backend config).Reach allowed (BackendPool.initial config db) pool) :
    LockInv pool := by
  refine (System.Reach.invariant (P := voiceProtocol)
    (fun pool call hstart => voiceCall_holds config (hvoice pool call hstart)) rfl
    (LockInv.initial config db) ?_ ?_ hreach).1
  · intro pool call h _
    exact h.start config call
  · intro pool i env call trace o rest answer shared h _ hget hmay _ hexec
    exact h.step hget hmay hexec

end LockInv

end Wavis
