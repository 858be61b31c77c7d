import Wavis.RoomLocks

namespace Wavis

open Concurrency Prog RoomLock

/-- The order in which the locks are taken. No two rooms are locked at once. -/
def RoomLock.rank : RoomLock → Nat
  | rooms => 0
  | room _ => 1
  | peerToRoom => 2
  | invites => 2
  | roomInviteCounts => 3

instance (work : LockedWork) : Nonempty work.Answer := by
  cases work with
  | perform o =>
    cases o with
    | updateObject arc edit => exact ⟨⟨[], .newP2p⟩, 0⟩
    | _ => infer_instance
  | _ => infer_instance

section

variable {α : Type} {body : LockedProg α}

theorem climbs_inRoom (roomId : RoomId) (access : Access)
    (hbody : ∀ held, body.Climbs rank held held) :
    (inRoom roomId access body).Climbs rank [] [] := by
  refine .withLock _ (by simp) (.bind (climbs_work _) fun arc => ?_)
  cases arc with
  | none => exact hbody _
  | some arc => exact .withLock _ (by simp [rank]) (hbody _)

theorem climbs_readRooms : readRooms.Climbs rank [.rooms] [.rooms] :=
  .bind (climbs_work _) fun arcs =>
    .each (fun _ => .withLock _ (by simp [rank]) (climbs_pure _)) arcs

theorem RoomOp.climbs_underLocks (o : RoomOp JoinCheck)
    (hbody : ∀ held, body.Climbs rank held held) :
    (o.underLocks body).Climbs rank [] [] := by
  have halone : ∀ lock access, (withLock lock access body).Climbs rank [] [] :=
    fun _ access => .withLock access (by simp) (hbody _)
  cases o with
  | checkEmpty roomId | readRoom roomId | updateInfo roomId edit =>
    exact climbs_inRoom roomId _ hbody
  | tryPush arc peerId f =>
    refine .withLock _ (by simp) (.bind (climbs_work _) fun calls => ?_)
    split
    · refine .bind (.withLock _ ?_ (climbs_pure _)) fun _ => hbody _
      simp [rank]
    · exact hbody _
  | pushUnlessMoving arc peerId roomId =>
    refine .withLock _ (by simp) (.bind (.withLock _ ?_ (climbs_pure _)) fun _ => hbody _)
    simp [rank]
  | roomsNeedingTokenRefresh refreshAfterSecs =>
    exact .withLock _ (by simp) (.bind climbs_readRooms fun _ => hbody _)
  | _ => exact halone _ _

end

theorem LockedCall.climbs_body (call : LockedCall) : call.body.Climbs rank [] [] := by
  have hlocked : ∀ o : RoomOp JoinCheck, o.locked.Climbs rank [] [] :=
    fun o => o.climbs_underLocks fun _ => climbs_work _
  have hroom : ∀ {α : Type} (program : RoomProg JoinCheck α),
      (lockedRoomState program).Climbs rank [] [] :=
    fun program => .bind (.expand hlocked program) fun _ => climbs_pure _
  have hone : ∀ lock access, (withLock lock access (pure ()) : LockedProg Unit).Climbs
      rank [] [] := fun _ access => .withLock access (by simp) (climbs_pure _)
  have htwo : lockInvitesAndCounts.Climbs rank [] [] :=
    .withLock _ (by simp) (.withLock _ (by simp [rank]) (climbs_pure _))
  have hall : (withLock .rooms .read readRooms).Climbs rank [] [] :=
    .withLock _ (by simp) climbs_readRooms
  cases call <;> first | exact hroom _ | exact hone _ _ | exact htwo | exact hall

/-- **The locks of the room state cannot deadlock**, even if waiting writers keep readers out. -/
theorem room_locks_progress {threads : List (LockThread RoomLock LockedWork.Answer)}
    (hreach : LockThread.Reach IsOperation threads)
    (hunfinished : ∃ thread ∈ threads, thread.rest.returned = false) :
    ∃ thread ∈ threads, thread.CanStep threads := by
  have hbodies : ∀ program, IsOperation program → program.Climbs rank [] [] := by
    rintro _ ⟨call, rfl⟩
    exact call.climbs_body
  exact LockThread.exists_canStep (hreach.climbs hbodies) hunfinished

/-- A generation of an invite waits for another one, which goes on. -/
theorem room_locks_progress_generate :
    ∃ threads : List (LockThread RoomLock LockedWork.Answer),
      (∃ thread ∈ threads, thread.waits = some (.invites, .write)
        ∧ ¬ LockThread.Free threads .invites .write)
      ∧ ∃ thread ∈ threads, thread.CanStep threads := by
  have hfree : LockThread.Free
      [⟨[], LockedCall.generate.body⟩, ⟨[], LockedCall.generate.body⟩] .invites .write := by
    intro thread hmem use huse
    rcases List.mem_pair.mp hmem with rfl | rfl <;> cases huse
  have hstarted : LockThread.Reach IsOperation
      [⟨[], LockedCall.generate.body⟩, ⟨[], LockedCall.generate.body⟩] :=
    .start (.start .none ⟨.generate, rfl⟩) ⟨.generate, rfl⟩
  have hreach := LockThread.Reach.step (i := 0) hstarted rfl (.acquire hfree)
  refine ⟨_, ⟨⟨[], LockedCall.generate.body⟩, ?_, rfl, ?_⟩, room_locks_progress hreach ?_⟩
  · simp
  · intro h
    cases (h _ List.mem_cons_self _ List.mem_cons_self rfl).1
  · exact ⟨⟨[], LockedCall.generate.body⟩, by simp, rfl⟩

/-- **Every room operation completes.** Once no more operations are started, those under way take
only finitely many steps, however the locks are granted, and then all have returned and hold no
lock. -/
theorem room_operations_end {threads : List (LockThread RoomLock LockedWork.Answer)}
    (hreach : LockThread.Reach IsOperation threads) :
    Acc (fun later earlier => LockThread.Moves earlier later) threads
      ∧ ∀ threads', Relation.ReflTransGen LockThread.Moves threads threads' →
        (∀ thread ∈ threads', ¬ thread.CanStep threads') →
        ∀ thread ∈ threads', thread.rest.returned = true ∧ thread.held = [] := by
  refine ⟨LockThread.wellFounded_moves.apply threads, fun threads' hmoves hstuck => ?_⟩
  have hbodies : ∀ program, IsOperation program → program.Climbs rank [] [] := by
    rintro _ ⟨call, rfl⟩
    exact call.climbs_body
  have hclimbs := (hreach.moves hmoves).climbs hbodies
  intro thread hthread
  have hreturned : thread.rest.returned = true := by
    by_contra hactive
    obtain ⟨other, hother, hcan⟩ :=
      LockThread.exists_canStep hclimbs ⟨thread, hthread, by simpa using hactive⟩
    exact hstuck other hother hcan
  exact ⟨hreturned, (hclimbs thread hthread).held_nil hreturned⟩

/-- Two generations of an invite, from their start to their end. -/
theorem room_operations_end_two :
    ∃ threads, Relation.ReflTransGen LockThread.Moves
        [⟨[], LockedCall.generate.body⟩, ⟨[], LockedCall.generate.body⟩] threads
      ∧ ∀ thread ∈ threads, thread.rest.returned = true ∧ thread.held = [] := by
  have h := room_operations_end (.start (.start .none ⟨.generate, rfl⟩) ⟨.generate, rfl⟩)
  dsimp only [List.nil_append, List.cons_append] at h
  generalize ([⟨[], LockedCall.generate.body⟩, ⟨[], LockedCall.generate.body⟩] :
    List (LockThread RoomLock LockedWork.Answer)) = started at h ⊢
  obtain ⟨hacc, hend⟩ := h
  induction hacc with
  | intro threads _ ih =>
    by_cases hstuck : ∀ thread ∈ threads, ¬ thread.CanStep threads
    · exact ⟨threads, .refl, hend threads .refl hstuck⟩
    · push Not at hstuck
      obtain ⟨thread, hthread, ⟨thread', hstep⟩, -⟩ := hstuck
      obtain ⟨i, hi⟩ := List.getElem?_of_mem hthread
      have hmoves : LockThread.Moves threads (threads.set i thread') :=
        ⟨i, thread, thread', hi, hstep, rfl⟩
      obtain ⟨last, hrun, hdone⟩ := ih _ hmoves fun last hrun => hend last (.head hmoves hrun)
      exact ⟨last, .head hmoves hrun, hdone⟩

end Wavis
