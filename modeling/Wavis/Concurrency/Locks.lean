import Wavis.Concurrency.Program
import Mathlib.Logic.Hydra

/-! Threads take and give back locks, and do work in between. A lock is held by readers or by one
writer, and a thread cannot take a lock it holds. Whether a waiting writer keeps new readers out is
left open: runs may let readers pass, and progress is shown for the stricter rule.

If every thread takes its locks in the order of a rank, some unfinished thread can go on; and no
threads go on for ever. -/

namespace Concurrency

inductive Access where
  | read
  | write

/-- What a thread does next. Work never blocks; its answer is what the thread goes on with. -/
inductive LockOp (L Q : Type) where
  | acquire (lock : L) (access : Access)
  | release (lock : L)
  | work (q : Q)

variable {L Q α β : Type} {Answer : Q → Type} {lock : L} {rank : L → Nat}

@[reducible] def LockOp.Resp (L : Type) (Answer : Q → Type) : LockOp L Q → Type
  | acquire _ _ => Unit
  | release _ => Unit
  | work q => Answer q

abbrev LockProg (L : Type) (Answer : Q → Type) (α : Type) := Prog (LockOp.Resp L Answer) α

def LockOp.perform (o : LockOp L Q) : LockProg L Answer (o.Resp L Answer) := Prog.perform o

/-- Runs a part of a program while it holds a lock. -/
def withLock (lock : L) (access : Access) (body : LockProg L Answer α) : LockProg L Answer α := do
  LockOp.perform (.acquire lock access)
  let answer ← body
  LockOp.perform (.release lock)
  pure answer

/-- With the given locks held, the program takes locks in the order of their rank, gives back only
what it holds, and returns with the locks in `final` held. -/
def Prog.Climbs [DecidableEq L] (rank : L → Nat) (final : List L) :
    Prog (LockOp.Resp L Answer) α → List L → Prop
  | ret _, held => held = final
  | op (.acquire lock _) next, held =>
    (∀ other ∈ held, rank other < rank lock) ∧ (next ()).Climbs rank final (lock :: held)
  | op (.release lock) next, held =>
    lock ∈ held ∧ (next ()).Climbs rank final (held.filter (· ≠ lock))
  | op (.work _) next, held => ∀ answer, (next answer).Climbs rank final held

section

variable [DecidableEq L] {held middle final : List L}

theorem Prog.Climbs.bind {program : LockProg L Answer α} {f : α → LockProg L Answer β}
    (h : program.Climbs rank middle held) (hf : ∀ a, (f a).Climbs rank final middle) :
    (program >>= f).Climbs rank final held := by
  induction program generalizing held with
  | ret a =>
    rw [show held = middle from h]
    exact hf a
  | op o next ih =>
    cases o with
    | acquire lock access | release lock => exact ⟨h.1, ih () h.2⟩
    | work q => exact fun answer => ih answer (h answer)

theorem Prog.climbs_pure (a : α) :
    (pure a : LockProg L Answer α).Climbs rank held held := rfl

theorem Prog.climbs_work (q : Q) :
    (LockOp.perform (.work q) : LockProg L Answer (Answer q)).Climbs rank held held :=
  fun _ => rfl

theorem Prog.Climbs.withLock {body : LockProg L Answer α} (access : Access)
    (hbelow : ∀ other ∈ held, rank other < rank lock)
    (h : body.Climbs rank (lock :: held) (lock :: held)) :
    (withLock lock access body).Climbs rank held held := by
  have hnot : lock ∉ held := fun hmem => Nat.lt_irrefl _ (hbelow lock hmem)
  have hback : (lock :: held).filter (· ≠ lock) = held := by
    rw [List.filter_cons_of_neg (by simp), List.filter_eq_self]
    intro other hmem
    have hne : other ≠ lock := by
      rintro rfl
      exact hnot hmem
    simpa using hne
  have hrest : (body >>= fun answer => .perform (.release lock) >>= fun _ =>
      pure answer).Climbs rank held (lock :: held) :=
    Prog.Climbs.bind h fun answer => ⟨List.mem_cons_self, hback⟩
  exact ⟨hbelow, hrest⟩

theorem Prog.Climbs.each {f : β → LockProg L Answer Unit} (h : ∀ b, (f b).Climbs rank held held)
    (items : List β) : (Prog.each f items).Climbs rank held held := by
  induction items with
  | nil => rfl
  | cons b rest ih => exact (h b).bind fun _ => ih

theorem Prog.Climbs.expand {Op : Type} {Resp : Op → Type}
    {impl : (o : Op) → LockProg L Answer (Resp o)} (h : ∀ o, (impl o).Climbs rank held held)
    (program : Prog Resp α) : (program.expand impl).Climbs rank held held := by
  induction program with
  | ret a => rfl
  | op o next ih => exact (h o).bind ih

end

structure LockThread (L : Type) (Answer : Q → Type) where
  held : List (L × Access)
  rest : LockProg L Answer Unit

namespace LockThread

def waits (thread : LockThread L Answer) : Option (L × Access) :=
  match thread.rest with
  | .op (.acquire lock access) _ => some (lock, access)
  | _ => none

/-- Nobody holds the lock, or everybody who does is a reader and so is the access. -/
def Free (threads : List (LockThread L Answer)) (lock : L) (access : Access) : Prop :=
  ∀ thread ∈ threads, ∀ use ∈ thread.held, use.1 = lock → access = .read ∧ use.2 = .read

variable [DecidableEq L]

inductive Step (threads : List (LockThread L Answer)) :
    LockThread L Answer → LockThread L Answer → Prop
  | acquire {held : List (L × Access)} {lock : L} {access : Access}
      {next : Unit → LockProg L Answer Unit} : Free threads lock access →
      Step threads ⟨held, .op (.acquire lock access) next⟩ ⟨(lock, access) :: held, next ()⟩
  | release {held : List (L × Access)} {lock : L} {next : Unit → LockProg L Answer Unit} :
      Step threads ⟨held, .op (.release lock) next⟩ ⟨held.filter (·.1 ≠ lock), next ()⟩
  | work {held : List (L × Access)} {q : Q} {next : Answer q → LockProg L Answer Unit}
      (answer : Answer q) :
      Step threads ⟨held, .op (.work q) next⟩ ⟨held, next answer⟩

/-- The thread can take a step even if waiting writers keep new readers out. -/
def CanStep (threads : List (LockThread L Answer)) (thread : LockThread L Answer) : Prop :=
  (∃ thread', Step threads thread thread') ∧ ∀ lock, thread.waits = some (lock, .read) →
    ∀ other ∈ threads, other.waits ≠ some (lock, .write)

/-- The threads that a run can reach in which programs of a kind are started at any time. -/
inductive Reach (bodies : LockProg L Answer Unit → Prop) : List (LockThread L Answer) → Prop
  | none : Reach bodies []
  | start {threads : List (LockThread L Answer)} {program : LockProg L Answer Unit} :
      Reach bodies threads → bodies program → Reach bodies (threads ++ [⟨[], program⟩])
  | step {threads : List (LockThread L Answer)} {i : Nat} {thread thread' : LockThread L Answer} :
      Reach bodies threads → threads[i]? = some thread → Step threads thread thread' →
      Reach bodies (threads.set i thread')

end LockThread

section

variable [DecidableEq L] {threads : List (LockThread L Answer)} {thread : LockThread L Answer}
  {access : Access}

/-- The rest of the thread takes locks in the order of their rank. -/
def LockThread.Climbs (rank : L → Nat) (thread : LockThread L Answer) : Prop :=
  thread.rest.Climbs rank [] (thread.held.map Prod.fst)

theorem LockThread.Climbs.step {thread' : LockThread L Answer} (h : thread.Climbs rank)
    (hstep : thread.Step threads thread') : thread'.Climbs rank := by
  cases hstep with
  | acquire hfree => exact h.2
  | release =>
    have hrest := h.2
    rw [List.filter_map] at hrest
    exact hrest
  | work answer => exact h answer

theorem LockThread.Reach.climbs {bodies : LockProg L Answer Unit → Prop}
    (hbodies : ∀ program, bodies program → program.Climbs rank [] []) (h : Reach bodies threads) :
    ∀ thread ∈ threads, thread.Climbs rank := by
  induction h with
  | none => simp
  | start _ hprogram ih =>
    intro thread hmem
    rcases List.mem_append.mp hmem with hold | hnew
    · exact ih thread hold
    · rw [List.mem_singleton.mp hnew]
      exact hbodies _ hprogram
  | step _ hget hstep ih =>
    intro thread hmem
    rcases List.mem_or_eq_of_mem_set hmem with hold | rfl
    · exact ih thread hold
    · exact (ih _ (List.mem_of_getElem? hget)).step hstep

/-- An unfinished thread that cannot go on waits for a lock, of a higher rank than those it
holds. -/
theorem LockThread.Climbs.waits_above [∀ q, Nonempty (Answer q)] (h : thread.Climbs rank)
    (hunfinished : thread.rest.returned = false) (hstuck : ¬ thread.CanStep threads) :
    ∃ lock access, thread.waits = some (lock, access)
      ∧ ∀ held ∈ thread.held.map Prod.fst, rank held < rank lock := by
  obtain ⟨held, rest⟩ := thread
  cases rest with
  | ret a => cases hunfinished
  | op o next =>
    cases o with
    | acquire lock access => exact ⟨lock, access, rfl, h.1⟩
    | release lock => exact absurd ⟨⟨_, .release⟩, fun _ => nofun⟩ hstuck
    | work q =>
      obtain ⟨answer⟩ := ‹∀ q, Nonempty (Answer q)› q
      exact absurd ⟨⟨_, .work answer⟩, fun _ => nofun⟩ hstuck

theorem LockThread.exists_step (hwaits : thread.waits = some (lock, access))
    (hfree : Free threads lock access) : ∃ thread', thread.Step threads thread' := by
  obtain ⟨held, rest⟩ := thread
  cases rest with
  | ret a => cases hwaits
  | op o next =>
    cases o with
    | acquire lock' access' =>
      cases hwaits
      exact ⟨_, .acquire hfree⟩
    | release lock' | work q => cases hwaits

/-- If no thread can go on, a thread that waits for a lock waits for one that a thread holds. -/
theorem LockThread.exists_holder (hstuck : ∀ thread ∈ threads, ¬ thread.CanStep threads)
    (hthread : thread ∈ threads) (hwaits : thread.waits = some (lock, access)) :
    ∃ holder ∈ threads, lock ∈ holder.held.map Prod.fst := by
  by_contra hnone
  have hfree : ∀ access, Free threads lock access := by
    intro access holder hholder use huse heq
    exact absurd ⟨holder, hholder, List.mem_map.mpr ⟨use, huse, heq⟩⟩ hnone
  -- A reader that waiting writers keep out leaves the lock to one of them.
  by_cases hwriter : ∃ writer ∈ threads, writer.waits = some (lock, .write)
  · obtain ⟨writer, hmem, hwrites⟩ := hwriter
    refine hstuck writer hmem ⟨exists_step hwrites (hfree _), fun lock' hreads => ?_⟩
    rw [hwrites] at hreads
    cases hreads
  · refine hstuck thread hthread ⟨exists_step hwaits (hfree _), ?_⟩
    intro lock' hreads other hmem hwrites
    rw [hwaits] at hreads
    cases hreads
    exact hwriter ⟨other, hmem, hwrites⟩

/-- **Ordered locks do not deadlock**: as long as a thread has not finished, some thread can take a
step. -/
theorem LockThread.exists_canStep [∀ q, Nonempty (Answer q)]
    (h : ∀ thread ∈ threads, thread.Climbs rank)
    (hunfinished : ∃ thread ∈ threads, thread.rest.returned = false) :
    ∃ thread ∈ threads, thread.CanStep threads := by
  by_contra hnone
  have hstuck : ∀ thread ∈ threads, ¬ thread.CanStep threads :=
    fun thread hmem hcan => hnone ⟨thread, hmem, hcan⟩
  -- Whoever waits, waits for a thread that waits for a lock of a higher rank.
  have hclimb : ∀ n, ∃ thread ∈ threads, ∃ lock access,
      thread.waits = some (lock, access) ∧ n ≤ rank lock := by
    intro n
    induction n with
    | zero =>
      obtain ⟨thread, hmem, hactive⟩ := hunfinished
      obtain ⟨lock, access, hwaits, -⟩ := (h thread hmem).waits_above hactive (hstuck thread hmem)
      exact ⟨thread, hmem, lock, access, hwaits, Nat.zero_le _⟩
    | succ n ih =>
      obtain ⟨thread, hmem, lock, access, hwaits, hle⟩ := ih
      obtain ⟨holder, hholder, hheld⟩ := exists_holder hstuck hmem hwaits
      have hactive : holder.rest.returned = false := by
        cases hrest : holder.rest with
        | ret a =>
          have hnil := h holder hholder
          unfold LockThread.Climbs at hnil
          rw [hrest] at hnil
          rw [(show holder.held.map Prod.fst = [] from hnil)] at hheld
          cases hheld
        | op o next => rfl
      obtain ⟨lock', access', hwaits', habove⟩ :=
        (h holder hholder).waits_above hactive (hstuck holder hholder)
      have hlt := habove lock hheld
      exact ⟨holder, hholder, lock', access', hwaits', by omega⟩
  -- There would be no end to the ranks, but there are only finitely many threads.
  let ranks := threads.map fun thread => (thread.waits.map fun wanted => rank wanted.1).getD 0
  have hne : ranks ≠ [] := by
    obtain ⟨thread, hmem, -⟩ := hunfinished
    exact List.ne_nil_of_mem (List.mem_map_of_mem hmem)
  obtain ⟨thread, hmem, lock, access, hwaits, hle⟩ := hclimb (ranks.max hne + 1)
  have hrank : rank lock ≤ ranks.max hne :=
    List.le_max_of_mem (List.mem_map.mpr ⟨thread, hmem, by rw [hwaits]; rfl⟩)
  omega

theorem LockThread.Climbs.held_nil (h : thread.Climbs rank)
    (hreturned : thread.rest.returned = true) : thread.held = [] := by
  obtain ⟨held, rest⟩ := thread
  cases rest with
  | ret a => exact List.map_eq_nil_iff.mp h
  | op o next => cases hreturned

/-- What may be left of a program after its first operation. -/
def Prog.Tail {Op : Type} {Resp : Op → Type} (rest : Prog Resp α) : Prog Resp α → Prop
  | ret _ => False
  | op _ next => ∃ answer, rest = next answer

theorem Prog.wellFounded_tail {Op : Type} {Resp : Op → Type} :
    WellFounded (Tail : Prog Resp α → Prog Resp α → Prop) := by
  refine ⟨fun program => ?_⟩
  induction program with
  | ret a => exact ⟨_, by rintro _ ⟨⟩⟩
  | op o next ih =>
    refine ⟨_, ?_⟩
    rintro _ ⟨answer, rfl⟩
    exact ih answer

namespace LockThread

/-- A thread takes a step, and none is started. -/
def Moves (threads threads' : List (LockThread L Answer)) : Prop :=
  ∃ i thread thread', threads[i]? = some thread ∧ thread.Step threads thread'
    ∧ threads' = threads.set i thread'

theorem Step.tail {thread' : LockThread L Answer} (h : thread.Step threads thread') :
    thread'.rest.Tail thread.rest := by
  cases h with
  | acquire | release | work => exact ⟨_, rfl⟩

/-- **No threads go on for ever**: a step replaces one of the programs that are left by a part of
it. -/
theorem wellFounded_moves :
    WellFounded fun later earlier : List (LockThread L Answer) => Moves earlier later := by
  let left (threads : List (LockThread L Answer)) := Multiset.ofList (threads.map rest)
  refine Subrelation.wf ?_ (InvImage.wf left Prog.wellFounded_tail.cutExpand)
  rintro _ threads ⟨i, thread, thread', hget, hstep, rfl⟩
  refine ⟨{thread'.rest}, thread.rest, by simp [hstep.tail], ?_⟩
  have hperm := List.getD_set_perm_cons (threads.map rest) i thread'.rest
  rw [List.getElem?_map, hget, ← List.map_set] at hperm
  rw [add_comm, add_comm (left threads)]
  exact Multiset.coe_eq_coe.mpr hperm

theorem Reach.moves {bodies : LockProg L Answer Unit → Prop} (h : Reach bodies threads)
    {threads' : List (LockThread L Answer)}
    (hmoves : Relation.ReflTransGen Moves threads threads') : Reach bodies threads' := by
  induction hmoves with
  | refl => exact h
  | tail _ hmove ih =>
    obtain ⟨i, thread, thread', hget, hstep, rfl⟩ := hmove
    exact ih.step hget hstep

end LockThread

end

end Concurrency
