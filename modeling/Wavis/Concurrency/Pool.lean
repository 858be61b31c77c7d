import Wavis.Concurrency.Program
import Mathlib.Data.List.Basic

/-! A pool holds the shared state and one thread for every call ever made. A run makes calls and
lets any unfinished thread perform its next operation; the environment chooses whatever the code
cannot determine. Threads keep the trace of what they did, so a phase of a protocol is a function of
the pool. -/

namespace Concurrency

open List

variable {Op Call Env σ Φ : Type} {Resp : Op → Type} {Ret : Call → Type}

/-- What the operations do, and the code of every call. An operation that answers `none` blocks. -/
structure System (Resp : Op → Type) (Ret : Call → Type) (Env σ : Type) where
  exec : (o : Op) → Env → σ → Option (Resp o × σ)
  body : (call : Call) → Prog Resp (Ret call)

structure Thread (Resp : Op → Type) (Ret : Call → Type) where
  call : Call
  trace : List ((o : Op) × Resp o)
  rest : Prog Resp (Ret call)

def Thread.active (thread : Thread Resp Ret) : Bool := !thread.rest.returned

structure Pool (Resp : Op → Type) (Ret : Call → Type) (σ : Type) where
  shared : σ
  threads : List (Thread Resp Ret)

def Pool.Quiescent (pool : Pool Resp Ret σ) : Prop :=
  ∀ thread ∈ pool.threads, thread.active = false

instance (pool : Pool Resp Ret σ) : Decidable pool.Quiescent :=
  inferInstanceAs (Decidable (∀ thread ∈ pool.threads, _))

def Pool.nextOp (pool : Pool Resp Ret σ) (i : Nat) : Option Op :=
  match pool.threads[i]? with
  | some ⟨_, _, .op o _⟩ => some o
  | _ => none

variable {pool first : Pool Resp Ret σ} {I : Pool Resp Ret σ → Prop} {S : System Resp Ret Env σ}
  {i : Nat} {env : Env} {o : Op} (call : Call)

theorem Pool.thread_of_nextOp (h : pool.nextOp i = some o) :
    ∃ call trace rest, pool.threads[i]? = some ⟨call, trace, .op o rest⟩ := by
  unfold nextOp at h
  split at h
  · rename_i call trace o' rest hthread
    cases h
    exact ⟨call, trace, rest, hthread⟩
  · cases h

inductive Act (Call Env : Type) where
  | start (call : Call)
  | step (i : Nat) (env : Env)

namespace System

variable (S : System Resp Ret Env σ) {pool' : Pool Resp Ret σ}

def spawn (call : Call) : Thread Resp Ret := ⟨call, [], S.body call⟩

def next (pool : Pool Resp Ret σ) : Act Call Env → Option (Pool Resp Ret σ)
  | .start call => some { pool with threads := pool.threads ++ [S.spawn call] }
  | .step i env =>
    match pool.threads[i]? with
    | some ⟨call, trace, .op o rest⟩ =>
      match S.exec o env pool.shared with
      | some (answer, shared) =>
        some ⟨shared, pool.threads.set i ⟨call, trace ++ [⟨o, answer⟩], rest answer⟩⟩
      | none => none
    | _ => none

/-- A step is one operation of one unfinished thread. -/
theorem next_step (h : S.next pool (.step i env) = some pool') :
    ∃ call trace o rest answer shared,
      pool.threads[i]? = some ⟨call, trace, .op o rest⟩
        ∧ S.exec o env pool.shared = some (answer, shared)
        ∧ pool' = ⟨shared, pool.threads.set i ⟨call, trace ++ [⟨o, answer⟩], rest answer⟩⟩ := by
  simp only [next] at h
  split at h
  · rename_i call trace o rest hthread
    split at h
    · rename_i answer shared hexec
      exact ⟨call, trace, o, rest, answer, shared, hthread, hexec, (Option.some.inj h).symm⟩
    · cases h
  · cases h

/-- The pools a run can reach when every action meets `allowed` in the pool before it. -/
inductive Reach (allowed : Pool Resp Ret σ → Act Call Env → Prop) (first : Pool Resp Ret σ) :
    Pool Resp Ret σ → Prop
  | refl : Reach allowed first first
  | tail {pool pool' : Pool Resp Ret σ} {act : Act Call Env} :
      Reach allowed first pool → allowed pool act → S.next pool act = some pool' →
      Reach allowed first pool'

/-- Runs a list of actions; an action that is not allowed, or blocks, ends the replay. -/
def replay (allowed : Pool Resp Ret σ → Act Call Env → Prop)
    [∀ pool act, Decidable (allowed pool act)] (pool : Pool Resp Ret σ) :
    List (Act Call Env) → Option (Pool Resp Ret σ)
  | [] => some pool
  | act :: acts =>
    if allowed pool act then
      match S.next pool act with
      | some pool' => replay allowed pool' acts
      | none => none
    else none

variable {S} {allowed : Pool Resp Ret σ → Act Call Env → Prop}

theorem Reach.replay [∀ pool act, Decidable (allowed pool act)] (acts : List (Act Call Env))
    (hreach : S.Reach allowed first pool) (h : S.replay allowed pool acts = some pool') :
    S.Reach allowed first pool' := by
  induction acts generalizing pool with
  | nil =>
    cases h
    exact hreach
  | cons act acts ih =>
    unfold System.replay at h
    split_ifs at h with hallowed
    split at h
    · rename_i pool₁ hnext
      exact ih (hreach.tail hallowed hnext) h
    · cases h

/-- A replayed list of actions whose last pool passes a test. -/
theorem exists_reach_of_replay (S : System Resp Ret Env σ)
    (allowed : Pool Resp Ret σ → Act Call Env → Prop) [∀ pool act, Decidable (allowed pool act)]
    (first : Pool Resp Ret σ) (acts : List (Act Call Env)) (P : Pool Resp Ret σ → Prop)
    [DecidablePred P] (h : (S.replay allowed first acts).any (P ·) = true) :
    ∃ pool, S.Reach allowed first pool ∧ P pool := by
  obtain ⟨pool, hreplay, htest⟩ := (Option.any_eq_true _ _).mp h
  exact ⟨pool, Reach.refl.replay acts hreplay, of_decide_eq_true htest⟩

/-- What every allowed operation keeps holds of the shared state throughout. -/
theorem Reach.shared_invariant {I : σ → Prop} (hfirst : I first.shared)
    (hstep : ∀ (pool : Pool Resp Ret σ) (i : Nat) (env : Env) (o : Op) (answer : Resp o)
      (shared : σ), I pool.shared → allowed pool (.step i env) → pool.nextOp i = some o →
      S.exec o env pool.shared = some (answer, shared) → I shared)
    (hreach : S.Reach allowed first pool) : I pool.shared := by
  induction hreach with
  | refl => exact hfirst
  | @tail pool pool' act _ hallowed hnext ih =>
    cases act with
    | start call =>
      cases hnext
      exact ih
    | step i env =>
      obtain ⟨call, trace, o, rest, answer, shared, hthread, hexec, rfl⟩ := S.next_step hnext
      have hop : pool.nextOp i = some o := by simp only [Pool.nextOp, hthread]
      exact hstep pool i env o answer shared ih hallowed hop hexec

/-- A run may rely on what is known of every pool it reaches. -/
theorem Reach.strengthen (hinv : ∀ pool, S.Reach allowed first pool → I pool)
    (h : S.Reach allowed first pool) :
    S.Reach (fun pool act => allowed pool act ∧ I pool) first pool := by
  induction h with
  | refl => exact .refl
  | tail hreach hallowed hnext ih => exact ih.tail ⟨hallowed, hinv _ hreach⟩ hnext

theorem Reach.trans (h : S.Reach allowed first pool) (h' : S.Reach allowed pool pool') :
    S.Reach allowed first pool' := by
  induction h' with
  | refl => exact h
  | tail _ hallowed hnext ih => exact ih.tail hallowed hnext

theorem Reach.mono {allowed' : Pool Resp Ret σ → Act Call Env → Prop}
    (h : S.Reach allowed first pool) (hle : ∀ pool act, allowed pool act → allowed' pool act) :
    S.Reach allowed' first pool := by
  induction h with
  | refl => exact .refl
  | tail _ hallowed hnext ih => exact ih.tail (hle _ _ hallowed) hnext

end System

section

variable {γ : Type}

/-- The system with a history variable, which no code reads: `note` tells what a step adds to it. -/
def System.annotated (S : System Resp Ret Env σ) (note : (o : Op) → σ → Resp o → σ → γ → γ) :
    System Resp Ret Env (σ × γ) where
  exec o env s := (S.exec o env s.1).map fun (answer, shared) =>
    (answer, shared, note o s.1 answer shared s.2)
  body := S.body

def Pool.erased (pool : Pool Resp Ret (σ × γ)) : Pool Resp Ret σ := ⟨pool.shared.1, pool.threads⟩

theorem System.exec_annotated {note : (o : Op) → σ → Resp o → σ → γ → γ} {s s' : σ × γ}
    {answer : Resp o} (h : (S.annotated note).exec o env s = some (answer, s')) :
    S.exec o env s.1 = some (answer, s'.1) ∧ s'.2 = note o s.1 answer s'.1 s.2 := by
  obtain ⟨⟨answer', shared⟩, hexec, heq⟩ := Option.map_eq_some_iff.mp h
  cases heq
  exact ⟨hexec, rfl⟩

end

/-- What the code of every call keeps to: the phases it goes through, the operations a phase
permits, and what holds of the phase and the value when it returns. -/
structure Protocol (Resp : Op → Type) (Ret : Call → Type) (Φ : Type) where
  init : Call → Φ
  next : Φ → (o : Op) → Resp o → Φ
  may : Call → Φ → Op → Prop
  post : (call : Call) → Φ → Ret call → Prop

namespace Protocol

variable (P : Protocol Resp Ret Φ)

def phase (thread : Thread Resp Ret) : Φ :=
  thread.trace.foldl (fun φ event => P.next φ event.1 event.2) (P.init thread.call)

@[simp] theorem phase_nil (rest : Prog Resp (Ret call)) :
    P.phase ⟨call, [], rest⟩ = P.init call := rfl

@[simp] theorem phase_append (trace : List ((o : Op) × Resp o)) (o : Op) (answer : Resp o)
    (rest rest' : Prog Resp (Ret call)) :
    P.phase ⟨call, trace ++ [⟨o, answer⟩], rest⟩
      = P.next (P.phase ⟨call, trace, rest'⟩) o answer := by
  simp [phase]

theorem phase_step (trace : List ((o : Op) × Resp o)) (o : Op)
    (rest : Resp o → Prog Resp (Ret call)) (answer : Resp o) :
    P.phase ⟨call, trace ++ [⟨o, answer⟩], rest answer⟩
      = P.next (P.phase ⟨call, trace, .op o rest⟩) o answer :=
  P.phase_append call trace o answer _ _

/-- The rest of a thread keeps to the protocol from the phase it has reached. -/
def Holds (thread : Thread Resp Ret) : Prop :=
  thread.rest.Obeys P.next (P.may thread.call) (P.post thread.call) (P.phase thread)

theorem Holds.post_of_returned {P : Protocol Resp Ret Φ} {thread : Thread Resp Ret}
    (h : P.Holds thread) (hdone : thread.active = false) :
    ∃ a, P.post thread.call (P.phase thread) a := by
  obtain ⟨call, trace, rest⟩ := thread
  cases rest with
  | ret a => exact ⟨a, h⟩
  | op o rest => cases hdone

end Protocol

namespace System

variable {S : System Resp Ret Env σ} {P : Protocol Resp Ret Φ}
  {allowed : Pool Resp Ret σ → Act Call Env → Prop}

theorem holds_step (trace : List ((o : Op) × Resp o)) (o : Op)
    (rest : Resp o → Prog Resp (Ret call)) (answer : Resp o)
    (h : P.Holds ⟨call, trace, .op o rest⟩) :
    P.Holds ⟨call, trace ++ [⟨o, answer⟩], rest answer⟩ := by
  unfold Protocol.Holds at h ⊢
  rw [P.phase_step]
  exact h.2 answer

/-- **Invariants of a pool.** An invariant of every run needs to be kept by every call and by every
operation that its thread's phase permits. -/
theorem Reach.invariant
    (hfollows : ∀ pool call, allowed pool (.start call) → P.Holds (S.spawn call))
    (hempty : first.threads = []) (hfirst : I first)
    (hstart : ∀ pool call, I pool → allowed pool (.start call) →
      I { pool with threads := pool.threads ++ [S.spawn call] })
    (hstep : ∀ (pool : Pool Resp Ret σ) (i : Nat) (env : Env) (call : Call)
      (trace : List ((o : Op) × Resp o)) (o : Op) (rest : Resp o → Prog Resp (Ret call))
      (answer : Resp o) (shared : σ),
      I pool → allowed pool (.step i env) →
      pool.threads[i]? = some ⟨call, trace, .op o rest⟩ →
      P.may call (P.phase ⟨call, trace, .op o rest⟩) o →
      P.Holds ⟨call, trace ++ [⟨o, answer⟩], rest answer⟩ →
      S.exec o env pool.shared = some (answer, shared) →
      I ⟨shared, pool.threads.set i ⟨call, trace ++ [⟨o, answer⟩], rest answer⟩⟩)
    (hreach : S.Reach allowed first pool) : I pool ∧ ∀ thread ∈ pool.threads, P.Holds thread := by
  induction hreach with
  | refl => exact ⟨hfirst, by simp [hempty]⟩
  | @tail pool pool' act _ hallowed hnext ih =>
    obtain ⟨hI, hholds⟩ := ih
    cases act with
    | start call =>
      cases hnext
      refine ⟨hstart pool call hI hallowed, ?_⟩
      intro thread hthread
      rcases mem_append.mp hthread with hold | hnew
      · exact hholds thread hold
      · rw [mem_singleton] at hnew
        subst hnew
        exact hfollows pool call hallowed
    | step i env =>
      obtain ⟨call, trace, o, rest, answer, shared, hthread, hexec, rfl⟩ := S.next_step hnext
      have hold := hholds _ (mem_of_getElem? hthread)
      have hnew := holds_step call trace o rest answer hold
      refine ⟨hstep pool i env call trace o rest answer shared hI hallowed hthread hold.1
        hnew hexec, ?_⟩
      intro thread hmem
      rcases mem_or_eq_of_mem_set hmem with hmem | rfl
      · exact hholds thread hmem
      · exact hnew

end System

section

variable {α β : Type} {threads : List α} {owns : α → Option β} {new thread old : α} {f : β → α → β}

theorem mem_set_cases (h : thread ∈ threads.set i new) :
    thread = new ∨ ∃ j, j ≠ i ∧ threads[j]? = some thread := by
  obtain ⟨j, hj⟩ := mem_iff_getElem?.mp h
  by_cases hji : j = i
  · subst hji
    rw [getElem?_set_self'] at hj
    obtain ⟨_, _, rfl⟩ := Option.map_eq_some_iff.mp hj
    exact .inl rfl
  · rw [getElem?_set_ne (Ne.symm hji)] at hj
    exact .inr ⟨j, hji, hj⟩

theorem getElem?_concat_cases {j : Nat} (h : (threads ++ [new])[j]? = some thread) :
    threads[j]? = some thread ∨ j = threads.length ∧ thread = new := by
  rcases Nat.lt_or_ge j threads.length with hj | hj
  · rw [getElem?_append_left hj] at h
    exact .inl h
  · rw [getElem?_append_right hj, getElem?_singleton] at h
    split_ifs at h with hzero
    exact .inr ⟨by omega, (Option.some.inj h).symm⟩

/-- No two threads hold the same thing. -/
def Apart (holds : α → β → Prop) (threads : List α) : Prop :=
  ∀ (i j : Nat) (thread thread' : α) (b : β), threads[i]? = some thread →
    threads[j]? = some thread' → holds thread b → holds thread' b → i = j

section

variable {holds : α → β → Prop}

theorem Apart.nil (holds : α → β → Prop) : Apart holds [] := by
  intro i j thread thread' b h
  simp at h

theorem Apart.concat (h : Apart holds threads)
    (hnew : ∀ thread ∈ threads, ∀ b, holds new b → ¬ holds thread b) :
    Apart holds (threads ++ [new]) := by
  intro i j thread thread' b hi hj hb hb'
  rcases getElem?_concat_cases hi with hold | ⟨rfl, rfl⟩ <;>
    rcases getElem?_concat_cases hj with hold' | ⟨rfl, rfl⟩
  · exact h i j thread thread' b hold hold' hb hb'
  · exact absurd hb (hnew thread (mem_of_getElem? hold) b hb')
  · exact absurd hb' (hnew thread' (mem_of_getElem? hold') b hb)
  · rfl

theorem Apart.set (h : Apart holds threads)
    (hnew : ∀ j thread, j ≠ i → threads[j]? = some thread → ∀ b, holds new b → ¬ holds thread b) :
    Apart holds (threads.set i new) := by
  intro j k thread thread' b hj hk hb hb'
  by_cases hji : j = i <;> by_cases hki : k = i
  · rw [hji, hki]
  · rw [hji, getElem?_set_self'] at hj
    obtain ⟨_, _, rfl⟩ := Option.map_eq_some_iff.mp hj
    rw [getElem?_set_ne (Ne.symm hki)] at hk
    exact absurd hb' (hnew k thread' hki hk b hb)
  · rw [hki, getElem?_set_self'] at hk
    obtain ⟨_, _, rfl⟩ := Option.map_eq_some_iff.mp hk
    rw [getElem?_set_ne (Ne.symm hji)] at hj
    exact absurd hb (hnew j thread hji hj b hb')
  · rw [getElem?_set_ne (Ne.symm hji)] at hj
    rw [getElem?_set_ne (Ne.symm hki)] at hk
    exact h j k thread thread' b hj hk hb hb'

end

/-- No two threads own the same thing. -/
def Exclusive (owns : α → Option β) (threads : List α) : Prop :=
  ∀ (i j : Nat) (thread thread' : α) (b : β), threads[i]? = some thread →
    threads[j]? = some thread' → owns thread = some b → owns thread' = some b → i = j

theorem exclusive_iff_apart :
    Exclusive owns threads ↔ Apart (fun thread b => owns thread = some b) threads := Iff.rfl

theorem Exclusive.nil (owns : α → Option β) : Exclusive owns [] :=
  exclusive_iff_apart.mpr (.nil _)

section

variable (h : Exclusive owns threads)
include h

theorem Exclusive.concat
    (hnew : ∀ thread ∈ threads, ∀ b, owns new = some b → owns thread ≠ some b) :
    Exclusive owns (threads ++ [new]) :=
  exclusive_iff_apart.mpr ((exclusive_iff_apart.mp h).concat hnew)

theorem Exclusive.set
    (hnew : ∀ j thread, j ≠ i → threads[j]? = some thread →
      ∀ b, owns new = some b → owns thread ≠ some b) : Exclusive owns (threads.set i new) :=
  exclusive_iff_apart.mpr ((exclusive_iff_apart.mp h).set hnew)

theorem Exclusive.set_of_eq (hget : threads[i]? = some old)
    (hown : ∀ b, owns new = some b → owns old = some b) : Exclusive owns (threads.set i new) := by
  apply h.set
  intro j thread hji hj b hb hb'
  exact hji (h j i thread old b hj hget hb' (hown b hb))

theorem Exclusive.nodup_filterMap : (threads.filterMap owns).Nodup := by
  induction threads with
  | nil => exact nodup_nil
  | cons thread threads ih =>
    have hrest : Exclusive owns threads := by
      intro i j thread₁ thread₂ b hi hj hb hb'
      exact Nat.succ.inj (h (i + 1) (j + 1) thread₁ thread₂ b hi hj hb hb')
    cases hown : owns thread with
    | none =>
      rw [filterMap_cons_none hown]
      exact ih hrest
    | some b =>
      rw [filterMap_cons_some hown, nodup_cons]
      refine ⟨fun hmem => ?_, ih hrest⟩
      obtain ⟨other, hother, hb⟩ := mem_filterMap.mp hmem
      obtain ⟨j, hj⟩ := mem_iff_getElem?.mp hother
      cases h 0 (j + 1) thread other b rfl hj hown hb

end

theorem mem_set_of_ne (hget : threads[i]? = some old) (hmem : thread ∈ threads)
    (hne : thread ≠ old) : thread ∈ threads.set i new := by
  obtain ⟨j, hj⟩ := mem_iff_getElem?.mp hmem
  have hji : j ≠ i := by
    rintro rfl
    rw [hget] at hj
    exact hne (Option.some.inj hj).symm
  apply mem_of_getElem? (i := j)
  rw [getElem?_set_ne (Ne.symm hji)]
  exact hj

/-- Replacing a thread that counts for nothing, and after which nothing counts, adds what the new
thread counts for. -/
theorem foldl_set_of_last (new : α) (hget : threads[i]? = some old) (hold : ∀ b, f b old = b)
    (hlater : ∀ (j : Nat) (thread : α), i < j → threads[j]? = some thread → ∀ b, f b thread = b)
    (b : β) : (threads.set i new).foldl f b = f (threads.foldl f b) new := by
  induction threads generalizing i b with
  | nil => cases hget
  | cons thread threads ih =>
    cases i with
    | zero =>
      cases hget
      have hrest : ∀ b, threads.foldl f b = b := by
        intro b
        rw [foldl_ext f (fun b _ => b) b, foldl_fixed]
        intro b thread hmem
        obtain ⟨j, hj⟩ := mem_iff_getElem?.mp hmem
        exact hlater (j + 1) thread (Nat.succ_pos j) hj b
      simp only [set_cons_zero, foldl_cons, hrest, hold]
    | succ i =>
      simp only [set_cons_succ, foldl_cons]
      apply ih hget
      intro j thread' hlt hget' b
      exact hlater (j + 1) thread' (Nat.succ_lt_succ hlt) hget' b

theorem foldl_set_of_eq (hget : threads[i]? = some old) (heq : ∀ b, f b new = f b old) (b : β) :
    (threads.set i new).foldl f b = threads.foldl f b := by
  induction threads generalizing i b with
  | nil => rfl
  | cons thread threads ih =>
    cases i with
    | zero =>
      cases hget
      simp only [set_cons_zero, foldl_cons, heq]
    | succ i => exact ih hget (f b thread)

end

/-- What a call in progress owns. -/
def Thread.task {κ : Type} (key : Call → Option κ) (thread : Thread Resp Ret) : Option κ :=
  if thread.active then key thread.call else none

/-- Calls of one task do not overlap, if none is made while another is in progress. -/
theorem System.Reach.exclusive_task {κ : Type} {allowed : Pool Resp Ret σ → Act Call Env → Prop}
    {key : Call → Option κ} (hempty : first.threads = [])
    (hstart : ∀ pool call, allowed pool (.start call) → ∀ thread ∈ pool.threads,
      thread.active = true → ∀ k, key call = some k → key thread.call ≠ some k)
    (hreach : S.Reach allowed first pool) : Exclusive (Thread.task key) pool.threads := by
  induction hreach with
  | refl =>
    rw [hempty]
    exact .nil _
  | @tail pool pool' act _ hallowed hnext ih =>
    cases act with
    | start call =>
      cases hnext
      apply ih.concat
      intro thread hthread k hnew hold
      unfold Thread.task at hnew hold
      split_ifs at hnew hold with hactive hactive'
      exact hstart pool call hallowed thread hthread hactive' k hnew hold
    | step i env =>
      obtain ⟨call, trace, o, rest, answer, shared, hthread, hexec, rfl⟩ := S.next_step hnext
      apply ih.set_of_eq hthread
      intro k hk
      unfold Thread.task at hk ⊢
      split_ifs at hk
      exact hk

end Concurrency
