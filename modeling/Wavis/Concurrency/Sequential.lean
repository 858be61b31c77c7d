import Wavis.Concurrency.Pool

/-! A program that runs alone is described by what it ensures: whatever the environment chooses for
its operations, if it returns, the value and the state it leaves satisfy a postcondition. An
invariant that every call ensures when it runs alone holds in pools whose calls are made one at a
time. -/

namespace Concurrency

variable {Op Env σ α β : Type} {Resp : Op → Type} {I : σ → Prop}

namespace Prog

variable (exec : (o : Op) → Env → σ → Option (Resp o × σ)) (ok : Op → Env → Prop)

/-- Run alone from a state, in environments that are `ok`, the program returns only with a value and
in a state that satisfy `post`. -/
def Ensures (post : α → σ → Prop) : Prog Resp α → σ → Prop
  | ret a, s => post a s
  | op o next, s => ∀ env answer s', ok o env → exec o env s = some (answer, s') →
      (next answer).Ensures post s'

/-- Runs a program in the given environments, one for each operation. -/
def eval : List Env → Prog Resp α → σ → Option (α × σ)
  | _, ret a, s => some (a, s)
  | [], op _ _, _ => none
  | env :: envs, op o next, s =>
    match exec o env s with
    | some (answer, s') => eval envs (next answer) s'
    | none => none

def run (exec : (o : Op) → σ → Resp o × σ) : Prog Resp α → σ → α × σ
  | ret a, s => (a, s)
  | op o next, s => run exec (next (exec o s).1) (exec o s).2

@[simp] theorem run_ret (exec : (o : Op) → σ → Resp o × σ) (a : α) (s : σ) :
    (ret a : Prog Resp α).run exec s = (a, s) := rfl

@[simp] theorem run_op (exec : (o : Op) → σ → Resp o × σ) (o : Op) (next : Resp o → Prog Resp α)
    (s : σ) : (op o next).run exec s = (next (exec o s).1).run exec (exec o s).2 := rfl

theorem run_bind (exec : (o : Op) → σ → Resp o × σ) (program : Prog Resp α)
    (f : α → Prog Resp β) (s : σ) :
    (program >>= f).run exec s = (f (program.run exec s).1).run exec (program.run exec s).2 := by
  induction program generalizing s with
  | ret a => rfl
  | op o next ih => exact ih _ _

variable {exec ok} {program : Prog Resp α} {post post' mid : α → σ → Prop} {permitted : Op → Prop}
  {f : α → Prog Resp β} {may : Op → σ → Prop} {s : σ}

theorem Ensures.mono (h : program.Ensures exec ok post s) (hpost : ∀ a s, post a s → post' a s) :
    program.Ensures exec ok post' s := by
  induction program generalizing s with
  | ret a => exact hpost a s h
  | op o next ih =>
    intro env answer s' henv hexec
    exact ih answer (h env answer s' henv hexec)

theorem Ensures.and (h : program.Ensures exec ok post s) (h' : program.Ensures exec ok post' s) :
    program.Ensures exec ok (fun a s => post a s ∧ post' a s) s := by
  induction program generalizing s with
  | ret a => exact ⟨h, h'⟩
  | op o next ih =>
    intro env answer s' henv hexec
    exact ih answer (h env answer s' henv hexec) (h' env answer s' henv hexec)

/-- A sequence ensures what its second part ensures from wherever the first part ends. -/
theorem Ensures.bind {post : β → σ → Prop} (h : program.Ensures exec ok mid s)
    (hf : ∀ a s, mid a s → (f a).Ensures exec ok post s) :
    (program >>= f).Ensures exec ok post s := by
  induction program generalizing s with
  | ret a => exact hf a s h
  | op o next ih =>
    intro env answer s' henv hexec
    exact ih answer (h env answer s' henv hexec)

/-- Operations that keep an invariant, in a program that performs no others. -/
theorem Spec.ensures {post : α → Prop} (h : program.Spec permitted post) (hs : I s)
    (hkeep : ∀ o env s answer s', permitted o → I s → exec o env s = some (answer, s') → I s') :
    program.Ensures exec ok (fun a s => I s ∧ post a) s := by
  induction program generalizing s with
  | ret a => exact ⟨hs, h⟩
  | op o next ih =>
    intro env answer s' henv hexec
    exact ih answer (h.2 answer) (hkeep o env s answer s' h.1 hs hexec)

theorem Within.ensures (h : program.Within permitted) (hs : I s)
    (hkeep : ∀ {o env s answer s'}, permitted o → I s → exec o env s = some (answer, s') → I s') :
    program.Ensures exec ok (fun _ s => I s) s :=
  (Spec.ensures h hs fun _ _ _ _ _ => hkeep).mono fun _ _ => And.left

theorem ensures_of_exec (hs : I s)
    (hkeep : ∀ o env s answer s', I s → exec o env s = some (answer, s') → I s') :
    program.Ensures exec ok (fun _ s => I s) s := by
  induction program generalizing s with
  | ret a => exact hs
  | op o next ih =>
    intro env answer s' _ hexec
    exact ih answer (hkeep o env s answer s' hs hexec)

theorem ensures_true (program : Prog Resp α) (s : σ) :
    program.Ensures exec ok (fun _ _ => True) s :=
  ensures_of_exec (I := fun _ => True) trivial fun _ _ _ _ _ _ _ => trivial

variable (exec) in
/-- Run alone from a state, the program performs an operation only in a state in which it `may`. -/
def Performs (may : Op → σ → Prop) : Prog Resp α → σ → Prop
  | ret _, _ => True
  | op o next, s => may o s ∧ ∀ env answer s', exec o env s = some (answer, s') →
      (next answer).Performs may s'

theorem Within.performs (h : program.Within permitted) (hmay : ∀ o s, permitted o → may o s)
    (s : σ) : program.Performs exec may s := by
  induction program generalizing s with
  | ret a => trivial
  | op o next ih => exact ⟨hmay o s h.1, fun _ answer s' _ => ih answer (h.2 answer) s'⟩

theorem Performs.bind (h : program.Performs exec may s)
    (hmid : program.Ensures exec (fun _ _ => True) mid s)
    (hf : ∀ a s, mid a s → (f a).Performs exec may s) : (program >>= f).Performs exec may s := by
  induction program generalizing s with
  | ret a => exact hf a s hmid
  | op o next ih =>
    refine ⟨h.1, fun env answer s' hexec => ?_⟩
    exact ih answer (h.2 env answer s' hexec) (hmid env answer s' trivial hexec)

theorem Ensures.eval {envs : List Env} {s' : σ} {a : α} (h : program.Ensures exec ok post s)
    (henvs : ∀ o, ∀ env ∈ envs, ok o env) (heval : program.eval exec envs s = some (a, s')) :
    post a s' := by
  induction program generalizing envs s with
  | ret b =>
    cases envs <;>
      · simp only [Prog.eval, Option.some.injEq, Prod.mk.injEq] at heval
        obtain ⟨rfl, rfl⟩ := heval
        exact h
  | op o next ih =>
    cases envs with
    | nil => cases heval
    | cons env envs =>
      simp only [Prog.eval] at heval
      split at heval
      · rename_i answer s₁ hexec
        exact ih answer (h env answer s₁ (henvs o env List.mem_cons_self) hexec)
          (fun o env hmem => henvs o env (List.mem_cons_of_mem _ hmem)) heval
      · cases heval

end Prog

section

variable {Call : Type} {Ret : Call → Type} {S : System Resp Ret Env σ}
  {allowed : Pool Resp Ret σ → Act Call Env → Prop} {first pool : Pool Resp Ret σ}
  {ok : Op → Env → Prop} {may : Call → Op → σ → Prop} {call : Call} {shared : σ} {i : Nat}
  {env : Env} {o : Op} {rest : Resp o → Prog Resp (Ret call)} {trace : List ((o : Op) × Resp o)}
  {answer : Resp o}

/-- At most one call is in progress, and it ends with the invariant. -/
structure Pool.Alone (S : System Resp Ret Env σ) (ok : Op → Env → Prop) (I : σ → Prop)
    (pool : Pool Resp Ret σ) : Prop where
  quiet : pool.Quiescent → I pool.shared
  ends : ∀ thread ∈ pool.threads, thread.active = true →
    thread.rest.Ensures S.exec ok (fun _ s => I s) pool.shared
  one : ∀ (i j : Nat) (thread thread' : Thread Resp Ret), pool.threads[i]? = some thread →
    pool.threads[j]? = some thread' → thread.active = true → thread'.active = true → i = j

theorem Pool.Alone.start (h : pool.Alone S ok I) (hquiet : pool.Quiescent)
    (hcall : (S.body call).Ensures S.exec ok (fun _ s => I s) pool.shared) :
    Pool.Alone S ok I { pool with threads := pool.threads ++ [S.spawn call] } where
  quiet hnew := h.quiet hquiet
  ends thread hthread hactive := by
    rcases List.mem_append.mp hthread with hthread | hthread
    · rw [hquiet thread hthread] at hactive
      cases hactive
    · rw [List.mem_singleton] at hthread
      subst hthread
      exact hcall
  one i j thread thread' hi hj hactive hactive' := by
    have hlast : ∀ {k : Nat} {thread : Thread Resp Ret},
        (pool.threads ++ [S.spawn call])[k]? = some thread → thread.active = true →
        k = pool.threads.length := by
      intro k thread hk hactive
      rcases getElem?_concat_cases hk with hold | ⟨hlen, -⟩
      · rw [hquiet thread (List.mem_of_getElem? hold)] at hactive
        cases hactive
      · exact hlen
    rw [hlast hi hactive, hlast hj hactive']

theorem Pool.Alone.others {running : Thread Resp Ret} (h : pool.Alone S ok I)
    (hrunning : pool.threads[i]? = some running) (hactive : running.active = true) (j : Nat)
    (thread : Thread Resp Ret) (hj : j ≠ i) (hget : pool.threads[j]? = some thread) :
    thread.active = false := by
  by_contra hother
  exact hj (h.one j i thread running hget hrunning (by simpa using hother) hactive)

theorem Pool.Alone.step (h : pool.Alone S ok I) (henv : ok o env)
    (hthread : pool.threads[i]? = some ⟨call, trace, .op o rest⟩)
    (hexec : S.exec o env pool.shared = some (answer, shared)) :
    Pool.Alone S ok I
      ⟨shared, pool.threads.set i ⟨call, trace ++ [⟨o, answer⟩], rest answer⟩⟩ := by
  have hends : (rest answer).Ensures S.exec ok (fun _ s => I s) shared :=
    h.ends _ (List.mem_of_getElem? hthread) rfl env answer shared henv hexec
  have hlt : i < pool.threads.length := (List.getElem?_eq_some_iff.mp hthread).1
  have hothers := h.others hthread rfl
  refine ⟨?_, ?_, ?_⟩
  · intro hquiet
    have hdone := hquiet ⟨call, trace ++ [⟨o, answer⟩], rest answer⟩
      (List.mem_iff_getElem?.mpr ⟨i, List.getElem?_set_self hlt⟩)
    cases hrest : rest answer with
    | ret a =>
      rw [hrest] at hends
      exact hends
    | op o' rest' =>
      simp [Thread.active, hrest, Prog.returned] at hdone
  · intro thread hmem hactive
    rcases mem_set_cases hmem with rfl | ⟨j, hj, hget⟩
    · exact hends
    · rw [hothers j thread hj hget] at hactive
      cases hactive
  · have hlast : ∀ {k : Nat} {thread : Thread Resp Ret},
        (pool.threads.set i ⟨call, trace ++ [⟨o, answer⟩], rest answer⟩)[k]? = some thread →
        thread.active = true → k = i := by
      intro k thread hk hactive
      by_contra hne
      rw [List.getElem?_set_ne (Ne.symm hne)] at hk
      rw [hothers k thread hne hk] at hactive
      cases hactive
    intro j k thread thread' hj hk hactive hactive'
    rw [hlast hj hactive, hlast hk hactive']

/-- A call in progress goes on to perform operations only in states in which it may. -/
def Pool.Performs (S : System Resp Ret Env σ) (may : Call → Op → σ → Prop)
    (pool : Pool Resp Ret σ) : Prop :=
  ∀ thread ∈ pool.threads, thread.active = true →
    thread.rest.Performs S.exec (may thread.call) pool.shared

theorem Pool.Performs.start (hquiet : pool.Quiescent)
    (hcall : (S.body call).Performs S.exec (may call) pool.shared) :
    Pool.Performs S may { pool with threads := pool.threads ++ [S.spawn call] } := by
  intro thread hthread hactive
  rcases List.mem_append.mp hthread with hold | hnew
  · rw [hquiet thread hold] at hactive
    cases hactive
  · rw [List.mem_singleton] at hnew
    subst hnew
    exact hcall

theorem Pool.Performs.step (h : pool.Performs S may) (halone : pool.Alone S ok I)
    (hthread : pool.threads[i]? = some ⟨call, trace, .op o rest⟩)
    (hexec : S.exec o env pool.shared = some (answer, shared)) :
    Pool.Performs S may
      ⟨shared, pool.threads.set i ⟨call, trace ++ [⟨o, answer⟩], rest answer⟩⟩ := by
  intro thread hmem hactive
  rcases mem_set_cases hmem with rfl | ⟨j, hj, hget⟩
  · exact (h _ (List.mem_of_getElem? hthread) rfl).2 env answer shared hexec
  · rw [halone.others hthread rfl j thread hj hget] at hactive
    cases hactive

/-- **Calls one at a time.** What every call ensures when it runs alone holds whenever no call is in
progress. -/
theorem System.Reach.sequential (hempty : first.threads = []) (hfirst : I first.shared)
    (hquiet : ∀ pool call, allowed pool (.start call) → pool.Quiescent)
    (henv : ∀ pool i env, allowed pool (.step i env) → ∀ o, ok o env)
    (hcall : ∀ pool call, allowed pool (.start call) → I pool.shared →
      (S.body call).Ensures S.exec ok (fun _ s => I s) pool.shared)
    (hreach : S.Reach allowed first pool) (hdone : pool.Quiescent) : I pool.shared := by
  have hinv : pool.Alone S ok I := by
    clear hdone
    induction hreach with
    | refl =>
      refine ⟨fun _ => hfirst, ?_, ?_⟩
      · simp [hempty]
      · intro i j thread thread' hi
        simp [hempty] at hi
    | @tail pool pool' act _ hallowed hnext ih =>
      cases act with
      | start call =>
        cases hnext
        have hq := hquiet pool call hallowed
        exact ih.start hq (hcall pool call hallowed (ih.quiet hq))
      | step i env =>
        obtain ⟨call, trace, o, rest, answer, shared, hthread, hexec, rfl⟩ := S.next_step hnext
        exact ih.step (henv pool i env hallowed o) hthread hexec
  exact hinv.quiet hdone

end

end Concurrency
