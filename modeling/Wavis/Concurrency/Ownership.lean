import Wavis.Concurrency.Pool

/-! A thread may own something that no other thread owns, such as an open transaction. What is known
about the thread then has to survive only the steps of threads that own something else. -/

namespace Concurrency

variable {Op Call Env σ Φ κ : Type} {Resp : Op → Type} {Ret : Call → Type}
  {S : System Resp Ret Env σ} {P : Protocol Resp Ret Φ}
  {allowed : Pool Resp Ret σ → Act Call Env → Prop} {first pool : Pool Resp Ret σ}
  {Fits : σ → Call → Φ → Prop} {owns : Φ → Option κ} {I : σ → Prop}

/-- What holds of the state, of every thread in its phase, and of what threads hold. -/
structure Pool.Holding (P : Protocol Resp Ret Φ) (I : σ → Prop) (Fits : σ → Call → Φ → Prop)
    (holds : Φ → κ → Prop) (pool : Pool Resp Ret σ) : Prop where
  shared : I pool.shared
  fits : ∀ thread ∈ pool.threads, Fits pool.shared thread.call (P.phase thread)
  apart : Apart (fun thread => holds (P.phase thread)) pool.threads

/-- What holds of the state, of every thread in its phase, and of what threads own. -/
structure Pool.Owning (P : Protocol Resp Ret Φ) (I : σ → Prop) (Fits : σ → Call → Φ → Prop)
    (owns : Φ → Option κ) (pool : Pool Resp Ret σ) : Prop where
  shared : I pool.shared
  fits : ∀ thread ∈ pool.threads, Fits pool.shared thread.call (P.phase thread)
  apart : Exclusive (fun thread => owns (P.phase thread)) pool.threads

section

variable (hfollows : ∀ pool call, allowed pool (.start call) → P.Holds (S.spawn call))
    (hempty : first.threads = []) (hfirst : I first.shared)
    (hown : ∀ pool i env call φ o answer w, allowed pool (.step i env) → pool.nextOp i = some o →
      I pool.shared → Fits pool.shared call φ → P.may call φ o →
      S.exec o env pool.shared = some (answer, w) → I w ∧ Fits w call (P.next φ o answer))
include hfollows hempty hfirst hown

/-- **Invariants with holders.** A thread may hold several things at once. -/
theorem System.Reach.holding {holds : Φ → κ → Prop}
    (hnew : ∀ w call, I w → Fits w call (P.init call) ∧ ∀ k, ¬ holds (P.init call) k)
    (hother : ∀ pool i env call φ o answer w call' φ', allowed pool (.step i env) →
      pool.nextOp i = some o → I pool.shared → Fits pool.shared call φ → P.may call φ o →
      S.exec o env pool.shared = some (answer, w) → Fits pool.shared call' φ' →
      (∀ k, holds φ k → ¬ holds φ' k) → Fits w call' φ')
    (hgain : ∀ pool i env thread o answer w j other k, allowed pool (.step i env) →
      pool.threads[i]? = some thread → pool.nextOp i = some o → j ≠ i →
      pool.threads[j]? = some other → I pool.shared →
      Fits pool.shared thread.call (P.phase thread) →
      P.may thread.call (P.phase thread) o → S.exec o env pool.shared = some (answer, w) →
      holds (P.next (P.phase thread) o answer) k →
      Fits pool.shared other.call (P.phase other) → holds (P.phase other) k →
      holds (P.phase thread) k) (hreach : S.Reach allowed first pool) :
    pool.Holding P I Fits holds ∧ ∀ thread ∈ pool.threads, P.Holds thread := by
  have hbegin : first.Holding P I Fits holds :=
    ⟨hfirst, by simp [hempty], by rw [hempty]; exact .nil _⟩
  refine hreach.invariant hfollows hempty hbegin ?_ ?_
  · intro pool call h hallowed
    obtain ⟨hfits, hnone⟩ := hnew pool.shared call h.shared
    refine ⟨h.shared, fun thread hthread => ?_, h.apart.concat fun thread _ k hk => ?_⟩
    · rcases List.mem_append.mp hthread with hold | hnew
      · exact h.fits thread hold
      · rw [List.mem_singleton] at hnew
        subst hnew
        exact hfits
    · have hspawn : P.phase (S.spawn call) = P.init call := P.phase_nil call (S.body call)
      rw [hspawn] at hk
      exact absurd hk (hnone k)
  · intro pool i env call trace o rest answer w h hallowed hthread hmay hholds hexec
    have hop : pool.nextOp i = some o := by simp only [Pool.nextOp, hthread]
    have hfits := h.fits _ (List.mem_of_getElem? hthread)
    obtain ⟨hI, hnext⟩ := hown pool i env call _ o answer w hallowed hop h.shared hfits hmay hexec
    have hphase := P.phase_step call trace o rest answer
    refine ⟨hI, fun thread hmem => ?_, h.apart.set fun j thread hj hget k hk => ?_⟩
    · rcases mem_set_cases hmem with rfl | ⟨j, hj, hget⟩
      · rw [hphase]
        exact hnext
      · refine hother pool i env call _ o answer w _ _ hallowed hop h.shared hfits hmay hexec
          (h.fits thread (List.mem_of_getElem? hget)) fun k hk hk' => ?_
        exact hj (h.apart j i thread _ k hget hthread hk' hk)
    · intro hk'
      rw [hphase] at hk
      have hbefore := hgain pool i env _ o answer w j thread k hallowed hthread hop hj hget
        h.shared hfits hmay hexec hk (h.fits thread (List.mem_of_getElem? hget)) hk'
      exact hj (h.apart j i thread _ k hget hthread hk' hbefore)

/-- **Invariants with owners.** A thread owns at most one thing at a time. -/
theorem System.Reach.owning
    (hnew : ∀ w call, I w → Fits w call (P.init call) ∧ owns (P.init call) = none)
    (hother : ∀ pool i env call φ o answer w call' φ', allowed pool (.step i env) →
      pool.nextOp i = some o → I pool.shared → Fits pool.shared call φ → P.may call φ o →
      S.exec o env pool.shared = some (answer, w) → Fits pool.shared call' φ' →
      (∀ k, owns φ = some k → owns φ' ≠ some k) → Fits w call' φ')
    (hgain : ∀ pool i env thread o answer w j other k, allowed pool (.step i env) →
      pool.threads[i]? = some thread → pool.nextOp i = some o → j ≠ i →
      pool.threads[j]? = some other → Fits pool.shared thread.call (P.phase thread) →
      P.may thread.call (P.phase thread) o → S.exec o env pool.shared = some (answer, w) →
      owns (P.next (P.phase thread) o answer) = some k →
      Fits pool.shared other.call (P.phase other) → owns (P.phase other) = some k →
      owns (P.phase thread) = some k) (hreach : S.Reach allowed first pool) :
    pool.Owning P I Fits owns ∧ ∀ thread ∈ pool.threads, P.Holds thread := by
  have hnone : ∀ w call, I w →
      Fits w call (P.init call) ∧ ∀ k, ¬ (fun φ k => owns φ = some k) (P.init call) k := by
    intro w call hI
    obtain ⟨hfits, hnone⟩ := hnew w call hI
    exact ⟨hfits, fun k hk => by cases hnone.symm.trans hk⟩
  obtain ⟨hholding, hholds⟩ := hreach.holding hfollows hempty hfirst hown hnone hother
    fun pool i env thread o answer w j other k hallowed hthread hop hj hget _ =>
      hgain pool i env thread o answer w j other k hallowed hthread hop hj hget
  exact ⟨⟨hholding.shared, hholding.fits, exclusive_iff_apart.mpr hholding.apart⟩, hholds⟩

end

/-- **The state at rest.** What a thread establishes when it gives up what it owns, and the
operations of threads that own nothing keep, holds while no thread owns anything. -/
theorem System.Reach.at_rest {J : σ → Prop}
    (howning : ∀ pool, S.Reach allowed first pool →
      pool.Owning P I Fits owns ∧ ∀ thread ∈ pool.threads, P.Holds thread)
    (hfirst : J first.shared)
    (hstep : ∀ pool i env call φ o answer w, allowed pool (.step i env) → pool.nextOp i = some o →
      I pool.shared → Fits pool.shared call φ → P.may call φ o →
      S.exec o env pool.shared = some (answer, w) → owns (P.next φ o answer) = none →
      (owns φ = none → J pool.shared) → J w) (hreach : S.Reach allowed first pool)
    (hnone : ∀ thread ∈ pool.threads, owns (P.phase thread) = none) : J pool.shared := by
  induction hreach with
  | refl => exact hfirst
  | @tail pool pool' act hreach hallowed hnext ih =>
    cases act with
    | start call =>
      cases hnext
      exact ih fun thread hmem => hnone thread (List.mem_append_left _ hmem)
    | step i env =>
      obtain ⟨call, trace, o, rest, answer, w, hthread, hexec, rfl⟩ := S.next_step hnext
      have hop : pool.nextOp i = some o := by simp only [Pool.nextOp, hthread]
      obtain ⟨⟨hI, hfits, -⟩, hholds⟩ := howning pool hreach
      have hmem := List.mem_of_getElem? hthread
      have hphase := P.phase_step call trace o rest answer
      have hlt : i < pool.threads.length := (List.getElem?_eq_some_iff.mp hthread).1
      have hself := hnone _ (List.mem_set hlt _)
      rw [hphase] at hself
      refine hstep pool i env call _ o answer w hallowed hop hI (hfits _ hmem) (hholds _ hmem).1
        hexec hself fun hown => ih fun thread hthread' => ?_
      obtain ⟨j, hj⟩ := List.mem_iff_getElem?.mp hthread'
      by_cases hji : j = i
      · rw [hji, hthread] at hj
        cases hj
        exact hown
      · refine hnone thread (List.mem_of_getElem? (i := j) ?_)
        rw [List.getElem?_set_ne (Ne.symm hji)]
        exact hj

end Concurrency
