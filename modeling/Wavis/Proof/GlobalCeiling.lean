import Mathlib.Tactic.Common
import Wavis.GlobalRateLimiter

namespace Wavis

open Concurrency GlobalRateLimiter

theorem unpack_pack (epoch tokens : UInt32) : unpack (pack epoch tokens) = (epoch, tokens) := by
  unfold unpack pack
  refine Prod.ext (UInt32.toBitVec_inj.mp ?_) (UInt32.toBitVec_inj.mp ?_)
  · apply BitVec.eq_of_getLsbD_eq
    intro i hi
    simp [BitVec.getLsbD_setWidth]
    grind
  · apply BitVec.eq_of_getLsbD_eq
    intro i hi
    simp

theorem GlobalRateLimiter.load_exchanging {limiter : GlobalRateLimiter} {nowUnix : Nat}
    {current newState : UInt64} (hmax : 1 ≤ limiter.maxPerSec.toNat)
    (h : limiter.load nowUnix = .exchanging current newState) :
    (unpack newState).1 = UInt32.ofNat nowUnix
      ∧ (unpack newState).2.toNat + 1
        = if (unpack limiter.state).1 = UInt32.ofNat nowUnix then (unpack limiter.state).2.toNat
          else limiter.maxPerSec.toNat := by
  have hless : ∀ n : UInt32, n ≠ 0 → (n - 1).toNat + 1 = n.toNat := by
    intro n hn
    have hpos : 1 ≤ n.toNat := Nat.one_le_iff_ne_zero.mpr fun hzero =>
      hn (UInt32.toNat_inj.mp hzero)
    rw [UInt32.toNat_sub_of_le n 1 (UInt32.le_iff_toNat_le.mpr hpos)]
    exact Nat.sub_add_cancel hpos
  unfold load at h
  dsimp only at h
  split_ifs at h with hepoch htokens
  · cases h
    have hne : limiter.maxPerSec ≠ 0 := by
      rintro hzero
      rw [hzero] at hmax
      cases hmax
    rw [unpack_pack, if_neg hepoch, refill, if_neg hne]
    exact ⟨rfl, hless _ hne⟩
  · cases h
    rw [not_not] at hepoch
    rw [unpack_pack, if_pos hepoch]
    exact ⟨hepoch, hless _ htokens⟩

namespace LimiterRun

variable {r r' : LimiterRun} {maxPerSec : UInt32} {event : LimiterEvent} {i : Nat}
  {call : AllowCall}

def exchanges (r : LimiterRun) (call : AllowCall) : Bool :=
  match call.stage with
  | .exchanging current _ => r.limiter.state = current
  | _ => false

/-- An exchange that succeeds does not set the word back to an earlier second. -/
def InOrder (r : LimiterRun) : LimiterEvent → Prop
  | .step i false => ∀ call ∈ r.calls[i]?, r.exchanges call → r.writtenFor ≤ call.nowUnix
  | _ => True

instance (r : LimiterRun) (event : LimiterEvent) : Decidable (r.InOrder event) := by
  unfold InOrder
  split <;> infer_instance

structure Counted (maxPerSec : UInt32) (r : LimiterRun) : Prop where
  limit : r.limiter.maxPerSec = maxPerSec
  loaded : ∀ call ∈ r.calls, ∀ current newState, call.stage = .exchanging current newState →
    GlobalRateLimiter.load ⟨current, maxPerSec⟩ call.nowUnix = call.stage
  epoch : (unpack r.limiter.state).1 = UInt32.ofNat r.writtenFor
  later : ∀ second, r.writtenFor < second → r.admitted second = 0
  left : r.admitted r.writtenFor + (unpack r.limiter.state).2.toNat ≤ maxPerSec.toNat
  ceiling : ∀ second, r.admitted second ≤ maxPerSec.toNat

theorem admitted_set (hcall : r.calls[i]? = some call) (hstage : call.stage ≠ .returned true)
    (limiter : GlobalRateLimiter) (stage : AllowStage) (writtenFor second : Nat) :
    ({ r with limiter, calls := r.calls.set i { call with stage }, writtenFor }).admitted second
      = r.admitted second
        + if call.nowUnix = second ∧ stage = .returned true then 1 else 0 := by
  obtain ⟨hlt, heq⟩ := List.getElem?_eq_some_iff.mp hcall
  unfold admitted
  rw [List.countP_set hlt, heq]
  simp [hstage]

theorem Counted.set (h : r.Counted maxPerSec) (hcall : r.calls[i]? = some call)
    (hstage : call.stage ≠ .returned true) {stage : AllowStage} (hnew : stage ≠ .returned true)
    (hloaded : ∀ current newState, stage = .exchanging current newState →
      load ⟨current, maxPerSec⟩ call.nowUnix = stage) :
    Counted maxPerSec { r with calls := r.calls.set i { call with stage } } := by
  have hsame : ∀ second, ({ r with calls := r.calls.set i { call with stage } }).admitted second
      = r.admitted second := fun second => by
    simpa [hnew] using admitted_set hcall hstage r.limiter stage r.writtenFor second
  refine ⟨h.limit, fun other hother => ?_, h.epoch, fun second hlt => ?_, ?_, fun second => ?_⟩
  · rcases List.mem_or_eq_of_mem_set hother with hold | rfl
    · exact h.loaded other hold
    · exact hloaded
  · exact (hsame second).trans (h.later second hlt)
  · rw [hsame]
    exact h.left
  · rw [hsame]
    exact h.ceiling second

theorem Counted.exchange (h : r.Counted maxPerSec) (hmax : 1 ≤ maxPerSec.toNat)
    (hcall : r.calls[i]? = some call) {newState : UInt64}
    (hstage : call.stage = .exchanging r.limiter.state newState)
    (horder : r.writtenFor ≤ call.nowUnix) :
    Counted maxPerSec { r with
      limiter := { r.limiter with state := newState }
      calls := r.calls.set i { call with stage := .returned true }
      writtenFor := call.nowUnix } := by
  have hload := h.loaded call (List.mem_of_getElem? hcall) _ _ hstage
  rw [hstage] at hload
  obtain ⟨hepoch, htokens⟩ := load_exchanging hmax hload
  have hadmitted := admitted_set hcall (by rw [hstage]; exact nofun)
    { r.limiter with state := newState } (.returned true) call.nowUnix
  -- The word was of this second before, or of an earlier one without any admissions of this one.
  have hleft : r.admitted call.nowUnix + 1 + (unpack newState).2.toNat ≤ maxPerSec.toNat := by
    have hword := h.left
    rcases Nat.lt_or_eq_of_le horder with hlt | heq
    · have hnone := h.later _ hlt
      split_ifs at htokens <;> dsimp only at htokens <;> omega
    · rw [heq] at hword
      rw [if_pos (heq ▸ h.epoch)] at htokens
      dsimp only at htokens
      omega
  refine ⟨h.limit, fun other hother => ?_, hepoch, fun second hlt => ?_, ?_, fun second => ?_⟩
  · rcases List.mem_or_eq_of_mem_set hother with hold | rfl
    · exact h.loaded other hold
    · exact nofun
  · have hnone := h.later second (Nat.lt_of_le_of_lt horder hlt)
    rw [hadmitted, hnone, if_neg fun hsame => Nat.ne_of_lt hlt hsame.1]
  · rw [hadmitted, if_pos ⟨rfl, rfl⟩]
    exact hleft
  · rw [hadmitted]
    split_ifs with hsame
    · rw [← hsame.1]
      omega
    · exact h.ceiling second

theorem Counted.next (h : r.Counted maxPerSec) (hmax : 1 ≤ maxPerSec.toNat)
    (horder : r.InOrder event) (hnext : r.next event = some r') : r'.Counted maxPerSec := by
  cases event with
  | tick =>
    cases hnext
    exact ⟨h.limit, h.loaded, h.epoch, h.later, h.left, h.ceiling⟩
  | call =>
    cases hnext
    have hsame : LimiterRun.admitted { r with calls := r.calls ++ [⟨r.clock, .loading⟩] }
        = r.admitted := by
      funext second
      simp [admitted]
    refine ⟨h.limit, fun other hother => ?_, h.epoch, hsame ▸ h.later, hsame ▸ h.left,
      hsame ▸ h.ceiling⟩
    rcases List.mem_append.mp hother with hold | hnew
    · exact h.loaded other hold
    · rw [List.mem_singleton.mp hnew]
      exact nofun
  | step i spurious =>
    unfold LimiterRun.next at hnext
    dsimp only at hnext
    cases hcall : r.calls[i]? with
    | none =>
      rw [hcall] at hnext
      cases hnext
    | some call =>
      simp only [hcall] at hnext
      cases hstage : call.stage with
      | loading =>
        simp only [hstage] at hnext
        cases hnext
        refine h.set hcall (by rw [hstage]; exact nofun) ?_ fun current newState hload => ?_
        · unfold load
          dsimp only
          split_ifs <;> exact nofun
        · obtain rfl : r.limiter.state = current := by
            unfold load at hload
            dsimp only at hload
            split_ifs at hload <;> cases hload <;> rfl
          rw [← h.limit]
      | exchanging current newState =>
        simp only [hstage] at hnext
        split_ifs at hnext with hsucceeds
        · obtain ⟨rfl, rfl⟩ := hsucceeds
          cases hnext
          exact h.exchange hmax hcall hstage (horder call hcall (by simp [exchanges, hstage]))
        · cases hnext
          exact h.set hcall (by rw [hstage]; exact nofun) nofun nofun
      | returned allowed =>
        simp only [hstage] at hnext
        cases hnext

end LimiterRun

open LimiterRun

/-- **The global ceiling**, if no exchange sets the word back to an earlier second. -/
theorem admitted_le_maxPerSec {maxPerSec : UInt32} (hmax : 1 ≤ maxPerSec) {clock : Nat}
    {r : LimiterRun} (hreach : limiterMachine.Reach InOrder (initial maxPerSec clock) r)
    (second : Nat) : r.admitted second ≤ maxPerSec.toNat := by
  have hmax' : 1 ≤ maxPerSec.toNat := UInt32.le_iff_toNat_le.mp hmax
  have hcounted : r.Counted maxPerSec := by
    refine hreach.invariant (I := Counted maxPerSec) ?_ fun _ _ _ h horder => h.next hmax' horder
    refine ⟨rfl, nofun, ?_, fun _ _ => rfl, ?_, fun _ => Nat.zero_le _⟩
    · exact congrArg Prod.fst (unpack_pack 0 maxPerSec)
    · exact Nat.le_of_eq ((Nat.zero_add _).trans
        (congrArg (fun word => word.2.toNat) (unpack_pack 0 maxPerSec)))
  exact hcounted.ceiling second

/-- Two calls of the same second and one of the next; `late` is when the second of them runs. -/
def boundary (late : Bool) : List LimiterEvent :=
  let early := [.step 0 false, .step 0 true, .step 0 false, .step 0 false]
  let next := [.step 2 false, .step 2 false]
  let other := [.step 1 false, .step 1 false]
  [.call, .call, .tick, .call] ++ early ++ if late then next ++ other else other.take 1 ++ next

/-- One call of each second is allowed. -/
theorem admitted_le_maxPerSec_one : ∃ r,
    limiterMachine.Reach InOrder (initial 1 1700000000) r ∧ r.admitted 1700000000 = 1
      ∧ r.admitted 1700000001 = 1 ∧ ∀ second, r.admitted second ≤ 1 := by
  obtain ⟨r, hreach, hfirst, hnext⟩ := Machine.exists_reach_of_replay limiterMachine InOrder
    (initial 1 1700000000) (boundary false)
    (fun r => r.admitted 1700000000 = 1 ∧ r.admitted 1700000001 = 1) (by decide +kernel)
  exact ⟨r, hreach, hfirst, hnext, admitted_le_maxPerSec (by decide) hreach⟩

/-- The call that comes late is allowed as well. -/
theorem not_admitted_le_maxPerSec : ¬ ∀ (maxPerSec : UInt32) (clock : Nat) (r : LimiterRun),
    1 ≤ maxPerSec → limiterMachine.Reach (fun _ _ => True) (initial maxPerSec clock) r →
      ∀ second, r.admitted second ≤ maxPerSec.toNat := by
  intro h
  obtain ⟨r, hreach, htest⟩ := Machine.exists_reach_of_replay limiterMachine (fun _ _ => True)
    (initial 1 1700000000) (boundary true) (fun r => r.admitted 1700000000 = 2)
    (by decide +kernel)
  have hle := h 1 1700000000 r (by decide) hreach 1700000000
  rw [htest] at hle
  exact absurd hle (by decide)

end Wavis
