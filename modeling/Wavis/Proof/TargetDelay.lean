import Mathlib.Tactic.Linarith
import Wavis.Client.TargetDelay

namespace Wavis

namespace TargetDelay

variable {d : TargetDelay} {s t u : Instant}

abbrev InRange (delay : ℚ) : Prop := delay ∈ Set.Icc minJitterDelayMs maxJitterDelayMs

theorem minJitterDelayMs_le : minJitterDelayMs ≤ maxJitterDelayMs := by
  norm_num [minJitterDelayMs, maxJitterDelayMs]

theorem rawTarget_mem (stats : JitterStats) : InRange stats.rawTarget :=
  ⟨le_max_left _ _, max_le minJitterDelayMs_le (min_le_left _ _)⟩

theorem shrink_nonneg (s t : Instant) : 0 ≤ maxDelayShrinkPerSecMs * secsBetween s t :=
  mul_nonneg (by norm_num [maxDelayShrinkPerSecMs])
    (div_nonneg (Nat.cast_nonneg _) (by norm_num))

theorem secsBetween_add (hst : s ≤ t) (htu : t ≤ u) :
    secsBetween t u + secsBetween s t = secsBetween s u := by
  unfold secsBetween
  rw [← add_div, ← Nat.cast_add, tsub_add_tsub_cancel htu hst]

theorem applyShrinkLimit_spec (d : TargetDelay) (newRaw : ℚ) (now : Instant) :
    newRaw ≤ d.applyShrinkLimit newRaw now
      ∧ d.currentTargetDelayMs - maxDelayShrinkPerSecMs * secsBetween d.lastDelayUpdate now
        ≤ d.applyShrinkLimit newRaw now
      ∧ d.applyShrinkLimit newRaw now ≤ max newRaw d.currentTargetDelayMs := by
  have hshrink := shrink_nonneg d.lastDelayUpdate now
  unfold applyShrinkLimit
  split_ifs with hrises
  · exact ⟨le_rfl, by linarith, le_max_left _ _⟩
  · exact ⟨le_max_left _ _, le_max_right _ _, max_le_max le_rfl (by linarith)⟩

theorem inRange_foldl (h : InRange d.currentTargetDelayMs) (calls : List JitterStats) :
    InRange (calls.foldl updateStats d).currentTargetDelayMs := by
  induction calls generalizing d with
  | nil => exact h
  | cons stats calls ih =>
    have hraw := rawTarget_mem stats
    obtain ⟨hle, -, hmax⟩ := d.applyShrinkLimit_spec stats.rawTarget stats.now
    exact ih ⟨hraw.1.trans hle, hmax.trans (max_le hraw.2 h.2)⟩

/-- The limits of the single calls add up to the limit for the time between the first and the last
of them. -/
theorem shrink_foldl {first : JitterStats} (calls : List JitterStats)
    (htimes : (first :: calls).Pairwise fun c c' => c.now ≤ c'.now)
    (hfirst : d.lastDelayUpdate = first.now) (hraw : first.rawTarget ≤ d.currentTargetDelayMs) :
    let last := (first :: calls).getLast (List.cons_ne_nil _ _)
    let target := (calls.foldl updateStats d).currentTargetDelayMs
    first.now ≤ last.now ∧ last.rawTarget ≤ target
      ∧ d.currentTargetDelayMs - maxDelayShrinkPerSecMs * secsBetween first.now last.now
        ≤ target := by
  induction calls generalizing d first with
  | nil => exact ⟨le_rfl, hraw, by simp [secsBetween]⟩
  | cons next calls ih =>
    obtain ⟨hle, hrest⟩ := List.pairwise_cons.mp htimes
    have hnext : first.now ≤ next.now := hle _ List.mem_cons_self
    obtain ⟨hnew, hstep, -⟩ := d.applyShrinkLimit_spec next.rawTarget next.now
    obtain ⟨hlater, hlast, hshrink⟩ := ih (d := d.updateStats next) hrest rfl hnew
    change _ ≤ (d.updateStats next).currentTargetDelayMs at hstep
    rw [hfirst] at hstep
    refine ⟨hnext.trans hlater, hlast, ?_⟩
    rw [List.getLast_cons_cons, List.foldl_cons, ← secsBetween_add hnext hlater, mul_add]
    linarith

/-- **The target delay shrinks slowly.** Over calls at non-decreasing times the target stays in its
range and is never below what the latest statistics ask for. From one call to a later one it falls
by at most the permitted rate, whatever was called in between. -/
theorem target_delay_shrinks_slowly (created : Instant) (before : List JitterStats)
    (first : JitterStats) (rest : List JitterStats)
    (htimes : (before ++ first :: rest).Pairwise fun c c' => c.now ≤ c'.now) :
    let last := (first :: rest).getLast (List.cons_ne_nil _ _)
    let target calls := (after created calls).currentTargetDelayMs
    target (before ++ first :: rest) ∈ Set.Icc 20 200
      ∧ max 20 (min 200 (last.avgJitterMs + 2 * last.jitterStddevMs))
        ≤ target (before ++ first :: rest)
      ∧ target (before ++ [first]) - maxDelayShrinkPerSecMs * secsBetween first.now last.now
        ≤ target (before ++ first :: rest) := by
  have hsplit : after created (before ++ first :: rest)
      = rest.foldl updateStats (after created (before ++ [first])) := by
    rw [after, after, ← List.foldl_append, List.append_assoc]
    rfl
  have hstart : after created (before ++ [first]) = (after created before).updateStats first := by
    rw [after, List.foldl_append]
    rfl
  have hrun := shrink_foldl (d := after created (before ++ [first])) rest
    (List.pairwise_append.mp htimes).2.1 (by rw [hstart]; rfl)
    (by rw [hstart]; exact (applyShrinkLimit_spec _ _ _).1)
  rw [← hsplit] at hrun
  exact ⟨inRange_foldl ⟨le_rfl, minJitterDelayMs_le⟩ _, hrun.2⟩

/-- A jitter of 100 ms is followed by calls with less, one and two seconds later. -/
theorem target_delay_shrinks_slowly_twice :
    let target := (after 0
      [⟨100, 0, 0⟩, ⟨0, 0, 1000000000⟩, ⟨40, 10, 2000000000⟩]).currentTargetDelayMs
    60 ≤ target ∧ 100 - 5 * 2 ≤ target := by
  have h := target_delay_shrinks_slowly 0 [] ⟨100, 0, 0⟩
    [⟨0, 0, 1000000000⟩, ⟨40, 10, 2000000000⟩] (by decide)
  refine ⟨le_trans (by norm_num) h.2.1, le_trans (le_of_eq ?_) h.2.2⟩
  decide +kernel

end TargetDelay

end Wavis
