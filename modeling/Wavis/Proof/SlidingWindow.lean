import Mathlib.Data.List.Induction
import Mathlib.Data.List.TakeWhile
import Wavis.Abuse

namespace Wavis

open Duration List

namespace SlidingWindow

inductive Call where
  | add (now : Instant)
  | count (now : Instant)

def Call.time : Call → Instant
  | add now => now
  | count now => now

def Call.addition : Call → Option Instant
  | add now => some now
  | count _ => none

def run (w : SlidingWindow) : Call → SlidingWindow
  | .add now => w.add now
  | .count now => (w.count now).2

/-- The additions that are at most one window old. -/
def recent (window : Duration) (now : Instant) (calls : List Call) : List Instant :=
  (calls.filterMap Call.addition).filter fun timestamp => now - timestamp ≤ window

variable {w : SlidingWindow} {window : Duration} {calls : List Call} {now : Instant} {max : Nat}

theorem prune_timestamps (h : w.timestamps.Pairwise (· ≤ ·)) :
    (w.prune now).timestamps = w.inWindow now := by
  obtain ⟨timestamps, window⟩ := w
  change timestamps.dropWhile (fun timestamp => now - timestamp > window)
    = timestamps.filter fun timestamp => now - timestamp ≤ window
  induction timestamps with
  | nil => rfl
  | cons first rest ih =>
    rw [pairwise_cons] at h
    by_cases hfirst : now - first ≤ window
    · rw [dropWhile_cons_of_neg (by simpa using hfirst), eq_comm]
      refine filter_eq_self.mpr fun timestamp hmem => decide_eq_true ?_
      rcases mem_cons.mp hmem with rfl | hrest
      · exact hfirst
      · exact Nat.le_trans (Nat.sub_le_sub_left (h.1 timestamp hrest) now) hfirst
    · have hold : now - first > window := Nat.lt_of_not_le hfirst
      rw [dropWhile_cons, if_pos (decide_eq_true hold),
        filter_cons_of_neg (by simpa using hfirst)]
      exact ih h.2

/-- The window has dropped only additions that were too old for one of the calls. -/
def Follows (window : Duration) (calls : List Call) (w : SlidingWindow) : Prop :=
  w.window = window ∧ ∃ dropped, calls.filterMap Call.addition = dropped ++ w.timestamps
    ∧ ∀ timestamp ∈ dropped, ∃ call ∈ calls, window < call.time - timestamp

theorem Follows.run (h : Follows window calls w) (call : Call) :
    Follows window (calls ++ [call]) (w.run call) := by
  obtain ⟨rfl, dropped, hadditions, hold⟩ := h
  have hstill : ∀ timestamp ∈ dropped, ∃ call' ∈ calls ++ [call],
      w.window < call'.time - timestamp := by
    intro timestamp hmem
    obtain ⟨earlier, hearlier, hlt⟩ := hold timestamp hmem
    exact ⟨earlier, mem_append_left _ hearlier, hlt⟩
  cases call with
  | add now =>
    refine ⟨rfl, dropped, ?_, hstill⟩
    rw [filterMap_append, hadditions, append_assoc]
    rfl
  | count now =>
    refine ⟨rfl, dropped ++ w.timestamps.takeWhile fun timestamp => now - timestamp > w.window,
      ?_, ?_⟩
    · change _ = dropped ++ _ ++ w.timestamps.dropWhile _
      rw [append_assoc, takeWhile_append_dropWhile, filterMap_append, hadditions]
      exact append_nil _
    · intro timestamp hmem
      rcases mem_append.mp hmem with hdropped | hnew
      · exact hstill timestamp hdropped
      · have hlt := mem_takeWhile_imp hnew
        exact ⟨.count now, by simp, of_decide_eq_true hlt⟩

theorem follows_foldl (window : Duration) (calls : List Call) :
    Follows window calls (calls.foldl run (.new window)) := by
  induction calls using reverseRecOn with
  | nil => exact ⟨rfl, [], rfl, nofun⟩
  | append_singleton calls call ih =>
    rw [foldl_append]
    exact ih.run call

theorem Follows.inWindow (h : Follows window calls w) (hnow : ∀ call ∈ calls, call.time ≤ now) :
    w.inWindow now = recent window now calls := by
  obtain ⟨rfl, dropped, hadditions, hold⟩ := h
  have hnone : dropped.filter (fun timestamp => now - timestamp ≤ w.window) = [] := by
    refine filter_eq_nil_iff.mpr fun timestamp hmem => ?_
    obtain ⟨call, hcall, hlt⟩ := hold timestamp hmem
    have hle := Nat.sub_le_sub_right (hnow call hcall) timestamp
    exact mt of_decide_eq_true (Nat.not_le_of_lt (Nat.lt_of_lt_of_le hlt hle))
  rw [recent, hadditions, filter_append, hnone]
  rfl

theorem Follows.sorted (h : Follows window calls w)
    (hcalls : calls.Pairwise fun earlier later => earlier.time ≤ later.time) :
    w.timestamps.Pairwise (· ≤ ·) := by
  obtain ⟨-, dropped, hadditions, -⟩ := h
  have hall : (calls.filterMap Call.addition).Pairwise (· ≤ ·) := by
    refine hcalls.filterMap Call.addition ?_
    rintro (_ | _) (_ | _) hle _ ⟨⟩ _ ⟨⟩
    exact hle
  rw [hadditions] at hall
  exact (pairwise_append.mp hall).2.1

theorem secondsUntilRetry_eq_none (hmax : 1 ≤ max) :
    w.secondsUntilRetry max now = none ↔ (w.inWindow now).length < max := by
  unfold secondsUntilRetry
  split_ifs with hfew
  · simp [hfew]
  · simp only [hfew, iff_false, Option.map_eq_none_iff, head?_eq_none_iff]
    intro hnil
    rw [hnil] at hfew
    exact hfew hmax

theorem advised_le_iff {window now oldest : Nat} (hpast : oldest ≤ now)
    (hage : now - oldest ≤ window) :
    now + Max.max 1 ((window - (now - oldest)) / 1000000000) * 1000000000 - oldest ≤ window
      ↔ ¬ window < now - oldest + 1 * 1000000000 := by
  omega

/-- **The advised wait is enough** exactly if the oldest timestamp leaves the window within a
second. -/
theorem length_inWindow_lt_iff {secs : Nat} {oldest : Instant} {rest : List Instant}
    (hretry : w.secondsUntilRetry max now = some secs) (hin : w.inWindow now = oldest :: rest)
    (hpast : oldest ≤ now) (holdest : ∀ t ∈ w.inWindow now, oldest ≤ t) :
    (w.inWindow (now + fromSecs secs)).length < (w.inWindow now).length
      ↔ w.window < now - oldest + fromSecs 1 := by
  have hsecs : secs = Nat.max 1 (asSecs (w.window - (now - oldest))) := by
    unfold secondsUntilRetry at hretry
    split_ifs at hretry
    rw [hin] at hretry
    cases hretry
    rfl
  have hlater : w.inWindow (now + fromSecs secs)
      = (w.inWindow now).filter fun t => now + fromSecs secs - t ≤ w.window := by
    rw [inWindow, inWindow, filter_filter]
    refine filter_congr fun t _ => ?_
    have hle : now - t ≤ now + fromSecs secs - t :=
      Nat.sub_le_sub_right (Nat.le_add_right now _) t
    by_cases h : now + fromSecs secs - t ≤ w.window
    · simp [h, Nat.le_trans hle h]
    · simp [h]
  have hgone :
      now + fromSecs secs - oldest ≤ w.window ↔ ¬ w.window < now - oldest + fromSecs 1 := by
    have hmem : oldest ∈ w.inWindow now := hin ▸ mem_cons_self
    have hage : now - oldest ≤ w.window := of_decide_eq_true (mem_filter.mp hmem).2
    rw [hsecs]
    exact advised_le_iff hpast hage
  rw [hlater]
  refine ⟨fun hlt => ?_, fun hleaves => ?_⟩
  · by_contra hstays
    refine absurd hlt (Nat.not_lt_of_le (le_of_eq ?_))
    rw [filter_eq_self.mpr fun t hmem => decide_eq_true ?_]
    exact Nat.le_trans (Nat.sub_le_sub_left (holdest t hmem) _) (hgone.mpr hstays)
  · rw [hin, filter_cons_of_neg (by simpa using mt hgone.mp (not_not.mpr hleaves))]
    exact Nat.lt_succ_of_le (length_filter_le _ _)

/-- **Counts are right, and a wait that is advised is enough** exactly when the oldest addition in
the window leaves it in less than a second. -/
theorem retry_after_honest (window : Duration) (calls : List Call) (now : Instant) (max : Nat)
    (hcalls : calls.Pairwise fun earlier later => earlier.time ≤ later.time)
    (hnow : ∀ call ∈ calls, call.time ≤ now) (hmax : 1 ≤ max) :
    ((calls.foldl run (.new window)).count now).1 = (recent window now calls).length
      ∧ ((calls.foldl run (.new window)).secondsUntilRetry max now = none
        ↔ ((calls.foldl run (.new window)).count now).1 < max)
      ∧ ∀ secs, (calls.foldl run (.new window)).secondsUntilRetry max now = some secs →
        (recent window now calls).length = max →
        (((calls.foldl run (.new window)).count (now + Duration.fromSecs secs)).1 < max
          ↔ ∀ oldest, (recent window now calls).head? = some oldest →
            window < now - oldest + Duration.fromSecs 1) := by
  have hfollows := follows_foldl window calls
  generalize calls.foldl run (.new window) = w at hfollows ⊢
  have hin := hfollows.inWindow hnow
  have hcount : ∀ now, (w.count now).1 = (w.inWindow now).length :=
    fun now => congrArg length (prune_timestamps (hfollows.sorted hcalls))
  refine ⟨by rw [hcount, hin], ?_, fun secs hretry hfull => ?_⟩
  · rw [hcount]
    exact secondsUntilRetry_eq_none hmax
  · rw [hcount, ← hfull, ← hin]
    cases hlist : recent window now calls with
    | nil =>
      rw [hlist] at hfull
      exact absurd hmax (hfull ▸ Nat.not_succ_le_zero 0)
    | cons oldest rest =>
      have hmem : oldest ∈ recent window now calls := hlist ▸ mem_cons_self ..
      obtain ⟨call, hcall, haddition⟩ := mem_filterMap.mp (mem_of_mem_filter hmem)
      have hpast : oldest ≤ now := by
        cases call with
        | add time =>
          cases haddition
          exact hnow _ hcall
        | count time => cases haddition
      rw [length_inWindow_lt_iff hretry (hin.trans hlist) hpast ?_, hfollows.1]
      · simp [hin, hlist]
      · have hsorted : (w.inWindow now).Pairwise (· ≤ ·) := (hfollows.sorted hcalls).filter _
        rw [hin, hlist] at hsorted ⊢
        exact forall_mem_cons.mpr ⟨le_rfl, fun _ => rel_of_pairwise_cons hsorted⟩

theorem retry_after_honest_short :
    (run (.new 5) (.add 3)).secondsUntilRetry 1 4 = some 1
      ∧ ((run (.new 5) (.add 3)).count (4 + Duration.fromSecs 1)).1 < 1 := by
  refine ⟨by decide, ((retry_after_honest 5 [.add 3] 4 1 (by simp) ?_ (by decide)).2.2 1
    (by decide) (by decide)).mpr ?_⟩
  · simp [Call.time]
  · rintro _ ⟨⟩
    decide

/-- One addition, and a caller that is told to wait the whole window: then the addition is exactly
one window old and still counts. -/
theorem not_retry_after_honest :
    ¬ ∀ (window : Duration) (calls : List Call) (now : Instant) (max secs : Nat),
      calls.Pairwise (fun earlier later => earlier.time ≤ later.time) →
      (∀ call ∈ calls, call.time ≤ now) → 1 ≤ max →
      (calls.foldl run (.new window)).secondsUntilRetry max now = some secs →
      (recent window now calls).length = max →
      ((calls.foldl run (.new window)).count (now + Duration.fromSecs secs)).1 < max := by
  intro h
  have hnow : ∀ call ∈ [Call.add 0], call.time ≤ 0 := by simp [Call.time]
  exact absurd (h (.fromSecs 60) [.add 0] 0 1 60 (by simp) hnow (by decide) (by decide) (by decide))
    (by decide)

end SlidingWindow

end Wavis
