import Mathlib.Logic.Relation
import Mathlib.Tactic.SplitIfs

/-! A state and the events that change it. An event that cannot happen in a state has no successor,
and the condition `allowed` restricts the events of a run further. -/

namespace Concurrency

structure Machine (σ ε : Type) where
  next : σ → ε → Option σ

namespace Machine

variable {σ ε : Type} (M : Machine σ ε)

def Move (allowed : σ → ε → Prop) (s s' : σ) : Prop := ∃ e, allowed s e ∧ M.next s e = some s'

/-- The states of the runs all of whose events are allowed. -/
def Reach (allowed : σ → ε → Prop) (first : σ) : σ → Prop :=
  Relation.ReflTransGen (M.Move allowed) first

/-- Runs a list of events; one that is not allowed or cannot happen ends the replay. -/
def replay (allowed : σ → ε → Prop) [∀ s e, Decidable (allowed s e)] (s : σ) : List ε → Option σ
  | [] => some s
  | e :: events =>
    if allowed s e then
      match M.next s e with
      | some s' => replay allowed s' events
      | none => none
    else none

variable {M} {allowed : σ → ε → Prop} {first s s' : σ}

theorem Reach.refl : M.Reach allowed first first := Relation.ReflTransGen.refl

theorem Reach.tail {e : ε} (h : M.Reach allowed first s) (hallowed : allowed s e)
    (hnext : M.next s e = some s') : M.Reach allowed first s' :=
  Relation.ReflTransGen.tail h ⟨e, hallowed, hnext⟩

/-- **Invariants.** What holds first and is kept by every allowed event holds throughout. -/
theorem Reach.invariant {I : σ → Prop} (hfirst : I first)
    (hstep : ∀ s e s', I s → allowed s e → M.next s e = some s' → I s')
    (h : M.Reach allowed first s) : I s := by
  induction h with
  | refl => exact hfirst
  | tail _ hmove ih =>
    obtain ⟨e, hallowed, hnext⟩ := hmove
    exact hstep _ e _ ih hallowed hnext

theorem Reach.replay [∀ s e, Decidable (allowed s e)] (events : List ε)
    (h : M.Reach allowed first s) (hreplay : M.replay allowed s events = some s') :
    M.Reach allowed first s' := by
  induction events generalizing s with
  | nil =>
    cases hreplay
    exact h
  | cons e events ih =>
    unfold Machine.replay at hreplay
    split_ifs at hreplay with hallowed
    split at hreplay
    · rename_i s₁ hnext
      exact ih (h.tail hallowed hnext) hreplay
    · cases hreplay

/-- A replayed list of events whose last state passes a test. -/
theorem exists_reach_of_replay (M : Machine σ ε) (allowed : σ → ε → Prop)
    [∀ s e, Decidable (allowed s e)] (first : σ) (events : List ε) (P : σ → Prop)
    [DecidablePred P] (h : (M.replay allowed first events).any (P ·) = true) :
    ∃ s, M.Reach allowed first s ∧ P s := by
  obtain ⟨s, hreplay, htest⟩ := (Option.any_eq_true _ _).mp h
  exact ⟨s, Reach.refl.replay events hreplay, of_decide_eq_true htest⟩

end Machine

end Concurrency
