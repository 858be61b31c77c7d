import Wavis.Concurrency.ReadCommitted
import Mathlib.Data.Set.Card

/-! The *draft* of a transaction is its own version of every row it has written. Drafts of different
transactions never overlap, and a commit lays a draft over what was committed. -/

namespace Concurrency.Table

open Function

variable {K α : Type}

/-- The version of a row that a transaction has written, if it has. -/
def draft (table : Table K α) (tx : TxId) (k : K) : Option (Option α) :=
  match (table.rows k).written with
  | some (writer, version) => if writer = tx then some version else none
  | none => none

variable {table table' : Table K α} {tx tx' : TxId} {k k' : K} {version : Option α}
  {writer : Option TxId}

theorem draft_eq_some :
    table.draft tx k = some version ↔ (table.rows k).written = some (tx, version) := by
  unfold draft
  split
  · rename_i writer version' hwritten
    rw [hwritten]
    split_ifs with hwriter
    · simp [hwriter]
    · simp [hwriter]
  · rename_i hwritten
    simp [hwritten]

theorem draft_eq_none :
    table.draft tx k = none ↔ ∀ version, (table.rows k).written ≠ some (tx, version) := by
  rw [Option.eq_none_iff_forall_ne_some]
  exact forall_congr' fun version => not_congr draft_eq_some

theorem visible_eq :
    (table.rows k).visible (some tx) = (table.draft tx k).getD (table.rows k).committed := by
  unfold draft Row.visible
  cases hwritten : (table.rows k).written with
  | none => rfl
  | some entry =>
    by_cases hwriter : entry.1 = tx
    · simp [hwriter]
    · simp [hwriter, Ne.symm hwriter]

theorem draft_of_free (hfree : (table.rows k).Free (some tx)) (hne : tx' ≠ tx) :
    table.draft tx' k = none := by
  rw [draft_eq_none]
  intro version hwritten
  exact hne (Option.some.inj (hfree _ hwritten)).symm

theorem draft_of_free_none (hfree : (table.rows k).Free none) : table.draft tx k = none := by
  rw [draft_eq_none, hfree.written_none]
  intro version hwritten
  cases hwritten

theorem draft_of_unwritten (h : (table.rows k).written = none) : table.draft tx k = none := by
  simp only [draft, h]

section

variable [DecidableEq K]

theorem draft_stage :
    (table.stage tx k version).draft tx = update (table.draft tx) k (some version) := by
  funext k'
  by_cases hk : k' = k
  · subst hk
    rw [update_self, draft_eq_some, written_stage, if_pos rfl]
  · rw [update_of_ne hk]
    unfold draft
    rw [written_stage, if_neg hk]

theorem draft_stage_ne (hfree : (table.rows k).Free (some tx)) (hne : tx' ≠ tx) :
    (table.stage tx k version).draft tx' = table.draft tx' := by
  funext k'
  by_cases hk : k' = k
  · subst hk
    rw [draft_of_free hfree hne, draft_eq_none]
    intro version' hwritten
    rw [written_stage, if_pos rfl] at hwritten
    cases hwritten
    exact hne rfl
  · unfold draft
    rw [written_stage, if_neg hk]

theorem draft_put : (table.put k version).draft tx = table.draft tx := by
  funext k'
  unfold draft
  rw [written_put]

end

theorem draft_commit_ne (hne : tx' ≠ tx) : (table.commit tx).draft tx' = table.draft tx' := by
  funext k
  refine Option.ext fun version => ?_
  rw [draft_eq_some, draft_eq_some]
  exact Row.written_commit_iff hne.symm

theorem draft_rollback_ne (hne : tx' ≠ tx) :
    (table.rollback tx).draft tx' = table.draft tx' := by
  funext k
  refine Option.ext fun version => ?_
  rw [draft_eq_some, draft_eq_some]
  exact Row.written_rollback_iff hne.symm

def view (table : Table K α) (k : K) : Option α := (table.rows k).committed

section

variable [DecidableEq K]

@[simp] theorem view_stage : (table.stage tx k version).view = table.view :=
  funext fun k' => table.committed_stage tx k k' version

theorem view_put : (table.put k version).view = update table.view k version := by
  funext k'
  rw [update_apply]
  exact table.committed_put k k' version

end

@[simp] theorem view_rollback : (table.rollback tx).view = table.view := rfl

/-- **A commit** lays the draft over what was committed. -/
theorem view_commit : (table.commit tx).view k = (table.draft tx k).getD (table.view k) := by
  rcases (table.rows k).committed_commit tx with ⟨version, hwritten, heq⟩ | ⟨hunwritten, heq⟩
  · rw [draft_eq_some.mpr hwritten]
    exact heq
  · rw [draft_eq_none.mpr hunwritten]
    exact heq

theorem view_commit_of_single [DecidableEq K]
    (h : table.draft tx = update (fun _ => none) k (some version)) :
    (table.commit tx).view = update table.view k version := by
  funext k'
  rw [view_commit, h, update_apply, update_apply]
  split_ifs <;> rfl

/-- The draft of a transaction, and what is committed of the rows in it, are left alone. -/
structure Framed (tx : TxId) (table table' : Table K α) : Prop where
  draft : table'.draft tx = table.draft tx
  view : ∀ k, table.draft tx k ≠ none → table'.view k = table.view k

theorem Framed.refl (tx : TxId) (table : Table K α) : Framed tx table table :=
  ⟨rfl, fun _ _ => rfl⟩

theorem framed_stage [DecidableEq K] (hfree : (table.rows k).Free (some tx)) (hne : tx' ≠ tx) :
    Framed tx' table (table.stage tx k version) :=
  ⟨draft_stage_ne hfree hne, fun _ _ => by rw [view_stage]⟩

theorem framed_put [DecidableEq K] (hfree : (table.rows k).Free none) :
    Framed tx table (table.put k version) := by
  refine ⟨draft_put, fun k' hk' => ?_⟩
  rw [view_put, update_of_ne]
  rintro rfl
  exact hk' (draft_of_free_none hfree)

theorem framed_commit (hne : tx' ≠ tx) : Framed tx' table (table.commit tx) := by
  refine ⟨draft_commit_ne hne, fun k hk => ?_⟩
  obtain ⟨version, hversion⟩ := Option.ne_none_iff_exists'.mp hk
  rw [draft_eq_some] at hversion
  have hnone : table.draft tx k = none := by
    rw [draft_eq_none, hversion]
    rintro other heq
    cases heq
    exact hne rfl
  rw [view_commit, hnone]
  rfl

theorem framed_rollback (hne : tx' ≠ tx) : Framed tx' table (table.rollback tx) :=
  ⟨draft_rollback_ne hne, fun _ _ => rfl⟩

def blank : K → Option (Option α) := fun _ => none

section

variable [DecidableEq K] {row row' : α}

def single (k : K) (row : α) : K → Option (Option α) := Function.update blank k (some (some row))

theorem draft_stage_blank (h : table.draft tx = blank) :
    (table.stage tx k (some row)).draft tx = single k row := by
  rw [draft_stage, h]
  rfl

theorem draft_stage_single (h : table.draft tx = single k row) :
    (table.stage tx k (some row')).draft tx = single k row' := by
  rw [draft_stage, h, single, update_idem]
  rfl

theorem visible_single (h : table.draft tx = single k row) :
    (table.rows k).visible (some tx) = some row := by
  rw [visible_eq, h, single, update_self]
  rfl

theorem view_of_framed (h : Framed tx table table') (hdraft : table.draft tx = single k row) :
    table'.view k = table.view k := by
  apply h.view
  rw [hdraft, single, update_self]
  exact Option.some_ne_none _

end

theorem free_of_new (h : k ∉ table.keys) : (table.rows k).Free writer := by
  rw [table.support k h]
  intro entry hentry
  cases hentry

theorem free_of_unwritten (h : (table.rows k).written = none) : (table.rows k).Free writer := by
  intro entry hentry
  rw [h] at hentry
  cases hentry

theorem view_of_new (h : k ∉ table.keys) : table.view k = none := by
  rw [view, table.support k h]
  rfl

section

variable [DecidableEq K] {test test' : K → α → Bool}

def count (table : Table K α) (test : K → α → Bool) : Nat := (table.scan none test).length

/-- The keys of the committed rows that pass a test. -/
def passing (table : Table K α) (test : K → α → Bool) : Set K :=
  {k | ∃ row, table.view k = some row ∧ test k row = true}

theorem visible_none (row : Row α) : row.visible none = row.committed := by
  unfold Row.visible
  split <;> simp

theorem mem_scan_none : k ∈ table.scan none test ↔ k ∈ table.passing test := by
  simp only [scan, List.mem_filter, List.mem_dedup, visible_none, Option.any_eq_true, passing,
    view, Set.mem_ofPred_eq]
  refine ⟨fun h => h.2, fun h => ⟨?_, h⟩⟩
  by_contra hk
  obtain ⟨row, hrow, -⟩ := h
  rw [table.support k hk] at hrow
  cases hrow

theorem finite_passing : (table.passing test).Finite :=
  (table.scan none test).finite_toSet.subset fun _ hk => mem_scan_none.mpr hk

theorem count_eq_ncard : table.count test = (table.passing test).ncard := by
  have hnodup : (table.scan none test).Nodup := (List.nodup_dedup _).filter _
  have hset : table.passing test = ((table.scan none test).toFinset : Set K) := by
    ext k
    rw [List.coe_toFinset]
    exact mem_scan_none.symm
  rw [hset, Set.ncard_coe_finset, List.toFinset_card_of_nodup hnodup]
  rfl

theorem count_congr (h : table'.passing test' = table.passing test) :
    table'.count test' = table.count test := by
  rw [count_eq_ncard, count_eq_ncard, h]

theorem count_of_view (h : table'.view = table.view) : table'.count test = table.count test := by
  apply count_congr
  unfold passing
  rw [h]

theorem count_insert (hnew : k ∉ table.passing test)
    (h : table'.passing test' = insert k (table.passing test)) :
    table'.count test' = table.count test + 1 := by
  rw [count_eq_ncard, count_eq_ncard, h, Set.ncard_insert_of_notMem hnew finite_passing]

theorem count_pos_iff : 0 < table.count test ↔ (table.passing test).Nonempty := by
  rw [count_eq_ncard]
  exact Set.ncard_pos finite_passing

theorem count_eq_of_match {K' β : Type} [DecidableEq K'] {other : Table K' β}
    {test' : K' → β → Bool} (r : K → K' → Prop)
    (hleft : ∀ k ∈ table.passing test, ∃! k', k' ∈ other.passing test' ∧ r k k')
    (hright : ∀ k' ∈ other.passing test', ∃! k, k ∈ table.passing test ∧ r k k') :
    table.count test = other.count test' := by
  rw [count_eq_ncard, count_eq_ncard]
  refine Set.ncard_congr (fun k hk => (hleft k hk).choose) ?_ ?_ ?_
  · exact fun k hk => (hleft k hk).choose_spec.1.1
  · intro k₁ k₂ hk₁ hk₂ heq
    obtain ⟨hmem, hr₁⟩ := (hleft k₁ hk₁).choose_spec.1
    have hr₂ := (hleft k₂ hk₂).choose_spec.1.2
    rw [← heq] at hr₂
    exact (hright _ hmem).unique ⟨hk₁, hr₁⟩ ⟨hk₂, hr₂⟩
  · intro k' hk'
    obtain ⟨k, hk, hr⟩ := (hright k' hk').exists
    exact ⟨k, hk, (hleft k hk).unique (hleft k hk).choose_spec.1 ⟨hk', hr⟩⟩

end

end Concurrency.Table
