import Mathlib.Data.List.Basic

/-! A statement sees the committed rows and those its own transaction has written. A row that an
open transaction has written is locked: whoever else wants to write it waits until that transaction
ends, and then finds what it has left. A transaction that inserts a reference to a row shares the
lock of that row, and nobody deletes a row while others share it. -/

namespace Concurrency

abbrev TxId := Nat

structure Row (α : Type) where
  committed : Option α
  /-- The version of an open transaction; a deletion if there is no row in it. -/
  written : Option (TxId × Option α)
  /-- The open transactions that refer to the row. -/
  sharers : List TxId

variable {tx' tx : TxId} {α : Type} {version version' : Option α} {value : α}

namespace Row

def empty : Row α := ⟨none, none, []⟩

/-- What a statement sees, by the transaction it belongs to. -/
def visible (row : Row α) (tx : Option TxId) : Option α :=
  match row.written with
  | some (writer, version) => if tx = some writer then version else row.committed
  | none => row.committed

/-- No other transaction has written the row. -/
def Free (row : Row α) (tx : Option TxId) : Prop := ∀ entry ∈ row.written, tx = some entry.1

instance (row : Row α) (tx : Option TxId) : Decidable (row.Free tx) :=
  decidable_of_iff (row.written.all (fun entry => decide (tx = some entry.1)) = true) (by
    simp [Free, Option.all_eq_true])

/-- No other transaction refers to the row. -/
def Unshared (row : Row α) (tx : TxId) : Prop := ∀ sharer ∈ row.sharers, sharer = tx

instance (row : Row α) (tx : TxId) : Decidable (row.Unshared tx) :=
  inferInstanceAs (Decidable (∀ sharer ∈ row.sharers, sharer = tx))

def stage (row : Row α) (tx : TxId) (version : Option α) : Row α :=
  { row with written := some (tx, version) }

def put (row : Row α) (version : Option α) : Row α := { row with committed := version }

def share (row : Row α) (tx : TxId) : Row α := { row with sharers := tx :: row.sharers }

def commit (row : Row α) (tx : TxId) : Row α where
  committed :=
    match row.written with
    | some (writer, version) => if writer = tx then version else row.committed
    | none => row.committed
  written := row.written.filter fun entry => entry.1 ≠ tx
  sharers := row.sharers.filter fun sharer => sharer ≠ tx

def rollback (row : Row α) (tx : TxId) : Row α where
  committed := row.committed
  written := row.written.filter fun entry => entry.1 ≠ tx
  sharers := row.sharers.filter fun sharer => sharer ≠ tx

/-- The value is a version of the row, committed or not. -/
def Has (row : Row α) (value : α) : Prop :=
  row.committed = some value ∨ ∃ tx, row.written = some (tx, some value)

variable {row : Row α}

theorem has_of_visible {tx : Option TxId} (h : row.visible tx = some value) : row.Has value := by
  unfold visible at h
  split at h
  · rename_i writer version hwritten
    split_ifs at h
    · exact .inr ⟨writer, by rw [hwritten, h]⟩
    · exact .inl h
  · exact .inl h

theorem visible_of_unwritten {tx : Option TxId} (h : row.written = none) :
    row.visible tx = row.committed := by
  simp only [visible, h]

/-- A free row has the version a statement sees, or is as it was committed. -/
theorem Free.cases {tx : Option TxId} (h : row.Free tx) :
    row.written = none ∧ row.visible tx = row.committed
      ∨ ∃ writer, tx = some writer ∧ row.written = some (writer, row.visible tx) := by
  cases hwritten : row.written with
  | none => exact .inl ⟨rfl, visible_of_unwritten hwritten⟩
  | some entry =>
    obtain ⟨writer, version⟩ := entry
    have htx : tx = some writer := h _ hwritten
    exact .inr ⟨writer, htx, by simp [visible, hwritten, htx]⟩

theorem Free.written_none (h : row.Free none) : row.written = none := by
  rcases h.cases with ⟨hnone, -⟩ | ⟨writer, htx, -⟩
  · exact hnone
  · cases htx

theorem Free.written_ne (h : row.Free (some tx')) (hne : tx' ≠ tx) :
    row.written ≠ some (tx, version) := by
  intro hwritten
  exact hne (Option.some.inj (h _ hwritten))

section

@[simp] theorem written_stage (version : Option α) :
    (row.stage tx version).written = some (tx, version) := rfl

theorem has_stage (h : (row.stage tx version).Has value) :
    row.Has value ∨ version = some value := by
  rcases h with hcommitted | ⟨writer, hwritten⟩
  · exact .inl (.inl hcommitted)
  · cases hwritten
    exact .inr rfl

theorem has_put (h : (row.put version).Has value) : row.Has value ∨ version = some value := by
  rcases h with hcommitted | hwritten
  · exact .inr hcommitted
  · exact .inl (.inr hwritten)

variable {entry : TxId × Option α}

theorem written_filter (h : (row.written.filter fun entry => entry.1 ≠ tx) = some entry) :
    row.written = some entry ∧ entry.1 ≠ tx := by
  simpa [Option.filter_eq_some_iff] using h

theorem written_commit (h : (row.commit tx).written = some entry) :
    row.written = some entry ∧ entry.1 ≠ tx := written_filter h

theorem written_rollback (h : (row.rollback tx).written = some entry) :
    row.written = some entry ∧ entry.1 ≠ tx := written_filter h

theorem written_commit_iff (hne : tx' ≠ tx) :
    (row.commit tx').written = some (tx, version) ↔ row.written = some (tx, version) := by
  simp only [commit, Option.filter_eq_some_iff, and_iff_left_iff_imp]
  intro _
  simpa using hne.symm

theorem written_rollback_iff (hne : tx' ≠ tx) :
    (row.rollback tx').written = some (tx, version) ↔ row.written = some (tx, version) :=
  row.written_commit_iff hne

theorem written_stage_iff (hfree : row.Free (some tx')) (hne : tx' ≠ tx) :
    (row.stage tx' version').written = some (tx, version) ↔ row.written = some (tx, version) := by
  refine iff_of_false (fun hwritten => ?_) (hfree.written_ne hne)
  rw [written_stage, Option.some.injEq, Prod.mk.injEq] at hwritten
  exact hne hwritten.1

theorem committed_commit (row : Row α) (tx : TxId) : (∃ version, row.written = some (tx, version)
      ∧ (row.commit tx).committed = version)
    ∨ (∀ version, row.written ≠ some (tx, version))
      ∧ (row.commit tx).committed = row.committed := by
  cases hwritten : row.written with
  | none => exact .inr ⟨by simp, by simp [commit, hwritten]⟩
  | some entry =>
    obtain ⟨writer, version⟩ := entry
    by_cases hwriter : writer = tx
    · subst hwriter
      exact .inl ⟨version, rfl, by simp [commit, hwritten]⟩
    · refine .inr ⟨fun other heq => ?_, by simp [commit, hwritten, hwriter]⟩
      cases heq
      exact hwriter rfl

theorem has_commit (h : (row.commit tx).Has value) : row.Has value := by
  rcases h with hcommitted | ⟨writer, hwritten⟩
  · rcases row.committed_commit tx with ⟨version, hversion, heq⟩ | ⟨-, heq⟩
    · exact .inr ⟨tx, by rw [hversion, ← heq, hcommitted]⟩
    · exact .inl (heq ▸ hcommitted)
  · exact .inr ⟨writer, (written_commit hwritten).1⟩

theorem has_rollback (h : (row.rollback tx).Has value) : row.Has value := by
  rcases h with hcommitted | ⟨writer, hwritten⟩
  · exact .inl hcommitted
  · exact .inr ⟨writer, (written_rollback hwritten).1⟩

end

end Row

/-- The rows of a table by their primary key, with the keys that were ever used. -/
structure Table (K α : Type) where
  rows : K → Row α
  keys : List K
  support : ∀ k, k ∉ keys → rows k = Row.empty

namespace Table

variable {K : Type} (table : Table K α)

def empty : Table K α := ⟨fun _ => Row.empty, [], fun _ _ => rfl⟩

/-- The keys of the rows that a statement sees. -/
def scan [DecidableEq K] (table : Table K α) (tx : Option TxId) (test : K → α → Bool) : List K :=
  table.keys.dedup.filter fun k => ((table.rows k).visible tx).any (test k)

section

variable [DecidableEq K] (table : Table K α) {k' k : K}

def modify (k : K) (change : Row α → Row α) : Table K α where
  rows := Function.update table.rows k (change (table.rows k))
  keys := k :: table.keys
  support := by
    intro other hother
    rw [List.mem_cons, not_or] at hother
    rw [Function.update_of_ne hother.1]
    exact table.support other hother.2

def stage (tx : TxId) (k : K) (version : Option α) : Table K α :=
  table.modify k fun row => row.stage tx version

def put (k : K) (version : Option α) : Table K α := table.modify k fun row => row.put version

def share (tx : TxId) (k : K) : Table K α := table.modify k fun row => row.share tx

@[simp] theorem rows_modify_self (k : K) (change : Row α → Row α) :
    (table.modify k change).rows k = change (table.rows k) := by
  simp [modify]

theorem rows_modify_ne (change : Row α → Row α) (h : k' ≠ k) :
    (table.modify k change).rows k' = table.rows k' := by
  simp [modify, h]

theorem rows_modify (k k' : K) (change : Row α → Row α) :
    (table.modify k change).rows k' = if k' = k then change (table.rows k') else table.rows k' := by
  split_ifs with h
  · rw [h, rows_modify_self]
  · exact rows_modify_ne table change h

theorem written_stage (tx : TxId) (k k' : K) (version : Option α) :
    ((table.stage tx k version).rows k').written
      = if k' = k then some (tx, version) else (table.rows k').written := by
  rw [stage, rows_modify]
  split_ifs <;> rfl

@[simp] theorem committed_stage (tx : TxId) (k k' : K) (version : Option α) :
    ((table.stage tx k version).rows k').committed = (table.rows k').committed := by
  rw [stage, rows_modify]
  split_ifs <;> rfl

@[simp] theorem written_put (k k' : K) (version : Option α) :
    ((table.put k version).rows k').written = (table.rows k').written := by
  rw [put, rows_modify]
  split_ifs <;> rfl

theorem committed_put (k k' : K) (version : Option α) :
    ((table.put k version).rows k').committed
      = if k' = k then version else (table.rows k').committed := by
  rw [put, rows_modify]
  split_ifs <;> rfl

@[simp] theorem written_share (tx : TxId) (k k' : K) :
    ((table.share tx k).rows k').written = (table.rows k').written := by
  rw [share, rows_modify]
  split_ifs <;> rfl

@[simp] theorem committed_share (tx : TxId) (k k' : K) :
    ((table.share tx k).rows k').committed = (table.rows k').committed := by
  rw [share, rows_modify]
  split_ifs <;> rfl

theorem written_stage_iff (hfree : (table.rows k).Free (some tx')) (hne : tx' ≠ tx) :
    ((table.stage tx' k version').rows k').written = some (tx, version)
      ↔ (table.rows k').written = some (tx, version) := by
  rw [stage, rows_modify]
  split_ifs with hk
  · subst hk
    exact Row.written_stage_iff hfree hne
  · rfl

theorem has_stage (h : ((table.stage tx k version).rows k').Has value) :
    (table.rows k').Has value ∨ k' = k ∧ version = some value := by
  rw [stage, rows_modify] at h
  split_ifs at h with hk
  · exact (Row.has_stage h).imp_right (.intro hk)
  · exact .inl h

theorem has_put (h : ((table.put k version).rows k').Has value) :
    (table.rows k').Has value ∨ k' = k ∧ version = some value := by
  rw [put, rows_modify] at h
  split_ifs at h with hk
  · exact (Row.has_put h).imp_right (.intro hk)
  · exact .inl h

theorem has_share (h : ((table.share tx k).rows k').Has value) : (table.rows k').Has value := by
  rw [share, rows_modify] at h
  split_ifs at h <;> exact h

end

def commit (table : Table K α) (tx : TxId) : Table K α where
  rows k := (table.rows k).commit tx
  keys := table.keys
  support k hk := by rw [table.support k hk]; rfl

def rollback (table : Table K α) (tx : TxId) : Table K α where
  rows k := (table.rows k).rollback tx
  keys := table.keys
  support k hk := by rw [table.support k hk]; rfl

@[simp] theorem rows_commit (tx : TxId) (k : K) :
    (table.commit tx).rows k = (table.rows k).commit tx := rfl

@[simp] theorem rows_rollback (tx : TxId) (k : K) :
    (table.rollback tx).rows k = (table.rows k).rollback tx := rfl

end Table

end Concurrency
