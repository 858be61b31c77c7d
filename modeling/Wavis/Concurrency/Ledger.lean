import Wavis.Concurrency.ReadCommitted

/-! A transaction notes what it does, and what it has noted goes to a log when it commits. A
*ledger* says what a sequence of such events means for every key of a table. A table is *tracked*
when each version of each row is what the ledger makes of the log, for an uncommitted version of the
log and the notes of its transaction. -/

namespace Concurrency

/-- What events mean for a key. -/
structure Ledger (K E σ : Type) where
  start : σ
  step : K → σ → E → σ
  touches : E → K → Bool
  step_quiet : ∀ k s e, touches e k = false → step k s e = s

namespace Ledger

variable {K E σ α : Type} (L : Ledger K E σ)

def after (k : K) (events : List E) : σ := events.foldl (L.step k) L.start

def Quiet (k : K) (events : List E) : Prop := ∀ e ∈ events, L.touches e k = false

variable {L} {k : K} {events more rest : List E}

theorem Quiet.nil : L.Quiet k [] := by simp [Quiet]

theorem Quiet.singleton {e : E} (h : L.touches e k = false) : L.Quiet k [e] := by
  simpa [Quiet] using h

theorem Quiet.foldl (h : L.Quiet k events) (s : σ) : events.foldl (L.step k) s = s := by
  induction events generalizing s with
  | nil => rfl
  | cons e events ih =>
    rw [List.foldl_cons, L.step_quiet k s e (h e List.mem_cons_self)]
    exact ih (fun e' hmem => h e' (List.mem_cons_of_mem _ hmem)) s

theorem after_concat (e : E) : L.after k (events ++ [e]) = L.step k (L.after k events) e := by
  simp [after]

theorem after_quiet (h : L.Quiet k more) : L.after k (events ++ more) = L.after k events := by
  rw [after, List.foldl_append, h.foldl]
  rfl

/-- Events about other keys may be left out wherever they stand. -/
theorem after_quiet_middle (h : L.Quiet k more) :
    L.after k (events ++ more ++ rest) = L.after k (events ++ rest) := by
  rw [after, List.foldl_append, List.foldl_append, h.foldl, after, List.foldl_append]

end Ledger

/-- The versions of the rows agree with the log: `R` for the committed ones, `W` for the others. -/
structure Tracks {K E σ α : Type} (L : Ledger K E σ) (R W : K → σ → Option α → Prop)
    (table : Table K α) (drafts : TxId → List E) (log : List E) : Prop where
  committed : ∀ k, R k (L.after k log) (table.rows k).committed
  written : ∀ k tx version, (table.rows k).written = some (tx, version) →
    W k (L.after k (log ++ drafts tx)) version
  /-- What is noted about a row is noted by the transaction that has written it. -/
  locked : ∀ k tx, ∀ e ∈ drafts tx, L.touches e k = true →
    ∃ version, (table.rows k).written = some (tx, version)

namespace Tracks

open Ledger

variable {K E σ α : Type} {L : Ledger K E σ} {R R' W W' : K → σ → Option α → Prop}
  {table table' : Table K α} {drafts drafts' : TxId → List E} {log log' : List E} {k : K}
  {tx : TxId}

theorem quiet (h : Tracks L R W table drafts log)
    (hunwritten : ∀ version, (table.rows k).written ≠ some (tx, version)) :
    L.Quiet k (drafts tx) := by
  intro e hmem
  by_contra htouches
  obtain ⟨version, hwritten⟩ := h.locked k tx e hmem (by simpa using htouches)
  exact hunwritten version hwritten

/-- What a transaction sees of a free row agrees with the log and its notes. -/
theorem visible (h : Tracks L R W table drafts log) (hfree : (table.rows k).Free (some tx)) :
    R k (L.after k (log ++ drafts tx)) ((table.rows k).visible (some tx))
      ∨ (table.rows k).written = some (tx, (table.rows k).visible (some tx))
        ∧ W k (L.after k (log ++ drafts tx)) ((table.rows k).visible (some tx)) := by
  rcases hfree.cases with ⟨hunwritten, hvisible⟩ | ⟨writer, hwriter, hwritten⟩
  · refine .inl ?_
    have hnot : ∀ version, (table.rows k).written ≠ some (tx, version) := by simp [hunwritten]
    rw [after_quiet (h.quiet hnot), hvisible]
    exact h.committed k
  · cases hwriter
    exact .inr ⟨hwritten, h.written k tx _ hwritten⟩

section

variable (h : Tracks L R W table drafts log) (hR : ∀ k s version, R k s version → R' k s version)
  (hW : ∀ k s version, W k s version → W' k s version) {version : Option α}
include h hR hW

section

variable (hcommitted : ∀ k, (table'.rows k).committed = (table.rows k).committed)
  (hwritten : ∀ k, (table'.rows k).written = (table.rows k).written)
include hcommitted hwritten

/-- The table is left alone, and nothing is said about it. -/
theorem frame (hlog : ∃ events, log' = log ++ events ∧ ∀ k, L.Quiet k events)
    (hdrafts : ∀ tx, ∃ events, drafts' tx = drafts tx ++ events ∧ ∀ k, L.Quiet k events) :
    Tracks L R' W' table' drafts' log' := by
  obtain ⟨events, rfl, hquiet⟩ := hlog
  constructor
  · intro k
    rw [after_quiet (hquiet k), hcommitted]
    exact hR _ _ _ (h.committed k)
  · intro k tx version hversion
    obtain ⟨more, hmore, hquiet'⟩ := hdrafts tx
    rw [hwritten] at hversion
    rw [after_quiet_middle (hquiet k), hmore, ← List.append_assoc, after_quiet (hquiet' k)]
    exact hW _ _ _ (h.written k tx version hversion)
  · intro k tx e hmem htouches
    obtain ⟨more, hmore, hquiet'⟩ := hdrafts tx
    rw [hmore] at hmem
    rw [hwritten]
    rcases List.mem_append.mp hmem with hold | hnew
    · exact h.locked k tx e hold htouches
    · rw [hquiet' k e hnew] at htouches
      cases htouches

theorem keep : Tracks L R' W' table' drafts log :=
  h.frame hR hW hcommitted hwritten ⟨[], (List.append_nil _).symm, fun _ => .nil⟩
    fun _ => ⟨[], (List.append_nil _).symm, fun _ => .nil⟩

end

/-- A transaction writes a row, and notes nothing about the others. -/
theorem stage [DecidableEq K] {events : List E} (hfree : (table.rows k).Free (some tx))
    (hown : drafts' tx = drafts tx ++ events)
    (hothers : ∀ tx', tx' ≠ tx → drafts' tx' = drafts tx')
    (hevents : ∀ k', k' ≠ k → L.Quiet k' events)
    (hversion : W' k (L.after k (log ++ drafts tx ++ events)) version) :
    Tracks L R' W' (table.stage tx k version) drafts' log := by
  constructor
  · intro k'
    rw [Table.committed_stage]
    exact hR _ _ _ (h.committed k')
  · intro k' tx' version' hwritten
    rw [Table.written_stage] at hwritten
    split_ifs at hwritten with hk
    · cases hwritten
      subst hk
      rw [hown, ← List.append_assoc]
      exact hversion
    · have hold := hW _ _ _ (h.written k' tx' version' hwritten)
      by_cases htx : tx' = tx
      · subst htx
        rw [hown, ← List.append_assoc, after_quiet (hevents k' hk)]
        exact hold
      · rw [hothers tx' htx]
        exact hold
  · intro k' tx' e hmem htouches
    rw [Table.written_stage]
    by_cases htx : tx' = tx
    · subst htx
      split_ifs with hk
      · exact ⟨version, rfl⟩
      · rw [hown] at hmem
        rcases List.mem_append.mp hmem with hold | hnew
        · exact h.locked k' tx' e hold htouches
        · rw [hevents k' hk e hnew] at htouches
          cases htouches
    · rw [hothers tx' htx] at hmem
      obtain ⟨version', hwritten⟩ := h.locked k' tx' e hmem htouches
      split_ifs with hk
      · subst hk
        exact absurd (Option.some.inj (hfree _ hwritten)).symm htx
      · exact ⟨version', hwritten⟩

theorem put [DecidableEq K] (events : List E) (hfree : (table.rows k).Free none)
    (hevents : ∀ k', k' ≠ k → L.Quiet k' events)
    (hversion : R' k (L.after k (log ++ events)) version) :
    Tracks L R' W' (table.put k version) drafts (log ++ events) := by
  constructor
  · intro k'
    rw [Table.committed_put]
    split_ifs with hk
    · exact hk ▸ hversion
    · rw [after_quiet (hevents k' hk)]
      exact hR _ _ _ (h.committed k')
  · intro k' tx' version' hwritten
    rw [Table.written_put] at hwritten
    have hk : k' ≠ k := by
      rintro rfl
      rw [hfree.written_none] at hwritten
      cases hwritten
    rw [after_quiet_middle (hevents k' hk)]
    exact hW _ _ _ (h.written k' tx' version' hwritten)
  · intro k' tx' e hmem htouches
    rw [Table.written_put]
    exact h.locked k' tx' e hmem htouches

section

variable (hended : drafts' tx = []) (hothers : ∀ tx', tx' ≠ tx → drafts' tx' = drafts tx')
include hended hothers

theorem commit
    (hversion : ∀ k version, (table.rows k).written = some (tx, version) →
      W k (L.after k (log ++ drafts tx)) version → R' k (L.after k (log ++ drafts tx)) version) :
    Tracks L R' W' (table.commit tx) drafts' (log ++ drafts tx) := by
  constructor
  · intro k
    rw [Table.rows_commit]
    rcases (table.rows k).committed_commit tx with ⟨version, hwritten, heq⟩ | ⟨hunwritten, heq⟩
    · rw [heq]
      exact hversion k version hwritten (h.written k tx version hwritten)
    · rw [heq, after_quiet (h.quiet hunwritten)]
      exact hR _ _ _ (h.committed k)
  · intro k tx' version hwritten
    obtain ⟨hold, hne⟩ := Row.written_commit hwritten
    have hunwritten : ∀ version', (table.rows k).written ≠ some (tx, version') := by
      intro version' hversion'
      rw [hold] at hversion'
      cases hversion'
      exact hne rfl
    rw [hothers tx' hne, after_quiet_middle (h.quiet hunwritten)]
    exact hW _ _ _ (h.written k tx' version hold)
  · intro k tx' e hmem htouches
    have hne : tx' ≠ tx := by
      rintro rfl
      rw [hended] at hmem
      cases hmem
    rw [hothers tx' hne] at hmem
    obtain ⟨version, hwritten⟩ := h.locked k tx' e hmem htouches
    exact ⟨version, (Row.written_commit_iff hne.symm).mpr hwritten⟩

theorem rollback : Tracks L R' W' (table.rollback tx) drafts' log := by
  constructor
  · exact fun k => hR _ _ _ (h.committed k)
  · intro k tx' version hwritten
    obtain ⟨hold, hne⟩ := Row.written_rollback hwritten
    rw [hothers tx' hne]
    exact hW _ _ _ (h.written k tx' version hold)
  · intro k tx' e hmem htouches
    have hne : tx' ≠ tx := by
      rintro rfl
      rw [hended] at hmem
      cases hmem
    rw [hothers tx' hne] at hmem
    obtain ⟨version, hwritten⟩ := h.locked k tx' e hmem htouches
    exact ⟨version, (Row.written_rollback_iff hne.symm).mpr hwritten⟩

end

end

theorem empty (hR : ∀ k, R k L.start none) : Tracks L R W Table.empty (fun _ => []) [] where
  committed k := hR k
  written _ _ _ hwritten := by cases hwritten
  locked _ _ _ hmem := by cases hmem

end Tracks

end Concurrency
