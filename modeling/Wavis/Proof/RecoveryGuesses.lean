import Wavis.AccountRecovery

namespace Wavis.Recovery

open Concurrency Admitted RecoveryRateLimiterConfig List Nat RecoveryRateLimiter

namespace Admitted

def ended (a : Admitted) : Bool :=
  match a.stage with
  | .done _ => true
  | _ => false

/-- The passphrase was verified, and the request is charged next or was answered. -/
def judged (a : Admitted) : Bool :=
  match a.stage with
  | .done _ => true
  | .recordRecoveryId _ => true
  | _ => false

def underway (a : Admitted) (recoveryId : String) : Bool :=
  a.request.recoveryId = recoveryId && !a.ended

def wrong (a : Admitted) (recoveryId : String) (test : Instant → Bool) : Bool :=
  a.request.recoveryId = recoveryId && a.failedAt.any test

/-- The request has to be counted when another one is let through. -/
def counts (window : Duration) (request : RecoverRequest) (a : Admitted) : Bool :=
  a.underway request.recoveryId
    || a.wrong request.recoveryId fun failedAt => request.now ≤ failedAt + window

/-- A wrong guess that was charged, and still is at the instant. -/
def charged (window : Duration) (recoveryId : String) (now : Instant) (a : Admitted) : Bool :=
  a.wrong recoveryId (fun _ => true) && a.ended && decide (now ≤ a.request.now + window)

end Admitted

namespace RecoveryState

def guesses (s : RecoveryState) (recoveryId : String) (start : Instant) (window : Duration) : Nat :=
  s.admitted.countP fun a =>
    a.wrong recoveryId fun failedAt => start ≤ failedAt && failedAt ≤ start + window

/-- The limit counts the requests under way, and no charge expires before its guess. -/
def Admissible (s : RecoveryState) (request : RecoverRequest) : Prop :=
  s.admitted.countP (fun a => a.underway request.recoveryId)
      + ((s.limiter.ridWindow request.recoveryId).inWindow request.now).length
        < s.limiter.config.perRidMax
    ∧ ∀ a ∈ s.admitted, a.ended = true →
        a.wrong request.recoveryId
            (fun failedAt => request.now ≤ failedAt + s.limiter.config.ridWindow) = true →
          request.now ≤ a.request.now + s.limiter.config.ridWindow

instance (s : RecoveryState) (request : RecoverRequest) :
    Decidable (s.Admissible request) := inferInstanceAs (Decidable (_ ∧ _))

def Reserved (s : RecoveryState) : RecoveryEvent → Prop
  | .limit i =>
    match s.waiting[i]? with
    | some ⟨request, .checkRecoveryId⟩ =>
      (s.limiter.secondsUntilRecoveryId request.recoveryId request.now).1 = none →
        s.Admissible request
    | _ => True
  | _ => True

instance (s : RecoveryState) (event : RecoveryEvent) : Decidable (s.Reserved event) := by
  unfold Reserved
  split
  · split <;> infer_instance
  · infer_instance

end RecoveryState

section

variable {max i : Nat} {window : Duration} {admitted : List Admitted} {a a' : Admitted} {α : Type}
  {p : α → Bool}

def Preceded (max : Nat) (window : Duration) : List Admitted → Prop
  | [] => True
  | a :: earlier => earlier.countP (Admitted.counts window a.request) < max
      ∧ Preceded max window earlier

theorem countP_set_le {items : List α} {a a' : α} (hget : items[i]? = some a)
    (h : p a' = true → p a = true) : (items.set i a').countP p ≤ items.countP p := by
  obtain ⟨hlt, heq⟩ := List.getElem?_eq_some_iff.mp hget
  rw [countP_set hlt, heq]
  by_cases ha : p a = true
  · have hpos : 0 < items.countP p :=
      countP_pos_iff.mpr ⟨a, mem_of_getElem? hget, ha⟩
    rw [if_pos ha]
    split_ifs <;> omega
  · rw [if_neg ha, if_neg fun ha' => ha (h ha')]
    omega

theorem countP_set_le_succ (items : List α) (i : Nat) (a : α) :
    (items.set i a).countP p ≤ items.countP p + 1 := by
  rcases lt_or_ge i items.length with hlt | hge
  · rw [countP_set hlt]
    split_ifs <;> omega
  · rw [set_eq_of_length_le hge]
    omega

theorem countP_or_le (p q : α → Bool) (items : List α) :
    items.countP (fun a => p a || q a) ≤ items.countP p + items.countP q := by
  induction items with
  | nil => exact le_refl 0
  | cons a items ih =>
    simp only [countP_cons]
    cases p a <;> cases q a <;> simp <;> omega

theorem length_inWindow (w : SlidingWindow) (now : Instant) :
    (w.inWindow now).length = w.timestamps.countP fun t => now ≤ t + w.window := by
  rw [SlidingWindow.inWindow, ← countP_eq_length_filter]
  refine countP_congr fun t _ => ?_
  simp only [decide_eq_true_eq]
  exact ⟨fun h => Nat.add_comm t w.window ▸ Nat.le_add_of_sub_le h,
    fun h => Nat.sub_le_iff_le_add.mpr (Nat.add_comm t w.window ▸ h)⟩

theorem Preceded.set (h : Preceded max window admitted) (hget : admitted[i]? = some a)
    (hrequest : a'.request = a.request)
    (hcounts : ∀ z ∈ admitted, a'.counts window z.request = true →
      a.counts window z.request = true) :
    Preceded max window (admitted.set i a') := by
  induction admitted generalizing i with
  | nil => exact trivial
  | cons z earlier ih =>
    cases i with
    | zero =>
      cases hget
      refine ⟨?_, h.2⟩
      rw [hrequest]
      exact h.1
    | succ i =>
      have hz := hcounts z mem_cons_self
      refine ⟨lt_of_le_of_lt (countP_set_le hget hz) h.1, ih h.2 hget fun z hmem => ?_⟩
      exact hcounts z (mem_cons_of_mem _ hmem)

/-- **The wrong guesses of a window.** -/
theorem Preceded.length_le (h : Preceded max window admitted)
    (hreceived : ∀ a ∈ admitted, ∀ failedAt ∈ a.failedAt, a.request.now ≤ failedAt)
    (recoveryId : String) (start : Instant) :
    admitted.countP (fun a => a.wrong recoveryId fun failedAt =>
      start ≤ failedAt && failedAt ≤ start + window) ≤ max := by
  induction admitted with
  | nil => exact zero_le max
  | cons z earlier ih =>
    have hrest := ih h.2 fun a hmem => hreceived a (mem_cons_of_mem _ hmem)
    rw [countP_cons]
    split_ifs with hz
    · -- those before the last guess are all counted by it
      refine succ_le_of_lt (lt_of_le_of_lt (countP_mono_left ?_) h.1)
      intro a hmem ha
      simp only [wrong, Bool.and_eq_true, decide_eq_true_eq, Option.any_eq_true] at hz ha
      obtain ⟨hrid, failedAt, hfailed, hstart, hend⟩ := hz
      obtain ⟨hrid', failedAt', hfailed', hstart', hend'⟩ := ha
      have hnow := hreceived z mem_cons_self failedAt hfailed
      simp only [counts, wrong, hfailed', Option.any_some, Bool.or_eq_true,
        Bool.and_eq_true, decide_eq_true_eq]
      refine .inr ⟨hrid'.trans hrid.symm, ?_⟩
      calc z.request.now
          ≤ failedAt := hnow
        _ ≤ start + window := hend
        _ ≤ failedAt' + window := Nat.add_le_add_right hstart' window
    · exact hrest

end

namespace RecoveryState

variable {a a' : Admitted} {i : Nat}

structure Sound (clock : Instant) (a : Admitted) : Prop where
  received : a.request.now ≤ clock
  failed : ∀ failedAt ∈ a.failedAt, a.request.now ≤ failedAt ∧ failedAt ≤ clock
  judged : a.failedAt ≠ none → a.judged = true

structure Guarded (config : RecoveryRateLimiterConfig) (s : RecoveryState) : Prop where
  configured : s.limiter.config = config
  window : ∀ recoveryId, (s.limiter.ridWindow recoveryId).window = config.ridWindow
  waiting : ∀ w ∈ s.waiting, w.request.now ≤ s.clock
  admitted : ∀ a ∈ s.admitted, Sound s.clock a
  charged : ∀ recoveryId now, s.admitted.countP (Admitted.charged config.ridWindow recoveryId now)
    ≤ (s.limiter.ridWindow recoveryId).timestamps.countP fun t => now ≤ t + config.ridWindow
  preceded : Preceded config.perRidMax config.ridWindow s.admitted

variable {config : RecoveryRateLimiterConfig} {s s' : RecoveryState} {verify : VerifyPhrase}
  {request : RecoverRequest} (limiter : RecoveryRateLimiter) (rid rid' : String)

theorem Sound.mono {clock clock' : Instant} (h : Sound clock a) (hle : clock ≤ clock') :
    Sound clock' a where
  received := le_trans h.received hle
  failed failedAt hmem :=
    ⟨(h.failed failedAt hmem).1, le_trans (h.failed failedAt hmem).2 hle⟩
  judged := h.judged

theorem Guarded.congr (h : s.Guarded config) (hconfig : s'.limiter.config = s.limiter.config)
    (hrid : ∀ recoveryId, s'.limiter.ridWindow recoveryId = s.limiter.ridWindow recoveryId)
    (hclock : s.clock ≤ s'.clock) (hwaiting : ∀ w ∈ s'.waiting, w.request.now ≤ s'.clock)
    (hadmitted : s'.admitted = s.admitted) : s'.Guarded config where
  configured := hconfig.trans h.configured
  window recoveryId := (congrArg _ (hrid recoveryId)).trans (h.window recoveryId)
  waiting := hwaiting
  admitted a hmem := (h.admitted a (hadmitted ▸ hmem)).mono hclock
  charged recoveryId now := by
    rw [hadmitted, hrid]
    exact h.charged recoveryId now
  preceded := hadmitted ▸ h.preceded

theorem ridWindow_putRid (window : SlidingWindow) :
    (limiter.putRid rid window).ridWindow rid' = if rid' = rid then window
      else limiter.ridWindow rid' := by
  unfold RecoveryRateLimiter.putRid RecoveryRateLimiter.ridWindow
  split_ifs with hrid
  · rw [hrid, AList.lookup_insert, Option.getD_some]
  · rw [AList.lookup_insert_ne hrid]

theorem ridWindow_secondsUntilRecoveryId (now : Instant) :
    (limiter.secondsUntilRecoveryId rid now).2.ridWindow rid' = limiter.ridWindow rid' := by
  unfold secondsUntilRecoveryId
  rw [ridWindow_putRid]
  split_ifs with hrid
  · rw [hrid]
  · rfl

theorem counts_of_underway {window : Duration} (hended : a.ended = false)
    (hrequest : a'.request = a.request) (h : a'.counts window request = true) :
    a.counts window request = true := by
  have hrid : a.request.recoveryId = request.recoveryId := by
    simp only [counts, underway, wrong, Bool.or_eq_true,
      Bool.and_eq_true, decide_eq_true_eq, hrequest] at h
    rcases h with h | h
    · exact h.1
    · exact h.1
  simp [counts, underway, hrid, hended]

section

variable (h : s.Guarded config) (hget : s.admitted[i]? = some a) (hended : a.ended = false)
  (hrequest : a'.request = a.request) (hsound : Sound s.clock a')
include h hget hended hrequest hsound

theorem Guarded.goOn (hcharged : a'.ended = true → a'.failedAt = none) :
    (s.setAdmitted i a').Guarded config where
  configured := h.configured
  window := h.window
  waiting := h.waiting
  admitted b hmem := by
    rcases mem_or_eq_of_mem_set hmem with hmem | rfl
    · exact h.admitted b hmem
    · exact hsound
  charged recoveryId now := by
    refine le_trans (countP_set_le hget fun hnew => ?_) (h.charged recoveryId now)
    simp only [Admitted.charged, Admitted.wrong, Bool.and_eq_true] at hnew
    rw [hcharged hnew.1.2] at hnew
    simp at hnew
  preceded := h.preceded.set hget hrequest fun _ _ => counts_of_underway hended hrequest

theorem Guarded.record :
    ({ s with limiter := s.limiter.recordRecoveryId a.request.recoveryId a.request.now }.setAdmitted
      i a').Guarded config where
  configured := h.configured
  window recoveryId := by
    show ((s.limiter.recordRecoveryId _ _).ridWindow recoveryId).window = _
    rw [recordRecoveryId, ridWindow_putRid]
    split_ifs with hrid
    · exact h.window _
    · exact h.window _
  waiting := h.waiting
  admitted b hmem := by
    rcases mem_or_eq_of_mem_set hmem with hmem | rfl
    · exact h.admitted b hmem
    · exact hsound
  charged recoveryId now := by
    show _ ≤ ((s.limiter.recordRecoveryId _ _).ridWindow recoveryId).timestamps.countP _
    rw [recordRecoveryId, ridWindow_putRid]
    have hbefore := h.charged recoveryId now
    by_cases hnew : a'.charged config.ridWindow recoveryId now = true
    · -- the timestamp that is added stands for this very guess
      have hcharged := hnew
      simp only [Admitted.charged, Admitted.wrong, Bool.and_eq_true, decide_eq_true_eq,
        hrequest] at hcharged
      rw [if_pos hcharged.1.1.1.symm, hcharged.1.1.1]
      simp only [SlidingWindow.add, countP_append, countP_singleton]
      rw [if_pos (decide_eq_true hcharged.2)]
      exact le_trans (countP_set_le_succ s.admitted i a') (succ_le_succ hbefore)
    · refine le_trans (countP_set_le hget fun h => absurd h hnew) (le_trans hbefore ?_)
      split_ifs with hrid
      · rw [hrid]
        simp only [SlidingWindow.add, countP_append]
        exact le_add_right _ _
      · exact le_refl _
  preceded := h.preceded.set hget hrequest fun _ _ => counts_of_underway hended hrequest

end

section

variable (h : s.Guarded config) {w : Waiting}
include h

theorem Guarded.allow (hnow : request.now ≤ s.clock) (hadmissible : s.Admissible request) :
    Guarded config
      { s with
        limiter := (s.limiter.secondsUntilRecoveryId request.recoveryId request.now).2
        waiting := s.waiting.eraseIdx i
        admitted := ⟨request, .selectUser, none⟩ :: s.admitted } where
  configured := h.configured
  window recoveryId := by
    rw [ridWindow_secondsUntilRecoveryId]
    exact h.window recoveryId
  waiting w hmem := h.waiting w (mem_of_mem_eraseIdx hmem)
  admitted a hmem := by
    rcases mem_cons.mp hmem with rfl | hmem
    · exact ⟨hnow, nofun, fun h => absurd rfl h⟩
    · exact h.admitted a hmem
  charged recoveryId now := by
    rw [ridWindow_secondsUntilRecoveryId, countP_cons_of_neg]
    · exact h.charged recoveryId now
    · simp [Admitted.charged, Admitted.ended]
  preceded := by
    refine ⟨?_, h.preceded⟩
    obtain ⟨hfree, houtlived⟩ := hadmissible
    rw [h.configured] at hfree houtlived
    -- whoever has to be counted is under way, or its charge still is in the window
    have hsplit : ∀ a ∈ s.admitted, a.counts config.ridWindow request = true →
        (a.underway request.recoveryId
          || a.charged config.ridWindow request.recoveryId request.now) = true := by
      intro a hmem hcounts
      rcases Bool.or_eq_true_iff.mp hcounts with hunderway | hwrong
      · simp [hunderway]
      · cases hended : a.ended with
        | false =>
          have hrid := (Bool.and_eq_true_iff.mp hwrong).1
          simp [Admitted.underway, hended, hrid]
        | true =>
          have hlater := houtlived a hmem hended hwrong
          simp only [Admitted.wrong, Bool.and_eq_true, Option.any_eq_true] at hwrong
          obtain ⟨hrid, failedAt, hfailed, -⟩ := hwrong
          simp [Admitted.charged, Admitted.wrong, hrid, hended, hfailed, hlater]
    calc s.admitted.countP (Admitted.counts config.ridWindow request)
        ≤ s.admitted.countP (fun a => a.underway request.recoveryId
            || a.charged config.ridWindow request.recoveryId request.now) :=
          countP_mono_left hsplit
      _ ≤ s.admitted.countP (fun a => a.underway request.recoveryId)
            + s.admitted.countP
                (Admitted.charged config.ridWindow request.recoveryId request.now) :=
          countP_or_le _ _ _
      _ ≤ s.admitted.countP (fun a => a.underway request.recoveryId)
            + ((s.limiter.ridWindow request.recoveryId).inWindow request.now).length := by
          rw [length_inWindow, h.window]
          exact Nat.add_le_add_left (h.charged _ _) _
      _ < config.perRidMax := hfree

theorem Guarded.setWaiting (hget : s.waiting[i]? = some w) {limiter : RecoveryRateLimiter}
    (stage : WaitingStage) (hconfig : limiter.config = s.limiter.config)
    (hrid : ∀ recoveryId, limiter.ridWindow recoveryId = s.limiter.ridWindow recoveryId) :
    ({ s with limiter }.setWaiting i w stage).Guarded config := by
  refine h.congr hconfig hrid (le_refl _) (fun w' hmem => ?_) rfl
  rcases mem_or_eq_of_mem_set hmem with hmem | rfl
  · exact h.waiting w' hmem
  · exact h.waiting w (mem_of_getElem? hget)

theorem Guarded.limit (hget : s.waiting[i]? = some w) (hreserved : s.Reserved (.limit i))
    (hnext : s.limit i w = some s') : s'.Guarded config := by
  obtain ⟨request, stage⟩ := w
  cases stage with
  | checkIp =>
    simp only [RecoveryState.limit] at hnext
    split at hnext <;> rename_i hcheck <;> cases hnext <;>
      · cases congrArg Prod.snd hcheck
        exact h.setWaiting hget _ rfl fun _ => rfl
  | recordIp =>
    cases hnext
    exact h.setWaiting hget _ rfl fun _ => rfl
  | checkRecoveryId =>
    simp only [Reserved, hget] at hreserved
    simp only [RecoveryState.limit] at hnext
    split at hnext
    · rename_i secs limiter hcheck
      cases hnext
      cases congrArg Prod.snd hcheck
      exact h.setWaiting hget _ rfl fun recoveryId =>
        ridWindow_secondsUntilRecoveryId s.limiter request.recoveryId recoveryId request.now
    · rename_i limiter hcheck
      cases hnext
      cases congrArg Prod.snd hcheck
      exact h.allow (h.waiting _ (mem_of_getElem? hget))
        (hreserved (congrArg Prod.fst hcheck))
  | rateLimited secs => cases hnext

theorem Guarded.stage (hget : s.admitted[i]? = some a) (hjudged : a.judged = false)
    (stage : RecoverStage) : (s.setAdmitted i { a with stage }).Guarded config := by
  have hsound := h.admitted a (mem_of_getElem? hget)
  have hnone : a.failedAt = none := by
    by_contra hsome
    rw [hsound.judged hsome] at hjudged
    cases hjudged
  have hended : a.ended = false := by
    obtain ⟨request, stage, failedAt⟩ := a
    cases stage <;> first | rfl | cases hjudged
  refine h.goOn hget hended rfl ⟨hsound.received, hsound.failed, fun hsome => ?_⟩ fun _ => hnone
  exact absurd hnone hsome

theorem Guarded.proceed {env : RecoverEnv} (hget : s.admitted[i]? = some a)
    (hnext : s.proceed verify i a env = some s') : s'.Guarded config := by
  obtain ⟨request, stage, failedAt⟩ := a
  have hsound := h.admitted _ (mem_of_getElem? hget)
  cases stage with
  | selectUser =>
    simp only [RecoveryState.proceed] at hnext
    split at hnext <;> cases hnext <;> exact h.stage hget rfl _
  | verifyPhrase userId salt verifier =>
    simp only [RecoveryState.proceed] at hnext
    split at hnext
    · cases hnext
      exact h.stage hget rfl _
    · cases hnext
      refine h.goOn hget rfl rfl ⟨hsound.received, fun failedAt hmem => ?_, fun _ => rfl⟩ nofun
      cases hmem
      exact ⟨hsound.received, le_refl _⟩
    · cases hnext
      exact h.stage hget rfl _
  | createDevice userId | insertToken userId deviceId | selectEpoch userId deviceId refreshToken =>
    simp only [RecoveryState.proceed] at hnext
    split at hnext <;> cases hnext <;> exact h.stage hget rfl _
  | recordRecoveryId result =>
    cases hnext
    exact h.record hget rfl rfl ⟨hsound.received, hsound.failed, fun _ => rfl⟩
  | done result => cases hnext

theorem guarded_next {event : RecoveryEvent} (hreserved : s.Reserved event)
    (hnext : s.next verify event = some s') : s'.Guarded config := by
  cases event with
  | arrive ip recoveryId phrase =>
    cases hnext
    refine h.congr rfl (fun _ => rfl) (le_refl _) (fun w hmem => ?_) rfl
    rcases mem_append.mp hmem with hmem | hmem
    · exact h.waiting w hmem
    · rw [mem_singleton.mp hmem]
  | limit i =>
    obtain ⟨w, hget, hnext⟩ := Option.bind_eq_some_iff.mp hnext
    exact h.limit hget hreserved hnext
  | proceed i env =>
    obtain ⟨a, hget, hnext⟩ := Option.bind_eq_some_iff.mp hnext
    exact h.proceed hget hnext
  | tick elapsed =>
    cases hnext
    exact h.congr rfl (fun _ => rfl) (le_add_right _ _)
      (fun w hmem => le_trans (h.waiting w hmem) (le_add_right _ _)) rfl

end

/-- **Guessing is bounded.** -/
theorem guesses_le (hreach : (recoveryMachine verify).Reach Reserved (initial config) s)
    (recoveryId : String) (start : Instant) :
    s.guesses recoveryId start config.ridWindow ≤ config.perRidMax := by
  have hfirst : (initial config).Guarded config :=
    ⟨rfl, fun _ => rfl, forall_mem_nil _, forall_mem_nil _, fun _ _ => le_refl _,
      trivial⟩
  have hguarded : s.Guarded config :=
    hreach.invariant hfirst fun _ _ _ h hreserved hnext => guarded_next h hreserved hnext
  refine hguarded.preceded.length_le (fun a hmem failedAt hfailed => ?_) recoveryId start
  exact ((hguarded.admitted a hmem).failed failedAt hfailed).1

def onlyRight : VerifyPhrase := fun phrase _ _ _ => .ok (phrase = "right")

def someone : Uuid := ⟨"00000000-0000-0000-0000-000000000001", by decide⟩

def answers : RecoverEnv where
  row := .ok (some ⟨someone, some "salt", some "verifier"⟩)
  device := .ok someone
  insert := .ok ()
  refreshToken := "refresh"
  epoch := .ok 0
  accessToken := fun _ => "access"

def arrival : List RecoveryEvent := [.arrive "a" "r" "wrong", .limit 0, .limit 0, .limit 0]

def judgement (i : Nat) : List RecoveryEvent := [.proceed i answers, .proceed i answers]

/-- One guess after the other. -/
theorem guesses_le_sequential : ∃ s,
    (recoveryMachine onlyRight).Reach Reserved (initial .default) s
      ∧ s.guesses "r" 0 RecoveryRateLimiterConfig.default.ridWindow = 3
      ∧ s.guesses "r" 0 RecoveryRateLimiterConfig.default.ridWindow
          ≤ RecoveryRateLimiterConfig.default.perRidMax := by
  obtain ⟨s, hreach, htest⟩ := Machine.exists_reach_of_replay (recoveryMachine onlyRight) Reserved
    (initial .default)
    (arrival ++ judgement 0 ++ [.proceed 0 answers] ++ arrival ++ judgement 0
      ++ [.proceed 0 answers] ++ arrival ++ judgement 0)
    (fun s => s.guesses "r" 0 default.ridWindow = 3) (by decide)
  exact ⟨s, hreach, htest, guesses_le hreach "r" 0⟩

/-- Four requests pass the limit of three before the first is charged. -/
theorem not_guesses_le : ¬ ∀ verify config s,
    (recoveryMachine verify).Reach (fun _ _ => True) (initial config) s → ∀ recoveryId start,
      s.guesses recoveryId start config.ridWindow ≤ config.perRidMax := by
  intro h
  obtain ⟨s, hreach, htest⟩ := Machine.exists_reach_of_replay (recoveryMachine onlyRight)
    (fun _ _ => True) (initial .default)
    (arrival ++ arrival ++ arrival ++ arrival
      ++ judgement 0 ++ judgement 1 ++ judgement 2 ++ judgement 3)
    (fun s => s.guesses "r" 0 default.ridWindow = 4) (by decide)
  have hle := h onlyRight .default s hreach "r" 0
  rw [htest] at hle
  exact absurd hle (by decide)

end RecoveryState

end Wavis.Recovery
