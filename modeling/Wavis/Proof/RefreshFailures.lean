import Wavis.Client.Auth

namespace Wavis.Auth

open List

/-- The user is sent to the login page only directly after a refresh that was refused. -/
def Rightly : ApiEvent → ApiEvent → Prop
  | .refreshed result, .authExpired => result ≠ .success ∧ isTransientFailure result = false
  | _, .authExpired => False
  | _, _ => True

variable {T : Type} {finish : Response → Except ApiError T} {call : ApiCall} {first : ApiEvent}
  {result : RefreshResult} {next : ApiRun T} {outcome : Except ApiError T}

/-- The same for what follows an event. A refresh that fails transiently is not taken for the end of
the session. -/
def LoginDemanded (first : ApiEvent) (run : ApiRun T) : Prop :=
  (first :: run.1).IsChain Rightly ∧ ∀ result, .refreshed result ∈ run.1 →
    isTransientFailure result → .authExpired ∉ run.1 ∧ run.2 ≠ .error sessionExpired

theorem loginDemanded_nil : LoginDemanded first ([], outcome) := ⟨.singleton _, nofun⟩

theorem loginDemanded_requested :
    LoginDemanded first (.requested :: next.1, next.2) ↔ LoginDemanded .requested next := by
  simp [LoginDemanded, Rightly]

theorem loginDemanded_refreshing :
    LoginDemanded first (refreshing result next) ↔ isTransientFailure result = false
      ∧ (result = .success → LoginDemanded .requested next) := by
  unfold refreshing
  split_ifs with hsuccess
  · simp [LoginDemanded, Rightly, hsuccess]
  · simp [LoginDemanded, Rightly, of_not_not hsuccess, isTransientFailure]

/-- **Login is demanded only for a real auth failure** if and only if none of the refreshes that the
calls make fails transiently. -/
theorem login_demanded_iff (calls : List ApiCall) :
    (∀ call ∈ calls, LoginDemanded .called (apiFetch finish call))
      ↔ ∀ call ∈ calls, call.serverUrl.getD "" ≠ "" →
        (call.expired → isTransientFailure call.result = false)
        ∧ ((call.expired → call.result = .success) → ∀ res ∈ call.response, res.status = 401 →
          isTransientFailure call.refreshed = false) := by
  refine forall₂_congr fun call _ => ?_
  have hanswered : ∀ first, LoginDemanded first (call.answered finish) ↔
      ∀ res ∈ call.response, res.status = 401 → isTransientFailure call.refreshed = false := by
    intro first
    unfold ApiCall.answered
    split
    · simp [*, loginDemanded_nil]
    · split_ifs <;> simp [*, loginDemanded_nil, loginDemanded_refreshing, ApiCall.replayed]
  unfold apiFetch
  split_ifs with hurl hexpired
  · simp [hurl, loginDemanded_nil]
  · simp [hurl, hexpired, loginDemanded_refreshing, hanswered]
  · simp [hurl, hexpired, loginDemanded_requested, hanswered]

/-- A network error in the refresh of an expired token sends the user to the login page. -/
theorem not_login_demanded :
    ¬LoginDemanded .called (apiFetch (T := Unit) (fun _ => .ok ())
      ⟨some "wavis.example", true, .networkError, none, .success, none⟩) := by
  simp [apiFetch, loginDemanded_refreshing, isTransientFailure]

def nextRetryCount (count : Nat) (result : RefreshResult) : Nat :=
  (decideScheduledRefreshAction result count).nextRetryCount

/-- What a result is answered with that comes after others. -/
def answer (past : List RefreshResult) (result : RefreshResult) : ScheduledRefreshAction :=
  (decideScheduledRefreshAction result (past.foldl nextRetryCount 0)).action

/-- The answers to the failures that come after `before`. -/
structure GrantsRetries (before failures : List RefreshResult) : Prop where
  definitive : ∀ past failure, past ++ [failure] <+: failures →
    isTransientFailure failure = false →
    (past.all isTransientFailure → answer (before ++ past) failure = .retry)
      ∧ (past.countP (!isTransientFailure ·) = 1 → answer (before ++ past) failure = .login)
  transient : failures.all isTransientFailure → ∀ past failure, past ++ [failure] <+: failures →
    (answer (before ++ past) failure = .login ↔ maxRefreshRetries ≤ past.length + 1)
  bounded : maxRefreshRetries + 1 ≤ failures.length → ∃ past failure,
    past ++ [failure] <+: failures ∧ past.length ≤ maxRefreshRetries
      ∧ answer (before ++ past) failure = .login

variable {before failures past : List RefreshResult} {result : RefreshResult} {count : Nat}

theorem decide_transient (h : isTransientFailure result) :
    decideScheduledRefreshAction result count
      = ⟨if maxRefreshRetries ≤ count + 1 then .login else .retry, count + 1⟩ := by
  unfold decideScheduledRefreshAction
  rw [if_neg (by rintro rfl; cases h), if_neg (by simpa using h)]
  split_ifs <;> first | rfl | omega

theorem decide_definitive (hfails : result ≠ .success) (h : isTransientFailure result = false) :
    decideScheduledRefreshAction result count
      = if count = 0 then ⟨.retry, maxRefreshRetries - 1⟩ else ⟨.login, count⟩ := by
  unfold decideScheduledRefreshAction
  rw [if_neg hfails, if_pos (by simpa using h)]

theorem foldl_transient (h : past.all isTransientFailure) :
    past.foldl nextRetryCount count = count + past.length := by
  induction past generalizing count with
  | nil => rfl
  | cons result past ih =>
    rw [all_cons, Bool.and_eq_true] at h
    rw [foldl_cons, nextRetryCount, decide_transient h.1, ih h.2, length_cons,
      Nat.add_right_comm, Nat.add_assoc]

/-- No failure takes the counter back to zero. -/
theorem foldl_pos (hfails : .success ∉ past) (h : past ≠ [] ∨ 0 < count) :
    0 < past.foldl nextRetryCount count := by
  induction past generalizing count with
  | nil => exact h.resolve_left fun h => h rfl
  | cons result past ih =>
    rw [mem_cons, not_or] at hfails
    refine ih hfails.2 (.inr ?_)
    cases hresult : isTransientFailure result with
    | true => simp [nextRetryCount, decide_transient hresult]
    | false =>
      rw [nextRetryCount, decide_definitive (Ne.symm hfails.1) hresult]
      split_ifs with hzero
      · decide
      · exact Nat.pos_of_ne_zero hzero

section

variable (hbefore : ∀ last ∈ before.getLast?, last = .success) (hfails : .success ∉ failures)
include hbefore

theorem answer_eq : answer (before ++ past) result
    = (decideScheduledRefreshAction result (past.foldl nextRetryCount 0)).action := by
  rw [answer, foldl_append]
  rcases before.eq_nil_or_concat' with rfl | ⟨earlier, last, rfl⟩
  · rfl
  · rw [hbefore last getLast?_concat, foldl_concat]
    rfl

variable (hinit : past ++ [result] <+: failures)
include hinit

theorem answer_transient (h : failures.all isTransientFailure) : answer (before ++ past) result
    = if maxRefreshRetries ≤ past.length + 1 then .login else .retry := by
  obtain ⟨rest, rfl⟩ := hinit
  simp only [all_append, all_cons, Bool.and_eq_true] at h
  rw [answer_eq hbefore, decide_transient h.1.2.1, foldl_transient h.1.1, Nat.zero_add]

include hfails

theorem answer_definitive (h : isTransientFailure result = false) :
    answer (before ++ past) result = if past = [] then .retry else .login := by
  obtain ⟨rest, rfl⟩ := hinit
  simp only [mem_append, not_or, mem_singleton] at hfails
  rw [answer_eq hbefore, decide_definitive (Ne.symm hfails.1.2) h]
  split_ifs with hzero hnil hnil
  · rfl
  · cases hzero ▸ foldl_pos hfails.1.1 (.inl hnil)
  · cases hzero (hnil ▸ rfl)
  · rfl

omit hinit

/-- **Background refresh grants its retries** if and only if no transient failure comes before one
that is not. -/
theorem grants_retries_iff : GrantsRetries before failures
    ↔ ∀ first ∈ failures.head?, isTransientFailure first → failures.all isTransientFailure := by
  constructor
  · intro h first hfirst htransient
    by_contra hsome
    obtain ⟨failure, hfind⟩ := Option.isSome_iff_exists.mp
      (find?_isSome (p := (!isTransientFailure ·)).mpr (by simpa using hsome))
    obtain ⟨hdefinitive, past, rest, rfl, hpast⟩ := find?_eq_some_iff_append.mp hfind
    rw [Bool.not_eq_true'] at hdefinitive
    have hinit : past ++ [failure] <+: past ++ failure :: rest := ⟨rest, by simp⟩
    have hretry := (h.definitive past failure hinit hdefinitive).1 (by simpa using hpast)
    rw [answer_definitive hbefore hfails hinit hdefinitive] at hretry
    split_ifs at hretry with hnil
    subst hnil
    cases hfirst
    exact Bool.false_ne_true (hdefinitive.symm.trans htransient)
  · intro h
    refine ⟨fun past failure hinit hdefinitive => ?_, fun htransient past failure hinit => ?_,
      fun hlength => ?_⟩
    · rw [answer_definitive hbefore hfails hinit hdefinitive]
      cases past with
      | nil => exact ⟨fun _ => rfl, nofun⟩
      | cons first past =>
        obtain ⟨rest, rfl⟩ := hinit
        refine ⟨fun hpast => ?_, fun _ => rfl⟩
        rw [all_cons, Bool.and_eq_true] at hpast
        have := h first rfl hpast.1
        simp [hdefinitive] at this
    · rw [answer_transient hbefore hinit htransient]
      split_ifs with hle <;> simp [hle]
    · rcases failures with _ | ⟨first, _ | ⟨second, _ | ⟨third, rest⟩⟩⟩
      iterate 3 exact absurd hlength (by simp [maxRefreshRetries])
      cases hfirst : isTransientFailure first with
      | true => exact ⟨[first, second], third, ⟨rest, rfl⟩, by simp [maxRefreshRetries],
          answer_transient hbefore ⟨rest, rfl⟩ (h first rfl hfirst)⟩
      | false =>
        refine ⟨[first], second, ⟨third :: rest, rfl⟩, by simp [maxRefreshRetries], ?_⟩
        cases hsecond : isTransientFailure second with
        | true =>
          rw [answer_eq hbefore, decide_transient hsecond, foldl_cons, nextRetryCount,
            decide_definitive (fun h => hfails (h ▸ .head _)) hfirst]
          rfl
        | false => exact answer_definitive hbefore hfails ⟨third :: rest, rfl⟩ hsecond

end

theorem grants_retries_iff_unauthorized : GrantsRetries [] [.unauthorized, .networkError] :=
  (grants_retries_iff (by simp) (by simp)).mpr (by rintro _ ⟨⟩ ⟨⟩)

theorem not_grants_retries : ¬GrantsRetries [] [.networkError, .unauthorized] := fun h =>
  nomatch (h.definitive [.networkError] .unauthorized ⟨[], rfl⟩ rfl).1 rfl

end Wavis.Auth
