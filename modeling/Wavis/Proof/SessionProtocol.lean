import Wavis.Client.Auth
import Wavis.Concurrency.Ownership

/-! A call that has got its answer writes the tokens and the device one after the other, and a
logout removes them one after the other. A call in such a phase is called a writer. -/

namespace Wavis.Auth

open Concurrency

/-- The answers so far, and whether the session has ended. No code reads either. -/
structure AuthHistory where
  bodies : List TokenBody
  loggedOut : Bool

def AuthHistory.note (o : AuthOp) (_ : AuthClient) (answer : AuthResp o) (_ : AuthClient)
    (history : AuthHistory) : AuthHistory :=
  match o, answer with
  | .fetch request, .accepted body =>
    { bodies := body :: history.bodies, loggedOut := history.loggedOut && !request.logsIn }
  | .write .deleteRefreshToken, _ => { history with loggedOut := true }
  | _, _ => history

def authService (insecureTlsAllowed : Bool) :
    System AuthResp AuthRet AuthEnv (AuthClient × AuthHistory) :=
  (authCalls insecureTlsAllowed).annotated AuthHistory.note

abbrev AuthPool := Pool AuthResp AuthRet (AuthClient × AuthHistory)

abbrev AuthAct := Act AuthCall AuthEnv

/-- What a writer has stored of an answer. -/
inductive Kept where
  | nothing
  | accessToken
  | refreshToken
  deriving DecidableEq

inductive StorePhase where
  | outside
  /-- A logout that has removed nothing yet. -/
  | leaving
  | storing (body : TokenBody) (kept : Kept)
  /-- A logout that has removed the access token, and maybe the device. -/
  | erasing (device : Bool)
  | broken
  deriving DecidableEq

namespace StorePhase

def writer : StorePhase → Option Unit
  | storing _ _ => some ()
  | erasing _ => some ()
  | _ => none

def wrote (phase : StorePhase) : StoreWrite → StorePhase
  | .setAccessToken _ =>
    match phase with
    | storing body .nothing => storing body .accessToken
    | _ => phase
  | .storeRefreshToken _ =>
    match phase with
    | storing body .accessToken => storing body .refreshToken
    | _ => phase
  | .setDeviceId _ =>
    match phase with
    | storing _ .refreshToken => outside
    | _ => phase
  | .delete .accessToken => if phase = leaving then erasing false else phase
  | .delete .deviceId => if phase = erasing false then erasing true else phase
  | .deleteRefreshToken => if phase = erasing true then outside else phase
  | _ => phase

def failed : StorePhase → StorePhase
  | outside => outside
  | _ => broken

def fetched : StorePhase → Reply → StorePhase
  | outside, .accepted body => storing body .nothing
  | phase, _ => phase

/-- The writes of the tokens and the device, each in its phase. -/
def MayWrite (phase : StorePhase) : StoreWrite → Prop
  | .setAccessToken token => ∃ body, phase = storing body .nothing ∧ token = body.accessToken
  | .storeRefreshToken token =>
    ∃ body, phase = storing body .accessToken ∧ token = body.refreshToken
  | .setDeviceId id => ∃ body, phase = storing body .refreshToken ∧ id = body.deviceId
  | .delete .accessToken => phase = outside ∨ phase = leaving
  | .delete .deviceId => phase = erasing false
  | .deleteRefreshToken => phase = erasing true
  | _ => True

def May (phase : StorePhase) : AuthOp → Prop
  | .fetch _ => phase = outside
  | .write change => phase.MayWrite change
  | _ => True

def next (phase : StorePhase) : (o : AuthOp) → AuthResp o → StorePhase
  | .fetch _, reply => phase.fetched reply
  | .write change, true => phase.wrote change
  | .write _, false => phase.failed
  | _, _ => phase

def init : AuthCall → StorePhase
  | .logout => leaving
  | _ => outside

@[simp] theorem writer_failed (phase : StorePhase) : phase.failed.writer = none := by
  cases phase <;> rfl

end StorePhase

/-- The order of the writes; a call that returns is no writer. -/
def storeProtocol : Protocol AuthResp AuthRet StorePhase where
  init := StorePhase.init
  next := StorePhase.next
  may _ := StorePhase.May
  post _ phase _ := phase.writer = none

section

variable {α : Type} {insecureTlsAllowed : Bool}

abbrev Follows (program : AuthProg α) (phase : StorePhase) : Prop :=
  program.Obeys StorePhase.next StorePhase.May (fun phase _ => phase.writer = none) phase

variable {next : AuthProg (Except AuthFailure α)} {phase : StorePhase}

theorem follows_pure (a : α) (h : phase.writer = none) : Follows (pure a) phase := h

theorem follows_reading {item : StoreRead} {next : Option String → AuthProg (Except AuthFailure α)}
    (hphase : phase.writer = none) (h : ∀ value, Follows (next value) phase) :
    Follows (reading item next) phase := by
  refine ⟨trivial, fun answer => ?_⟩
  cases answer with
  | none => exact follows_pure _ hphase
  | some value => exact h value

theorem follows_readingInsecureTls (hphase : phase.writer = none) (h : Follows next phase) :
    Follows (readingInsecureTls insecureTlsAllowed next) phase := by
  unfold readingInsecureTls
  split_ifs
  · refine ⟨trivial, fun answer => ?_⟩
    cases answer with
    | none => exact follows_pure _ hphase
    | some value => exact h
  · exact h

theorem follows_writing {change : StoreWrite} (hmay : phase.MayWrite change)
    (h : Follows next (phase.wrote change)) : Follows (writing change next) phase := by
  refine ⟨hmay, fun answer => ?_⟩
  cases answer with
  | true => exact h
  | false => exact follows_pure _ phase.writer_failed

theorem follows_keepTokens (body : TokenBody) (h : Follows next .outside) :
    Follows (keepTokens body next) (.storing body .nothing) :=
  follows_writing ⟨body, rfl, rfl⟩ <|
  follows_writing trivial <|
  follows_writing ⟨body, rfl, rfl⟩ <|
  follows_writing ⟨body, rfl, rfl⟩ h

end

variable (insecureTlsAllowed : Bool)

theorem follows_login (serverUrl : ServerUrl) (insecureTls : Bool) (request : AuthRequest)
    {next : TokenBody → AuthProg (Except AuthFailure Unit)}
    (h : ∀ body, Follows (next body) .outside) :
    Follows (login insecureTlsAllowed serverUrl insecureTls request next) .outside := by
  unfold login
  split_ifs
  · refine follows_writing trivial ⟨rfl, fun answer => ?_⟩
    cases answer with
    | networkError | unreadable | refused status retryAfter => exact follows_pure _ rfl
    | accepted body => exact follows_writing trivial (follows_keepTokens body (h body))
  · exact follows_pure _ rfl

theorem follows_finishPairing (pairingId code : String) :
    Follows (finishPairing insecureTlsAllowed pairingId code) .outside := by
  refine follows_reading rfl fun value => ?_
  cases value with
  | none => exact follows_pure _ rfl
  | some serverUrl =>
    refine follows_readingInsecureTls rfl ⟨rfl, fun answer => ?_⟩
    cases answer with
    | networkError | unreadable | refused status retryAfter => exact follows_pure _ rfl
    | accepted body => exact follows_keepTokens body (follows_pure _ rfl)

theorem follows_tryRefresh : Follows (tryRefresh insecureTlsAllowed) .outside := by
  refine follows_reading rfl fun value => ?_
  cases value with
  | none => exact follows_pure _ rfl
  | some serverUrl =>
    refine follows_reading rfl fun value => ?_
    cases value with
    | none => exact follows_pure _ rfl
    | some refreshToken =>
      refine follows_readingInsecureTls rfl ⟨rfl, fun answer => ?_⟩
      cases answer with
      | networkError | unreadable | refused status retryAfter => exact follows_pure _ rfl
      | accepted body => exact follows_keepTokens body (follows_pure _ rfl)

theorem follows_refreshTokens : Follows (refreshTokens insecureTlsAllowed) .outside := by
  refine ⟨trivial, fun turn => ?_⟩
  cases turn with
  | joined refresh => exact ⟨trivial, fun result => follows_pure _ rfl⟩
  | started refresh =>
    refine (follows_tryRefresh _).bind fun phase outcome hphase => ?_
    exact ⟨trivial, fun _ => ⟨trivial, fun _ => follows_pure _ hphase⟩⟩

theorem follows_clearAccessTokens : Follows clearAccessTokens .outside :=
  follows_writing (.inl rfl) <|
  follows_writing trivial <|
  follows_pure _ rfl

theorem follows_logout : Follows logout .leaving := by
  refine follows_writing (.inr rfl) <| follows_writing trivial <| follows_writing rfl <|
    follows_writing trivial <| follows_writing trivial ⟨rfl, fun answer => ?_⟩
  cases answer with
  | true | false => exact follows_pure _ rfl

/-- **The code keeps to the order of the writes.** -/
theorem storeProtocol_holds (call : AuthCall) :
    storeProtocol.Holds ((authService insecureTlsAllowed).spawn call) := by
  cases call with
  | refreshTokens => exact follows_refreshTokens _
  | clearAccessTokens => exact follows_clearAccessTokens
  | logout => exact follows_logout
  | registerUser serverUrl phrase username inviteCode insecureTls =>
    exact follows_login _ _ _ _ fun body => follows_writing trivial (follows_pure _ rfl)
  | recoverAccount serverUrl trimmedRecoveryId phrase insecureTls rememberRecoveryId =>
    refine follows_login _ _ _ _ fun body => ?_
    cases rememberRecoveryId with
    | true | false => exact follows_writing trivial (follows_pure _ rfl)
  | finishPairing pairingId code => exact follows_finishPairing _ pairingId code

end Wavis.Auth
