import Wavis.Abuse
import Wavis.Text
import Wavis.Concurrency.Machine

/-! Two limits stand before the verification of a passphrase: one for the address of the caller,
which is charged at once, and one for the recovery id, which is charged only after the verification.
Every section under a lock of the limiter and every call of the database is one step. The instant at
which a request was received stands for all of its steps. -/

namespace Wavis.Recovery

open Concurrency

structure RecoveryRateLimiterConfig where
  perIpMax : Nat
  perIpWindowSecs : Nat
  perRidMax : Nat
  perRidWindowSecs : Nat

def RecoveryRateLimiterConfig.default : RecoveryRateLimiterConfig := ⟨30, 3600, 3, 3600⟩

namespace RecoveryRateLimiterConfig

def ipWindow (config : RecoveryRateLimiterConfig) : Duration :=
  Duration.fromSecs config.perIpWindowSecs

def ridWindow (config : RecoveryRateLimiterConfig) : Duration :=
  Duration.fromSecs config.perRidWindowSecs

end RecoveryRateLimiterConfig

structure RecoveryRateLimiter where
  config : RecoveryRateLimiterConfig
  ipWindows : HashMap IpAddr SlidingWindow
  ridWindows : HashMap String SlidingWindow

namespace RecoveryRateLimiter

def new (config : RecoveryRateLimiterConfig) : RecoveryRateLimiter := ⟨config, ∅, ∅⟩

def ipWindow (limiter : RecoveryRateLimiter) (ip : IpAddr) : SlidingWindow :=
  (limiter.ipWindows.lookup ip).getD (.new limiter.config.ipWindow)

def ridWindow (limiter : RecoveryRateLimiter) (rid : String) : SlidingWindow :=
  (limiter.ridWindows.lookup rid).getD (.new limiter.config.ridWindow)

def putIp (limiter : RecoveryRateLimiter) (ip : IpAddr) (window : SlidingWindow) :
    RecoveryRateLimiter :=
  { limiter with ipWindows := limiter.ipWindows.insert ip window }

def putRid (limiter : RecoveryRateLimiter) (rid : String) (window : SlidingWindow) :
    RecoveryRateLimiter :=
  { limiter with ridWindows := limiter.ridWindows.insert rid window }

def secondsUntilIp (limiter : RecoveryRateLimiter) (ip : IpAddr) (now : Instant) :
    Option Nat × RecoveryRateLimiter :=
  ((limiter.ipWindow ip).secondsUntilRetry limiter.config.perIpMax now,
    limiter.putIp ip (limiter.ipWindow ip))

def recordIp (limiter : RecoveryRateLimiter) (ip : IpAddr) (now : Instant) : RecoveryRateLimiter :=
  limiter.putIp ip ((limiter.ipWindow ip).add now)

def secondsUntilRecoveryId (limiter : RecoveryRateLimiter) (rid : String) (now : Instant) :
    Option Nat × RecoveryRateLimiter :=
  ((limiter.ridWindow rid).secondsUntilRetry limiter.config.perRidMax now,
    limiter.putRid rid (limiter.ridWindow rid))

def recordRecoveryId (limiter : RecoveryRateLimiter) (rid : String) (now : Instant) :
    RecoveryRateLimiter :=
  limiter.putRid rid ((limiter.ridWindow rid).add now)

end RecoveryRateLimiter

structure RecoverRequest where
  ip : IpAddr
  recoveryId : String
  phrase : String
  now : Instant
  deriving DecidableEq

inductive RecoverError where
  | databaseError (reason : String)
  | recoveryIdNotFound
  | phraseVerificationFailed
  deriving DecidableEq

structure RecoverResponse where
  userId : Uuid
  deviceId : Uuid
  accessToken : String
  refreshToken : String
  deriving DecidableEq

/-- A row of users, as far as the recovery reads it. -/
structure PhraseRow where
  userId : Uuid
  phraseSalt : Option String
  phraseVerifier : Option String

/-- Decrypts what is stored and verifies a passphrase against it. -/
abbrev VerifyPhrase := (phrase : String) → Uuid → (salt verifier : String) → Except String Bool

inductive WaitingStage where
  | checkIp
  | recordIp
  | checkRecoveryId
  | rateLimited (retryAfterSecs : Nat)
  deriving DecidableEq

structure Waiting where
  request : RecoverRequest
  stage : WaitingStage
  deriving DecidableEq

inductive RecoverStage where
  | selectUser
  | verifyPhrase (userId : Uuid) (salt verifier : String)
  | createDevice (userId : Uuid)
  | insertToken (userId deviceId : Uuid)
  | selectEpoch (userId deviceId : Uuid) (refreshToken : String)
  | recordRecoveryId (result : Except RecoverError RecoverResponse)
  | done (result : Except RecoverError RecoverResponse)

structure Admitted where
  request : RecoverRequest
  stage : RecoverStage
  /-- When its passphrase was found wrong. No code reads it. -/
  failedAt : Option Instant

/-- What the database answers and the random sources draw. -/
structure RecoverEnv where
  row : Except String (Option PhraseRow)
  device : Except String Uuid
  insert : Except String Unit
  refreshToken : String
  epoch : Except String Int
  accessToken : Int → String

structure RecoveryState where
  limiter : RecoveryRateLimiter
  clock : Instant
  waiting : List Waiting
  admitted : List Admitted

inductive RecoveryEvent where
  | arrive (ip : IpAddr) (recoveryId phrase : String)
  | limit (i : Nat)
  | proceed (i : Nat) (env : RecoverEnv)
  | tick (elapsed : Duration)

namespace RecoveryState

def initial (config : RecoveryRateLimiterConfig) : RecoveryState := ⟨.new config, 0, [], []⟩

def setWaiting (s : RecoveryState) (i : Nat) (waiting : Waiting) (stage : WaitingStage) :
    RecoveryState :=
  { s with waiting := s.waiting.set i { waiting with stage } }

def setAdmitted (s : RecoveryState) (i : Nat) (admitted : Admitted) : RecoveryState :=
  { s with admitted := s.admitted.set i admitted }

def limit (s : RecoveryState) (i : Nat) (waiting : Waiting) : Option RecoveryState :=
  let request := waiting.request
  match waiting.stage with
  | .checkIp =>
    match s.limiter.secondsUntilIp request.ip request.now with
    | (some secs, limiter) => some ({ s with limiter }.setWaiting i waiting (.rateLimited secs))
    | (none, limiter) => some ({ s with limiter }.setWaiting i waiting .recordIp)
  | .recordIp =>
    some ({ s with limiter := s.limiter.recordIp request.ip request.now }.setWaiting i waiting
      .checkRecoveryId)
  | .checkRecoveryId =>
    match s.limiter.secondsUntilRecoveryId request.recoveryId request.now with
    | (some secs, limiter) => some ({ s with limiter }.setWaiting i waiting (.rateLimited secs))
    | (none, limiter) =>
      some { s with
        limiter
        waiting := s.waiting.eraseIdx i
        admitted := ⟨request, .selectUser, none⟩ :: s.admitted }
  | .rateLimited _ => none

/-- `recover_account`, and what the handler makes of its result. -/
def proceed (verify : VerifyPhrase) (s : RecoveryState) (i : Nat) (a : Admitted)
    (env : RecoverEnv) : Option RecoveryState :=
  let request := a.request
  match a.stage with
  | .selectUser =>
    match env.row with
    | .error e => some (s.setAdmitted i { a with stage := .done (.error (.databaseError e)) })
    | .ok (some ⟨userId, some salt, some verifier⟩) =>
      some (s.setAdmitted i { a with stage := .verifyPhrase userId salt verifier })
    | .ok _ => some (s.setAdmitted i { a with stage := .done (.error .recoveryIdNotFound) })
  | .verifyPhrase userId salt verifier =>
    match verify request.phrase userId salt verifier with
    | .error e => some (s.setAdmitted i { a with stage := .done (.error (.databaseError e)) })
    | .ok false =>
      some (s.setAdmitted i
        ⟨request, .recordRecoveryId (.error .phraseVerificationFailed), some s.clock⟩)
    | .ok true => some (s.setAdmitted i { a with stage := .createDevice userId })
  | .createDevice userId =>
    match env.device with
    | .error e => some (s.setAdmitted i { a with stage := .done (.error (.databaseError e)) })
    | .ok deviceId => some (s.setAdmitted i { a with stage := .insertToken userId deviceId })
  | .insertToken userId deviceId =>
    match env.insert with
    | .error e => some (s.setAdmitted i { a with stage := .done (.error (.databaseError e)) })
    | .ok _ =>
      some (s.setAdmitted i { a with stage := .selectEpoch userId deviceId env.refreshToken })
  | .selectEpoch userId deviceId refreshToken =>
    match env.epoch with
    | .error e => some (s.setAdmitted i { a with stage := .done (.error (.databaseError e)) })
    | .ok epoch =>
      some (s.setAdmitted i { a with
        stage := .recordRecoveryId (.ok ⟨userId, deviceId, env.accessToken epoch, refreshToken⟩) })
  | .recordRecoveryId result =>
    some ({ s with
      limiter := s.limiter.recordRecoveryId request.recoveryId request.now }.setAdmitted i
        { a with stage := .done result })
  | .done _ => none

def next (verify : VerifyPhrase) (s : RecoveryState) : RecoveryEvent → Option RecoveryState
  | .arrive ip recoveryId phrase =>
    some { s with waiting := s.waiting ++ [⟨⟨ip, recoveryId, phrase, s.clock⟩, .checkIp⟩] }
  | .limit i => s.waiting[i]?.bind (s.limit i)
  | .proceed i env => s.admitted[i]?.bind fun a => s.proceed verify i a env
  | .tick elapsed => some { s with clock := s.clock + elapsed }

end RecoveryState

def recoveryMachine (verify : VerifyPhrase) : Machine RecoveryState RecoveryEvent where
  next := RecoveryState.next verify

end Wavis.Recovery
