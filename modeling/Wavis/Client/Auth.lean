import Wavis.Concurrency.Pool

/-! The client keeps the access token and the device in a store file, and the refresh token in the
keychain. Every read or write of either is an await of its own, and so is every request to the
server, so the calls below are programs whose operations are the awaits. What a write or the server
answers is chosen by the environment. -/

namespace Wavis.Auth

open Concurrency

structure AuthStore where
  serverUrl : Option String
  insecureTls : Bool
  accessToken : Option String
  accessTokenExp : Option Nat
  deviceId : Option String
  recoveryId : Option String
  username : Option String
  displayName : Option String
  refreshToken : Option String
  deriving DecidableEq

def AuthStore.empty : AuthStore := ⟨none, false, none, none, none, none, none, none, none⟩

structure TokenBody where
  userId : String
  deviceId : String
  accessToken : String
  /-- The expiry in the token, if it can be read. -/
  jwtExpiry : Option Nat
  refreshToken : String
  recoveryId : String
  deriving DecidableEq

inductive Reply where
  /-- The request or its answer is lost. -/
  | networkError
  | refused (status : Nat) (retryAfter : Option Nat)
  /-- The answer is a success, but its body does not arrive. -/
  | unreadable
  | accepted (body : TokenBody)
  deriving DecidableEq

inductive AuthRequest where
  | register (serverUrl phrase username inviteCode : String)
  | recover (serverUrl recoveryId phrase : String)
  | pairFinish (serverUrl pairingId code : String)
  | refresh (serverUrl refreshToken : String)
  deriving DecidableEq

/-- The request makes a session, and does not only prolong one. -/
def AuthRequest.logsIn : AuthRequest → Bool
  | .refresh _ _ => false
  | _ => true

/-- An address with the protocol it is parsed to, if it can be parsed. -/
structure ServerUrl where
  text : String
  protocol : Option String
  deriving DecidableEq

inductive RefreshResult where
  | success
  | networkError
  | serverError (httpStatus : Nat)
  | unauthorized
  | badRequest
  | rateLimited (retryAfter : Option Nat)
  | noRefreshToken
  | noServerUrl
  deriving DecidableEq

inductive StoreKey where
  | accessToken
  | accessTokenExp
  | deviceId
  | recoveryId
  | username
  | displayName
  deriving DecidableEq

inductive StoreWrite where
  | setServerUrl (url : String)
  | setInsecureTls (value : Bool)
  | setAccessToken (token : String)
  /-- The expiry that the token names. -/
  | setAccessTokenExp (jwtExpiry : Option Nat)
  | setDeviceId (id : String)
  | setRecoveryId (id : String)
  | delete (key : StoreKey)
  | storeRefreshToken (token : String)
  | deleteRefreshToken
  deriving DecidableEq

inductive StoreRead where
  | serverUrl
  | refreshToken
  deriving DecidableEq

def accessTokenTtlSecs : Nat := 900

def StoreWrite.apply (change : StoreWrite) (now : Nat) (store : AuthStore) : AuthStore :=
  match change with
  | setServerUrl url => { store with serverUrl := some url }
  | setInsecureTls value => { store with insecureTls := value }
  | setAccessToken token => { store with accessToken := some token }
  | setAccessTokenExp jwtExpiry =>
    { store with accessTokenExp := some (jwtExpiry.getD (now + accessTokenTtlSecs * 1000)) }
  | setDeviceId id => { store with deviceId := some id }
  | setRecoveryId id => { store with recoveryId := some id }
  | delete .accessToken => { store with accessToken := none }
  | delete .accessTokenExp => { store with accessTokenExp := none }
  | delete .deviceId => { store with deviceId := none }
  | delete .recoveryId => { store with recoveryId := none }
  | delete .username => { store with username := none }
  | delete .displayName => { store with displayName := none }
  | storeRefreshToken token => { store with refreshToken := some token }
  | deleteRefreshToken => { store with refreshToken := none }

def StoreRead.value (item : StoreRead) (store : AuthStore) : Option String :=
  match item with
  | serverUrl => store.serverUrl
  | refreshToken => store.refreshToken

inductive ScheduledRefreshAction where
  | success
  | retry
  | login
  deriving DecidableEq

structure ScheduledRefreshDecision where
  action : ScheduledRefreshAction
  nextRetryCount : Nat
  deriving DecidableEq

def maxRefreshRetries : Nat := 3

def isTransientFailure : RefreshResult → Bool
  | .networkError => true
  | .serverError _ => true
  | .rateLimited _ => true
  | _ => false

/-- What the timer of the next refresh makes of a result, without the delay. -/
def decideScheduledRefreshAction (result : RefreshResult) (retryCount : Nat) :
    ScheduledRefreshDecision :=
  if result = .success then ⟨.success, 0⟩
  else if !isTransientFailure result then
    if retryCount = 0 then ⟨.retry, maxRefreshRetries - 1⟩ else ⟨.login, retryCount⟩
  else if retryCount + 1 < maxRefreshRetries then ⟨.retry, retryCount + 1⟩
  else ⟨.login, retryCount + 1⟩

structure AuthClient where
  store : AuthStore
  /-- The number of the refresh in flight. -/
  inflightRefresh : Option Nat
  refreshes : List (Option RefreshResult)
  deriving DecidableEq

def AuthClient.initial (store : AuthStore) : AuthClient := ⟨store, none, []⟩

/-- A caller joins the refresh in flight, or starts one. -/
inductive RefreshTurn where
  | joined (refresh : Nat)
  | started (refresh : Nat)
  deriving DecidableEq

inductive AuthOp where
  /-- A read or write that fails throws. -/
  | read (item : StoreRead)
  | write (change : StoreWrite)
  | getInsecureTls
  | fetch (request : AuthRequest)
  | beginRefresh
  | awaitRefresh (refresh : Nat)
  | settleRefresh (refresh : Nat) (result : RefreshResult)
  | endRefresh
  deriving DecidableEq

def AuthResp : AuthOp → Type
  | .read _ => Option (Option String)
  | .write _ => Bool
  | .getInsecureTls => Option Bool
  | .fetch _ => Reply
  | .beginRefresh => RefreshTurn
  | .awaitRefresh _ => RefreshResult
  | .settleRefresh _ _ => Unit
  | .endRefresh => Unit

structure AuthEnv where
  now : Nat
  /-- The operation on the store or the keychain fails. -/
  fails : Bool
  reply : Reply

def AuthOp.exec (o : AuthOp) (env : AuthEnv) (c : AuthClient) : Option (AuthResp o × AuthClient) :=
  match o with
  | .read item => some (if env.fails then none else some (item.value c.store), c)
  | .write change =>
    if env.fails then some (false, c)
    else some (true, { c with store := change.apply env.now c.store })
  | .getInsecureTls => some (if env.fails then none else some c.store.insecureTls, c)
  | .fetch _ => some (env.reply, c)
  | .beginRefresh =>
    match c.inflightRefresh with
    | some refresh => some (.joined refresh, c)
    | none => some (.started c.refreshes.length,
        { c with inflightRefresh := some c.refreshes.length, refreshes := c.refreshes ++ [none] })
  | .awaitRefresh refresh => (c.refreshes[refresh]?.join).map fun result => (result, c)
  | .settleRefresh refresh result =>
    some ((), { c with refreshes := c.refreshes.set refresh (some result) })
  | .endRefresh => some ((), { c with inflightRefresh := none })

abbrev AuthProg (α : Type) := Prog AuthResp α

inductive AuthFailure where
  | invalidUrl
  | noServerUrl
  | networkError
  | rateLimited (retryAfter : Option Nat)
  | unauthorized
  | refused (status : Nat)
  /-- An exception that the call does not catch. -/
  | thrown
  deriving DecidableEq

section

variable {α : Type}

def reading (item : StoreRead) (next : Option String → AuthProg (Except AuthFailure α)) :
    AuthProg (Except AuthFailure α) :=
  .op (.read item) fun
    | some value => next value
    | none => pure (.error .thrown)

/-- The flag `INSECURE_TLS_ALLOWED` is set when the client is built. -/
def readingInsecureTls (insecureTlsAllowed : Bool) (next : AuthProg (Except AuthFailure α)) :
    AuthProg (Except AuthFailure α) :=
  if insecureTlsAllowed then
    .op .getInsecureTls fun
      | some _ => next
      | none => pure (.error .thrown)
  else next

def writing (change : StoreWrite) (next : AuthProg (Except AuthFailure α)) :
    AuthProg (Except AuthFailure α) :=
  .op (.write change) fun
    | true => next
    | false => pure (.error .thrown)

/-- The tokens and the device of an answer, in the order in which every call keeps them. -/
def keepTokens (body : TokenBody) (next : AuthProg (Except AuthFailure α)) :
    AuthProg (Except AuthFailure α) :=
  writing (.setAccessToken body.accessToken) <|
  writing (.setAccessTokenExp body.jwtExpiry) <|
  writing (.storeRefreshToken body.refreshToken) <|
  writing (.setDeviceId body.deviceId) next

end

section

variable (insecureTlsAllowed : Bool)

def validateServerUrl (url : ServerUrl) (insecureTls : Bool) : Bool :=
  match url.protocol with
  | some protocol => protocol = "https:" || protocol = "http:" && insecureTlsAllowed && insecureTls
  | none => false

/-- How the answer to a registration or recovery is told apart. -/
def refusedLogin (status : Nat) (retryAfter : Option Nat) : AuthFailure :=
  if status = 401 then .unauthorized
  else if status = 429 then .rateLimited retryAfter
  else .refused status

/-- The part that registration and recovery share: the address is kept once the server agreed. -/
def login (serverUrl : ServerUrl) (insecureTls : Bool) (request : AuthRequest)
    (next : TokenBody → AuthProg (Except AuthFailure Unit)) : AuthProg (Except AuthFailure Unit) :=
  if validateServerUrl insecureTlsAllowed serverUrl insecureTls then
    writing (.setInsecureTls (insecureTlsAllowed && insecureTls)) <|
    .op (.fetch request) fun
      | .networkError => pure (.error .networkError)
      | .refused status retryAfter => pure (.error (refusedLogin status retryAfter))
      | .unreadable => pure (.error .thrown)
      | .accepted body =>
        writing (.setServerUrl serverUrl.text) <|
        keepTokens body (next body)
  else pure (.error .invalidUrl)

def registerUser (serverUrl : ServerUrl) (phrase username inviteCode : String)
    (insecureTls : Bool) : AuthProg (Except AuthFailure Unit) :=
  login insecureTlsAllowed serverUrl insecureTls
    (.register serverUrl.text phrase username inviteCode)
    fun body => writing (.setRecoveryId body.recoveryId) (pure (.ok ()))

/-- The recovery id as the caller has typed it, without the blanks around it. -/
def recoverAccount (serverUrl : ServerUrl) (trimmedRecoveryId phrase : String)
    (insecureTls rememberRecoveryId : Bool) : AuthProg (Except AuthFailure Unit) :=
  login insecureTlsAllowed serverUrl insecureTls (.recover serverUrl.text trimmedRecoveryId phrase)
    fun _ => writing
      (if rememberRecoveryId then .setRecoveryId trimmedRecoveryId else .delete .recoveryId)
      (pure (.ok ()))

def finishPairing (pairingId code : String) : AuthProg (Except AuthFailure Unit) :=
  reading .serverUrl fun
    | none => pure (.error .noServerUrl)
    | some serverUrl =>
      readingInsecureTls insecureTlsAllowed <|
      .op (.fetch (.pairFinish serverUrl pairingId code)) fun
        | .networkError => pure (.error .thrown)
        | .refused status _ => pure (.error (.refused status))
        | .unreadable => pure (.error .thrown)
        | .accepted body => keepTokens body (pure (.ok ()))

/-- How the answer to a refresh is told apart. -/
def refusedRefresh (status : Nat) (retryAfter : Option Nat) : RefreshResult :=
  if status = 401 then .unauthorized
  else if status = 400 then .badRequest
  else if status = 429 then
    .rateLimited (retryAfter.map fun secs => min 30000 (max 250 (secs * 1000)))
  else .serverError status

/-- The body of the refresh, without what catches its exceptions. -/
def tryRefresh : AuthProg (Except AuthFailure RefreshResult) :=
  reading .serverUrl fun
    | none => pure (.ok .noServerUrl)
    | some serverUrl =>
      reading .refreshToken fun
        | none => pure (.ok .noRefreshToken)
        | some refreshToken =>
          readingInsecureTls insecureTlsAllowed <|
          .op (.fetch (.refresh serverUrl refreshToken)) fun
            | .networkError => pure (.error .thrown)
            | .refused status retryAfter => pure (.ok (refusedRefresh status retryAfter))
            | .unreadable => pure (.error .thrown)
            | .accepted body => keepTokens body (pure (.ok .success))

/-- Whatever is thrown is a network error. -/
def caught : Except AuthFailure RefreshResult → RefreshResult
  | .ok result => result
  | .error _ => .networkError

def refreshTokens : AuthProg RefreshResult :=
  .op .beginRefresh fun
    | .joined refresh => .op (.awaitRefresh refresh) fun result => pure result
    | .started refresh =>
      tryRefresh insecureTlsAllowed >>= fun outcome =>
      .op (.settleRefresh refresh (caught outcome)) fun _ =>
      .op .endRefresh fun _ => pure (caught outcome)

def clearAccessTokens : AuthProg (Except AuthFailure Unit) :=
  writing (.delete .accessToken) <|
  writing (.delete .accessTokenExp) <|
  pure (.ok ())

/-- The failure of the keychain is only logged. -/
def logout : AuthProg (Except AuthFailure Unit) :=
  writing (.delete .accessToken) <|
  writing (.delete .accessTokenExp) <|
  writing (.delete .deviceId) <|
  writing (.delete .username) <|
  writing (.delete .displayName) <|
  .op (.write .deleteRefreshToken) fun _ => pure (.ok ())

inductive AuthCall where
  | refreshTokens
  | clearAccessTokens
  | logout
  | registerUser (serverUrl : ServerUrl) (phrase username inviteCode : String) (insecureTls : Bool)
  | recoverAccount (serverUrl : ServerUrl) (trimmedRecoveryId phrase : String)
      (insecureTls rememberRecoveryId : Bool)
  | finishPairing (pairingId code : String)
  deriving DecidableEq

def AuthRet : AuthCall → Type
  | .refreshTokens => RefreshResult
  | _ => Except AuthFailure Unit

def AuthCall.body : (call : AuthCall) → AuthProg (AuthRet call)
  | .refreshTokens => Auth.refreshTokens insecureTlsAllowed
  | .clearAccessTokens => Auth.clearAccessTokens
  | .logout => Auth.logout
  | .registerUser serverUrl phrase username inviteCode insecureTls =>
    Auth.registerUser insecureTlsAllowed serverUrl phrase username inviteCode insecureTls
  | .recoverAccount serverUrl trimmedRecoveryId phrase insecureTls rememberRecoveryId =>
    Auth.recoverAccount insecureTlsAllowed serverUrl trimmedRecoveryId phrase insecureTls
      rememberRecoveryId
  | .finishPairing pairingId code => Auth.finishPairing insecureTlsAllowed pairingId code

def authCalls : System AuthResp AuthRet AuthEnv AuthClient where
  exec := AuthOp.exec
  body := AuthCall.body insecureTlsAllowed

end

inductive ApiErrorKind where
  | rateLimited
  | unauthorized
  | forbidden
  | notFound
  | invalidInvite
  | alreadyMember
  | alreadyBanned
  | network
  | unknown

structure ApiError where
  status : Nat
  message : String
  kind : ApiErrorKind

def sessionExpired : ApiError := ⟨401, "Session expired", .unauthorized⟩

def unreachable : ApiError := ⟨0, "Network error — could not reach server", .network⟩

structure Response where
  status : Nat
  text : String

/-- What a call gets from outside. It may share its refreshes with other calls. -/
structure ApiCall where
  serverUrl : Option String
  expired : Bool
  result : RefreshResult
  /-- None if the request does not reach the server. -/
  response : Option Response
  refreshed : RefreshResult
  replay : Option Response

inductive ApiEvent where
  | called
  | refreshed (result : RefreshResult)
  | requested
  | authExpired

/-- What happens in a call, and how it ends. -/
abbrev ApiRun (T : Type) := List ApiEvent × Except ApiError T

section

variable {T : Type} (finish : Response → Except ApiError T) (call : ApiCall)

/-- A request that is made once the tokens are refreshed. -/
def refreshing (result : RefreshResult) (next : ApiRun T) : ApiRun T :=
  if result ≠ .success then ([.refreshed result, .authExpired], .error sessionExpired)
  else (.refreshed result :: .requested :: next.1, next.2)

def ApiCall.replayed : ApiRun T :=
  ([], match call.replay with
    | none => .error unreachable
    | some res => if res.status = 401 then .error sessionExpired else finish res)

def ApiCall.answered : ApiRun T :=
  match call.response with
  | none => ([], .error unreachable)
  | some res =>
    if res.status = 401 then refreshing call.refreshed (call.replayed finish) else ([], finish res)

/-- What is made of the last response, its value or the kind and message of its error, is left
open. -/
def apiFetch : ApiRun T :=
  if call.serverUrl.getD "" = "" then ([], .error ⟨0, "Server URL not configured", .network⟩)
  else if call.expired then refreshing call.result (call.answered finish)
  else (.requested :: (call.answered finish).1, (call.answered finish).2)

end

end Wavis.Auth
