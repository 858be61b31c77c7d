import Wavis.Proof.SessionProtocol

namespace Wavis.Auth

open Concurrency

variable {insecureTlsAllowed : Bool}

structure Session where
  accessToken : Option String
  refreshToken : Option String
  deviceId : Option String
  deriving DecidableEq

def AuthStore.session (store : AuthStore) : Session :=
  ⟨store.accessToken, store.refreshToken, store.deviceId⟩

def Session.Coherent (session : Session) (bodies : List TokenBody) : Prop :=
  session = ⟨none, none, none⟩
    ∨ ∃ body ∈ bodies, session.refreshToken = some body.refreshToken
        ∧ session.deviceId = some body.deviceId
        ∧ (session.accessToken = none ∨ session.accessToken = some body.accessToken)

instance (session : Session) (bodies : List TokenBody) : Decidable (session.Coherent bodies) := by
  unfold Session.Coherent
  infer_instance

namespace AuthPool

/-- The session a run starts from, and the answers it came from. -/
def initial (store : AuthStore) (bodies : List TokenBody) : AuthPool :=
  ⟨(AuthClient.initial store, ⟨bodies, false⟩), []⟩

def begins (pool : AuthPool) (i : Nat) (env : AuthEnv) : Bool :=
  match pool.nextOp i, env.reply with
  | some (.fetch _), .accepted _ => true
  | some (.write (.delete .accessToken)), _ =>
    pool.threads[i]?.any fun thread => storeProtocol.phase thread = .leaving
  | _, _ => false

def otherWriter (pool : AuthPool) (i : Nat) : Bool :=
  pool.threads.zipIdx.any fun entry =>
    entry.2 ≠ i && (storeProtocol.phase entry.1).writer.isSome

def outdated (pool : AuthPool) (i : Nat) (env : AuthEnv) : Bool :=
  match pool.nextOp i, env.reply with
  | some (.fetch (.refresh _ _)), .accepted _ => pool.shared.1.store.refreshToken = none
  | _, _ => false

def writes (pool : AuthPool) (i : Nat) : Bool :=
  match pool.nextOp i with
  | some (.write _) => true
  | _ => false

/-- One writer at a time, no late answer to a refresh, and no failure of the store. -/
def Coordinated (pool : AuthPool) : AuthAct → Prop
  | .start _ => True
  | .step i env => (begins pool i env = true → otherWriter pool i = false)
      ∧ outdated pool i env = false ∧ (writes pool i = true → env.fails = false)

instance (pool : AuthPool) (act : AuthAct) : Decidable (Coordinated pool act) := by
  unfold Coordinated
  cases act <;> infer_instance

end AuthPool

open AuthPool

/-- An operation, its answer, and what becomes of the session and the history. -/
inductive SessionStep (env : AuthEnv) (w w' : AuthClient × AuthHistory) :
    (o : AuthOp) → AuthResp o → Prop
  | setAccessToken (token : String)
      (hsession : w'.1.store.session = { w.1.store.session with accessToken := some token })
      (hhistory : w'.2 = w.2) : SessionStep env w w' (.write (.setAccessToken token)) true
  | storeRefreshToken (token : String)
      (hsession : w'.1.store.session = { w.1.store.session with refreshToken := some token })
      (hhistory : w'.2 = w.2) : SessionStep env w w' (.write (.storeRefreshToken token)) true
  | setDeviceId (id : String)
      (hsession : w'.1.store.session = { w.1.store.session with deviceId := some id })
      (hhistory : w'.2 = w.2) : SessionStep env w w' (.write (.setDeviceId id)) true
  | deleteAccessToken
      (hsession : w'.1.store.session = { w.1.store.session with accessToken := none })
      (hhistory : w'.2 = w.2) : SessionStep env w w' (.write (.delete .accessToken)) true
  | deleteDeviceId
      (hsession : w'.1.store.session = { w.1.store.session with deviceId := none })
      (hhistory : w'.2 = w.2) : SessionStep env w w' (.write (.delete .deviceId)) true
  | deleteRefreshToken
      (hsession : w'.1.store.session = { w.1.store.session with refreshToken := none })
      (hhistory : w'.2 = { w.2 with loggedOut := true }) :
      SessionStep env w w' (.write .deleteRefreshToken) true
  | failed (change : StoreWrite) (hfails : env.fails = true) :
      SessionStep env w w' (.write change) false
  | accepted (request : AuthRequest) (body : TokenBody) (hreply : env.reply = .accepted body)
      (hsession : w'.1.store.session = w.1.store.session)
      (hhistory : w'.2 = ⟨body :: w.2.bodies, w.2.loggedOut && !request.logsIn⟩) :
      SessionStep env w w' (.fetch request) (.accepted body)
  /-- Everything else, which the phases do not see. -/
  | aside (o : AuthOp) (answer : AuthResp o) (hsession : w'.1.store.session = w.1.store.session)
      (hhistory : w'.2 = w.2) (hnext : ∀ phase : StorePhase, phase.next o answer = phase) :
      SessionStep env w w' o answer

theorem write_step {change : StoreWrite} {env : AuthEnv} {now : Nat} {c : AuthClient}
    {history history' : AuthHistory}
    (hnote : history' = AuthHistory.note (.write change) c true c history) :
    SessionStep env (c, history) ({ c with store := change.apply now c.store }, history')
      (.write change) true := by
  cases change with
  | setAccessToken token => exact .setAccessToken token rfl hnote
  | storeRefreshToken token => exact .storeRefreshToken token rfl hnote
  | setDeviceId id => exact .setDeviceId id rfl hnote
  | deleteRefreshToken => exact .deleteRefreshToken rfl hnote
  | delete key =>
    cases key with
    | accessToken => exact .deleteAccessToken rfl hnote
    | deviceId => exact .deleteDeviceId rfl hnote
    | accessTokenExp | recoveryId | username | displayName =>
      exact .aside _ _ rfl hnote fun _ => rfl
  | setServerUrl url | setInsecureTls value | setAccessTokenExp expiry | setRecoveryId id =>
    exact .aside _ _ rfl hnote fun _ => rfl

/-- **What an operation does to the session.** -/
theorem exec_step {o : AuthOp} {env : AuthEnv} {w w' : AuthClient × AuthHistory}
    {answer : AuthResp o} (h : (authService insecureTlsAllowed).exec o env w = some (answer, w')) :
    SessionStep env w w' o answer := by
  obtain ⟨hexec, hnote⟩ := System.exec_annotated h
  obtain ⟨c, history⟩ := w
  obtain ⟨c', history'⟩ := w'
  obtain ⟨now, fails, reply⟩ := env
  cases o with
  | read item | getInsecureTls =>
    cases hexec
    exact .aside _ _ rfl hnote fun _ => rfl
  | write change =>
    cases fails with
    | true =>
      cases hexec
      exact .failed change rfl
    | false =>
      cases hexec
      exact write_step hnote
  | fetch request =>
    cases hexec
    cases reply with
    | accepted body => exact .accepted request body rfl rfl hnote
    | networkError | unreadable => exact .aside _ _ rfl hnote fun phase => by cases phase <;> rfl
    | refused status retryAfter =>
      exact .aside _ _ rfl hnote fun phase => by cases phase <;> rfl
  | beginRefresh =>
    change AuthOp.exec .beginRefresh ⟨now, fails, reply⟩ c = _ at hexec
    simp only [AuthOp.exec] at hexec
    split at hexec
    · cases hexec
      exact .aside _ _ rfl hnote fun _ => rfl
    · cases hexec
      exact .aside _ _ rfl hnote fun _ => rfl
  | awaitRefresh refresh =>
    obtain ⟨result, hresult, heq⟩ := Option.map_eq_some_iff.mp hexec
    cases heq
    exact .aside _ _ rfl hnote fun _ => rfl
  | settleRefresh refresh result | endRefresh =>
    cases hexec
    exact .aside _ _ rfl hnote fun _ => rfl

def Session.AccessOf (session : Session) (body : TokenBody) : Prop :=
  session.accessToken = none ∨ session.accessToken = some body.accessToken

def Session.Has (session : Session) (body : TokenBody) : Kept → Prop
  | .nothing => True
  | .accessToken => session.AccessOf body
  | .refreshToken => session.AccessOf body ∧ session.refreshToken = some body.refreshToken

def Fits (w : AuthClient × AuthHistory) : StorePhase → Prop
  | .storing body kept => body ∈ w.2.bodies ∧ w.2.loggedOut = false
      ∧ w.1.store.session.Has body kept
  | .erasing device => w.1.store.session.accessToken = none
      ∧ (device = true → w.1.store.session.deviceId = none)
  | .broken => False
  | _ => True

def Ended (w : AuthClient × AuthHistory) : Prop :=
  w.2.loggedOut = true →
    w.1.store.session.accessToken = none ∧ w.1.store.session.refreshToken = none

variable {w w' : AuthClient × AuthHistory} {o : AuthOp} {answer : AuthResp o} {env : AuthEnv}
  {φ φ' : StorePhase} {pool : AuthPool} {i : Nat} {bodies : List TokenBody}

structure Fair (w : AuthClient × AuthHistory) (o : AuthOp) (env : AuthEnv) : Prop where
  writes : ∀ change, o = .write change → env.fails = false
  live : ∀ url token body, o = .fetch (.refresh url token) → env.reply = .accepted body →
    w.1.store.session.refreshToken ≠ none

theorem Ended.of_login (h : w.2.loggedOut = false) : Ended w :=
  fun hlogout => absurd (h.symm.trans hlogout) (by simp)

theorem Ended.step (h : Ended w) (hfits : Fits w φ) (hmay : φ.May o)
    (hstep : SessionStep env w w' o answer) (hfair : Fair w o env) : Ended w' := by
  cases hstep with
  | setAccessToken token hsession hhistory | storeRefreshToken token hsession hhistory
  | setDeviceId id hsession hhistory =>
    obtain ⟨body, rfl, rfl⟩ := hmay
    exact .of_login (hhistory ▸ hfits.2.1)
  | deleteAccessToken hsession hhistory =>
    intro hlogout
    rw [hhistory] at hlogout
    rw [hsession]
    exact ⟨rfl, (h hlogout).2⟩
  | deleteDeviceId hsession hhistory =>
    intro hlogout
    rw [hhistory] at hlogout
    rw [hsession]
    exact h hlogout
  | deleteRefreshToken hsession hhistory =>
    intro _
    obtain rfl : φ = .erasing true := hmay
    rw [hsession]
    exact ⟨hfits.1, rfl⟩
  | failed change hfails => exact absurd (hfair.writes change rfl) (by simp [hfails])
  | accepted request body hreply hsession hhistory =>
    intro hlogout
    rw [hhistory] at hlogout
    rw [hsession]
    exact h (Bool.and_eq_true_iff.mp hlogout).1
  | aside o answer hsession hhistory hnext =>
    rw [Ended, hsession, hhistory]
    exact h

theorem Fits.congr (h : Fits w φ) (hsession : w'.1.store.session = w.1.store.session)
    (hhistory : w'.2 = w.2) : Fits w' φ := by
  unfold Fits
  rw [hsession, hhistory]
  exact h

theorem Fits.own (h : Fits w φ) (hended : Ended w) (hmay : φ.May o)
    (hstep : SessionStep env w w' o answer) (hfair : Fair w o env) : Fits w' (φ.next o answer) := by
  cases hstep with
  | setAccessToken token hsession hhistory =>
    obtain ⟨body, rfl, rfl⟩ := hmay
    refine ⟨hhistory ▸ h.1, hhistory ▸ h.2.1, .inr ?_⟩
    rw [hsession]
  | storeRefreshToken token hsession hhistory =>
    obtain ⟨body, rfl, rfl⟩ := hmay
    refine ⟨hhistory ▸ h.1, hhistory ▸ h.2.1, ?_⟩
    rw [hsession]
    exact ⟨h.2.2, rfl⟩
  | setDeviceId id hsession hhistory =>
    obtain ⟨body, rfl, rfl⟩ := hmay
    trivial
  | deleteAccessToken hsession hhistory =>
    rcases hmay with rfl | rfl
    · trivial
    · refine ⟨?_, nofun⟩
      rw [hsession]
  | deleteDeviceId hsession hhistory =>
    obtain rfl : φ = .erasing false := hmay
    refine ⟨?_, fun _ => ?_⟩
    · rw [hsession]
      exact h.1
    · rw [hsession]
  | deleteRefreshToken hsession hhistory =>
    obtain rfl : φ = .erasing true := hmay
    trivial
  | failed change hfails => exact absurd (hfair.writes change rfl) (by simp [hfails])
  | accepted request body hreply hsession hhistory =>
    obtain rfl : φ = .outside := hmay
    refine ⟨hhistory ▸ List.mem_cons_self, ?_, trivial⟩
    rw [hhistory]
    cases request with
    | refresh url token =>
      have hlive := hfair.live url token body rfl hreply
      have hlogin : w.2.loggedOut = false :=
        Bool.eq_false_iff.mpr fun hlogout => hlive (hended hlogout).2
      simp [hlogin]
    | register serverUrl phrase username inviteCode | recover serverUrl recoveryId phrase
    | pairFinish serverUrl pairingId code => simp [AuthRequest.logsIn]
  | aside o answer hsession hhistory hnext =>
    rw [hnext]
    exact h.congr hsession hhistory

theorem Fits.other (h : Fits w φ') (hreader : φ.writer = none) (hmay : φ.May o)
    (hstep : SessionStep env w w' o answer) (hfair : Fair w o env) : Fits w' φ' := by
  cases hstep with
  | setAccessToken token hsession hhistory | storeRefreshToken token hsession hhistory
  | setDeviceId id hsession hhistory =>
    obtain ⟨body, rfl, rfl⟩ := hmay
    cases hreader
  | deleteDeviceId hsession hhistory =>
    obtain rfl : φ = .erasing false := hmay
    cases hreader
  | deleteRefreshToken hsession hhistory =>
    obtain rfl : φ = .erasing true := hmay
    cases hreader
  | failed change hfails => exact absurd (hfair.writes change rfl) (by simp [hfails])
  | aside o answer hsession hhistory hnext => exact h.congr hsession hhistory
  | deleteAccessToken hsession hhistory =>
    cases φ' with
    | outside | leaving => trivial
    | broken => exact h
    | erasing device =>
      unfold Fits
      rw [hsession]
      exact ⟨rfl, h.2⟩
    | storing body kept =>
      refine ⟨hhistory ▸ h.1, hhistory ▸ h.2.1, ?_⟩
      rw [hsession]
      cases kept with
      | nothing => trivial
      | accessToken => exact .inl rfl
      | refreshToken => exact ⟨.inl rfl, h.2.2.2⟩
  | accepted request body hreply hsession hhistory =>
    cases φ' with
    | outside | leaving => trivial
    | broken => exact h
    | erasing device =>
      unfold Fits
      rw [hsession]
      exact h
    | storing body' kept =>
      refine ⟨?_, ?_, ?_⟩
      · rw [hhistory]
        exact List.mem_cons_of_mem _ h.1
      · rw [hhistory]
        simp [h.2.1]
      · rw [hsession]
        exact h.2.2

theorem Fits.reader (h : Fits w φ') (hreader : φ'.writer = none) : Fits w' φ' := by
  cases φ' with
  | outside | leaving => trivial
  | broken => exact h
  | erasing device | storing body kept => cases hreader

theorem Coordinated.fair (h : Coordinated pool (.step i env)) (hop : pool.nextOp i = some o) :
    Fair pool.shared o env where
  writes change hwrite := by
    subst hwrite
    exact h.2.2 (by simp only [writes, hop])
  live url token body hfetch hreply := by
    subst hfetch
    have hlive := h.2.1
    simp only [outdated, hop, hreply, decide_eq_false_iff_not] at hlive
    exact hlive

theorem Coordinated.alone (h : Coordinated pool (.step i env)) (hbegins : begins pool i env = true)
    {j : Nat} {other : Thread AuthResp AuthRet} (hji : j ≠ i)
    (hother : pool.threads[j]? = some other) : (storeProtocol.phase other).writer = none := by
  have hnone := List.any_eq_false.mp (h.1 hbegins) (other, j)
    (List.mem_zipIdx_iff_getElem?.mpr hother)
  simpa [hji] using hnone

theorem begins_of_gain {thread : Thread AuthResp AuthRet} (hthread : pool.threads[i]? = some thread)
    (hop : pool.nextOp i = some o) (hmay : (storeProtocol.phase thread).May o)
    (hstep : SessionStep env w w' o answer)
    (hreader : (storeProtocol.phase thread).writer = none)
    (hgain : ((storeProtocol.phase thread).next o answer).writer ≠ none) :
    begins pool i env = true := by
  cases hstep with
  | setAccessToken token hsession hhistory | storeRefreshToken token hsession hhistory
  | setDeviceId id hsession hhistory =>
    obtain ⟨body, hphase, -⟩ := hmay
    rw [hphase] at hreader
    cases hreader
  | deleteAccessToken hsession hhistory =>
    rcases hmay with hphase | hphase
    · rw [hphase] at hgain
      exact absurd rfl hgain
    · simp [begins, hop, hthread, hphase]
  | deleteDeviceId hsession hhistory =>
    rw [show storeProtocol.phase thread = .erasing false from hmay] at hreader
    cases hreader
  | deleteRefreshToken hsession hhistory =>
    rw [show storeProtocol.phase thread = .erasing true from hmay] at hreader
    cases hreader
  | failed change hfails => exact absurd (StorePhase.writer_failed _) hgain
  | accepted request body hreply hsession hhistory => simp [begins, hop, hreply]
  | aside o answer hsession hhistory hnext =>
    rw [hnext] at hgain
    exact absurd hreader hgain

theorem authService_owning {store : AuthStore}
    (hreach : (authService insecureTlsAllowed).Reach Coordinated (initial store bodies) pool) :
    pool.Owning storeProtocol Ended (fun w _ => Fits w) StorePhase.writer
      ∧ ∀ thread ∈ pool.threads, storeProtocol.Holds thread := by
  refine hreach.owning (fun _ call _ => storeProtocol_holds _ call) rfl (.of_login rfl) ?_ ?_ ?_ ?_
  · intro pool i env call φ o answer w hallowed hop hended hfits hmay hexec
    have hfair := Coordinated.fair hallowed hop
    exact ⟨hended.step hfits hmay (exec_step hexec) hfair,
      hfits.own hended hmay (exec_step hexec) hfair⟩
  · intro w call _
    cases call <;> exact ⟨trivial, rfl⟩
  · intro pool i env call φ o answer w call' φ' hallowed hop _ hfits hmay hexec hfits' hapart
    cases hwriter : φ.writer with
    | none => exact hfits'.other hwriter hmay (exec_step hexec) (Coordinated.fair hallowed hop)
    | some _ =>
      exact hfits'.reader (Option.eq_none_iff_forall_ne_some.mpr fun k => hapart k hwriter)
  · intro pool i env thread o answer w j other k hallowed hthread hop hji hother _ hmay hexec hgain
      _ hwriter
    by_contra hreader
    have hnone : (storeProtocol.phase thread).writer = none :=
      Option.eq_none_iff_forall_ne_some.mpr fun _ => hreader
    have hbegins := begins_of_gain hthread hop hmay (exec_step hexec) hnone
      (Option.ne_none_iff_exists'.mpr ⟨k, hgain⟩)
    rw [Coordinated.alone hallowed hbegins hji hother] at hwriter
    cases hwriter

theorem Session.Coherent.clear {session : Session} (h : session.Coherent bodies) :
    { session with accessToken := none }.Coherent bodies := by
  rcases h with rfl | ⟨body, hmem, hrefresh, hdevice, -⟩
  · exact .inl rfl
  · exact .inr ⟨body, hmem, hrefresh, hdevice, .inl rfl⟩

theorem coherent_step (hfits : Fits w φ) (hmay : φ.May o) (hstep : SessionStep env w w' o answer)
    (hfair : Fair w o env) (hdone : (φ.next o answer).writer = none)
    (hrest : φ.writer = none → w.1.store.session.Coherent w.2.bodies) :
    w'.1.store.session.Coherent w'.2.bodies := by
  cases hstep with
  | setAccessToken token hsession hhistory | storeRefreshToken token hsession hhistory =>
    obtain ⟨body, rfl, rfl⟩ := hmay
    cases hdone
  | setDeviceId id hsession hhistory =>
    obtain ⟨body, rfl, rfl⟩ := hmay
    obtain ⟨hmem, -, haccess, hrefresh⟩ := hfits
    rw [hsession, hhistory]
    exact .inr ⟨body, hmem, hrefresh, rfl, haccess⟩
  | deleteAccessToken hsession hhistory =>
    rcases hmay with rfl | rfl
    · rw [hsession, hhistory]
      exact (hrest rfl).clear
    · cases hdone
  | deleteDeviceId hsession hhistory =>
    obtain rfl : φ = .erasing false := hmay
    cases hdone
  | deleteRefreshToken hsession hhistory =>
    obtain rfl : φ = .erasing true := hmay
    obtain ⟨haccess, hdevice⟩ := hfits
    refine .inl (hsession.trans ?_)
    simp only [haccess, hdevice rfl]
  | failed change hfails => exact absurd (hfair.writes change rfl) (by simp [hfails])
  | accepted request body hreply hsession hhistory =>
    obtain rfl : φ = .outside := hmay
    cases hdone
  | aside o answer hsession hhistory hnext =>
    rw [hnext] at hdone
    rw [hsession, hhistory]
    exact hrest hdone

/-- **The stored session is one session** whenever no call is in progress. -/
theorem session_coherent {store : AuthStore} {bodies : List TokenBody}
    (hfirst : store.session.Coherent bodies)
    (hreach : (authService insecureTlsAllowed).Reach Coordinated (initial store bodies) pool) :
    (pool.Quiescent → pool.shared.1.store.session.Coherent pool.shared.2.bodies)
      ∧ (pool.shared.2.loggedOut = true →
          pool.shared.1.store.accessToken = none ∧ pool.shared.1.store.refreshToken = none) := by
  obtain ⟨howning, hholds⟩ := authService_owning hreach
  refine ⟨fun hquiet => ?_, howning.shared⟩
  refine hreach.at_rest (J := fun w => w.1.store.session.Coherent w.2.bodies)
    (fun _ hreach => authService_owning hreach) hfirst ?_ ?_
  · intro pool i env call φ o answer w hallowed hop _ hfits hmay hexec hdone hrest
    exact coherent_step hfits hmay (exec_step hexec) (Coordinated.fair hallowed hop) hdone hrest
  · intro thread hthread
    obtain ⟨_, hpost⟩ := (hholds thread hthread).post_of_returned (hquiet thread hthread)
    exact hpost

def answered (name : String) : TokenBody where
  userId := "u"
  deviceId := name
  accessToken := name
  jwtExpiry := none
  refreshToken := name
  recoveryId := name

def loggedIn : AuthStore where
  serverUrl := some "s"
  insecureTls := false
  accessToken := some "0"
  accessTokenExp := some 0
  deviceId := some "0"
  recoveryId := none
  username := none
  displayName := none
  refreshToken := some "0"

def calm : AuthEnv := ⟨0, false, .networkError⟩

def agrees (body : TokenBody) : AuthEnv := { calm with reply := .accepted body }

def server : ServerUrl := ⟨"s", some "https:"⟩

def steps (i count : Nat) : List AuthAct := List.replicate count (.step i calm)

/-- A refresh, then a logout: no token is left. -/
theorem session_coherent_logout :
    ∃ pool : AuthPool, pool.Quiescent ∧ pool.shared.2.loggedOut = true
      ∧ pool.shared.1.store.accessToken = none ∧ pool.shared.1.store.refreshToken = none := by
  obtain ⟨pool, hreach, hquiet, hlogout⟩ := System.exists_reach_of_replay (authService false)
    Coordinated (initial loggedIn [answered "0"])
    ([.start .refreshTokens] ++ steps 0 3 ++ [.step 0 (agrees (answered "1"))] ++ steps 0 6
      ++ [.start .logout] ++ steps 1 6)
    (fun pool => pool.Quiescent ∧ pool.shared.2.loggedOut = true) (by decide)
  exact ⟨pool, hquiet, hlogout, (session_coherent (by decide) hreach).2 hlogout⟩

/-- A refresh and a recovery write at the same time; a refresh is answered after the logout. -/
theorem not_session_coherent :
    (∃ pool : AuthPool,
        (authService false).Reach (fun _ _ => True) (initial loggedIn [answered "0"]) pool
        ∧ pool.Quiescent ∧ ¬ pool.shared.1.store.session.Coherent pool.shared.2.bodies)
      ∧ ∃ pool : AuthPool,
          (authService false).Reach (fun _ _ => True) (initial loggedIn [answered "0"]) pool
            ∧ pool.Quiescent ∧ pool.shared.2.loggedOut = true
            ∧ pool.shared.1.store.accessToken ≠ none ∧ pool.shared.1.store.refreshToken ≠ none := by
  constructor
  · obtain ⟨pool, hreach, htest⟩ := System.exists_reach_of_replay (authService false)
      (fun _ _ => True) (initial loggedIn [answered "0"])
      ([.start .refreshTokens] ++ steps 0 3 ++ [.step 0 (agrees (answered "1"))] ++ steps 0 2
        ++ [.start (.recoverAccount server "id" "phrase" false true)] ++ steps 1 1
        ++ [.step 1 (agrees (answered "2"))] ++ steps 1 6 ++ steps 0 4)
      (fun pool => pool.Quiescent ∧ ¬ pool.shared.1.store.session.Coherent pool.shared.2.bodies)
      (by decide)
    exact ⟨pool, hreach, htest⟩
  · obtain ⟨pool, hreach, htest⟩ := System.exists_reach_of_replay (authService false)
      (fun _ _ => True) (initial loggedIn [answered "0"])
      ([.start .refreshTokens] ++ steps 0 3 ++ [.start .logout] ++ steps 1 6
        ++ [.step 0 (agrees (answered "1"))] ++ steps 0 6)
      (fun pool => pool.Quiescent ∧ pool.shared.2.loggedOut = true
        ∧ pool.shared.1.store.accessToken ≠ none ∧ pool.shared.1.store.refreshToken ≠ none)
      (by decide)
    exact ⟨pool, hreach, htest⟩

end Wavis.Auth
