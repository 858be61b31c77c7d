import Wavis.Proof.SignalingSteps
import Mathlib.Data.List.Basic

/-! The handlers of a socket write the fields of the client whichever socket they belong to, and
nothing keeps a second retry from being scheduled. -/

namespace Wavis

open Concurrency

namespace SignalingClient

/-- Who has started the attempts in flight. -/
def starters (c : SignalingClient) : List Starter := c.attempts.map (·.starter)

/-- The chains of reconnect attempts, pending or in flight. A periodic retry is one chain with its
attempt. -/
def chains (c : SignalingClient) : Nat :=
  c.timeouts.length + c.starters.count .fastRetry
    + max (c.starters.count .periodicRetry) (if c.periodicRetryTimer.isSome then 1 else 0)

structure RetryState where
  reconnectTimer : Option Nat
  periodicRetryTimer : Option String
  reconnectAttempt : Nat
  reconnectExhausted : Bool
  intentionalDisconnect : Bool
  timeouts : List Timeout
  attempts : List Attempt
  deriving DecidableEq

def retryState (c : SignalingClient) : RetryState where
  reconnectTimer := c.reconnectTimer
  periodicRetryTimer := c.periodicRetryTimer
  reconnectAttempt := c.reconnectAttempt
  reconnectExhausted := c.reconnectExhausted
  intentionalDisconnect := c.intentionalDisconnect
  timeouts := c.timeouts
  attempts := c.attempts

/-- A retry that is scheduled now is the only one: an interval is pending at most when it is the
interval that is started anew. -/
def RetriesAlone (c : SignalingClient) : Prop :=
  c.intentionalDisconnect = true
    ∨ c.timeouts = [] ∧ (∀ attempt ∈ c.attempts, attempt.starter = .caller)
      ∧ (c.periodicRetryTimer = none ∨ maxReconnectAttempt ≤ c.reconnectAttempt)

instance (c : SignalingClient) : Decidable c.RetriesAlone := by
  unfold RetriesAlone
  infer_instance

/-- A socket is opened after the earlier ones have ended, a token is swapped while there is no
socket, and a retry is scheduled, or made by the interval, while no other one is under way. -/
def OneAtATime (c : SignalingClient) : ClientEvent → Prop
  | .connect _ => ∀ socket ∈ c.sockets, socket.readyState = .closed
  | .ticketFetched _ (some _) => ∀ socket ∈ c.sockets, socket.readyState = .closed
  | .reconnectWithNewToken _ => c.ws = none
  | .tokensRefreshed i false => (c.endAttempt i).RetriesAlone
  | .ticketFetched i none => (c.endAttempt i).RetriesAlone
  | .closed _ _ => c.RetriesAlone
  | .interval => c.status = .connected ∨ c.intentionalDisconnect = true
      ∨ ∀ attempt ∈ c.attempts, attempt.starter ≠ .periodicRetry
  | _ => True

instance decidableOneAtATime (c : SignalingClient) (e : ClientEvent) :
    Decidable (c.OneAtATime e) := by
  refine e.casesOn ?_ ?_ ?_ ?_ ?_ (fun i success => success.casesOn ?_ ?_)
    (fun i ticket => ticket.casesOn ?_ ?_) ?_ ?_ ?_ ?_ <;>
    intros <;> dsimp only [OneAtATime] <;> infer_instance

variable {c c' : SignalingClient} {e : ClientEvent} {i j : Nat} {url : String} {state : ReadyState}

/-- The socket has been opened and its end is still to come. -/
def Unfinished (c : SignalingClient) (i : Nat) : Prop :=
  ∃ state, c.readyState i = some state ∧ state ≠ .closed

/-- At most one socket has not ended. It is the current one, unless the client has closed it and is
at rest. -/
structure Single (c : SignalingClient) : Prop where
  unique : ∀ i j, c.Unfinished i → c.Unfinished j → i = j
  current : ∀ i, c.Unfinished i → c.ws = some i
    ∨ c.readyState i = some .closing ∧ c.ws = none ∧ c.status = .disconnected
      ∧ c.intentionalDisconnect = true

theorem close_eq_closing (h : state.close ≠ .closed) : state.close = .closing := by
  cases state with
  | closed => exact absurd rfl h
  | connecting | «open» | closing => rfl

theorem closing_of_map_close (h : (c.readyState i).map ReadyState.close = some state)
    (hstate : state ≠ .closed) : c.Unfinished i ∧ state = .closing := by
  obtain ⟨before, hbefore, rfl⟩ := Option.map_eq_some_iff.mp h
  refine ⟨⟨before, hbefore, ?_⟩, close_eq_closing hstate⟩
  rintro rfl
  exact hstate rfl

namespace Single

theorem congr (h : c.Single) (hsockets : c'.sockets = c.sockets) (hws : c'.ws = c.ws)
    (hstatus : c.ws = none → c.status = .disconnected → c'.status = .disconnected)
    (hintentional : c.intentionalDisconnect = true → c'.intentionalDisconnect = true) :
    c'.Single := by
  have hstates : ∀ i, c'.readyState i = c.readyState i := fun i => by
    rw [readyState, readyState, hsockets]
  have hunfinished : ∀ i, c'.Unfinished i → c.Unfinished i := by
    rintro i ⟨state, hstate, hne⟩
    exact ⟨state, hstates i ▸ hstate, hne⟩
  refine ⟨fun i j hi hj => h.unique i j (hunfinished i hi) (hunfinished j hj), fun i hi => ?_⟩
  rcases h.current i (hunfinished i hi) with hcurrent | ⟨hclosing, hnone, hstat, hint⟩
  · exact .inl (hws.trans hcurrent)
  · exact .inr ⟨(hstates i).trans hclosing, hws.trans hnone, hstatus hnone hstat, hintentional hint⟩

theorem of_finished (h : ∀ i, ¬ c.Unfinished i) : c.Single where
  unique i _ hi _ := absurd hi (h i)
  current i hi := absurd hi (h i)

theorem openSocket (hended : ∀ socket ∈ c.sockets, socket.readyState = .closed)
    (ticket : Option String) : (c.openSocket url ticket).Single := by
  have hlast : ∀ i, (c.openSocket url ticket).Unfinished i → i = c.sockets.length := by
    rintro i ⟨state, hstate, hne⟩
    rw [readyState_openSocket] at hstate
    split_ifs at hstate with hi
    · exact hi
    · have hold : c.Unfinished i := by
        rw [readyState_disconnect] at hstate
        split_ifs at hstate with hws
        · exact (closing_of_map_close hstate hne).1
        · exact ⟨state, hstate, hne⟩
      obtain ⟨before, hbefore, hopen⟩ := hold
      obtain ⟨socket, hsocket, rfl⟩ := Option.map_eq_some_iff.mp hbefore
      exact absurd (hended socket (List.mem_of_getElem? hsocket)) hopen
  refine ⟨fun i j hi hj => (hlast i hi).trans (hlast j hj).symm, fun i hi => .inl ?_⟩
  rw [ws_openSocket, hlast i hi]

section

variable (h : c.Single)
include h

theorem disconnect : c.disconnect.Single := by
  have hclosing : ∀ i, c.disconnect.Unfinished i →
      c.Unfinished i ∧ c.disconnect.readyState i = some .closing := by
    rintro i ⟨state, hstate, hne⟩
    have hafter := hstate
    rw [readyState_disconnect] at hstate
    split_ifs at hstate with hws
    · obtain ⟨hbefore, rfl⟩ := closing_of_map_close hstate hne
      exact ⟨hbefore, hafter⟩
    · have hbefore : c.Unfinished i := ⟨state, hstate, hne⟩
      rcases h.current i hbefore with hcurrent | ⟨hclosed, _⟩
      · exact absurd hcurrent hws
      · rw [hstate] at hclosed
        exact ⟨hbefore, hafter.trans hclosed⟩
  exact ⟨fun i j hi hj => h.unique i j (hclosing i hi).1 (hclosing j hj).1,
    fun i hi => .inr ⟨(hclosing i hi).2, rfl, rfl, rfl⟩⟩

theorem ws_of_connecting (hstate : c.readyState i = some .connecting) : c.ws = some i := by
  rcases h.current i ⟨_, hstate, by simp⟩ with hcurrent | ⟨hclosing, _⟩
  · exact hcurrent
  · rw [hstate] at hclosing
    cases hclosing

theorem opened {socket : Socket} (hsocket : c.sockets[i]? = some socket)
    (hconnecting : socket.readyState = .connecting) : (c.setReadyState i .open).onopen.Single := by
  have hstate : c.readyState i = some .connecting := by
    rw [readyState_of_getElem? hsocket, hconnecting]
  have hcurrent := h.ws_of_connecting hstate
  have honly : ∀ j, (c.setReadyState i .open).onopen.Unfinished j → j = i := by
    rintro j ⟨state, hafter, hne⟩
    by_contra hij
    have hbefore : c.readyState j = some state := by
      rw [← hafter]
      refine ((readyState_setReadyState (c := c) (j := j) .open).trans ?_).symm
      exact if_neg (Ne.symm hij)
    exact hij (h.unique j i ⟨state, hbefore, hne⟩ ⟨_, hstate, by simp⟩)
  refine ⟨fun j k hj hk => (honly j hj).trans (honly k hk).symm, fun j hj => .inl ?_⟩
  rw [honly j hj]
  exact hcurrent

theorem finished {socket : Socket} {failed : Bool} {sockets : List Socket}
    (hsocket : c.sockets[i]? = some socket) (hopen : socket.readyState ≠ .closed)
    (hstates : ∀ j : Nat, sockets[j]?.map (·.readyState) = if i = j then some .closed
      else if failed ∧ c.ws = some j then (c.readyState j).map ReadyState.close
      else c.readyState j) (j : Nat) (hstate : sockets[j]?.map (·.readyState) = some state) :
    state = .closed := by
  by_contra hne
  rw [hstates] at hstate
  have hi : c.Unfinished i := ⟨_, readyState_of_getElem? hsocket, hopen⟩
  split_ifs at hstate with hij hws
  · cases hstate
    exact hne rfl
  · exact hij (h.unique i j hi (closing_of_map_close hstate hne).1)
  · exact hij (h.unique i j hi ⟨state, hstate, hne⟩)

/-- **One socket at a time.** -/
theorem step (hcond : c.OneAtATime e) (hstep : Step c e c') : c'.Single := by
  cases hstep with
  | connect url => exact (openSocket hcond none).congr rfl rfl (fun _ h => h) (fun h => h)
  | connectWithAuth wsUrl => exact h.congr rfl rfl (fun _ h => h) (fun h => h)
  | reconnectWithNewToken wsUrl =>
    have hws : c.ws = none := hcond
    refine h.congr ?_ hws.symm (fun _ h => h) (fun _ => rfl)
    simp [reconnectWithNewToken, called, SignalingClient.connectWithAuth, closeSocket,
      stopPeriodicRetry, clearReconnectTimer, hws]
  | disconnect => exact h.disconnect.congr rfl rfl (fun _ h => h) (fun h => h)
  | tokenExpired expired awaiting hattempt =>
    exact h.congr rfl rfl (fun _ h => h) (fun h => h)
  | tokensRefreshed hattempt => exact h.congr rfl rfl (fun _ h => h) (fun h => h)
  | refreshFailed hattempt | ticketFailed hattempt =>
    refine h.congr ?_ ?_ ?_ ?_
    all_goals simp [connectFailed, setStatus, endAttempt]
  | ticketFetched ticket hattempt => exact openSocket (c := c.endAttempt _) hcond (some ticket)
  | timeout hmem | intervalStopped hpending hstop
  | interval hpending hretry => exact h.congr rfl rfl (fun _ h => h) (fun h => h)
  | opened hsocket hconnecting => exact h.opened hsocket hconnecting
  | closed failed hsocket hopen hlength hstates =>
    refine of_finished ?_
    rintro j ⟨state, hstate, hne⟩
    rw [readyState_retry] at hstate
    exact hne (h.finished hsocket hopen hstates j hstate)

theorem stale (hstale : c.ws ≠ some i)
    (hnext : c.next (.opened i) = some c' ∨ ∃ failed, c.next (.closed i failed) = some c') :
    c'.status = c.status ∧ c'.ws = c.ws ∧ c'.retryState = c.retryState := by
  rcases hnext with hnext | ⟨failed, hnext⟩
  · cases next_step hnext with
    | opened hsocket hconnecting =>
      have hstate := readyState_of_getElem? hsocket
      rw [hconnecting] at hstate
      exact absurd (h.ws_of_connecting hstate) hstale
  · cases next_step hnext with
    | closed failed hsocket hopen hlength hstates =>
      rcases h.current i ⟨_, readyState_of_getElem? hsocket, hopen⟩ with
        hcurrent | ⟨_, hws, hstatus, hintentional⟩
      · exact absurd hcurrent hstale
      · rw [retry_of_intentional]
        · exact ⟨hstatus.symm, hws.symm, rfl⟩
        · exact hintentional

end

end Single

theorem chains_called (call : LastCall) : (c.called call).chains = c.chains := rfl

theorem starters_await (awaiting : Awaiting) : (c.await i awaiting).starters = c.starters := by
  refine List.ext_getElem? fun j => ?_
  simp only [starters, await, List.getElem?_map, List.getElem?_modify]
  split_ifs
  · cases c.attempts[j]? <;> rfl
  · cases c.attempts[j]? <;> rfl

theorem chains_le (htimeouts : c'.timeouts.length ≤ c.timeouts.length)
    (hstarters : c'.starters.Sublist c.starters)
    (hperiodic : c'.periodicRetryTimer.isSome → c.periodicRetryTimer.isSome) :
    c'.chains ≤ c.chains := by
  have hfast := hstarters.count_le .fastRetry
  have hslow := hstarters.count_le .periodicRetry
  have hpending : (if c'.periodicRetryTimer.isSome then 1 else 0)
      ≤ if c.periodicRetryTimer.isSome then 1 else 0 := by
    split_ifs with h₁ h₂
    · exact Nat.le_refl 1
    · exact absurd (hperiodic h₁) h₂
    · exact Nat.zero_le 1
    · exact Nat.le_refl 0
  unfold chains
  omega

theorem chains_disconnect_le : c.disconnect.chains ≤ c.chains :=
  chains_le (List.length_filter_le ..) (List.Sublist.refl _) nofun

theorem chains_openSocket_le (ticket : Option String) :
    (c.openSocket url ticket).chains ≤ c.chains := by
  unfold openSocket
  split_ifs
  · exact chains_disconnect_le (c := c)
  · exact Nat.le_refl _

theorem chains_endAttempt_le : (c.endAttempt i).chains ≤ c.chains :=
  chains_le (Nat.le_refl _) ((List.eraseIdx_sublist c.attempts i).map _) (fun h => h)

theorem chains_retry_le (hchains : c.chains ≤ 1) (halone : c.RetriesAlone) :
    (c.retryUnlessIntentional url).chains ≤ 1 := by
  rcases halone with hintentional | ⟨htimeouts, hcallers, hperiodic⟩
  · rw [retry_of_intentional _ _ hintentional]
    exact hchains
  · have hcount : ∀ starter, starter ≠ .caller → c.starters.count starter = 0 := by
      intro starter hne
      refine List.count_eq_zero.mpr fun hmem => ?_
      obtain ⟨attempt, hattempt, rfl⟩ := List.mem_map.mp hmem
      exact hne (hcallers attempt hattempt)
    have hfast := hcount .fastRetry (by simp)
    have hslow := hcount .periodicRetry (by simp)
    unfold retryUnlessIntentional scheduleReconnect
    split_ifs with hint hmax
    · exact hchains
    · change c.timeouts.length + c.starters.count .fastRetry
        + max (c.starters.count .periodicRetry) 1 ≤ 1
      rw [htimeouts, hfast, hslow]
      exact Nat.le_refl 1
    · have hnone : c.periodicRetryTimer = none := hperiodic.resolve_right hmax
      change (c.timeouts ++ [_]).length + c.starters.count .fastRetry
        + max (c.starters.count .periodicRetry) (if c.periodicRetryTimer.isSome then 1 else 0) ≤ 1
      rw [htimeouts, hfast, hslow, hnone]
      exact Nat.le_refl 1

theorem count_connectWithAuth (starter other : Starter) :
    (c.connectWithAuth url starter).starters.count other
      = c.starters.count other + if starter = other then 1 else 0 := by
  simp [starters, connectWithAuth, List.count_singleton]

theorem chains_connectWithAuth_caller : (c.connectWithAuth url .caller).chains = c.chains := by
  simp only [chains, count_connectWithAuth]
  rfl

theorem chains_await (awaiting : Awaiting) : (c.await i awaiting).chains = c.chains := by
  simp only [chains, starters_await]
  rfl

theorem chains_stopPeriodicRetry_le : c.stopPeriodicRetry.chains ≤ c.chains :=
  chains_le (Nat.le_refl _) (List.Sublist.refl _) nofun

theorem chains_clearReconnectTimer_le : c.clearReconnectTimer.chains ≤ c.chains :=
  chains_le (List.length_filter_le ..) (List.Sublist.refl _) (fun h => h)

theorem chains_reconnectWithNewToken_le : (c.reconnectWithNewToken url).chains ≤ c.chains := by
  refine Nat.le_trans (Nat.le_of_eq chains_connectWithAuth_caller) ?_
  exact Nat.le_trans (chains_stopPeriodicRetry_le (c := c.clearReconnectTimer))
    chains_clearReconnectTimer_le

theorem chains_timeout_le {timeout : Timeout} (hmem : timeout ∈ c.timeouts) :
    ({ c with
      timeouts := c.timeouts.filter fun other => other.id ≠ timeout.id
      reconnectTimer := none }.connectWithAuth timeout.wsUrl .fastRetry).chains ≤ c.chains := by
  have hfewer : (c.timeouts.filter fun other => other.id ≠ timeout.id).length
      < c.timeouts.length :=
    List.length_filter_lt_length_iff_exists.mpr ⟨timeout, hmem, by simp⟩
  simp only [chains, count_connectWithAuth]
  change (c.timeouts.filter fun other => other.id ≠ timeout.id).length
    + (c.starters.count .fastRetry + 1)
    + max (c.starters.count .periodicRetry) (if c.periodicRetryTimer.isSome then 1 else 0) ≤ _
  omega

theorem chains_interval (hpending : c.periodicRetryTimer = some url)
    (hnone : ∀ attempt ∈ c.attempts, attempt.starter ≠ .periodicRetry) :
    ({ c with reconnectAttempt := 0 }.connectWithAuth url .periodicRetry).chains = c.chains := by
  have hcount : c.starters.count .periodicRetry = 0 := by
    refine List.count_eq_zero.mpr fun hmem => ?_
    obtain ⟨attempt, hattempt, hstarter⟩ := List.mem_map.mp hmem
    exact hnone attempt hattempt hstarter
  simp only [chains, count_connectWithAuth]
  change c.timeouts.length + c.starters.count .fastRetry
    + max (c.starters.count .periodicRetry + 1)
      (if c.periodicRetryTimer.isSome then 1 else 0) = _
  rw [hcount, hpending]
  rfl

/-- **One chain at a time.** -/
theorem chains_step (h : c.chains ≤ 1) (hcond : c.OneAtATime e) (hstep : Step c e c') :
    c'.chains ≤ 1 := by
  cases hstep with
  | connect url =>
    rw [chains_called]
    exact Nat.le_trans (chains_openSocket_le none) h
  | connectWithAuth wsUrl =>
    rw [chains_called, chains_connectWithAuth_caller]
    exact h
  | reconnectWithNewToken wsUrl =>
    rw [chains_called]
    exact Nat.le_trans chains_reconnectWithNewToken_le h
  | disconnect =>
    rw [chains_called]
    exact Nat.le_trans chains_disconnect_le h
  | tokenExpired expired awaiting hattempt | tokensRefreshed hattempt =>
    rw [chains_await]
    exact h
  | refreshFailed hattempt | ticketFailed hattempt =>
    refine chains_retry_le ?_ hcond
    change (c.endAttempt _).chains ≤ _
    exact Nat.le_trans chains_endAttempt_le h
  | ticketFetched ticket hattempt =>
    exact Nat.le_trans (chains_openSocket_le _) (Nat.le_trans chains_endAttempt_le h)
  | timeout hmem => exact Nat.le_trans (chains_timeout_le hmem) h
  | intervalStopped hpending hstop => exact Nat.le_trans chains_stopPeriodicRetry_le h
  | interval hpending hretry =>
    have hnone := (hcond.resolve_left fun hconnected => hretry (.inl hconnected)).resolve_left
      fun hintentional => hretry (.inr hintentional)
    rw [chains_interval hpending hnone]
    exact h
  | opened hsocket hconnecting => exact Nat.le_trans (chains_stopPeriodicRetry_le (c := c)) h
  | @closed i socket failed sockets hsocket hopen hlength hstates =>
    have halone : c.RetriesAlone := hcond
    exact chains_retry_le (c := { c with sockets, ws := none }.setStatus .disconnected) h halone

/-- **Only the current socket counts.** At most one socket is alive, the events of any other than
the current one change neither the status nor the reference nor what decides about later attempts,
and there is at most one chain of attempts. -/
theorem one_at_a_time (hreach : signalingClient.Reach OneAtATime initial c) :
    (∀ (i j : Nat) (s t : Socket), c.sockets[i]? = some s → c.sockets[j]? = some t →
        s.alive → t.alive → i = j)
      ∧ (∀ i c', c.ws ≠ some i →
          c.next (.opened i) = some c' ∨ (∃ failed, c.next (.closed i failed) = some c') →
          c'.status = c.status ∧ c'.ws = c.ws ∧ c'.retryState = c.retryState)
      ∧ c.chains ≤ 1 := by
  obtain ⟨hsingle, hchains⟩ : c.Single ∧ c.chains ≤ 1 := by
    refine hreach.invariant (I := fun c => c.Single ∧ c.chains ≤ 1) ?_ ?_
    · refine ⟨.of_finished ?_, by decide⟩
      rintro i ⟨state, hstate, -⟩
      simp [readyState, initial] at hstate
    · intro c e c' h hcond hnext
      exact ⟨h.1.step hcond (next_step hnext), chains_step h.2 hcond (next_step hnext)⟩
  refine ⟨?_, fun i c' hstale hnext => hsingle.stale hstale hnext, hchains⟩
  intro i j s t hs ht halive halive'
  refine hsingle.unique i j ⟨_, readyState_of_getElem? hs, ?_⟩ ⟨_, readyState_of_getElem? ht, ?_⟩
  · intro hclosed
    simp [Socket.alive, hclosed] at halive
  · intro hclosed
    simp [Socket.alive, hclosed] at halive'

/-- A connection is lost, the retry opens the next socket, and a disconnect closes it: its end is
still to come and then changes nothing. -/
theorem one_at_a_time_retry : ∃ c c' : SignalingClient, c.sockets.length = 2 ∧ c.ws = none
    ∧ c.next (.closed 1 false) = some c' ∧ c'.status = c.status ∧ c'.ws = c.ws
    ∧ c'.retryState = c.retryState := by
  obtain ⟨c, hreach, hlength, hws, hends⟩ :=
    Machine.exists_reach_of_replay signalingClient OneAtATime initial
    (connects 0 ++ [.closed 0 true, .timeout 0, .tokenExpired 0 false, .ticketFetched 0 (some "u"),
      .opened 1, .disconnect])
    (fun c => c.sockets.length = 2 ∧ c.ws = none ∧ (c.next (.closed 1 false)).isSome) (by decide)
  obtain ⟨c', hnext⟩ := Option.isSome_iff_exists.mp hends
  exact ⟨c, c', hlength, hws, hnext, (one_at_a_time hreach).2.1 1 c' (by simp [hws])
    (.inr ⟨false, hnext⟩)⟩

/-- The second connect of a caller replaces the socket of the first, whose end then drops the
reference to the new one; the retry opens a third next to it. Two attempts that fail leave two
timeouts. -/
theorem not_one_at_a_time :
    (∃ c, signalingClient.Reach (fun _ _ => True) initial c ∧ c.ws = some 1 ∧
        ∃ c', c.next (.closed 0 false) = some c' ∧ c'.ws = none ∧ c'.status ≠ c.status
          ∧ c'.retryState ≠ c.retryState)
      ∧ (∃ c s t, signalingClient.Reach (fun _ _ => True) initial c
          ∧ c.sockets[1]? = some s ∧ c.sockets[2]? = some t ∧ s.alive ∧ t.alive)
      ∧ ∃ c, signalingClient.Reach (fun _ _ => True) initial c ∧ c.chains = 2 := by
  refine ⟨?_, ?_, ?_⟩
  · obtain ⟨c, hreach, hws, c', hnext, htest⟩ := Machine.exists_reach_of_replay signalingClient
      (fun _ _ => True) initial (connects 0 ++ connects 1)
      (fun c => c.ws = some 1 ∧ ∃ c' ∈ c.next (.closed 0 false),
        c'.ws = none ∧ c'.status ≠ c.status ∧ c'.retryState ≠ c.retryState) (by decide)
    exact ⟨c, hreach, hws, c', hnext, htest⟩
  · obtain ⟨c, hreach, ⟨s, hs, halive⟩, t, ht, halive'⟩ :=
      Machine.exists_reach_of_replay signalingClient (fun _ _ => True) initial
      (connects 0 ++ connects 1 ++ [.closed 0 false, .timeout 0, .tokenExpired 0 false,
        .ticketFetched 0 (some "v")])
      (fun c => (∃ s ∈ c.sockets[1]?, s.alive) ∧ ∃ t ∈ c.sockets[2]?, t.alive) (by decide)
    exact ⟨c, s, t, hreach, hs, ht, halive, halive'⟩
  · obtain ⟨c, hreach, htest⟩ := Machine.exists_reach_of_replay signalingClient
      (fun _ _ => True) initial
      [.connectWithAuth "wss", .connectWithAuth "wss", .tokenExpired 0 true, .tokenExpired 1 true,
        .tokensRefreshed 1 false, .tokensRefreshed 0 false]
      (fun c => c.chains = 2) (by decide)
    exact ⟨c, hreach, htest⟩

end SignalingClient

end Wavis
