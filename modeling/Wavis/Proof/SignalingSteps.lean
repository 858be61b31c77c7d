import Wavis.Client.SignalingClient

/-! The relation below lists the effects of the events once. The states of the sockets are followed
by their numbers, since a socket that the client has lost track of still runs its handlers. -/

namespace Wavis

open Concurrency

namespace SignalingClient

section

variable {c : SignalingClient} {i j : Nat} {url : String} {socket : Socket} (ticket : Option String)

def readyState (c : SignalingClient) (i : Nat) : Option ReadyState :=
  c.sockets[i]?.map (·.readyState)

theorem readyState_of_getElem? (h : c.sockets[i]? = some socket) :
    c.readyState i = some socket.readyState := by
  simp [readyState, h]

theorem readyState_setReadyState (state : ReadyState) :
    (c.setReadyState i state).readyState j
      = if i = j then (c.readyState j).map fun _ => state else c.readyState j := by
  simp only [readyState, setReadyState, List.getElem?_modify]
  split_ifs with h
  · cases c.sockets[j]? <;> rfl
  · cases c.sockets[j]? <;> rfl

theorem readyState_closeSocket :
    c.closeSocket.readyState j
      = if c.ws = some j then (c.readyState j).map ReadyState.close else c.readyState j := by
  cases hws : c.ws with
  | none => simp [readyState, closeSocket, hws]
  | some i =>
    simp only [readyState, closeSocket, hws, List.getElem?_modify, Option.some.injEq]
    split_ifs with h
    · cases c.sockets[j]? <;> rfl
    · cases c.sockets[j]? <;> rfl

theorem readyState_disconnect :
    c.disconnect.readyState j
      = if c.ws = some j then (c.readyState j).map ReadyState.close else c.readyState j :=
  readyState_closeSocket (c := c)

theorem length_closeSocket : c.closeSocket.sockets.length = c.sockets.length := by
  cases hws : c.ws with
  | none | some i => simp [closeSocket, hws]

theorem length_disconnect : c.disconnect.sockets.length = c.sockets.length :=
  length_closeSocket (c := c)

theorem sockets_openSocket :
    (c.openSocket url ticket).sockets
      = c.disconnect.sockets ++ [⟨url, ticket, .connecting⟩] := by
  cases hws : c.ws with
  | none => simp [openSocket, disconnect, closeSocket, setStatus, stopPeriodicRetry,
      clearReconnectTimer, hws]
  | some i => simp [openSocket, setStatus, hws]

theorem ws_openSocket : (c.openSocket url ticket).ws = some c.sockets.length := by
  cases hws : c.ws with
  | none => simp [openSocket, setStatus, hws]
  | some i => simp [openSocket, setStatus, hws, length_disconnect]

theorem readyState_openSocket :
    (c.openSocket url ticket).readyState j
      = if j = c.sockets.length then some .connecting else c.disconnect.readyState j := by
  rw [readyState, sockets_openSocket, readyState, ← length_disconnect]
  split_ifs with h
  · rw [h, List.getElem?_concat_length]
    rfl
  · rcases Nat.lt_or_gt_of_ne h with hlt | hgt
    · rw [List.getElem?_append_left hlt]
    · rw [List.getElem?_eq_none (by rw [List.length_append]; exact hgt),
        List.getElem?_eq_none (Nat.le_of_lt hgt)]

theorem readyState_ended (h : c.sockets[i]? = some socket) :
    (c.setReadyState i .closed).readyState j = if i = j then some .closed else c.readyState j := by
  rw [readyState_setReadyState]
  split_ifs with hij
  · subst hij
    rw [readyState_of_getElem? h]
    rfl
  · rfl

theorem readyState_failed (h : c.sockets[i]? = some socket) :
    (c.setReadyState i .closed).closeSocket.readyState j = if i = j then some .closed
      else if c.ws = some j then (c.readyState j).map ReadyState.close else c.readyState j := by
  have hws : (c.setReadyState i .closed).ws = c.ws := rfl
  rw [readyState_closeSocket, readyState_ended h, hws]
  split_ifs <;> rfl

end

inductive Step (c : SignalingClient) : ClientEvent → SignalingClient → Prop
  | connect (url : String) : Step c (.connect url) ((c.openSocket url none).called .connect)
  | connectWithAuth (wsUrl : String) :
      Step c (.connectWithAuth wsUrl) ((c.connectWithAuth wsUrl .caller).called .connect)
  | reconnectWithNewToken (wsUrl : String) :
      Step c (.reconnectWithNewToken wsUrl) ((c.reconnectWithNewToken wsUrl).called .connect)
  | disconnect : Step c .disconnect (c.disconnect.called .disconnect)
  | tokenExpired {i : Nat} {attempt : Attempt} (expired : Bool) (awaiting : Awaiting)
      (hattempt : c.attempts[i]? = some attempt) :
      Step c (.tokenExpired i expired) (c.await i awaiting)
  | tokensRefreshed {i : Nat} {attempt : Attempt} (hattempt : c.attempts[i]? = some attempt) :
      Step c (.tokensRefreshed i true) (c.await i .fetchWsTicket)
  | refreshFailed {i : Nat} {attempt : Attempt} (hattempt : c.attempts[i]? = some attempt) :
      Step c (.tokensRefreshed i false) ((c.endAttempt i).connectFailed attempt.wsUrl)
  | ticketFetched {i : Nat} {attempt : Attempt} (ticket : String)
      (hattempt : c.attempts[i]? = some attempt) :
      Step c (.ticketFetched i (some ticket))
        ((c.endAttempt i).openSocket attempt.wsUrl (some ticket))
  | ticketFailed {i : Nat} {attempt : Attempt} (hattempt : c.attempts[i]? = some attempt) :
      Step c (.ticketFetched i none) ((c.endAttempt i).connectFailed attempt.wsUrl)
  | timeout {timeout : Timeout} (hmem : timeout ∈ c.timeouts) :
      Step c (.timeout timeout.id)
        ({ c with
          timeouts := c.timeouts.filter fun other => other.id ≠ timeout.id
          reconnectTimer := none }.connectWithAuth timeout.wsUrl .fastRetry)
  | intervalStopped {url : String} (hpending : c.periodicRetryTimer = some url)
      (hstop : c.status = .connected ∨ c.intentionalDisconnect = true) :
      Step c .interval c.stopPeriodicRetry
  | interval {url : String} (hpending : c.periodicRetryTimer = some url)
      (hretry : ¬ (c.status = .connected ∨ c.intentionalDisconnect = true)) :
      Step c .interval ({ c with reconnectAttempt := 0 }.connectWithAuth url .periodicRetry)
  | opened {i : Nat} {socket : Socket} (hsocket : c.sockets[i]? = some socket)
      (hconnecting : socket.readyState = .connecting) :
      Step c (.opened i) (c.setReadyState i .open).onopen
  /-- The error of a socket closes the current one. -/
  | closed {i : Nat} {socket : Socket} (failed : Bool) {sockets : List Socket}
      (hsocket : c.sockets[i]? = some socket) (hopen : socket.readyState ≠ .closed)
      (hlength : sockets.length = c.sockets.length)
      (hstates : ∀ j, sockets[j]?.map (·.readyState) = if i = j then some .closed
        else if failed ∧ c.ws = some j then (c.readyState j).map ReadyState.close
        else c.readyState j) :
      Step c (.closed i failed)
        (({ c with sockets, ws := none }.setStatus .disconnected).retryUnlessIntentional
          socket.wsUrl)

/-- **What an event does.** -/
theorem next_step {c c' : SignalingClient} {e : ClientEvent} (h : c.next e = some c') :
    Step c e c' := by
  cases e with
  | connect url =>
    cases h
    exact .connect url
  | connectWithAuth wsUrl =>
    cases h
    exact .connectWithAuth wsUrl
  | reconnectWithNewToken wsUrl =>
    cases h
    exact .reconnectWithNewToken wsUrl
  | disconnect =>
    cases h
    exact .disconnect
  | tokenExpired i expired =>
    simp only [next] at h
    split at h
    · rename_i hattempt
      cases h
      exact .tokenExpired expired _ hattempt
    · cases h
  | tokensRefreshed i success =>
    simp only [next] at h
    split at h
    · rename_i hattempt
      cases success with
      | true =>
        cases h
        exact .tokensRefreshed hattempt
      | false =>
        cases h
        exact .refreshFailed hattempt
    · cases h
  | ticketFetched i ticket =>
    simp only [next] at h
    split at h
    · rename_i ticket hattempt
      cases h
      exact .ticketFetched ticket hattempt
    · rename_i hattempt
      cases h
      exact .ticketFailed hattempt
    · cases h
  | timeout id =>
    simp only [next] at h
    split at h
    · rename_i timeout hfind
      cases h
      obtain rfl : timeout.id = id := by simpa using List.find?_some hfind
      exact .timeout (List.mem_of_find?_eq_some hfind)
    · cases h
  | interval =>
    obtain ⟨url, hpending, rfl⟩ := Option.map_eq_some_iff.mp h
    by_cases hstop : c.status = .connected ∨ c.intentionalDisconnect = true
    · rw [retryPeriodically, if_pos hstop]
      exact .intervalStopped hpending hstop
    · rw [retryPeriodically, if_neg hstop]
      exact .interval hpending hstop
  | opened i =>
    simp only [next] at h
    split at h
    · rename_i hsocket
      cases h
      exact .opened hsocket rfl
    · cases h
  | closed i failed =>
    simp only [next] at h
    split at h
    · cases h
    · rename_i socket hopen hsocket
      cases h
      have hnot : socket.readyState ≠ .closed := by
        intro hclosed
        obtain ⟨wsUrl, ticket, readyState⟩ := socket
        cases hclosed
        exact hopen _ _ rfl
      cases failed with
      | false =>
        refine .closed false hsocket hnot (List.length_modify ..) fun j => ?_
        refine (readyState_ended (j := j) hsocket).trans ?_
        simp
      | true =>
        refine .closed true hsocket hnot ?_ fun j => ?_
        · exact length_closeSocket.trans (List.length_modify ..)
        · refine (readyState_failed (j := j) hsocket).trans ?_
          simp
    · cases h

section

variable (c : SignalingClient) (url : String)

@[simp] theorem ws_retry : (c.retryUnlessIntentional url).ws = c.ws := by
  unfold retryUnlessIntentional scheduleReconnect
  split_ifs <;> rfl

@[simp] theorem sockets_retry : (c.retryUnlessIntentional url).sockets = c.sockets := by
  unfold retryUnlessIntentional scheduleReconnect
  split_ifs <;> rfl

@[simp] theorem attempts_retry : (c.retryUnlessIntentional url).attempts = c.attempts := by
  unfold retryUnlessIntentional scheduleReconnect
  split_ifs <;> rfl

@[simp] theorem status_retry : (c.retryUnlessIntentional url).status = c.status := by
  unfold retryUnlessIntentional scheduleReconnect
  split_ifs <;> rfl

@[simp] theorem intentionalDisconnect_retry :
    (c.retryUnlessIntentional url).intentionalDisconnect = c.intentionalDisconnect := by
  unfold retryUnlessIntentional scheduleReconnect
  split_ifs <;> rfl

@[simp] theorem lastCall_retry : (c.retryUnlessIntentional url).lastCall = c.lastCall := by
  unfold retryUnlessIntentional scheduleReconnect
  split_ifs <;> rfl

@[simp] theorem readyState_retry (i : Nat) :
    (c.retryUnlessIntentional url).readyState i = c.readyState i := by
  simp [readyState]

theorem retry_of_intentional (h : c.intentionalDisconnect = true) :
    c.retryUnlessIntentional url = c := if_pos h

theorem retry_of_not_intentional (h : c.intentionalDisconnect = false) :
    c.retryUnlessIntentional url = c.scheduleReconnect url := if_neg (by simp [h])

end

@[simp] theorem lastCall_openSocket (c : SignalingClient) (url : String) (ticket : Option String) :
    (c.openSocket url ticket).lastCall = c.lastCall := by
  unfold openSocket
  split_ifs <;> rfl

/-- A caller connects, and the socket opens. -/
def connects (socket : Nat) : List ClientEvent :=
  [.connectWithAuth "wss", .tokenExpired 0 false, .ticketFetched 0 (some "t"), .opened socket]

end SignalingClient

end Wavis
