import Wavis.Proof.SignalingSteps

namespace Wavis

open Concurrency

/-- The event ends a connection, or an attempt to make one. -/
def ClientEvent.fails : ClientEvent → Bool
  | .tokensRefreshed _ false => true
  | .ticketFetched _ none => true
  | .closed _ _ => true
  | _ => false

namespace SignalingClient

/-- The last attempt does not fail during a token swap or after a disconnect that the caller has
taken back, and no disconnect finds the fast retries used up. -/
def Persists (c : SignalingClient) : ClientEvent → Prop
  | .tokensRefreshed _ false => c.lastCall = some .connect → c.intentionalDisconnect = true →
      2 ≤ c.attempts.length
  | .ticketFetched _ none => c.lastCall = some .connect → c.intentionalDisconnect = true →
      2 ≤ c.attempts.length
  | .disconnect => c.reconnectExhausted = false
  | .connect _ => c.ws ≠ none → c.reconnectExhausted = false
  | .ticketFetched _ (some _) => c.ws ≠ none → c.reconnectExhausted = false
  | _ => True

instance (c : SignalingClient) (e : ClientEvent) : Decidable (c.Persists e) := by
  cases e with
  | tokensRefreshed i refreshed => cases refreshed <;> dsimp only [Persists] <;> infer_instance
  | ticketFetched i ticket => cases ticket <;> dsimp only [Persists] <;> infer_instance
  | _ => dsimp only [Persists] <;> infer_instance

variable {c c' : SignalingClient} {e : ClientEvent} {i : Nat} {url : String}
  (ticket : Option String)

def LeadsOn (c : SignalingClient) : Prop :=
  (∃ socket ∈ c.sockets, socket.alive) ∨ c.timeouts ≠ [] ∨ c.periodicRetryTimer ≠ none

theorem leadsOn_of_readyState {state : ReadyState} (h : c.readyState i = some state)
    (halive : state = .connecting ∨ state = .open) : c.LeadsOn := by
  obtain ⟨socket, hsocket, rfl⟩ := Option.map_eq_some_iff.mp h
  refine .inl ⟨socket, List.mem_of_getElem? hsocket, ?_⟩
  simpa [Socket.alive] using halive

theorem leadsOn_openSocket : (c.openSocket url ticket).LeadsOn := by
  have hstate : (c.openSocket url ticket).readyState c.sockets.length = some .connecting := by
    rw [readyState_openSocket, if_pos rfl]
  exact leadsOn_of_readyState hstate (.inl rfl)

theorem leadsOn_scheduleReconnect : (c.scheduleReconnect url).LeadsOn := by
  unfold scheduleReconnect
  split_ifs
  · exact .inr (.inr (by simp [startPeriodicRetry]))
  · exact .inr (.inl (by simp))

/-- The caller wants a connection, and something leads to it. -/
structure Going (c : SignalingClient) : Prop where
  leadsOn : c.lastCall = some .connect → c.attempts = [] → c.LeadsOn
  /-- Only an attempt takes back a disconnect. -/
  intentional : c.lastCall = some .connect → c.intentionalDisconnect = true → c.attempts ≠ []
  connected : c.status = .connected → c.intentionalDisconnect = true
    ∨ ∃ i, c.readyState i = some .open

namespace Going

theorem of_attempt (hattempts : c.attempts ≠ [])
    (hconnected : c.status = .connected → c.intentionalDisconnect = true
      ∨ ∃ i, c.readyState i = some .open) : c.Going :=
  ⟨fun _ hnone => absurd hnone hattempts, fun _ _ => hattempts, hconnected⟩

theorem openSocket : (c.openSocket url ticket).Going where
  leadsOn _ _ := leadsOn_openSocket ticket
  intentional _ h := by cases h
  connected h := by cases h

theorem retry (hstatus : c.status = .disconnected)
    (hattempts : c.lastCall = some .connect → c.intentionalDisconnect = true → c.attempts ≠ []) :
    (c.retryUnlessIntentional url).Going where
  leadsOn hlast hnone := by
    rw [lastCall_retry] at hlast
    rw [attempts_retry] at hnone
    cases hintentional : c.intentionalDisconnect with
    | true => exact absurd hnone (hattempts hlast hintentional)
    | false =>
      rw [retry_of_not_intentional _ _ hintentional]
      exact leadsOn_scheduleReconnect
  intentional hlast hintentional := by
    rw [lastCall_retry] at hlast
    rw [intentionalDisconnect_retry] at hintentional
    rw [attempts_retry]
    exact hattempts hlast hintentional
  connected hconnected := by
    rw [status_retry, hstatus] at hconnected
    cases hconnected

theorem endAttempt_ne_nil (h : 2 ≤ c.attempts.length) : (c.endAttempt i).attempts ≠ [] := by
  intro hnil
  have hlength := List.length_eraseIdx (l := c.attempts) (i := i)
  rw [show c.attempts.eraseIdx i = [] from hnil] at hlength
  split_ifs at hlength
  · simp only [List.length_nil] at hlength
    omega
  · simp only [List.length_nil] at hlength
    omega

theorem await_ne_nil {attempt : Attempt} (awaiting : Awaiting)
    (hattempt : c.attempts[i]? = some attempt) : (c.await i awaiting).attempts ≠ [] := by
  intro hnil
  have hlength : (c.await i awaiting).attempts.length = c.attempts.length :=
    List.length_modify ..
  rw [hnil] at hlength
  rw [List.length_eq_zero_iff.mp hlength.symm] at hattempt
  cases hattempt

theorem stopPeriodicRetry (h : c.Going)
    (hstop : c.status = .connected ∨ c.intentionalDisconnect = true) :
    c.stopPeriodicRetry.Going where
  leadsOn hlast hnone := by
    have hopen := h.connected
    rcases hstop with hconnected | hintentional
    · rcases hopen hconnected with hintentional | ⟨i, hopen⟩
      · exact absurd hnone (h.intentional hlast hintentional)
      · exact leadsOn_of_readyState (c := c.stopPeriodicRetry) hopen (.inr rfl)
    · exact absurd hnone (h.intentional hlast hintentional)
  intentional := h.intentional
  connected := h.connected

theorem opened (h : c.Going) {socket : Socket} (hsocket : c.sockets[i]? = some socket) :
    (c.setReadyState i .open).onopen.Going := by
  have hopen : (c.setReadyState i .open).readyState i = some .open := by
    rw [readyState_setReadyState, if_pos rfl, readyState_of_getElem? hsocket]
    rfl
  exact ⟨fun _ _ => leadsOn_of_readyState (c := (c.setReadyState i .open).onopen) hopen (.inr rfl),
    h.intentional, fun _ => .inr ⟨i, hopen⟩⟩

theorem step (h : c.Going) (hcond : c.Persists e) (hstep : Step c e c') : c'.Going := by
  cases hstep with
  | connect url =>
    exact ⟨fun _ _ => leadsOn_openSocket none, nofun, nofun⟩
  | connectWithAuth wsUrl => exact of_attempt (by simp [connectWithAuth, called]) h.connected
  | reconnectWithNewToken wsUrl =>
    refine of_attempt ?_ (fun _ => .inl rfl)
    simp [reconnectWithNewToken, connectWithAuth, called]
  | disconnect => exact ⟨nofun, nofun, nofun⟩
  | tokenExpired expired awaiting hattempt =>
    exact of_attempt (await_ne_nil awaiting hattempt) h.connected
  | tokensRefreshed hattempt => exact of_attempt (await_ne_nil _ hattempt) h.connected
  | refreshFailed hattempt | ticketFailed hattempt =>
    exact retry rfl fun hlast hintentional => endAttempt_ne_nil (hcond hlast hintentional)
  | ticketFetched ticket hattempt => exact openSocket (some ticket)
  | timeout hmem => exact of_attempt (by simp [connectWithAuth]) h.connected
  | intervalStopped hpending hstop => exact h.stopPeriodicRetry hstop
  | interval hpending hretry => exact of_attempt (by simp [connectWithAuth]) h.connected
  | opened hsocket hconnecting => exact h.opened hsocket
  | closed failed hsocket hopen hlength hstates => exact retry rfl h.intentional

end Going

/-- As long as the fast retries are not used up, the client counts the ones since a socket opened.
The interval runs only after that. -/
structure Counted (c : SignalingClient) : Prop where
  retries : c.reconnectExhausted = false → c.reconnectAttempt = c.retries ∧ c.retries ≤ 10
  periodic : c.periodicRetryTimer ≠ none → c.reconnectExhausted = true

namespace Counted

section

variable (h : c.Counted)
include h

theorem disconnect (hleft : c.reconnectExhausted = false) : c.disconnect.Counted where
  retries _ := h.retries hleft
  periodic hpending := absurd rfl hpending

theorem openSocket (hleft : c.ws ≠ none → c.reconnectExhausted = false) (ticket : Option String) :
    (c.openSocket url ticket).Counted := by
  unfold SignalingClient.openSocket
  split_ifs with hws
  · have hcounted := h.disconnect (hleft (Option.isSome_iff_ne_none.mp hws))
    exact ⟨hcounted.retries, hcounted.periodic⟩
  · exact ⟨h.retries, h.periodic⟩

theorem retry : (c.retryUnlessIntentional url).Counted := by
  unfold retryUnlessIntentional scheduleReconnect
  split_ifs with hintentional hmax
  · exact h
  · exact ⟨nofun, fun _ => rfl⟩
  · refine ⟨fun hleft => ?_, h.periodic⟩
    obtain ⟨hattempt, hle⟩ := h.retries hleft
    have hlt : c.reconnectAttempt < 10 := Nat.lt_of_not_le hmax
    exact ⟨congrArg (· + 1) hattempt, hattempt ▸ hlt⟩

theorem step (hcond : c.Persists e) (hstep : Step c e c') : c'.Counted := by
  cases hstep with
  | connect url =>
    have hopen : (c.openSocket url none).Counted := h.openSocket hcond none
    exact ⟨hopen.retries, hopen.periodic⟩
  | connectWithAuth wsUrl => exact ⟨h.retries, h.periodic⟩
  | reconnectWithNewToken wsUrl => exact ⟨h.retries, fun hpending => absurd rfl hpending⟩
  | disconnect =>
    have hdisconnect := h.disconnect hcond
    exact ⟨hdisconnect.retries, hdisconnect.periodic⟩
  | tokenExpired expired awaiting hattempt | tokensRefreshed hattempt =>
    exact ⟨h.retries, h.periodic⟩
  | refreshFailed hattempt | ticketFailed hattempt => exact retry ⟨h.retries, h.periodic⟩
  | ticketFetched ticket hattempt =>
    exact openSocket (c := c.endAttempt _) ⟨h.retries, h.periodic⟩ hcond _
  | timeout hmem => exact ⟨h.retries, h.periodic⟩
  | intervalStopped hpending hstop => exact ⟨h.retries, fun hpending => absurd rfl hpending⟩
  | interval hpending hretry =>
    have hexhausted : c.reconnectExhausted = true := h.periodic (by simp [hpending])
    exact ⟨fun hleft => absurd (hexhausted.symm.trans hleft) (by simp), fun _ => hexhausted⟩
  | opened hsocket hconnecting =>
    exact ⟨fun _ => ⟨rfl, Nat.zero_le 10⟩, fun hpending => absurd rfl hpending⟩
  | closed failed hsocket hopen hlength hstates => exact retry ⟨h.retries, h.periodic⟩

/-- A connection that fails uses up the fast retries when ten of them were made. -/
theorem exhausted_retry (hleft : c.reconnectExhausted = false) :
    (c.retryUnlessIntentional url).reconnectExhausted = true
      ↔ c.retries = 10 ∧ c.intentionalDisconnect = false := by
  obtain ⟨hattempt, hle⟩ := h.retries hleft
  unfold retryUnlessIntentional scheduleReconnect
  split_ifs with hintentional hmax
  · simp [hleft, hintentional]
  · have hmax : 10 ≤ c.reconnectAttempt := hmax
    have hspent : c.retries = 10 := by omega
    simp [startPeriodicRetry, stopPeriodicRetry, hspent, hintentional]
  · have hmax : ¬ 10 ≤ c.reconnectAttempt := hmax
    have hspare : c.retries ≠ 10 := by omega
    simp [hleft, hspare]

end

theorem exhausted_openSocket (hleft : c.reconnectExhausted = false) (wsUrl : String)
    (ticket : Option String) : (c.openSocket wsUrl ticket).reconnectExhausted = false := by
  unfold SignalingClient.openSocket
  split_ifs
  · rfl
  · exact hleft

theorem exhausted_of_not_fails (hstep : Step c e c') (hleft : c.reconnectExhausted = false)
    (hfails : e.fails = false) : c'.reconnectExhausted = false := by
  cases hstep with
  | connect url => exact exhausted_openSocket hleft url none
  | connectWithAuth wsUrl | reconnectWithNewToken wsUrl => exact hleft
  | disconnect => rfl
  | tokenExpired expired awaiting hattempt | tokensRefreshed hattempt => exact hleft
  | refreshFailed hattempt | ticketFailed hattempt => cases hfails
  | ticketFetched ticket hattempt =>
    exact exhausted_openSocket (c := c.endAttempt _) hleft _ (some ticket)
  | timeout hmem | intervalStopped hpending hstop | interval hpending hretry => exact hleft
  | opened hsocket hconnecting => rfl
  | closed failed hsocket hopen hlength hstates => cases hfails

theorem exhausted_step (h : c.Counted) (hstep : Step c e c')
    (hleft : c.reconnectExhausted = false) (hfails : e.fails = true) :
    c'.reconnectExhausted = true ↔ c.retries = 10 ∧ c.intentionalDisconnect = false := by
  cases hstep with
  | refreshFailed hattempt | ticketFailed hattempt =>
    exact exhausted_retry (c := (c.endAttempt _).setStatus .disconnected)
      ⟨h.retries, h.periodic⟩ hleft
  | @closed i socket failed sockets hsocket hopen hlength hstates =>
    exact exhausted_retry (c := { c with sockets, ws := none }.setStatus .disconnected)
      ⟨h.retries, h.periodic⟩ hleft
  | connect url | connectWithAuth wsUrl | reconnectWithNewToken wsUrl | disconnect
  | tokenExpired expired awaiting hattempt | tokensRefreshed hattempt
  | ticketFetched ticket hattempt | timeout hmem | intervalStopped hpending hstop
  | interval hpending hretry | opened hsocket hconnecting => cases hfails

end Counted

/-- **The client does not give up silently.** While its caller wants a connection and no attempt is
in flight, it has a living socket or a pending timer; and it reports that the fast retries are used
up exactly when a connection fails after ten of them. -/
theorem never_silent (hreach : signalingClient.Reach Persists initial c) :
    (c.lastCall = some .connect → c.attempts = [] →
        (∃ socket ∈ c.sockets, socket.alive) ∨ c.timeouts ≠ [] ∨ c.periodicRetryTimer ≠ none)
      ∧ ∀ e c', c.next e = some c' → c.reconnectExhausted = false →
          (c'.reconnectExhausted = true
            ↔ c.retries = 10 ∧ e.fails = true ∧ c.intentionalDisconnect = false) := by
  obtain ⟨hgoing, hcounted⟩ : c.Going ∧ c.Counted := by
    refine hreach.invariant (I := fun c => c.Going ∧ c.Counted) ?_ ?_
    · exact ⟨⟨nofun, nofun, nofun⟩, fun _ => ⟨rfl, Nat.zero_le 10⟩, fun h => absurd rfl h⟩
    · intro c e c' h hcond hnext
      exact ⟨h.1.step hcond (next_step hnext), h.2.step hcond (next_step hnext)⟩
  refine ⟨hgoing.leadsOn, fun e c' hnext hleft => ?_⟩
  cases hfails : e.fails with
  | false => simp [Counted.exhausted_of_not_fails (next_step hnext) hleft hfails]
  | true => simpa using hcounted.exhausted_step (next_step hnext) hleft hfails

/-- The refresh of a token fails until the fast retries are used up. -/
def failingRefreshes : List ClientEvent :=
  [.connectWithAuth "wss", .tokenExpired 0 true, .tokensRefreshed 0 false]
    ++ (List.range 10).flatMap fun id =>
        [.timeout id, .tokenExpired 0 true, .tokensRefreshed 0 false]

/-- After them, the interval is pending. -/
theorem never_silent_exhausted : ∃ c : SignalingClient, c.reconnectExhausted = true
    ∧ c.attempts = []
    ∧ ((∃ socket ∈ c.sockets, socket.alive) ∨ c.timeouts ≠ [] ∨ c.periodicRetryTimer ≠ none) := by
  obtain ⟨c, hreach, hexhausted, hlast, hattempts⟩ :=
    Machine.exists_reach_of_replay signalingClient Persists initial failingRefreshes
    (fun c => c.reconnectExhausted ∧ c.lastCall = some .connect ∧ c.attempts = []) (by decide)
  exact ⟨c, hexhausted, hattempts, (never_silent hreach).1 hlast hattempts⟩

/-- The ticket for the new connection of a token swap is refused, and nothing is left. And a socket
that replaces another after the fast retries were used up starts them again. -/
theorem not_never_silent :
    (∃ c, signalingClient.Reach (fun _ _ => True) initial c ∧ c.lastCall = some .connect
        ∧ c.attempts = [] ∧ (∀ socket ∈ c.sockets, socket.alive = false) ∧ c.timeouts = []
        ∧ c.periodicRetryTimer = none)
      ∧ ∃ c c', signalingClient.Reach (fun _ _ => True) initial c
          ∧ c.next (.closed 1 true) = some c' ∧ c.lastCall = some .connect
          ∧ c.intentionalDisconnect = false ∧ c.retries = 10 ∧ c.reconnectExhausted = false
          ∧ c'.reconnectExhausted = false := by
  constructor
  · obtain ⟨c, hreach, htest⟩ := Machine.exists_reach_of_replay signalingClient
      (fun _ _ => True) initial
      (connects 0 ++ [.reconnectWithNewToken "wss", .tokenExpired 0 false, .ticketFetched 0 none])
      (fun c => c.lastCall = some .connect ∧ c.attempts = []
        ∧ (∀ socket ∈ c.sockets, socket.alive = false) ∧ c.timeouts = []
        ∧ c.periodicRetryTimer = none) (by decide)
    exact ⟨c, hreach, htest⟩
  · obtain ⟨c, hreach, hlast, hintentional, hretries, hleft, c', hnext, hleft'⟩ :=
      Machine.exists_reach_of_replay signalingClient (fun _ _ => True) initial
      (connects 0 ++ failingRefreshes
        ++ [.interval, .tokenExpired 0 false, .ticketFetched 0 (some "u")])
      (fun c => c.lastCall = some .connect ∧ c.intentionalDisconnect = false ∧ c.retries = 10
        ∧ c.reconnectExhausted = false
        ∧ ∃ c' ∈ c.next (.closed 1 true), c'.reconnectExhausted = false) (by decide)
    exact ⟨c, c', hreach, hnext, hlast, hintentional, hretries, hleft, hleft'⟩

end SignalingClient

end Wavis
