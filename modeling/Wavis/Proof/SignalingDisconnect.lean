import Wavis.Proof.SignalingSteps

namespace Wavis

open Concurrency

namespace SignalingClient

/-- A disconnect finds no timeout and no connecting socket that the client has lost track of, and no
ticket arrives after it. -/
def ReleasesAll (c : SignalingClient) : ClientEvent → Prop
  | .disconnect => (∀ timeout ∈ c.timeouts, c.reconnectTimer = some timeout.id)
      ∧ ∀ entry ∈ c.sockets.zipIdx, entry.1.readyState = .connecting → c.ws = some entry.2
  | .ticketFetched _ (some _) => c.lastCall ≠ some .disconnect
  | _ => True

instance (c : SignalingClient) (e : ClientEvent) : Decidable (c.ReleasesAll e) := by
  unfold ReleasesAll
  split <;> infer_instance

structure Released (c : SignalingClient) : Prop where
  timeouts : c.timeouts = []
  periodicRetryTimer : c.periodicRetryTimer = none
  status : c.status = .disconnected
  intentional : c.intentionalDisconnect = true
  ws : c.ws = none
  settled : ∀ i, c.readyState i ≠ some .connecting

variable {c c' : SignalingClient} {e : ClientEvent}

theorem released_disconnect (hcond : c.ReleasesAll .disconnect) : c.disconnect.Released where
  timeouts := by
    refine List.filter_eq_nil_iff.mpr fun timeout hmem => ?_
    simpa using hcond.1 timeout hmem
  periodicRetryTimer := rfl
  status := rfl
  intentional := rfl
  ws := rfl
  settled i hconnecting := by
    rw [readyState_disconnect] at hconnecting
    split_ifs at hconnecting with hws
    · cases hstate : c.readyState i with
      | none => simp [hstate] at hconnecting
      | some state => cases state <;> simp [hstate, ReadyState.close] at hconnecting
    · obtain ⟨socket, hsocket, hstate⟩ := Option.map_eq_some_iff.mp hconnecting
      exact hws (hcond.2 (socket, i) (List.mem_zipIdx_iff_getElem?.mpr hsocket) hstate)

namespace Released

theorem connectFailed (h : c.Released) (i : Nat) (wsUrl : String) :
    ((c.endAttempt i).connectFailed wsUrl).Released := by
  rw [SignalingClient.connectFailed, retry_of_intentional]
  · exact ⟨h.timeouts, h.periodicRetryTimer, rfl, h.intentional, h.ws, h.settled⟩
  · exact h.intentional

theorem closed (h : c.Released) (sockets : List Socket) (wsUrl : String)
    (hsettled : ∀ i : Nat, sockets[i]?.map Socket.readyState ≠ some .connecting) :
    (({ c with sockets, ws := none }.setStatus .disconnected).retryUnlessIntentional
      wsUrl).Released := by
  rw [retry_of_intentional]
  · exact ⟨h.timeouts, h.periodicRetryTimer, rfl, h.intentional, rfl, hsettled⟩
  · exact h.intentional

theorem step (h : c.lastCall = some .disconnect → c.Released) (hcond : c.ReleasesAll e)
    (hstep : Step c e c') (hlast : c'.lastCall = some .disconnect) : c'.Released := by
  cases hstep with
  | connect url | connectWithAuth wsUrl | reconnectWithNewToken wsUrl => cases hlast
  | disconnect =>
    have hreleased := released_disconnect hcond
    exact ⟨hreleased.timeouts, hreleased.periodicRetryTimer, hreleased.status,
      hreleased.intentional, hreleased.ws, hreleased.settled⟩
  | ticketFetched ticket hattempt =>
    rw [lastCall_openSocket] at hlast
    exact absurd hlast hcond
  | refreshFailed hattempt | ticketFailed hattempt =>
    rw [SignalingClient.connectFailed, lastCall_retry] at hlast
    exact (h hlast).connectFailed _ _
  | @closed i socket failed sockets hsocket hopen hlength hstates =>
    rw [lastCall_retry] at hlast
    have hreleased := h hlast
    refine hreleased.closed sockets _ fun j => ?_
    rw [hstates]
    split_ifs with hij hws
    · simp
    · rw [hreleased.ws] at hws
      cases hws.2
    · exact hreleased.settled j
  | timeout hmem =>
    have hreleased := h hlast
    rw [hreleased.timeouts] at hmem
    cases hmem
  | intervalStopped hpending hstop | interval hpending hretry =>
    rw [(h hlast).periodicRetryTimer] at hpending
    cases hpending
  | opened hsocket hconnecting =>
    have hstate := readyState_of_getElem? hsocket
    rw [hconnecting] at hstate
    exact absurd hstate ((h hlast).settled _)
  | tokenExpired expired awaiting hattempt | tokensRefreshed hattempt =>
    have hreleased := h hlast
    exact ⟨hreleased.timeouts, hreleased.periodicRetryTimer, hreleased.status,
      hreleased.intentional, hreleased.ws, hreleased.settled⟩

end Released

/-- Between a disconnect and the next connect, no event opens a socket. -/
theorem Step.length_sockets (hstep : Step c e c') (hcond : c.ReleasesAll e)
    (hlast : c.lastCall = some .disconnect) (hlast' : c'.lastCall = some .disconnect) :
    c'.sockets.length = c.sockets.length := by
  cases hstep with
  | connect url | connectWithAuth wsUrl | reconnectWithNewToken wsUrl => cases hlast'
  | disconnect => exact length_disconnect
  | ticketFetched ticket hattempt => exact absurd hlast hcond
  | refreshFailed hattempt | ticketFailed hattempt =>
    rw [connectFailed, sockets_retry]
    rfl
  | closed failed hsocket hopen hlength hstates =>
    rw [sockets_retry]
    exact hlength
  | timeout hmem | intervalStopped hpending hstop | interval hpending hretry => rfl
  | opened hsocket hconnecting => exact List.length_modify ..
  | tokenExpired expired awaiting hattempt | tokensRefreshed hattempt => rfl

/-- **A disconnect is final.** As long as the caller's last call is a disconnect, no timer is
pending, the status is `disconnected`, and no event opens a socket. -/
theorem disconnect_final
    (hreach : signalingClient.Reach ReleasesAll initial c) (hlast : c.lastCall = some .disconnect) :
    c.timeouts = [] ∧ c.periodicRetryTimer = none ∧ c.status = .disconnected
      ∧ ∀ e c', c.ReleasesAll e → c.next e = some c' → c'.lastCall = some .disconnect →
          c'.sockets.length = c.sockets.length := by
  have hreleased : c.Released :=
    hreach.invariant (I := fun c => c.lastCall = some .disconnect → c.Released)
      nofun
      (fun _ _ _ h hcond hnext => .step h hcond (next_step hnext)) hlast
  refine ⟨hreleased.timeouts, hreleased.periodicRetryTimer, hreleased.status, ?_⟩
  intro e c' hcond hnext hlast'
  exact (next_step hnext).length_sockets hcond hlast hlast'

/-- A caller connects, and hangs up once the socket is open; then the socket ends. -/
theorem disconnect_final_hangup : ∃ c : SignalingClient, c.lastCall = some .disconnect
    ∧ c.sockets.length = 1 ∧ c.timeouts = [] ∧ c.periodicRetryTimer = none
    ∧ c.status = .disconnected := by
  obtain ⟨c, hreach, hlast, hlength⟩ :=
    Machine.exists_reach_of_replay signalingClient ReleasesAll initial
    (connects 0 ++ [.disconnect, .closed 0 false])
    (fun c => c.lastCall = some .disconnect ∧ c.sockets.length = 1) (by decide)
  obtain ⟨htimeouts, hperiodic, hstatus, _⟩ := disconnect_final hreach hlast
  exact ⟨c, hlast, hlength, htimeouts, hperiodic, hstatus⟩

/-- A ticket that arrives after the disconnect opens a socket, and a timeout whose handle was
overwritten stays pending. -/
theorem not_disconnect_final :
    (∃ c, signalingClient.Reach (fun _ _ => True) initial c ∧ c.lastCall = some .disconnect ∧
        ∃ e c', c.next e = some c' ∧ c'.lastCall = some .disconnect
          ∧ c'.status = .connecting ∧ c'.sockets.length = c.sockets.length + 1)
      ∧ ∃ c, signalingClient.Reach (fun _ _ => True) initial c
          ∧ c.lastCall = some .disconnect ∧ c.timeouts ≠ [] := by
  constructor
  · obtain ⟨c, hreach, hlast, c', hnext, htest⟩ := Machine.exists_reach_of_replay signalingClient
      (fun _ _ => True) initial [.connectWithAuth "wss", .tokenExpired 0 false, .disconnect]
      (fun c => c.lastCall = some .disconnect ∧ ∃ c' ∈ c.next (.ticketFetched 0 (some "t")),
        c'.lastCall = some .disconnect ∧ c'.status = .connecting
          ∧ c'.sockets.length = c.sockets.length + 1) (by decide)
    exact ⟨c, hreach, hlast, _, c', hnext, htest⟩
  · obtain ⟨c, hreach, htest⟩ := Machine.exists_reach_of_replay signalingClient
      (fun _ _ => True) initial
      [.connectWithAuth "wss", .connectWithAuth "wss", .tokenExpired 0 true, .tokenExpired 1 true,
        .tokensRefreshed 1 false, .tokensRefreshed 0 false, .disconnect]
      (fun c => c.lastCall = some .disconnect ∧ c.timeouts ≠ []) (by decide)
    exact ⟨c, hreach, htest⟩

end SignalingClient

end Wavis
