import Wavis.Client.CallSession
import Wavis.Proof.CallResources

namespace Wavis.Call

open Concurrency CallManager

def Backends.Ready (backends : Backends) (describe : Except CallError String) : Prop :=
  backends.createPeerConnection.isOk ∧ backends.captureMic.isOk ∧ backends.addAudioTrack.isOk
    ∧ describe.isOk

theorem CallManager.openCall_spec (m : CallManager) (backends : Backends)
    (describe : Except CallError String) :
    (∃ sdp, (m.openCall backends describe).1 = .ok sdp
      ∧ (m.openCall backends describe).2.state = .negotiating)
    ∨ ∃ e, (m.openCall backends describe).1 = .error e
      ∧ (m.openCall backends describe).2.state = m.state
      ∧ (m.state.free → ¬ backends.Ready describe) := by
  unfold openCall Backends.Ready
  split_ifs with hbusy
  · refine .inr ⟨_, rfl, rfl, fun hfree => ?_⟩
    cases hstate : m.state <;> simp_all [CallState.free]
  · cases backends.createPeerConnection with
    | error e => exact .inr ⟨e, rfl, rfl, fun _ h => Bool.noConfusion h.1⟩
    | ok _ =>
      cases backends.captureMic with
      | error e => exact .inr ⟨_, rfl, rfl, fun _ h => Bool.noConfusion h.2.1⟩
      | ok track =>
        cases backends.addAudioTrack with
        | error e => exact .inr ⟨e, rfl, rfl, fun _ h => Bool.noConfusion h.2.2.1⟩
        | ok _ =>
          cases describe with
          | error e => exact .inr ⟨e, rfl, rfl, fun _ h => Bool.noConfusion h.2.2.2⟩
          | ok sdp => exact .inl ⟨sdp, rfl, rfl⟩

namespace CallSession

def TurnCleared (s : CallSession) : Prop := s.turnUsername = "" ∧ s.turnCredential = ""

/-- What was reported last, if anything, is the state of the manager. -/
def Informed (s : CallSession) : Prop :=
  s.reported = none ∨ s.reported = some s.manager.state

/-- Calls that do not end by `endCall` find the credentials cleared, and no set-up fails. -/
def Careful (s : CallSession × Bool) : SessionEvent → Prop
  | .initiateCall backends _ => s.1.manager.state.free → backends.Ready backends.createOffer
      ∨ s.1.TurnCleared ∧ s.1.Informed
  | .message (.offer sdp) backends => checkSdpSize sdp → s.1.manager.state.free →
      backends.Ready backends.createAnswer
        ∨ s.1.listening = false ∧ s.1.TurnCleared ∧ s.1.Informed
  | .message .peerLeft _ =>
    (s.1.manager.state = .idle → s.2 = true → s.1.listening = false)
      ∧ (s.1.manager.state ≠ .idle → s.1.TurnCleared)
  | .endCall _ => s.1.manager.state = .idle → s.2 = true → s.1.listening = false
  | .connectionState .failed _ => s.1.manager.handled → s.1.TurnCleared
  | .connectionState .closed _ => s.1.manager.handled → s.1.TurnCleared
  | _ => True

instance (s : CallSession × Bool) (event : SessionEvent) : Decidable (Careful s event) := by
  unfold Careful TurnCleared Informed Backends.Ready
  split <;> infer_instance

structure Cleared (s : CallSession × Bool) : Prop where
  silent : s.1.listening = false → s.1.reported = none
  ended : s.2 = true → s.1.manager.state.over → s.1.TurnCleared ∧ s.1.Informed

variable {s : CallSession} {called : Bool} {backends : Backends} {state : CallState}

theorem notifyState_silent (h : s.listening = false → s.reported = none) :
    (s.notifyState state).listening = false → (s.notifyState state).reported = none := by
  unfold notifyState
  split_ifs with hlistening
  · intro hnot
    rw [hlistening] at hnot
    cases hnot
  · exact h

theorem informed_notifyState (h : s.listening = false → s.reported = none)
    (hstate : s.manager.state = state) : (s.notifyState state).Informed := by
  unfold notifyState
  split_ifs with hlistening
  · exact .inr (congrArg some hstate.symm)
  · exact .inl (h (by simpa using hlistening))

@[simp] theorem manager_notifyState : (s.notifyState state).manager = s.manager := by
  unfold notifyState
  split_ifs <;> rfl

@[simp] theorem turnCleared_notifyState : (s.notifyState state).TurnCleared ↔ s.TurnCleared := by
  unfold notifyState
  split_ifs <;> rfl

theorem initiateCall_eq (s : CallSession) (backends : Backends) (send : Except String Unit) :
    (s.initiateCall backends send).2 = { s with manager := (s.manager.startCall backends).2 } := by
  unfold initiateCall
  rcases s.manager.startCall backends with ⟨_ | _, manager⟩ <;> rfl

theorem endCall_eq (s : CallSession) (backends : Backends) : (s.endCall backends).2
    = ({ s.clearCredentials with
        manager := (s.manager.hangup backends).2 } : CallSession).notifyState .closed := by
  unfold endCall hangup
  split_ifs <;> rfl

theorem hangup_state (m : CallManager) (backends : Backends) :
    m.state = .idle ∧ m.hangup backends = (.ok (), m)
      ∨ m.state ≠ .idle ∧ (m.hangup backends).2.state = .closed := by
  unfold hangup
  split_ifs with hover
  · rcases hover with hidle | hclosed
    · exact .inl ⟨hidle, rfl⟩
    · exact .inr ⟨by simp [hclosed], hclosed⟩
  · exact .inr ⟨fun hidle => hover (.inl hidle), rfl⟩

section

variable (h : Cleared (s, called)) {m : CallManager}
include h

theorem Cleared.report (hstate : m.state = state)
    (hcleared : called = true → state.over → s.TurnCleared) :
    Cleared ({ s with manager := m }.notifyState state, called) := by
  refine ⟨notifyState_silent h.silent, fun hcalled hover => ?_⟩
  rw [manager_notifyState, hstate] at hover
  exact ⟨turnCleared_notifyState.mpr (hcleared hcalled hover), informed_notifyState h.silent hstate⟩

theorem Cleared.stay {begun : Bool} (hstate : m.state = s.manager.state)
    (hbegun : begun = true → s.TurnCleared ∧ s.Informed) :
    Cleared ({ s with manager := m }, called || begun) := by
  refine ⟨h.silent, fun hcalled hover => ?_⟩
  have hclean : s.TurnCleared ∧ s.Informed := by
    rcases (Bool.or_eq_true _ _).mp hcalled with hcalled | hnow
    · exact h.ended hcalled (hstate ▸ hover)
    · exact hbegun hnow
  unfold Informed at hclean ⊢
  rw [hstate]
  exact hclean

theorem Cleared.hangup (hcleared : s.manager.state ≠ .idle → s.TurnCleared)
    (hidle : s.manager.state = .idle → called = true → s.listening = false) :
    Cleared ({ s with manager := (s.manager.hangup backends).2 }.notifyState .closed, called) := by
  rcases hangup_state s.manager backends with ⟨hstate, hsame⟩ | ⟨hstate, hclosed⟩
  · refine ⟨notifyState_silent h.silent, fun hcalled hover => ?_⟩
    rw [hsame, notifyState, if_neg (by simp [hidle hstate hcalled])]
    exact h.ended hcalled (by rw [hstate]; rfl)
  · exact h.report hclosed fun _ _ => hcleared hstate

theorem Cleared.initiateCall {send : Except String Unit}
    (hcareful : Careful (s, called) (.initiateCall backends send)) :
    Cleared ((s.initiateCall backends send).2, called || s.manager.state.free) := by
  rw [initiateCall_eq]
  rcases s.manager.openCall_spec backends backends.createOffer with
    ⟨sdp, -, hstate⟩ | ⟨e, -, hstate, hfailed⟩
  · refine ⟨h.silent, fun _ hover => ?_⟩
    change (s.manager.openCall backends backends.createOffer).2.state.over = true at hover
    rw [hstate] at hover
    cases hover
  · exact h.stay hstate fun hfree => (hcareful hfree).resolve_left (hfailed hfree)

theorem Cleared.offer {sdp : String}
    (hcareful : Careful (s, called) (.message (.offer sdp) backends)) :
    Cleared (s.handleMessage backends (.offer sdp),
      called || (checkSdpSize sdp && s.manager.state.free)) := by
  by_cases hsize : checkSdpSize sdp = false
  · simpa [handleMessage, hsize] using h
  rw [Bool.not_eq_false] at hsize
  rw [handleMessage, if_pos hsize, hsize, Bool.true_and]
  have hspec := s.manager.openCall_spec backends backends.createAnswer
  unfold acceptCall
  rcases hopen : s.manager.openCall backends backends.createAnswer with ⟨result, m⟩
  rw [hopen] at hspec
  rcases hspec with ⟨sdp, rfl, hstate⟩ | ⟨e, rfl, hstate, hfailed⟩
  · refine ⟨h.silent, fun _ hover => ?_⟩
    rw [hstate] at hover
    cases hover
  · by_cases hfree : s.manager.state.free = true
    · obtain ⟨hnobody, hclean⟩ := (hcareful hsize hfree).resolve_left (hfailed hfree)
      have hsame : ({ s with manager := m } : CallSession).notifyState .failed
          = { s with manager := m } := if_neg (Bool.eq_false_iff.mp hnobody)
      change Cleared (notifyState _ _, _)
      rw [hsame]
      exact h.stay hstate fun _ => hclean
    · -- The manager is busy; only after a failure there is no call.
      rw [Bool.eq_false_iff.mpr hfree, Bool.or_false]
      refine ⟨notifyState_silent h.silent, fun hcalled hover => ?_⟩
      rw [manager_notifyState, hstate] at hover
      have hfailed : s.manager.state = .failed := by
        revert hfree hover
        cases s.manager.state <;> decide
      exact ⟨turnCleared_notifyState.mpr (h.ended hcalled hover).1,
        informed_notifyState h.silent (hstate.trans hfailed)⟩

theorem Cleared.connectionState {state : ConnectionState}
    (hcareful : Careful (s, called) (.connectionState state backends))
    (hhandled : s.manager.handled = true) :
    Cleared (s.connectionStateChanged state backends, called) := by
  cases state with
  | new | disconnected => exact h.report rfl fun hcalled hover => (h.ended hcalled hover).1
  | checking | connected | completed => exact h.report rfl fun _ hover => Bool.noConfusion hover
  | closed => exact h.report rfl fun _ _ => hcareful hhandled
  | failed =>
    refine ⟨notifyState_silent (notifyState_silent h.silent), fun _ _ => ?_⟩
    exact ⟨turnCleared_notifyState.mpr (turnCleared_notifyState.mpr (hcareful hhandled)),
      informed_notifyState (notifyState_silent h.silent)
        (by rw [manager_notifyState, connectionStateChanged_failed])⟩

theorem Cleared.answer :
    Cleared ({ s with manager := (s.manager.setAnswer backends).2 }, called) := by
  rcases setAnswer_cases (m := s.manager) with hsame | ⟨-, hanswered⟩
  · rw [hsame]
    exact h
  · refine ⟨h.silent, fun _ hover => ?_⟩
    rw [hanswered] at hover
    cases hover

theorem Cleared.apply {event : SessionEvent} (hcareful : Careful (s, called) event) :
    Cleared (event.apply s, called || event.begins s) := by
  have hnone : ∀ {s : CallSession}, Cleared (s, called) → Cleared (s, called || false) :=
    fun h => (Bool.or_false called).symm ▸ h
  cases event with
  | onCallStateChanged => exact hnone ⟨nofun, h.ended⟩
  | initiateCall backends send => exact h.initiateCall hcareful
  | endCall backends =>
    have hclear : Cleared (s.clearCredentials, called) :=
      ⟨h.silent, fun hcalled hover => ⟨⟨rfl, rfl⟩, (h.ended hcalled hover).2⟩⟩
    refine hnone ?_
    rw [SessionEvent.apply, endCall_eq]
    exact hclear.hangup (fun _ => ⟨rfl, rfl⟩) hcareful
  | message msg backends =>
    cases msg with
    | offer sdp => exact h.offer hcareful
    | peerLeft => exact hnone (h.hangup hcareful.2 hcareful.1)
    | answer sdp =>
      refine hnone ?_
      unfold SessionEvent.apply handleMessage
      dsimp only
      split_ifs
      · exact h.answer
      · exact h
    | iceCandidate candidate =>
      refine hnone ?_
      unfold SessionEvent.apply handleMessage
      dsimp only
      split_ifs <;> exact h
    | other => exact hnone h
  | connectionState state backends =>
    refine hnone ?_
    unfold SessionEvent.apply
    split_ifs with hhandled
    · exact h.connectionState hcareful hhandled
    · exact h

end

variable {turnUsername turnCredential : String}

end CallSession

end Wavis.Call
