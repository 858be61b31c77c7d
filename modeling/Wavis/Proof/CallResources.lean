import Wavis.Client.CallManager

namespace Wavis.Call

open Concurrency

def CallState.over : CallState → Bool
  | idle => true
  | failed => true
  | closed => true
  | _ => false

namespace CallManager

/-- Neither the microphone nor a peer connection is open. -/
def Released (m : CallManager) : Prop := m.micOpen = false ∧ m.connectionOpen = false

instance (m : CallManager) : Decidable m.Released :=
  inferInstanceAs (Decidable (_ ∧ _))

def SetsUp (m : CallManager) (backends : Backends) (describe : Except CallError String) : Prop :=
  m.state = .idle ∨ m.state = .closed → backends.createPeerConnection.isOk →
    backends.captureMic.isOk ∧ backends.addAudioTrack.isOk ∧ describe.isOk

def TearsDown (m : CallManager) (backends : Backends) : Prop :=
  (m.connectionOpen → backends.close.isOk) ∧ (m.micOpen → backends.stop.isOk)

/-- No set-up fails half-way, no teardown fails, and no connection closes by itself. -/
def Backed (m : CallManager) : CallEvent → Prop
  | .startCall backends => m.SetsUp backends backends.createOffer
  | .acceptCall backends => m.SetsUp backends backends.createAnswer
  | .hangup backends => m.TearsDown backends
  | .connectionState .failed backends => m.TearsDown backends
  | .connectionState .closed _ => m.Released
  | _ => True

instance (m : CallManager) (event : CallEvent) : Decidable (m.Backed event) := by
  unfold Backed SetsUp TearsDown
  split <;> infer_instance

variable {m : CallManager} {backends : Backends} {describe : Except CallError String}

theorem openCall_cases (h : m.SetsUp backends describe) :
    (m.openCall backends describe).2 = m
      ∨ (m.openCall backends describe).2.state = .negotiating := by
  unfold openCall
  split_ifs with hbusy
  · exact .inl rfl
  · have hfree : m.state = .idle ∨ m.state = .closed :=
      Decidable.byContradiction fun hnot => hbusy (not_or.mp hnot)
    have hrest := h hfree
    cases hcreate : backends.createPeerConnection with
    | error e => exact .inl rfl
    | ok _ =>
      obtain ⟨hmic, htrack, hdescribe⟩ := hrest (by rw [hcreate]; rfl)
      cases hcapture : backends.captureMic with
      | error e =>
        rw [hcapture] at hmic
        cases hmic
      | ok track =>
        cases hadd : backends.addAudioTrack with
        | error e =>
          rw [hadd] at htrack
          cases htrack
        | ok _ =>
          cases describe with
          | error e => cases hdescribe
          | ok sdp => exact .inr rfl

theorem released_of_tearsDown (h : m.TearsDown backends) :
    ((m.closeConnection backends).stopAudio backends).Released := by
  obtain ⟨state, handled, micOpen, connectionOpen⟩ := m
  simp only [TearsDown] at h
  unfold Released stopAudio closeConnection
  cases hclose : backends.close.isOk <;> cases hstop : backends.stop.isOk <;>
    simp_all

theorem setAnswer_cases : (m.setAnswer backends).2 = m
    ∨ m.state.over = false ∧ (m.setAnswer backends).2.state = .connecting := by
  unfold setAnswer
  split_ifs with hguard
  · exact .inl rfl
  · cases backends.setRemoteAnswer with
    | error e => exact .inl rfl
    | ok _ => exact .inr ⟨by cases hstate : m.state <;> simp_all [CallState.over], rfl⟩

theorem connectionStateChanged_failed :
    (m.connectionStateChanged .failed backends).state = .failed := by
  unfold connectionStateChanged closeConnection stopAudio
  split_ifs <;> rfl

section

variable (h : m.state.over → m.Released)
include h

theorem released_openCall (hsets : m.SetsUp backends describe)
    (hover : (m.openCall backends describe).2.state.over) :
    (m.openCall backends describe).2.Released := by
  rcases openCall_cases hsets with hsame | hcalling
  · rw [hsame] at hover ⊢
    exact h hover
  · rw [hcalling] at hover
    cases hover

theorem released_setAnswer (hover : (m.setAnswer backends).2.state.over) :
    (m.setAnswer backends).2.Released := by
  rcases setAnswer_cases (m := m) with hsame | ⟨-, hanswered⟩
  · rw [hsame] at hover ⊢
    exact h hover
  · rw [hanswered] at hover
    cases hover

theorem released_hangup (htears : m.TearsDown backends) : (m.hangup backends).2.Released := by
  unfold hangup
  split_ifs with hover
  · refine h ?_
    rcases hover with hidle | hclosed
    · rw [hidle]
      rfl
    · rw [hclosed]
      rfl
  · exact released_of_tearsDown htears

theorem released_connectionStateChanged {state : ConnectionState}
    (hbacked : m.Backed (.connectionState state backends))
    (hover : (m.connectionStateChanged state backends).state.over) :
    (m.connectionStateChanged state backends).Released := by
  cases state with
  | new | disconnected => exact h hover
  | checking | connected | completed => cases hover
  | failed => exact released_of_tearsDown (m := m.setState .failed) hbacked
  | closed => exact hbacked

theorem released_apply {event : CallEvent} (hbacked : m.Backed event)
    (hover : (event.apply m).state.over) : (event.apply m).Released := by
  cases event with
  | startCall backends | acceptCall backends => exact released_openCall h hbacked hover
  | setAnswer backends => exact released_setAnswer h hover
  | addIceCandidate backends => exact h hover
  | hangup backends => exact released_hangup h hbacked
  | connectionState state backends =>
    unfold CallEvent.apply at hover ⊢
    split_ifs at hover ⊢
    · exact released_connectionStateChanged h hbacked hover
    · exact h hover

end

/-- **The microphone is released when there is no call.** -/
theorem released_of_over (hreach : callMachine.Reach Backed new m) (hover : m.state.over) :
    m.Released := by
  refine hreach.invariant (I := fun m => m.state.over → m.Released) (fun _ => ⟨rfl, rfl⟩) ?_ hover
  intro m event m' h hbacked hnext hover
  cases hnext
  exact released_apply h hbacked hover

def reliable : Backends where
  createPeerConnection := .ok ()
  captureMic := .ok ⟨"mic"⟩
  addAudioTrack := .ok ()
  createOffer := .ok "offer"
  createAnswer := .ok "answer"
  setRemoteAnswer := .ok ()
  addIceCandidate := .ok ()
  close := .ok ()
  stop := .ok ()

/-- A whole call. -/
theorem released_of_over_call : ∃ m, callMachine.Reach Backed new m ∧ m.state = .closed
    ∧ m.Released := by
  obtain ⟨m, hreach, hclosed⟩ := Machine.exists_reach_of_replay callMachine Backed new
    [.startCall reliable, .setAnswer reliable, .connectionState .connected reliable,
      .hangup reliable] (fun m => m.state = .closed) (by decide)
  exact ⟨m, hreach, hclosed, released_of_over hreach (by rw [hclosed]; rfl)⟩

/-- The track cannot be added, and the teardown that follows finds no call. -/
theorem not_released_of_over : ¬ ∀ m, callMachine.Reach (fun _ _ => True) new m →
    m.state.over → m.Released := by
  intro h
  obtain ⟨m, hreach, hover, hmic⟩ := Machine.exists_reach_of_replay callMachine
    (fun _ _ => True) new
    [.startCall { reliable with addAudioTrack := .error (.negotiationFailed "track") },
      .hangup reliable] (fun m => m.state.over ∧ m.micOpen = true) (by decide)
  cases hmic.symm.trans (h m hreach hover).1

end CallManager

end Wavis.Call
