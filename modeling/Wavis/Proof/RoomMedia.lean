import Wavis.Client.RoomSession
import Wavis.Proof.CallResources

/-! The mode is never reset, so a session that has used LiveKit cannot leave its room in proxy mode;
nor can one whose set-up or teardown fails, or that gets its media token late. -/

namespace Wavis.Call

open Concurrency

namespace RoomSession

def Released (s : RoomSession) : Prop :=
  s.micOpen = false ∧ s.connectionOpen = false ∧ s.liveKitConnected = false ∧ s.sfuMode = .proxy

def SetsUp (backends : RoomBackends) : Prop :=
  backends.captureMic.isOk → backends.isAvailable
    ∨ backends.createPeerConnection.isOk ∧ backends.addAudioTrack.isOk

/-- No set-up fails half-way, and rooms are left in proxy mode, with a teardown that succeeds. -/
def Attended (s : RoomSession × Bool) : RoomEvent → Prop
  | .joinRoom backends => s.1.inRoom = false → backends.send.isOk → SetsUp backends
  | .startMedia backends => s.1.inRoom = false → SetsUp backends
  | .leaveRoom backends => s.1.inRoom = true → s.1.sfuMode = .proxy
      ∧ (s.1.connectionOpen → backends.close.isOk) ∧ (s.1.micOpen → backends.stop.isOk)
  | .message (.mediaToken _ _) backends => s.2 = true → ¬ backends.connect.isOk
  | _ => True

instance (s : RoomSession × Bool) (event : RoomEvent) : Decidable (Attended s event) := by
  unfold Attended SetsUp
  split <;> infer_instance

/-- The flag `inRoom` is set inside of rooms, and LiveKit is connected in its mode only. -/
structure Owns (s : RoomSession × Bool) : Prop where
  flagged : s.1.inRoom = false → s.2 = true
  mode : s.1.sfuMode = .proxy → s.1.liveKitConnected = false
  released : s.2 = true → s.1.Released

variable {s : RoomSession} {outside : Bool} {backends : RoomBackends}

theorem startMedia_cases (h : s.inRoom = false → SetsUp backends) :
    (∃ e, s.startMedia backends = (.error e, s))
      ∨ ∃ s', s.startMedia backends = (.ok (), s') ∧ s'.inRoom = true ∧ s'.sfuMode = s.sfuMode
        ∧ s'.liveKitConnected = s.liveKitConnected := by
  unfold startMedia
  split_ifs with hroom havailable
  · exact .inl ⟨_, rfl⟩
  · cases backends.captureMic with
    | error e => exact .inl ⟨_, rfl⟩
    | ok track => exact .inr ⟨_, rfl, rfl, rfl, rfl⟩
  · have hsets := h (by simpa using hroom)
    unfold SetsUp at hsets
    cases hcapture : backends.captureMic with
    | error e => exact .inl ⟨_, rfl⟩
    | ok track =>
      rw [hcapture] at hsets
      obtain ⟨hcreate, hadd⟩ := (hsets rfl).resolve_left havailable
      cases hpeer : backends.createPeerConnection with
      | error e => exact absurd hcreate (by rw [hpeer]; exact Bool.false_ne_true)
      | ok _ =>
        cases htrack : backends.addAudioTrack with
        | error e => exact absurd hadd (by rw [htrack]; exact Bool.false_ne_true)
        | ok _ => exact .inr ⟨_, rfl, rfl, rfl, rfl⟩

section

variable (h : Owns (s, outside))
include h

theorem Owns.startMedia (hsets : s.inRoom = false → SetsUp backends) :
    Owns ((s.startMedia backends).2, outside && !(s.startMedia backends).1.isOk) := by
  rcases startMedia_cases hsets with ⟨e, heq⟩ | ⟨s', heq, hroom, hmode, hlivekit⟩
  · rw [heq]
    exact (Bool.and_true outside).symm ▸ h
  · rw [heq]
    refine ⟨fun hnot => ?_, fun hproxy => ?_, fun hout => ?_⟩
    · exact absurd (hroom.symm.trans hnot) Bool.noConfusion
    · exact hlivekit.trans (h.mode (hmode.symm.trans hproxy))
    · rw [Bool.and_eq_true] at hout
      exact absurd hout.2 Bool.false_ne_true

theorem Owns.joinRoom (hattended : Attended (s, outside) (.joinRoom backends)) :
    Owns ((s.joinRoom backends).2, outside && !(s.joinRoom backends).1.isOk) := by
  unfold RoomSession.joinRoom
  split_ifs with hroom
  · exact (Bool.and_true outside).symm ▸ h
  · cases hsend : backends.send with
    | error e => exact (Bool.and_true outside).symm ▸ h
    | ok _ => exact h.startMedia fun hout => hattended hout (by rw [hsend]; rfl)

theorem Owns.leaveRoom (hattended : Attended (s, outside) (.leaveRoom backends)) :
    Owns ((s.leaveRoom backends).2, true) := by
  unfold RoomSession.leaveRoom
  split_ifs with hroom
  · obtain ⟨hproxy, hclose, hstop⟩ := hattended hroom
    have hlivekit := h.mode hproxy
    have hreleased : ((s.disconnect backends).stop backends).Released := by
      unfold disconnect stop Released
      rw [hproxy]
      refine ⟨?_, ?_, hlivekit, hproxy⟩
      · cases hmic : s.micOpen with
        | false => rfl
        | true => simp [hstop hmic]
      · cases hconnection : s.connectionOpen with
        | false => rfl
        | true => simp [hclose hconnection]
    cases backends.send with
    | error e | ok _ => exact ⟨fun _ => rfl, fun _ => hreleased.2.2.1, fun _ => hreleased⟩
  · exact ⟨fun _ => rfl, h.mode, fun _ => h.released (h.flagged (by simpa using hroom))⟩

theorem Owns.message {msg : RoomMessage}
    (hattended : Attended (s, outside) (.message msg backends)) :
    Owns (s.handleMessage backends msg, outside) := by
  cases msg with
  | other => exact h
  | mediaToken sfuUrl token =>
    unfold handleMessage
    cases hconnect : backends.connect with
    | error e => exact h
    | ok _ =>
      refine ⟨h.flagged, nofun, fun hout => absurd ?_ (hattended hout)⟩
      rw [hconnect]
      rfl

end

/-- **Outside of rooms a session owns no media.** -/
theorem released_of_outside
    (hreach : roomSessionMachine.Reach Attended (new, true) (s, true)) : s.Released := by
  have howns : Owns (s, true) := by
    refine hreach.invariant (I := Owns) ⟨fun _ => rfl, fun _ => rfl, fun _ => ?_⟩ ?_
    · exact ⟨rfl, rfl, rfl, rfl⟩
    rintro ⟨s, outside⟩ event s' h hattended ⟨⟩
    cases event with
    | joinRoom backends => exact h.joinRoom hattended
    | startMedia backends => exact h.startMedia hattended
    | leaveRoom backends => exact h.leaveRoom hattended
    | message msg backends => exact h.message hattended
  exact howns.released rfl

def live : RoomBackends :=
  { CallManager.reliable with
    isAvailable := true, connect := .ok (), disconnect := .ok (), send := .ok () }

/-- A room is joined through the proxy and left. -/
theorem released_of_outside_proxy : ∃ s, roomSessionMachine.Reach Attended (new, true) (s, true)
    ∧ s.Released := by
  obtain ⟨⟨s, outside⟩, hreach, rfl⟩ := Machine.exists_reach_of_replay roomSessionMachine Attended
    (new, true) [.joinRoom { live with isAvailable := false }, .leaveRoom live] (·.2) (by decide)
  exact ⟨s, hreach, released_of_outside hreach⟩

/-- A room is joined and left with LiveKit; the session stays in LiveKit mode. -/
theorem not_released_of_outside :
    ¬ ∀ s, roomSessionMachine.Reach (fun _ _ => True) (new, true) (s, true) → s.Released := by
  intro h
  obtain ⟨⟨s, outside⟩, hreach, htest⟩ := Machine.exists_reach_of_replay roomSessionMachine
    (fun _ _ => True) (new, true)
    [.joinRoom live, .message (.mediaToken "url" "token") live, .leaveRoom live]
    (fun s => s.2 && s.1.sfuMode = .liveKit "url" "token") (by decide +kernel)
  obtain ⟨rfl, hmode⟩ : outside = true ∧ s.sfuMode = .liveKit "url" "token" := by
    simpa using htest
  cases hmode.symm.trans (h s hreach).2.2.2

end RoomSession

end Wavis.Call
