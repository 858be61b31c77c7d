import Wavis.Client.VoiceCamera
import Mathlib.Data.List.Basic

namespace Wavis

namespace VoiceCamera

variable {inChain : Bool} {s s' : VoiceCamera} {task : CameraTask}

def AtRest (s : VoiceCamera) : Prop := s.cameraToggleChain = 0 ∧ s.tasks = []

structure Agrees (s : VoiceCamera) : Prop where
  publication : s.cameraPublication = .published ↔ s.cameraIntent = true
  track : s.publications ≠ [] ↔ s.cameraIntent = true

/-- No task is begun during another one. What is to be unpublished is the only track, and it is. -/
def orderly (s : VoiceCamera) : CameraEvent → Bool
  | .toggle => s.tasks.isEmpty && (!s.cameraIntent || decide (s.publications.length ≤ 1))
  | .leaveSubRoom => !s.cameraIntent || s.tasks.isEmpty && decide (s.publications.length ≤ 1)
  | .mediaReconnected =>
    s.tasks.isEmpty || !s.cameraIntent || s.cameraPublication ≠ .published
  | .settle i false =>
    match s.tasks[i]?.map CameraTask.stage with
    | some (.cleanup found) | some (.unpublishCamera found) => found.isNone
    | some .getVideoInputDevice => true
    | _ => decide (s.publications.length ≤ 1)
  | _ => true

/-- The module knows one of the tracks it has published. -/
def Known (s : VoiceCamera) : Prop := ∀ track ∈ s.localCameraPublication, track ∈ s.publications

def Awaits (s : VoiceCamera) : CameraStage → Prop
  | .cleanup found | .unpublishCamera found =>
    s.cameraIntent = false ∧ s.localCameraPublication = none ∧ s.publications.length ≤ 1
      ∧ found = s.publications.head?
  | _ => s.cameraIntent = true

structure Orderly (s : VoiceCamera) : Prop where
  known : s.Known
  tasks : s.tasks = [] ∧ s.Agrees ∨ ∃ task, s.tasks = [task] ∧ s.Awaits task.stage

theorem known_of_none (h : s.localCameraPublication = none) : s.Known := by
  simp [Known, h]

theorem Known.found (h : s.Known) (hone : s.publications.length ≤ 1) :
    s.cameraToUnpublish = s.publications.head? := by
  unfold Known at h
  unfold cameraToUnpublish
  cases hlocal : s.localCameraPublication with
  | none => rfl
  | some track =>
    have hmem := h track hlocal
    obtain ⟨other, hother⟩ := List.length_eq_one_iff.mp
      (Nat.le_antisymm hone (List.length_pos_of_mem hmem))
    rw [hother] at hmem ⊢
    simpa using hmem

theorem orderly_publish (h : s.Known) (htasks : s.tasks = []) (hintent : s.cameraIntent = true) :
    (s.publishLocalCamera inChain).Orderly :=
  ⟨h, .inr ⟨⟨inChain, .getVideoInputDevice⟩, by simp [publishLocalCamera, await, htasks], hintent⟩⟩

theorem orderly_unpublish (h : s.Known) (htasks : s.tasks = []) (hintent : s.cameraIntent = false)
    (hone : s.publications.length ≤ 1) : (s.unpublishLocalCamera inChain).Orderly :=
  ⟨known_of_none rfl, .inr ⟨⟨inChain, .unpublishCamera s.cameraToUnpublish⟩,
    by simp [unpublishLocalCamera, await, htasks], hintent, rfl, hone, h.found hone⟩⟩

theorem orderly_fail (h : s.Known) (hone : s.publications.length ≤ 1) :
    Orderly { s.fail.1 with tasks := [⟨inChain, .cleanup s.cameraToUnpublish⟩] } :=
  ⟨known_of_none rfl, .inr ⟨_, rfl, rfl, rfl, hone, h.found hone⟩⟩

theorem Awaits.settle {succeeded : Bool} (h : s.Awaits task.stage) (hknown : s.Known)
    (htasks : s.tasks = [task]) (hallowed : s.orderly (.settle 0 succeeded) = true) :
    (s.settle 0 task succeeded).Orderly := by
  obtain ⟨inChain, stage⟩ := task
  simp only [orderly, htasks] at hallowed
  unfold VoiceCamera.settle
  rw [htasks]
  cases stage with
  | getVideoInputDevice => exact ⟨hknown, .inr ⟨_, rfl, h⟩⟩
  | resolveCameraDeviceSelection =>
    cases succeeded with
    | true => exact ⟨hknown, .inr ⟨_, rfl, h⟩⟩
    | false => exact orderly_fail hknown (of_decide_eq_true hallowed)
  | publishCamera =>
    cases succeeded with
    | true =>
      refine ⟨?_, .inl ⟨rfl, iff_of_true rfl h, iff_of_true ?_ h⟩⟩
      · rintro _ ⟨⟩
        simp [resume]
      · simp [resume]
    | false => exact orderly_fail (known_of_none rfl) (of_decide_eq_true hallowed)
  | cleanup found | unpublishCamera found =>
    obtain ⟨hintent, hlocal, hone, rfl⟩ := h
    have hgone : (if succeeded then s.publications.head?.elim s.publications s.publications.erase
        else s.publications) = [] := by
      cases hpublications : s.publications with
      | nil => simp
      | cons track rest =>
        rw [hpublications] at hone hallowed
        cases succeeded with
        | true => simpa using hone
        | false => cases hallowed
    refine ⟨known_of_none hlocal, .inl ⟨rfl, ?_, ?_⟩⟩
    · simp [resume, hintent]
    · simp [resume, hintent, hgone]

theorem Orderly.next (h : s.Orderly) {e : CameraEvent} (hallowed : s.orderly e = true)
    (hnext : s.next e = some s') : s'.Orderly := by
  obtain ⟨hknown, htasks⟩ := h
  cases e with
  | toggleCameraIntent =>
    cases hnext
    refine ⟨hknown, htasks.imp (fun ⟨hnone, h⟩ => ⟨hnone, h.publication, h.track⟩) ?_⟩
    rintro ⟨⟨inChain, stage⟩, htask, h⟩
    exact ⟨_, htask, by cases stage <;> exact h⟩
  | toggle =>
    simp only [orderly, Bool.and_eq_true, List.isEmpty_iff, Bool.or_eq_true, decide_eq_true_eq]
      at hallowed
    simp only [VoiceCamera.next] at hnext
    split_ifs at hnext
    cases hnext
    unfold toggle
    split_ifs with hintent
    · exact orderly_unpublish hknown hallowed.1 rfl
        (hallowed.2.resolve_left (by simpa using hintent))
    · exact orderly_publish hknown hallowed.1 rfl
  | leaveSubRoom =>
    cases hnext
    unfold stopLocalCameraAfterLeavingSubRoom
    split_ifs with hintent
    · simp [orderly, hintent] at hallowed
      exact orderly_unpublish hknown hallowed.1 rfl hallowed.2
    · exact ⟨hknown, htasks⟩
  | mediaReconnected =>
    cases hnext
    unfold restorePublishedCameraAfterReconnect
    split_ifs with hpublished
    · obtain ⟨hintent, hpublished⟩ := Bool.and_eq_true_iff.mp hpublished
      refine orderly_publish hknown ?_ hintent
      simpa [orderly, hintent, of_decide_eq_true hpublished] using hallowed
    · exact ⟨hknown, htasks⟩
  | settle i succeeded =>
    obtain ⟨task, htask, rfl⟩ := Option.map_eq_some_iff.mp hnext
    rcases htasks with ⟨hnone, -⟩ | ⟨task', hone, h⟩
    · simp [hnone] at htask
    · cases i with
      | zero =>
        obtain rfl : task' = task := by simpa [hone] using htask
        exact h.settle hknown hone hallowed
      | succ i => simp [hone] at htask

end VoiceCamera

end Wavis
