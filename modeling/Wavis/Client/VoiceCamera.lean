import Wavis.Concurrency.Machine

/-! The toggles of the user run one after the other, in a chain of promises. The camera is also
stopped when the user leaves their sub-room and published again after a reconnect, both beside the
chain. The code between two awaits is one step, and media stays connected.

The media module is the one over the LiveKit SDK, which keeps every camera track that was published
and not unpublished. The native module of Linux is left out. -/

namespace Wavis

open Concurrency

inductive CameraPublicationState where
  | idle
  | opening
  | publishing
  | published
  | failing
  deriving DecidableEq

/-- What a call waits for. The calls of `unpublishCamera` know which track they have found. -/
inductive CameraStage where
  | getVideoInputDevice
  | resolveCameraDeviceSelection
  | publishCamera
  /-- The `unpublishCamera` that follows a failure. -/
  | cleanup (found : Option Nat)
  | unpublishCamera (found : Option Nat)
  deriving DecidableEq

structure CameraTask where
  inChain : Bool
  stage : CameraStage
  deriving DecidableEq

structure VoiceCamera where
  cameraIntent : Bool := false
  cameraPublication : CameraPublicationState := .idle
  /-- The toggles that have not begun. -/
  cameraToggleChain : Nat := 0
  tasks : List CameraTask := []
  localCameraPublication : Option Nat := none
  /-- The camera tracks that the participant publishes, the oldest first. -/
  publications : List Nat := []
  nextTrack : Nat := 0

inductive CameraEvent where
  | toggleCameraIntent
  /-- The next toggle of the chain begins. -/
  | toggle
  | leaveSubRoom
  | mediaReconnected
  | settle (task : Nat) (succeeded : Bool)

namespace VoiceCamera

def await (s : VoiceCamera) (inChain : Bool) (stage : CameraStage) : VoiceCamera :=
  { s with tasks := s.tasks ++ [⟨inChain, stage⟩] }

/-- The track that `unpublishCamera` takes: its own, or else the first that the SDK finds. -/
def cameraToUnpublish (s : VoiceCamera) : Option Nat :=
  s.localCameraPublication <|> s.publications.head?

def publishLocalCamera (s : VoiceCamera) (inChain : Bool) : VoiceCamera :=
  s.await inChain .getVideoInputDevice

def unpublishLocalCamera (s : VoiceCamera) (inChain : Bool) : VoiceCamera :=
  { s with localCameraPublication := none }.await inChain (.unpublishCamera s.cameraToUnpublish)

def toggle (s : VoiceCamera) : VoiceCamera :=
  if s.cameraIntent then { s with cameraIntent := false }.unpublishLocalCamera true
  else { s with cameraIntent := true, cameraPublication := .opening }.publishLocalCamera true

def stopLocalCameraAfterLeavingSubRoom (s : VoiceCamera) : VoiceCamera :=
  if s.cameraIntent then { s with cameraIntent := false }.unpublishLocalCamera false else s

def restorePublishedCameraAfterReconnect (s : VoiceCamera) : VoiceCamera :=
  if s.cameraIntent && s.cameraPublication = .published then s.publishLocalCamera false else s

/-- What `publishLocalCamera` does with an error: it begins to unpublish. -/
def fail (s : VoiceCamera) : VoiceCamera × Option CameraStage :=
  ({ s with
      cameraIntent := false, cameraPublication := .failing, localCameraPublication := none },
    some (.cleanup s.cameraToUnpublish))

/-- What a task does when its call has settled, and what it waits for next. -/
def resume (s : VoiceCamera) : CameraStage → Bool → VoiceCamera × Option CameraStage
  -- Settings that cannot be read are answered by a default.
  | .getVideoInputDevice, _ => (s, some .resolveCameraDeviceSelection)
  | .resolveCameraDeviceSelection, true =>
    ({ s with cameraPublication := .publishing }, some .publishCamera)
  | .resolveCameraDeviceSelection, false => s.fail
  | .publishCamera, true =>
    ({ s with
      cameraPublication := .published
      localCameraPublication := some s.nextTrack
      publications := s.publications ++ [s.nextTrack]
      nextTrack := s.nextTrack + 1 }, none)
  -- A call of `publishCamera` that fails forgets the track of an earlier one.
  | .publishCamera, false => { s with localCameraPublication := none }.fail
  | .cleanup found, succeeded | .unpublishCamera found, succeeded =>
    ({ s with
      cameraPublication := .idle
      publications := if succeeded then found.elim s.publications s.publications.erase
        else s.publications }, none)

def settle (s : VoiceCamera) (i : Nat) (task : CameraTask) (succeeded : Bool) : VoiceCamera :=
  match s.resume task.stage succeeded with
  | (s', some stage) => { s' with tasks := s.tasks.set i { task with stage } }
  | (s', none) => { s' with tasks := s.tasks.eraseIdx i }

def next (s : VoiceCamera) : CameraEvent → Option VoiceCamera
  | .toggleCameraIntent => some { s with cameraToggleChain := s.cameraToggleChain + 1 }
  | .toggle =>
    if s.cameraToggleChain = 0 || s.tasks.any (·.inChain) then none
    else some { s with cameraToggleChain := s.cameraToggleChain - 1 }.toggle
  | .leaveSubRoom => some s.stopLocalCameraAfterLeavingSubRoom
  | .mediaReconnected => some s.restorePublishedCameraAfterReconnect
  | .settle i succeeded => s.tasks[i]?.map (s.settle i · succeeded)

end VoiceCamera

def cameraMachine : Machine VoiceCamera CameraEvent := ⟨VoiceCamera.next⟩

end Wavis
