import Wavis.Concurrency.Machine

/-! The helper page in the browser sends one frame at a time. The first frame that gets through
publishes the video track, and every frame is fed to it. Decoding and scaling are given by a codec,
and a frame arrives together with what it finds of the media module. -/

namespace Wavis

open Concurrency

structure HelperSession where
  id : String
  stopRequested : Bool
  published : Bool
  publishingInProgress : Bool
  deriving DecidableEq

structure FrameCodec (Image : Type) where
  decodeHelperFrame : List UInt8 → Except String Image
  capResolution : Image → Image

structure HelperConnection where
  isAvailable : Bool
  publishVideo : Except String Unit
  feedVideoFrame : Except String Unit

structure HelperFrame where
  body : List UInt8
  /-- Whether the application has its media state. -/
  mediaState : Bool
  lk : Option HelperConnection

/-- The session, whether the video track is published, and the images fed to it. -/
structure HelperState (Image : Type) where
  activeSession : Option HelperSession
  trackPublished : Bool
  fed : List Image

/-- What the first look at the session decides about a frame. -/
inductive FrameVerdict where
  | refused (error : String)
  /-- The track is being published. -/
  | dropped
  | accepted (session : HelperSession) (needsPublish : Bool)

def admitFrame (sessionId : String) : Option HelperSession → FrameVerdict
  | none => .refused "helper session not active"
  | some session =>
    if session.id ≠ sessionId then .refused "helper session mismatch"
    else if session.stopRequested then .refused "helper session stopping"
    else if session.publishingInProgress then .dropped
    else if session.published then .accepted session false
    else .accepted { session with publishingInProgress := true } true

namespace FrameCodec

variable {Image : Type} (codec : FrameCodec Image)

def prepareFrame (frame : HelperFrame) : Except String (Image × HelperConnection) :=
  if frame.mediaState = false then .error "media state unavailable"
  else
    match codec.decodeHelperFrame frame.body with
    | .error e => .error ("failed to decode helper frame: " ++ e)
    | .ok decoded =>
      match frame.lk with
      | none => .error "not connected to a room"
      | some conn =>
        if conn.isAvailable = false then .error "not connected to a room"
        else .ok (codec.capResolution decoded, conn)

def feed (image : Image) (conn : HelperConnection) (s : HelperState Image) :
    Except String Unit × HelperState Image :=
  (conn.feedVideoFrame.mapError fun e => "failed to feed external share frame: " ++ e,
    { s with fed := s.fed ++ [image] })

def processHelperFrame (sessionId : String) (frame : HelperFrame) (s : HelperState Image) :
    Except String Unit × HelperState Image :=
  if frame.body.isEmpty then (.error "empty frame body", s)
  else
    match admitFrame sessionId s.activeSession with
    | .refused e => (.error e, s)
    | .dropped => (.ok (), s)
    | .accepted session needsPublish =>
      -- The session is stored before the steps that can fail.
      let s := { s with activeSession := some session }
      match codec.prepareFrame frame with
      | .error e => (.error e, s)
      | .ok (image, conn) =>
        if needsPublish then
          let session := { session with publishingInProgress := false }
          match conn.publishVideo with
          | .error e =>
            (.error ("failed to publish external share video track: " ++ e),
              { s with activeSession := some session })
          | .ok () =>
            feed image conn { s with
              activeSession := some { session with published := true }
              trackPublished := true }
        else feed image conn s

def helperMachine (sessionId : String) : Machine (HelperState Image) HelperFrame :=
  ⟨fun s frame => some (codec.processHelperFrame sessionId frame s).2⟩

end FrameCodec

/-- The state after `external_share_start`. -/
def HelperState.started {Image : Type} (sessionId : String) : HelperState Image :=
  ⟨some ⟨sessionId, false, false, false⟩, false, []⟩

end Wavis
