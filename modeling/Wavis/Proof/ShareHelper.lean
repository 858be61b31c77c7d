import Wavis.Client.ShareHelper

namespace Wavis

open Concurrency

namespace FrameCodec

variable {Image : Type} {codec : FrameCodec Image} {sessionId : String} {s : HelperState Image}
  {frame : HelperFrame} {image : Image} {conn : HelperConnection}

/-- The frame is refused at once, or gets as far as the connection. -/
def Usable (codec : FrameCodec Image) (frame : HelperFrame) : Prop :=
  frame.body.isEmpty = true ∨ ∃ image conn, codec.prepareFrame frame = .ok (image, conn)

/-- Frames fail on their way to the connection only when the track is published. -/
def Permitted (codec : FrameCodec Image) (s : HelperState Image) (frame : HelperFrame) : Prop :=
  s.activeSession.any (·.published) = true ∨ codec.Usable frame

def delivered (codec : FrameCodec Image) (frame : HelperFrame) : Option Image :=
  if frame.body.isEmpty then none
  else
    match codec.prepareFrame frame with
    | .error _ => none
    | .ok (image, _) => some image

def Unmarked (sessionId : String) (s : HelperState Image) : Prop :=
  s.activeSession = some ⟨sessionId, false, s.trackPublished, false⟩

section

variable (h : Unmarked sessionId s)
include h

theorem process_of_published (hpublished : s.trackPublished = true) (frame : HelperFrame) :
    (codec.processHelperFrame sessionId frame s).2
      = { s with fed := s.fed ++ (codec.delivered frame).toList } := by
  obtain ⟨session, published, fed⟩ := s
  dsimp only [Unmarked] at h hpublished
  subst hpublished h
  unfold processHelperFrame delivered
  cases frame.body.isEmpty with
  | true => simp
  | false => cases codec.prepareFrame frame <;> simp [admitFrame, feed]

theorem process_of_unpublished (hpublished : s.trackPublished = false)
    (hbody : frame.body.isEmpty = false)
    (hprepared : codec.prepareFrame frame = .ok (image, conn)) :
    (codec.processHelperFrame sessionId frame s).2
      = match conn.publishVideo with
        | .error _ => s
        | .ok () => ⟨some ⟨sessionId, false, true, false⟩, true, s.fed ++ [image]⟩ := by
  obtain ⟨session, published, fed⟩ := s
  dsimp only [Unmarked] at h hpublished
  subst hpublished h
  unfold processHelperFrame
  cases hpublish : conn.publishVideo <;> simp [admitFrame, feed, hbody, hprepared, hpublish]

theorem Unmarked.process (hpermitted : codec.Permitted s frame) :
    Unmarked sessionId (codec.processHelperFrame sessionId frame s).2 := by
  cases hpublished : s.trackPublished with
  | true =>
    rw [process_of_published h hpublished]
    exact h
  | false =>
    rcases hpermitted with hany | hempty | ⟨image, conn, hprepared⟩
    · rw [h, hpublished] at hany
      cases hany
    · rw [processHelperFrame, if_pos hempty]
      exact h
    · cases hbody : frame.body.isEmpty with
      | true =>
        rw [processHelperFrame, if_pos hbody]
        exact h
      | false =>
        rw [process_of_unpublished h hpublished hbody hprepared]
        cases conn.publishVideo with
        | error e => exact h
        | ok _ => rfl

theorem fed_of_published (hpublished : s.trackPublished = true) (later : List HelperFrame) :
    (later.foldl (fun s frame => (codec.processHelperFrame sessionId frame s).2) s).fed
      = s.fed ++ later.filterMap codec.delivered := by
  induction later generalizing s with
  | nil => simp
  | cons frame later ih =>
    rw [List.foldl_cons, process_of_published h hpublished]
    refine (ih ?_ ?_).trans ?_
    · exact h
    · exact hpublished
    cases hframe : codec.delivered frame <;> simp [hframe]

end

def byteCodec : FrameCodec (List UInt8) where
  decodeHelperFrame body := if body.head? = some 0 then .error "no image" else .ok body
  capResolution body := body

/-- A frame that finds an available connection, where the publication succeeds or fails. -/
def arriving (body : List UInt8) (publishVideo : Except String Unit) : HelperFrame :=
  ⟨body, true, some ⟨true, publishVideo, .ok ()⟩⟩

end FrameCodec

end Wavis
