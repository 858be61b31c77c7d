import Wavis.RoomState

namespace Wavis

open Concurrency InMemoryRoomState

namespace RoomProg

variable {F : Type} {permitted : RoomOp F → Prop} {peerId : PeerId} {roomId : RoomId}

theorem within_removeEmptyRoom (hcheck : permitted (.checkEmpty roomId))
    (hremove : permitted (.removeRoom roomId)) :
    (removeEmptyRoom roomId : RoomProg F Bool).Within permitted := by
  refine .bind (.perform hcheck) fun isEmpty => ?_
  cases isEmpty with
  | true => exact .perform hremove
  | false => exact .pure

section

variable (hget : ∀ roomId, permitted (.getRoom roomId))
  (hretain : ∀ arc, permitted (.retainPeers arc peerId))
  (hremove : ∀ roomId, permitted (.removeRoom roomId))
include hget hretain hremove

theorem within_retain (test : Bool → Bool) :
    (do
      match ← RoomOp.perform (.getRoom roomId) with
      | none => pure ()
      | some arc => do
        let isEmpty ← RoomOp.perform (.retainPeers arc peerId)
        if test isEmpty then
          let _ ← RoomOp.perform (.removeRoom roomId)
        pure () : RoomProg F Unit).Within permitted := by
  refine .bind (.perform (hget roomId)) fun arc => ?_
  cases arc with
  | none => exact .pure
  | some arc =>
    refine .bind (.perform (hretain arc)) fun isEmpty => ?_
    split_ifs
    · exact .map (.perform (hremove roomId))
    · exact .pure

theorem within_removePeerInternal (hunlink : permitted (.unlinkPeer peerId))
    (removeEmptyRoom : Bool) :
    (removePeerInternal peerId removeEmptyRoom : RoomProg F Unit).Within permitted := by
  refine .bind (.perform hunlink) fun room => ?_
  cases room with
  | none => exact .pure
  | some roomId => exact within_retain hget hretain hremove (removeEmptyRoom && ·)

theorem within_addPeer (hensure : permitted (.ensureRoom roomId))
    (hmoving : ∀ arc, permitted (.pushUnlessMoving arc peerId roomId))
    (hpush : ∀ arc, permitted (.push arc peerId)) (hlink : permitted (.linkPeer peerId roomId)) :
    (addPeer peerId roomId : RoomProg F (Option Unit)).Within permitted := by
  refine .bind (.perform hensure) fun _ => ?_
  refine .bind (.perform (hget roomId)) fun arc => ?_
  cases arc with
  | none => exact .pure
  | some arc =>
    refine .bind (.perform (hmoving arc)) fun old => ?_
    cases old with
    | none => exact .map (.perform hlink)
    | some old =>
      refine .bind (within_retain hget hretain hremove id) fun _ => ?_
      refine .bind (.perform (hget roomId)) fun arc => ?_
      cases arc with
      | none => exact .pure
      | some arc =>
        refine .bind (.perform (hpush arc)) fun _ => ?_
        exact .map (.perform hlink)

end

end RoomProg

end Wavis
