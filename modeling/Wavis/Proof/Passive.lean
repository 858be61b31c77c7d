import Wavis.Proof.BackendOps
import Wavis.Proof.RoomEdit
import Wavis.Proof.RoomPrograms

namespace Wavis

open Concurrency Prog InMemoryRoomState

def InfoEdit.passive : InfoEdit → Bool
  | takeViewerIdentities _ => true
  | recordViewerIdentity _ _ => true
  | edit => edit.sharesOrSubRooms

def RoomOp.passive {F : Type} : RoomOp F → Bool
  | getRoom _ => true
  | checkEmpty _ => true
  | getRoomForPeer _ => true
  | readRoom _ => true
  | updateInfo _ edit => edit.passive
  | updateObject _ edit => edit.passive
  | _ => false

/-- The step neither bears on who is in which room nor sends anything. -/
def Op.inert : Op → Bool
  | room o => o.passive
  | readActiveRoom _ => true
  | sfuCreateRoom _ => true
  | sfuDestroyRoom _ => true
  | sfuAddParticipant _ _ => true
  | sfuRemoveParticipant _ _ => true
  | sfuForward _ _ => true
  | generateInvite _ _ _ _ => true
  | validateInvite _ _ _ => true
  | revokeInvite _ _ _ => true
  | removeRoomInvites _ => true
  | selectVoiceMembership _ _ => true
  | selectMembership _ _ => true
  | updatePassthrough _ _ => true
  | selectChatHistory _ _ _ => true
  | unregister _ => true
  | allow _ => true
  | readHealth => true
  | authenticate _ => true
  | randomText => true
  | getNow => true
  | scheduleExpiry _ _ => true
  | _ => false

def Op.passive : Op → Bool
  | send _ _ => true
  | o => o.inert

/-- The step is passive and edits no record of a room. -/
def Op.quiet : Op → Bool
  | room (.updateInfo _ _) => false
  | room (.updateObject _ _) => false
  | o => o.passive

abbrev BackendProg.Inert {α : Type} (program : BackendProg α) : Prop :=
  program.Within fun o => o.inert = true

abbrev BackendProg.Passive {α : Type} (program : BackendProg α) : Prop :=
  program.Within fun o => o.passive = true

abbrev BackendProg.Quiet {α : Type} (program : BackendProg α) : Prop :=
  program.Within fun o => o.quiet = true

theorem Op.passive_of_quiet {o : Op} (h : o.quiet = true) : o.passive = true := by
  cases o with
  | room o => cases o <;> first | exact h | cases h
  | _ => exact h

theorem BackendProg.Quiet.passive {α : Type} {program : BackendProg α} (h : program.Quiet) :
    program.Passive :=
  h.mono fun _ => Op.passive_of_quiet

theorem Op.passive_of_inert {o : Op} (h : o.inert = true) : o.passive = true := by
  cases o <;> first | exact h | cases h

theorem BackendProg.Inert.passive {α : Type} {program : BackendProg α} (h : program.Inert) :
    program.Passive :=
  h.mono fun _ => Op.passive_of_inert

variable {permitted : Op → Prop}

section

variable {peerId : PeerId} {roomId : RoomId} {α : Type} {edit : InfoEdit}

theorem within_perform {o : Op} (h : permitted o) : (Op.perform o).Within permitted :=
  .perform h

theorem within_roomState {program : RoomProg JoinCheck α}
    (h : program.Within fun o => permitted (.room o)) : (roomState program).Within permitted :=
  .lift h

theorem within_roomPerform {permitted : RoomOp JoinCheck → Prop} {o : RoomOp JoinCheck}
    (h : permitted o) : (RoomOp.perform o).Within permitted := Within.perform h

theorem within_getRoomForPeer (h : permitted (.room (.getRoomForPeer peerId))) :
    (roomState (getRoomForPeer peerId)).Within permitted :=
  within_roomState (within_roomPerform h)

section

variable (h : permitted (.room (.readRoom roomId)))
include h

theorem within_getRoomInfo : (roomState (getRoomInfo roomId)).Within permitted :=
  within_roomState (.map (within_roomPerform h))

theorem within_getPeersInRoom : (roomState (getPeersInRoom roomId)).Within permitted :=
  within_roomState (.map (within_roomPerform h))

theorem within_peerCount : (roomState (peerCount roomId)).Within permitted :=
  within_roomState (.map (.map (within_roomPerform h)))

end

theorem within_updateRoomInfo (h : permitted (.room (.updateInfo roomId edit))) :
    (roomState (updateRoomInfo roomId edit)).Within permitted :=
  within_roomState (within_roomPerform h)

theorem within_roomWrite {permitted : RoomOp JoinCheck → Prop}
    (hget : permitted (.getRoom roomId)) (hedit : ∀ arc, permitted (.updateObject arc edit)) :
    (withRoomWrite roomId edit : RoomProg JoinCheck _).Within permitted := by
  refine .bind (within_roomPerform hget) fun arc => ?_
  cases arc with
  | none => exact .pure
  | some arc => exact .map (within_roomPerform (hedit arc))

theorem within_withRoomWrite (hget : permitted (.room (.getRoom roomId)))
    (hedit : ∀ arc, permitted (.room (.updateObject arc edit))) :
    (roomState (withRoomWrite roomId edit)).Within permitted :=
  within_roomState (within_roomWrite hget hedit)

theorem within_isParticipantRevoked {ttlWindow : Duration}
    (hget : permitted (.room (.getRoom roomId)))
    (hedit : ∀ arc,
      permitted (.room (.updateObject arc (.isParticipantRevoked peerId ttlWindow)))) :
    (roomState (isParticipantRevoked roomId peerId ttlWindow)).Within permitted := by
  refine within_roomState (.bind (within_roomWrite hget hedit) fun before => ?_)
  split <;> exact .pure

theorem within_removePeerInternal {removeEmptyRoom : Bool}
    (hunlink : permitted (.room (.unlinkPeer peerId)))
    (hget : ∀ roomId, permitted (.room (.getRoom roomId)))
    (hretain : ∀ arc, permitted (.room (.retainPeers arc peerId)))
    (hremove : ∀ roomId, permitted (.room (.removeRoom roomId))) :
    (roomState (removePeerInternal peerId removeEmptyRoom)).Within permitted :=
  within_roomState (RoomProg.within_removePeerInternal hget hretain hremove hunlink _)

theorem within_afterRemoval {handle : Option SfuRoomHandle} {signals : List OutboundSignal}
    (hrevoke : permitted (.room (.updateInfo roomId (.addRevokedParticipant peerId))))
    (hcount : permitted (.room (.readRoom roomId)))
    (hdestroy : ∀ handle, permitted (.sfuDestroyRoom handle))
    (hremoved : permitted (.removed peerId roomId)) :
    (do
      let _ ← roomState (updateRoomInfo roomId (.addRevokedParticipant peerId))
      let remaining ← roomState (peerCount roomId)
      match handle with
      | some handle =>
        if remaining = 0 then
          let _ ← Op.perform (.sfuDestroyRoom handle)
      | none => pure ()
      Op.perform (.removed peerId roomId)
      pure signals : BackendProg (List OutboundSignal)).Within permitted := by
  refine .bind (within_updateRoomInfo hrevoke) fun _ => ?_
  refine .bind (within_peerCount hcount) fun remaining => ?_
  cases handle with
  | none => exact .map (within_perform hremoved)
  | some handle =>
    split_ifs
    · refine .bind (within_perform (hdestroy handle)) fun _ => ?_
      exact .map (within_perform hremoved)
    · exact .map (within_perform hremoved)

theorem within_sendTo {msg : SignalingMessage} (h : permitted (.send peerId msg)) :
    (sendTo peerId msg).Within permitted :=
  within_perform h

end

section

variable (roomId : RoomId) (peerId : PeerId) (expiry : Option PendingSubRoomExpiry)
  (signals : List OutboundSignal) (msg : SignalingMessage) (message : String)

theorem sendTo_quiet : (sendTo peerId msg).Quiet :=
  within_sendTo rfl

theorem sendError_quiet : (sendError peerId message).Quiet :=
  within_sendTo rfl

theorem dispatchSignal_quiet (signal : OutboundSignal) : (dispatchSignal roomId signal).Quiet := by
  unfold dispatchSignal
  split
  · exact within_sendTo rfl
  · refine .bind (within_getPeersInRoom rfl) fun peers => ?_
    exact .each (fun peer => sendTo_quiet peer _) _
  · refine .bind (within_getPeersInRoom rfl) fun peers => ?_
    exact .each (fun peer => sendTo_quiet peer _) _

theorem dispatchSignals_quiet : (dispatchSignals signals roomId).Quiet := by
  induction signals with
  | nil => exact trivial
  | cons signal rest ih => exact .bind (dispatchSignal_quiet roomId signal) fun _ => ih

theorem sendTo_passive : (sendTo peerId msg).Passive :=
  (sendTo_quiet peerId msg).passive

theorem sendError_passive : (sendError peerId message).Passive :=
  (sendError_quiet peerId message).passive

theorem dispatchSignals_passive : (dispatchSignals signals roomId).Passive :=
  (dispatchSignals_quiet roomId signals).passive

theorem within_scheduleSubRoomExpiry {roomId : RoomId}
    (h : ∀ expiry, permitted (.scheduleExpiry roomId expiry))
    (expiry : Option PendingSubRoomExpiry) :
    (scheduleSubRoomExpiry roomId expiry).Within permitted := by
  cases expiry with
  | none => exact .pure
  | some expiry => exact within_perform (h expiry)

theorem scheduleSubRoomExpiry_inert : (scheduleSubRoomExpiry roomId expiry).Inert :=
  within_scheduleSubRoomExpiry (fun _ => rfl) expiry

theorem scheduleSubRoomExpiry_quiet : (scheduleSubRoomExpiry roomId expiry).Quiet :=
  within_scheduleSubRoomExpiry (fun _ => rfl) expiry

end

section

variable (roomId : RoomId) (peerId : PeerId) (handle : Option SfuRoomHandle)
  (change : SubRoomChange) (identities : List String)

theorem within_shareStateSnapshot {roomId : RoomId} {peerId : PeerId}
    (h : permitted (.room (.readRoom roomId))) :
    (shareStateSnapshot roomId peerId).Within permitted := by
  refine .bind (within_getRoomInfo h) fun info => ?_
  cases info <;> exact .pure

theorem shareStateSnapshot_inert : (shareStateSnapshot roomId peerId).Inert :=
  within_shareStateSnapshot rfl

theorem shareStateSnapshot_quiet : (shareStateSnapshot roomId peerId).Quiet :=
  within_shareStateSnapshot rfl

theorem cleanupShareOnDisconnect_inert : (cleanupShareOnDisconnect roomId peerId).Inert := by
  refine .bind (within_withRoomWrite rfl fun _ => rfl) fun before => ?_
  cases before <;> exact .pure

theorem takeViewerIdentities_inert : (takeViewerIdentities roomId peerId).Inert :=
  .map (within_updateRoomInfo rfl)

theorem within_sfuRemoveAll {handle : Option SfuRoomHandle}
    (h : ∀ handle identity, permitted (.sfuRemoveParticipant handle identity))
    (identities : List String) : (sfuRemoveAll handle identities).Within permitted := by
  cases handle with
  | none => exact .pure
  | some handle =>
    refine .each (fun identity => ?_) identities
    exact .map (within_perform (h handle identity))

theorem sfuRemoveAll_inert : (sfuRemoveAll handle identities).Inert :=
  within_sfuRemoveAll (fun _ _ => rfl) identities

theorem sfuRemoveAll_quiet : (sfuRemoveAll handle identities).Quiet :=
  within_sfuRemoveAll (fun _ _ => rfl) identities

theorem participantInRoom_inert : (participantInRoom roomId peerId).Inert :=
  .map (within_getRoomInfo rfl)

theorem within_subRoomStateSignals {roomId : RoomId}
    (hread : permitted (.room (.readRoom roomId))) (hnow : permitted .getNow) :
    (subRoomStateSignals roomId).Within permitted := by
  refine .bind (within_getRoomInfo hread) fun info => ?_
  split
  · exact .pure
  · exact .map (within_perform hnow)

theorem within_announceSubRooms {roomId : RoomId} {change : SubRoomChange}
    (hread : permitted (.room (.readRoom roomId))) (hnow : permitted .getNow) :
    (announceSubRooms roomId change).Within permitted :=
  .map (within_subRoomStateSignals hread hnow)

theorem subRoomStateSignals_quiet : (subRoomStateSignals roomId).Quiet :=
  within_subRoomStateSignals rfl rfl

theorem syncSubRoomStateOnVoiceJoin_inert (supportsSubRooms : Bool) :
    (syncSubRoomStateOnVoiceJoin roomId peerId supportsSubRooms).Inert :=
  .bind (within_updateRoomInfo rfl) fun _ =>
    .map (within_subRoomStateSignals rfl rfl)

theorem announceSubRooms_quiet : (announceSubRooms roomId change).Quiet :=
  within_announceSubRooms rfl rfl

section

variable {roomId : RoomId} {peerId : PeerId} (hget : permitted (.room (.getRoom roomId)))
  (hread : permitted (.room (.readRoom roomId))) (hnow : permitted .getNow)
  (hedit : ∀ arc, permitted (.room (.updateObject arc (.leaveSubRoom peerId))))
include hget hread hnow hedit

theorem within_leaveSubRoom : (leaveSubRoom roomId peerId).Within permitted := by
  refine .bind (within_withRoomWrite hget hedit) fun before => ?_
  cases before with
  | none => exact .pure
  | some before =>
    exact .map (within_announceSubRooms hread hnow)

theorem within_removeParticipantFromSubRoom :
    (removeParticipantFromSubRoom roomId peerId).Within permitted := by
  refine .bind (within_leaveSubRoom hget hread hnow hedit) fun result => ?_
  cases result <;> exact .pure

end

theorem removeParticipantFromSubRoom_inert :
    (removeParticipantFromSubRoom roomId peerId).Inert :=
  within_removeParticipantFromSubRoom rfl rfl rfl fun _ => rfl

end

section

variable {roomId : RoomId} {channelId : Uuid}

theorem within_rollbackRoom (hcheck : permitted (.room (.checkEmpty roomId)))
    (hremove : permitted (.room (.removeRoom roomId)))
    (hactive : permitted (.removeActiveRoomIf channelId roomId)) :
    (rollbackRoom roomId channelId).Within permitted :=
  Within.bind (within_roomState (RoomProg.within_removeEmptyRoom hcheck hremove)) fun _ =>
    within_perform hactive

theorem within_releaseVoiceRoom (hread : permitted (.room (.readRoom roomId)))
    (hdestroy : ∀ handle, permitted (.sfuDestroyRoom handle))
    (hrollback : (rollbackRoom roomId channelId).Within permitted) :
    (releaseVoiceRoom roomId channelId).Within permitted := by
  refine .bind (within_getRoomInfo hread) fun info => ?_
  cases info.bind (·.sfuHandle) with
  | none => exact hrollback
  | some handle => exact .bind (within_perform (hdestroy handle)) fun _ => hrollback

theorem within_findUserInVoice {userId : Uuid} (hactive : permitted (.readActiveRoom channelId))
    (hread : ∀ roomId, permitted (.room (.readRoom roomId))) :
    (findUserInVoice channelId userId).Within permitted := by
  refine .bind (within_perform hactive) fun room => ?_
  cases room with
  | none => exact .pure
  | some roomId => exact .map (within_getRoomInfo (hread roomId))

theorem within_cleanupRoomArtifacts {session : SignalingSession}
    (hread : permitted (.room (.readRoom session.roomId)))
    (hinvites : permitted (.removeRoomInvites session.roomId))
    (hactive : ∀ channelId, permitted (.removeActiveRoomIf channelId session.roomId)) :
    (cleanupRoomArtifacts session).Within permitted := by
  refine .bind (within_getRoomInfo hread) fun info => ?_
  split
  · exact .pure
  refine .bind (within_perform hinvites) fun _ => ?_
  split
  · exact within_perform (hactive _)
  · exact .pure

theorem within_banMember {requesterUserId targetUserId : Uuid} (hnow : permitted .getNow)
    (hselect : ∀ userId, permitted (.selectMembership channelId userId))
    (hupdate : permitted (.updateBan channelId targetUserId))
    (hcommit : ∀ now, permitted (.commitBan channelId targetUserId now)) :
    (banMember channelId requesterUserId targetUserId).Within permitted := by
  unfold banMember
  split
  · exact .pure
  refine .bind (within_perform hnow) fun now => ?_
  refine .bind (within_perform (hselect _)) fun requester => ?_
  rcases requester with e | _ | requester
  · exact .pure
  · exact .pure
  dsimp only
  split
  · exact .pure
  refine .bind (within_perform (hselect _)) fun target => ?_
  rcases target with e | _ | target
  · exact .pure
  · exact .pure
  dsimp only
  split
  · exact .pure
  refine .bind (within_perform hupdate) fun updated => ?_
  cases updated with
  | error e => exact .pure
  | ok _ =>
    refine .bind (within_perform (hcommit now)) fun committed => ?_
    cases committed <;> exact .pure

end

end Wavis
