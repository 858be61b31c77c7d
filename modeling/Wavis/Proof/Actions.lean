import Wavis.Proof.VoicePrograms

namespace Wavis

open Concurrency InMemoryRoomState

/-- The edit leaves revocations, token times and the set of participants alone. -/
def InfoEdit.plain : InfoEdit → Bool
  | mute _ => true
  | unmute _ => true
  | selfFlag _ _ => true
  | rename _ _ => true
  | edit => edit.passive

def Op.plain : Op → Bool
  | room (.updateInfo _ edit) => edit.plain
  | room (.updateObject _ edit) => edit.plain
  | o => o.passive

theorem InfoEdit.plain_of_passive {edit : InfoEdit} (h : edit.passive = true) :
    edit.plain = true := by
  cases edit <;> first | exact h | rfl

theorem Op.plain_of_passive {o : Op} (h : o.passive = true) : o.plain = true := by
  cases o with
  | room o =>
    cases o with
    | updateInfo roomId edit | updateObject arc edit => exact InfoEdit.plain_of_passive h
    | _ => exact h
  | _ => exact h

abbrev BackendProg.Plain {α : Type} (program : BackendProg α) : Prop :=
  program.Within fun o => o.plain = true

theorem BackendProg.Passive.plain {α : Type} {program : BackendProg α} (h : program.Passive) :
    program.Plain :=
  h.mono fun _ => Op.plain_of_passive

variable {session : SignalingSession} {role : ParticipantRole} {msg : SignalingMessage}
  (config : Config) (peerId : PeerId) (issuerId : String) {permitted : Op → Prop} {roomId : RoomId}

section

variable (peerId : PeerId) (channelId userId : Uuid)

theorem checkActionRateLimit_quiet : (checkActionRateLimit peerId).Quiet := by
  refine .bind (within_perform rfl) fun allowed => ?_
  cases allowed with
  | true => exact .pure
  | false => exact .map (within_sendTo rfl)

theorem requireRoom_quiet : (requireRoom peerId).Quiet := by
  refine .bind (within_getRoomForPeer rfl) fun room => ?_
  cases room with
  | some roomId => exact .pure
  | none => exact .map (within_sendTo rfl)

theorem requireSfuRoom_quiet : (requireSfuRoom peerId).Quiet := by
  refine .bind (requireRoom_quiet peerId) fun room => ?_
  cases room with
  | none => exact .pure
  | some roomId =>
    refine .bind (within_getRoomInfo rfl) fun info => ?_
    split
    · exact .pure
    · exact .map (within_sendTo rfl)

theorem getCurrentChannelRole_quiet : (getCurrentChannelRole channelId userId).Quiet := by
  refine .bind (within_perform rfl) fun membership => ?_
  cases membership <;> exact .pure

theorem resolveEffectiveRole_quiet (session : SignalingSession) :
    (resolveEffectiveRole peerId session).Quiet := by
  unfold resolveEffectiveRole
  split
  · refine .bind (getCurrentChannelRole_quiet _ _) fun role => ?_
    rcases role with e | _ | role
    · exact .map (within_sendTo rfl)
    · exact .map (within_sendTo rfl)
    · exact .pure
  · exact .pure

theorem requireHost_quiet (role : ParticipantRole) : (requireHost peerId role).Quiet := by
  unfold requireHost
  split_ifs
  · exact .pure
  · exact .map (within_sendTo rfl)

theorem requireTargetInRoom_quiet (info : RoomInfo) (targetId : PeerId) :
    (requireTargetInRoom peerId info targetId).Quiet := by
  unfold requireTargetInRoom
  split_ifs
  · exact .pure
  · exact .map (within_sendTo rfl)

theorem requireHostRole_quiet : (requireHostRole peerId channelId userId).Quiet := by
  refine .bind (getCurrentChannelRole_quiet _ _) fun role => ?_
  rcases role with e | _ | role
  · exact .map (sendError_quiet _ _)
  · exact .map (sendError_quiet _ _)
  · exact requireHost_quiet peerId _

end

section

variable (config : Config) (senderId : PeerId) (description : SessionDescription)
  (message : SignalingMessage)

theorem relaySignaling_quiet : (relaySignaling senderId message).Quiet := by
  refine .bind (within_getRoomForPeer rfl) fun room => ?_
  cases room with
  | none => exact .pure
  | some roomId =>
    refine .bind (within_getPeersInRoom rfl) fun peers => ?_
    split <;> exact .pure

theorem handleSignalingEvent_quiet : (handleSignalingEvent senderId message).Quiet := by
  refine .bind (relaySignaling_quiet senderId message) fun result => ?_
  cases result <;> exact sendTo_quiet _ _

theorem senderSfuHandle_quiet : (senderSfuHandle senderId).Quiet := by
  refine .bind (within_getRoomForPeer rfl) fun room => ?_
  cases room with
  | none => exact .pure
  | some roomId =>
    refine .bind (within_getRoomInfo rfl) fun info => ?_
    split_ifs
    · exact .map (within_getRoomInfo rfl)
    · exact .pure

theorem dispatchOffer_quiet : (dispatchOffer config senderId description).Quiet := by
  unfold dispatchOffer
  split
  · exact sendError_quiet _ _
  · refine .bind (senderSfuHandle_quiet senderId) fun handle => ?_
    cases handle with
    | none => exact handleSignalingEvent_quiet senderId _
    | some handle =>
      split_ifs
      · refine .bind (within_perform rfl) fun answer => ?_
        cases answer with
        | ok answerSdp => exact sendTo_quiet _ _
        | error e => exact sendError_quiet _ _
      · exact .pure

theorem dispatchIceCandidate_quiet (candidate : IceCandidate) :
    (dispatchIceCandidate config senderId candidate).Quiet := by
  unfold dispatchIceCandidate
  split
  · exact sendError_quiet _ _
  · refine .bind (senderSfuHandle_quiet senderId) fun handle => ?_
    cases handle with
    | none => exact handleSignalingEvent_quiet senderId _
    | some handle =>
      split_ifs
      · exact .map (within_perform rfl)
      · exact .pure

theorem dispatchAnswer_quiet : (dispatchAnswer senderId description).Quiet := by
  unfold dispatchAnswer
  split_ifs
  · exact sendError_quiet _ _
  · refine .bind (within_getRoomForPeer rfl) fun room => ?_
    cases room with
    | none => exact handleSignalingEvent_quiet senderId _
    | some roomId =>
      refine .bind (within_getRoomInfo rfl) fun info => ?_
      split_ifs
      · exact .pure
      · exact handleSignalingEvent_quiet senderId _

theorem dispatchInviteCreate_quiet (maxUses : Option Nat) :
    (dispatchInviteCreate config senderId issuerId maxUses).Quiet := by
  refine .bind (requireRoom_quiet senderId) fun room => ?_
  cases room with
  | none => exact .pure
  | some roomId =>
    refine .bind (within_perform rfl) fun now => ?_
    refine .bind (within_perform rfl) fun record => ?_
    rcases record with e | record
    · cases e <;> exact sendError_quiet _ _
    · exact sendTo_quiet _ _

theorem dispatchInviteRevoke_quiet (session : SignalingSession) (inviteCode : String) :
    (dispatchInviteRevoke session inviteCode).Quiet := by
  refine .bind (within_perform rfl) fun revoked => ?_
  rcases revoked with e | _
  · cases e <;> exact sendError_quiet _ _
  · exact sendTo_quiet _ _

end

structure Permits (permitted : Op → Prop) (edit : InfoEdit) : Prop where
  updateInfo : ∀ roomId, permitted (.room (.updateInfo roomId edit))
  updateObject : ∀ arc, permitted (.room (.updateObject arc edit))

section

variable {targetId : PeerId} (session : SignalingSession) (senderId : PeerId)
  (hquiet : ∀ o, o.quiet = true → permitted o) {announcement : SignalingMessage}

include hquiet

theorem within_dispatchHostAction {action : RoomId → ParticipantRole → BackendProg Unit}
    (haction : ∀ roomId role, (action roomId role).Within permitted) :
    (dispatchHostAction session targetId action).Within permitted := by
  refine .bind ((checkActionRateLimit_quiet _).mono hquiet) fun allowed => ?_
  split_ifs
  · refine .bind ((requireSfuRoom_quiet _).mono hquiet) fun room => ?_
    cases room with
    | none => exact .pure
    | some room =>
      obtain ⟨roomId, info⟩ := room
      refine .bind ((resolveEffectiveRole_quiet _ _).mono hquiet) fun role => ?_
      cases role with
      | none => exact .pure
      | some role =>
        refine .bind ((requireHost_quiet _ _).mono hquiet) fun isHost => ?_
        split_ifs
        · refine .bind ((requireTargetInRoom_quiet _ _ _).mono hquiet)
            fun inRoom => ?_
          split_ifs
          · exact haction roomId role
          · exact .pure
        · exact .pure
  · exact .pure

theorem within_handleHostFlag {refusal : String} {edit : InfoEdit}
    (hedit : Permits permitted edit) :
    (handleHostFlag roomId role targetId refusal edit announcement).Within permitted := by
  unfold handleHostFlag participantInRoom
  split_ifs
  · exact .pure
  · refine .bind (.map (within_getRoomInfo (hquiet _ rfl)))
      fun listed => ?_
    split_ifs
    · exact .pure
    · exact .map (within_updateRoomInfo (hedit.updateInfo _))

theorem within_dispatchMute (hedit : Permits permitted (.mute targetId)) :
    (dispatchMute session targetId).Within permitted := by
  refine within_dispatchHostAction session hquiet fun roomId role => ?_
  refine .bind (within_handleHostFlag hquiet hedit) fun result => ?_
  cases result with
  | ok signals => exact (dispatchSignals_quiet _ _).mono hquiet
  | error e => exact (sendError_quiet _ _).mono hquiet

theorem within_dispatchUnmute (hedit : Permits permitted (.unmute targetId)) :
    (dispatchUnmute session targetId).Within permitted := by
  refine within_dispatchHostAction session hquiet fun roomId role => ?_
  refine .bind (within_handleHostFlag hquiet hedit) fun result => ?_
  cases result with
  | ok signals => exact (dispatchSignals_quiet _ _).mono hquiet
  | error e => exact (sendError_quiet _ _).mono hquiet

theorem within_handleSelfFlag {flag : SelfFlag}
    (hedit : Permits permitted (.selfFlag senderId flag)) :
    (handleSelfFlag senderId flag announcement).Within permitted := by
  refine .bind (within_perform (hquiet _ rfl)) fun allowed => ?_
  split_ifs
  · refine .bind ((requireRoom_quiet senderId).mono hquiet) fun room => ?_
    cases room with
    | none => exact .pure
    | some roomId =>
      exact .bind (within_updateRoomInfo (hedit.updateInfo _)) fun _ =>
        (dispatchSignals_quiet _ _).mono hquiet
  · exact (sendError_quiet _ _).mono hquiet

theorem within_dispatchUpdateUsername {username : String}
    (hedit : Permits permitted (.rename senderId username)) :
    (dispatchUpdateUsername senderId username).Within permitted := by
  refine .bind ((checkActionRateLimit_quiet senderId).mono hquiet) fun allowed => ?_
  split_ifs
  · refine .bind ((requireRoom_quiet senderId).mono hquiet) fun room => ?_
    cases room with
    | none => exact .pure
    | some roomId =>
      exact .bind (within_updateRoomInfo (hedit.updateInfo _)) fun _ =>
        (dispatchSignals_quiet _ _).mono hquiet
  · exact .pure

omit hquiet in
theorem dispatchUpdateProfileColor_quiet (profileColor : String) :
    (dispatchUpdateProfileColor senderId profileColor).Quiet := by
  refine .bind (checkActionRateLimit_quiet senderId) fun allowed => ?_
  split_ifs
  · refine .bind (requireRoom_quiet senderId) fun room => ?_
    cases room with
    | none => exact .pure
    | some roomId => exact dispatchSignals_quiet _ _
  · exact .pure

end

section

variable (session : SignalingSession) (senderId : PeerId)
  (hquiet : ∀ o, o.quiet = true → permitted o) {shareType : Option WireShareType}

include hquiet

theorem within_runShare {edit : InfoEdit} {missing : ShareResult}
    {result : RoomMembers → ShareResult} (hedit : Permits permitted edit) :
    (runShare roomId edit missing result).Within permitted := by
  refine .bind (within_withRoomWrite (hquiet _ rfl) hedit.updateObject) fun before => ?_
  cases before <;> exact .pure

theorem within_dispatchShare {action : RoomId → BackendProg ShareResult}
    (haction : ∀ roomId, (action roomId).Within permitted) :
    (dispatchShare senderId action).Within permitted := by
  refine .bind ((requireRoom_quiet senderId).mono hquiet) fun room => ?_
  cases room with
  | none => exact .pure
  | some roomId =>
    refine .bind (haction roomId) fun result => ?_
    cases result with
    | ok signals => exact (dispatchSignals_quiet _ _).mono hquiet
    | noop => exact .pure
    | error err => exact (sendTo_quiet _ _).mono hquiet

theorem within_dispatchStartShare
    (hedit : Permits permitted (.startShare session.participantId session.role shareType)) :
    (dispatchStartShare session shareType).Within permitted := by
  refine .bind ((checkActionRateLimit_quiet _).mono hquiet) fun allowed => ?_
  split_ifs
  · exact within_dispatchShare _ hquiet fun roomId => within_runShare hquiet hedit
  · exact .pure

theorem within_dispatchStopShare {targetId : Option PeerId}
    (hedit : Permits permitted (.stopShare (targetId.getD session.participantId) shareType)) :
    (dispatchStopShare session targetId shareType).Within permitted := by
  refine .bind (within_perform (hquiet _ rfl)) fun allowed => ?_
  split_ifs
  · refine within_dispatchShare _ hquiet fun roomId => ?_
    unfold handleStopShare
    dsimp only
    split_ifs
    · exact .pure
    · exact within_runShare hquiet hedit
  · exact .pure

theorem within_dispatchStopAllShares (hedit : Permits permitted .stopAllShares) :
    (dispatchStopAllShares session).Within permitted := by
  refine .bind (within_perform (hquiet _ rfl)) fun allowed => ?_
  split_ifs
  · refine within_dispatchShare _ hquiet fun roomId => ?_
    unfold handleStopAllShares
    split_ifs
    · exact .pure
    · exact within_runShare hquiet hedit
  · exact .pure

theorem within_dispatchSetSharePermission {permission : WireSharePermission}
    (hedit : Permits permitted (.setSharePermission session.participantId permission)) :
    (dispatchSetSharePermission session permission).Within permitted := by
  refine .bind ((checkActionRateLimit_quiet _).mono hquiet) fun allowed => ?_
  split_ifs
  · refine .bind ((requireRoom_quiet _).mono hquiet) fun room => ?_
    cases room with
    | none => exact .pure
    | some roomId =>
      refine .bind ((resolveEffectiveRole_quiet _ _).mono hquiet) fun role => ?_
      cases role with
      | none => exact .pure
      | some role =>
        have hset : (handleSetSharePermission roomId session.participantId role
            permission).Within permitted := by
          unfold handleSetSharePermission
          split_ifs
          · exact .pure
          · exact within_runShare hquiet hedit
        refine .bind hset fun result => ?_
        cases result with
        | ok signals => exact (dispatchSignals_quiet _ _).mono hquiet
        | noop => exact .pure
        | error err => exact (sendTo_quiet _ _).mono hquiet
  · exact .pure

end

section

variable {refusal : String} (peerId : PeerId) (session : SignalingSession)
  (hquiet : ∀ o, o.quiet = true → permitted o) {action : Uuid → BackendProg Unit} {enabled : Bool}

include hquiet

theorem within_createSubRoom (hedit : Permits permitted .createSubRoom) :
    (createSubRoom roomId).Within permitted := by
  refine .bind (within_updateRoomInfo (hedit.updateInfo _)) fun before => ?_
  cases before with
  | none => exact .pure
  | some before =>
    exact .map (within_announceSubRooms (hquiet _ rfl) (hquiet _ rfl))

theorem within_joinSubRoom {subRoomId : String}
    (hedit : Permits permitted (.joinSubRoom subRoomId peerId)) :
    (joinSubRoom roomId subRoomId peerId).Within permitted := by
  refine .bind (within_withRoomWrite (hquiet _ rfl) hedit.updateObject) fun before => ?_
  cases before with
  | none => exact .pure
  | some before =>
    dsimp only
    split
    · exact .pure
    · exact .map (within_announceSubRooms (hquiet _ rfl) (hquiet _ rfl))

theorem within_announceIfChanged {changed : Bool} :
    (announceIfChanged roomId changed).Within permitted := by
  unfold announceIfChanged
  split_ifs
  · exact .map (within_subRoomStateSignals (hquiet _ rfl) (hquiet _ rfl))
  · exact .pure

theorem within_changePassthrough {edit : InfoEdit} {outcome : RoomInfo → Except String Bool}
    (hedit : Permits permitted edit) :
    (changePassthrough roomId edit outcome).Within permitted := by
  refine .bind (within_withRoomWrite (hquiet _ rfl) hedit.updateObject) fun before => ?_
  cases before with
  | none => exact .pure
  | some before =>
    dsimp only
    split
    · exact .pure
    · exact .map (within_announceIfChanged hquiet)

theorem within_changeSubRoomSetting {edit : InfoEdit} {changed : RoomInfo → Bool}
    (hedit : Permits permitted edit) :
    (changeSubRoomSetting roomId edit changed).Within permitted := by
  refine .bind (within_withRoomWrite (hquiet _ rfl) hedit.updateObject) fun before => ?_
  cases before with
  | none => exact .pure
  | some before => exact .map (within_announceIfChanged hquiet)

theorem within_withVoiceSession (haction : ∀ channelId, (action channelId).Within permitted) :
    (withVoiceSession peerId session refusal action).Within permitted := by
  unfold withVoiceSession
  split
  · exact (sendError_quiet _ _).mono hquiet
  · refine .bind (within_perform (hquiet _ rfl)) fun allowed => ?_
    split_ifs
    · exact haction _
    · exact .pure

theorem within_dispatchSubRoomAction {action : BackendProg (Except String SubRoomActionResult)}
    (haction : action.Within permitted) :
    (dispatchSubRoomAction peerId session refusal action).Within permitted := by
  refine within_withVoiceSession peerId session hquiet fun _ => ?_
  refine .bind haction fun result => ?_
  cases result with
  | ok result =>
    refine .bind ((dispatchSignals_quiet _ _).mono hquiet) fun _ => ?_
    cases result.expiry with
    | none => exact .pure
    | some expiry => exact within_perform (hquiet _ rfl)
  | error message => exact (sendError_quiet _ _).mono hquiet

theorem within_dispatchHostSetting (haction : ∀ channelId, (action channelId).Within permitted) :
    (dispatchHostSetting peerId session refusal action).Within permitted := by
  refine within_withVoiceSession peerId session hquiet fun channelId => ?_
  split
  · exact .pure
  · refine .bind ((requireHostRole_quiet _ _ _).mono hquiet) fun isHost => ?_
    split_ifs
    · exact haction channelId
    · exact .pure

theorem within_dispatchSetPassthroughEnabled
    (hedit : Permits permitted (.setPassthroughEnabled enabled)) :
    (dispatchSetPassthroughEnabled peerId session enabled).Within permitted := by
  refine within_dispatchHostSetting peerId session hquiet fun channelId => ?_
  have hset : (setPassthroughEnabled session.roomId channelId enabled).Within permitted := by
    refine .bind (within_perform (hquiet _ rfl)) fun updated => ?_
    rcases updated with e | _ | _
    · exact .pure
    · exact .pure
    · refine .bind (within_changeSubRoomSetting hquiet hedit) fun result => ?_
      cases result <;> exact .pure
  refine .bind hset fun result => ?_
  cases result with
  | ok result => exact (dispatchSignals_quiet _ _).mono hquiet
  | error message => exact (sendError_quiet _ _).mono hquiet

theorem within_dispatchSetPassthroughVolume {volume : Nat}
    (hedit : Permits permitted (.setPassthroughVolume volume)) :
    (dispatchSetPassthroughVolume peerId session volume).Within permitted := by
  refine within_dispatchHostSetting peerId session hquiet fun _ => ?_
  refine .bind ?_ fun result => (dispatchSignals_quiet _ _).mono hquiet
  exact .map (within_changeSubRoomSetting hquiet hedit)

theorem within_dispatchSetPassthroughFilter {strength : Nat}
    (hedit : Permits permitted (.setPassthroughFilter enabled strength)) :
    (dispatchSetPassthroughFilter peerId session enabled strength).Within permitted := by
  refine within_dispatchHostSetting peerId session hquiet fun _ => ?_
  have hset : (setPassthroughFilter session.roomId enabled strength).Within permitted := by
    refine .bind (within_changeSubRoomSetting hquiet hedit) fun result => ?_
    cases result <;> exact .pure
  refine .bind hset fun result => ?_
  cases result with
  | ok result => exact (dispatchSignals_quiet _ _).mono hquiet
  | error message => exact .pure

end

section

variable {peerId : PeerId} {config : Config}

theorem within_issueCreatorToken {displayName : String} {roomType : RoomType}
    (hsign : ∀ peerId mode roomId identity displayName,
      permitted (.sign peerId mode roomId identity displayName))
    (hedit : permitted (.room (.updateInfo roomId (.recordTokenIssued peerId)))) :
    (issueCreatorToken config roomId peerId displayName roomType).Within permitted := by
  cases roomType with
  | p2p => exact .pure
  | sfu =>
    refine .bind (within_perform (hsign _ _ _ _ _)) fun signed => ?_
    cases signed with
    | error e => exact .pure
    | ok token => exact .map (within_updateRoomInfo hedit)

variable (hquiet : ∀ o, o.quiet = true → permitted o)
include hquiet

theorem within_refreshTick
    (hrooms : permitted (.room (.roomsNeedingTokenRefresh (refreshThresholdSecs config))))
    (hsign : ∀ peerId mode roomId identity displayName,
      permitted (.sign peerId mode roomId identity displayName))
    (hedit : ∀ roomId peerId, permitted (.room (.updateInfo roomId (.recordTokenIssued peerId)))) :
    (refreshTick config).Within permitted := by
  have htoken : ∀ roomId participants peerId,
      (refreshToken config roomId participants peerId).Within permitted := by
    intro roomId participants peerId
    refine .bind (within_perform (hsign _ _ _ _ _)) fun signed => ?_
    cases signed with
    | error e => exact .pure
    | ok token =>
      refine .bind ((sendTo_quiet _ _).mono hquiet) fun _ => ?_
      exact .map (within_updateRoomInfo (hedit roomId peerId))
  refine .bind (within_roomState (within_roomPerform hrooms)) fun rooms => ?_
  refine .each (fun room => ?_) rooms
  obtain ⟨roomId, handle, peers⟩ := room
  unfold refreshRoom
  dsimp only
  split
  · exact .each (htoken roomId []) peers
  · refine .bind (within_getRoomInfo (hquiet _ rfl)) fun info => ?_
    exact .each (htoken roomId _) peers

theorem within_runSubRoomExpiry {expiry : PendingSubRoomExpiry}
    (hedit : ∀ arc, permitted
      (.room (.updateObject arc (.expireSubRoom expiry.subRoomId expiry.deleteAt)))) :
    (runSubRoomExpiry roomId expiry).Within permitted := by
  refine .bind ?_ fun result => (dispatchSignals_quiet _ _).mono hquiet
  refine .bind (within_withRoomWrite (hquiet _ rfl) hedit) fun before => ?_
  split
  · exact .pure
  · split
    · exact (announceSubRooms_quiet _ _).mono hquiet
    · exact .pure

theorem within_dispatchRequestViewerToken {windowId : String}
    (hrevoked : ∀ arc ttlWindow, permitted (.room (.updateObject arc
      (.isParticipantRevoked session.participantId ttlWindow))))
    (hsign : ∀ roomId identity,
      permitted (.signViewer session.participantId config.tokenMode roomId identity))
    (hedit : ∀ roomId identity, permitted (.room (.updateInfo roomId
      (.recordViewerIdentity session.participantId identity)))) :
    (dispatchRequestViewerToken config session windowId).Within permitted := by
  have hrequest : ∀ roomId userId, (handleViewerTokenRequest config roomId session.participantId
      userId windowId).Within permitted := by
    intro roomId userId
    unfold handleViewerTokenRequest
    split
    · exact .pure
    refine .bind (within_getRoomInfo (hquiet _ rfl)) fun info => ?_
    split
    · exact .pure
    refine .bind (within_isParticipantRevoked (hquiet _ rfl) fun _ => hrevoked _ _)
      fun revoked => ?_
    split
    · exact .pure
    dsimp only
    split
    · exact .pure
    refine .bind (within_perform (hsign _ _)) fun signed => ?_
    cases signed with
    | error e => exact .pure
    | ok token =>
      refine .bind (within_updateRoomInfo (hedit _ _)) fun before => ?_
      split <;> exact .pure
  refine .bind ((checkActionRateLimit_quiet _).mono hquiet) fun allowed => ?_
  split
  · refine .bind ((requireRoom_quiet _).mono hquiet) fun room => ?_
    cases room with
    | none => exact .pure
    | some roomId =>
      refine .bind (hrequest _ _) fun answer => ?_
      cases answer with
      | ok signals => exact (dispatchSignals_quiet _ _).mono hquiet
      | error e => exact (sendError_quiet _ _).mono hquiet
  · exact .pure

end

section

variable (peerId : PeerId) (session : SignalingSession)

theorem sessionDisplayName_quiet : (sessionDisplayName session).Quiet :=
  .map (within_getRoomInfo rfl)

theorem dispatchChatSend_quiet (text : String) :
    (dispatchChatSend peerId session text).Quiet := by
  refine .bind (within_perform rfl) fun allowed => ?_
  split_ifs
  · refine .bind (sessionDisplayName_quiet session) fun _ => ?_
    refine .bind (within_perform rfl) fun _ => ?_
    exact .bind (within_perform rfl) fun _ => dispatchSignals_quiet _ _
  · exact sendError_quiet _ _

theorem dispatchChatHistoryRequest_quiet (since : Option String) :
    (dispatchChatHistoryRequest peerId session since).Quiet := by
  refine .bind (within_perform rfl) fun messages => ?_
  cases messages with
  | ok messages => exact sendTo_quiet _ _
  | error e => exact sendError_quiet _ _

theorem dispatchViewerSubscribed_quiet (targetId : PeerId) :
    (dispatchViewerSubscribed session targetId).Quiet := by
  refine .bind (within_perform rfl) fun allowed => ?_
  split_ifs
  · refine .bind (within_getPeersInRoom rfl) fun peers => ?_
    split_ifs
    · exact .bind (sessionDisplayName_quiet session) fun _ => sendTo_quiet _ _
    · exact .pure
  · exact .pure

end

/-- The two actions that do more than change flags, names, shares and sub-rooms. -/
def SignalingMessage.kicksOrIssues : SignalingMessage → Bool
  | kickParticipant _ => true
  | requestViewerToken _ => true
  | _ => false

def SignalingMessage.edit (session : SignalingSession) : SignalingMessage → Option InfoEdit
  | muteParticipant targetId => some (.mute targetId)
  | unmuteParticipant targetId => some (.unmute targetId)
  | selfMute => some (.selfFlag session.participantId .muted)
  | selfUnmute => some (.selfFlag session.participantId .unmuted)
  | selfDeafen => some (.selfFlag session.participantId .deafened)
  | selfUndeafen => some (.selfFlag session.participantId .undeafened)
  | updateUsername username => some (.rename session.participantId username)
  | startShare shareType => some (.startShare session.participantId session.role shareType)
  | stopShare targetId shareType =>
    some (.stopShare (targetId.getD session.participantId) shareType)
  | stopAllShares => some .stopAllShares
  | setSharePermission permission => some (.setSharePermission session.participantId permission)
  | createSubRoom => some .createSubRoom
  | joinSubRoom subRoomId => some (.joinSubRoom subRoomId session.participantId)
  | leaveSubRoom => some (.leaveSubRoom session.participantId)
  | setPassthrough targetSubRoomId => some (.setPassthrough session.participantId targetSubRoomId)
  | clearPassthrough => some (.clearPassthrough session.participantId)
  | setPassthroughEnabled enabled => some (.setPassthroughEnabled enabled)
  | setPassthroughVolume volume => some (.setPassthroughVolume volume)
  | setPassthroughFilter enabled strength => some (.setPassthroughFilter enabled strength)
  | _ => none

/-- **What an action does**, apart from kicks and requests for viewer tokens. -/
theorem within_dispatchAction (session : SignalingSession) (hmsg : msg.kicksOrIssues = false)
    (hquiet : ∀ o, o.quiet = true → permitted o)
    (hedit : ∀ edit, msg.edit session = some edit → Permits permitted edit) :
    (dispatchAction config peerId issuerId session msg).Within permitted := by
  cases msg with
  | kickParticipant targetId | requestViewerToken windowId => cases hmsg
  | offer description => exact (dispatchOffer_quiet _ _ _).mono hquiet
  | answer description => exact (dispatchAnswer_quiet _ _).mono hquiet
  | iceCandidate candidate => exact (dispatchIceCandidate_quiet _ _ _).mono hquiet
  | inviteCreate maxUses => exact (dispatchInviteCreate_quiet _ _ _ _).mono hquiet
  | inviteRevoke inviteCode => exact (dispatchInviteRevoke_quiet _ _).mono hquiet
  | muteParticipant targetId => exact within_dispatchMute _ hquiet (hedit _ rfl)
  | unmuteParticipant targetId => exact within_dispatchUnmute _ hquiet (hedit _ rfl)
  | selfMute | selfUnmute | selfDeafen | selfUndeafen =>
    exact within_handleSelfFlag _ hquiet (hedit _ rfl)
  | updateProfileColor profileColor => exact (dispatchUpdateProfileColor_quiet _ _).mono hquiet
  | updateUsername username => exact within_dispatchUpdateUsername _ hquiet (hedit _ rfl)
  | startShare shareType => exact within_dispatchStartShare _ hquiet (hedit _ rfl)
  | stopShare targetId shareType => exact within_dispatchStopShare _ hquiet (hedit _ rfl)
  | stopAllShares => exact within_dispatchStopAllShares _ hquiet (hedit _ rfl)
  | setSharePermission permission =>
    exact within_dispatchSetSharePermission _ hquiet (hedit _ rfl)
  | createSubRoom =>
    exact within_dispatchSubRoomAction _ _ hquiet (within_createSubRoom hquiet (hedit _ rfl))
  | joinSubRoom subRoomId =>
    exact within_dispatchSubRoomAction _ _ hquiet (within_joinSubRoom _ hquiet (hedit _ rfl))
  | leaveSubRoom =>
    exact within_dispatchSubRoomAction _ _ hquiet (within_leaveSubRoom (hquiet _ rfl)
      (hquiet _ rfl) (hquiet _ rfl) (hedit _ rfl).updateObject)
  | setPassthrough targetSubRoomId | clearPassthrough =>
    exact within_dispatchSubRoomAction _ _ hquiet (within_changePassthrough hquiet (hedit _ rfl))
  | setPassthroughEnabled enabled =>
    exact within_dispatchSetPassthroughEnabled _ _ hquiet (hedit _ rfl)
  | setPassthroughVolume volume =>
    exact within_dispatchSetPassthroughVolume _ _ hquiet (hedit _ rfl)
  | setPassthroughFilter enabled strength =>
    exact within_dispatchSetPassthroughFilter _ _ hquiet (hedit _ rfl)
  | chatSend text => exact (dispatchChatSend_quiet _ _ _).mono hquiet
  | chatHistoryRequest since => exact (dispatchChatHistoryRequest_quiet _ _ _).mono hquiet
  | viewerSubscribed targetId => exact (dispatchViewerSubscribed_quiet _ _).mono hquiet
  | ping => exact .pure
  | _ => exact (sendError_quiet _ _).mono hquiet

theorem dispatchAction_plain (session : SignalingSession) (hmsg : msg.kicksOrIssues = false) :
    (dispatchAction config peerId issuerId session msg).Plain := by
  refine within_dispatchAction config peerId issuerId session hmsg
    (fun o h => Op.plain_of_passive (Op.passive_of_quiet h)) fun edit hedit => ?_
  have hplain : edit.plain = true := by
    cases msg <;> simp only [SignalingMessage.edit, Option.some.injEq, reduceCtorEq] at hedit <;>
      (subst hedit; rfl)
  exact ⟨fun _ => hplain, fun _ => hplain⟩

end Wavis
