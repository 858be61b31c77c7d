import Wavis.Proof.Footprint

namespace Wavis

variable {edit : InfoEdit} {participants : List ParticipantInfo}
  {participantId targetId peerId : PeerId} {record record' : ParticipantInfo} {scope : Scope}
  {w w' : World} {ok : Op → Env → Prop} {connection : Connection} {pool : BackendPool} {α : Type}
  {config : Config} {db : ChannelDb} {program : BackendProg α} (channelId userId : Uuid)
  (callerId : PeerId) (role : ParticipantRole) {roomId : RoomId}

open Concurrency Prog InMemoryRoomState List Option

def InfoEdit.onParticipants (participants : List ParticipantInfo) :
    InfoEdit → List ParticipantInfo
  | addParticipant participant => participants ++ [participant]
  | join participant => participants ++ [participant]
  | dropParticipant participantId => participants.filter (·.participantId ≠ participantId)
  | kick participantId => participants.filter (·.participantId ≠ participantId)
  | mute participantId => updateFirst (·.participantId = participantId)
      (fun participant => { participant with isMuted := true, isHostMuted := true }) participants
  | unmute participantId => updateFirst (·.participantId = participantId)
      (fun participant => { participant with isHostMuted := false }) participants
  | selfFlag participantId flag =>
    updateFirst (·.participantId = participantId) flag.apply participants
  | rename participantId username => updateFirst (·.participantId = participantId)
      (fun participant => { participant with displayName := username }) participants
  | _ => participants

theorem InfoEdit.participants_apply (edit : InfoEdit) (now : Instant) (peers : List PeerId)
    (info : RoomInfo) :
    (edit.apply now peers info).participants = edit.onParticipants info.participants := by
  cases hcore : edit.sharesOrSubRooms with
  | true =>
    rw [(sameCore_apply hcore now peers info).participants]
    cases edit <;> first | rfl | cases hcore
  | false =>
    cases edit with
    | recordViewerIdentity peerId identity =>
      obtain ⟨viewerIdentities, heq⟩ := info.recordViewerIdentity_eq peerId identity
      rw [InfoEdit.apply, heq]
      rfl
    | _ => first | rfl | cases hcore

def ParticipantInfo.Muted (participant : ParticipantInfo) : Prop :=
  participant.isHostMuted = true → participant.isMuted = true

def RoomInfo.participant (info : RoomInfo) (participantId : PeerId) : Option ParticipantInfo :=
  info.participants.find? (·.participantId = participantId)

def InfoEdit.AddsUnmuted (edit : InfoEdit) : Prop :=
  ∀ participant, edit.adds = some participant → participant.isHostMuted = false

theorem InfoEdit.muted_onParticipants (hadds : edit.AddsUnmuted)
    (h : ∀ participant ∈ participants, participant.Muted) :
    ∀ participant ∈ edit.onParticipants participants, participant.Muted := by
  have happend : ∀ added : ParticipantInfo, added.isHostMuted = false →
      ∀ participant ∈ participants ++ [added], participant.Muted := by
    intro added hfresh participant hmem hhost
    rcases mem_append.mp hmem with hold | hnew
    · exact h participant hold hhost
    · rw [mem_singleton.mp hnew, hfresh] at hhost
      cases hhost
  have hupdate : ∀ (test : ParticipantInfo → Bool) (change : ParticipantInfo → ParticipantInfo),
      (∀ participant : ParticipantInfo, participant.Muted → (change participant).Muted) →
      ∀ participant ∈ updateFirst test change participants, participant.Muted := by
    intro test change hchange participant hmem
    rcases mem_updateFirst hmem with hold | ⟨old, hold, rfl⟩
    · exact h participant hold
    · exact hchange old (h old hold)
  cases edit with
  | addParticipant added | join added => exact happend added (hadds added rfl)
  | dropParticipant participantId | kick participantId =>
    exact fun _ hmem => h _ (mem_of_mem_filter hmem)
  | mute participantId => exact hupdate _ _ fun _ _ _ => rfl
  | unmute participantId => exact hupdate _ _ fun _ _ => nofun
  | selfFlag participantId flag =>
    refine hupdate _ _ fun _ hmuted => ?_
    cases flag with
    | muted => exact fun _ => rfl
    | unmuted => exact id
    | deafened | undeafened => exact hmuted
  | rename participantId username => exact hupdate _ _ fun _ => id
  | _ => exact h

section

variable (h : participants.find? (·.participantId = participantId) = some record)
include h

theorem find_updateFirst {change : ParticipantInfo → ParticipantInfo}
    (h' : (updateFirst (·.participantId = targetId) change participants).find?
      (·.participantId = participantId) = some record')
    (hid : ∀ participant, (change participant).participantId = participant.participantId) :
    record' = record ∨ targetId = participantId ∧ record' = change record := by
  induction participants with
  | nil => cases h
  | cons head rest ih =>
    rw [find?_cons] at h
    by_cases htarget : head.participantId = targetId
    · rw [updateFirst, if_pos (by simpa using htarget), find?_cons, hid] at h'
      by_cases hhead : head.participantId = participantId
      · simp only [hhead, decide_true, some.injEq] at h h'
        exact .inr ⟨htarget.symm.trans hhead, by rw [← h', h]⟩
      · simp only [hhead, decide_false] at h h'
        exact .inl (some.inj (h'.symm.trans h))
    · rw [updateFirst, if_neg (by simpa using htarget), find?_cons] at h'
      by_cases hhead : head.participantId = participantId
      · simp only [hhead, decide_true, some.injEq] at h h'
        exact .inl (h'.symm.trans h)
      · simp only [hhead, decide_false] at h h'
        exact ih h h'

theorem find_filter
    (h' : (participants.filter (·.participantId ≠ targetId)).find?
      (·.participantId = participantId) = some record') : record' = record := by
  have hne : record'.participantId ≠ targetId := by
    simpa using (mem_filter.mp (mem_of_find?_eq_some h')).2
  have hid : record'.participantId = participantId := by simpa using find?_some h'
  have hsame : (fun participant : ParticipantInfo =>
      decide (decide (participant.participantId ≠ targetId) = true
        ∧ decide (participant.participantId = participantId) = true))
      = fun participant => decide (participant.participantId = participantId) := by
    funext participant
    by_cases hparticipant : participant.participantId = participantId
    · simp [hparticipant, ← hid, hne]
    · simp [hparticipant]
  rw [find?_filter, hsame, h] at h'
  exact (some.inj h').symm

end

/-- **Only an unmute lifts a host mute** of a participant that stays. -/
theorem InfoEdit.eq_unmute_of_lifted
    (hfind : participants.find? (·.participantId = participantId) = some record)
    (hmuted : record.isHostMuted = true)
    (hfind' : (edit.onParticipants participants).find? (·.participantId = participantId)
      = some record') (hlifted : record'.isHostMuted = false) : edit = .unmute participantId := by
  have hne : record' ≠ record := by
    rintro rfl
    rw [hmuted] at hlifted
    cases hlifted
  have happend : ∀ added : ParticipantInfo,
      (participants ++ [added]).find? (·.participantId = participantId) ≠ some record' := by
    intro added h
    rw [find?_append, hfind] at h
    exact hne (some.inj h).symm
  have hupdate : ∀ (targetId : PeerId) (change : ParticipantInfo → ParticipantInfo),
      (∀ participant, (change participant).participantId = participant.participantId) →
      (∀ participant : ParticipantInfo, participant.isHostMuted = true →
        (change participant).isHostMuted = true) →
      (updateFirst (·.participantId = targetId) change participants).find?
        (·.participantId = participantId) ≠ some record' := by
    intro targetId change hid hchange h
    rcases find_updateFirst hfind h hid with hsame | ⟨-, rfl⟩
    · exact hne hsame
    · rw [hchange record hmuted] at hlifted
      cases hlifted
  cases edit with
  | addParticipant added | join added => exact absurd hfind' (happend added)
  | dropParticipant targetId | kick targetId => exact absurd (find_filter hfind hfind') hne
  | mute targetId => exact absurd hfind' (hupdate _ _ (fun _ => rfl) fun _ _ => rfl)
  | unmute targetId =>
    rcases find_updateFirst hfind hfind' (fun _ => rfl) with hsame | ⟨rfl, -⟩
    · exact absurd hsame hne
    · rfl
  | selfFlag targetId flag =>
    refine absurd hfind' (hupdate _ _ (fun _ => ?_) fun _ h => ?_) <;> cases flag <;>
      first | rfl | exact h
  | rename targetId username => exact absurd hfind' (hupdate _ _ (fun _ => rfl) fun _ => id)
  | _ => exact absurd (some.inj (hfind'.symm.trans hfind)) hne

def InfoEdit.Spares (edit : InfoEdit) : Prop :=
  edit.AddsUnmuted ∧ ∀ participantId, edit ≠ .unmute participantId

def Op.Spares : Op → Prop
  | room (.createRoom _ info) => info.participants = []
  | room (.updateInfo _ edit) => edit.Spares
  | room (.updateObject _ edit) => edit.Spares
  | _ => True

abbrev BackendProg.Spares {α : Type} (program : BackendProg α) : Prop :=
  program.Within Op.Spares

def Scope.traffic : Scope := ⟨fun _ => True, fun _ _ => True, False, True⟩

theorem InfoEdit.In.spares (h : edit.In scope) (hscope : ¬ scope.unmutes) : edit.Spares := by
  refine ⟨?_, ?_⟩
  · rintro participant hadds
    cases edit <;> cases hadds
    · exact h
    · exact h.2
  · rintro participantId rfl
    exact hscope h

theorem Op.In.spares {o : Op} (h : o.In scope) (hscope : ¬ scope.unmutes) : o.Spares := by
  cases o with
  | room o =>
    cases o with
    | createRoom roomId info => exact RoomInfo.Blank.participants h
    | updateInfo roomId edit | updateObject arc edit => exact InfoEdit.In.spares h hscope
    | _ => trivial
  | _ => trivial

theorem BackendProg.Affects.spares_of (h : program.Affects scope) (hscope : ¬ scope.unmutes) :
    program.Spares :=
  h.mono fun _ hin => Op.In.spares hin hscope

theorem BackendProg.Affects.spares (h : program.Affects .traffic) : program.Spares :=
  h.spares_of id

theorem BackendProg.Quiet.spares (h : program.Quiet) : program.Spares :=
  BackendProg.Affects.spares h.affects

section

variable (session : SignalingSession)

theorem leaveSubRoom_affects : (removeParticipantFromSubRoom roomId peerId).Affects .traffic :=
  within_removeParticipantFromSubRoom trivial trivial trivial fun _ => trivial

theorem announceSubRoomLeave_affects (signals : List OutboundSignal) :
    (removeParticipantFromSubRoom roomId peerId >>= fun result =>
      dispatchSignals (signals ++ result.signals) roomId >>= fun _ =>
        scheduleSubRoomExpiry roomId result.expiry).Affects .traffic :=
  .bind leaveSubRoom_affects fun _ =>
    .bind (dispatchSignals_quiet _ _).affects fun _ =>
      (scheduleSubRoomExpiry_quiet _ _).affects

theorem evictStaleSession_affects : (evictStaleSession roomId userId).Affects .traffic := by
  refine .bind (within_getRoomInfo trivial) fun info => ?_
  split
  · exact .pure
  refine .bind (within_getRoomInfo trivial) fun info => ?_
  refine .bind (sfuRemoveAll_quiet _ _).affects fun _ => ?_
  refine .bind takeViewerIdentities_affects fun viewerIds => ?_
  refine .bind (sfuRemoveAll_quiet _ _).affects fun _ => ?_
  refine .bind cleanupShareOnDisconnect_affects fun signals => ?_
  refine .bind (removePeerInternal_affects trivial false) fun _ => ?_
  refine .bind (updateRoomInfo_affects trivial) fun _ => ?_
  exact .map leaveSubRoom_affects

theorem completeVoiceJoin_spares (config : Config) (joiner : VoiceJoiner) (channelId : Uuid)
    (role : ParticipantRole) (eviction : Option Eviction) (existing : List ParticipantInfo) :
    (completeVoiceJoin config joiner channelId role roomId eviction existing).Spares := by
  have hjoin : (InfoEdit.join joiner.participant).In .traffic := ⟨trivial, rfl⟩
  have hsync : (InfoEdit.syncSubRooms joiner.peerId joiner.supportsSubRooms).Spares :=
    ⟨nofun, nofun⟩
  refine .bind (updateRoomInfo_affects hjoin).spares fun _ => ?_
  refine .bind (.bind (within_updateRoomInfo hsync) fun _ =>
    .bind (subRoomStateSignals_quiet _).spares fun _ => .pure) fun _ => ?_
  refine .bind (within_perform trivial) fun signed => ?_
  cases signed with
  | error e => exact .pure
  | ok token =>
    refine .bind (within_peerCount trivial) fun _ => ?_
    refine .bind (within_getRoomInfo trivial) fun _ => ?_
    exact .bind (shareStateSnapshot_quiet _ _).spares fun _ => .pure

theorem enterVoiceRoom_spares (config : Config) (joiner : VoiceJoiner) (channelId : Uuid)
    (role : ParticipantRole) (created : Bool) :
    (enterVoiceRoom config joiner channelId role roomId created).Spares := by
  have hrollback : ∀ error, (if created then rollbackRoom roomId channelId >>= fun _ =>
        pure (.error error)
      else pure (.error error) : BackendProg (Except VoiceJoinError VoiceJoinResult)).Spares := by
    intro error
    split
    · exact .bind (rollbackRoom_affects channelId).spares fun _ => .pure
    · exact .pure
  refine .bind (evictStaleSession_affects _).spares fun eviction => ?_
  refine .bind (within_getRoomInfo trivial) fun info => ?_
  split
  · exact .pure
  refine .bind (within_perform trivial) fun added => ?_
  cases added with
  | error e => exact hrollback _
  | ok _ =>
    refine .bind (within_getRoomInfo trivial) fun before => ?_
    refine .bind (tryAddPeerWith_affects none).spares fun entered => ?_
    cases entered with
    | error e => exact hrollback _
    | ok _ => exact completeVoiceJoin_spares config joiner channelId role eviction _

theorem dispatchJoinVoice_spares (config : Config) (connection : Connection)
    (payload : JoinVoicePayload) :
    (dispatchJoinVoice config peerId connection payload).Spares := by
  have hjoin : ∀ channelId joiner, (joinVoice config channelId joiner).Spares := by
    intro channelId joiner
    unfold joinVoice
    split
    · exact .pure
    refine .bind (within_perform trivial) fun membership => ?_
    split
    · exact .pure
    · exact .pure
    split
    · exact .pure
    refine .bind (ensureActiveRoom_affects config _ _).spares fun ensured => ?_
    split
    · exact .pure
    · exact enterVoiceRoom_spares config joiner _ _ _
  unfold dispatchJoinVoice
  split
  · exact .pure
  refine .bind (coldStart_quiet config).spares fun refusal => ?_
  split
  · exact (sendTo_quiet _ _).spares
  refine .bind (within_perform trivial) fun globalJoin => ?_
  split
  · exact (sendError_quiet _ _).spares
  refine .bind (within_perform trivial) fun allowed => ?_
  split
  · exact (sendTo_quiet _ _).spares
  refine .bind (hjoin _ _) fun answer => ?_
  split
  · exact (finishVoiceJoin_keepsRooms config _ _).affects.spares
  · exact (sendTo_quiet _ _).spares

theorem leaveSfuRoom_affects : (leaveSfuRoom session).Affects .traffic := by
  have hleave : (handleSfuLeave session.roomId session.participantId).Affects .traffic := by
    refine .bind (within_getRoomInfo trivial) fun info => ?_
    refine .bind takeViewerIdentities_affects fun viewerIds => ?_
    refine .bind (sfuRemoveAll_quiet _ _).affects fun _ => ?_
    refine .bind cleanupShareOnDisconnect_affects fun signals => ?_
    refine .bind (removePeerInternal_affects trivial true) fun _ => ?_
    refine .bind (updateRoomInfo_affects trivial) fun _ => ?_
    exact within_afterRemoval trivial trivial (fun _ => trivial) trivial
  exact .bind hleave announceSubRoomLeave_affects

theorem leaveRoom_affects (isDisconnect : Bool) :
    (leaveRoom session isDisconnect).Affects .traffic := by
  refine .bind (within_getRoomInfo trivial) fun info => ?_
  split
  · split
    · exact .bind (revokeOnDisconnect_affects session) fun _ => leaveSfuRoom_affects session
    · exact leaveSfuRoom_affects session
  · refine .bind (announceP2pLeave_quiet _).affects fun _ => ?_
    split
    · exact .bind (removePeerInternal_affects trivial true) fun _ => within_perform trivial
    · exact .pure

theorem handleLeave_affects : (handleLeave session peerId).Affects .traffic := by
  unfold handleLeave
  split
  · exact .pure
  · exact .bind (leaveRoom_affects session false) fun _ => within_perform trivial

theorem closeConnection_affects : (closeConnection peerId).Affects .traffic := by
  have hforget : ∀ session, (forgetConnection session peerId).Affects .traffic :=
    forgetConnection_affects trivial
  refine .bind (within_perform trivial) fun connection => ?_
  split
  · exact .pure
  split
  · refine .bind ?_ fun _ => within_perform trivial
    unfold cleanupConnection
    split
    · exact .pure
    refine .bind (within_perform trivial) fun _ => ?_
    split
    · exact .bind (leaveRoom_affects _ true) fun _ => hforget _
    · exact hforget _
  · exact .bind (cleanupUnjoinedConnection_affects trivial) fun _ => within_perform trivial

theorem handleKick_affects : (handleKick roomId role peerId).Affects .traffic := by
  unfold handleKick
  split
  · exact .pure
  refine .bind (.map (within_getRoomInfo trivial))
    fun listed => ?_
  split
  · exact .pure
  · exact .map (kickParticipant_affects trivial)

theorem dispatchKick_affects : (dispatchKick session peerId).Affects .traffic := by
  refine within_dispatchHostAction _
    (fun _ hquiet => Op.in_of_keepsRooms (Op.keepsRooms_of_quiet hquiet)) fun roomId role => ?_
  refine .bind (handleKick_affects role) fun answer => ?_
  cases answer with
  | ok signals => exact announceSubRoomLeave_affects signals
  | error e => exact (sendError_quiet _ _).affects

theorem banMemberRoute_affects (requesterUserId targetUserId : Uuid) :
    (banMemberRoute channelId requesterUserId targetUserId).Affects .traffic := by
  refine .bind (within_perform trivial) fun allowed => ?_
  split
  · exact .pure
  refine .bind (within_banMember trivial (fun _ => trivial) trivial fun _ => trivial)
    fun banned => ?_
  split
  · exact .pure
  refine .bind (within_findUserInVoice trivial fun _ => trivial) fun place => ?_
  split
  · exact .pure
  rename_i roomId peerId
  have heject : (ejectBannedUser roomId peerId channelId).Affects .traffic := by
    refine .bind (handleKick_affects .host) fun answer => ?_
    split
    · exact .pure
    refine .bind (within_peerCount trivial) fun remaining => ?_
    split
    · exact .map (within_releaseVoiceRoom trivial (fun _ => trivial)
        (rollbackRoom_affects channelId))
    · exact .pure
  refine .bind heject fun answer => ?_
  split
  · exact .pure
  · refine .bind leaveSubRoom_affects fun result => ?_
    refine .bind (dispatchSignals_quiet _ _).affects fun _ => ?_
    exact .bind (scheduleSubRoomExpiry_quiet _ _).affects fun _ => .pure

end

/-- The current role of the user in the channel, and without a channel the role of the join. -/
def World.effectiveRole (w : World) (session : SignalingSession) : Option ParticipantRole :=
  match session.channelId, session.userId with
  | some channelId, some userId =>
    ((w.db.memberships.lookup (channelId, userId)).filter (·.bannedAt.isNone)).map
      fun membership => mapChannelRole membership.role
  | _, _ => some session.role

/-- The connection has a session whose effective role is that of a host. -/
def World.ActsAsHost (w : World) (peerId : PeerId) : Prop :=
  ∃ connection session, w.connections.lookup peerId = some connection
    ∧ connection.session = some session ∧ w.effectiveRole session = some .host

def BackendCall.MayLift (call : BackendCall) (o : Op) (w : World) : Prop :=
  o.Spares ∨ ∃ roomId peerId targetId, o = .room (.updateInfo roomId (.unmute targetId))
    ∧ call = .message peerId (.unmuteParticipant targetId) ∧ w.ActsAsHost peerId

theorem BackendProg.Spares.performs (h : program.Spares) (call : BackendCall) (w : World) :
    program.Performs Op.exec call.MayLift w :=
  Within.performs h (fun _ _ => .inl) w

structure World.SameRoles (w w' : World) : Prop where
  connections : w'.connections = w.connections
  memberships : w'.db.memberships = w.db.memberships

theorem World.SameRoles.effectiveRole (h : w.SameRoles w') (session : SignalingSession) :
    w'.effectiveRole session = w.effectiveRole session := by
  unfold World.effectiveRole
  rw [h.memberships]

theorem World.SameRoles.trans {w'' : World} (h : w.SameRoles w') (h' : w'.SameRoles w'') :
    w.SameRoles w'' :=
  ⟨h'.connections.trans h.connections, h'.memberships.trans h.memberships⟩

theorem BackendProg.Quiet.sameRoles (h : program.Quiet) :
    program.Alone ok (fun _ w' => w.SameRoles w') w := by
  refine h.ensures ⟨rfl, rfl⟩ fun {o _ _ _ _} hquiet hsame hexec => ?_
  have hoff : o.onConnections = false := by cases o <;> first | rfl | cases hquiet
  refine hsame.trans ⟨(Op.exec_connections hexec hoff).1, Op.exec_memberships hexec ?_⟩
  rintro channelId userId bannedAt rfl
  cases hquiet

theorem getCurrentChannelRole_alone (w : World) :
    (getCurrentChannelRole channelId userId).Alone ok (fun answer _ => ∀ role, answer = .ok role →
      role = ((w.db.memberships.lookup (channelId, userId)).filter (·.bannedAt.isNone)).map
        (·.role)) w := by
  intro env answer w₁ _ hexec
  simp only [Op.exec, Op.run] at hexec
  split at hexec <;> cases hexec <;> rintro _ ⟨⟩
  rfl

theorem resolveEffectiveRole_alone (session : SignalingSession) (w : World) :
    (resolveEffectiveRole callerId session).Alone ok
      (fun answer _ => ∀ role, answer = some role → w.effectiveRole session = some role) w := by
  unfold resolveEffectiveRole World.effectiveRole
  cases session.channelId with
  | none =>
    rintro _ ⟨⟩
    rfl
  | some channelId =>
    cases session.userId with
    | none =>
      rintro _ ⟨⟩
      rfl
    | some userId =>
      refine (getCurrentChannelRole_alone channelId userId w).bind fun answer w₁ hanswer => ?_
      rcases answer with e | _ | role
      · exact fun _ _ _ _ _ => nofun
      · exact fun _ _ _ _ _ => nofun
      · rintro _ ⟨⟩
        have hrow := congrArg (Option.map mapChannelRole) (hanswer _ rfl)
        simpa [Function.comp_def] using hrow.symm

theorem requireHost_alone (w : World) :
    (requireHost callerId role).Alone ok (fun isHost _ => isHost = true →
      role = .host) w := by
  unfold requireHost
  split
  · exact fun _ => ‹_›
  · exact fun _ _ _ _ _ => nofun

theorem handleUnmute_performs (hacts : w.ActsAsHost peerId) (roomId : RoomId)
    (role : ParticipantRole) :
    (handleUnmute roomId role targetId).Performs Op.exec
      (BackendCall.MayLift (.message peerId (.unmuteParticipant targetId))) w := by
  have hlisted : (participantInRoom roomId targetId).Quiet :=
    .map (within_getRoomInfo rfl)
  unfold handleUnmute handleHostFlag
  split
  · trivial
  refine hlisted.spares.performs _ _ |>.bind hlisted.sameRoles
    fun listed w₁ h₁ => ?_
  split
  · trivial
  · refine ⟨.inr ⟨roomId, peerId, targetId, rfl, rfl, ?_⟩, fun _ _ _ _ => trivial⟩
    obtain ⟨connection, session, hconnection, hsession, hrole⟩ := hacts
    exact ⟨connection, session, h₁.connections ▸ hconnection, hsession,
      (h₁.effectiveRole session).trans hrole⟩

theorem dispatchUnmute_performs {session : SignalingSession}
    (hconnection : w.connections.lookup peerId = some connection)
    (hsession : connection.session = some session) :
    (dispatchUnmute session targetId).Performs Op.exec
      (BackendCall.MayLift (.message peerId (.unmuteParticipant targetId))) w := by
  have hquiet : ∀ {α : Type} {program : BackendProg α} {w : World}, program.Quiet →
      program.Performs Op.exec
        (BackendCall.MayLift (.message peerId (.unmuteParticipant targetId))) w :=
    fun h => BackendProg.Spares.performs h.spares _ _
  have hdone : ∀ {α : Type} (a : α) (w : World), (pure a : BackendProg α).Performs Op.exec
      (BackendCall.MayLift (.message peerId (.unmuteParticipant targetId))) w :=
    fun _ _ => trivial
  refine (hquiet (checkActionRateLimit_quiet _)).bind
    (checkActionRateLimit_quiet _).sameRoles fun allowed w₁ h₁ => ?_
  split
  · refine (hquiet (requireSfuRoom_quiet _)).bind
      (requireSfuRoom_quiet _).sameRoles fun room w₂ h₂ => ?_
    split
    · exact hdone _ _
    refine (hquiet (resolveEffectiveRole_quiet _ _)).bind
      ((resolveEffectiveRole_quiet _ _).sameRoles.and
        (resolveEffectiveRole_alone _ session w₂)) fun role w₃ h₃ => ?_
    split
    · exact hdone _ _
    rename_i role
    refine (hquiet (requireHost_quiet _ _)).bind
      ((requireHost_quiet _ _).sameRoles.and (requireHost_alone _ _ w₃)) fun isHost w₄ h₄ => ?_
    split
    · rename_i hhost
      refine (hquiet (requireTargetInRoom_quiet _ _ _)).bind
        (requireTargetInRoom_quiet _ _ _).sameRoles fun isIn w₅ h₅ => ?_
      have hsame : w.SameRoles w₅ := (((h₁.trans h₂).trans h₃.1).trans h₄.1).trans h₅
      have hacts : w₅.ActsAsHost peerId := by
        refine ⟨connection, session, ?_, hsession, ?_⟩
        · rw [hsame.connections, hconnection]
        · rw [hsame.effectiveRole, ← (h₁.trans h₂).effectiveRole, h₃.2 role rfl, h₄.2 hhost]
      split
      · refine (handleUnmute_performs hacts _ role).bind (ensures_true _ _)
          fun answer w₆ _ => ?_
        cases answer with
        | ok signals => exact hquiet (dispatchSignals_quiet _ _)
        | error e => exact hquiet (sendError_quiet _ _)
      · exact hdone _ _
    · exact hdone _ _
  · exact hdone _ _

theorem dispatchAction_spares (config : Config) (peerId : PeerId) (issuerId : String)
    (session : SignalingSession) {msg : SignalingMessage}
    (hmsg : ∀ targetId, msg ≠ .unmuteParticipant targetId) :
    (dispatchAction config peerId issuerId session msg).Spares := by
  cases hkind : msg.kicksOrIssues with
  | false =>
    refine within_dispatchAction config peerId issuerId session hkind
      (fun _ hquiet => (BackendProg.Quiet.spares (within_perform hquiet)).1)
      fun edit hedit => ?_
    have hspares : edit.Spares := by
      cases msg <;>
        simp only [SignalingMessage.edit, some.injEq, reduceCtorEq] at hedit <;>
        subst hedit <;> first | exact absurd rfl (hmsg _) | exact ⟨by rintro _ ⟨⟩, by rintro _ ⟨⟩⟩
    exact ⟨fun _ => hspares, fun _ => hspares⟩
  | true =>
    cases msg with
    | kickParticipant targetId => exact (dispatchKick_affects session).spares
    | requestViewerToken windowId =>
      exact (dispatchRequestViewerToken_affects config trivial windowId).spares
    | _ => cases hkind

theorem dispatchMessage_performs (config : Config)
    (hconnection : w.connections.lookup peerId = some connection) (msg : SignalingMessage) :
    (dispatchMessage config peerId connection msg).Performs Op.exec
      (BackendCall.MayLift (.message peerId msg)) w := by
  have hdone : ∀ {program : BackendProg Unit} (outcome : DispatchOutcome), program.Spares →
      (program >>= fun _ => pure outcome).Spares :=
    fun _ h => .map h
  unfold dispatchMessage
  split
  · exact (hdone _ (dispatchAuth_keepsRooms _).affects.spares).performs _ w
  · exact (hdone _ ((dispatchJoin_affects config connection _).spares_of id)).performs _ w
  · exact (hdone _ ((dispatchCreateRoom_affects config connection _).spares_of id)).performs _ w
  · exact (hdone _ (dispatchJoinVoice_spares config connection _)).performs _ w
  · exact (hdone _ (handleLeave_affects _).spares).performs _ w
  · trivial
  · rename_i msg _ _ session _ _ _ _ _ hsession
    by_cases hunmute : ∃ targetId, msg = .unmuteParticipant targetId
    · obtain ⟨targetId, rfl⟩ := hunmute
      exact (dispatchUnmute_performs hconnection hsession).bind (ensures_true _ _)
        fun _ _ _ => trivial
    · exact (hdone _ (dispatchAction_spares config peerId _ session
        fun targetId heq => hunmute ⟨targetId, heq⟩)).performs _ w
  · trivial

theorem handleFrame_performs (config : Config) (peerId : PeerId) (msg : SignalingMessage)
    (w : World) : (handleFrame config peerId msg).Performs Op.exec
      (BackendCall.MayLift (.message peerId msg)) w := by
  have hclose : ∀ w : World, (closeConnection peerId).Performs Op.exec
      (BackendCall.MayLift (.message peerId msg)) w := closeConnection_affects.spares.performs _
  refine ⟨.inl trivial, fun env answer w₁ hexec => ?_⟩
  have hanswer : answer = w₁.connections.lookup peerId := by
    cases hexec
    rfl
  cases answer with
  | none => trivial
  | some connection =>
    refine ⟨.inl trivial, fun env allowed w₂ hexec => ?_⟩
    have hsame := (Op.exec_connections hexec rfl).1
    cases allowed with
    | true =>
      split
      · exact (sendError_quiet _ _).spares.performs _ _
      · refine (dispatchMessage_performs config (hsame ▸ hanswer.symm) msg).bind
          (ensures_true _ _) fun outcome w₃ _ => ?_
        cases outcome with
        | «continue» => trivial
        | «break» => exact hclose w₃
    | false => exact hclose w₂

/-- **Only an unmute by a host lifts host mutes**: every call, made alone. -/
theorem body_performs (config : Config) (call : BackendCall) (w : World) :
    (call.body config).Performs Op.exec call.MayLift w := by
  cases call with
  | connect userId => exact ⟨.inl trivial, fun _ _ _ _ => trivial⟩
  | message peerId msg => exact handleFrame_performs config peerId msg w
  | disconnect peerId => exact closeConnection_affects.spares.performs _ w
  | banMember channelId requesterUserId targetUserId =>
    exact (banMemberRoute_affects _ _ _).spares.performs _ w
  | refreshTokens => exact ((refreshTick_affects config).spares_of id).performs _ w
  | expireSubRoom roomId expiry =>
    have hexpiry : (runSubRoomExpiry roomId expiry).Affects .traffic :=
      runSubRoomExpiry_affects trivial expiry
    exact hexpiry.spares.performs _ w

def Op.Edits (o : Op) (edit : InfoEdit) : Prop :=
  (∃ roomId, o = .room (.updateInfo roomId edit)) ∨ ∃ arc, o = .room (.updateObject arc edit)

section

variable {call : BackendCall} {o : Op} {env : Env} {answer : o.Resp} {members' : RoomMembers}

theorem BackendCall.MayLift.addsUnmuted (h : call.MayLift o w) (hedit : o.Edits edit) :
    edit.AddsUnmuted := by
  rcases h with hspares | ⟨roomId, peerId, targetId, rfl, -⟩
  · rcases hedit with ⟨roomId, rfl⟩ | ⟨arc, rfl⟩ <;> exact hspares.1
  · rcases hedit with ⟨_, ⟨⟩⟩ | ⟨_, ⟨⟩⟩
    exact nofun

theorem BackendCall.MayLift.unmute (h : call.MayLift o w) (hedit : o.Edits (.unmute targetId)) :
    ∃ peerId, call = .message peerId (.unmuteParticipant targetId) ∧ w.ActsAsHost peerId := by
  rcases h with hspares | ⟨roomId, peerId, targetId', rfl, hcall, hacts⟩
  · rcases hedit with ⟨roomId, rfl⟩ | ⟨arc, rfl⟩ <;> exact absurd rfl (hspares.2 targetId)
  · rcases hedit with ⟨_, ⟨⟩⟩ | ⟨_, ⟨⟩⟩
    exact ⟨peerId, hcall, hacts⟩

theorem Op.participants_step (hmay : call.MayLift o w) (hexec : o.exec env w = some (answer, w'))
    (hfind : w'.roomState.find roomId = some members') :
    members'.info.participants = [] ∨ ∃ members, w.roomState.find roomId = some members
      ∧ (members'.info.participants = members.info.participants ∨ ∃ edit, o.Edits edit
        ∧ members'.info.participants = edit.onParticipants members.info.participants) := by
  rcases Op.exec_roomState hexec with hsame | ⟨ro, rfl, hrooms⟩
  · rw [hsame] at hfind
    exact .inr ⟨members', hfind, .inl rfl⟩
  rw [hrooms] at hfind
  rcases RoomOp.find_exec rfl hfind with hnew | ⟨members, hold, hinfo⟩
  · left
    cases ro with
    | createRoom roomId' info =>
      simp only [RoomOp.creates, ite_none_right_eq_some, some.injEq] at hnew
      rcases hmay with hspares | ⟨_, _, _, ⟨⟩, -⟩
      rw [← hnew.2]
      exact hspares
    | ensureRoom roomId' =>
      simp only [RoomOp.creates, ite_none_right_eq_some, some.injEq] at hnew
      rw [← hnew.2]
      rfl
    | _ => cases hnew
  · refine .inr ⟨members, hold, ?_⟩
    cases hedits : ro.edits w.roomState roomId with
    | none =>
      rw [hedits] at hinfo
      exact .inl (congrArg _ hinfo)
    | some edit =>
      rw [hedits] at hinfo
      refine .inr ⟨edit, ?_, ?_⟩
      · cases ro <;> simp only [RoomOp.edits, ite_none_right_eq_some, some.injEq,
          reduceCtorEq] at hedits
        · exact .inl ⟨_, by rw [hedits.2]⟩
        · exact .inr ⟨_, by rw [hedits.2]⟩
      · rw [hinfo]
        exact edit.participants_apply _ _ _

def World.HostMutesHold (w : World) : Prop :=
  ∀ roomId members, w.roomState.find roomId = some members →
    ∀ participant ∈ members.info.participants, participant.Muted

theorem World.HostMutesHold.step (h : w.HostMutesHold) (hmay : call.MayLift o w)
    (hexec : o.exec env w = some (answer, w')) : w'.HostMutesHold := by
  intro roomId members' hfind participant hmem
  rcases Op.participants_step hmay hexec hfind with hnil | ⟨members, hold, hchange⟩
  · rw [hnil] at hmem
    cases hmem
  rcases hchange with hsame | ⟨edit, hedit, heq⟩
  · rw [hsame] at hmem
    exact h roomId members hold participant hmem
  · rw [heq] at hmem
    exact InfoEdit.muted_onParticipants (hmay.addsUnmuted hedit) (h roomId members hold) _ hmem

/-- **A step lifts the host mute of a participant that stays** only as an unmute by a host. -/
theorem Op.lifted_step (hmay : call.MayLift o w) (hexec : o.exec env w = some (answer, w'))
    {members : RoomMembers} (hfind : w.roomState.find roomId = some members)
    (hfind' : w'.roomState.find roomId = some members')
    (hrecord : members.info.participant participantId = some record)
    (hrecord' : members'.info.participant participantId = some record')
    (hmuted : record.isHostMuted = true) (hlifted : record'.isHostMuted = false) :
    ∃ peerId, call = .message peerId (.unmuteParticipant participantId)
      ∧ w.ActsAsHost peerId := by
  unfold RoomInfo.participant at hrecord hrecord'
  rcases Op.participants_step hmay hexec hfind' with hnil | ⟨before, hold, hchange⟩
  · rw [hnil] at hrecord'
    cases hrecord'
  obtain rfl : before = members := some.inj (hold.symm.trans hfind)
  rcases hchange with hsame | ⟨edit, hedit, heq⟩
  · rw [hsame, hrecord, some.injEq] at hrecord'
    rw [← hrecord', hmuted] at hlifted
    cases hlifted
  · rw [heq] at hrecord'
    obtain rfl := InfoEdit.eq_unmute_of_lifted hrecord hmuted hrecord' hlifted
    exact hmay.unmute hedit

end

/-- Calls are handled one after the other, and the channels may change in between. -/
inductive BackendPool.HandledInTurn (config : Config) (db : ChannelDb) : BackendPool → Prop
  | initial : HandledInTurn config db (BackendPool.initial config db)
  | act {pool pool' : BackendPool} {act : BackendAct} : HandledInTurn config db pool →
      pool.OneAtATime act → (backend config).next pool act = some pool' →
      HandledInTurn config db pool'
  | channels {pool : BackendPool} (db' : ChannelDb) : HandledInTurn config db pool →
      pool.Quiescent → HandledInTurn config db ⟨{ pool.shared with db := db' }, pool.threads⟩

theorem BackendPool.HandledInTurn.invariant (h : HandledInTurn config db pool) :
    pool.Alone (backend config) (fun _ _ => True) (fun _ => True)
      ∧ pool.Performs (backend config) BackendCall.MayLift ∧ pool.shared.HostMutesHold := by
  induction h with
  | initial =>
    refine ⟨⟨fun _ => trivial, ?_, ?_⟩, ?_, ?_⟩
    · intro thread hthread
      cases hthread
    · intro i j thread thread' hi
      cases hi
    · intro thread hthread
      cases hthread
    · intro roomId members hfind
      cases hfind
  | @act pool pool' act _ hallowed hnext ih =>
    obtain ⟨halone, hperforms, hmuted⟩ := ih
    cases act with
    | start call =>
      cases hnext
      exact ⟨halone.start hallowed.2 (ensures_true (call.body config) pool.shared),
        .start hallowed.2 (body_performs config call pool.shared), hmuted⟩
    | step i env =>
      obtain ⟨call, trace, o, rest, answer, shared, hthread, hexec, rfl⟩ :=
        (backend config).next_step hnext
      have hmay := (hperforms _ (mem_of_getElem? hthread) rfl).1
      exact ⟨halone.step trivial hthread hexec, hperforms.step halone hthread hexec,
        hmuted.step hmay hexec⟩
  | @channels pool db' _ hquiet ih =>
    obtain ⟨halone, -, hmuted⟩ := ih
    refine ⟨⟨fun _ => trivial, fun thread _ _ => ensures_true thread.rest _, halone.one⟩, ?_,
      hmuted⟩
    intro thread hthread hactive
    rw [hquiet thread hthread] at hactive
    cases hactive

def SignalingMessage.setsOwnFlag : SignalingMessage → Bool
  | selfMute => true
  | selfUnmute => true
  | selfDeafen => true
  | selfUndeafen => true
  | _ => false

/-- **Only a host lifts a host mute**, in runs that handle one call after the other. -/
theorem only_hosts_lift_host_mutes (config : Config) (db : ChannelDb) {pool : BackendPool}
    (hrun : BackendPool.HandledInTurn config db pool) :
    (∀ roomId members, pool.shared.roomState.find roomId = some members →
      ∀ participant ∈ members.info.participants,
        participant.isHostMuted = true → participant.isMuted = true)
    ∧ ∀ (i : Nat) (env : Env) (pool' : BackendPool) (thread : BackendThread),
      pool.threads[i]? = some thread → (backend config).next pool (.step i env) = some pool' →
      ∀ roomId members members', pool.shared.roomState.find roomId = some members →
        pool'.shared.roomState.find roomId = some members' →
      ∀ participantId record record', members.info.participant participantId = some record →
        members'.info.participant participantId = some record' → record.isHostMuted = true →
        (record'.isHostMuted = false →
          ∃ peerId, thread.call = .message peerId (.unmuteParticipant participantId)
            ∧ pool.shared.ActsAsHost peerId)
        ∧ ∀ peerId msg, thread.call = .message peerId msg → msg.setsOwnFlag = true →
          record'.isMuted = true := by
  obtain ⟨-, hperforms, hmuted⟩ := hrun.invariant
  refine ⟨hmuted, ?_⟩
  intro i env pool' thread hget hnext roomId members members' hfind hfind' participantId record
    record' hrecord hrecord' hhost
  obtain ⟨call, trace, o, rest, answer, shared, hthread, hexec, rfl⟩ :=
    (backend config).next_step hnext
  obtain rfl := some.inj (hget.symm.trans hthread)
  have hmay := (hperforms _ (mem_of_getElem? hthread) rfl).1
  have hlifted := Op.lifted_step hmay hexec hfind hfind' hrecord hrecord' hhost
  refine ⟨hlifted, fun peerId msg hcall hflag => ?_⟩
  have hstays : record'.isHostMuted = true := by
    by_contra hnot
    obtain ⟨peerId', hcall', -⟩ := hlifted (by simpa using hnot)
    cases hcall.symm.trans hcall'
    cases hflag
  exact hmuted.step hmay hexec roomId members' hfind' record' (mem_of_find?_eq_some hrecord')
    hstays

theorem BackendPool.HandledInTurn.of_reach
    (h : (backend config).Reach BackendPool.OneAtATime (BackendPool.initial config db) pool) :
    HandledInTurn config db pool := by
  induction h with
  | refl => exact .initial
  | tail _ hallowed hnext ih => exact ih.act hallowed hnext

/-- The owner of the channel mutes a member, who cannot unmute itself, and unmutes it again. -/
theorem only_hosts_lift_host_mutes_owner :
    ∃ pool pool' : BackendPool, BackendPool.HandledInTurn openServer lobbyDb pool
      ∧ (backend openServer).next pool (.step 6 {}) = some pool'
      ∧ (∃ roomId members members' record record',
        pool.shared.roomState.find roomId = some members
          ∧ pool'.shared.roomState.find roomId = some members'
          ∧ members.info.participant "peer-2" = some record ∧ record.isHostMuted = true
          ∧ members'.info.participant "peer-2" = some record' ∧ record'.isHostMuted = false)
      ∧ ∃ peerId, pool.shared.ActsAsHost peerId := by
  obtain ⟨pool, hreach, pool', hnext, roomId, -, members, hfind, members', hfind', record, hrecord,
    hmuted, record', hrecord', hlifted⟩ := System.exists_reach_of_replay (backend openServer)
    BackendPool.OneAtATime (BackendPool.initial openServer lobbyDb)
    (opens 0 (some alice) ++ opens 1 (some bob)
      ++ .start (.message "peer-1" joinLobby) :: replicate 36 (.step 2 {})
      ++ .start (.message "peer-2" joinLobby) :: replicate 39 (.step 3 {})
      ++ .start (.message "peer-1" (.muteParticipant "peer-2")) :: replicate 11 (.step 4 {})
      ++ .start (.message "peer-2" .selfUnmute) :: replicate 8 (.step 5 {})
      ++ .start (.message "peer-1" (.unmuteParticipant "peer-2")) :: replicate 7 (.step 6 {}))
    (fun pool => ∃ pool' ∈ (backend openServer).next pool (.step 6 {}),
      ∃ roomId ∈ pool.shared.activeRoomMap.lookup lobby,
        ∃ members ∈ pool.shared.roomState.find roomId,
        ∃ members' ∈ pool'.shared.roomState.find roomId,
        ∃ record ∈ members.info.participant "peer-2", record.isHostMuted = true
          ∧ ∃ record' ∈ members'.info.participant "peer-2", record'.isHostMuted = false)
    (by decide +kernel)
  have hrun := BackendPool.HandledInTurn.of_reach hreach
  refine ⟨pool, pool', hrun, hnext, ⟨roomId, members, members', record, record', hfind, hfind',
    hrecord, hmuted, hrecord', hlifted⟩, ?_⟩
  obtain ⟨call, trace, o, rest, _, _, hthread, -⟩ := (backend openServer).next_step hnext
  obtain ⟨peerId, -, hacts⟩ := ((only_hosts_lift_host_mutes openServer lobbyDb hrun).2 6 {} pool' _
    hthread hnext roomId members members' hfind hfind' "peer-2" record record' hrecord hrecord'
    hmuted).1 hlifted
  exact ⟨peerId, hacts⟩

theorem BackendProg.Quiet.sameRooms (h : program.Quiet) :
    program.Alone ok (fun _ w' => w'.roomState = w.roomState) w := by
  refine h.ensures rfl fun {o env w₁ answer w₂} hquiet hsame hexec => ?_
  rcases Op.exec_roomState hexec with hkept | ⟨ro, rfl, hrooms⟩
  · exact hkept.trans hsame
  · rw [hrooms, ← hsame]
    cases ro <;> first | rfl | cases hquiet

variable (ok) in
theorem dispatchHostAction_alone {session : SignalingSession}
    (hrole : w.effectiveRole session ≠ some .host)
    (action : RoomId → ParticipantRole → BackendProg Unit) :
    (dispatchHostAction session targetId action).Alone ok
      (fun _ w' => w'.roomState = w.roomState ∧ w.SameRoles w') w := by
  have hquiet : ∀ {α : Type} {program : BackendProg α} {w' : World}, program.Quiet →
      w'.roomState = w.roomState ∧ w.SameRoles w' →
      program.Alone ok (fun _ w' => w'.roomState = w.roomState ∧ w.SameRoles w') w' := fun h hw =>
    (h.sameRooms.and h.sameRoles).mono fun _ _ h' => ⟨h'.1.trans hw.1, hw.2.trans h'.2⟩
  refine (hquiet (checkActionRateLimit_quiet _) ⟨rfl, rfl, rfl⟩).bind fun allowed w₁ h₁ => ?_
  split
  · refine (hquiet (requireSfuRoom_quiet _) h₁).bind fun room w₂ h₂ => ?_
    split
    · exact h₂
    refine ((hquiet (resolveEffectiveRole_quiet _ _) h₂).and
        (resolveEffectiveRole_alone _ session w₂)).bind fun role w₃ h₃ => ?_
    split
    · exact h₃.1
    rename_i role
    refine ((hquiet (requireHost_quiet _ _) h₃.1).and
        (requireHost_alone _ _ w₃)).bind fun isHost w₄ h₄ => ?_
    split
    · rename_i hhost
      exact absurd (h₂.2.effectiveRole session ▸ h₄.2 hhost ▸ h₃.2 role rfl) hrole
    · exact h₄.1
  · exact h₁

/-- **Only hosts moderate.** Whatever a session that is no host of its room wants to kick, mute or
unmute, and whatever the limiters and the database answer, no room changes. -/
theorem moderation_needs_host {session : SignalingSession} {msg : SignalingMessage}
    (hmsg : msg = .kickParticipant targetId ∨ msg = .muteParticipant targetId
      ∨ msg = .unmuteParticipant targetId)
    (hrole : w.effectiveRole session ≠ some .host) (issuerId : String) :
    (dispatchAction config peerId issuerId session msg).Alone ok
      (fun _ w' => w'.roomState = w.roomState ∧ w.SameRoles w') w := by
  rcases hmsg with rfl | rfl | rfl <;> exact dispatchHostAction_alone ok hrole _

/-- A member kicks the owner of the channel, who is in the room. -/
theorem moderation_needs_host_member :
    ∃ (pool : BackendPool) (roomId : RoomId) (session : SignalingSession),
      BackendPool.HandledInTurn openServer lobbyDb pool
      ∧ (∃ members, pool.shared.roomState.find roomId = some members
        ∧ members.peers = ["peer-1", "peer-2"])
      ∧ (∃ connection, pool.shared.connections.lookup "peer-2" = some connection
        ∧ connection.session = some session) ∧ session.roomId = roomId
      ∧ (dispatchAction openServer "peer-2" "" session (.kickParticipant "peer-1")).Alone
        (fun _ _ => True)
        (fun _ w' => w'.roomState = pool.shared.roomState ∧ pool.shared.SameRoles w')
        pool.shared := by
  obtain ⟨pool, hreach, roomId, -, members, hfind, hpeers, connection, hconnection, session,
    hsession, hroom, hrole⟩ := System.exists_reach_of_replay (backend openServer)
    BackendPool.OneAtATime (BackendPool.initial openServer lobbyDb)
    (opens 0 (some alice) ++ opens 1 (some bob)
      ++ .start (.message "peer-1" joinLobby) :: replicate 36 (.step 2 {})
      ++ .start (.message "peer-2" joinLobby) :: replicate 39 (.step 3 {}))
    (fun pool => ∃ roomId ∈ pool.shared.activeRoomMap.lookup lobby,
      ∃ members ∈ pool.shared.roomState.find roomId, members.peers = ["peer-1", "peer-2"]
      ∧ ∃ connection ∈ pool.shared.connections.lookup "peer-2",
        ∃ session ∈ connection.session, session.roomId = roomId
        ∧ pool.shared.effectiveRole session ≠ some .host)
    (by decide +kernel)
  exact ⟨pool, roomId, session, .of_reach hreach, ⟨members, hfind, hpeers⟩,
    ⟨connection, hconnection, hsession⟩, hroom, moderation_needs_host (.inl rfl) hrole ""⟩

end Wavis
