import Wavis.Proof.VoiceProtocol

/-! From a calm phase every function comes back to a calm phase. A join that has succeeded leaves
its connection linked, which is when it may get its session. -/

namespace Wavis

open Concurrency Prog InMemoryRoomState

section

variable {peerId : PeerId}

open VoicePhase

variable {α β : Type} {call : BackendCall} {conn : ConnPhase} {φ : VoicePhase}
  {program : BackendProg α} {post : VoicePhase → β → Prop} {session : SignalingSession}
  {msg : SignalingMessage} {channelId : Uuid} (config : Config) (roomId : RoomId)
  (joiner : VoiceJoiner) (userId : Uuid)

abbrev BackendProg.Keeps (program : BackendProg α) (call : BackendCall)
    (post : VoicePhase → α → Prop) (φ : VoicePhase) : Prop :=
  program.Obeys VoicePhase.next (VoicePhase.May call) post φ

section

variable (hφ : Calm conn φ)
include hφ

theorem VoicePhase.Calm.keeps (h : program.Within fun o => o.calm = true) :
    program.Keeps call (fun φ _ => Calm conn φ) φ :=
  h.obeys hφ fun _ _ hcalm ho => hcalm.stays ho

theorem VoicePhase.Calm.keeps_spec {post : α → Prop}
    (h : program.Spec (fun o => o.calm = true) post) :
    program.Keeps call (fun φ a => Calm conn φ ∧ post a) φ :=
  h.obeys hφ fun _ _ hcalm ho => hcalm.stays ho

theorem VoicePhase.Calm.bind {f : α → BackendProg β} (h : program.Within fun o => o.calm = true)
    (hf : ∀ a φ, Calm conn φ → (f a).Keeps call post φ) : (program >>= f).Keeps call post φ :=
  (hφ.keeps h).bind fun φ a => hf a φ

end

theorem keeps_perform_bind {o : Op} {f : o.Resp → BackendProg β} (hmay : VoicePhase.May call φ o)
    (hf : ∀ answer, (f answer).Keeps call post (φ.next o answer)) :
    (Op.perform o >>= f).Keeps call post φ := ⟨hmay, hf⟩

theorem BackendProg.Passive.calm (h : program.Passive) : program.Within fun o => o.calm = true :=
  h.mono fun _ => Op.calm_of_passive

theorem removePeerInternal_keeps (peerId : PeerId) (removeEmptyRoom : Bool) (hφ : Calm conn φ) :
    (roomState (removePeerInternal peerId removeEmptyRoom)).Keeps call
      (fun φ _ => Calm conn φ) φ := by
  obtain ⟨lock, custody, conn'⟩ := φ
  obtain ⟨rfl, rfl, hidle⟩ := hφ
  refine ⟨hidle, ?_⟩
  intro before
  cases before with
  | none =>
    rw [next_unlinkPeer_none]
    exact ⟨rfl, rfl, rfl⟩
  | some roomId =>
    rw [next_unlinkPeer_some]
    refine ⟨rfl, ?_⟩
    intro arc
    cases arc with
    | none => exact ⟨rfl, rfl, rfl⟩
    | some arc =>
      refine ⟨⟨roomId, rfl⟩, ?_⟩
      intro isEmpty
      cases removeEmptyRoom <;> cases isEmpty
      · exact ⟨rfl, rfl, rfl⟩
      · exact ⟨rfl, rfl, rfl⟩
      · exact ⟨rfl, rfl, rfl⟩
      · exact ⟨trivial, fun _ => ⟨rfl, rfl, rfl⟩⟩

theorem tryAddPeerWith_keeps (check : JoinCheck) (hpeer : call.peer = some peerId)
    (hchannel : call.voiceChannel.isSome = true) (hφ : Calm .fresh φ) :
    (roomState (tryAddPeerWith peerId roomId check)).Keeps call
      (fun φ answer => match answer with
        | .ok _ => Calm .linked φ
        | .error _ => Calm .fresh φ) φ := by
  refine ⟨(hφ.stays (o := .room (.getRoom roomId)) rfl).1, ?_⟩
  obtain ⟨lock, custody, conn'⟩ := φ
  obtain ⟨rfl, rfl, hidle⟩ := hφ
  intro arc
  cases arc with
  | none =>
    rw [next_getRoom_none]
    exact ⟨rfl, rfl, rfl⟩
  | some arc =>
    rw [next_getRoom_some _ roomId arc hidle]
    refine ⟨⟨⟨roomId, rfl⟩, hpeer, hchannel, rfl⟩, ?_⟩
    intro answer
    cases answer with
    | error reason => exact ⟨rfl, rfl, rfl⟩
    | ok newCount => exact ⟨⟨rfl, rfl⟩, fun _ => ⟨rfl, rfl, rfl⟩⟩

theorem createActiveRoom_keeps (passthroughEnabled : Bool) (hlock : φ.lock = .vacant channelId)
    (hconn : φ.conn = conn) (hidle : φ.custody.isIdle = true) :
    (createActiveRoom config channelId passthroughEnabled).Keeps call
      (fun φ _ => Calm conn φ) φ := by
  have hheld : φ.lock ≠ .free := by simp [hlock]
  refine ⟨trivial, fun suffix => ?_⟩
  rw [next_silent φ rfl]
  refine ⟨trivial, fun created => ?_⟩
  rw [next_silent φ rfl]
  cases created with
  | error e =>
    refine ⟨hheld, fun _ => ?_⟩
    rw [next_unlockActiveRoom]
    exact ⟨rfl, hconn, hidle⟩
  | ok handle =>
    refine ⟨⟨⟨channelId, hlock⟩, rfl⟩, fun isNew => ?_⟩
    rw [next_silent φ rfl]
    cases isNew with
    | true =>
      refine ⟨hlock, fun _ => ?_⟩
      rw [next_publishActiveRoom]
      exact ⟨rfl, hconn, hidle⟩
    | false =>
      refine ⟨hheld, fun _ => ?_⟩
      rw [next_unlockActiveRoom]
      exact ⟨rfl, hconn, hidle⟩

/-- The lock is taken, and given back on every path. -/
theorem ensureActiveRoom_keeps (channelId : Uuid) (passthroughEnabled : Bool) (hφ : Calm conn φ) :
    (ensureActiveRoom config channelId passthroughEnabled).Keeps call
      (fun φ _ => Calm conn φ) φ := by
  refine ⟨hφ.lock, fun before => ?_⟩
  rw [next_lockActiveRoom φ before hφ.lock]
  cases before with
  | none => exact createActiveRoom_keeps config passthroughEnabled rfl hφ.conn hφ.custody
  | some roomId =>
    refine ⟨trivial, fun members => ?_⟩
    cases members with
    | some members =>
      rw [next_readRoom_some]
      refine ⟨trivial, fun _ => ?_⟩
      rw [next_silent _ rfl]
      refine ⟨by simp [VoicePhase.May], fun _ => ?_⟩
      rw [next_unlockActiveRoom]
      exact ⟨rfl, hφ.conn, hφ.custody⟩
    | none =>
      rw [next_readRoom_none _ roomId rfl]
      refine ⟨⟨roomId, rfl⟩, fun _ => ?_⟩
      rw [next_evictActiveRoom _ roomId _ rfl]
      exact createActiveRoom_keeps config passthroughEnabled rfl hφ.conn hφ.custody

theorem evictStaleSession_keeps (hφ : Calm conn φ) :
    (evictStaleSession roomId userId).Keeps call (fun φ _ => Calm conn φ) φ := by
  refine hφ.bind (within_getRoomInfo rfl) fun info φ hφ => ?_
  cases info.bind (·.findUser userId) with
  | none => exact hφ
  | some stalePeerId =>
    refine hφ.bind (within_getRoomInfo rfl) fun info φ hφ => ?_
    refine hφ.bind (sfuRemoveAll_inert _ _).passive.calm fun _ φ hφ => ?_
    refine hφ.bind (takeViewerIdentities_inert _ _).passive.calm fun _ φ hφ => ?_
    refine hφ.bind (sfuRemoveAll_inert _ _).passive.calm fun _ φ hφ => ?_
    refine hφ.bind (cleanupShareOnDisconnect_inert _ _).passive.calm fun _ φ hφ => ?_
    refine (removePeerInternal_keeps stalePeerId false hφ).bind fun φ _ hφ => ?_
    refine hφ.bind (within_updateRoomInfo rfl) fun _ φ hφ => ?_
    refine hφ.bind (removeParticipantFromSubRoom_inert _ _).passive.calm
      fun _ φ hφ => ?_
    exact hφ

/-- After the insertion of the peer nothing more happens to the membership. -/
theorem completeVoiceJoin_spec (channelId : Uuid) (role : ParticipantRole) (roomId : RoomId)
    (eviction : Option Eviction) (existing : List ParticipantInfo) :
    (completeVoiceJoin config joiner channelId role roomId eviction existing).Spec
      (fun o => o.calm = true)
      fun answer => ∀ result, answer = .ok result → result.channelId = channelId := by
  refine Within.bind_spec (within_updateRoomInfo rfl) fun _ => ?_
  refine Within.bind_spec (syncSubRoomStateOnVoiceJoin_inert _ _ _).passive.calm fun _ => ?_
  refine Within.bind_spec (within_perform rfl) fun token => ?_
  cases token with
  | error e =>
    intro result h
    cases h
  | ok token =>
    refine Within.bind_spec (within_peerCount rfl) fun _ => ?_
    refine Within.bind_spec (within_getRoomInfo rfl) fun _ => ?_
    refine Within.bind_spec (shareStateSnapshot_inert _ _).passive.calm fun _ => ?_
    intro result h
    cases h
    rfl

def AfterJoin (channelId : Uuid) (φ : VoicePhase) (answer : Except VoiceJoinError VoiceJoinResult) :
    Prop :=
  ∃ conn, Calm conn φ ∧ ∀ result, answer = .ok result →
    conn = .linked ∧ result.channelId = channelId

theorem AfterJoin.error {e : VoiceJoinError} (hφ : Calm conn φ) :
    AfterJoin channelId φ (.error e) := by
  refine ⟨conn, hφ, ?_⟩
  intro result h
  cases h

theorem enterVoiceRoom_keeps (channelId : Uuid) (role : ParticipantRole) (roomId : RoomId)
    (created : Bool) (hpeer : call.peer = some joiner.peerId)
    (hchannel : call.voiceChannel.isSome = true) (hφ : Calm .fresh φ) :
    (enterVoiceRoom config joiner channelId role roomId created).Keeps call
      (AfterJoin channelId) φ := by
  have hrollback : ∀ (e : VoiceJoinError) (φ : VoicePhase), Calm .fresh φ →
      (do
        if created then rollbackRoom roomId channelId
        pure (.error e) : BackendProg (Except VoiceJoinError VoiceJoinResult)).Keeps call
        (AfterJoin channelId) φ := by
    intro e φ hφ
    cases created with
    | true => exact hφ.bind (within_rollbackRoom rfl rfl rfl) fun _ φ hφ => .error hφ
    | false => exact .error hφ
  refine (evictStaleSession_keeps roomId joiner.userId hφ).bind fun φ eviction hφ => ?_
  refine hφ.bind (within_getRoomInfo rfl) fun info φ hφ => ?_
  cases info.bind (·.sfuHandle) with
  | none => exact .error hφ
  | some handle =>
    refine hφ.bind (within_perform rfl) fun added φ hφ => ?_
    cases added with
    | error e => exact hrollback _ φ hφ
    | ok _ =>
      refine hφ.bind (within_getRoomInfo rfl) fun before φ hφ => ?_
      refine (tryAddPeerWith_keeps roomId none hpeer hchannel hφ).bind fun φ count hφ => ?_
      cases count with
      | error reason => exact hrollback _ φ hφ
      | ok count =>
        refine (hφ.keeps_spec (completeVoiceJoin_spec config joiner channelId role roomId eviction
          _)).mono ?_
        intro φ answer h
        exact ⟨.linked, h.1, fun result hok => ⟨rfl, h.2 result hok⟩⟩

theorem joinVoice_keeps (channelId : String) (joiner : VoiceJoiner)
    (hpeer : call.peer = some joiner.peerId)
    (hchannel : call.voiceChannel = Uuid.parseStr channelId) (hφ : Calm .fresh φ) :
    (joinVoice config channelId joiner).Keeps call
      (fun φ answer => ∃ conn, Calm conn φ ∧ ∀ result, answer = .ok result →
        conn = .linked ∧ Uuid.parseStr channelId = some result.channelId) φ := by
  have herror : ∀ (e : VoiceJoinError) (φ : VoicePhase) (conn : ConnPhase), Calm conn φ →
      ∃ conn, Calm conn φ ∧ ∀ result,
        (.error e : Except VoiceJoinError VoiceJoinResult) = .ok result →
        conn = .linked ∧ Uuid.parseStr channelId = some result.channelId := by
    intro e φ conn hφ
    refine ⟨conn, hφ, ?_⟩
    intro result h
    cases h
  unfold joinVoice
  cases hparse : Uuid.parseStr channelId with
  | none =>
    rw [hparse] at herror
    exact herror _ φ _ hφ
  | some parsed =>
    rw [hparse] at herror hchannel
    refine hφ.bind (within_perform rfl) fun row φ hφ => ?_
    rcases row with e | _ | ⟨membership, passthroughEnabled⟩
    · exact herror _ φ _ hφ
    · exact herror _ φ _ hφ
    · dsimp only
      split_ifs with hbanned
      · exact herror _ φ _ hφ
      · refine (ensureActiveRoom_keeps config parsed passthroughEnabled hφ).bind
          fun φ room hφ => ?_
        rcases room with e | ⟨roomId, created⟩
        · exact herror _ φ _ hφ
        · refine (enterVoiceRoom_keeps config joiner parsed (mapChannelRole membership.role)
            roomId created hpeer (by rw [hchannel]; rfl) hφ).mono ?_
          rintro φ answer ⟨conn, hcalm, hok⟩
          refine ⟨conn, hcalm, ?_⟩
          intro result h
          obtain ⟨hlinked, hchannel⟩ := hok result h
          exact ⟨hlinked, hchannel ▸ rfl⟩

theorem displaceSession_quiet (evictedPeerId : Option PeerId) :
    (displaceSession evictedPeerId).Quiet := by
  cases evictedPeerId with
  | none => exact .pure
  | some evictedId => exact .bind (sendTo_quiet _ _) fun _ => within_perform rfl

theorem setSession_keeps (session : SignalingSession) (hpeer : call.peer = some peerId)
    (hφ : Calm conn φ) (hconn : conn = .linked ∧ session.channelId = call.voiceChannel
      ∨ conn = .joined session.channelId) :
    (Op.perform (.setSession peerId session)).Keeps call
      (fun φ _ => Calm (.joined session.channelId) φ) φ := by
  refine ⟨⟨hpeer, hφ.conn ▸ hconn⟩, fun answer => ?_⟩
  rw [next_setSession]
  exact ⟨hφ.lock, rfl, hφ.custody⟩

def SomeCalm (φ : VoicePhase) : Prop := ∃ conn, Calm conn φ

theorem VoicePhase.Calm.ends (hφ : Calm conn φ) (h : program.Within fun o => o.calm = true) :
    program.Keeps call (fun φ _ => SomeCalm φ) φ :=
  (hφ.keeps h).mono fun φ _ hφ => ⟨conn, hφ⟩

theorem finishVoiceJoin_keeps {result : VoiceJoinResult} (hpeer : call.peer = some peerId)
    (hchannel : call.voiceChannel = some result.channelId) (hφ : Calm .linked φ) :
    (finishVoiceJoin config peerId userId result).Keeps call (fun φ _ => SomeCalm φ) φ := by
  refine hφ.bind (within_perform rfl) fun now φ hφ => ?_
  refine (setSession_keeps _ hpeer hφ (.inl ⟨rfl, hchannel.symm⟩)).bind fun φ _ hφ => ?_
  refine hφ.ends ?_
  refine .bind (dispatchSignals_passive _ _).calm fun _ => ?_
  exact .bind (scheduleSubRoomExpiry_inert _ _).passive.calm fun _ =>
    (displaceSession_quiet _).passive.calm

theorem coldStart_quiet : (coldStart config).Quiet := by
  refine .bind (within_perform rfl) fun health => ?_
  cases health with
  | available => exact .pure
  | starting since => exact .map (within_perform rfl)
  | unavailable =>
    split_ifs <;> exact .pure

theorem dispatchJoinVoice_keeps (connection : Connection) {payload : JoinVoicePayload}
    (hpeer : call.peer = some peerId)
    (hchannel : call.voiceChannel = Uuid.parseStr payload.channelId) (hφ : Calm .fresh φ) :
    (dispatchJoinVoice config peerId connection payload).Keeps call
      (fun φ _ => SomeCalm φ) φ := by
  unfold dispatchJoinVoice
  cases connection.authenticatedUserId with
  | none => exact ⟨_, hφ⟩
  | some userId =>
    refine hφ.bind (coldStart_quiet config).passive.calm fun refusal φ hφ => ?_
    cases refusal with
    | some refusal => exact hφ.ends (sendTo_passive _ _).calm
    | none =>
      refine hφ.bind (within_perform rfl) fun allowed φ hφ => ?_
      cases allowed with
      | false => exact hφ.ends (sendError_passive _ _).calm
      | true =>
        refine hφ.bind (within_perform rfl) fun allowed φ hφ => ?_
        cases allowed with
        | false => exact hφ.ends (sendTo_passive _ _).calm
        | true =>
          refine (joinVoice_keeps config payload.channelId _ hpeer hchannel hφ).bind
            fun φ answer hφ => ?_
          obtain ⟨conn, hcalm, hok⟩ := hφ
          cases answer with
          | error e => exact hcalm.ends (sendTo_passive _ _).calm
          | ok result =>
            obtain ⟨rfl, hparse⟩ := hok result rfl
            exact finishVoiceJoin_keeps config userId hpeer (hchannel.trans hparse) hcalm

theorem handleSfuLeave_keeps (peerId : PeerId) (hφ : Calm conn φ) :
    (handleSfuLeave roomId peerId).Keeps call (fun φ _ => Calm conn φ) φ := by
  refine hφ.bind (within_getRoomInfo rfl) fun info φ hφ => ?_
  refine hφ.bind (takeViewerIdentities_inert _ _).passive.calm fun _ φ hφ => ?_
  refine hφ.bind (sfuRemoveAll_inert _ _).passive.calm fun _ φ hφ => ?_
  refine hφ.bind (cleanupShareOnDisconnect_inert _ _).passive.calm fun _ φ hφ => ?_
  refine (removePeerInternal_keeps peerId true hφ).bind fun φ _ hφ => hφ.keeps ?_
  refine .bind (within_updateRoomInfo rfl) fun _ => ?_
  exact within_afterRemoval rfl rfl (fun _ => rfl) rfl

theorem handleDisconnect_quiet (peerId : PeerId) : (handleDisconnect peerId).Quiet := by
  refine .bind (within_getRoomForPeer rfl) fun room => ?_
  cases room with
  | none => exact .pure
  | some roomId => exact .map (within_getPeersInRoom rfl)

theorem revokeOnDisconnect_calm (session : SignalingSession) :
    (revokeOnDisconnect session).Within fun o => o.calm = true := by
  refine .bind (within_updateRoomInfo rfl) fun _ => ?_
  exact .bind (cleanupShareOnDisconnect_inert _ _).passive.calm fun _ =>
    (dispatchSignals_passive _ _).calm

theorem leaveSfuRoom_keeps (session : SignalingSession) (hφ : Calm conn φ) :
    (leaveSfuRoom session).Keeps call (fun φ _ => Calm conn φ) φ := by
  refine (handleSfuLeave_keeps _ _ hφ).bind fun φ signals hφ => hφ.keeps ?_
  refine .bind (removeParticipantFromSubRoom_inert _ _).passive.calm fun _ => ?_
  exact .bind (dispatchSignals_passive _ _).calm fun _ =>
    (scheduleSubRoomExpiry_inert _ _).passive.calm

theorem announceP2pLeave_quiet (peerId : PeerId) : (announceP2pLeave peerId).Quiet := by
  refine .bind (handleDisconnect_quiet peerId) fun remaining => ?_
  cases remaining with
  | none => exact .pure
  | some remaining => exact sendTo_quiet _ _

theorem leaveRoom_keeps (session : SignalingSession) (isDisconnect : Bool) (hφ : Calm conn φ) :
    (leaveRoom session isDisconnect).Keeps call (fun φ _ => Calm conn φ) φ := by
  refine hφ.bind (within_getRoomInfo rfl) fun info φ hφ => ?_
  split
  · cases isDisconnect with
    | true =>
      exact hφ.bind (revokeOnDisconnect_calm session)
        fun _ φ hφ => leaveSfuRoom_keeps session hφ
    | false => exact leaveSfuRoom_keeps session hφ
  · refine hφ.bind (announceP2pLeave_quiet _).passive.calm fun _ φ hφ => ?_
    cases isDisconnect with
    | true => exact hφ
    | false =>
      exact (removePeerInternal_keeps _ true hφ).bind fun φ _ hφ =>
        hφ.keeps (within_perform rfl)

theorem handleLeave_keeps (hpeer : call.peer = some peerId)
    (hφ : Calm (.joined session.channelId) φ) :
    (handleLeave session peerId).Keeps call (fun φ _ => SomeCalm φ) φ := by
  unfold handleLeave
  split_ifs
  · exact ⟨_, hφ⟩
  · refine (leaveRoom_keeps session false hφ).bind fun φ _ hφ => ?_
    exact (setSession_keeps { session with leaveHandled := true } hpeer hφ (.inr rfl)).mono
      fun φ _ hφ => ⟨_, hφ⟩

theorem forgetConnection_keeps (session : SignalingSession) (peerId : PeerId) (hφ : Calm conn φ) :
    (forgetConnection session peerId).Keeps call (fun φ _ => SomeCalm φ) φ := by
  refine hφ.bind (within_perform rfl) fun _ φ hφ => ?_
  exact (removePeerInternal_keeps peerId true hφ).bind fun φ _ hφ =>
    hφ.ends (within_cleanupRoomArtifacts rfl rfl fun _ => rfl)

theorem cleanupConnection_keeps (hpeer : call.peer = some peerId)
    (hφ : Calm (.joined session.channelId) φ) :
    (cleanupConnection session peerId).Keeps call (fun φ _ => SomeCalm φ) φ := by
  unfold cleanupConnection
  cases session.cleanupComplete with
  | true => exact ⟨_, hφ⟩
  | false =>
    refine (setSession_keeps { session with cleanupComplete := true } hpeer hφ (.inr rfl)).bind
      fun φ _ hφ => ?_
    cases session.leaveHandled with
    | true => exact forgetConnection_keeps session peerId hφ
    | false =>
      exact (leaveRoom_keeps session true hφ).bind
        fun φ _ hφ => forgetConnection_keeps session peerId hφ

theorem cleanupUnjoinedConnection_keeps (peerId : PeerId) (hφ : Calm conn φ) :
    (cleanupUnjoinedConnection peerId).Keeps call (fun φ _ => Calm conn φ) φ :=
  hφ.bind (within_perform rfl) fun _ _ hφ =>
    removePeerInternal_keeps peerId true hφ

theorem closeConnection_keeps (hpeer : call.peer = some peerId) (hφ : SomeCalm φ) :
    (closeConnection peerId).Keeps call (fun φ _ => SomeCalm φ) φ := by
  obtain ⟨conn, hφ⟩ := hφ
  have hclose : ∀ φ, SomeCalm φ →
      (Op.perform (.closeConnection peerId)).Keeps call (fun φ _ => SomeCalm φ) φ := by
    rintro φ ⟨conn, hφ⟩
    refine ⟨hpeer, fun answer => ?_⟩
    rw [next_closeConnection]
    exact ⟨.unknown, hφ.lock, rfl, hφ.custody⟩
  refine ⟨hpeer, fun connection => ?_⟩
  rw [next_getConnection]
  cases connection with
  | none => exact ⟨.unknown, hφ.lock, rfl, hφ.custody⟩
  | some connection =>
    obtain ⟨issuerId, authenticatedUserId, session⟩ := connection
    cases session with
    | some session =>
      have hjoined : Calm (.joined session.channelId)
          { φ with conn := .joined session.channelId } := ⟨hφ.lock, rfl, hφ.custody⟩
      exact (cleanupConnection_keeps hpeer hjoined).bind fun φ _ hφ => hclose φ hφ
    | none =>
      have hfresh : Calm .fresh { φ with conn := .fresh } := ⟨hφ.lock, rfl, hφ.custody⟩
      exact (cleanupUnjoinedConnection_keeps peerId hfresh).bind fun φ _ hφ => hclose φ ⟨_, hφ⟩

theorem kickParticipant_keeps (targetId : PeerId) (hφ : Calm conn φ) :
    (kickParticipant roomId targetId).Keeps call (fun φ _ => Calm conn φ) φ := by
  refine hφ.bind (within_getRoomInfo rfl) fun info φ hφ => ?_
  refine hφ.bind (sfuRemoveAll_inert _ _).passive.calm fun _ φ hφ => ?_
  refine hφ.bind (takeViewerIdentities_inert _ _).passive.calm fun _ φ hφ => ?_
  refine hφ.bind (sfuRemoveAll_inert _ _).passive.calm fun _ φ hφ => ?_
  refine (removePeerInternal_keeps targetId true hφ).bind fun φ _ hφ => hφ.keeps ?_
  refine .bind (within_updateRoomInfo rfl) fun _ => ?_
  exact .map (within_perform rfl)

theorem handleKick_keeps (kickerRole : ParticipantRole) (targetId : PeerId) (hφ : Calm conn φ) :
    (handleKick roomId kickerRole targetId).Keeps call (fun φ _ => Calm conn φ) φ := by
  unfold handleKick
  split_ifs
  · exact hφ
  refine hφ.bind (participantInRoom_inert _ _).passive.calm fun listed φ hφ => ?_
  cases listed with
  | false => exact hφ
  | true => exact (kickParticipant_keeps roomId targetId hφ).bind fun φ _ hφ => hφ

theorem ejectBannedUser_keeps (peerId : PeerId) (channelId : Uuid) (hφ : Calm conn φ) :
    (ejectBannedUser roomId peerId channelId).Keeps call (fun φ _ => Calm conn φ) φ := by
  refine (handleKick_keeps roomId .host peerId hφ).bind fun φ kicked hφ => ?_
  cases kicked with
  | error e => exact hφ
  | ok signals =>
    refine hφ.keeps (.bind (within_peerCount rfl) fun remaining => ?_)
    split_ifs
    · exact .map (within_releaseVoiceRoom rfl (fun _ => rfl)
        (within_rollbackRoom rfl rfl rfl))
    · exact .pure

theorem banMember_keeps (channelId requesterUserId targetUserId : Uuid)
    (hban : call.isBan = true) (hφ : Calm conn φ) :
    (banMember channelId requesterUserId targetUserId).Keeps call (fun φ _ => Calm conn φ) φ := by
  have hwithin : (banMember channelId requesterUserId targetUserId).Within fun o =>
      o.calm = true ∨ ∃ now, o = .commitBan channelId targetUserId now :=
    within_banMember (.inl rfl) (fun _ => .inl rfl) (.inl rfl) fun now => .inr ⟨now, rfl⟩
  refine hwithin.obeys hφ fun φ o hcalm ho => ?_
  rcases ho with ho | ⟨now, rfl⟩
  · exact hcalm.stays ho
  · refine ⟨hban, fun committed => ?_⟩
    rw [next_silent φ rfl]
    exact hcalm

theorem banMemberRoute_keeps (channelId requesterUserId targetUserId : Uuid)
    (hban : call.isBan = true) (hφ : Calm conn φ) :
    (banMemberRoute channelId requesterUserId targetUserId).Keeps call
      (fun φ _ => Calm conn φ) φ := by
  refine hφ.bind (within_perform rfl) fun allowed φ hφ => ?_
  cases allowed with
  | false => exact hφ
  | true =>
    refine (banMember_keeps _ _ _ hban hφ).bind fun φ banned hφ => ?_
    cases banned with
    | error e => exact hφ
    | ok _ =>
      refine hφ.bind (within_findUserInVoice rfl fun _ => rfl) fun place φ hφ => ?_
      cases place with
      | none => exact hφ
      | some place =>
        obtain ⟨roomId, peerId⟩ := place
        refine (ejectBannedUser_keeps roomId peerId channelId hφ).bind fun φ ejected hφ => ?_
        cases ejected with
        | error e => exact hφ
        | ok signals =>
          refine hφ.keeps ?_
          refine .bind (removeParticipantFromSubRoom_inert _ _).passive.calm fun _ => ?_
          refine .bind (dispatchSignals_passive _ _).calm fun _ => ?_
          exact .bind (scheduleSubRoomExpiry_inert _ _).passive.calm fun _ =>
            .pure

/-- A voice join is dispatched only while the connection has no session, and a leave only while it
has one. -/
theorem dispatchMessage_keeps {connection : Connection} (hcall : call = .message peerId msg)
    (hvoice : call.isVoice = true)
    (hvalid : validateStateTransition msg connection.session.isSome
      connection.authenticatedUserId.isSome = .ok ())
    (hφ : Calm (match connection.session with
      | none => .fresh
      | some session => .joined session.channelId) φ) :
    (dispatchMessage config peerId connection msg).Keeps call (fun φ _ => SomeCalm φ) φ := by
  subst hcall
  obtain ⟨issuerId, userId, session⟩ := connection
  cases msg <;> try cases hvoice
  case leave =>
      cases session with
      | none => exact ⟨_, hφ⟩
      | some session => exact (handleLeave_keeps rfl hφ).bind fun φ _ hφ => hφ
  case joinVoice payload =>
      cases session with
      | some session => cases hvalid
      | none => exact (dispatchJoinVoice_keeps config _ rfl rfl hφ).bind fun φ _ hφ => hφ

theorem handleFrame_keeps (hcall : call = .message peerId msg) (hvoice : call.isVoice = true)
    (hφ : SomeCalm φ) : (handleFrame config peerId msg).Keeps call (fun φ _ => SomeCalm φ) φ := by
  have hpeer : call.peer = some peerId := by rw [hcall]; rfl
  obtain ⟨conn, hφ⟩ := hφ
  refine keeps_perform_bind hpeer fun connection => ?_
  rw [next_getConnection]
  cases connection with
  | none => exact ⟨.unknown, hφ.lock, rfl, hφ.custody⟩
  | some connection =>
    have hconn : Calm (match connection.session with
        | none => .fresh
        | some session => .joined session.channelId)
        { φ with conn := match connection.session with
          | none => .fresh
          | some session => .joined session.channelId } := ⟨hφ.lock, rfl, hφ.custody⟩
    refine hconn.bind (within_perform rfl) fun allowed φ hφ => ?_
    cases allowed with
    | false => exact closeConnection_keeps hpeer ⟨_, hφ⟩
    | true =>
      cases hvalid : validateStateTransition msg connection.session.isSome
        connection.authenticatedUserId.isSome with
      | error reason =>
        simp only [if_true]
        exact hφ.ends (sendError_passive _ _).calm
      | ok _ =>
        refine (dispatchMessage_keeps config hcall hvoice hvalid hφ).bind
          fun φ outcome hφ => ?_
        cases outcome with
        | «continue» => exact hφ
        | «break» => exact closeConnection_keeps hpeer hφ

theorem voiceCall_holds (hvoice : call.isVoice = true) :
    voiceProtocol.Holds ((backend config).spawn call) := by
  have hinit : SomeCalm .initial := ⟨.unknown, initial_calm⟩
  have hkeeps : (call.body config).Keeps call (fun _ _ => True) .initial := by
    cases call with
    | connect userId => exact ⟨trivial, fun _ => trivial⟩
    | message peerId msg =>
      exact (handleFrame_keeps config rfl hvoice hinit).mono fun _ _ _ => trivial
    | disconnect peerId => exact (closeConnection_keeps rfl hinit).mono fun _ _ _ => trivial
    | banMember channelId requesterUserId targetUserId =>
      exact (banMemberRoute_keeps _ _ _ rfl initial_calm).mono fun _ _ _ => trivial
    | refreshTokens | expireSubRoom roomId expiry => cases hvoice
  exact hkeeps

end

end Wavis
