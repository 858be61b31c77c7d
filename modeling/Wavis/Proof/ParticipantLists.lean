import Wavis.Proof.Capacity
import Wavis.Proof.MembershipJoins

namespace Wavis

open Concurrency BackendProg.Neutral

section

variable {full : Prop} {first : Directory} {ok : Op → Env → Prop} {w w' : World} {roomId : RoomId}
  {peerId : PeerId}

structure World.Outside (full : Prop) (first : Directory) (w : World) (peerId : PeerId)
    (connection : Connection) : Prop where
  placed : w.Placed full first
  lookup : w.connections.lookup peerId = some connection
  session : connection.session = none
  index : w.roomState.directory.index peerId = none
  first_index : first.index peerId = none

variable {connection : Connection} {session : SignalingSession} {msg : SignalingMessage}
  (channelId : Uuid) (callerId : PeerId)

section

variable (h : w.Outside full first peerId connection)
include h

theorem World.Outside.refused (hmoves : w.Moves full (some (peerId, roomId)) w') :
    w'.Placed full first := by
  refine h.placed.moves hmoves ?_
  rintro peerId' roomId' ⟨⟩
  refine ⟨h.first_index, fun connection' hlookup => ?_⟩
  rw [h.lookup, Option.some.injEq] at hlookup
  exact hlookup ▸ h.session

theorem World.Outside.sendTo (hmoves : w.Moves full (some (peerId, roomId)) w')
    (msg : SignalingMessage) :
    (Wavis.sendTo peerId msg).Alone ok (fun _ w'' => w''.Placed full first) w' :=
  (hmoves.neutral (sendTo_passive _ _).neutral).mono fun _ _ => h.refused

theorem World.Outside.sendTo_first (msg : SignalingMessage) :
    (Wavis.sendTo peerId msg).Alone ok (fun _ w' => w'.Placed full first) w := by
  have hstay : w.Moves full (some (peerId, "")) w := .refl h.placed.sound
  exact h.sendTo hstay msg

theorem World.Outside.joined (hmoves : w.Moves full (some (peerId, roomId)) w')
    (hpeer : session.participantId = peerId) (hroom : session.roomId = roomId)
    (hleft : session.leaveHandled = false) :
    (Op.perform (.setSession peerId session)).Alone ok (fun _ w'' => w''.Placed full first) w' := by
  intro env answer w'' _ hexec
  refine (h.placed.joins hmoves h.first_index).placed_setSession ⟨hpeer, ?_, ?_⟩ hexec
  · intro roomId' hindex
    rcases hmoves.index hindex with hindex | hgain
    · rw [h.index] at hindex
      cases hindex
    · cases hgain
      exact hroom.symm
  · rw [hleft]
    intro hhandled
    cases hhandled

end

theorem legacyRole_quiet : (legacyRole roomId).Quiet :=
  .map (within_getRoomInfo rfl)

theorem enterSession_placed (config : Config) (h : w.Outside full first peerId connection)
    (hmoves : w.Moves full (some (peerId, roomId)) w') (signals : List OutboundSignal) :
    (enterSession config peerId connection roomId signals).Alone ok
      (fun _ w'' => w''.Placed full first) w' := by
  refine hmoves.neutral_bind (within_perform rfl) fun now w₁ hmoves => ?_
  refine hmoves.neutral_bind (dispatchSignals_passive _ _).neutral fun _ w₂ hmoves => ?_
  refine hmoves.neutral_bind legacyRole_quiet.neutral fun role w₃ hmoves => ?_
  exact h.joined hmoves rfl rfl rfl

theorem isSfuAvailable_quiet : isSfuAvailable.Quiet := by
  refine .bind (within_perform rfl) fun health => ?_
  cases health <;> exact .pure

theorem admitJoin_quiet (config : Config) (inviteCode : Option String) :
    (admitJoin config roomId inviteCode).Quiet := by
  unfold admitJoin
  split
  · exact .pure
  refine .bind (within_perform rfl) fun now => ?_
  split
  · exact .pure
  refine .bind (within_perform rfl) fun globally => ?_
  split
  · exact .pure
  refine .bind (within_perform rfl) fun allowed => ?_
  split
  · exact .pure
  refine .bind (within_perform rfl) fun valid => ?_
  cases valid <;> exact .pure

theorem World.Placed.neutral {α : Type} (h : w.Placed full first) {program : BackendProg α}
    (hprogram : program.Neutral) : program.Alone ok (fun _ w' => w'.Placed full first) w :=
  (alone hprogram).mono fun _ _ hsame =>
    h.leaves (hsame.moves h.sound)

theorem World.SamePlaces.outside (hsame : w.SamePlaces w')
    (h : w.Outside full first peerId connection) :
    w'.Outside full first peerId connection where
  placed := h.placed.leaves (hsame.moves h.placed.sound)
  lookup := hsame.connections ▸ h.lookup
  session := h.session
  index := hsame.directory ▸ h.index
  first_index := h.first_index

theorem World.SamePlaces.fitsP2p (hsame : w.SamePlaces w') (h : w.FitsP2p roomId) :
    w'.FitsP2p roomId := by
  intro members hfind hsfu
  have hroom : w.roomState.directory.room roomId = some members.roster := by
    rw [← hsame.directory]
    simp [InMemoryRoomState.directory, hfind]
  obtain ⟨old, hold, hroster⟩ := Option.map_eq_some_iff.mp hroom
  have htype : (old.info.roomType == .sfu) = (members.info.roomType == .sfu) :=
    congrArg Roster.sfu hroster
  have hcapacity : old.info.maxParticipants = members.info.maxParticipants :=
    congrArg Roster.capacity hroster
  have hpeers : old.peers = members.peers := congrArg Roster.peers hroster
  rw [← hcapacity, ← hpeers]
  exact h old hold (by simpa [hsfu] using htype)

section

variable (config : Config) (h : w.Outside full first peerId connection)
include config h

theorem dispatchJoin_placed (payload : JoinPayload)
    (hfits : full → determineRoomType payload.roomType config.maxParticipants = .p2p →
      w.FitsP2p (trim payload.roomId)) :
    (dispatchJoin config peerId connection payload).Alone ok
      (fun _ w' => w'.Placed full first) w := by
  unfold dispatchJoin
  dsimp only
  split
  · exact h.sendTo_first _
  refine (alone (admitJoin_quiet config _).neutral).bind ?_
  intro admitted w₁ hsame
  have h₁ := hsame.outside h
  cases admitted with
  | error refusal => exact h₁.sendTo_first refusal
  | ok inviteCode =>
    dsimp only
    split
    · rename_i htype
      refine (handleP2pJoin_moves h₁.placed.sound h₁.index
        (fun hfull => hsame.fitsP2p (hfits hfull htype)) inviteCode).bind ?_
      intro result w₂ hmoves
      cases result with
      | joined signals => exact enterSession_placed config h₁ hmoves signals
      | roomFull | inviteRejected reason => exact h₁.sendTo hmoves _
    · refine (alone isSfuAvailable_quiet.neutral).bind ?_
      intro available w₂ hsame₂
      have h₂ := hsame₂.outside h₁
      split
      · exact h₂.sendTo_first _
      refine (handleSfuJoin_moves config h₂.placed.sound h₂.index _ _ inviteCode).bind ?_
      intro result w₃ hmoves
      cases result with
      | ok signals => exact enterSession_placed config h₂ hmoves signals
      | error e =>
        cases e <;> exact h₂.sendTo hmoves _

theorem dispatchCreateRoom_placed (payload : CreateRoomPayload) :
    (dispatchCreateRoom config peerId connection payload).Alone ok
      (fun _ w' => w'.Placed full first) w := by
  refine (alone isSfuAvailable_quiet.neutral).bind ?_
  intro available w₁ hsame
  have h₁ := hsame.outside h
  refine (handleCreateRoom_moves config h₁.placed.sound h₁.index _ _ _ _ available).bind ?_
  rintro answer w₂ ⟨hmoves, hsome⟩
  match answer, hsome with
  | some (.error e), _ => exact h₁.sendTo hmoves _
  | some (.ok signals), _ =>
    refine hmoves.neutral_bind (within_perform rfl) fun now w₃ hmoves => ?_
    refine (h₁.joined hmoves rfl rfl rfl).bind fun _ w₄ hplaced => ?_
    exact hplaced.neutral (dispatchSignals_passive _ _).neutral

theorem dispatchJoinVoice_placed (payload : JoinVoicePayload) :
    (dispatchJoinVoice config peerId connection payload).Alone ok
      (fun _ w' => w'.Placed full first) w := by
  unfold dispatchJoinVoice
  split
  · exact h.placed
  rename_i userId _
  refine (alone (coldStart_quiet config).neutral).bind ?_
  intro cold w₁ hsame
  have h₁ := hsame.outside h
  cases cold with
  | some refusal => exact h₁.sendTo_first refusal
  | none =>
    refine (alone (within_perform rfl)).bind ?_
    intro globally w₂ hsame
    have h₂ := hsame.outside h₁
    split
    · exact h₂.sendTo_first _
    refine (alone (within_perform rfl)).bind ?_
    intro allowed w₃ hsame
    have h₃ := hsame.outside h₂
    split
    · exact h₃.sendTo_first _
    refine (joinVoice_moves config _ h₃.placed.sound h₃.index payload.channelId).bind ?_
    rintro answer w₄ ⟨roomId, hmoves, hroom⟩
    cases answer with
    | error e => exact h₃.sendTo hmoves _
    | ok result =>
      refine hmoves.neutral_bind (within_perform rfl) fun now w₅ hmoves => ?_
      refine (h₃.joined hmoves rfl (hroom result rfl) rfl).bind fun _ w₆ hplaced => ?_
      refine hplaced.neutral ?_
      refine .bind (dispatchSignals_passive _ _).neutral fun _ => ?_
      refine .bind (scheduleSubRoomExpiry_inert _ _).neutral fun _ => ?_
      exact (displaceSession_quiet _).neutral

end

theorem World.SamePlaces.isSfu (hsame : w.SamePlaces w') (h : w.IsSfu roomId) :
    w'.IsSfu roomId := by
  intro roster hroom
  rw [hsame.directory] at hroom
  exact h roster hroom

structure World.SameStart (w w' : World) : Prop where
  roomState : w'.roomState = w.roomState
  connections : w'.connections = w.connections
  nextPeerId : w'.nextPeerId = w.nextPeerId

theorem World.SameStart.trans {w'' : World} (h : w.SameStart w') (h' : w'.SameStart w'') :
    w.SameStart w'' :=
  ⟨h'.roomState.trans h.roomState, h'.connections.trans h.connections,
    h'.nextPeerId.trans h.nextPeerId⟩

theorem World.SameStart.samePlaces (h : w.SameStart w') : w.SamePlaces w' :=
  ⟨by rw [h.roomState], h.connections⟩

theorem Op.sameStart_of_quiet {o : Op} {env : Env} {answer : o.Resp} (h : o.quiet = true)
    (hexec : o.exec env w = some (answer, w')) : w.SameStart w' := by
  have hoff : o.onConnections = false := by
    cases o <;> first | rfl | cases h
  obtain ⟨hconnections, hnext⟩ := Op.exec_connections hexec hoff
  exact ⟨Op.roomState_of_keepsRooms (Op.keepsRooms_of_quiet h) hexec, hconnections, hnext⟩

theorem BackendProg.Quiet.sameStart {α : Type} {program : BackendProg α} (h : program.Quiet) :
    program.Alone ok (fun _ w' => w.SameStart w') w :=
  h.ensures ⟨rfl, rfl, rfl⟩ fun hquiet hstart hexec =>
    hstart.trans (Op.sameStart_of_quiet hquiet hexec)

section

variable {w₀ : World} (h : w₀.SameStart w)
include h

theorem World.SameStart.bind {α β : Type} {program : BackendProg α} {f : α → BackendProg β}
    {post : β → World → Prop} (hprogram : program.Quiet)
    (hf : ∀ a w', w₀.SameStart w' → (f a).Alone ok post w') : (program >>= f).Alone ok post w :=
  hprogram.sameStart.bind fun a w' hstart => hf a w' (h.trans hstart)

theorem alone_requireRoom :
    (requireRoom callerId).Alone ok (fun room w' => w₀.SameStart w'
      ∧ ∀ found, room = some found → w₀.roomState.directory.index callerId = some found) w := by
  refine (alone_getRoomForPeer callerId).bind ?_
  rintro room w₁ ⟨clock, rfl, hroom⟩
  have h₁ : w₀.SameStart (w.later clock) := h.trans ⟨rfl, rfl, rfl⟩
  cases room with
  | some roomId =>
    refine ⟨h₁, ?_⟩
    rintro _ ⟨⟩
    rw [← h.roomState]
    exact hroom.symm
  | none => exact h₁.bind (sendError_quiet _ _) fun _ w₂ h₂ => ⟨h₂, nofun⟩

theorem alone_requireSfuRoom :
    (requireSfuRoom callerId).Alone ok (fun room w' => w₀.SameStart w'
      ∧ ∀ found, room = some found → w₀.roomState.directory.index callerId = some found.1
        ∧ w₀.HasSfuRoom found.1) w := by
  refine (alone_requireRoom callerId h).bind ?_
  rintro room w₁ ⟨h₁, hindex⟩
  cases room with
  | none => exact ⟨h₁, nofun⟩
  | some roomId =>
    refine (alone_getRoomInfo roomId).bind ?_
    rintro info w₂ ⟨clock, rfl, hinfo⟩
    have h₂ : w₀.SameStart (w₁.later clock) := h₁.trans ⟨rfl, rfl, rfl⟩
    split
    · rename_i found hfound
      refine ⟨h₂, ?_⟩
      rintro _ ⟨⟩
      obtain ⟨hread, hsfu⟩ := Option.filter_eq_some_iff.mp hfound
      rw [hinfo, h₁.roomState] at hread
      obtain ⟨members, hfind, rfl⟩ := Option.map_eq_some_iff.mp hread
      exact ⟨hindex roomId rfl, members, hfind, by simpa using hsfu⟩
    · exact h₂.bind (sendError_quiet _ _) fun _ w₃ h₃ => ⟨h₃, nofun⟩

end

theorem alone_dispatchHostAction {targetId : PeerId}
    {action : RoomId → ParticipantRole → BackendProg Unit} {post : World → Prop}
    (hrefused : ∀ w', w.SameStart w' → post w')
    (haction : ∀ roomId role w', w.SameStart w' →
      w.roomState.directory.index session.participantId = some roomId → w.HasSfuRoom roomId →
      (action roomId role).Alone ok (fun _ => post) w') :
    (dispatchHostAction session targetId action).Alone ok (fun _ => post) w := by
  have h : w.SameStart w := ⟨rfl, rfl, rfl⟩
  refine h.bind (checkActionRateLimit_quiet _) fun allowed w₁ h₁ => ?_
  split
  swap
  · exact hrefused w₁ h₁
  refine (alone_requireSfuRoom _ h₁).bind ?_
  rintro room w₂ ⟨h₂, hroom⟩
  rcases room with _ | ⟨roomId, info⟩
  · exact hrefused w₂ h₂
  obtain ⟨hindex, hsfu⟩ := hroom _ rfl
  refine h₂.bind (resolveEffectiveRole_quiet _ _) fun role w₃ h₃ => ?_
  cases role with
  | none => exact hrefused w₃ h₃
  | some role =>
    refine h₃.bind (requireHost_quiet _ _) fun isHost w₄ h₄ => ?_
    split
    swap
    · exact hrefused w₄ h₄
    refine h₄.bind (requireTargetInRoom_quiet _ _ _) fun _ w₅ h₅ => ?_
    split
    · exact haction roomId role w₅ h₅ hindex hsfu
    · exact hrefused w₅ h₅

theorem dispatchKick_placed (h : w.Placed full first) (session : SignalingSession)
    (targetId : PeerId) :
    (dispatchKick session targetId).Alone ok (fun _ w' => w'.Placed full first) w := by
  have hstay : ∀ w', w.SameStart w' → w'.Placed full first :=
    fun _ hstart => h.leaves (hstart.samePlaces.moves h.sound)
  refine alone_dispatchHostAction hstay fun roomId role w₁ hstart _ hsfu => ?_
  have h₁ := hstay w₁ hstart
  refine (handleKick_moves h₁.sound (hstart.samePlaces.isSfu hsfu.isSfu) role).bind
    fun kicked w₂ hmoves => ?_
  have h₂ := h₁.leaves hmoves
  cases kicked with
  | error e => exact h₂.neutral (sendError_passive _ _).neutral
  | ok signals =>
    refine h₂.neutral ?_
    refine .bind (removeParticipantFromSubRoom_inert _ _).neutral fun _ => ?_
    refine .bind (dispatchSignals_passive _ _).neutral fun _ => ?_
    exact (scheduleSubRoomExpiry_inert _ _).neutral

theorem dispatchAction_placed (config : Config) (h : w.Placed full first) (issuerId : String)
    (session : SignalingSession) (msg : SignalingMessage) :
    (dispatchAction config peerId issuerId session msg).Alone ok
      (fun _ w' => w'.Placed full first) w := by
  cases hmsg : msg.kicksOrIssues with
  | false => exact h.neutral (dispatchAction_plain config peerId issuerId session hmsg).neutral
  | true =>
    cases msg with
    | kickParticipant targetId => exact dispatchKick_placed h session targetId
    | requestViewerToken windowId =>
      exact h.neutral (within_dispatchRequestViewerToken (fun _ => Op.neutral_of_quiet)
        (fun _ _ => rfl) (fun _ _ => rfl) fun _ _ => rfl)
    | _ => cases hmsg

theorem dispatchAuth_placed (h : w.Placed full first) (accessToken : String) :
    (dispatchAuth peerId accessToken).Alone ok (fun _ w' => w'.Placed full first) w := by
  refine (h.neutral (within_perform rfl)).bind ?_
  intro answer w₁ h
  cases answer with
  | error e => exact h.neutral (sendTo_passive _ _).neutral
  | ok userId =>
    intro env _ w₂ _ hexec
    cases hexec
    refine .neutral ?_ (sendTo_passive _ _).neutral
    refine ⟨by rw [World.setConnection_roomState]; exact h.sound, ?_,
      by rw [World.setConnection_roomState]; exact h.stays⟩
    intro peerId' connection session hconnection hsession
    rw [World.setConnection_roomState]
    rw [World.lookup_setConnection] at hconnection
    split_ifs at hconnection with hpeer
    · subst hpeer
      obtain ⟨old, hold, rfl⟩ := Option.map_eq_some_iff.mp hconnection
      have hlookup : w₁.connections.lookup peerId' = some old := hold
      exact h.sessions hlookup hsession
    · exact h.sessions hconnection hsession

theorem handleLeave_placed (h : w.Placed full first)
    (hnames : session.Names peerId w.roomState.directory) :
    (handleLeave session peerId).Alone ok (fun _ w' => w'.Placed full first
      ∧ w'.roomState.directory.index peerId = none) w := by
  unfold handleLeave
  split
  · rename_i hleft
    exact ⟨h, hnames.leaveHandled hleft⟩
  obtain rfl := hnames.participantId
  refine (leaveRoom_moves h.sound (fun _ => hnames.roomId) false).bind ?_
  rintro _ w₁ ⟨hmoves, -, hgone⟩
  intro env _ w₂ _ hexec
  have hindex := hgone rfl
  have hleft : SignalingSession.Names { session with leaveHandled := true }
      session.participantId w₁.roomState.directory := by
    refine ⟨rfl, fun hplace => ?_, fun _ => hindex⟩
    rw [hindex] at hplace
    cases hplace
  refine ⟨(h.leaves hmoves).besides.placed_setSession hleft hexec, ?_⟩
  · rw [((h.leaves hmoves).besides.setSession hexec).2]
    exact hindex

def World.Attached (w : World) : BackendCall → Prop
  | .message peerId _ => w.JoinedOrOut peerId
  | .disconnect peerId => w.JoinedOrOut peerId
  | _ => True

/-- A P2P join finds no SFU room with a free place, and who has not joined is in no room. -/
def World.Regular (config : Config) (w : World) : BackendCall → Prop
  | .message peerId (.join payload) =>
    w.JoinedOrOut peerId
      ∧ (determineRoomType payload.roomType config.maxParticipants = .p2p →
        w.FitsP2p (trim payload.roomId))
  | .message peerId _ => w.JoinedOrOut peerId
  | .disconnect peerId => w.JoinedOrOut peerId
  | _ => True

theorem World.Regular.attached {config : Config} {call : BackendCall}
    (h : w.Regular config call) : w.Attached call := by
  cases call with
  | message peerId msg => cases msg <;> first | exact h.1 | exact h
  | disconnect peerId => exact h
  | _ => trivial

theorem session_eq_none {authenticated : Bool}
    (hmsg : (∃ payload, msg = .join payload) ∨ (∃ payload, msg = .createRoom payload)
      ∨ ∃ payload, msg = .joinVoice payload)
    (hvalid : validateStateTransition msg connection.session.isSome authenticated = .ok ()) :
    connection.session = none := by
  cases hsession : connection.session with
  | none => rfl
  | some session =>
    rw [hsession] at hvalid
    rcases hmsg with ⟨payload, rfl⟩ | ⟨payload, rfl⟩ | ⟨payload, rfl⟩ <;> cases hvalid

theorem dispatchMessage_placed (config : Config) (h : w.Placed full first)
    (hlookup : w.connections.lookup peerId = some connection) (hout : w.JoinedOrOut peerId)
    (hfirst : connection.session = none → first.index peerId = none)
    (hvalid : validateStateTransition msg connection.session.isSome
      connection.authenticatedUserId.isSome = .ok ())
    (hfits : full → ∀ payload, msg = .join payload →
      determineRoomType payload.roomType config.maxParticipants = .p2p →
      w.FitsP2p (trim payload.roomId)) :
    (dispatchMessage config peerId connection msg).Alone ok
      (fun outcome w' => w'.Placed full first ∧ (outcome = .break → w'.JoinedOrOut peerId)) w := by
  have hcontinue : ∀ {program : BackendProg Unit} {w : World},
      program.Alone ok (fun _ w' => w'.Placed full first) w →
      (program >>= fun _ => pure DispatchOutcome.continue).Alone ok
        (fun outcome w' => w'.Placed full first ∧ (outcome = .break → w'.JoinedOrOut peerId)) w :=
    fun hprogram => hprogram.bind fun _ _ hplaced => ⟨hplaced, nofun⟩
  have houtside : connection.session = none → w.Outside full first peerId connection :=
    fun hsession => ⟨h, hlookup, hsession, hout connection hlookup hsession, hfirst hsession⟩
  unfold dispatchMessage
  split
  · exact hcontinue (dispatchAuth_placed h _)
  · rename_i payload
    have hsession := session_eq_none (.inl ⟨payload, rfl⟩) hvalid
    exact hcontinue (dispatchJoin_placed config (houtside hsession) payload fun hfull =>
      hfits hfull payload rfl)
  · rename_i payload
    have hsession := session_eq_none (.inr (.inl ⟨payload, rfl⟩)) hvalid
    exact hcontinue (dispatchCreateRoom_placed config (houtside hsession) payload)
  · rename_i payload
    have hsession := session_eq_none (.inr (.inr ⟨payload, rfl⟩)) hvalid
    exact hcontinue (dispatchJoinVoice_placed config (houtside hsession) payload)
  · rename_i session hsession
    refine (handleLeave_placed h (h.sessions hlookup hsession)).bind ?_
    rintro _ w' ⟨hplaced, hindex⟩
    exact ⟨hplaced, fun _ _ _ _ => hindex⟩
  · exact ⟨h, fun _ => hout⟩
  · exact hcontinue (dispatchAction_placed config h _ _ _)
  · exact ⟨h, nofun⟩

theorem handleFrame_placed (config : Config) (h : w.Placed full w.roomState.directory)
    (msg : SignalingMessage) (hattached : w.JoinedOrOut peerId)
    (hregular : full → w.Regular config (.message peerId msg)) :
    (handleFrame config peerId msg).Alone ok
      (fun _ w' => w'.Placed full w.roomState.directory) w := by
  intro env _ w₁ _ hexec
  cases hexec
  have hsame : w.SamePlaces (w.tick env.elapsed) := ⟨rfl, rfl⟩
  have h₁ := h.leaves (hsame.moves h.sound)
  cases hconnection : (w.tick env.elapsed).connections.lookup peerId with
  | none => exact h₁
  | some connection =>
    refine (alone (within_perform rfl)).bind ?_
    intro allowed w₂ hsame₂
    have h₂ := h₁.leaves (hsame₂.moves h₁.sound)
    have hlookup : w₂.connections.lookup peerId = some connection :=
      hsame₂.connections ▸ hconnection
    have hindex : w₂.roomState.directory = w.roomState.directory := hsame₂.directory
    have hout : w₂.JoinedOrOut peerId := by
      intro connection' hlookup' hsession
      rw [hlookup, Option.some.injEq] at hlookup'
      subst hlookup'
      change w₂.roomState.directory.index peerId = none
      rw [hindex]
      exact hattached connection hconnection hsession
    cases allowed with
    | false => exact closeConnection_placed h₂ hout
    | true =>
      rw [if_pos rfl]
      split
      · exact h₂.neutral (sendError_passive _ _).neutral
      rename_i hvalid
      refine (dispatchMessage_placed config h₂ hlookup hout
        (hattached connection hconnection) hvalid ?_).bind ?_
      · rintro hfull payload rfl htype
        exact (hsame.trans hsame₂).fitsP2p ((hregular hfull).2 htype)
      · rintro outcome w₃ ⟨hplaced, hbreak⟩
        cases outcome with
        | «continue» => exact hplaced
        | «break» => exact closeConnection_placed hplaced (hbreak rfl)

theorem alone_findUserInVoice (userId : Uuid) :
    (findUserInVoice channelId userId).Alone ok
      (fun found w' => w.SameStart w' ∧ ∀ place, found = some place →
      w.activeRoomMap.lookup channelId = some place.1
        ∧ ∃ members, w.roomState.find place.1 = some members
          ∧ members.info.findUser userId = some place.2) w := by
  intro env active w₁ _ hexec
  have hstart : w.SameStart w₁ := Op.sameStart_of_quiet rfl hexec
  have hactive := Op.exec_readActiveRoom hexec
  cases active with
  | none => exact ⟨hstart, nofun⟩
  | some roomId =>
    refine (alone_getRoomInfo roomId).bind ?_
    rintro info w₂ ⟨clock, rfl, rfl⟩
    refine ⟨hstart.trans ⟨rfl, rfl, rfl⟩, fun place hplace => ?_⟩
    obtain ⟨peerId, hpeer, rfl⟩ := Option.map_eq_some_iff.mp hplace
    obtain ⟨info, hinfo, huser⟩ := Option.bind_eq_some_iff.mp hpeer
    obtain ⟨members, hfind, rfl⟩ := Option.map_eq_some_iff.mp hinfo
    exact ⟨hactive.symm, members, hstart.roomState ▸ hfind, huser⟩

theorem releaseVoiceRoom_moves {w₀ : World} (hmoves : w₀.Moves full none w) (channelId : Uuid) :
    (releaseVoiceRoom roomId channelId).Alone ok (fun _ w' => w₀.Moves full none w') w := by
  refine hmoves.neutral_bind (within_getRoomInfo rfl) fun info w₁ hmoves => ?_
  split
  · refine hmoves.neutral_bind (within_perform rfl) fun _ w₂ hmoves => ?_
    exact rollbackRoom_moves hmoves channelId
  · exact rollbackRoom_moves hmoves channelId

theorem ejectBannedUser_moves (hsound : w.roomState.directory.Sound full) (hsfu : w.IsSfu roomId)
    (channelId : Uuid) :
    (ejectBannedUser roomId peerId channelId).Alone ok (fun _ w' => w.Moves full none w') w := by
  refine (handleKick_moves hsound hsfu .host).bind ?_
  intro kicked w₁ hmoves
  cases kicked with
  | error e => exact hmoves
  | ok signals =>
    refine hmoves.neutral_bind (within_peerCount rfl) fun remaining w₂ hmoves => ?_
    split
    · exact (releaseVoiceRoom_moves hmoves channelId).bind fun _ _ hdone => hdone
    · exact hmoves

theorem banMemberRoute_placed (h : w.Placed full first)
    (channelId requesterUserId targetUserId : Uuid) :
    (banMemberRoute channelId requesterUserId targetUserId).Alone ok
      (fun _ w' => w'.Placed full first) w := by
  refine (h.neutral (within_perform rfl)).bind ?_
  intro allowed w₁ h
  split
  · exact h
  refine (h.neutral (within_banMember rfl (fun _ => rfl) rfl fun _ => rfl)).bind ?_
  intro banned w₂ h
  cases banned with
  | error e => exact h
  | ok _ =>
    refine (alone_findUserInVoice channelId targetUserId).bind ?_
    rintro found w₃ ⟨hstart, hplace⟩
    have hsame := hstart.samePlaces
    have h₃ := h.leaves (hsame.moves h.sound)
    cases found with
    | none => exact h₃
    | some place =>
      obtain ⟨roomId, peerId⟩ := place
      obtain ⟨-, members, hfind, huser⟩ := hplace _ rfl
      have hsfu : w₃.IsSfu roomId := hsame.isSfu (hasSfuRoom_of_findUser h.sound hfind huser).isSfu
      refine (ejectBannedUser_moves h₃.sound hsfu channelId).bind ?_
      intro ejected w₄ hmoves
      have h₄ := h₃.leaves hmoves
      cases ejected with
      | error e => exact h₄
      | ok signals =>
        refine h₄.neutral ?_
        refine .bind (removeParticipantFromSubRoom_inert _ _).neutral fun _ => ?_
        refine .bind (dispatchSignals_passive _ _).neutral fun _ => ?_
        exact .bind (scheduleSubRoomExpiry_inert _ _).neutral fun _ => .pure

theorem accept_placed (h : w.Placed full first) (userId : Option Uuid) :
    (Op.perform (.accept userId)).Alone ok (fun _ w' => w'.Placed full first) w := by
  intro env _ w₁ _ hexec
  cases hexec
  refine ⟨h.sound, ?_, h.stays⟩
  intro peerId connection session hconnection hsession
  by_cases hpeer : peerId = s!"peer-{w.nextPeerId}"
  · subst hpeer
    have hnew : connection = ⟨env.text, userId, none⟩ :=
      (Option.some.inj ((AList.lookup_insert _).symm.trans hconnection)).symm
    rw [hnew] at hsession
    cases hsession
  · exact h.sessions ((AList.lookup_insert_ne hpeer).symm.trans hconnection) hsession

/-- **Every regular call keeps everybody's place.** -/
theorem call_placed (config : Config) (h : w.Placed full w.roomState.directory) (call : BackendCall)
    (hattached : w.Attached call) (hregular : full → w.Regular config call) :
    (call.body config).Alone ok (fun _ w' => w'.Placed full w.roomState.directory) w := by
  cases call with
  | connect userId => exact accept_placed h userId
  | message peerId msg => exact handleFrame_placed config h msg hattached hregular
  | disconnect peerId => exact closeConnection_placed h hattached
  | banMember channelId requesterUserId targetUserId =>
    exact banMemberRoute_placed h channelId requesterUserId targetUserId
  | refreshTokens =>
    exact h.neutral (within_refreshTick (fun _ => Op.neutral_of_quiet) rfl
      (fun _ _ _ _ _ => rfl) fun _ _ => rfl)
  | expireSubRoom roomId expiry =>
    exact h.neutral (within_runSubRoomExpiry (fun _ => Op.neutral_of_quiet) fun _ => rfl)

end

def BackendPool.OneAtATime (pool : BackendPool) : BackendAct → Prop
  | .start call => pool.Usage (.start call) ∧ pool.Quiescent
  | .step _ _ => True

def BackendPool.Regular (config : Config) (pool : BackendPool) : BackendAct → Prop
  | .start call => pool.shared.Regular config call
  | .step _ _ => True

theorem World.placed_initial (full : Prop) (config : Config) (db : ChannelDb) :
    (World.initial config db).Placed full (World.initial config db).roomState.directory := by
  refine ⟨fun roomId roster hroom => ?_, fun hconnection => ?_, .inl⟩
  · cases hroom
  · cases hconnection

/-- **Participant lists are peer lists**, in runs of regular calls, one after the other. -/
theorem participants_eq_peers (config : Config) (db : ChannelDb) {pool : BackendPool}
    (hreach : (backend config).Reach
      (fun pool act => BackendPool.OneAtATime pool act ∧ BackendPool.Regular config pool act)
      (BackendPool.initial config db) pool)
    (hdone : pool.Quiescent) {roomId : RoomId} {members : RoomMembers}
    (hfind : pool.shared.roomState.find roomId = some members)
    (hsfu : members.info.roomType = .sfu) :
    (members.info.participants.map (·.participantId)).Nodup
      ∧ ∀ peerId, peerId ∈ members.info.participants.map (·.participantId)
        ↔ peerId ∈ members.peers := by
  have hcall : ∀ (pool : BackendPool) (call : BackendCall),
      BackendPool.OneAtATime pool (.start call) ∧ BackendPool.Regular config pool (.start call) →
      pool.shared.Placed True pool.shared.roomState.directory →
      (call.body config).Ensures Op.exec (fun _ _ => True)
        (fun _ w => w.Placed True w.roomState.directory) pool.shared :=
    fun _ call hallowed hplaced =>
      (call_placed config hplaced call hallowed.2.attached fun _ => hallowed.2).mono
        fun _ _ hplaced => hplaced.restart
  have hplaced : pool.shared.Placed True pool.shared.roomState.directory :=
    System.Reach.sequential (I := fun w => w.Placed True w.roomState.directory) rfl
      (World.placed_initial True config db)
      (fun _ _ hallowed => hallowed.1.2) (fun _ _ _ _ _ => trivial) hcall hreach hdone
  have hroom := room_of_find hfind
  have hmatched : members.roster.Matched True :=
    (hplaced.sound _ _ hroom).matched (by simp [RoomMembers.roster, RoomInfo.roster, hsfu])
  have hids : members.roster.ids = members.info.participants.map (·.participantId) := by
    simp [Roster.ids, RoomMembers.roster, RoomInfo.roster, ParticipantInfo.listing,
      Function.comp_def]
  rw [← hids]
  exact ⟨hmatched.nodup, fun peerId => ⟨hmatched.mem_peers, hmatched.mem_ids trivial⟩⟩

instance (w : World) (peerId : PeerId) : Decidable (w.JoinedOrOut peerId) :=
  decidable_of_iff
    ((w.connections.lookup peerId).all (fun connection => connection.session.isSome
      || (w.roomState.peerToRoom.lookup peerId).isNone) = true) (by
    unfold World.JoinedOrOut
    cases w.connections.lookup peerId with
    | none => simp
    | some connection => cases hsession : connection.session <;> simp [hsession])

instance (w : World) (roomId : RoomId) : Decidable (w.FitsP2p roomId) :=
  decidable_of_iff
    ((w.roomState.find roomId).all (fun members => members.info.roomType != .sfu
      || decide (members.info.maxParticipants ≤ members.peers.length)) = true) (by
    unfold World.FitsP2p
    cases w.roomState.find roomId with
    | none => simp
    | some members => cases htype : members.info.roomType <;> simp [htype])

instance World.decidableRegular (config : Config) (w : World) (call : BackendCall) :
    Decidable (w.Regular config call) := by
  unfold World.Regular
  split <;> infer_instance

instance BackendPool.decidableOneAtATime (pool : BackendPool) (act : BackendAct) :
    Decidable (pool.OneAtATime act) := by
  refine act.casesOn ?_ ?_ <;> intros <;> dsimp only [BackendPool.OneAtATime] <;> infer_instance

instance BackendPool.decidableRegular (config : Config) (pool : BackendPool) (act : BackendAct) :
    Decidable (pool.Regular config act) := by
  refine act.casesOn ?_ ?_ <;> intros <;> dsimp only [BackendPool.Regular] <;> infer_instance

def joinSfu (roomId : RoomId) : SignalingMessage :=
  .join { roomId, roomType := some "sfu", inviteCode := none, displayName := none,
          profileColor := none }

/-- The first peer joins an SFU room; the second one then asks for the same room. -/
def secondJoin (msg : SignalingMessage) (steps : Nat) : List BackendAct :=
  opens 0 none ++ opens 1 none
    ++ .start (.message "peer-1" (joinSfu "room")) :: List.replicate 25 (.step 2 {})
    ++ .start (.message "peer-2" msg) :: List.replicate steps (.step 3 {})

/-- Two peers join an SFU room one after the other. -/
theorem participants_eq_peers_two_joins :
    ∃ (pool : BackendPool) (members : RoomMembers),
      pool.shared.roomState.find "room" = some members
        ∧ members.peers = ["peer-1", "peer-2"]
        ∧ (members.info.participants.map (·.participantId)).Nodup
        ∧ ∀ peerId, peerId ∈ members.info.participants.map (·.participantId)
          ↔ peerId ∈ members.peers := by
  obtain ⟨pool, hreach, hdone, members, hfind, hpeers, hsfu⟩ :=
    System.exists_reach_of_replay (backend openServer)
    (fun pool act => BackendPool.OneAtATime pool act ∧ BackendPool.Regular openServer pool act)
    (BackendPool.initial openServer .empty) (secondJoin (joinSfu "room") 25)
    (fun pool => pool.Quiescent ∧ ∃ members ∈ pool.shared.roomState.find "room",
      members.peers = ["peer-1", "peer-2"] ∧ members.info.roomType = .sfu) (by decide)
  exact ⟨pool, members, hfind, hpeers,
    participants_eq_peers openServer .empty hreach hdone hfind hsfu⟩

/-- The second peer joins the SFU room with a hint for P2P, and is not shown. -/
theorem not_participants_eq_peers :
    ¬ ∀ (config : Config) (db : ChannelDb) (pool : BackendPool),
      (backend config).Reach BackendPool.OneAtATime (BackendPool.initial config db) pool →
      pool.Quiescent → ∀ roomId members, pool.shared.roomState.find roomId = some members →
        members.info.roomType = .sfu →
        (members.info.participants.map (·.participantId)).Nodup
          ∧ ∀ peerId, peerId ∈ members.info.participants.map (·.participantId)
            ↔ peerId ∈ members.peers := by
  intro h
  obtain ⟨pool, hreach, hdone, members, hfind, hsfu, hpeer, hunlisted⟩ :=
    System.exists_reach_of_replay (backend openServer)
    BackendPool.OneAtATime (BackendPool.initial openServer .empty)
    (secondJoin (joinP2p "room") 12)
    (fun pool => pool.Quiescent ∧ ∃ members ∈ pool.shared.roomState.find "room",
      members.info.roomType = .sfu ∧ "peer-2" ∈ members.peers
        ∧ "peer-2" ∉ members.info.participants.map (·.participantId)) (by decide)
  obtain ⟨-, hsame⟩ := h openServer .empty pool hreach hdone "room" members hfind hsfu
  exact hunlisted ((hsame "peer-2").mpr hpeer)

end Wavis
