import Wavis.Proof.ParticipantLists
import Wavis.Proof.Traces

namespace Wavis

variable {scope : Scope} {peerId : PeerId} {edit : InfoEdit} {members : RoomMembers} {now : Instant}
  {info : RoomInfo} {o : Op} (config : Config) (channelId : Uuid) {roomId : RoomId}

open Concurrency Prog InMemoryRoomState RoomMembers

/-- Who may leave, who may leave which traces, and whether mutes and sub-rooms may change. -/
structure Scope where
  leaves : PeerId → Prop
  adds : Trace → PeerId → Prop
  unmutes : Prop
  reseats : Prop

namespace RoomInfo

def Wanes (scope : Scope) (info info' : RoomInfo) : Prop :=
  ∀ {trace participantId}, ¬ scope.adds trace participantId →
    info'.Bears trace participantId → info.Bears trace participantId

end RoomInfo

def RoomMembers.ids (members : RoomMembers) : List PeerId :=
  members.info.participants.map (·.participantId)

structure RoomMembers.ChangesIn (scope : Scope) (members members' : RoomMembers) : Prop where
  peers : ∀ {peerId}, ¬ scope.leaves peerId → peerId ∈ members.peers → peerId ∈ members'.peers
  ids : ∀ {peerId}, ¬ scope.leaves peerId → peerId ∈ members.ids → peerId ∈ members'.ids
  wanes : members.info.Wanes scope members'.info
  tokens : ∀ {peerId}, members.info.Bears .token peerId → members'.info.Bears .token peerId
  tidy : members'.info.Tidy
  roomType : members'.info.roomType = members.info.roomType

/-- The edit of a voice join, which may seat its participant, is left to the voice join. -/
def InfoEdit.In (scope : Scope) : InfoEdit → Prop
  | dropParticipant participantId => scope.leaves participantId
  | kick participantId => scope.leaves participantId
  | startShare senderId _ _ => scope.adds .share senderId
  | recordViewerIdentity peerId _ => scope.adds .window peerId
  | joinSubRoom _ participantId => scope.adds .seat participantId
  | createSubRoom => scope.reseats
  | leaveSubRoom _ => scope.reseats
  | expireSubRoom _ _ => scope.reseats
  | syncSubRooms _ _ => False
  | recordTokenIssued peerId => scope.adds .token peerId
  | addParticipant participant => participant.isHostMuted = false
  | join participant =>
    scope.adds .token participant.participantId ∧ participant.isHostMuted = false
  | unmute _ => scope.unmutes
  | _ => True

theorem InfoEdit.In.adds (h : edit.In scope) {trace : Trace} (hadds : edit.Adds trace peerId) :
    scope.adds trace peerId := by
  cases trace <;> cases edit <;> cases hadds <;> first | exact h | exact h.1 | exact h.elim

theorem mem_ids_roster : peerId ∈ members.roster.ids ↔ peerId ∈ members.ids := by
  simp [Roster.ids, ids, roster, RoomInfo.roster, ParticipantInfo.listing]

theorem RoomMembers.mem_ids_edit (hne : edit.drops ≠ some peerId) (h : peerId ∈ members.ids) :
    peerId ∈ (members.edit edit now).ids := by
  rw [← mem_ids_roster] at h ⊢
  rw [roster_edit]
  have hunlist : ∀ {participantId : PeerId}, peerId ≠ participantId →
      peerId ∈ (members.roster.unlist participantId).ids := by
    intro participantId hpeer
    rw [Roster.ids_unlist]
    exact List.mem_filter.mpr ⟨h, by simpa using hpeer⟩
  cases edit with
  | addParticipant participant =>
    exact (Roster.ids_list _).symm ▸ List.mem_append_left _ h
  | join participant => exact (Roster.ids_list _).symm ▸ List.mem_append_left _ h
  | dropParticipant participantId | kick participantId =>
    exact hunlist fun heq => hne (by rw [heq]; rfl)
  | _ => exact h

namespace RoomMembers

section

variable (h : members.info.Tidy)
include h

theorem ChangesIn.refl : members.ChangesIn scope members :=
  ⟨fun _ => id, fun _ => id, fun _ => id, id, h, rfl⟩

theorem changesIn_push (peerId : PeerId) : members.ChangesIn scope (members.push peerId) := by
  have hinfo := members.push_info peerId
  refine ⟨fun {peerId'} _ hmem => ?_, fun {peerId'} _ hmem => ?_, fun {trace participantId} _ => ?_,
    by rw [hinfo]; exact id, ?_, by rw [hinfo]⟩
  · unfold push
    split_ifs
    · exact hmem
    · exact List.mem_append_left _ hmem
  · unfold ids
    rw [hinfo]
    exact hmem
  · rw [hinfo]
    exact id
  · rw [hinfo]
    exact h

theorem changesIn_retain (hleaves : scope.leaves peerId) :
    members.ChangesIn scope (members.retain peerId) := by
  refine ⟨fun {peerId'} hkept hmem => ?_, fun _ => id, fun _ => id, id, h, rfl⟩
  refine List.mem_filter.mpr ⟨hmem, ?_⟩
  have hne : peerId' ≠ peerId := by
    rintro rfl
    exact hkept hleaves
  simpa using hne

theorem changesIn_edit
    (hsync : ∀ participantId supportsSubRooms, edit = .syncSubRooms participantId supportsSubRooms →
      ¬ members.info.InSubRoom participantId)
    (hdrops : ∀ {peerId}, edit.drops = some peerId → scope.leaves peerId)
    (hadds : ∀ {trace peerId}, edit.Adds trace peerId → scope.adds trace peerId) :
    members.ChangesIn scope (members.edit edit now) where
  peers _ := id
  ids hkept := mem_ids_edit fun hdrop => hkept (hdrops hdrop)
  wanes hkept := InfoEdit.bears_of_apply h hsync fun hadd => hkept (hadds hadd)
  tokens h := InfoEdit.token_apply_iff.mpr (.inr h)
  tidy := InfoEdit.tidy_apply h hsync
  roomType := InfoEdit.apply_roomType _ _ _ _

theorem changesIn_edit_of_in (hin : edit.In scope) :
    members.ChangesIn scope (members.edit edit now) := by
  refine changesIn_edit h ?_ ?_ hin.adds
  · rintro participantId supportsSubRooms rfl
    exact hin.elim
  · intro peerId hdrop
    cases edit <;> cases hdrop <;> exact hin

end

end RoomMembers

namespace InMemoryRoomState

def Tidy (state : InMemoryRoomState) : Prop := ∀ arc, (state.heap arc).info.Tidy

/-- What a program does to the room state. -/
structure ChangesIn (scope : Scope) (state state' : InMemoryRoomState) : Prop where
  nextArc : state.nextArc ≤ state'.nextArc
  lookup : ∀ {roomId arc}, arc < state.nextArc → state'.rooms.lookup roomId = some arc →
    state.rooms.lookup roomId = some arc
  heap : ∀ {arc}, arc < state.nextArc → (state.heap arc).ChangesIn scope (state'.heap arc)
  fresh : ∀ {arc}, state.nextArc ≤ arc → arc < state'.nextArc →
    ∀ {trace peerId}, (state'.heap arc).info.Bears trace peerId → scope.adds trace peerId
  tidy : state'.Tidy

variable {state state' state'' : InMemoryRoomState}

theorem ChangesIn.refl (h : state.Tidy) : state.ChangesIn scope state where
  nextArc := le_rfl
  lookup _ := id
  heap _ := .refl (h _)
  fresh hle hlt := absurd hlt (not_lt.mpr hle)
  tidy := h

theorem ChangesIn.trans (h : state.ChangesIn scope state') (h' : state'.ChangesIn scope state'') :
    state.ChangesIn scope state'' where
  nextArc := h.nextArc.trans h'.nextArc
  lookup hlt hroom := h.lookup hlt (h'.lookup (hlt.trans_le h.nextArc) hroom)
  heap {arc} hlt := by
    have hfirst := h.heap hlt
    have hsecond := h'.heap (hlt.trans_le h.nextArc)
    exact ⟨fun hkept hmem => hsecond.peers hkept (hfirst.peers hkept hmem),
      fun hkept hmem => hsecond.ids hkept (hfirst.ids hkept hmem),
      fun hkept hbears => hfirst.wanes hkept (hsecond.wanes hkept hbears),
      fun hbears => hsecond.tokens (hfirst.tokens hbears), hsecond.tidy,
      hsecond.roomType.trans hfirst.roomType⟩
  fresh {arc} hle hlt trace peerId hbears := by
    by_contra hkept
    by_cases hmiddle : arc < state'.nextArc
    · exact hkept (h.fresh hle hmiddle ((h'.heap hmiddle).wanes hkept hbears))
    · exact hkept (h'.fresh (not_lt.mp hmiddle) hlt hbears)
  tidy := h'.tidy

theorem changesIn_setMembers (h : state.Tidy) {arc : ArcId}
    (hmembers : (state.heap arc).ChangesIn scope members) :
    state.ChangesIn scope (state.setMembers arc members) where
  nextArc := le_rfl
  lookup _ := id
  heap {arc'} _ := by
    by_cases harc : arc' = arc
    · subst harc
      simpa [setMembers] using hmembers
    · simpa [setMembers, harc] using RoomMembers.ChangesIn.refl (h arc')
  fresh hle hlt := absurd hlt (not_lt.mpr hle)
  tidy arc' := by
    by_cases harc : arc' = arc
    · subst harc
      simpa [setMembers] using hmembers.tidy
    · simpa [setMembers, harc] using h arc'

theorem changesIn_insertRoom (h : state.Tidy) (roomId : RoomId) (hblank : info.Blank) :
    state.ChangesIn scope (state.insertRoom roomId info) where
  nextArc := Nat.le_succ _
  lookup {roomId' arc} hlt hroom := by
    by_cases hid : roomId' = roomId
    · subst hid
      have harc : state.nextArc = arc := by simpa [insertRoom] using hroom
      exact absurd hlt (by simp [harc])
    · simpa [insertRoom, AList.lookup_insert_ne hid] using hroom
  heap {arc} hlt := by
    simpa [insertRoom, Nat.ne_of_lt hlt] using RoomMembers.ChangesIn.refl (h arc)
  fresh {arc} hle hlt trace peerId hbears := by
    have harc : arc = state.nextArc := le_antisymm (Nat.lt_succ_iff.mp hlt) hle
    subst harc
    exact absurd (by simpa [insertRoom] using hbears) (hblank.bears trace peerId)
  tidy arc := by
    by_cases harc : arc = state.nextArc
    · subst harc
      simpa [insertRoom] using hblank.tidy
    · simpa [insertRoom, harc] using h arc

theorem changesIn_eraseRoom (h : state.Tidy) (roomId : RoomId) :
    state.ChangesIn scope (state.eraseRoom roomId) where
  nextArc := le_rfl
  lookup {roomId' arc} _ hroom := by
    by_cases hid : roomId' = roomId
    · subst hid
      simp [eraseRoom] at hroom
    · simpa [eraseRoom, AList.lookup_erase_ne hid] using hroom
  heap _ := .refl (h _)
  fresh hle hlt := absurd hlt (not_lt.mpr hle)
  tidy := h

end InMemoryRoomState

def RoomOp.In {F : Type} (scope : Scope) : RoomOp F → Prop
  | createRoom _ info => info.Blank
  | retainPeers _ peerId => scope.leaves peerId
  | updateInfo _ edit => edit.In scope
  | updateObject _ edit => edit.In scope
  | _ => True

def Op.In (scope : Scope) : Op → Prop
  | room o => o.In scope
  | _ => True

theorem RoomOp.changes {F κ : Type} {run : F → κ → Except JoinRejectionReason Unit × κ}
    {o : RoomOp F} (hin : o.In scope) {state : InMemoryRoomState} (h : state.Tidy) (k : κ) :
    state.ChangesIn scope (o.exec run now (state, k)).2.1 := by
  cases o with
  | createRoom roomId info =>
    simp only [RoomOp.exec]
    split
    · exact .refl h
    · exact changesIn_insertRoom h roomId hin
  | ensureRoom roomId =>
    simp only [RoomOp.exec]
    split
    · exact .refl h
    · exact changesIn_insertRoom h roomId RoomInfo.blank_newP2p
  | removeRoom roomId => exact changesIn_eraseRoom h roomId
  | tryPush arc peerId f =>
    simp only [RoomOp.exec]
    split_ifs
    · exact .refl h
    · exact .refl h
    · split
      · exact .refl h
      · exact changesIn_setMembers h (changesIn_push (h arc) peerId)
  | pushUnlessMoving arc peerId roomId =>
    simp only [RoomOp.exec]
    split
    · split_ifs
      · exact .refl h
      · exact changesIn_setMembers h (changesIn_push (h arc) peerId)
    · exact changesIn_setMembers h (changesIn_push (h arc) peerId)
  | push arc peerId => exact changesIn_setMembers h (changesIn_push (h arc) peerId)
  | retainPeers arc peerId => exact changesIn_setMembers h (changesIn_retain (h arc) hin)
  | updateInfo roomId edit =>
    simp only [RoomOp.exec]
    split
    · exact .refl h
    · exact changesIn_setMembers h (changesIn_edit_of_in (h _) hin)
  | updateObject arc edit =>
    exact changesIn_setMembers h (changesIn_edit_of_in (h arc) hin)
  | _ => exact ⟨le_rfl, fun _ => id, fun _ => .refl (h _),
      fun hle hlt => absurd hlt (not_lt.mpr hle), h⟩

theorem Op.changes {env : Env} {w w' : World} {answer : o.Resp} (hin : o.In scope)
    (h : w.roomState.Tidy) (hexec : o.exec env w = some (answer, w')) :
    w.roomState.ChangesIn scope w'.roomState := by
  rcases Op.exec_roomState hexec with hsame | ⟨ro, rfl, hroom⟩
  · rw [hsame]
    exact .refl h
  · rw [hroom]
    exact RoomOp.changes hin h _

abbrev BackendProg.Affects {α : Type} (program : BackendProg α) (scope : Scope) : Prop :=
  program.Within fun o => o.In scope

section

variable {α β : Type} {ok : Op → Env → Prop} {w₀ w : World} {post : β → World → Prop}
  {program : BackendProg α}

theorem BackendProg.Affects.alone (h : program.Affects scope)
    (hchanges : w₀.roomState.ChangesIn scope w.roomState) :
    program.Alone ok (fun _ w' => w₀.roomState.ChangesIn scope w'.roomState) w :=
  h.ensures hchanges fun hin hchanges hexec =>
    hchanges.trans (Op.changes hin hchanges.tidy hexec)

theorem Op.in_of_keepsRooms (h : o.keepsRooms = true) : o.In scope := by
  cases o with
  | room o => cases o <;> trivial
  | _ => trivial

theorem BackendProg.KeepsRooms.affects (h : program.KeepsRooms) : program.Affects scope :=
  h.mono fun _ => Op.in_of_keepsRooms

theorem Op.in_of_quiet (h : o.quiet = true) : o.In scope :=
  Op.in_of_keepsRooms (Op.keepsRooms_of_quiet h)

theorem BackendProg.Quiet.affects (h : program.Quiet) : program.Affects scope :=
  h.mono fun _ => Op.in_of_quiet

end

namespace Scope

def idle : Scope := ⟨fun _ => False, fun _ _ => False, False, True⟩

def departure (peerId : PeerId) : Scope :=
  ⟨fun peerId' => peerId' = peerId, fun _ _ => False, False, True⟩

def arrival (peerId : PeerId) : Scope :=
  ⟨fun peerId' => peerId' = peerId, fun trace peerId' => trace = .token ∧ peerId' = peerId, False,
    False⟩

theorem arrival_adds (peerId : PeerId) : (arrival peerId).adds .token peerId := ⟨rfl, rfl⟩

def action (peerId : PeerId) : Scope :=
  ⟨fun _ => False, fun _ peerId' => peerId' = peerId, True, True⟩

def renewal : Scope := ⟨fun _ => False, fun trace _ => trace = .token, False, False⟩

end Scope

theorem updateRoomInfo_affects (h : edit.In scope) :
    (roomState (updateRoomInfo roomId edit)).Affects scope :=
  within_updateRoomInfo h

theorem removePeerInternal_affects (h : scope.leaves peerId) (removeEmptyRoom : Bool) :
    (roomState (removePeerInternal peerId removeEmptyRoom)).Affects scope :=
  within_removePeerInternal trivial (fun _ => trivial) (fun _ => h) fun _ => trivial

theorem createRoom_affects (h : info.Blank) : (roomState (createRoom roomId info)).Affects scope :=
  within_roomState (within_roomPerform h)

theorem tryAddPeerWith_affects (check : JoinCheck) :
    (roomState (tryAddPeerWith peerId roomId check)).Affects scope := by
  apply within_roomState
  refine .bind (within_roomPerform trivial) fun arc => ?_
  cases arc with
  | none => exact .pure
  | some arc =>
    refine .bind (within_roomPerform trivial) fun answer => ?_
    cases answer with
    | error reason => exact .pure
    | ok count => exact .map (within_roomPerform trivial)

theorem addPeer_affects (h : scope.leaves peerId) :
    (roomState (addPeer peerId roomId)).Affects scope :=
  within_roomState (RoomProg.within_addPeer (fun _ => trivial) (fun _ => h) (fun _ => trivial)
    trivial (fun _ => trivial) (fun _ => trivial) trivial)

theorem isParticipantRevoked_affects (ttlWindow : Duration) :
    (roomState (isParticipantRevoked roomId peerId ttlWindow)).Affects scope :=
  within_isParticipantRevoked trivial fun _ => trivial

theorem cleanupShareOnDisconnect_affects :
    (cleanupShareOnDisconnect roomId peerId).Affects scope := by
  refine .bind (within_withRoomWrite trivial fun _ => trivial) fun before => ?_
  cases before <;> exact .pure

theorem takeViewerIdentities_affects : (takeViewerIdentities roomId peerId).Affects scope :=
  .map (within_updateRoomInfo trivial)

section

variable (session : SignalingSession)

theorem revokeOnDisconnect_affects : (revokeOnDisconnect session).Affects scope := by
  refine .bind (updateRoomInfo_affects trivial) fun _ => ?_
  refine .bind cleanupShareOnDisconnect_affects fun signals => ?_
  exact (dispatchSignals_quiet _ _).affects

theorem forgetConnection_affects (h : scope.leaves peerId) (session : SignalingSession) :
    (forgetConnection session peerId).Affects scope := by
  refine .bind (within_perform trivial) fun _ => ?_
  refine .bind (removePeerInternal_affects h true) fun _ => ?_
  exact within_cleanupRoomArtifacts trivial trivial fun _ => trivial

theorem cleanupUnjoinedConnection_affects (h : scope.leaves peerId) :
    (cleanupUnjoinedConnection peerId).Affects scope :=
  .bind (within_perform trivial) fun _ => removePeerInternal_affects h true

theorem kickParticipant_affects (h : scope.leaves peerId) :
    (kickParticipant roomId peerId).Affects scope := by
  refine .bind (within_getRoomInfo trivial) fun info => ?_
  refine .bind (sfuRemoveAll_quiet _ _).affects fun _ => ?_
  refine .bind takeViewerIdentities_affects fun viewerIds => ?_
  refine .bind (sfuRemoveAll_quiet _ _).affects fun _ => ?_
  refine .bind (removePeerInternal_affects h true) fun _ => ?_
  refine .bind (updateRoomInfo_affects h) fun _ => ?_
  exact .map (within_perform trivial)

theorem rollbackRoom_affects : (rollbackRoom roomId channelId).Affects scope :=
  within_rollbackRoom trivial trivial trivial

end

section

variable (passthroughEnabled : Bool)

theorem handleP2pJoin_affects (inviteCode : Option String) :
    (handleP2pJoin roomId peerId inviteCode).Affects scope := by
  refine .bind (within_getPeersInRoom trivial) fun peers => ?_
  refine Within.bind (createRoom_affects RoomInfo.blank_newP2p) fun _ => ?_
  refine .bind (tryAddPeerWith_affects _) fun answer => ?_
  rcases answer with reason | count
  · cases reason <;> exact .pure
  · exact .pure

theorem getOrCreateSfuRoom_affects : (getOrCreateSfuRoom config roomId).Affects scope := by
  refine .bind (within_getRoomInfo trivial) fun info => ?_
  split
  · exact .pure
  · refine .bind (within_perform trivial) fun created => ?_
    cases created with
    | error e => exact .pure
    | ok handle =>
      exact Within.map (createRoom_affects (RoomInfo.blank_newSfu _ _))

theorem completeSfuJoin_affects {participant : ParticipantInfo}
    (h : (InfoEdit.join participant).In scope) (inviteCode : Option String) (token : SignedToken) :
    (completeSfuJoin config roomId participant inviteCode token).Affects scope := by
  refine .bind (within_getRoomInfo trivial) fun before => ?_
  refine .bind (tryAddPeerWith_affects _) fun answer => ?_
  rcases answer with reason | count
  · cases reason <;> exact .pure
  · refine .bind (updateRoomInfo_affects h) fun _ => ?_
    refine .bind (within_peerCount trivial) fun _ => ?_
    refine .bind (within_getRoomInfo trivial) fun _ => ?_
    exact .bind (shareStateSnapshot_quiet _ _).affects fun _ => .pure

theorem handleSfuJoin_affects (h : scope.adds .token peerId) (displayName : String)
    (profileColor inviteCode : Option String) :
    (handleSfuJoin config roomId peerId displayName profileColor inviteCode).Affects scope := by
  refine .bind (getOrCreateSfuRoom_affects config) fun created => ?_
  cases created with
  | error e => exact .pure
  | ok handle =>
    refine .bind (within_perform trivial) fun added => ?_
    cases added with
    | error e => exact .pure
    | ok _ =>
      refine .bind (isParticipantRevoked_affects _) fun revoked => ?_
      split_ifs
      · exact .pure
      · refine .bind (within_perform trivial) fun signed => ?_
        cases signed with
        | error e => exact .pure
        | ok token => exact completeSfuJoin_affects config ⟨h, rfl⟩ inviteCode token

theorem createAndEnter_affects (h : scope.leaves peerId) (roomType : RoomType)
    (sfuAvailable : Bool) :
    (createAndEnter config roomId peerId roomType sfuAvailable).Affects scope := by
  cases roomType with
  | p2p =>
    refine Within.bind (createRoom_affects RoomInfo.blank_newP2p) fun _ => ?_
    exact .map (addPeer_affects h)
  | sfu =>
    unfold createAndEnter
    dsimp only
    split
    · exact .pure
    · refine .bind (within_perform trivial) fun created => ?_
      cases created with
      | error e => exact .pure
      | ok handle =>
        refine Within.bind (createRoom_affects (RoomInfo.blank_newSfu _ _)) fun _ => ?_
        refine .bind (addPeer_affects h) fun added => ?_
        cases added with
        | none => exact .pure
        | some _ =>
          refine .bind (within_perform trivial) fun registered => ?_
          cases registered with
          | error e =>
            exact .map (removePeerInternal_affects h true)
          | ok _ => exact .pure

theorem issueCreatorToken_affects (h : scope.adds .token peerId) (displayName : String)
    (roomType : RoomType) :
    (issueCreatorToken config roomId peerId displayName roomType).Affects scope :=
  within_issueCreatorToken (fun _ _ _ _ _ => trivial) h

theorem handleCreateRoom_affects (hleaves : scope.leaves peerId)
    (hadds : scope.adds .token peerId) (displayName : String)
    (profileColor roomTypeHint : Option String) (issuerId : String) (sfuAvailable : Bool) :
    (handleCreateRoom config roomId peerId displayName profileColor roomTypeHint issuerId
      sfuAvailable).Affects scope := by
  unfold handleCreateRoom
  dsimp only
  split
  · exact .pure
  refine .bind (within_getRoomInfo trivial) fun info => ?_
  split
  · exact .pure
  refine .bind (createAndEnter_affects config hleaves _ sfuAvailable) fun entered => ?_
  rcases entered with _ | e | _
  · exact .pure
  · exact .pure
  refine .bind (within_perform trivial) fun now => ?_
  refine .bind (within_perform trivial) fun invite => ?_
  cases invite with
  | error e => exact .map (removePeerInternal_affects hleaves true)
  | ok invite =>
    refine .bind (updateRoomInfo_affects rfl) fun _ => ?_
    refine .bind (issueCreatorToken_affects config hadds displayName _) fun issued => ?_
    cases issued <;> exact .pure

theorem createActiveRoom_affects :
    (createActiveRoom config channelId passthroughEnabled).Affects scope := by
  refine .bind (within_perform trivial) fun suffix => ?_
  refine .bind (within_perform trivial) fun created => ?_
  cases created with
  | error e => exact .map (within_perform trivial)
  | ok handle =>
    refine Within.bind (createRoom_affects (RoomInfo.blank_newVoiceRoom _ _ _)) fun isNew => ?_
    split_ifs <;> exact .map (within_perform trivial)

theorem ensureActiveRoom_affects :
    (ensureActiveRoom config channelId passthroughEnabled).Affects scope := by
  refine .bind (within_perform trivial) fun active => ?_
  cases active with
  | none => exact createActiveRoom_affects config channelId passthroughEnabled
  | some roomId =>
    refine .bind (within_getRoomInfo trivial) fun info => ?_
    split_ifs
    · refine .bind (updateRoomInfo_affects trivial) fun _ => ?_
      exact .map (within_perform trivial)
    · refine .bind (within_perform trivial) fun _ => ?_
      exact createActiveRoom_affects config channelId passthroughEnabled

end

section

variable {session : SignalingSession} {msg : SignalingMessage} (connection : Connection)

theorem dispatchRequestViewerToken_affects (h : scope.adds .window session.participantId)
    (windowId : String) : (dispatchRequestViewerToken config session windowId).Affects scope :=
  within_dispatchRequestViewerToken (fun _ => Op.in_of_quiet) (fun _ _ => trivial)
    (fun _ _ => trivial) fun _ _ => h

theorem InfoEdit.in_of_action (h : msg.edit session = some edit) :
    edit.In (.action session.participantId) := by
  cases msg <;> simp only [SignalingMessage.edit, Option.some.injEq, reduceCtorEq] at h <;>
    subst h <;> trivial

theorem dispatchAction_affects (issuerId : String) (session : SignalingSession)
    (hkick : ∀ targetId, msg ≠ .kickParticipant targetId) :
    (dispatchAction config peerId issuerId session msg).Affects
      (.action session.participantId) := by
  cases hmsg : msg.kicksOrIssues with
  | false =>
    refine within_dispatchAction config peerId issuerId session hmsg
      (fun _ hquiet => Op.in_of_keepsRooms (Op.keepsRooms_of_quiet hquiet)) fun edit hedit => ?_
    have hin := InfoEdit.in_of_action hedit
    exact ⟨fun _ => hin, fun _ => hin⟩
  | true =>
    cases msg with
    | kickParticipant targetId => exact absurd rfl (hkick targetId)
    | requestViewerToken windowId => exact dispatchRequestViewerToken_affects config rfl windowId
    | _ => cases hmsg

theorem enterSession_keepsRooms (signals : List OutboundSignal) :
    (enterSession config peerId connection roomId signals).KeepsRooms := by
  refine .bind (within_perform rfl) fun now => ?_
  refine .bind (dispatchSignals_quiet _ _).keepsRooms fun _ => ?_
  exact .bind legacyRole_quiet.keepsRooms fun role => within_perform rfl

theorem finishVoiceJoin_keepsRooms (userId : Uuid) (result : VoiceJoinResult) :
    (finishVoiceJoin config peerId userId result).KeepsRooms := by
  refine .bind (within_perform rfl) fun now => ?_
  refine .bind (within_perform rfl) fun _ => ?_
  refine .bind (dispatchSignals_quiet _ _).keepsRooms fun _ => ?_
  refine .bind (scheduleSubRoomExpiry_quiet _ _).keepsRooms fun _ => ?_
  exact (displaceSession_quiet _).keepsRooms

theorem dispatchAuth_keepsRooms (accessToken : String) :
    (dispatchAuth peerId accessToken).KeepsRooms := by
  refine .bind (within_perform rfl) fun answer => ?_
  cases answer with
  | ok userId => exact .bind (within_perform rfl) fun _ => (sendTo_quiet _ _).keepsRooms
  | error e => exact (sendTo_quiet _ _).keepsRooms

theorem dispatchJoin_affects (payload : JoinPayload) :
    (dispatchJoin config peerId connection payload).Affects (.arrival peerId) := by
  unfold dispatchJoin
  dsimp only
  split
  · exact (sendError_quiet _ _).affects
  refine .bind (admitJoin_quiet config _).affects fun admitted => ?_
  cases admitted with
  | error refusal => exact (sendTo_quiet _ _).affects
  | ok inviteCode =>
    dsimp only
    split
    · refine .bind (handleP2pJoin_affects inviteCode) fun result => ?_
      cases result with
      | joined signals => exact (enterSession_keepsRooms config connection signals).affects
      | roomFull | inviteRejected reason => exact (sendTo_quiet _ _).affects
    · refine .bind isSfuAvailable_quiet.affects fun available => ?_
      split
      · exact (sendError_quiet _ _).affects
      refine Within.bind (handleSfuJoin_affects config (Scope.arrival_adds peerId) _ _ inviteCode)
        fun result => ?_
      cases result with
      | ok signals => exact (enterSession_keepsRooms config connection signals).affects
      | error e => cases e <;> exact (sendTo_quiet _ _).affects

theorem dispatchCreateRoom_affects (payload : CreateRoomPayload) :
    (dispatchCreateRoom config peerId connection payload).Affects (.arrival peerId) := by
  refine .bind isSfuAvailable_quiet.affects fun available => ?_
  refine .bind (handleCreateRoom_affects config rfl
    (Scope.arrival_adds peerId) _ _ _ _ available) fun answer => ?_
  rcases answer with _ | e | signals
  · exact .bind (within_perform trivial) fun _ => within_perform trivial
  · exact (sendError_quiet _ _).affects
  · refine .bind (within_perform trivial) fun now => ?_
    refine .bind (within_perform trivial) fun _ => ?_
    exact (dispatchSignals_quiet _ _).affects

theorem refreshTick_affects : (refreshTick config).Affects .renewal :=
  within_refreshTick (fun _ => Op.in_of_quiet) trivial (fun _ _ _ _ _ => trivial) fun _ _ => rfl

theorem runSubRoomExpiry_affects (h : scope.reseats) (expiry : PendingSubRoomExpiry) :
    (runSubRoomExpiry roomId expiry).Affects scope :=
  within_runSubRoomExpiry (fun _ => Op.in_of_quiet) fun _ => h

end

end Wavis
