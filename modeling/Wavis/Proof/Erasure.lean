import Wavis.Proof.Departures

namespace Wavis

open Concurrency Prog InMemoryRoomState World Option

namespace Scope

def eviction (gone : Option PeerId) : Scope :=
  ⟨fun peerId => gone = some peerId, fun _ _ => False, False, True⟩

def issue (peerId : PeerId) : Scope :=
  ⟨fun _ => False, fun trace peerId' => trace = .token ∧ peerId' = peerId, False, False⟩

def voiceJoin (gone : Option PeerId) (peerId : PeerId) : Scope :=
  ⟨fun peerId' => gone = some peerId', fun _ peerId' => peerId' = peerId, False, True⟩

end Scope

/-- Seats are taken by participants of the room and by those whose connection has a session. -/
def World.Seated (w : World) : Prop :=
  ∀ roomId members peerId, w.roomState.find roomId = some members →
    members.info.InSubRoom peerId → peerId ∈ members.peers ∨ w.Settled peerId

def World.Unseated (w : World) (peerId : PeerId) : Prop :=
  ∀ roomId, w.roomState.Lacks roomId .seat peerId

variable (config : Config) {ok : Op → Env → Prop} {first : Directory} {w w' : World}
  {peerId : PeerId} {roomId : RoomId}

section

variable {full : Prop} {w₀ : World} {gone : Option PeerId} {α : Type} (channelId : Uuid)
  (joiner : VoiceJoiner) (passthroughEnabled : Bool)

theorem World.Seated.unseated (h : w.Seated) (hsound : w.roomState.directory.Sound full)
    {connection : Connection} (hlookup : w.connections.lookup peerId = some connection)
    (hsession : connection.session = none) (hindex : w.roomState.directory.index peerId = none) :
    w.Unseated peerId := by
  intro roomId members hfind hseat
  rcases h roomId members peerId hfind hseat with hmem | hsettled
  · exact hsound.not_mem_peers (room_of_find hfind) (by simp [hindex]) hmem
  · have hsome := hsettled.joined connection hlookup
    rw [hsession] at hsome
    cases hsome

structure World.Evicted (w₀ w : World) (roomId : RoomId) (gone : Option PeerId) : Prop where
  changes : w₀.roomState.ChangesIn (.eviction gone) w.roomState
  clears : ∀ {peerId}, gone = some peerId →
    w₀.roomState.directory.index peerId = some roomId ∧ w₀.HasSfuRoom roomId
      ∧ ∀ trace, trace ≠ .token → w.roomState.Lacks roomId trace peerId

section

variable (h : w₀.Evicted w roomId gone)
include h

theorem World.Evicted.trans (hchanges : w.roomState.ChangesIn (.eviction gone) w'.roomState) :
    w₀.Evicted w' roomId gone where
  changes := h.changes.trans hchanges
  clears hgone := by
    obtain ⟨hindex, hsfu, hlacks⟩ := h.clears hgone
    exact ⟨hindex, hsfu, fun trace hne => hchanges.lacks id (hlacks trace hne)⟩

theorem World.Evicted.keep {program : BackendProg α} (hprogram : program.Affects (.eviction gone)) :
    program.Alone ok (fun _ w' => w₀.Evicted w' roomId gone) w :=
  (hprogram.alone (.refl h.changes.tidy)).mono fun _ _ hchanges => h.trans hchanges

theorem World.Evicted.of_rooms (hrooms : w'.roomState = w.roomState) :
    w₀.Evicted w' roomId gone := by
  refine h.trans ?_
  rw [hrooms]
  exact .refl h.changes.tidy

theorem World.Evicted.departs : w₀.Departs w := by
  refine ⟨_, h.changes, ?_, fun hadds => hadds.elim⟩
  intro peerId roomId' members hgone hindex hfind
  obtain ⟨hindex', ⟨members', hfind', hsfu⟩, hlacks⟩ := h.clears hgone
  rw [hindex', some.injEq] at hindex
  subst hindex
  rw [hfind', some.injEq] at hfind
  subst hfind
  exact ⟨fun _ => hlacks, .inl hsfu, id⟩

end

theorem evictStaleSession_evicted (hsound : w.roomState.directory.Sound full)
    (htidy : w.roomState.Tidy) (userId : Uuid) :
    (evictStaleSession roomId userId).Alone ok (fun _ w' => ∃ gone, w.Evicted w' roomId gone
      ∧ ∀ peerId, gone = some peerId → ∃ members, w.roomState.find roomId = some members
        ∧ peerId ∈ members.ids) w := by
  refine (alone_getRoomInfo roomId).bind ?_
  rintro info w₁ ⟨clock, rfl, hinfo⟩
  split
  · exact ⟨none, ⟨.refl htidy, nofun⟩, nofun⟩
  · rename_i stalePeerId hstale
    rw [hinfo] at hstale
    obtain ⟨found, hfound, huser⟩ := bind_eq_some_iff.mp hstale
    obtain ⟨members, hfind, rfl⟩ := map_eq_some_iff.mp hfound
    have hsfu := hasSfuRoom_of_findUser hsound hfind huser
    have hroom := room_of_find hfind
    have hlisted : stalePeerId ∈ members.ids := by
      obtain ⟨participant, hparticipant, rfl⟩ := map_eq_some_iff.mp huser
      exact List.mem_map_of_mem (List.mem_of_find?_eq_some hparticipant)
    have hindex : w.roomState.directory.index stalePeerId = some roomId :=
      hsound.index_of_listed hroom (hsfu.isSfu _ hroom) (mem_ids_roster.mpr hlisted)
    have hself : (Scope.departure stalePeerId).leaves stalePeerId := rfl
    have hdrop : (InfoEdit.dropParticipant stalePeerId).In (.departure stalePeerId) := rfl
    have hstart : w.roomState.ChangesIn (.departure stalePeerId) (w.later clock).roomState :=
      .refl htidy
    refine ((sheds_nil hstart roomId).keep (within_getRoomInfo trivial)).bind
      fun info w₂ h => ?_
    refine (h.keep (sfuRemoveAll_quiet _ _).affects).bind fun _ w₃ h => ?_
    refine h.takeViewerIdentities.bind fun viewerIds w₄ h => ?_
    refine (h.keep (sfuRemoveAll_quiet _ _).affects).bind fun _ w₅ h => ?_
    refine h.cleanupShare.bind fun signals w₆ h => ?_
    refine (h.keep (removePeerInternal_affects hself false)).bind fun _ w₇ h => ?_
    refine (h.keep (updateRoomInfo_affects hdrop)).bind fun _ w₈ h => ?_
    refine h.leaveSubRoom.bind fun result w₉ h => ⟨some stalePeerId, ⟨?_, ?_⟩, ?_⟩
    · refine h.changes.mono (fun hleaves => ?_) id
      exact congrArg some hleaves.symm
    · rintro _ ⟨⟩
      refine ⟨hindex, hsfu, fun trace hne => h.lacks_of_ne_token ?_ hne⟩
      intro trace hne
      cases trace <;> simp_all
    · rintro _ ⟨⟩
      exact ⟨members, hfind, hlisted⟩

/-- The room that `ensureActiveRoom` has answered: it was there before, or it is new. -/
def World.Ensured (w₀ w : World) (roomId : RoomId) : Prop :=
  (∃ enabled now, w.roomState = w₀.roomState.editRoom roomId (.activateSubRooms enabled) now)
    ∨ w₀.roomState.find roomId = none
      ∧ ∃ info, info.participants = [] ∧ w.roomState = w₀.roomState.insertRoom roomId info

theorem createActiveRoom_ensured (hrooms : w'.roomState = w.roomState) :
    (createActiveRoom config channelId passthroughEnabled).Alone ok (fun answer w'' =>
      match answer with
      | .error _ => w''.roomState = w.roomState
      | .ok (roomId, _) => w.Ensured w'' roomId) w' := by
  refine alone_bind_of_keepsRooms rfl hrooms fun suffix w₂ hrooms₂ => ?_
  refine alone_bind_of_keepsRooms rfl hrooms₂ fun created w₃ hrooms₃ => ?_
  cases created with
  | error e => exact alone_bind_of_keepsRooms rfl hrooms₃ fun _ _ => id
  | ok handle =>
    refine (alone_createRoom _ _).bind ?_
    rintro isNew w₄ ⟨clock, hnew, rfl⟩
    rw [hrooms₃] at hnew
    cases isNew with
    | true =>
      refine alone_bind_of_keepsRooms rfl rfl fun _ w₅ hrooms₅ =>
        .inr ⟨?_, newVoiceRoom config handle passthroughEnabled, rfl, ?_⟩
      · simpa using hnew.symm
      · rw [hrooms₅, ← hrooms₃]
        rfl
    | false => exact alone_bind_of_keepsRooms rfl hrooms₃ fun _ _ => id

theorem ensureActiveRoom_ensured (hrooms : w'.roomState = w.roomState) :
    (ensureActiveRoom config channelId passthroughEnabled).Alone ok (fun answer w'' =>
      match answer with
      | .error _ => w''.roomState = w.roomState
      | .ok (roomId, _) => w.Ensured w'' roomId) w' := by
  refine alone_bind_of_keepsRooms rfl hrooms fun active w₁ hrooms₁ => ?_
  cases active with
  | none => exact createActiveRoom_ensured config channelId passthroughEnabled hrooms₁
  | some roomId =>
    refine (alone_getRoomInfo roomId).bind ?_
    rintro info w₂ ⟨clock, rfl, hinfo⟩
    split
    · refine (alone_updateRoomInfo roomId _).bind ?_
      rintro _ w₃ ⟨now, -, rfl⟩
      refine alone_bind_of_keepsRooms rfl rfl fun _ w₄ hrooms₄ =>
        .inl ⟨passthroughEnabled, now, ?_⟩
      rw [hrooms₄, ← hrooms₁]
      rfl
    · refine alone_bind_of_keepsRooms rfl hrooms₁ fun _ w₃ hrooms₃ => ?_
      exact createActiveRoom_ensured config channelId passthroughEnabled hrooms₃

/-- The joiner is in the room and has no seat anywhere. -/
structure World.Entering (w : World) (roomId : RoomId) (peerId : PeerId) : Prop where
  tidy : w.roomState.Tidy
  unseated : w.Unseated peerId
  isIn : ∀ members, w.roomState.find roomId = some members → peerId ∈ members.peers

theorem World.Entering.join (h : w.Entering roomId peerId) {participant : ParticipantInfo}
    (hid : participant.participantId = peerId) (hfresh : participant.isHostMuted = false)
    (gone : Option PeerId) :
    (Wavis.roomState (updateRoomInfo roomId (.join participant))).Alone ok (fun _ w' =>
      w.roomState.ChangesIn (.voiceJoin gone peerId) w'.roomState
        ∧ w'.Entering roomId peerId) w := by
  have hedit : (InfoEdit.join participant).In (.issue peerId) := ⟨⟨rfl, hid⟩, hfresh⟩
  have hprogram : (Wavis.roomState (updateRoomInfo roomId (.join participant))).Affects
      (.issue peerId) := updateRoomInfo_affects hedit
  refine ((hprogram.alone (.refl h.tidy)).and (alone_updateRoomInfo roomId _)).mono ?_
  rintro _ w' ⟨hchanges, now, -, rfl⟩
  refine ⟨hchanges.mono False.elim fun hadds => hadds.2, hchanges.tidy, fun roomId' => ?_, ?_⟩
  · refine hchanges.lacks ?_ (h.unseated roomId')
    rintro ⟨⟨⟩, -⟩
  · intro members hfind
    change (w.roomState.editRoom roomId (.join participant) now).find roomId = some members at hfind
    rw [find_editRoom, if_pos rfl] at hfind
    obtain ⟨old, hold, rfl⟩ := map_eq_some_iff.mp hfind
    exact h.isIn old hold

theorem World.Entering.sync (h : w.Entering roomId peerId) (supportsSubRooms : Bool)
    (gone : Option PeerId) :
    (syncSubRoomStateOnVoiceJoin roomId peerId supportsSubRooms).Alone ok (fun _ w' =>
      w.roomState.ChangesIn (.voiceJoin gone peerId) w'.roomState
        ∧ ∀ roomId' members, w'.roomState.find roomId' = some members →
          members.info.InSubRoom peerId → peerId ∈ members.peers) w := by
  refine (alone_updateRoomInfo roomId _).bind ?_
  rintro before w₁ ⟨now, -, rfl⟩
  refine (subRoomStateSignals_quiet roomId).keepsRooms.alone.bind fun _ w₂ hrooms => ?_
  have hrooms' : w₂.roomState
      = w.roomState.editRoom roomId (.syncSubRooms peerId supportsSubRooms) now := hrooms
  refine ⟨?_, ?_⟩
  · rw [hrooms']
    refine changesIn_editRoom h.tidy fun members hfind => ?_
    obtain ⟨arc, -, rfl⟩ := find_eq_some.mp hfind
    refine RoomMembers.changesIn_edit (h.tidy arc) ?_ nofun ?_
    · rintro _ _ ⟨⟩
      exact h.unseated roomId _ hfind
    · intro trace peerId' hadds
      cases trace <;> cases hadds
      rfl
  · intro roomId' members hfind hseat
    rw [hrooms', find_editRoom] at hfind
    split_ifs at hfind with hroom
    · subst hroom
      obtain ⟨old, hold, rfl⟩ := map_eq_some_iff.mp hfind
      exact h.isIn old hold
    · exact absurd hseat (h.unseated roomId' members hfind)

theorem completeVoiceJoin_departs (hevicted : w₀.Evicted w roomId gone)
    (hentering : w.Entering roomId joiner.peerId)
    (hindex : w₀.roomState.directory.index joiner.peerId = none) (channelId : Uuid)
    (role : ParticipantRole) (eviction : Option Eviction) (existing : List ParticipantInfo) :
    (completeVoiceJoin config joiner channelId role roomId eviction existing).Alone ok
      (fun _ w' => w₀.Departs w') w := by
  have hid : joiner.participant.participantId = joiner.peerId := rfl
  refine (hentering.join hid rfl gone).bind ?_
  rintro _ w₁ ⟨hjoined, hentering₁⟩
  refine (hentering₁.sync joiner.supportsSubRooms gone).bind ?_
  rintro sync w₂ ⟨hsynced, hseats⟩
  have hchanges := hjoined.trans hsynced
  have hparts : w₀.Departs w₂ := by
    have hfirst : w₀.roomState.ChangesIn (.voiceJoin gone joiner.peerId) w.roomState :=
      hevicted.changes.mono id False.elim
    refine ⟨.voiceJoin gone joiner.peerId, hfirst.trans hchanges, ?_, ?_⟩
    · intro peerId roomId' members hgone hplace hfind
      have hne : peerId ≠ joiner.peerId := by
        rintro rfl
        rw [hindex] at hplace
        cases hplace
      obtain ⟨hplace', ⟨members', hfind', hsfu⟩, hlacks⟩ := hevicted.clears hgone
      rw [hplace', some.injEq] at hplace
      subst hplace
      rw [hfind', some.injEq] at hfind
      subst hfind
      exact ⟨fun _ trace htrace => hchanges.lacks hne (hlacks trace htrace), .inl hsfu, hne⟩
    · intro peerId hadds
      cases hadds
      exact .inr hseats
  have hrest : ∀ {α : Type} {program : BackendProg α}, program.KeepsRooms →
      program.Alone ok (fun _ w' => w₀.Departs w') w₂ :=
    fun hprogram => hprogram.alone.mono fun _ _ => hparts.of_rooms
  refine hrest (.bind (within_perform rfl) fun signed => ?_)
  cases signed with
  | error e => exact .pure
  | ok token =>
    refine .bind (within_peerCount rfl) fun count => ?_
    refine .bind (within_getRoomInfo rfl) fun info => ?_
    exact .bind (shareStateSnapshot_quiet _ _).keepsRooms fun _ => .pure

theorem World.Evicted.rollback (h : w₀.Evicted w roomId gone) (channelId : Uuid) (created : Bool)
    (a : α) :
    (if created = true then rollbackRoom roomId channelId >>= fun _ => pure a
      else pure a : BackendProg α).Alone ok (fun _ w' => w₀.Departs w') w := by
  split_ifs
  · exact (h.keep (rollbackRoom_affects channelId)).bind fun _ _ h => h.departs
  · exact h.departs

section

variable (hensured : w₀.Ensured w roomId) (hidle : w₀.roomState.ChangesIn .idle w.roomState)
include hensured hidle

theorem World.Evicted.of_ensured (h : w.Evicted w' roomId gone)
    (hlisted : ∀ peerId, gone = some peerId → ∃ members, w.roomState.find roomId = some members
      ∧ peerId ∈ members.ids) : w₀.Evicted w' roomId gone := by
  have hfirst : w₀.roomState.ChangesIn (.eviction gone) w.roomState :=
    hidle.mono False.elim False.elim
  refine ⟨hfirst.trans h.changes, fun {peerId} hgone => ?_⟩
  obtain ⟨hindex, ⟨members, hfind, hsfu⟩, hlacks⟩ := h.clears hgone
  rcases hensured with ⟨enabled, now, hrooms⟩ | ⟨-, info, hempty, hrooms⟩
  · refine ⟨?_, ?_, hlacks⟩
    · rw [hrooms] at hindex
      simpa [directory] using hindex
    · rw [hrooms, find_editRoom, if_pos rfl] at hfind
      obtain ⟨old, hold, rfl⟩ := map_eq_some_iff.mp hfind
      exact ⟨old, hold, hsfu⟩
  · -- A new room lists nobody.
    obtain ⟨members', hfind', hmem⟩ := hlisted peerId hgone
    rw [hrooms, find_insertRoom_eq, if_pos rfl, some.injEq] at hfind'
    subst hfind'
    simp [RoomMembers.ids, hempty] at hmem

theorem enterVoiceRoom_departs (hsound : w.roomState.directory.Sound full)
    (hindex₀ : w₀.roomState.directory.index joiner.peerId = none)
    (hindex : w.roomState.directory.index joiner.peerId = none)
    (hunseated : w.Unseated joiner.peerId) (channelId : Uuid) (role : ParticipantRole)
    (created : Bool) :
    (enterVoiceRoom config joiner channelId role roomId created).Alone ok
      (fun _ w' => w₀.Departs w') w := by
  refine ((evictStaleSession_evicted hsound hidle.tidy joiner.userId).and
    (evictStaleSession_moves hsound joiner.userId)).bind ?_
  rintro eviction w₁ ⟨⟨gone, hevicted, hlisted⟩, hmoves⟩
  have hunseated₁ : w₁.Unseated joiner.peerId :=
    fun roomId => hevicted.changes.lacks id (hunseated roomId)
  have h₁ : w₀.Evicted w₁ roomId gone := .of_ensured hensured hidle hevicted hlisted
  have hindex₁ := hmoves.index_none hindex
  refine (alone_getRoomInfo roomId).bind ?_
  rintro info w₂ ⟨clock, rfl, -⟩
  have hrefused : ∀ {w' : World} (e : VoiceJoinError), w'.roomState = w₁.roomState →
      (if created = true then rollbackRoom roomId channelId >>= fun _ => pure (.error e)
        else pure (.error e) : BackendProg (Except VoiceJoinError VoiceJoinResult)).Alone ok
        (fun _ w' => w₀.Departs w') w' :=
    fun e hrooms => (h₁.of_rooms hrooms).rollback channelId created _
  have hrooms₂ : (w₁.later clock).roomState = w₁.roomState := rfl
  split
  · exact (h₁.of_rooms hrooms₂).departs
  rename_i handle _
  refine alone_bind_of_keepsRooms rfl hrooms₂ fun added w₃ hrooms₃ => ?_
  cases added with
  | error e => exact hrefused _ hrooms₃
  | ok _ =>
    refine (alone_getRoomInfo roomId).bind ?_
    rintro before w₄ ⟨clock₄, rfl, -⟩
    have hrooms₄ : (w₃.later clock₄).roomState = w₁.roomState := hrooms₃
    have hadd : (roomState (tryAddPeerWith joiner.peerId roomId none)).Affects .idle :=
      tryAddPeerWith_affects none
    have hsound₄ : (w₃.later clock₄).roomState.directory.Sound full := hrooms₄ ▸ hmoves.sound
    refine ((alone_tryAddPeerWith_entered hsound₄ (hrooms₄ ▸ hindex₁) none).and
      (hadd.alone (.refl (hrooms₄ ▸ hevicted.changes.tidy)))).bind ?_
    rintro answer w₅ ⟨hanswer, hchanges⟩
    have hevicted₅ : w₀.Evicted w₅ roomId gone :=
      (h₁.of_rooms hrooms₄).trans (hchanges.mono False.elim False.elim)
    cases answer with
    | error reason =>
      exact hevicted₅.rollback channelId created _
    | ok count =>
      refine completeVoiceJoin_departs config joiner hevicted₅ ⟨hchanges.tidy, ?_, ?_⟩ hindex₀
        channelId role eviction _
      · intro roomId'
        refine hchanges.lacks id ?_
        rw [hrooms₄]
        exact hunseated₁ roomId'
      · intro members hfind
        have hroom := room_of_find hfind
        rw [hanswer.1.directory] at hroom
        simp only [Directory.enter, Function.update_self] at hroom
        obtain ⟨old, -, hpush⟩ := map_eq_some_iff.mp hroom
        have hmem : joiner.peerId ∈ (old.push joiner.peerId).peers :=
          Roster.mem_peers_push.mpr (.inr rfl)
        rw [hpush] at hmem
        exact hmem

end

theorem joinVoice_departs (hsound : w.roomState.directory.Sound full) (htidy : w.roomState.Tidy)
    (hindex : w.roomState.directory.index joiner.peerId = none)
    (hunseated : w.Unseated joiner.peerId) (channelId : String) :
    (joinVoice config channelId joiner).Alone ok (fun _ w' => w.Departs w') w := by
  unfold joinVoice
  split
  · exact departs_of_rooms htidy rfl
  rename_i channelId _
  refine alone_bind_of_keepsRooms rfl rfl fun membership w₁ hrooms₁ => ?_
  rcases membership with e | _ | ⟨membership, passthroughEnabled⟩
  · exact departs_of_rooms htidy hrooms₁
  · exact departs_of_rooms htidy hrooms₁
  dsimp only
  split
  · exact departs_of_rooms htidy hrooms₁
  have hactive : (ensureActiveRoom config channelId passthroughEnabled).Affects .idle :=
    ensureActiveRoom_affects config channelId passthroughEnabled
  have hstay : w₁.Moves full none w₁ := .refl (hrooms₁ ▸ hsound)
  have hstart : w.roomState.ChangesIn .idle w₁.roomState := by
    rw [hrooms₁]
    exact .refl htidy
  refine ((ensureActiveRoom_ensured config channelId passthroughEnabled hrooms₁).and
    ((hactive.alone hstart).and
      (ensureActiveRoom_moves config hstay channelId passthroughEnabled))).bind ?_
  rintro answer w₂ ⟨hensured, hchanges, hmoves⟩
  rcases answer with e | ⟨roomId, created⟩
  · exact departs_of_rooms htidy hensured
  exact enterVoiceRoom_departs config joiner hensured hchanges hmoves.sound hindex
    (hmoves.index_none (hrooms₁ ▸ hindex))
    (fun roomId => hchanges.lacks id (hunseated roomId)) channelId _ created

end

/-- Places, records, seats and ids are as every call leaves them. -/
structure World.InOrder (first : Directory) (w : World) : Prop where
  placed : w.Placed False first
  tidy : w.roomState.Tidy
  seated : w.Seated
  ids : w.IdsGivenOut

section

variable {connection : Connection} {msg : SignalingMessage}

theorem World.SameStart.inOrder (hstart : w.SameStart w') (h : w.InOrder first) :
    w'.InOrder first := by
  refine ⟨h.placed.leaves (hstart.samePlaces.moves h.placed.sound), hstart.roomState ▸ h.tidy,
    ?_, ?_⟩
  · intro roomId members peerId hfind hseat
    rw [hstart.roomState] at hfind
    exact (h.seated roomId members peerId hfind hseat).imp_right hstart.settled.mpr
  · unfold World.IdsGivenOut
    rw [hstart.connections, hstart.nextPeerId]
    exact h.ids

theorem World.departs_of_arrival (hindex : w.roomState.directory.index peerId = none)
    (h : w.roomState.ChangesIn (.arrival peerId) w'.roomState) : w.Departs w' := by
  refine ⟨_, h, ?_, ?_⟩
  · rintro _ roomId members rfl hplace
    rw [hindex] at hplace
    cases hplace
  · rintro _ ⟨⟨⟩, -⟩

theorem World.InOrder.departs_of_start (h : w.InOrder first) (hstart : w.SameStart w') :
    w.Departs w' :=
  departs_of_rooms h.tidy hstart.roomState

theorem dispatchJoinVoice_departs (h : w.InOrder first)
    (hindex : w.roomState.directory.index peerId = none) (hunseated : w.Unseated peerId)
    (payload : JoinVoicePayload) :
    (dispatchJoinVoice config peerId connection payload).Alone ok (fun _ w' => w.Departs w') w := by
  have hsend : ∀ {w₁ w' : World} (msg : SignalingMessage), w₁.Departs w' →
      (sendTo peerId msg).Alone ok (fun _ w' => w₁.Departs w') w' :=
    fun msg hdeparts => (sendTo_quiet _ _).keepsRooms.alone.mono fun _ _ => hdeparts.of_rooms
  have hallow : ∀ limiter, (Op.perform (.allow limiter)).Quiet := fun _ => within_perform rfl
  unfold dispatchJoinVoice
  split
  · exact departs_of_rooms h.tidy rfl
  rename_i userId _
  refine (coldStart_quiet config).sameStart.bind fun cold w₁ hstart₁ => ?_
  cases cold with
  | some refusal => exact hsend refusal (h.departs_of_start hstart₁)
  | none =>
    refine hstart₁.bind (hallow .globalJoin) fun globally w₂ hstart₂ => ?_
    split
    · exact hsend _ (h.departs_of_start hstart₂)
    refine hstart₂.bind (hallow .join) fun allowed w₃ hstart₃ => ?_
    split
    · exact hsend _ (h.departs_of_start hstart₃)
    have hjoin : ∀ joiner : VoiceJoiner, joiner.peerId = peerId →
        (joinVoice config payload.channelId joiner).Alone ok (fun _ w' => w.Departs w') w₃ := by
      rintro joiner rfl
      have hrooms := hstart₃.roomState
      refine (joinVoice_departs config joiner (hrooms ▸ h.placed.sound) (hrooms ▸ h.tidy)
        (hrooms ▸ hindex) ?_ payload.channelId).mono fun _ _ => hstart₃.departs
      intro roomId
      rw [hrooms]
      exact hunseated roomId
    refine (hjoin _ rfl).bind fun answer w₄ hdeparts => ?_
    cases answer with
    | error e => exact hsend _ hdeparts
    | ok result =>
      exact (finishVoiceJoin_keepsRooms config userId result).alone.mono fun _ _ =>
        hdeparts.of_rooms

/-- The target, if it shares in the room of the caller, is assigned to a sub-room. -/
def World.KickSpares (w : World) (callerId targetId : PeerId) : Prop :=
  ∀ roomId, w.roomState.directory.index callerId = some roomId →
    w.roomState.SharesSeated roomId targetId

theorem dispatchAction_departs (h : w.InOrder first) {session : SignalingSession}
    (hsettled : w.Settled session.participantId) (issuerId : String)
    (hkick : ∀ targetId, msg = .kickParticipant targetId →
      w.KickSpares session.participantId targetId) :
    (dispatchAction config peerId issuerId session msg).Alone ok (fun _ w' => w.Departs w') w := by
  by_cases hmsg : ∃ targetId, msg = .kickParticipant targetId
  · obtain ⟨targetId, rfl⟩ := hmsg
    exact dispatchKick_departs h.placed.sound h.tidy (hkick targetId rfl)
  · have haction : (dispatchAction config peerId issuerId session msg).Affects
        (.action session.participantId) :=
      dispatchAction_affects config issuerId session fun targetId heq => hmsg ⟨targetId, heq⟩
    refine (haction.alone (.refl h.tidy)).mono fun _ w' hchanges => ?_
    refine ⟨_, .of_changesIn hchanges (fun _ => id) ?_⟩
    rintro _ rfl
    exact hsettled

theorem dispatchMessage_departs (h : w.InOrder first)
    (hlookup : w.connections.lookup peerId = some connection) (hout : w.JoinedOrOut peerId)
    (hvalid : validateStateTransition msg connection.session.isSome
      connection.authenticatedUserId.isSome = .ok ())
    (hkick : ∀ targetId, msg = .kickParticipant targetId → w.KickSpares peerId targetId) :
    (dispatchMessage config peerId connection msg).Alone ok (fun outcome w' => w.Departs w'
      ∧ (outcome = .break → World.Parts (.departure peerId) w w')) w := by
  have hcontinue : ∀ {program : BackendProg Unit},
      program.Alone ok (fun _ w' => w.Departs w') w →
      (program >>= fun _ => pure DispatchOutcome.continue).Alone ok (fun outcome w' =>
        w.Departs w' ∧ (outcome = .break → World.Parts (.departure peerId) w w')) w :=
    fun hprogram => hprogram.bind fun _ _ hdeparts => ⟨hdeparts, nofun⟩
  have harrives : ∀ {program : BackendProg Unit}, connection.session = none →
      program.Affects (.arrival peerId) → program.Alone ok (fun _ w' => w.Departs w') w :=
    fun hsession hprogram => (hprogram.alone (.refl h.tidy)).mono fun _ _ hchanges =>
      departs_of_arrival (hout connection hlookup hsession) hchanges
  have hsettled : ∀ session, connection.session = some session → w.Settled peerId := by
    intro session hsession
    refine ⟨h.ids _ _ hlookup, fun connection' hlookup' => ?_⟩
    rw [hlookup, some.injEq] at hlookup'
    subst hlookup'
    simp [hsession]
  unfold dispatchMessage
  split
  · exact hcontinue ((dispatchAuth_keepsRooms _).alone.mono fun _ _ =>
      departs_of_rooms h.tidy)
  · rename_i payload
    have hsession := session_eq_none (.inl ⟨payload, rfl⟩) hvalid
    exact hcontinue (harrives hsession (dispatchJoin_affects config connection payload))
  · rename_i payload
    have hsession := session_eq_none (.inr (.inl ⟨payload, rfl⟩)) hvalid
    exact hcontinue (harrives hsession (dispatchCreateRoom_affects config connection payload))
  · rename_i payload
    have hsession := session_eq_none (.inr (.inr ⟨payload, rfl⟩)) hvalid
    have hindex := hout connection hlookup hsession
    exact hcontinue (dispatchJoinVoice_departs config h hindex
      (h.seated.unseated h.placed.sound hlookup hsession hindex) payload)
  · rename_i session hsession
    refine (handleLeave_parts h.tidy (h.placed.sessions hlookup hsession)
      (hsettled session hsession)).bind fun _ w' hparts => ⟨⟨_, hparts⟩, fun _ => hparts⟩
  · rename_i hsession
    have hindex : w.roomState.directory.index peerId = none := hout connection hlookup hsession
    have honly : w.OnlyIn peerId "" := by
      intro roomId hplace
      rw [hindex] at hplace
      cases hplace
    refine ⟨departs_of_rooms h.tidy rfl, fun _ => ?_⟩
    refine departs_departure (.refl h.tidy) honly fun members hplace => ?_
    rw [hindex] at hplace
    cases hplace
  · rename_i session _ _ _ _ _ hsession
    obtain rfl := (h.placed.sessions hlookup hsession).participantId
    exact hcontinue (dispatchAction_departs config h (hsettled session hsession) _ hkick)
  · exact ⟨departs_of_rooms h.tidy rfl, nofun⟩

theorem handleFrame_departs (h : w.InOrder w.roomState.directory) (hout : w.JoinedOrOut peerId)
    (msg : SignalingMessage)
    (hkick : ∀ targetId, msg = .kickParticipant targetId → w.KickSpares peerId targetId) :
    (handleFrame config peerId msg).Alone ok (fun _ w' => w.Departs w') w := by
  intro env _ w₁ _ hexec
  cases hexec
  have hstart : w.SameStart (w.tick env.elapsed) := ⟨rfl, rfl, rfl⟩
  cases hconnection : (w.tick env.elapsed).connections.lookup peerId with
  | none => exact h.departs_of_start hstart
  | some connection =>
    have hallow : (Op.perform (.allow .message)).Quiet := within_perform rfl
    refine hallow.sameStart.bind fun allowed w₂ hstart₂ => ?_
    have hstart₂ := hstart.trans hstart₂
    have h₂ := hstart₂.inOrder h
    have hlookup : w₂.connections.lookup peerId = some connection :=
      hstart₂.connections ▸ hconnection
    have hout₂ : w₂.JoinedOrOut peerId := by
      unfold World.JoinedOrOut
      rw [hstart₂.connections, hstart₂.roomState]
      exact hout
    cases allowed with
    | false =>
      exact (closeConnection_parts h₂.placed h₂.tidy h₂.ids hout₂).mono fun _ _ hpost =>
        hstart₂.departs hpost.1
    | true =>
      rw [if_pos rfl]
      split
      · exact (sendError_quiet _ _).sameStart.mono fun _ _ hstart =>
          h.departs_of_start (hstart₂.trans hstart)
      rename_i hvalid
      have hfirst : connection.session = none →
          w.roomState.directory.index peerId = none := hout connection hconnection
      have hids : (dispatchMessage config peerId connection msg).Alone ok
          (fun _ w' => w'.IdsGivenOut) w₂ :=
        ensures_of_exec (I := World.IdsGivenOut) h₂.ids fun _ _ _ _ _ hids => hids.exec
      refine ((dispatchMessage_departs config h₂ hlookup hout₂ hvalid ?_).and
        ((dispatchMessage_placed config h₂.placed hlookup hout₂ hfirst hvalid
          fun hfull => hfull.elim).and hids)).bind ?_
      · intro targetId htarget roomId hindex
        rw [hstart₂.roomState] at hindex ⊢
        exact hkick targetId htarget roomId hindex
      · rintro outcome w₃ ⟨⟨hdeparts, hbreak⟩, ⟨hplaced, hout₃⟩, hids⟩
        cases outcome with
        | «continue» => exact hstart₂.departs hdeparts
        | «break» =>
          have hparts := hbreak rfl
          refine (closeConnection_parts hplaced hparts.changes.tidy hids (hout₃ rfl)).mono ?_
          exact fun _ w₄ hpost =>
            hstart₂.departs ⟨_, hparts.departure_trans hpost.2⟩

end

/-- Whoever is kicked or ejected while it shares is assigned to a sub-room. -/
def World.Spares (w : World) : BackendCall → Prop
  | .message peerId (.kickParticipant targetId) => w.KickSpares peerId targetId
  | .banMember channelId _ targetUserId => w.BanSpares channelId targetUserId
  | _ => True

variable {call : BackendCall}

/-- **Every call erases whom it removes.** -/
theorem call_departs (h : w.InOrder w.roomState.directory) (hattached : w.Attached call)
    (hspares : w.Spares call) : (call.body config).Alone ok (fun _ w' => w.Departs w') w := by
  cases call with
  | connect userId =>
    have haccept : (Op.perform (.accept userId)).KeepsRooms := within_perform rfl
    exact haccept.alone.mono fun _ _ => departs_of_rooms h.tidy
  | message peerId msg =>
    refine handleFrame_departs config h hattached msg ?_
    rintro targetId rfl
    exact hspares
  | disconnect peerId =>
    exact (closeConnection_parts h.placed h.tidy h.ids hattached).mono fun _ _ => And.left
  | banMember channelId requesterUserId targetUserId =>
    exact banMemberRoute_departs h.placed.sound h.tidy hspares requesterUserId
  | refreshTokens =>
    refine ((refreshTick_affects config).alone (.refl h.tidy)).mono fun _ w' hchanges => ?_
    refine ⟨_, .of_changesIn hchanges (fun _ => id) ?_⟩
    rintro _ ⟨⟩
  | expireSubRoom roomId expiry =>
    have hexpiry : (runSubRoomExpiry roomId expiry).Affects .idle :=
      runSubRoomExpiry_affects trivial expiry
    refine (hexpiry.alone (.refl h.tidy)).mono fun _ w' hchanges => ?_
    exact ⟨_, .of_changesIn hchanges (fun _ => id) fun _ hadds => hadds.elim⟩

theorem settled_setConnection (peerId' : PeerId) (change : Connection → Connection)
    (h : w.Settled peerId) (hchange : ∀ connection, connection.session.isSome = true →
      (change connection).session.isSome = true) :
    (w.setConnection peerId' change).Settled peerId := by
  have hnext : (w.setConnection peerId' change).nextPeerId = w.nextPeerId := by
    unfold setConnection
    split <;> rfl
  refine ⟨hnext ▸ h.given, fun connection hlookup => ?_⟩
  rw [lookup_setConnection] at hlookup
  split_ifs at hlookup with hpeer
  · subst hpeer
    obtain ⟨old, hold, rfl⟩ := map_eq_some_iff.mp hlookup
    exact hchange old (h.joined old hold)
  · exact h.joined connection hlookup

theorem World.Settled.exec {o : Op} {env : Env} {answer : o.Resp} (h : w.Settled peerId)
    (hexec : o.exec env w = some (answer, w')) : w'.Settled peerId := by
  obtain ⟨⟨n, hlt, rfl⟩, hjoined⟩ := h
  cases o with
  | accept userId =>
    cases hexec
    refine ⟨⟨n, Nat.lt_succ_of_lt hlt, rfl⟩, fun connection hlookup => ?_⟩
    have hne : s!"peer-{n}" ≠ s!"peer-{w.nextPeerId}" :=
      fun heq => Nat.ne_of_lt hlt (peerId_injective heq)
    exact hjoined connection ((AList.lookup_insert_ne hne).symm.trans hlookup)
  | setUser peerId' userId =>
    cases hexec
    exact settled_setConnection _ _ ⟨⟨n, hlt, rfl⟩, hjoined⟩ fun _ => id
  | setSession peerId' session =>
    cases hexec
    exact settled_setConnection _ _ ⟨⟨n, hlt, rfl⟩, hjoined⟩ fun _ _ => rfl
  | closeConnection peerId' =>
    cases hexec
    refine ⟨⟨n, hlt, rfl⟩, fun connection hlookup => ?_⟩
    have hlookup' : (w.connections.erase peerId').lookup s!"peer-{n}" = some connection := hlookup
    by_cases hpeer : s!"peer-{n}" = peerId'
    · subst hpeer
      rw [AList.lookup_erase] at hlookup'
      cases hlookup'
    · rw [AList.lookup_erase_ne hpeer] at hlookup'
      exact hjoined connection hlookup'
  | _ =>
    obtain ⟨hconnections, hnext⟩ := Op.exec_connections hexec rfl
    exact ⟨⟨n, hnext ▸ hlt, rfl⟩, hconnections ▸ hjoined⟩

theorem World.Departs.seated (hdeparts : w.Departs w') (h : w.InOrder first)
    (hsettled : ∀ {peerId}, w.Settled peerId → w'.Settled peerId) : w'.Seated := by
  obtain ⟨scope, hparts⟩ := hdeparts
  intro roomId members peerId hfind hseat
  by_cases hadds : scope.adds .seat peerId
  · rcases hparts.seats hadds with hbefore | hin
    · exact .inr (hsettled hbefore)
    · exact .inl (hin roomId members hfind hseat)
  -- A seat that is not new was taken in a room that is not new either.
  obtain ⟨arc, hroom, rfl⟩ := find_eq_some.mp hfind
  have hlt : arc < w.roomState.nextArc := by
    by_contra hnew
    exact hadds (hparts.changes.fresh (not_lt.mp hnew) (w'.roomState.rooms_lt hroom) hseat)
  have hfind₀ : w.roomState.find roomId = some (w.roomState.heap arc) :=
    find_eq_some.mpr ⟨arc, hparts.changes.lookup hlt hroom, rfl⟩
  have hkept := hparts.changes.heap hlt
  rcases h.seated roomId _ peerId hfind₀ (hkept.wanes hadds hseat) with hmem | hbefore
  · by_cases hleaves : scope.leaves peerId
    · have hindex := (h.placed.sound _ _ (room_of_find hfind₀)).indexed hmem
      obtain ⟨hlacks, hsfu | hbefore, -⟩ := hparts.clears hleaves hindex hfind₀
      · exact absurd hseat (hlacks hsfu .seat (by simp) _ hfind)
      · exact .inr (hsettled hbefore)
    · exact .inl (hkept.peers hleaves hmem)
  · exact .inr (hsettled hbefore)

structure RoomMembers.Erased (members : RoomMembers) (peerId : PeerId) : Prop where
  peers : peerId ∉ members.peers
  participants : peerId ∉ members.info.participants.map (·.participantId)
  shares : ¬ members.info.Sharing peerId
  subRooms : ¬ members.info.InSubRoom peerId
  viewers : ¬ members.info.Viewing peerId

/-- A room survives, an SFU room, and the participant has lost its place there. -/
structure World.Removes (w w' : World) (roomId : RoomId) (arc : ArcId) (peerId : PeerId) :
    Prop where
  before : w.roomState.rooms.lookup roomId = some arc
  after : w'.roomState.rooms.lookup roomId = some arc
  sfu : (w.roomState.heap arc).info.roomType = .sfu
  lost : peerId ∈ (w.roomState.heap arc).peers ∧ peerId ∉ (w'.roomState.heap arc).peers
    ∨ peerId ∈ (w.roomState.heap arc).info.participants.map (·.participantId)
      ∧ peerId ∉ (w'.roomState.heap arc).info.participants.map (·.participantId)

theorem World.Departs.erased (hdeparts : w.Departs w') (h : w.InOrder w.roomState.directory)
    (hplaced : w'.Placed False w.roomState.directory) {arc : ArcId}
    (hremoves : w.Removes w' roomId arc peerId) :
    (w'.roomState.heap arc).Erased peerId
      ∧ ((w'.roomState.heap arc).info.Bears .token peerId
        ↔ (w.roomState.heap arc).info.Bears .token peerId) := by
  obtain ⟨scope, hparts⟩ := hdeparts
  obtain ⟨hbefore, hafter, hsfu, hlost⟩ := hremoves
  have hlt := w.roomState.rooms_lt hbefore
  have hkept := hparts.changes.heap hlt
  have hfind : w.roomState.find roomId = some (w.roomState.heap arc) :=
    find_eq_some.mpr ⟨arc, hbefore, rfl⟩
  have hfind' : w'.roomState.find roomId = some (w'.roomState.heap arc) :=
    find_eq_some.mpr ⟨arc, hafter, rfl⟩
  have hroom := room_of_find hfind
  have hroom' := room_of_find hfind'
  have hmatched : (w.roomState.heap arc).roster.Matched False :=
    (h.placed.sound _ _ hroom).matched (by simp [RoomMembers.roster, RoomInfo.roster, hsfu])
  have hmatched' : (w'.roomState.heap arc).roster.Matched False :=
    (hplaced.sound _ _ hroom').matched
      (by simp [RoomMembers.roster, RoomInfo.roster, hkept.roomType, hsfu])
  have hleaves : scope.leaves peerId := by
    by_contra hstays
    rcases hlost with ⟨hmem, hgone⟩ | ⟨hmem, hgone⟩
    · exact hgone (hkept.peers hstays hmem)
    · exact hgone (hkept.ids hstays hmem)
  have hmem : peerId ∈ (w.roomState.heap arc).peers := by
    rcases hlost with ⟨hmem, -⟩ | ⟨hmem, -⟩
    · exact hmem
    · exact hmatched.mem_peers (mem_ids_roster.mpr hmem)
  have hindex := (h.placed.sound _ _ hroom).indexed hmem
  obtain ⟨hlacks, -, htoken⟩ := hparts.clears hleaves hindex hfind
  have hpeers : peerId ∉ (w'.roomState.heap arc).peers := by
    by_cases hlisted : peerId ∈ (w.roomState.heap arc).ids
    · -- Who was in both lists is still in both or in no room at all.
      rcases hplaced.stays ⟨hindex, _, hroom, mem_ids_roster.mpr hlisted, hmem⟩ with
        ⟨-, roster, hroster, hids, hpeers⟩ | hgone
      · rw [hroom', some.injEq] at hroster
        subst hroster
        rcases hlost with ⟨-, hgone⟩ | ⟨-, hgone⟩
        · exact hgone
        · exact absurd (mem_ids_roster.mp hids) hgone
      · exact hplaced.sound.not_mem_peers hroom' (by simp [hgone])
    · rcases hlost with ⟨-, hgone⟩ | ⟨hlisted', -⟩
      · exact hgone
      · exact absurd hlisted' hlisted
  refine ⟨⟨hpeers, fun hids => hpeers (hmatched'.mem_peers (mem_ids_roster.mpr hids)), ?_, ?_, ?_⟩,
    hkept.wanes htoken, hkept.tokens⟩
  · exact hlacks hsfu .share (by simp) _ hfind'
  · exact hlacks hsfu .seat (by simp) _ hfind'
  · exact hlacks hsfu .window (by simp) _ hfind'

theorem call_inOrder (h : w.InOrder w.roomState.directory) (hattached : w.Attached call)
    (hspares : w.Spares call) :
    (call.body config).Alone ok (fun _ w' => w'.InOrder w'.roomState.directory) w := by
  have hids : (call.body config).Alone ok (fun _ w' => w'.IdsGivenOut) w :=
    ensures_of_exec (I := World.IdsGivenOut) h.ids fun _ _ _ _ _ hids => hids.exec
  have hsettled : (call.body config).Alone ok
      (fun _ w' => ∀ {peerId}, w.Settled peerId → w'.Settled peerId) w :=
    ensures_of_exec (I := fun (w' : World) => ∀ {peerId}, w.Settled peerId → w'.Settled peerId) id
      fun _ _ _ _ _ hsettled hexec _ hbefore => (hsettled hbefore).exec hexec
  refine ((call_placed config h.placed call hattached fun hfull => hfull.elim).and
    ((call_departs config h hattached hspares).and (hids.and hsettled))).mono ?_
  rintro _ w' ⟨hplaced, hdeparts, hids, hsettled⟩
  have hseated := hdeparts.seated h hsettled
  obtain ⟨scope, hparts⟩ := hdeparts
  exact ⟨hplaced.restart, hparts.changes.tidy, hseated, hids⟩

def BackendPool.Sparing (pool : BackendPool) : BackendAct → Prop
  | .start call => pool.shared.Attached call ∧ pool.shared.Spares call
  | .step _ _ => True

theorem World.inOrder_initial (db : ChannelDb) :
    (initial config db).InOrder (initial config db).roomState.directory where
  placed := placed_initial False config db
  tidy _ := RoomInfo.blank_newP2p.tidy
  seated roomId members peerId hfind := by cases hfind
  ids peerId connection hlookup := by cases hlookup

/-- **A departure erases the participant**, in runs that handle one call after the other and spare
the shares. The time of its token stays. -/
theorem departure_erases (config : Config) (db : ChannelDb) {pool : BackendPool}
    (hreach : (backend config).Reach
      (fun pool act => BackendPool.OneAtATime pool act ∧ BackendPool.Sparing pool act)
      (BackendPool.initial config db) pool)
    (hdone : pool.Quiescent) {call : BackendCall} (hattached : pool.shared.Attached call)
    (hspares : pool.shared.Spares call) :
    (call.body config).Alone (fun _ _ => True) (fun _ w => ∀ roomId arc peerId,
      pool.shared.Removes w roomId arc peerId →
        (w.roomState.heap arc).Erased peerId
          ∧ ((w.roomState.heap arc).info.Bears .token peerId
            ↔ (pool.shared.roomState.heap arc).info.Bears .token peerId)) pool.shared := by
  have hcall : ∀ (pool : BackendPool) (call : BackendCall),
      BackendPool.OneAtATime pool (.start call) ∧ BackendPool.Sparing pool (.start call) →
      pool.shared.InOrder pool.shared.roomState.directory →
      (call.body config).Ensures Op.exec (fun _ _ => True)
        (fun _ w => w.InOrder w.roomState.directory) pool.shared :=
    fun _ call hallowed h => call_inOrder config h hallowed.2.1 hallowed.2.2
  have h : pool.shared.InOrder pool.shared.roomState.directory :=
    System.Reach.sequential (I := fun w => w.InOrder w.roomState.directory) rfl
      (inOrder_initial config db)
      (fun _ _ hallowed => hallowed.1.2) (fun _ _ _ _ _ => trivial) hcall hreach hdone
  refine ((call_departs config h hattached hspares).and
    (call_placed config h.placed call hattached fun hfull => hfull.elim)).mono ?_
  rintro _ w ⟨hdeparts, hplaced⟩ roomId arc peerId hremoves
  exact hdeparts.erased h hplaced hremoves

instance RoomInfo.decidableSharesSeated (info : RoomInfo) (participantId : PeerId) :
    Decidable (info.SharesSeated participantId) :=
  decidable_of_iff
    ((info.activeShares.contains participantId
        || (info.activeShareTypes.lookup participantId).isSome) = true →
      (info.subRoomState.any fun state =>
        (state.participantAssignments.lookup participantId).isSome) = true) (by
    unfold RoomInfo.SharesSeated RoomInfo.Sharing
    simp only [Bool.or_eq_true, Option.any_eq_true])

instance InMemoryRoomState.decidableSharesSeated (state : InMemoryRoomState) (roomId : RoomId)
    (peerId : PeerId) : Decidable (state.SharesSeated roomId peerId) :=
  decidable_of_iff
    ((state.find roomId).all (fun members => decide (members.info.SharesSeated peerId)) = true) (by
    unfold InMemoryRoomState.SharesSeated
    cases state.find roomId <;> simp)

instance (w : World) (callerId targetId : PeerId) : Decidable (w.KickSpares callerId targetId) :=
  decidable_of_iff
    ((w.roomState.peerToRoom.lookup callerId).all
      (fun roomId => decide (w.roomState.SharesSeated roomId targetId)) = true) (by
    simp only [Option.all_eq_true, decide_eq_true_eq]
    exact Iff.rfl)

instance (w : World) (channelId userId : Uuid) : Decidable (w.BanSpares channelId userId) :=
  decidable_of_iff
    ((w.activeRoomMap.lookup channelId).all (fun roomId =>
      (w.roomState.find roomId).all fun members =>
        (members.info.findUser userId).all fun peerId =>
          decide (members.info.SharesSeated peerId)) = true) (by
    simp only [Option.all_eq_true, decide_eq_true_eq]
    exact ⟨fun h roomId members peerId hactive hfind => h roomId hactive members hfind peerId,
      fun h roomId hactive members hfind peerId => h roomId members peerId hactive hfind⟩)

instance (w : World) (call : BackendCall) : Decidable (w.Spares call) := by
  unfold World.Spares
  split <;> infer_instance

instance (w : World) (call : BackendCall) : Decidable (w.Attached call) :=
  match call with
  | .message peerId _ | .disconnect peerId => inferInstanceAs (Decidable (w.JoinedOrOut peerId))
  | .connect _ | .banMember _ _ _ | .refreshTokens | .expireSubRoom _ _ => instDecidableTrue

instance (pool : BackendPool) (act : BackendAct) : Decidable (pool.Sparing act) := by
  refine act.casesOn ?_ ?_ <;> intros <;> dsimp only [BackendPool.Sparing] <;> infer_instance

def secondLeaves : BackendCall := .message "peer-2" .leave

def removesSecond (w w' : World) : Bool :=
  decide (w.roomState.rooms.lookup "room" = some 0 ∧ w'.roomState.rooms.lookup "room" = some 0
    ∧ (w.roomState.heap 0).info.roomType = .sfu ∧ "peer-2" ∈ (w.roomState.heap 0).peers
    ∧ "peer-2" ∉ (w'.roomState.heap 0).peers)

theorem removes_of_removesSecond (h : removesSecond w w' = true) :
    w.Removes w' "room" 0 "peer-2" := by
  obtain ⟨hbefore, hafter, hsfu, hmem, hgone⟩ := of_decide_eq_true h
  exact ⟨hbefore, hafter, hsfu, .inl ⟨hmem, hgone⟩⟩

def afterCall (call : BackendCall) (w : World) (test : World → Bool) : Bool :=
  match (call.body openServer).eval Op.exec (List.replicate 40 {}) w with
  | some (_, w') => test w'
  | none => false

theorem exists_of_afterCall {test : World → Bool} (h : afterCall call w test = true)
    {post : World → Prop}
    (hensures : (call.body openServer).Alone (fun _ _ => True) (fun _ w => post w) w) :
    ∃ w', test w' = true ∧ post w' := by
  unfold afterCall at h
  split at h
  · rename_i answer w' heval
    exact ⟨w', h, hensures.eval (fun _ _ _ => trivial) heval⟩
  · cases h

/-- The second peer has joined the SFU room with a hint for P2P, without a token, and leaves it. -/
theorem departure_erases_leave :
    ∃ w w' : World, w.Removes w' "room" 0 "peer-2" ∧ (w'.roomState.heap 0).Erased "peer-2"
      ∧ ¬ (w'.roomState.heap 0).info.Bears .token "peer-2" := by
  obtain ⟨pool, hreach, hdone, hattached, hnone, hafter⟩ := System.exists_reach_of_replay
    (backend openServer)
    (fun pool act => BackendPool.OneAtATime pool act ∧ BackendPool.Sparing pool act)
    (BackendPool.initial openServer .empty) (secondJoin (joinP2p "room") 12)
    (fun pool => pool.Quiescent ∧ pool.shared.Attached secondLeaves
      ∧ (pool.shared.roomState.heap 0).info.tokenIssuedAt.lookup "peer-2" = none
      ∧ afterCall secondLeaves pool.shared (removesSecond pool.shared) = true) (by decide)
  obtain ⟨w, htest, herased⟩ := exists_of_afterCall hafter
    (departure_erases openServer .empty hreach hdone hattached trivial)
  have hremoves := removes_of_removesSecond htest
  obtain ⟨herased, htoken⟩ := herased "room" 0 "peer-2" hremoves
  exact ⟨pool.shared, w, hremoves, herased, by rw [htoken]; simp [RoomInfo.Bears, hnone]⟩

/-- The room keeps the time of the token of a peer that has left it. -/
theorem not_departure_erases :
    ¬ ∀ (config : Config) (db : ChannelDb) (pool : BackendPool),
      (backend config).Reach BackendPool.OneAtATime (BackendPool.initial config db) pool →
      pool.Quiescent → ∀ call : BackendCall, BackendPool.OneAtATime pool (.start call) →
        (call.body config).Alone (fun _ _ => True) (fun _ w => ∀ roomId arc peerId,
          pool.shared.Removes w roomId arc peerId →
            (w.roomState.heap arc).Erased peerId
              ∧ ¬ (w.roomState.heap arc).info.Bears .token peerId) pool.shared := by
  intro h
  obtain ⟨pool, hreach, hdone, husage, hafter⟩ := System.exists_reach_of_replay
    (backend openServer) BackendPool.OneAtATime (BackendPool.initial openServer .empty)
    (secondJoin (joinSfu "room") 25)
    (fun pool => pool.Quiescent ∧ BackendPool.OneAtATime pool (.start secondLeaves)
      ∧ afterCall secondLeaves pool.shared (fun w => removesSecond pool.shared w
        && ((w.roomState.heap 0).info.tokenIssuedAt.lookup "peer-2").isSome) = true) (by decide)
  obtain ⟨w, htest, herased⟩ := exists_of_afterCall hafter
    (h openServer .empty pool hreach hdone secondLeaves husage)
  obtain ⟨hremoves, htoken⟩ := Bool.and_eq_true_iff.mp htest
  exact (herased "room" 0 "peer-2" (removes_of_removesSecond hremoves)).2 htoken

end Wavis
