import Wavis.Proof.Footprint

namespace Wavis

open Concurrency Prog InMemoryRoomState Option

variable {edit : InfoEdit} {now : Instant} {trace : Trace} {α : Type} {program : BackendProg α}
  {ok : Op → Env → Prop} {roomId : RoomId} {peerId : PeerId} {state : InMemoryRoomState}
  {full : Prop}

namespace InMemoryRoomState

def Lacks (state : InMemoryRoomState) (roomId : RoomId) (trace : Trace) (peerId : PeerId) : Prop :=
  ∀ members, state.find roomId = some members → ¬ members.info.Bears trace peerId

variable {scope scope' : Scope} {state' : InMemoryRoomState}

theorem ChangesIn.lacks (h : state.ChangesIn scope state') (hadds : ¬ scope.adds trace peerId)
    (hlacks : state.Lacks roomId trace peerId) : state'.Lacks roomId trace peerId := by
  intro members hfind hbears
  obtain ⟨arc, hroom, rfl⟩ := find_eq_some.mp hfind
  by_cases hlt : arc < state.nextArc
  · have hold : state.find roomId = some (state.heap arc) :=
      find_eq_some.mpr ⟨arc, h.lookup hlt hroom, rfl⟩
    exact hlacks _ hold ((h.heap hlt).wanes hadds hbears)
  · exact hadds (h.fresh (not_lt.mp hlt) (state'.rooms_lt hroom) hbears)

theorem ChangesIn.mono (h : state.ChangesIn scope state')
    (hleaves : ∀ {peerId}, scope.leaves peerId → scope'.leaves peerId)
    (hadds : ∀ {trace peerId}, scope.adds trace peerId → scope'.adds trace peerId) :
    state.ChangesIn scope' state' where
  nextArc := h.nextArc
  lookup := h.lookup
  heap hlt :=
    { peers := fun hkept => (h.heap hlt).peers fun hleft => hkept (hleaves hleft)
      ids := fun hkept => (h.heap hlt).ids fun hleft => hkept (hleaves hleft)
      wanes := fun hkept => (h.heap hlt).wanes fun hadd => hkept (hadds hadd)
      tokens := (h.heap hlt).tokens
      tidy := (h.heap hlt).tidy
      roomType := (h.heap hlt).roomType }
  fresh hle hlt _ _ hbears := hadds (h.fresh hle hlt hbears)
  tidy := h.tidy

theorem changesIn_editRoom (h : state.Tidy)
    (hedit : ∀ members, state.find roomId = some members →
      members.ChangesIn scope (members.edit edit now)) :
    state.ChangesIn scope (state.editRoom roomId edit now) := by
  unfold editRoom
  cases hroom : state.rooms.lookup roomId with
  | none => exact .refl h
  | some arc => exact changesIn_setMembers h (hedit _ (find_eq_some.mpr ⟨arc, hroom, rfl⟩))

end InMemoryRoomState

/-- The participant departs, and the room has shed these traces of it. -/
structure World.Sheds (w₀ w : World) (roomId : RoomId) (peerId : PeerId) (shed : List Trace) :
    Prop where
  changes : w₀.roomState.ChangesIn (.departure peerId) w.roomState
  lacks : ∀ trace ∈ shed, w.roomState.Lacks roomId trace peerId

section

variable {w₀ w w' : World} {shed : List Trace}

theorem World.sheds_nil (h : w₀.roomState.ChangesIn (.departure peerId) w.roomState)
    (roomId : RoomId) : w₀.Sheds w roomId peerId [] :=
  ⟨h, nofun⟩

section

variable (h : w₀.Sheds w roomId peerId shed)
include h

theorem World.Sheds.of_rooms (hrooms : w'.roomState = w.roomState) :
    w₀.Sheds w' roomId peerId shed :=
  ⟨hrooms ▸ h.changes, hrooms ▸ h.lacks⟩

theorem World.Sheds.trans (hchanges : w.roomState.ChangesIn (.departure peerId) w'.roomState) :
    w₀.Sheds w' roomId peerId shed :=
  ⟨h.changes.trans hchanges, fun trace hmem => hchanges.lacks id (h.lacks trace hmem)⟩

theorem World.Sheds.keep (hprogram : program.Affects (.departure peerId)) :
    program.Alone ok (fun _ w' => w₀.Sheds w' roomId peerId shed) w :=
  (hprogram.alone (.refl h.changes.tidy)).mono fun _ _ hchanges => h.trans hchanges

end

structure InfoEdit.Sheds (edit : InfoEdit) (trace : Trace) (peerId : PeerId) : Prop where
  inside : edit.In (.departure peerId)
  sheds : ∀ {info : RoomInfo}, info.Tidy → ∀ now peers,
    ¬ (edit.apply now peers info).Bears trace peerId

theorem InfoEdit.sheds_takeViewerIdentities (peerId : PeerId) :
    (takeViewerIdentities peerId).Sheds .window peerId :=
  ⟨trivial, fun _ _ _ => RoomInfo.not_viewing_takeViewerIdentities⟩

theorem InfoEdit.sheds_cleanupShare (peerId : PeerId) :
    (cleanupShare peerId).Sheds .share peerId :=
  ⟨trivial, fun htidy _ _ => RoomInfo.not_sharing_cleanupShare htidy⟩

theorem InfoEdit.sheds_leaveSubRoom (peerId : PeerId) :
    (leaveSubRoom peerId).Sheds .seat peerId :=
  ⟨trivial, fun htidy now _ => RoomInfo.not_inSubRoom_leaveSubRoom htidy now⟩

theorem World.Sheds.editRoom (h : w₀.Sheds w roomId peerId shed) (hedit : edit.Sheds trace peerId)
    (hrooms : w'.roomState = w.roomState.editRoom roomId edit now) :
    w₀.Sheds w' roomId peerId (trace :: shed) := by
  have hchanges : w.roomState.ChangesIn (.departure peerId) w'.roomState := by
    rw [hrooms]
    refine changesIn_editRoom h.changes.tidy fun members hfind => ?_
    obtain ⟨arc, -, rfl⟩ := find_eq_some.mp hfind
    exact RoomMembers.changesIn_edit_of_in (h.changes.tidy arc) hedit.inside
  refine ⟨h.changes.trans hchanges, fun trace' hmem => ?_⟩
  rcases List.mem_cons.mp hmem with rfl | hmem
  · intro members hfind
    rw [hrooms, find_editRoom, if_pos rfl] at hfind
    obtain ⟨old, hold, rfl⟩ := map_eq_some_iff.mp hfind
    obtain ⟨arc, -, rfl⟩ := find_eq_some.mp hold
    exact hedit.sheds (h.changes.tidy arc) now _
  · exact hchanges.lacks id (h.lacks trace' hmem)

theorem alone_takeViewerIdentities :
    (takeViewerIdentities roomId peerId).Alone ok (fun _ w' => ∃ now,
      w'.roomState = w.roomState.editRoom roomId (.takeViewerIdentities peerId) now) w := by
  refine (alone_updateRoomInfo roomId _).bind ?_
  rintro _ w' ⟨clock, -, rfl⟩
  exact ⟨clock, rfl⟩

theorem alone_cleanupShareOnDisconnect :
    (cleanupShareOnDisconnect roomId peerId).Alone ok (fun _ w' => ∃ now,
      w'.roomState = w.roomState.editRoom roomId (.cleanupShare peerId) now) w := by
  refine (alone_withRoomWrite roomId _).bind ?_
  rintro before w' ⟨clock, -, rfl⟩
  cases before <;> exact ⟨clock, rfl⟩

theorem alone_removeParticipantFromSubRoom :
    (removeParticipantFromSubRoom roomId peerId).Alone ok (fun _ w' => ∃ now,
      w'.roomState = w.roomState.editRoom roomId (.leaveSubRoom peerId) now) w := by
  have hleave : (leaveSubRoom roomId peerId).Alone ok (fun _ w' => ∃ now,
      w'.roomState = w.roomState.editRoom roomId (.leaveSubRoom peerId) now) w := by
    refine (alone_withRoomWrite roomId _).bind ?_
    rintro before w' ⟨clock, -, rfl⟩
    cases before with
    | none => exact ⟨clock, rfl⟩
    | some before =>
      refine (announceSubRooms_quiet _ _).keepsRooms.alone.bind fun _ w₁ hrooms => ?_
      exact ⟨clock, hrooms⟩
  refine hleave.bind fun result w' hrooms => ?_
  cases result <;> exact hrooms

section

variable (h : w₀.Sheds w roomId peerId shed)
include h

theorem World.Sheds.takeViewerIdentities :
    (Wavis.takeViewerIdentities roomId peerId).Alone ok
      (fun _ w' => w₀.Sheds w' roomId peerId (.window :: shed)) w :=
  alone_takeViewerIdentities.mono fun _ _ ⟨_, hrooms⟩ =>
    h.editRoom (InfoEdit.sheds_takeViewerIdentities peerId) hrooms

theorem World.Sheds.cleanupShare :
    (cleanupShareOnDisconnect roomId peerId).Alone ok
      (fun _ w' => w₀.Sheds w' roomId peerId (.share :: shed)) w :=
  alone_cleanupShareOnDisconnect.mono fun _ _ ⟨_, hrooms⟩ =>
    h.editRoom (InfoEdit.sheds_cleanupShare peerId) hrooms

theorem World.Sheds.leaveSubRoom :
    (removeParticipantFromSubRoom roomId peerId).Alone ok
      (fun _ w' => w₀.Sheds w' roomId peerId (.seat :: shed)) w :=
  alone_removeParticipantFromSubRoom.mono fun _ _ ⟨_, hrooms⟩ =>
    h.editRoom (InfoEdit.sheds_leaveSubRoom peerId) hrooms

end

theorem handleSfuLeave_sheds (h : w₀.roomState.ChangesIn (.departure peerId) w.roomState) :
    (handleSfuLeave roomId peerId).Alone ok
      (fun _ w' => w₀.Sheds w' roomId peerId [.share, .window]) w := by
  have hself : (Scope.departure peerId).leaves peerId := rfl
  refine ((World.sheds_nil h roomId).keep (within_getRoomInfo trivial)).bind fun info w₁ h => ?_
  refine h.takeViewerIdentities.bind fun viewerIds w₂ h => ?_
  refine (h.keep (sfuRemoveAll_quiet _ _).affects).bind fun _ w₃ h => ?_
  refine h.cleanupShare.bind fun signals w₄ h => ?_
  -- What follows takes the peer out of the room and may destroy the SFU room.
  refine h.keep ?_
  refine .bind (removePeerInternal_affects hself true) fun _ => ?_
  refine .bind (updateRoomInfo_affects hself) fun _ => ?_
  exact within_afterRemoval trivial trivial (fun _ => trivial) trivial

theorem leaveSfuRoom_sheds {session : SignalingSession}
    (h : w₀.roomState.ChangesIn (.departure session.participantId) w.roomState) :
    (leaveSfuRoom session).Alone ok (fun _ w' =>
      w₀.Sheds w' session.roomId session.participantId [.seat, .share, .window]) w := by
  refine (handleSfuLeave_sheds h).bind fun signals w₁ h => ?_
  refine h.leaveSubRoom.bind fun result w₂ h => h.keep ?_
  refine .bind (dispatchSignals_quiet _ _).affects fun _ => ?_
  exact (scheduleSubRoomExpiry_quiet _ _).affects

end

/-- If the participant shares, it is assigned to a sub-room. -/
def RoomInfo.SharesSeated (info : RoomInfo) (participantId : PeerId) : Prop :=
  info.Sharing participantId → ∃ state, info.subRoomState = some state
    ∧ (state.participantAssignments.lookup participantId).isSome = true

def InMemoryRoomState.SharesSeated (state : InMemoryRoomState) (roomId : RoomId)
    (peerId : PeerId) : Prop :=
  ∀ members, state.find roomId = some members → members.info.SharesSeated peerId

section

variable {w w' : World}

def InfoEdit.KeepsShares (edit : InfoEdit) : Prop :=
  ∀ now peers info, (edit.apply now peers info).activeShares = info.activeShares
    ∧ (edit.apply now peers info).activeShareTypes = info.activeShareTypes
    ∧ (edit.apply now peers info).subRoomState = info.subRoomState

theorem InfoEdit.keepsShares_takeViewerIdentities (peerId : PeerId) :
    (takeViewerIdentities peerId).KeepsShares :=
  fun _ _ _ => ⟨rfl, rfl, rfl⟩

theorem InfoEdit.keepsShares_kick (peerId : PeerId) : (kick peerId).KeepsShares :=
  fun _ _ _ => ⟨rfl, rfl, rfl⟩

theorem RoomInfo.SharesSeated.apply {info : RoomInfo} (h : info.SharesSeated peerId)
    (hedit : edit.KeepsShares) (now : Instant) (peers : List PeerId) :
    (edit.apply now peers info).SharesSeated peerId := by
  obtain ⟨hshares, htypes, hsubRooms⟩ := hedit now peers info
  unfold RoomInfo.SharesSeated RoomInfo.Sharing
  rw [hshares, htypes, hsubRooms]
  exact h

theorem sharesSeated_editRoom (h : state.SharesSeated roomId peerId) (hedit : edit.KeepsShares)
    (now : Instant) : (state.editRoom roomId edit now).SharesSeated roomId peerId := by
  intro members hfind
  rw [find_editRoom, if_pos rfl] at hfind
  obtain ⟨old, hold, rfl⟩ := map_eq_some_iff.mp hfind
  exact (h old hold).apply hedit now _

theorem sharesSeated_dropPeer (h : state.SharesSeated roomId peerId) (peerId' : PeerId)
    (removeEmptyRoom : Bool) :
    (state.dropPeer peerId' removeEmptyRoom).SharesSeated roomId peerId := by
  intro members hfind
  rw [find_dropPeer] at hfind
  split_ifs at hfind
  · obtain ⟨hretained, -⟩ := filter_eq_some_iff.mp hfind
    obtain ⟨old, hold, rfl⟩ := map_eq_some_iff.mp hretained
    exact h old hold
  · exact h members hfind

/-- A kick leaves the shares and the seat in a sub-room to the caller. -/
theorem alone_kickParticipant :
    (kickParticipant roomId peerId).Alone ok (fun _ w' => ∃ now now',
      w'.roomState = ((w.roomState.editRoom roomId (.takeViewerIdentities peerId) now).dropPeer
        peerId true).editRoom roomId (.kick peerId) now') w := by
  refine (alone_getRoomInfo roomId).bind ?_
  rintro info w₁ ⟨clock, rfl, -⟩
  refine (sfuRemoveAll_quiet _ _).keepsRooms.alone.bind fun _ w₂ hrooms₂ => ?_
  refine alone_takeViewerIdentities.bind ?_
  rintro viewerIds w₃ ⟨now, hrooms₃⟩
  refine (sfuRemoveAll_quiet _ _).keepsRooms.alone.bind fun _ w₄ hrooms₄ => ?_
  refine (alone_removePeerInternal peerId true).bind ?_
  rintro _ w₅ ⟨clock₅, rfl⟩
  refine (alone_updateRoomInfo roomId _).bind ?_
  rintro _ w₆ ⟨now', -, rfl⟩
  refine alone_bind_of_keepsRooms rfl rfl fun _ w₇ hrooms₇ => ⟨now, now', ?_⟩
  rw [hrooms₇]
  rw [hrooms₄, hrooms₃, hrooms₂]
  rfl

/-- The participant has been kicked, and its place in the sub-rooms is yet to be given up. -/
structure World.Kicked (w w' : World) (roomId : RoomId) (peerId : PeerId) : Prop where
  sheds : w.Sheds w' roomId peerId [.window]
  sharesSeated : w'.roomState.SharesSeated roomId peerId

theorem kickParticipant_kicked (htidy : w.roomState.Tidy)
    (hshares : w.roomState.SharesSeated roomId peerId) :
    (kickParticipant roomId peerId).Alone ok (fun _ w' => w.Kicked w' roomId peerId) w := by
  have hself : (Scope.departure peerId).leaves peerId := rfl
  have hkick : (kickParticipant roomId peerId).Affects (.departure peerId) :=
    kickParticipant_affects hself
  refine ((hkick.alone (.refl htidy)).and alone_kickParticipant).mono ?_
  rintro _ w' ⟨hchanges, now, now', hrooms⟩
  refine ⟨⟨hchanges, ?_⟩, ?_⟩
  · intro trace hmem
    obtain rfl := List.mem_singleton.mp hmem
    intro members hfind
    rw [hrooms, find_editRoom, if_pos rfl] at hfind
    obtain ⟨kept, hkept, rfl⟩ := map_eq_some_iff.mp hfind
    have htaken : ∀ kept, ((w.roomState.editRoom roomId (.takeViewerIdentities peerId) now).dropPeer
        peerId true).find roomId = some kept → ¬ kept.info.Viewing peerId := by
      intro kept hkept
      rw [find_dropPeer, find_editRoom, if_pos rfl] at hkept
      split_ifs at hkept
      · obtain ⟨hretained, -⟩ := filter_eq_some_iff.mp hkept
        rw [map_map] at hretained
        obtain ⟨old, -, rfl⟩ := map_eq_some_iff.mp hretained
        exact RoomInfo.not_viewing_takeViewerIdentities
      · obtain ⟨old, -, rfl⟩ := map_eq_some_iff.mp hkept
        exact RoomInfo.not_viewing_takeViewerIdentities
    exact htaken kept hkept
  · rw [hrooms]
    have htaken := sharesSeated_editRoom hshares
      (InfoEdit.keepsShares_takeViewerIdentities peerId) now
    exact sharesSeated_editRoom (sharesSeated_dropPeer htaken peerId true)
      (InfoEdit.keepsShares_kick peerId) now'

theorem World.Kicked.of_rooms (h : w.Kicked w' roomId peerId) {w'' : World}
    (hrooms : w''.roomState = w'.roomState) : w.Kicked w'' roomId peerId :=
  ⟨h.sheds.of_rooms hrooms, hrooms ▸ h.sharesSeated⟩

theorem alone_rollbackRoom (channelId : Uuid) :
    (rollbackRoom roomId channelId).Alone ok (fun _ w' => w'.roomState = w.roomState
      ∨ w'.roomState = w.roomState.eraseRoom roomId) w := by
  refine (alone_removeEmptyRoom roomId).bind ?_
  rintro _ w₁ ⟨clock, rfl⟩
  have hlast : (Op.perform (.removeActiveRoomIf channelId roomId)).KeepsRooms :=
    within_perform rfl
  refine hlast.alone.mono fun _ w₂ hrooms => ?_
  rw [hrooms]
  split_ifs
  · exact .inr rfl
  · exact .inl rfl

section

variable (h : w.Kicked w' roomId peerId)
include h

theorem World.Kicked.rollbackRoom (channelId : Uuid) :
    (Wavis.rollbackRoom roomId channelId).Alone ok
      (fun _ w'' => w.Kicked w'' roomId peerId) w' := by
  refine (alone_rollbackRoom channelId).mono fun _ w'' hrooms => ?_
  rcases hrooms with hrooms | hrooms
  · exact h.of_rooms hrooms
  · have herased : ∀ members, w''.roomState.find roomId ≠ some members := by
      intro members
      rw [hrooms, find_eraseRoom_eq, if_pos rfl]
      exact nofun
    have hchanges : w'.roomState.ChangesIn (.departure peerId) w''.roomState := by
      rw [hrooms]
      exact changesIn_eraseRoom h.sheds.changes.tidy roomId
    exact ⟨h.sheds.trans hchanges, fun members hfind => absurd hfind (herased members)⟩

theorem World.Kicked.releaseVoiceRoom (channelId : Uuid) :
    (Wavis.releaseVoiceRoom roomId channelId).Alone ok
      (fun _ w'' => w.Kicked w'' roomId peerId) w' := by
  refine (alone_getRoomInfo roomId).bind ?_
  rintro info w₁ ⟨clock, rfl, -⟩
  have h₁ : w.Kicked (w'.later clock) roomId peerId := h.of_rooms rfl
  split
  · rename_i handle _
    refine alone_bind_of_keepsRooms rfl rfl fun _ w₂ hrooms => ?_
    exact (h₁.of_rooms hrooms).rollbackRoom channelId
  · exact h₁.rollbackRoom channelId

theorem World.Kicked.leaveSubRoom :
    (removeParticipantFromSubRoom roomId peerId).Alone ok (fun _ w'' =>
      w.Sheds w'' roomId peerId [.share, .seat, .window]) w' := by
  refine (h.sheds.leaveSubRoom.and alone_removeParticipantFromSubRoom).mono ?_
  rintro _ w'' ⟨hsheds, now, hrooms⟩
  refine ⟨hsheds.changes, fun trace hmem => ?_⟩
  rcases List.mem_cons.mp hmem with rfl | hmem
  · intro members hfind hsharing
    rw [hrooms, find_editRoom, if_pos rfl] at hfind
    obtain ⟨old, hold, rfl⟩ := map_eq_some_iff.mp hfind
    obtain ⟨arc, -, rfl⟩ := find_eq_some.mp hold
    -- The participant still shares only if it has no sub-room.
    obtain ⟨hshared, hnone⟩ := RoomInfo.sharing_leaveSubRoom (h.sheds.changes.tidy arc) hsharing
    obtain ⟨state, hstate, hassigned⟩ := h.sharesSeated _ hold hshared
    rw [hnone state hstate] at hassigned
    cases hassigned
  · exact hsheds.lacks trace hmem

end

theorem handleKick_kicked (hrooms : w'.roomState = w.roomState)
    (hsound : w.roomState.directory.Sound full) (htidy : w.roomState.Tidy)
    (hsfu : w.HasSfuRoom roomId) (hshares : w.roomState.SharesSeated roomId peerId)
    (role : ParticipantRole) :
    (handleKick roomId role peerId).Alone ok (fun answer w'' => match answer with
      | .error _ => w''.roomState = w.roomState
      | .ok _ => w.Kicked w'' roomId peerId ∧ w.OnlyIn peerId roomId) w' := by
  unfold handleKick
  split
  · exact hrooms
  refine alone_participantInRoom.bind ?_
  rintro isIn w₁ ⟨clock, rfl, hin⟩
  cases isIn with
  | false => exact hrooms
  | true =>
    obtain ⟨members, participant, hfind, hmem, rfl⟩ := hin rfl
    rw [hrooms] at hfind
    have htidy₁ : (w'.later clock).roomState.Tidy := hrooms ▸ htidy
    refine (kickParticipant_kicked htidy₁ (hrooms ▸ hshares)).bind fun _ w₂ hkicked => ?_
    have hchanges := hkicked.sheds.changes
    rw [show (w'.later clock).roomState = w.roomState from hrooms] at hchanges
    exact ⟨⟨⟨hchanges, hkicked.sheds.lacks⟩, hkicked.sharesSeated⟩,
      onlyIn_of_listed hsound hsfu.isSfu hfind hmem⟩

end

/-- The peer id was given out, and its connection, if it is still open, has a session. -/
structure World.Settled (w : World) (peerId : PeerId) : Prop where
  given : ∃ n < w.nextPeerId, peerId = s!"peer-{n}"
  joined : ∀ connection, w.connections.lookup peerId = some connection →
    connection.session.isSome = true

/-- Whoever leaves an SFU room is cleared from it; a seat is given to a peer that belongs there. -/
structure World.Parts (scope : Scope) (w w' : World) : Prop where
  changes : w.roomState.ChangesIn scope w'.roomState
  clears : ∀ {peerId roomId members}, scope.leaves peerId →
    w.roomState.directory.index peerId = some roomId →
    w.roomState.find roomId = some members →
    (members.info.roomType = .sfu → ∀ trace, trace ≠ .token →
      w'.roomState.Lacks roomId trace peerId)
      ∧ (members.info.roomType = .sfu ∨ w.Settled peerId) ∧ ¬ scope.adds .token peerId
  seats : ∀ {peerId}, scope.adds .seat peerId → w.Settled peerId
    ∨ ∀ roomId members, w'.roomState.find roomId = some members →
      members.info.InSubRoom peerId → peerId ∈ members.peers

def World.Departs (w w' : World) : Prop := ∃ scope, World.Parts scope w w'

section

variable {session : SignalingSession} {first : Directory} {w w' w'' : World} {targetId : PeerId}

theorem World.Sheds.lacks_of_ne_token {shed : List Trace} (h : w.Sheds w' roomId peerId shed)
    (hshed : ∀ trace, trace ≠ .token → trace ∈ shed) (hne : trace ≠ .token) :
    w'.roomState.Lacks roomId trace peerId :=
  h.lacks trace (hshed trace hne)

theorem World.Parts.of_changesIn {scope : Scope} (h : w.roomState.ChangesIn scope w'.roomState)
    (hleaves : ∀ peerId, ¬ scope.leaves peerId) (hseats : ∀ peerId, scope.adds .seat peerId →
      w.Settled peerId) : World.Parts scope w w' :=
  ⟨h, fun hleft => absurd hleft (hleaves _), fun hadds => .inl (hseats _ hadds)⟩

theorem World.departs_of_rooms (h : w.roomState.Tidy) (hrooms : w'.roomState = w.roomState) :
    w.Departs w' := by
  have hchanges : w.roomState.ChangesIn .idle w'.roomState := by
    rw [hrooms]
    exact .refl h
  exact ⟨.idle, .of_changesIn hchanges (fun _ => id) fun _ hadds => hadds.elim⟩

theorem World.departs_departure (hchanges : w.roomState.ChangesIn (.departure peerId) w'.roomState)
    (honly : w.OnlyIn peerId roomId)
    (hclears : ∀ members, w.roomState.directory.index peerId = some roomId →
      w.roomState.find roomId = some members →
      (members.info.roomType = .sfu → ∀ trace, trace ≠ .token →
        w'.roomState.Lacks roomId trace peerId)
        ∧ (members.info.roomType = .sfu ∨ w.Settled peerId)) :
    World.Parts (.departure peerId) w w' := by
  refine ⟨hchanges, ?_, fun hadds => hadds.elim⟩
  rintro _ roomId' members rfl hindex hfind
  obtain rfl := honly roomId' hindex
  obtain ⟨hlacks, hsettled⟩ := hclears members hindex hfind
  exact ⟨hlacks, hsettled, id⟩

theorem World.Parts.departure_trans (h : World.Parts (.departure peerId) w w')
    (h' : w'.roomState.ChangesIn (.departure peerId) w''.roomState) :
    World.Parts (.departure peerId) w w'' := by
  refine ⟨h.changes.trans h', ?_, fun hadds => hadds.elim⟩
  intro peerId' roomId members hleaves hindex hfind
  obtain ⟨hlacks, hsettled, hadds⟩ := h.clears hleaves hindex hfind
  exact ⟨fun hsfu trace hne => h'.lacks id (hlacks hsfu trace hne), hsettled, hadds⟩

theorem World.Departs.of_rooms (h : w.Departs w') (hrooms : w''.roomState = w'.roomState) :
    w.Departs w'' := by
  obtain ⟨scope, h⟩ := h
  refine ⟨scope, ?_⟩
  obtain ⟨hchanges, hclears, hseats⟩ := h
  rw [← hrooms] at hchanges hclears hseats
  exact ⟨hchanges, hclears, hseats⟩

theorem World.SameStart.settled (h : w.SameStart w') : w'.Settled peerId ↔ w.Settled peerId := by
  constructor
  · rintro ⟨hgiven, hjoined⟩
    exact ⟨h.nextPeerId ▸ hgiven, h.connections ▸ hjoined⟩
  · rintro ⟨hgiven, hjoined⟩
    exact ⟨h.nextPeerId ▸ hgiven, h.connections ▸ hjoined⟩

theorem World.SameStart.departs (h : w.SameStart w') (hdeparts : w'.Departs w'') :
    w.Departs w'' := by
  obtain ⟨scope, hchanges, hclears, hseats⟩ := hdeparts
  rw [h.roomState] at hchanges hclears
  refine ⟨scope, hchanges, ?_, fun hadds => (hseats hadds).imp_left h.settled.mp⟩
  intro peerId roomId members hleaves hindex hfind
  obtain ⟨hlacks, hsettled, hadds⟩ := hclears hleaves hindex hfind
  exact ⟨hlacks, hsettled.imp_right h.settled.mp, hadds⟩

theorem World.Kicked.departs (h : w.Kicked w' roomId peerId) (honly : w.OnlyIn peerId roomId)
    (hsfu : w.HasSfuRoom roomId) :
    (removeParticipantFromSubRoom roomId peerId).Alone ok (fun _ w'' => w.Departs w'') w' := by
  refine h.leaveSubRoom.mono fun _ w'' hsheds => ?_
  refine ⟨.departure peerId,
    World.departs_departure hsheds.changes honly fun members _ hfind => ?_⟩
  obtain ⟨members', hfind', hsfu⟩ := hsfu
  rw [hfind', some.injEq] at hfind
  subst hfind
  refine ⟨fun _ trace hne => hsheds.lacks_of_ne_token ?_ hne, .inl hsfu⟩
  intro trace hne
  cases trace <;> simp_all

theorem dispatchKick_departs (hsound : w.roomState.directory.Sound full)
    (htidy : w.roomState.Tidy)
    (hshares : ∀ roomId, w.roomState.directory.index session.participantId = some roomId →
      w.roomState.SharesSeated roomId targetId) :
    (dispatchKick session targetId).Alone ok (fun _ w' => w.Departs w') w := by
  refine alone_dispatchHostAction (fun _ h => World.departs_of_rooms htidy h.roomState) ?_
  intro roomId role w₁ hstart hindex hsfu
  refine (handleKick_kicked hstart.roomState hsound htidy hsfu (hshares roomId hindex) role).bind
    fun answer w₂ hanswer => ?_
  cases answer with
  | error e =>
    refine (sendError_quiet _ _).keepsRooms.alone.mono fun _ w₃ hrooms₃ => ?_
    exact World.departs_of_rooms htidy (hrooms₃.trans hanswer)
  | ok signals =>
    refine (hanswer.1.departs hanswer.2 hsfu).bind fun result w₃ hdeparts => ?_
    refine (dispatchSignals_quiet _ _).keepsRooms.alone_bind rfl fun _ w₄ hrooms₄ => ?_
    refine (scheduleSubRoomExpiry_quiet _ _).keepsRooms.alone.mono fun _ w₅ hrooms₅ => ?_
    exact hdeparts.of_rooms (hrooms₅.trans hrooms₄)

theorem ejectBannedUser_kicked (hrooms : w'.roomState = w.roomState)
    (hsound : w.roomState.directory.Sound full) (htidy : w.roomState.Tidy)
    (hsfu : w.HasSfuRoom roomId) (hshares : w.roomState.SharesSeated roomId peerId)
    (channelId : Uuid) :
    (ejectBannedUser roomId peerId channelId).Alone ok (fun answer w'' => match answer with
      | .error _ => w''.roomState = w.roomState
      | .ok _ => w.Kicked w'' roomId peerId ∧ w.OnlyIn peerId roomId) w' := by
  refine (handleKick_kicked hrooms hsound htidy hsfu hshares .host).bind fun answer w₁ hanswer => ?_
  cases answer with
  | error e => exact hanswer
  | ok signals =>
    obtain ⟨hkicked, honly⟩ := hanswer
    refine (alone_peerCount roomId).bind ?_
    rintro remaining w₂ ⟨clock, rfl, -⟩
    have hkicked₂ : w.Kicked (w₁.later clock) roomId peerId := hkicked.of_rooms rfl
    split
    · exact (hkicked₂.releaseVoiceRoom channelId).bind fun _ _ hreleased => ⟨hreleased, honly⟩
    · exact ⟨hkicked₂, honly⟩

/-- Whoever a ban of the user would eject is assigned to a sub-room if it shares. -/
def World.BanSpares (w : World) (channelId userId : Uuid) : Prop :=
  ∀ roomId members peerId, w.activeRoomMap.lookup channelId = some roomId →
    w.roomState.find roomId = some members → members.info.findUser userId = some peerId →
    members.info.SharesSeated peerId

theorem banMemberRoute_departs (hsound : w.roomState.directory.Sound full)
    (htidy : w.roomState.Tidy) {channelId targetUserId : Uuid}
    (hspares : w.BanSpares channelId targetUserId) (requesterUserId : Uuid) :
    (banMemberRoute channelId requesterUserId targetUserId).Alone ok
      (fun _ w' => w.Departs w') w := by
  have hallow : (Op.perform (.allow .channelRequest)).KeepsRooms
      ∧ (Op.perform (.allow .channelRequest)).KeepsMap := ⟨within_perform rfl, within_perform rfl⟩
  have hban : (banMember channelId requesterUserId targetUserId).KeepsRooms
      ∧ (banMember channelId requesterUserId targetUserId).KeepsMap :=
    ⟨within_banMember rfl (fun _ => rfl) rfl fun _ => rfl,
      within_banMember rfl (fun _ => rfl) rfl fun _ => rfl⟩
  refine (hallow.1.alone.and hallow.2.alone).bind ?_
  rintro allowed w₁ ⟨hrooms₁, hmap₁⟩
  split
  · exact World.departs_of_rooms htidy hrooms₁
  refine (hban.1.alone.and hban.2.alone).bind ?_
  rintro banned w₂ ⟨hrooms₂, hmap₂⟩
  rw [hrooms₁] at hrooms₂
  cases banned with
  | error e => exact World.departs_of_rooms htidy hrooms₂
  | ok _ =>
    refine (alone_findUserInVoice channelId targetUserId).bind ?_
    rintro found w₃ ⟨hstart, hplace⟩
    have hrooms₃ := hstart.roomState.trans hrooms₂
    cases found with
    | none => exact World.departs_of_rooms htidy hrooms₃
    | some place =>
      obtain ⟨roomId, peerId⟩ := place
      obtain ⟨hactive, members, hfind, huser⟩ := hplace _ rfl
      rw [hmap₂, hmap₁] at hactive
      rw [hrooms₂] at hfind
      have hsfu := hasSfuRoom_of_findUser hsound hfind huser
      have hshares : w.roomState.SharesSeated roomId peerId := by
        intro members' hfind'
        rw [hfind, some.injEq] at hfind'
        exact hfind' ▸ hspares roomId members peerId hactive hfind huser
      refine (ejectBannedUser_kicked hrooms₃ hsound htidy hsfu hshares channelId).bind
        fun answer w₄ hanswer => ?_
      cases answer with
      | error e => exact World.departs_of_rooms htidy hanswer
      | ok signals =>
        refine (hanswer.1.departs hanswer.2 hsfu).bind fun result w₅ hdeparts => ?_
        refine (dispatchSignals_quiet _ _).keepsRooms.alone_bind rfl fun _ w₆ hrooms₆ => ?_
        refine (scheduleSubRoomExpiry_quiet _ _).keepsRooms.alone_bind hrooms₆
          fun _ w₇ hrooms₇ => ?_
        exact hdeparts.of_rooms hrooms₇

theorem leaveRoom_sheds (htidy : w.roomState.Tidy) (isDisconnect : Bool) :
    (leaveRoom session isDisconnect).Alone ok (fun _ w' =>
      w.roomState.ChangesIn (.departure session.participantId) w'.roomState
        ∧ (w.HasSfuRoom session.roomId →
          w.Sheds w' session.roomId session.participantId [.seat, .share, .window])) w := by
  have hself : (Scope.departure session.participantId).leaves session.participantId := rfl
  refine (alone_getRoomInfo session.roomId).bind ?_
  rintro info w₁ ⟨clock, rfl, hinfo⟩
  have hchanges : w.roomState.ChangesIn (.departure session.participantId)
      (w.later clock).roomState := .refl htidy
  split
  · split_ifs
    · have hrevoke : (revokeOnDisconnect session).Affects (.departure session.participantId) :=
        revokeOnDisconnect_affects session
      refine (hrevoke.alone hchanges).bind fun _ w₂ hchanges => ?_
      exact (leaveSfuRoom_sheds hchanges).mono fun _ _ hsheds => ⟨hsheds.changes, fun _ => hsheds⟩
    · exact (leaveSfuRoom_sheds hchanges).mono fun _ _ hsheds => ⟨hsheds.changes, fun _ => hsheds⟩
  · rename_i hp2p
    -- The room was just found not to be an SFU room.
    have hnot : ¬ w.HasSfuRoom session.roomId := by
      rintro ⟨members, hfind, hsfu⟩
      exact hp2p (by simp [hinfo, hfind, hsfu])
    refine (BackendProg.Affects.alone ?_ hchanges).mono fun _ _ hchanges =>
      ⟨hchanges, fun hsfu => absurd hsfu hnot⟩
    refine Within.bind (announceP2pLeave_quiet _).affects fun _ => ?_
    split_ifs
    · exact .bind (removePeerInternal_affects hself true) fun _ => within_perform trivial
    · exact .pure

theorem parts_of_leave (hnames : session.Names peerId w.roomState.directory)
    (hsettled : w.Settled peerId)
    (hchanges : w.roomState.ChangesIn (.departure peerId) w'.roomState)
    (hsheds : w.roomState.directory.index peerId ≠ none → w.HasSfuRoom session.roomId →
      w.Sheds w' session.roomId peerId [.seat, .share, .window]) :
    World.Parts (.departure peerId) w w' := by
  refine World.departs_departure hchanges (fun _ => hnames.roomId) fun members hindex hfind => ?_
  refine ⟨fun hsfu trace hne => ?_, .inr hsettled⟩
  have hin : w.roomState.directory.index peerId ≠ none := by simp [hindex]
  refine (hsheds hin ⟨members, hfind, hsfu⟩).lacks_of_ne_token ?_ hne
  intro trace hne
  cases trace <;> simp_all

section

variable (htidy : w.roomState.Tidy) (hnames : session.Names peerId w.roomState.directory)
  (hsettled : w.Settled peerId)
include htidy hnames hsettled

theorem handleLeave_parts :
    (handleLeave session peerId).Alone ok
      (fun _ w' => World.Parts (.departure peerId) w w') w := by
  unfold handleLeave
  split
  · rename_i hleft
    refine parts_of_leave hnames hsettled (.refl htidy) fun hin => ?_
    exact absurd (hnames.leaveHandled hleft) hin
  obtain rfl := hnames.participantId
  refine (leaveRoom_sheds htidy false).bind ?_
  rintro _ w₁ ⟨hchanges, hsheds⟩
  intro env _ w₂ _ hexec
  have hrooms : w₂.roomState = w₁.roomState := Op.roomState_of_keepsRooms rfl hexec
  exact parts_of_leave hnames hsettled (hrooms ▸ hchanges) fun _ hsfu =>
    (hsheds hsfu).of_rooms hrooms

theorem cleanupConnection_parts :
    (cleanupConnection session peerId).Alone ok
      (fun _ w' => w.Departs w' ∧ w.roomState.ChangesIn (.departure peerId) w'.roomState) w := by
  unfold cleanupConnection
  split
  · exact ⟨World.departs_of_rooms htidy rfl, .refl htidy⟩
  intro env _ w₁ _ hexec
  have hrooms : w₁.roomState = w.roomState := Op.roomState_of_keepsRooms rfl hexec
  have hself : (Scope.departure peerId).leaves peerId := rfl
  have hforget : (forgetConnection session peerId).Affects (.departure peerId) :=
    forgetConnection_affects hself session
  obtain rfl := hnames.participantId
  split
  · refine (leaveRoom_sheds (hrooms ▸ htidy) true).bind ?_
    rintro _ w₂ ⟨hchanges₂, hsheds⟩
    rw [hrooms] at hchanges₂
    refine (hforget.alone (.refl hchanges₂.tidy)).mono fun _ w₃ hchanges₃ => ?_
    have hchanges := hchanges₂.trans hchanges₃
    refine ⟨⟨_, parts_of_leave hnames hsettled hchanges fun _ hsfu => ⟨hchanges, ?_⟩⟩, hchanges⟩
    obtain ⟨members, hfind, hsfu⟩ := hsfu
    have hlacks := (hsheds ⟨members, hrooms ▸ hfind, hsfu⟩).lacks
    exact fun trace hmem => hchanges₃.lacks id (hlacks trace hmem)
  · rename_i hleft
    have hchanges₁ : w.roomState.ChangesIn (.departure session.participantId) w₁.roomState := by
      rw [hrooms]
      exact .refl htidy
    refine (hforget.alone hchanges₁).mono fun _ w₂ hchanges => ?_
    refine ⟨⟨_, parts_of_leave hnames hsettled hchanges fun hin => ?_⟩, hchanges⟩
    exact absurd (hnames.leaveHandled (by simpa using hleft)) hin

end

theorem closeConnection_parts (h : w.Placed full first) (htidy : w.roomState.Tidy)
    (hids : w.IdsGivenOut) (hout : w.JoinedOrOut peerId) :
    (closeConnection peerId).Alone ok
      (fun _ w' => w.Departs w' ∧ w.roomState.ChangesIn (.departure peerId) w'.roomState) w := by
  intro env connection w₁ _ hexec
  cases hexec
  cases hconnection : (w.tick env.elapsed).connections.lookup peerId with
  | none => exact ⟨World.departs_of_rooms htidy rfl, .refl htidy⟩
  | some connection =>
    have hlookup : w.connections.lookup peerId = some connection := hconnection
    have hclose : ∀ {w₂ : World}, w.Departs w₂
        ∧ w.roomState.ChangesIn (.departure peerId) w₂.roomState →
        (Op.perform (.closeConnection peerId)).Alone ok (fun _ w' => w.Departs w'
          ∧ w.roomState.ChangesIn (.departure peerId) w'.roomState) w₂ := by
      rintro w₂ ⟨hdeparts, hchanges⟩ env _ w₃ _ hexec
      have hrooms : w₃.roomState = w₂.roomState := Op.roomState_of_keepsRooms rfl hexec
      exact ⟨hdeparts.of_rooms hrooms, hrooms ▸ hchanges⟩
    obtain ⟨issuerId, userId, session⟩ := connection
    cases session with
    | some session =>
      have hsettled : w.Settled peerId := by
        refine ⟨hids _ _ hlookup, fun connection' hlookup' => ?_⟩
        rw [hlookup, some.injEq] at hlookup'
        exact hlookup' ▸ rfl
      have hcleanup : (cleanupConnection session peerId).Alone ok (fun _ w' =>
          (w.tick env.elapsed).Departs w'
            ∧ w.roomState.ChangesIn (.departure peerId) w'.roomState) (w.tick env.elapsed) :=
        cleanupConnection_parts htidy (h.sessions hlookup rfl) ⟨hsettled.1, hsettled.2⟩
      have hstart : w.SameStart (w.tick env.elapsed) := ⟨rfl, rfl, rfl⟩
      exact hcleanup.bind fun _ w₂ hpost => hclose ⟨hstart.departs hpost.1, hpost.2⟩
    | none =>
      have hindex : w.roomState.directory.index peerId = none := hout _ hlookup rfl
      have hself : (Scope.departure peerId).leaves peerId := rfl
      have hcleanup : (cleanupUnjoinedConnection peerId).Affects (.departure peerId) :=
        cleanupUnjoinedConnection_affects hself
      have hstart : w.roomState.ChangesIn (.departure peerId) (w.tick env.elapsed).roomState :=
        .refl htidy
      refine (hcleanup.alone hstart).bind fun _ w₂ hchanges => hclose ⟨?_, hchanges⟩
      have honly : w.OnlyIn peerId "" := by
        intro roomId hplace
        rw [hindex] at hplace
        cases hplace
      refine ⟨_, World.departs_departure hchanges honly fun members hplace => ?_⟩
      rw [hindex] at hplace
      cases hplace

end

end Wavis
