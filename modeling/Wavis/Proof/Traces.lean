import Wavis.Proof.SubRooms

namespace Wavis

/-- A sub-room without its timer. -/
structure Seat where
  subRoomId : String
  roomNumber : Nat
  participantIds : List String

def SubRoomInfo.seat (room : SubRoomInfo) : Seat :=
  ⟨room.subRoomId, room.roomNumber, room.participantIds⟩

namespace SubRoomState

def seats (state : SubRoomState) : List Seat := state.rooms.map (·.seat)

/-- The participant has been assigned to a sub-room or is listed in one. -/
def Holds (state : SubRoomState) (participantId : String) : Prop :=
  (state.participantAssignments.lookup participantId).isSome = true
    ∨ ∃ seat ∈ state.seats, participantId ∈ seat.participantIds

theorem holds_iff {state : SubRoomState} (h : Seating state.rooms state.seat)
    (peerId : String) :
    state.Holds peerId ↔ (state.seat peerId).isSome = true := by
  refine ⟨?_, .inl⟩
  rintro (hseat | ⟨seat, hmem, hin⟩)
  · exact hseat
  · obtain ⟨room, hroom, rfl⟩ := List.mem_map.mp hmem
    rw [(h.listed room hroom peerId).mp hin]
    rfl

end SubRoomState

/-- What a record can keep of a participant, beside its place in the lists. -/
inductive Trace where
  | share
  | window
  | seat
  | token

namespace RoomInfo

def Sharing (info : RoomInfo) (participantId : String) : Prop :=
  info.activeShares.contains participantId = true
    ∨ (info.activeShareTypes.lookup participantId).isSome = true

def Viewing (info : RoomInfo) (participantId : String) : Prop :=
  (info.viewerIdentities.lookup participantId).isSome = true

def InSubRoom (info : RoomInfo) (participantId : String) : Prop :=
  ∃ state, info.subRoomState = some state ∧ state.Holds participantId

def Bears (info : RoomInfo) : Trace → String → Prop
  | .share, participantId => info.Sharing participantId
  | .window, participantId => info.Viewing participantId
  | .seat, participantId => info.InSubRoom participantId
  | .token, participantId => (info.tokenIssuedAt.lookup participantId).isSome = true

/-- Share types are recorded for sharing participants only, and the sub-rooms are in order. -/
structure Tidy (info : RoomInfo) : Prop where
  shares : ∀ participantId, (info.activeShareTypes.lookup participantId).isSome = true →
    info.activeShares.contains participantId = true
  subRooms : info.Seated

variable {info : RoomInfo} {peerId peerId' : String}

theorem inSubRoom_iff (h : info.Seated) :
    info.InSubRoom peerId ↔ (info.ensureRoomSubRooms.seat peerId).isSome = true := by
  cases hstate : info.subRoomState with
  | none => simp [InSubRoom, ensureRoomSubRooms, hstate, SubRoomState.new, SubRoomState.seat]
  | some state =>
    have hseating := h.seating
    rw [ensureRoomSubRooms_of_some hstate] at hseating ⊢
    rw [← SubRoomState.holds_iff hseating]
    simp [InSubRoom, hstate]

theorem not_sharing_cleanupShare (h : info.Tidy) :
    ¬ (info.cleanupShare peerId).2.Sharing peerId := by
  unfold cleanupShare
  split_ifs with hshares
  · rintro (hcontains | htypes)
    · simp [clearShares, HashSet.contains] at hcontains
    · simp [clearShares] at htypes
  · rintro (hcontains | htypes)
    · exact hshares hcontains
    · exact hshares (h.shares peerId htypes)

theorem not_viewing_takeViewerIdentities :
    ¬ (info.takeViewerIdentities peerId).2.Viewing peerId := by
  simp [Viewing, takeViewerIdentities]

theorem not_inSubRoom_leaveSubRoom (h : info.Tidy) (now : Instant) :
    ¬ (info.leaveSubRoom peerId now).2.InSubRoom peerId := by
  rintro ⟨after, hafter, hholds⟩
  cases hstate : info.subRoomState with
  | none =>
    rw [leaveSubRoom, hstate] at hafter
    cases hstate.symm.trans hafter
  | some state =>
    have happly : (InfoEdit.apply now [] info (.leaveSubRoom peerId)).Seated :=
      h.subRooms.apply now [] (by rintro _ _ ⟨⟩)
    have hleft : (info.leaveSubRoom peerId now).2.Seated := happly
    have hsound := h.subRooms.sound
    rw [ensureRoomSubRooms_of_some hstate] at hsound
    obtain ⟨after', hafter', -, hnone⟩ := leaveSubRoom_turn hstate hsound peerId now
    have hseating := hleft.seating
    rw [ensureRoomSubRooms_of_some hafter'] at hseating
    cases hafter.symm.trans hafter'
    rw [SubRoomState.holds_iff hseating, hnone] at hholds
    cases hholds

/-- Only the given participant may have begun to share, and types are recorded for shares only. -/
structure Casting (info info' : RoomInfo) (sharer : Option String) : Prop where
  shares : ∀ participantId, (info'.activeShareTypes.lookup participantId).isSome = true →
    info'.activeShares.contains participantId = true
  sharing : ∀ {participantId}, sharer ≠ some participantId →
    info'.Sharing participantId → info.Sharing participantId

variable {sharer : Option String}

theorem Casting.congr {info₁ info₂ : RoomInfo} (h : info.Casting info₁ sharer)
    (hshares : info₂.activeShares = info₁.activeShares)
    (htypes : info₂.activeShareTypes = info₁.activeShareTypes) : info.Casting info₂ sharer := by
  refine ⟨?_, fun hne => ?_⟩
  · rw [hshares, htypes]
    exact h.shares
  · unfold Sharing
    rw [hshares, htypes]
    exact h.sharing hne

theorem Casting.refl (h : info.Tidy) : info.Casting info sharer := ⟨h.shares, fun _ => id⟩

theorem casting_setShareTypes (h : info.Tidy) (types : HashSet WireShareType)
    (hin : info.activeShares.contains peerId = true) :
    info.Casting (info.setShareTypes peerId types) sharer := by
  have hlookup : ∀ {peerId'}, peerId' ≠ peerId →
      (info.activeShareTypes.insert peerId types).lookup peerId'
        = info.activeShareTypes.lookup peerId' := fun hne => AList.lookup_insert_ne hne
  refine ⟨fun peerId' htypes => ?_, fun {peerId'} _ hsharing => ?_⟩
  · by_cases hpeer : peerId' = peerId
    · exact hpeer ▸ hin
    · exact h.shares peerId' (hlookup hpeer ▸ htypes)
  · by_cases hpeer : peerId' = peerId
    · exact .inl (hpeer ▸ hin)
    · exact hsharing.imp_right fun htypes => hlookup hpeer ▸ htypes

theorem not_sharing_clearShares : ¬ (info.clearShares peerId).Sharing peerId := by
  rintro (hcontains | htypes)
  · simp [clearShares, HashSet.contains] at hcontains
  · simp [clearShares] at htypes

section

variable (h : info.Tidy) (peers : List PeerId)
include h

theorem casting_clearShares : info.Casting (info.clearShares peerId) sharer := by
  have hcontains : ∀ {peerId'}, peerId' ≠ peerId →
      (info.clearShares peerId).activeShares.contains peerId'
        = info.activeShares.contains peerId' := fun hne => by
    simp [clearShares, HashSet.contains, AList.lookup_erase_ne hne]
  have htypes : ∀ {peerId'}, peerId' ≠ peerId →
      (info.clearShares peerId).activeShareTypes.lookup peerId'
        = info.activeShareTypes.lookup peerId' := fun hne => AList.lookup_erase_ne hne
  refine ⟨fun peerId' htyped => ?_, fun {peerId'} _ hsharing => ?_⟩
  · have hpeer : peerId' ≠ peerId := by
      rintro rfl
      exact not_sharing_clearShares (.inr htyped)
    rw [hcontains hpeer]
    exact h.shares peerId' (htypes hpeer ▸ htyped)
  · have hpeer : peerId' ≠ peerId := by
      rintro rfl
      exact not_sharing_clearShares hsharing
    unfold Sharing at hsharing ⊢
    rwa [hcontains hpeer, htypes hpeer] at hsharing

theorem casting_started (shareType : Option WireShareType) :
    let started := { info with activeShares := info.activeShares.insert peerId () }
    info.Casting (match shareType with
      | some kind => started.setShareTypes peerId
          ((started.shareTypes peerId).insert kind ())
      | none => started) (some peerId) := by
  intro started
  have hcontains : ∀ {peerId'}, peerId' ≠ peerId →
      started.activeShares.contains peerId' = info.activeShares.contains peerId' := by
    intro peerId' hne
    simp [started, HashSet.contains, AList.lookup_insert_ne hne]
  have hself : started.activeShares.contains peerId = true := by
    simp [started, HashSet.contains]
  have htidy : started.Tidy := by
    refine ⟨fun peerId' htypes => ?_, h.subRooms.sound, h.subRooms.seating⟩
    by_cases hpeer : peerId' = peerId
    · exact hpeer ▸ hself
    · rw [hcontains hpeer]
      exact h.shares peerId' htypes
  have hsharing : ∀ {peerId'}, some peerId ≠ some peerId' →
      started.Sharing peerId' → info.Sharing peerId' := by
    intro peerId' hne hsharing
    have hpeer : peerId' ≠ peerId := fun heq => hne (by rw [heq])
    exact hsharing.imp_left fun hin => hcontains hpeer ▸ hin
  cases shareType with
  | none => exact ⟨htidy.shares, hsharing⟩
  | some kind =>
    have htyped : started.Casting (started.setShareTypes peerId
        ((started.shareTypes peerId).insert kind ())) (some peerId) :=
      casting_setShareTypes htidy _ hself
    exact ⟨htyped.shares, fun hne hin => hsharing hne (htyped.sharing hne hin)⟩

theorem casting_startShare (role : ParticipantRole) (shareType : Option WireShareType) :
    info.Casting (info.startShare peers peerId role shareType).2 (some peerId) := by
  have hsame : info.Casting info (some peerId) := .refl h
  unfold startShare
  split
  · exact hsame
  split
  · exact hsame
  split
  · exact hsame
  split
  · exact hsame
  split
  · rename_i hsharing
    cases shareType with
    | none | some kind =>
      dsimp only
      split_ifs <;> exact casting_setShareTypes h _ hsharing
  · exact casting_started h shareType

theorem casting_stopShare (target : PeerId) (shareType : Option WireShareType) :
    info.Casting (info.stopShare peers target shareType).2 sharer := by
  have hsame : info.Casting info sharer := .refl h
  unfold stopShare
  split
  · exact hsame
  split
  · exact hsame
  split
  · exact hsame
  rename_i hsharing
  split
  · dsimp only
    split
    · exact hsame
    split
    · exact casting_clearShares h
    · exact casting_setShareTypes h _ (by simpa using hsharing)
  · exact casting_clearShares h

theorem casting_stopAllShares : info.Casting info.stopAllShares.2 sharer := by
  have hsame : info.Casting info sharer := .refl h
  unfold stopAllShares
  split_ifs
  · exact hsame
  · exact hsame
  · refine ⟨fun peerId htypes => ?_, fun {peerId} _ hsharing => ?_⟩
    · simp at htypes
    · rcases hsharing with hcontains | htypes
      · simp [HashSet.contains] at hcontains
      · simp at htypes

theorem casting_cleanupShare : info.Casting (info.cleanupShare peerId).2 sharer := by
  unfold cleanupShare
  split_ifs
  · exact casting_clearShares h
  · exact .refl h

theorem casting_setSharePermission (senderId : PeerId) (permission : WireSharePermission) :
    info.Casting (info.setSharePermission peers senderId permission).2 sharer := by
  unfold setSharePermission
  dsimp only
  split_ifs <;> exact .congr (.refl h) rfl rfl

/-- A departure from a sub-room ends the shares; without a sub-room they go on. -/
theorem leaveSubRoom_shares (peerId : String) (now : Instant) :
    let left := (info.leaveSubRoom peerId now).2
    (left.activeShares = info.activeShares ∧ left.activeShareTypes = info.activeShareTypes
        ∧ (info.Sharing peerId → ∀ state, info.subRoomState = some state →
          state.participantAssignments.lookup peerId = none))
      ∨ left.activeShares = (info.clearShares peerId).activeShares
        ∧ left.activeShareTypes = (info.clearShares peerId).activeShareTypes := by
  have hsound := h.subRooms.sound
  unfold leaveSubRoom
  cases hstate : info.subRoomState with
  | none => exact .inl ⟨rfl, rfl, fun _ => nofun⟩
  | some state =>
    rw [ensureRoomSubRooms_of_some hstate] at hsound
    dsimp only
    rw [hsound.clearInvalid]
    cases hcurrent : state.participantAssignments.lookup peerId with
    | none =>
      refine .inl ⟨rfl, rfl, ?_⟩
      rintro - _ ⟨⟩
      exact hcurrent
    | some subRoomId =>
      dsimp only
      split_ifs with hshares
      · exact .inr ⟨rfl, rfl⟩
      · exact .inl ⟨rfl, rfl, fun hsharing => absurd (hsharing.elim id (h.shares _)) hshares⟩

theorem sharing_leaveSubRoom {now : Instant}
    (hsharing : (info.leaveSubRoom peerId now).2.Sharing peerId) :
    info.Sharing peerId ∧ ∀ state, info.subRoomState = some state →
      state.participantAssignments.lookup peerId = none := by
  unfold Sharing at hsharing
  rcases leaveSubRoom_shares h peerId now with ⟨hshares, htypes, hnone⟩ | ⟨hshares, htypes⟩
  · rw [hshares, htypes] at hsharing
    exact ⟨hsharing, hnone hsharing⟩
  · rw [hshares, htypes] at hsharing
    exact absurd hsharing not_sharing_clearShares

end

end RoomInfo

namespace InfoEdit

open RoomInfo

def casts : InfoEdit → Option PeerId
  | startShare senderId _ _ => some senderId
  | _ => none

def watches : InfoEdit → Option PeerId
  | recordViewerIdentity peerId _ => some peerId
  | _ => none

def issues : InfoEdit → Option PeerId
  | recordTokenIssued peerId => some peerId
  | join participant => some participant.participantId
  | _ => none

def drops : InfoEdit → Option PeerId
  | dropParticipant participantId => some participantId
  | kick participantId => some participantId
  | _ => none

variable {edit : InfoEdit} {now : Instant} {peers : List PeerId} {info : RoomInfo}
  {peerId : PeerId}

theorem casting_apply (h : info.Tidy) : info.Casting (edit.apply now peers info) edit.casts := by
  have hsame : info.Casting info edit.casts := .refl h
  by_cases honly : edit.subRoomsOnly = true
  · obtain ⟨subRoomState, heq⟩ := onlySubRooms_apply honly now peers info
    rw [heq]
    exact hsame.congr rfl rfl
  cases edit with
  | startShare senderId role shareType => exact casting_startShare h peers role shareType
  | stopShare target shareType => exact casting_stopShare h peers target shareType
  | stopAllShares => exact casting_stopAllShares h
  | cleanupShare peerId => exact casting_cleanupShare h
  | setSharePermission senderId permission =>
    exact casting_setSharePermission h peers senderId permission
  | leaveSubRoom participantId =>
    rcases leaveSubRoom_shares h participantId now with ⟨hshares, htypes, -⟩ | ⟨hshares, htypes⟩
    · exact hsame.congr hshares htypes
    · exact (casting_clearShares h).congr hshares htypes
  | recordViewerIdentity peerId identity =>
    obtain ⟨viewerIdentities, heq⟩ := info.recordViewerIdentity_eq peerId identity
    rw [apply, heq]
    exact hsame.congr rfl rfl
  | _ => first | exact hsame.congr rfl rfl | exact absurd rfl honly

/-- A voice join that seats somebody anew is the only edit that could leave the sub-rooms untidy. -/
theorem tidy_apply (h : info.Tidy)
    (hsync : ∀ peerId supportsSubRooms, edit = .syncSubRooms peerId supportsSubRooms →
      ¬ info.InSubRoom peerId) : (edit.apply now peers info).Tidy := by
  refine ⟨(casting_apply h).shares, h.subRooms.apply now peers ?_⟩
  intro peerId supportsSubRooms hedit
  have hout := hsync peerId supportsSubRooms hedit
  rw [inSubRoom_iff h.subRooms] at hout
  simpa using hout

theorem viewing_of_apply (hne : edit.watches ≠ some peerId)
    (h : (edit.apply now peers info).Viewing peerId) : info.Viewing peerId := by
  revert h
  refine apply_of_sameCore edit now peers info
    (motive := fun info' => info'.Viewing peerId → info.Viewing peerId) ?_ ?_
  · intro info' hcore h
    unfold Viewing at h
    rwa [hcore.viewerIdentities] at h
  · intro hother h
    cases edit with
    | takeViewerIdentities other =>
      unfold Viewing at h ⊢
      by_cases hpeer : peerId = other
      · subst hpeer
        simp [apply, RoomInfo.takeViewerIdentities] at h
      · simpa [apply, RoomInfo.takeViewerIdentities, AList.lookup_erase_ne hpeer] using h
    | recordViewerIdentity other identity =>
      have hpeer : peerId ≠ other := fun heq => hne (by rw [heq]; rfl)
      unfold Viewing at h ⊢
      simp only [apply, RoomInfo.recordViewerIdentity] at h
      split_ifs at h <;> simpa [AList.lookup_insert_ne hpeer] using h
    | _ => first | exact h | cases hother

theorem token_apply_iff :
    ((edit.apply now peers info).tokenIssuedAt.lookup peerId).isSome = true
      ↔ edit.issues = some peerId ∨ (info.tokenIssuedAt.lookup peerId).isSome = true := by
  have hinsert : ∀ other, ((info.tokenIssuedAt.insert other now).lookup peerId).isSome = true
      ↔ some other = some peerId ∨ (info.tokenIssuedAt.lookup peerId).isSome = true := by
    intro other
    by_cases hpeer : peerId = other
    · subst hpeer
      simp
    · simp [AList.lookup_insert_ne hpeer, Ne.symm hpeer]
  cases hkind : edit.sharesOrSubRooms with
  | true =>
    have hissues : edit.issues = none := by cases edit <;> first | rfl | cases hkind
    simp [(sameCore_apply hkind now peers info).tokenIssuedAt, hissues]
  | false =>
    cases edit with
    | recordTokenIssued other => exact hinsert other
    | join participant => exact hinsert participant.participantId
    | recordViewerIdentity other identity =>
      obtain ⟨viewerIdentities, heq⟩ := info.recordViewerIdentity_eq other identity
      rw [apply, heq]
      exact (or_iff_right (by simp [issues])).symm
    | _ => first | exact (or_iff_right (by simp [issues])).symm | cases hkind

def Adds (edit : InfoEdit) : Trace → PeerId → Prop
  | .share, participantId => edit.casts = some participantId
  | .window, participantId => edit.watches = some participantId
  | .seat, participantId => edit.seats = some participantId
  | .token, participantId => edit.issues = some participantId

/-- **Only an edit for a participant adds a trace of it.** -/
theorem bears_of_apply {trace : Trace} (htidy : info.Tidy)
    (hsync : ∀ peerId supportsSubRooms, edit = .syncSubRooms peerId supportsSubRooms →
      ¬ info.InSubRoom peerId)
    (hne : ¬ edit.Adds trace peerId)
    (h : (edit.apply now peers info).Bears trace peerId) :
    info.Bears trace peerId := by
  cases trace with
  | share => exact (casting_apply htidy).sharing hne h
  | window => exact viewing_of_apply hne h
  | seat =>
    have hturn := ensured_turn htidy.subRooms.sound edit now peers
    exact (inSubRoom_iff htidy.subRooms).mpr
      (hturn.seat_isSome hne ((inSubRoom_iff (tidy_apply htidy hsync).subRooms).mp h))
  | token => exact (token_apply_iff.mp h).resolve_left hne

end InfoEdit

namespace RoomInfo

/-- The record lists nobody and bears no trace of anybody. -/
structure Blank (info : RoomInfo) : Prop where
  participants : info.participants = []
  tidy : info.Tidy
  bears : ∀ trace participantId, ¬ info.Bears trace participantId

theorem blank_of_empty {info : RoomInfo} (hparticipants : info.participants = [])
    (hshares : info.activeShares = ∅) (htypes : info.activeShareTypes = ∅)
    (hviewers : info.viewerIdentities = ∅) (htokens : info.tokenIssuedAt = ∅)
    (hsubRooms : info.NewSubRooms) : info.Blank := by
  refine ⟨hparticipants, ⟨fun peerId h => ?_, hsubRooms.seated⟩,
    fun trace peerId h => ?_⟩
  · simp [htypes] at h
  · cases trace with
    | share =>
      rcases h with h | h
      · simp [hshares, HashSet.contains] at h
      · simp [htypes] at h
    | window => simp [Bears, Viewing, hviewers] at h
    | seat =>
      have hseat := (inSubRoom_iff hsubRooms.seated).mp h
      rw [hsubRooms.seat peerId] at hseat
      cases hseat
    | token => simp [Bears, htokens] at h

theorem blank_newP2p : newP2p.Blank :=
  blank_of_empty rfl rfl rfl rfl rfl (.inl rfl)

theorem blank_newSfu (maxParticipants : Nat) (handle : SfuRoomHandle) :
    (newSfu maxParticipants handle).Blank :=
  blank_of_empty rfl rfl rfl rfl rfl (.inl rfl)

theorem blank_newVoiceRoom (config : Config) (handle : SfuRoomHandle) (passthroughEnabled : Bool) :
    (newVoiceRoom config handle passthroughEnabled).Blank :=
  blank_of_empty rfl rfl rfl rfl rfl (.inr ⟨passthroughEnabled, rfl⟩)

end RoomInfo

end Wavis
