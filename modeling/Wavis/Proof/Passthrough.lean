import Wavis.Proof.SubRoomPartition

namespace Wavis

open RoomInfo

def RoomInfo.passthrough (info : RoomInfo) : Option PassthroughPair :=
  info.subRoomState.bind (·.activePassthrough)

def RoomInfo.subRoomIds (info : RoomInfo) : List String :=
  info.ensureRoomSubRooms.rooms.map (·.subRoomId)

theorem RoomInfo.passthrough_eq (info : RoomInfo) :
    info.passthrough = info.ensureRoomSubRooms.activePassthrough := by
  unfold passthrough ensureRoomSubRooms
  cases info.subRoomState with
  | none | some state => rfl

variable {subRoomId : String} {pair : PassthroughPair}

theorem Linked.mem_of_names {rooms : List SubRoomInfo} (h : Linked rooms pair)
    (hnames : pair.Names subRoomId) : subRoomId ∈ rooms.map (·.subRoomId) := by
  obtain ⟨source, hsource, target, htarget, hid, hid', -⟩ := h
  rcases hnames with rfl | rfl
  · exact List.mem_map.mpr ⟨source, hsource, hid⟩
  · exact List.mem_map.mpr ⟨target, htarget, hid'⟩

def SubRoomState.MayConnect (state : SubRoomState) (participantId : PeerId)
    (pair : PassthroughPair) : Prop :=
  state.passthroughEnabled = true ∧ ∃ subRoomId, state.seat participantId = some subRoomId
    ∧ pair.Names subRoomId ∧ ∀ old, state.activePassthrough = some old → old.Names subRoomId

namespace SubRoomTurn

variable {now : Instant} {before after : SubRoomState} {edit : InfoEdit}
  {expiry : Option PendingSubRoomExpiry}

section

variable (hturn : SubRoomTurn now before edit expiry after)
include hturn

theorem connected (hafter : after.activePassthrough = some pair)
    (hbefore : before.activePassthrough ≠ some pair) :
    ∃ peerId target, edit = .setPassthrough peerId target
      ∧ before.MayConnect peerId pair := by
  cases hturn with
  | connect peerId target subRoomId link enabled seated involved named _ _ _ active =>
    rw [active, Option.some.injEq] at hafter
    exact ⟨peerId, target, rfl, enabled, subRoomId, seated, hafter ▸ named, involved⟩
  | disconnect _ _ _ _ _ _ _ _ active =>
    rw [active] at hafter
    cases hafter
  | expire _ _ _ _ _ _ _ _ active =>
    rw [active, Option.filter_eq_some_iff] at hafter
    exact absurd hafter.1 hbefore
  | idle _ _ active | create _ _ active | forget _ _ _ active | enter _ _ _ _ _ _ active
  | leave _ _ _ _ _ active | move _ _ _ _ _ _ _ _ active => exact absurd (active ▸ hafter) hbefore

theorem disconnected (hbefore : before.activePassthrough = some pair)
    (hafter : after.activePassthrough = none) :
    (∃ peerId subRoomId, edit = .clearPassthrough peerId
        ∧ before.seat peerId = some subRoomId ∧ pair.Names subRoomId)
      ∨ ∃ subRoomId deadline, edit = .expireSubRoom subRoomId deadline ∧ pair.Names subRoomId
        ∧ subRoomId ∈ before.rooms.map (·.subRoomId)
        ∧ subRoomId ∉ after.rooms.map (·.subRoomId) := by
  have hkept : after.activePassthrough ≠ before.activePassthrough := by
    rw [hbefore, hafter]
    exact nofun
  cases hturn with
  | connect _ _ _ _ _ _ _ _ _ _ _ active =>
    rw [active] at hafter
    cases hafter
  | disconnect peerId subRoomId old seated active involved =>
    rw [active, Option.some.injEq] at hbefore
    exact .inl ⟨peerId, subRoomId, rfl, seated, hbefore ▸ involved⟩
  | expire room deadline mem _ _ _ rooms _ active =>
    rw [active, hbefore, Option.filter_some] at hafter
    have hnames : pair.Names room.subRoomId := by
      by_contra hnot
      rw [if_pos (by simpa using hnot)] at hafter
      cases hafter
    refine .inr ⟨room.subRoomId, deadline, rfl, hnames, List.mem_map_of_mem mem, ?_⟩
    rw [rooms]
    simp
  | idle _ _ active | create _ _ active | forget _ _ _ active | enter _ _ _ _ _ _ active
  | leave _ _ _ _ _ active | move _ _ _ _ _ _ _ _ active => exact absurd active hkept

theorem not_names_new (h : before.Sound) (hnew : subRoomId ∉ before.rooms.map (·.subRoomId))
    (hroom : subRoomId ∈ after.rooms.map (·.subRoomId))
    (hafter : after.activePassthrough = some pair) : ¬ pair.Names subRoomId := by
  intro hnames
  obtain ⟨room, hmem, rfl⟩ := List.mem_map.mp hroom
  obtain ⟨old, hold, hid, -⟩ | ⟨rfl, -⟩ := hturn.room_old_or_next room hmem
  · exact hnew (List.mem_map.mpr ⟨old, hold, hid⟩)
  · -- A creation sets no pair, and the pairs of the old rooms do not name the new one.
    by_cases hbefore : before.activePassthrough = some pair
    · exact hnew ((h.linked pair hbefore).mem_of_names hnames)
    · obtain ⟨_, _, hedit, -⟩ := hturn.connected hafter hbefore
      cases hedit

end

end SubRoomTurn

namespace RoomInfo

variable {info first : RoomInfo}

theorem editAll_concat (info : RoomInfo) (events : List TimedEdit) (event : TimedEdit) :
    info.editAll (events ++ [event]) = (info.editAll events).edited event := by
  simp [editAll]

theorem set_since_creation (h : first.ensureRoomSubRooms.Sound) (earlier : List TimedEdit)
    (creation : TimedEdit) (hnew : subRoomId ∉ (first.editAll earlier).subRoomIds)
    (hroom : subRoomId ∈ (first.editAll (earlier ++ [creation])).subRoomIds)
    (later : List TimedEdit)
    (hactive : (first.editAll (earlier ++ [creation] ++ later)).passthrough = some pair)
    (hnames : pair.Names subRoomId) :
    ∃ before setter after peerId target, later = before ++ setter :: after
      ∧ setter.edit = .setPassthrough peerId target
      ∧ (first.editAll (earlier ++ [creation] ++ before)).passthrough ≠ some pair
      ∧ (first.editAll (earlier ++ [creation] ++ before ++ [setter])).passthrough = some pair := by
  -- Events are added at the end: the last one set the pair, or the pair was there before it.
  induction later using List.reverseRecOn with
  | nil =>
    rw [List.append_nil, passthrough_eq] at hactive
    rw [editAll_concat] at hactive hroom
    have hsound := sound_editAll h earlier
    exact absurd hnames ((turn_edited hsound creation).not_names_new hsound hnew hroom hactive)
  | append_singleton later event ih =>
    rw [← List.append_assoc, editAll_concat] at hactive
    by_cases hbefore : (first.editAll (earlier ++ [creation] ++ later)).passthrough = some pair
    · obtain ⟨before, setter, after, peerId, target, rfl, hsetter⟩ := ih hbefore
      exact ⟨before, setter, after ++ [event], peerId, target, by simp, hsetter⟩
    · have hsound := sound_editAll h (earlier ++ [creation] ++ later)
      have hset := hactive
      rw [passthrough_eq] at hset
      obtain ⟨peerId, target, hedit, -⟩ :=
        (turn_edited hsound event).connected hset (by rwa [← passthrough_eq])
      refine ⟨later, event, [], peerId, target, rfl, hedit, hbefore, ?_⟩
      rw [editAll_concat]
      exact hactive

end RoomInfo

/-- **Passthrough pairs are always valid**, after any edits of a room whose sub-rooms are new. The
numbers given out stay within the number of creations. -/
theorem passthrough_pairs_valid (first : RoomInfo) (hfirst : first.NewSubRooms) :
    (∀ events subRooms pair, (first.editAll events).subRoomState = some subRooms →
      subRooms.activePassthrough = some pair →
        pair.sourceSubRoomId ≠ pair.targetSubRoomId ∧ Linked subRooms.rooms pair
          ∧ ∀ room ∈ subRooms.rooms, room.roomNumber ≤ 1 + events.countP TimedEdit.isCreate)
      ∧ (∀ events event pair,
        ((first.editAll events).edited event).passthrough = some pair →
        (first.editAll events).passthrough ≠ some pair →
          ∃ participantId target, event.edit = .setPassthrough participantId target
            ∧ (first.editAll events).ensureRoomSubRooms.MayConnect participantId pair)
      ∧ (∀ events event pair, (first.editAll events).passthrough = some pair →
        ((first.editAll events).edited event).passthrough = none →
          (∃ participantId subRoomId, event.edit = .clearPassthrough participantId
            ∧ (first.editAll events).assignment participantId = some subRoomId
            ∧ pair.Names subRoomId)
          ∨ ∃ subRoomId deadline, event.edit = .expireSubRoom subRoomId deadline
            ∧ pair.Names subRoomId ∧ subRoomId ∈ (first.editAll events).subRoomIds
            ∧ subRoomId ∉ ((first.editAll events).edited event).subRoomIds)
      ∧ ∀ earlier creation later subRoomId pair,
        subRoomId ∉ (first.editAll earlier).subRoomIds →
        subRoomId ∈ (first.editAll (earlier ++ [creation])).subRoomIds →
        (first.editAll (earlier ++ [creation] ++ later)).passthrough = some pair →
        pair.Names subRoomId →
          ∃ before setter after participantId target, later = before ++ setter :: after
            ∧ setter.edit = .setPassthrough participantId target
            ∧ (first.editAll (earlier ++ [creation] ++ before)).passthrough ≠ some pair
            ∧ (first.editAll (earlier ++ [creation] ++ before ++ [setter])).passthrough
              = some pair := by
  have hsound := fun events => sound_editAll hfirst.sound events
  refine ⟨?_, ?_, ?_, ?_⟩
  · intro events subRooms pair hsubRooms hpair
    have hrooms := hsound events
    have hnumbers := hfirst.roomNumber_le events
    rw [ensureRoomSubRooms_of_some hsubRooms] at hrooms hnumbers
    exact ⟨hrooms.catalogue.linked_ne (hrooms.linked pair hpair), hrooms.linked pair hpair,
      hnumbers⟩
  · intro events event pair hafter hbefore
    rw [passthrough_eq] at hafter hbefore
    exact (turn_edited (hsound events) event).connected hafter hbefore
  · intro events event pair hbefore hafter
    rw [passthrough_eq] at hafter hbefore
    rw [assignment_eq]
    exact (turn_edited (hsound events) event).disconnected hbefore hafter
  · intro earlier creation later subRoomId pair hnew hroom hactive hnames
    exact set_since_creation hfirst.sound earlier creation hnew hroom later hactive hnames

/-- The second of two connected rooms is deleted and created again, and then connected again. -/
theorem passthrough_pairs_valid_reused :
    let pair : PassthroughPair := ⟨"room-1", "room-2"⟩
    let connection : TimedEdit := ⟨0, [], .setPassthrough "peer-1" "room-2"⟩
    let earlier : List TimedEdit := [⟨0, [], .setPassthroughEnabled true⟩,
      ⟨0, [], .syncSubRooms "peer-1" false⟩, ⟨0, [], .createSubRoom⟩, connection,
      ⟨0, [], .expireSubRoom "room-2" subRoomDeleteAfter⟩]
    let room := (RoomInfo.newSfu 6 "sfu").activateSubRooms false
    (room.editAll (earlier.take 4)).passthrough = some pair
      ∧ ((room.editAll (earlier ++ [⟨0, [], .createSubRoom⟩] ++ [connection])).passthrough
          = some pair
        ∧ ∃ before setter after participantId target, [connection] = before ++ setter :: after
          ∧ setter.edit = .setPassthrough participantId target
          ∧ (room.editAll (earlier ++ [⟨0, [], .createSubRoom⟩] ++ before)).passthrough
            ≠ some pair) := by
  intro pair connection earlier room
  have hnew : room.NewSubRooms := .inr ⟨false, rfl⟩
  have hactive : (room.editAll (earlier ++ [⟨0, [], .createSubRoom⟩] ++ [connection])).passthrough
      = some pair := by decide +kernel
  refine ⟨by decide +kernel, hactive, ?_⟩
  obtain ⟨before, setter, after, participantId, target, hlater, hedit, hbefore, -⟩ :=
    (passthrough_pairs_valid room hnew).2.2.2 earlier ⟨0, [], .createSubRoom⟩ [connection] "room-2"
      pair (by decide +kernel) (by decide +kernel) hactive (.inr rfl)
  exact ⟨before, setter, after, participantId, target, hlater, hedit, hbefore⟩

end Wavis
