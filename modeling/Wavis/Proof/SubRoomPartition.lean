import Wavis.Proof.SubRooms

/-! A participant's sub-room is stored twice, in the assignment and in the list of the room. The
sync of an assigned participant would put it into ROOM 1 and leave it on the list of its old room.
-/

namespace Wavis

open SubRoomInfo List

/-- An edit with the time at which it is made and the peers that are in the room then. -/
structure TimedEdit where
  now : Instant
  peers : List PeerId
  edit : InfoEdit

def TimedEdit.isCreate (event : TimedEdit) : Bool :=
  match event.edit with
  | .createSubRoom => true
  | _ => false

namespace RoomInfo

def edited (info : RoomInfo) (event : TimedEdit) : RoomInfo :=
  event.edit.apply event.now event.peers info

def editAll (info : RoomInfo) (events : List TimedEdit) : RoomInfo := events.foldl edited info

def assignment (info : RoomInfo) (participantId : PeerId) : Option String :=
  info.subRoomState.bind fun state => state.participantAssignments.lookup participantId

/-- The syncs at voice joins are for participants that are not assigned at that time. -/
def SyncsUnassigned (info : RoomInfo) : List TimedEdit → Prop
  | [] => True
  | event :: events =>
    (∀ participantId supportsSubRooms,
      event.edit = .syncSubRooms participantId supportsSubRooms →
        info.assignment participantId = none)
      ∧ (info.edited event).SyncsUnassigned events

end RoomInfo

/-- What the sub-rooms of a room are to their participants. -/
structure SubRoomState.Partitions (state : SubRoomState) : Prop where
  oneDefault : (state.rooms.filter (·.isDefault)).map
    (fun room => (room.subRoomId, room.roomNumber)) = [(defaultSubRoomId, 1)]
  ids : (state.rooms.map (·.subRoomId)).Nodup
  numbers : (state.rooms.map (·.roomNumber)).Nodup
  listed : ∀ room ∈ state.rooms, ∀ participantId, participantId ∈ room.participantIds
    ↔ state.participantAssignments.lookup participantId = some room.subRoomId
  once : ∀ room ∈ state.rooms, room.participantIds.Nodup
  apart : ∀ room ∈ state.rooms, ∀ room' ∈ state.rooms, ∀ participantId,
    participantId ∈ room.participantIds → participantId ∈ room'.participantIds → room = room'
  placed : ∀ participantId subRoomId,
    state.participantAssignments.lookup participantId = some subRoomId →
      ∃ room ∈ state.rooms, room.subRoomId = subRoomId

theorem SubRoomState.Sound.partitions {state : SubRoomState} (h : state.Sound)
    (hseating : Seating state.rooms state.seat) : state.Partitions where
  oneDefault := by
    have hids : (state.rooms.filter (·.isDefault)).map
          (fun room => (room.subRoomId, room.roomNumber))
        = ((state.rooms.filter (·.isDefault)).map (·.roomNumber)).map
          fun n => (s!"room-{n}", n) := by
      rw [map_map]
      refine map_congr_left fun room hroom => ?_
      rw [h.catalogue.named room (mem_filter.mp hroom).1]
      rfl
    rw [hids, h.catalogue.roomOne]
    rfl
  ids := h.catalogue.ids
  numbers := h.catalogue.numbers
  listed := hseating.listed
  once := hseating.once
  apart := by
    intro room hroom room' hroom' peerId hmem hmem'
    rw [hseating.listed room hroom] at hmem
    rw [hseating.listed room' hroom', hmem, Option.some.injEq] at hmem'
    exact h.catalogue.eq_of_subRoomId hroom hroom' hmem'
  placed := fun peerId subRoomId hseat =>
    mem_map.mp (hseating.placed peerId subRoomId hseat)

namespace SubRoomTurn

variable {now : Instant} {before after : SubRoomState} {edit : InfoEdit}
  {expiry : Option PendingSubRoomExpiry}

theorem room_old_or_next (hturn : SubRoomTurn now before edit expiry after) :
    ∀ room ∈ after.rooms,
      (∃ old ∈ before.rooms, old.subRoomId = room.subRoomId ∧ old.roomNumber = room.roomNumber)
        ∨ edit = .createSubRoom ∧ room = before.nextRoom now := by
  have hkept : after.rooms ⊆ before.rooms → ∀ room ∈ after.rooms, ∃ old ∈ before.rooms,
      old.subRoomId = room.subRoomId ∧ old.roomNumber = room.roomNumber :=
    fun hsubset room hroom => ⟨room, hsubset hroom, rfl, rfl⟩
  have hchanged : ∀ {change}, Keeps change → after.rooms = before.rooms.map change →
      ∀ room ∈ after.rooms, ∃ old ∈ before.rooms,
        old.subRoomId = room.subRoomId ∧ old.roomNumber = room.roomNumber := by
    intro change hkeeps hrooms room hroom
    rw [hrooms] at hroom
    obtain ⟨old, hold, rfl⟩ := mem_map.mp hroom
    exact ⟨old, hold, (hkeeps.id old).symm, (hkeeps.number old).symm⟩
  cases hturn with
  | idle rooms => exact fun room hroom => .inl (hkept (rooms ▸ .refl _) room hroom)
  | create rooms =>
    intro room hroom
    rw [rooms] at hroom
    rcases mem_append.mp hroom with hold | hlast
    · exact .inl ⟨room, hold, rfl, rfl⟩
    · exact .inr ⟨rfl, mem_singleton.mp hlast⟩
  | forget peerId rooms =>
    exact fun room hroom => .inl (hchanged (keeps_strike peerId) rooms room hroom)
  | enter peerId subRoomId _ _ rooms =>
    exact fun room hroom => .inl (hchanged (keeps_enter peerId subRoomId) rooms room hroom)
  | leave peerId subRoomId _ rooms =>
    exact fun room hroom => .inl (hchanged (keeps_release peerId subRoomId now) rooms room hroom)
  | move peerId old subRoomId _ _ _ rooms =>
    rw [map_map] at rooms
    have hkeeps := (keeps_release peerId old now).comp (keeps_enter peerId subRoomId)
    exact fun room hroom => .inl (hchanged hkeeps rooms room hroom)
  | connect peerId target subRoomId link _ _ _ _ _ rooms
  | disconnect peerId subRoomId old _ _ _ rooms =>
    exact fun room hroom => .inl (hkept (rooms ▸ .refl _) room hroom)
  | expire room deadline _ _ _ _ rooms =>
    exact fun room hroom => .inl (hkept (rooms ▸ filter_sublist.subset) room hroom)

end SubRoomTurn

variable {bound : Nat}

theorem SubRoomState.nextRoom_roomNumber_le {state : SubRoomState} (now : Instant)
    (h : ∀ room ∈ state.rooms, room.roomNumber ≤ bound) :
    (state.nextRoom now).roomNumber ≤ bound + 1 := by
  have hfold : ∀ (numbers : List Nat) (start : Nat), start ≤ bound → (∀ n ∈ numbers, n ≤ bound) →
      numbers.foldl max start ≤ bound := by
    intro numbers
    induction numbers with
    | nil => exact fun start hstart _ => hstart
    | cons n rest ih =>
      intro start hstart hall
      exact ih (max start n) (max_le hstart (hall n mem_cons_self)) fun n' hmem =>
        hall n' (mem_cons_of_mem n hmem)
  refine Nat.succ_le_succ (hfold _ 0 (Nat.zero_le bound) fun n hmem => ?_)
  obtain ⟨room, hroom, rfl⟩ := mem_map.mp hmem
  exact h room hroom

namespace RoomInfo

variable {info : RoomInfo}

theorem assignment_eq (info : RoomInfo) : info.assignment = info.ensureRoomSubRooms.seat := by
  funext peerId
  unfold assignment ensureRoomSubRooms
  cases info.subRoomState with
  | none | some state => rfl

theorem turn_edited (h : info.ensureRoomSubRooms.Sound) (event : TimedEdit) :
    SubRoomTurn event.now info.ensureRoomSubRooms event.edit (event.edit.expiry event.now info)
      (info.edited event).ensureRoomSubRooms :=
  InfoEdit.ensured_turn h event.edit event.now event.peers

theorem sound_editAll (h : info.ensureRoomSubRooms.Sound) (events : List TimedEdit) :
    (info.editAll events).ensureRoomSubRooms.Sound := by
  induction events generalizing info with
  | nil => exact h
  | cons event events ih => exact ih ((turn_edited h event).sound h)

theorem Seated.edited (h : info.Seated) {event : TimedEdit}
    (hsync : ∀ peerId supportsSubRooms,
      event.edit = .syncSubRooms peerId supportsSubRooms →
        info.assignment peerId = none) : (info.edited event).Seated := by
  rw [assignment_eq] at hsync
  exact h.apply event.now event.peers hsync

theorem roomNumber_edited_le (h : info.ensureRoomSubRooms.Sound) (event : TimedEdit)
    (hbound : ∀ room ∈ info.ensureRoomSubRooms.rooms, room.roomNumber ≤ bound) :
    ∀ room ∈ (info.edited event).ensureRoomSubRooms.rooms,
      room.roomNumber ≤ bound + [event].countP TimedEdit.isCreate := by
  intro room hroom
  rcases (turn_edited h event).room_old_or_next room hroom with
    ⟨old, hold, -, hnumber⟩ | ⟨hedit, rfl⟩
  · rw [← hnumber]
    exact (hbound old hold).trans (Nat.le_add_right _ _)
  · have hcreate : [event].countP TimedEdit.isCreate = 1 := by
      simp [TimedEdit.isCreate, hedit]
    rw [hcreate]
    exact SubRoomState.nextRoom_roomNumber_le event.now hbound

theorem roomNumber_editAll_le (h : info.ensureRoomSubRooms.Sound) (events : List TimedEdit)
    (hbound : ∀ room ∈ info.ensureRoomSubRooms.rooms, room.roomNumber ≤ bound) :
    ∀ room ∈ (info.editAll events).ensureRoomSubRooms.rooms,
      room.roomNumber ≤ bound + events.countP TimedEdit.isCreate := by
  induction events generalizing info bound with
  | nil => exact hbound
  | cons event events ih =>
    rw [← singleton_append, countP_append, ← Nat.add_assoc]
    exact ih ((turn_edited h event).sound h) (roomNumber_edited_le h event hbound)

theorem NewSubRooms.roomNumber_le (h : info.NewSubRooms) (events : List TimedEdit) :
    ∀ room ∈ (info.editAll events).ensureRoomSubRooms.rooms,
      room.roomNumber ≤ 1 + events.countP TimedEdit.isCreate := by
  refine roomNumber_editAll_le h.sound events fun room hroom => ?_
  rw [h.rooms, mem_singleton] at hroom
  rw [hroom]
  exact Nat.le_refl 1

/-- What holds of the sub-rooms is kept by every sequence of edits. -/
theorem Seated.editAll {events : List TimedEdit} (h : info.Seated)
    (hsync : info.SyncsUnassigned events) :
    (info.editAll events).Seated ∧ (info.subRoomState.isSome = true →
      (info.editAll events).subRoomState.isSome = true) := by
  induction events generalizing info with
  | nil => exact ⟨h, id⟩
  | cons event events ih =>
    obtain ⟨hevent, hrest⟩ := hsync
    obtain ⟨hseated, hsome⟩ := ih (h.edited hevent) hrest
    refine ⟨hseated, fun hfirst => hsome ?_⟩
    exact InfoEdit.apply_subRoomState_isSome h.sound event.edit event.now event.peers hfirst

end RoomInfo

/-- **Sub-rooms partition the assigned participants.** After any edits of a room whose sub-rooms are
new, with syncs at voice joins for unassigned participants only, the sub-rooms that exist are a
partition with ROOM 1 in it, and they do not cease to exist. The numbers given out stay within the
number of creations. -/
theorem sub_rooms_partition (first : RoomInfo) (hfirst : first.NewSubRooms)
    (events : List TimedEdit) (hsync : first.SyncsUnassigned events) :
    (∀ subRooms, (first.editAll events).subRoomState = some subRooms → subRooms.Partitions
      ∧ ∀ room ∈ subRooms.rooms, room.roomNumber ≤ 1 + events.countP TimedEdit.isCreate)
      ∧ (first.subRoomState.isSome = true →
        (first.editAll events).subRoomState.isSome = true) := by
  have hbound := hfirst.roomNumber_le events
  obtain ⟨hseated, hsome⟩ := hfirst.seated.editAll hsync
  refine ⟨fun subRooms hsubRooms => ?_, hsome⟩
  obtain ⟨hsound, hseating⟩ := hseated
  rw [RoomInfo.ensureRoomSubRooms_of_some hsubRooms] at hsound hseating hbound
  exact ⟨hsound.partitions hseating, hbound⟩

/-- A legacy client is put into ROOM 1, another participant creates a room and joins it. -/
theorem sub_rooms_partition_two :
    let events : List TimedEdit := [⟨0, [], .syncSubRooms "peer-1" false⟩, ⟨0, [], .createSubRoom⟩,
      ⟨0, [], .joinSubRoom "room-2" "peer-2"⟩]
    let rooms := ((RoomInfo.newSfu 6 "sfu").editAll events).ensureRoomSubRooms
    rooms.rooms.map (fun room => (room.subRoomId, room.participantIds))
        = [("room-1", ["peer-1"]), ("room-2", ["peer-2"])]
      ∧ rooms.Partitions := by
  intro events rooms
  refine ⟨by decide +kernel, ?_⟩
  have hpartition := sub_rooms_partition (.newSfu 6 "sfu") (.inl rfl) events
    ⟨fun _ _ _ => rfl, nofun, nofun, trivial⟩
  exact (hpartition.1 rooms rfl).1

end Wavis
