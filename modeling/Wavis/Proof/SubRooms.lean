import Wavis.Proof.Connections
import Wavis.Proof.RoomEdit

/-! `SubRoomTurn` says once what an edit can do to the sub-rooms, the assignment and the passthrough
pair, and which timer it asks for; what holds over time is derived from it. -/

namespace Wavis

open SubRoomState Function SubRoomInfo List

/-- Changing the first element with a key is changing all of them, if keys do not repeat. -/
theorem updateFirst_eq_map {α : Type} {key : α → String} {k : String} {change : α → α}
    {items : List α} (h : (items.map key).Nodup) :
    updateFirst (fun item => decide (key item = k)) change items
      = items.map fun item => if key item = k then change item else item := by
  induction items with
  | nil => rfl
  | cons item rest ih =>
    rw [map_cons, nodup_cons] at h
    unfold updateFirst
    split_ifs with hkey
    · have hkey' : key item = k := by simpa using hkey
      have hrest : rest.map (fun item => if key item = k then change item else item) = rest := by
        refine (map_congr_left fun other hother => ?_).trans (map_id rest)
        refine if_neg fun heq => h.1 ?_
        rw [hkey', ← heq]
        exact mem_map_of_mem hother
      rw [map_cons, if_pos hkey', hrest]
    · have hkey' : key item ≠ k := by simpa using hkey
      rw [map_cons, if_neg hkey', ih h.2]

theorem lt_foldl_max {n : Nat} {numbers : List Nat} (h : n ∈ numbers) :
    n < numbers.foldl max 0 + 1 := by
  have hbound : ∀ (numbers : List Nat) (start : Nat), start ≤ numbers.foldl max start
      ∧ ∀ n ∈ numbers, n ≤ numbers.foldl max start := by
    intro numbers
    induction numbers with
    | nil => simp
    | cons first rest ih =>
      intro start
      obtain ⟨hstart, hrest⟩ := ih (max start first)
      refine ⟨(le_max_left start first).trans hstart, fun n hmem => ?_⟩
      rcases mem_cons.mp hmem with rfl | hmem
      · exact (le_max_right start n).trans hstart
      · exact hrest n hmem
  exact Nat.lt_succ_of_le ((hbound numbers 0).2 n h)

theorem RoomInfo.ensureRoomSubRooms_of_some {info : RoomInfo} {state : SubRoomState}
    (h : info.subRoomState = some state) : info.ensureRoomSubRooms = state := by
  simp [ensureRoomSubRooms, h]

/-- Sub-rooms have distinct numbers and are named by them. One of them is the default, ROOM 1. -/
structure Catalogue (rooms : List SubRoomInfo) : Prop where
  named : ∀ room ∈ rooms, room.subRoomId = s!"room-{room.roomNumber}"
  numbers : (rooms.map (·.roomNumber)).Nodup
  roomOne : (rooms.filter (·.isDefault)).map (·.roomNumber) = [1]

/-- The pair names two of the rooms, the one with the smaller number first. -/
def Linked (rooms : List SubRoomInfo) (pair : PassthroughPair) : Prop :=
  ∃ source ∈ rooms, ∃ target ∈ rooms, source.subRoomId = pair.sourceSubRoomId
    ∧ target.subRoomId = pair.targetSubRoomId ∧ source.roomNumber < target.roomNumber

def PassthroughPair.Names (pair : PassthroughPair) (subRoomId : String) : Prop :=
  pair.sourceSubRoomId = subRoomId ∨ pair.targetSubRoomId = subRoomId

instance (pair : PassthroughPair) (subRoomId : String) :
    Decidable (pair.Names subRoomId) := inferInstanceAs (Decidable (_ ∨ _))

/-- The change is to the list of a room or to its timer. -/
structure Keeps (change : SubRoomInfo → SubRoomInfo) : Prop where
  id : ∀ room, (change room).subRoomId = room.subRoomId
  number : ∀ room, (change room).roomNumber = room.roomNumber
  isDefault : ∀ room, (change room).isDefault = room.isDefault

variable {change : SubRoomInfo → SubRoomInfo} {room : SubRoomInfo} {pair : PassthroughPair}
  {subRoomId peerId : String} {state : SubRoomState} {info : RoomInfo}

theorem Keeps.only (h : Keeps change) (subRoomId : String) :
    Keeps fun room => if room.subRoomId = subRoomId then change room else room := by
  refine ⟨fun room => ?_, fun room => ?_, fun room => ?_⟩ <;> split_ifs
  · exact h.id room
  · rfl
  · exact h.number room
  · rfl
  · exact h.isDefault room
  · rfl

theorem Keeps.comp {next : SubRoomInfo → SubRoomInfo} (h : Keeps change) (hnext : Keeps next) :
    Keeps (next ∘ change) where
  id room := (hnext.id _).trans (h.id room)
  number room := (hnext.number _).trans (h.number room)
  isDefault room := (hnext.isDefault _).trans (h.isDefault room)

namespace Linked

variable {rooms : List SubRoomInfo}

theorem map (h : Linked rooms pair) (hkeeps : Keeps change) :
    Linked (rooms.map change) pair := by
  obtain ⟨source, hsource, target, htarget, hids⟩ := h
  refine ⟨change source, mem_map_of_mem hsource, change target,
    mem_map_of_mem htarget, ?_⟩
  rw [hkeeps.id, hkeeps.id, hkeeps.number, hkeeps.number]
  exact hids

theorem subset (h : Linked rooms pair) {rooms' : List SubRoomInfo} (hsubset : rooms ⊆ rooms') :
    Linked rooms' pair := by
  obtain ⟨source, hsource, target, htarget, hids⟩ := h
  exact ⟨source, hsubset hsource, target, hsubset htarget, hids⟩

theorem erase (h : Linked rooms pair) (hnames : ¬ pair.Names subRoomId) :
    Linked (rooms.filter (·.subRoomId ≠ subRoomId)) pair := by
  obtain ⟨source, hsource, target, htarget, hid, hid', hlt⟩ := h
  unfold PassthroughPair.Names at hnames
  rw [← hid, ← hid', not_or] at hnames
  exact ⟨source, mem_filter.mpr ⟨hsource, by simpa using hnames.1⟩, target,
    mem_filter.mpr ⟨htarget, by simpa using hnames.2⟩, hid, hid', hlt⟩

end Linked

namespace Catalogue

variable {rooms : List SubRoomInfo} {room' : SubRoomInfo}

section

variable (h : Catalogue rooms)
include h

theorem roomNumber_inj (hroom : room ∈ rooms) (hroom' : room' ∈ rooms)
    (hid : room.subRoomId = room'.subRoomId) : room.roomNumber = room'.roomNumber := by
  rw [h.named room hroom, h.named room' hroom'] at hid
  exact numbered_injective hid

theorem eq_of_subRoomId (hroom : room ∈ rooms) (hroom' : room' ∈ rooms)
    (hid : room.subRoomId = room'.subRoomId) : room = room' :=
  inj_on_of_nodup_map h.numbers hroom hroom' (h.roomNumber_inj hroom hroom' hid)

theorem ids : (rooms.map (·.subRoomId)).Nodup := by
  refine (nodup_map_iff_inj_on h.numbers.of_map).mpr ?_
  intro room hroom room' hroom' hid
  exact h.eq_of_subRoomId hroom hroom' hid

theorem map (hkeeps : Keeps change) : Catalogue (rooms.map change) where
  named := by
    intro room hroom
    obtain ⟨old, hold, rfl⟩ := mem_map.mp hroom
    rw [hkeeps.id, hkeeps.number]
    exact h.named old hold
  numbers := by
    have hsame : (rooms.map change).map (·.roomNumber) = rooms.map (·.roomNumber) := by
      rw [map_map]
      exact map_congr_left fun room _ => hkeeps.number room
    rw [hsame]
    exact h.numbers
  roomOne := by
    have htest : (·.isDefault) ∘ change = (·.isDefault) := funext hkeeps.isDefault
    have hread : (·.roomNumber) ∘ change = (·.roomNumber) := funext hkeeps.number
    rw [filter_map, map_map, htest, hread]
    exact h.roomOne

theorem concat (hname : room.subRoomId = s!"room-{room.roomNumber}")
    (hnew : ∀ old ∈ rooms, old.roomNumber < room.roomNumber) (hdefault : room.isDefault = false) :
    Catalogue (rooms ++ [room]) where
  named := by
    intro other hother
    rcases mem_append.mp hother with hold | hlast
    · exact h.named other hold
    · rw [mem_singleton.mp hlast]
      exact hname
  numbers := by
    rw [map_append, map_singleton]
    refine h.numbers.append (nodup_singleton _) ?_
    rw [disjoint_singleton]
    intro hmem
    obtain ⟨old, hold, heq⟩ := mem_map.mp hmem
    exact Nat.ne_of_lt (hnew old hold) heq
  roomOne := by
    rw [filter_append, filter_singleton, hdefault]
    simpa using h.roomOne

theorem erase (hdefault : ∀ room ∈ rooms, room.subRoomId = subRoomId → room.isDefault = false) :
    Catalogue (rooms.filter (·.subRoomId ≠ subRoomId)) where
  named := fun room hroom => h.named room (mem_filter.mp hroom).1
  numbers := h.numbers.sublist (filter_sublist.map _)
  roomOne := by
    have hkept : (rooms.filter (·.subRoomId ≠ subRoomId)).filter (·.isDefault)
        = rooms.filter (·.isDefault) := by
      rw [filter_filter]
      refine filter_congr fun room hroom => ?_
      by_cases hid : room.subRoomId = subRoomId
      · simp [hdefault room hroom hid]
      · simp [hid]
    rw [hkept]
    exact h.roomOne

theorem linked_ne (hlinked : Linked rooms pair) : pair.sourceSubRoomId ≠ pair.targetSubRoomId := by
  obtain ⟨source, hsource, target, htarget, hid, hid', hlt⟩ := hlinked
  rw [← hid, ← hid']
  exact fun heq => Nat.ne_of_lt hlt (h.roomNumber_inj hsource htarget heq)

end

end Catalogue

theorem eraseP_eq_filter {rooms : List SubRoomInfo} (h : (rooms.map (·.subRoomId)).Nodup)
    (subRoomId : String) :
    rooms.eraseP (fun room => decide (room.subRoomId = subRoomId))
      = rooms.filter (·.subRoomId ≠ subRoomId) := by
  induction rooms with
  | nil => rfl
  | cons room rest ih =>
    rw [map_cons, nodup_cons] at h
    by_cases hid : room.subRoomId = subRoomId
    · have hrest : rest.filter (·.subRoomId ≠ subRoomId) = rest := by
        refine filter_eq_self.mpr fun other hother => ?_
        have hne : other.subRoomId ≠ subRoomId := by
          rintro rfl
          exact h.1 (hid ▸ mem_map_of_mem hother)
        simpa using hne
      rw [eraseP_cons_of_pos (by simpa using hid),
        filter_cons_of_neg (by simpa using hid), hrest]
    · rw [eraseP_cons_of_neg (by simpa using hid),
        filter_cons_of_pos (by simpa using hid), ih h.2]

namespace SubRoomInfo

variable (participantId subRoomId : String) (now : Instant) (room : SubRoomInfo)

def vacate : SubRoomInfo :=
  let participantIds := room.participantIds.filter (· ≠ participantId)
  { room with
    participantIds
    deleteAt :=
      if room.isDefault || !participantIds.isEmpty then none else some (now + subRoomDeleteAfter) }

def strike : SubRoomInfo :=
  { room with participantIds := room.participantIds.filter (· ≠ participantId) }

def enter : SubRoomInfo :=
  if room.subRoomId = subRoomId then room.addParticipant participantId else room

def release : SubRoomInfo :=
  if room.subRoomId = subRoomId then room.vacate participantId now else room

theorem keeps_strike : Keeps (·.strike participantId) :=
  ⟨fun _ => rfl, fun _ => rfl, fun _ => rfl⟩

theorem keeps_enter : Keeps (·.enter participantId subRoomId) := by
  have hadded : Keeps (addParticipant participantId) := ⟨fun _ => rfl, fun _ => rfl, fun _ => rfl⟩
  exact hadded.only subRoomId

theorem keeps_release : Keeps (·.release participantId subRoomId now) := by
  have hvacated : Keeps (·.vacate participantId now) :=
    ⟨fun _ => rfl, fun _ => rfl, fun _ => rfl⟩
  exact hvacated.only subRoomId

end SubRoomInfo

/-- The lists of the rooms are those of the seating, and everyone sits in one of the rooms. -/
structure Seating (rooms : List SubRoomInfo) (seat : PeerId → Option String) : Prop where
  listed : ∀ room ∈ rooms, ∀ participantId,
    participantId ∈ room.participantIds ↔ seat participantId = some room.subRoomId
  once : ∀ room ∈ rooms, room.participantIds.Nodup
  placed : ∀ participantId subRoomId, seat participantId = some subRoomId →
    subRoomId ∈ rooms.map (·.subRoomId)

namespace Seating

variable {rooms : List SubRoomInfo} {seat : PeerId → Option String}

section

variable (h : Seating rooms seat)
include h

theorem reseat {place : Option String} (hkeeps : Keeps change)
    (hothers : ∀ room ∈ rooms, ∀ other, other ≠ peerId →
      (other ∈ (change room).participantIds ↔ other ∈ room.participantIds))
    (hself : ∀ room ∈ rooms,
      peerId ∈ (change room).participantIds ↔ place = some room.subRoomId)
    (honce : ∀ room ∈ rooms, (change room).participantIds.Nodup)
    (hplace : ∀ subRoomId, place = some subRoomId → subRoomId ∈ rooms.map (·.subRoomId)) :
    Seating (rooms.map change) (update seat peerId place) where
  listed := by
    intro room hroom other
    obtain ⟨old, hold, rfl⟩ := mem_map.mp hroom
    rw [hkeeps.id]
    by_cases hother : other = peerId
    · rw [hother, update_self]
      exact hself old hold
    · rw [hothers old hold other hother, update_of_ne hother]
      exact h.listed old hold other
  once := by
    intro room hroom
    obtain ⟨old, hold, rfl⟩ := mem_map.mp hroom
    exact honce old hold
  placed := by
    have hids : (rooms.map change).map (·.subRoomId) = rooms.map (·.subRoomId) := by
      rw [map_map]
      exact map_congr_left fun room _ => hkeeps.id room
    intro other subRoomId hseat
    rw [hids]
    by_cases hother : other = peerId
    · rw [hother, update_self] at hseat
      exact hplace subRoomId hseat
    · rw [update_of_ne hother] at hseat
      exact h.placed other subRoomId hseat

theorem enter (hfree : seat peerId = none) (hroom : subRoomId ∈ rooms.map (·.subRoomId)) :
    Seating (rooms.map (·.enter peerId subRoomId))
      (update seat peerId (some subRoomId)) := by
  have habsent : ∀ room ∈ rooms, peerId ∉ room.participantIds := by
    intro room hmem
    rw [h.listed room hmem peerId, hfree]
    exact nofun
  have hlist : ∀ room ∈ rooms, (room.enter peerId subRoomId).participantIds
      = if room.subRoomId = subRoomId then room.participantIds ++ [peerId]
        else room.participantIds := by
    intro room hmem
    unfold SubRoomInfo.enter
    split_ifs
    · exact if_neg (habsent room hmem)
    · rfl
  refine h.reseat (keeps_enter peerId subRoomId) ?_ ?_ ?_ ?_
  · intro room hmem other hother
    rw [hlist room hmem]
    split_ifs
    · simp [hother]
    · rfl
  · intro room hmem
    rw [hlist room hmem]
    split_ifs with hid
    · simp [hid]
    · simp [habsent room hmem, Ne.symm hid]
  · intro room hmem
    rw [hlist room hmem]
    split_ifs
    · refine (h.once room hmem).append (nodup_singleton _) ?_
      exact disjoint_singleton.mpr (habsent room hmem)
    · exact h.once room hmem
  · rintro _ ⟨⟩
    exact hroom

theorem release (now : Instant) (hseat : seat peerId = some subRoomId) :
    Seating (rooms.map (·.release peerId subRoomId now))
      (update seat peerId none) := by
  have hlist : ∀ room : SubRoomInfo, (room.release peerId subRoomId now).participantIds
      = if room.subRoomId = subRoomId then room.participantIds.filter (· ≠ peerId)
        else room.participantIds := by
    intro room
    unfold SubRoomInfo.release
    split_ifs <;> rfl
  refine h.reseat (keeps_release peerId subRoomId now) ?_ ?_ ?_ ?_
  · intro room _ other hother
    rw [hlist]
    split_ifs <;> simp [hother]
  · intro room hmem
    rw [hlist]
    split_ifs with hid
    · simp
    · have hother := h.listed room hmem peerId
      rw [hseat, Option.some.injEq] at hother
      simp [hother, Ne.symm hid]
  · intro room hmem
    rw [hlist]
    split_ifs
    · exact (h.once room hmem).filter _
    · exact h.once room hmem
  · exact nofun

theorem strike :
    Seating (rooms.map (·.strike peerId)) (update seat peerId none) := by
  refine h.reseat (keeps_strike peerId) ?_ ?_ ?_ ?_
  · intro room _ other hother
    simp [SubRoomInfo.strike, hother]
  · intro room _
    simp [SubRoomInfo.strike]
  · exact fun room hmem => (h.once room hmem).filter _
  · exact nofun

theorem concat (hempty : room.participantIds = [])
    (hnew : room.subRoomId ∉ rooms.map (·.subRoomId)) : Seating (rooms ++ [room]) seat where
  listed := by
    intro other hother peerId
    rcases mem_append.mp hother with hold | hlast
    · exact h.listed other hold peerId
    · rw [mem_singleton.mp hlast, hempty]
      refine ⟨fun hmem => absurd hmem not_mem_nil, fun hseat => ?_⟩
      exact absurd (h.placed peerId _ hseat) hnew
  once := by
    intro other hother
    rcases mem_append.mp hother with hold | hlast
    · exact h.once other hold
    · rw [mem_singleton.mp hlast, hempty]
      exact nodup_nil
  placed := by
    intro peerId subRoomId hseat
    rw [map_append]
    exact mem_append_left _ (h.placed peerId subRoomId hseat)

theorem erase (hroom : room ∈ rooms) (hempty : room.participantIds = []) :
    Seating (rooms.filter (·.subRoomId ≠ room.subRoomId)) seat where
  listed := fun other hother => h.listed other (mem_filter.mp hother).1
  once := fun other hother => h.once other (mem_filter.mp hother).1
  placed := by
    intro peerId subRoomId hseat
    have hne : subRoomId ≠ room.subRoomId := by
      rintro rfl
      have hlisted := (h.listed room hroom peerId).mpr hseat
      rw [hempty] at hlisted
      exact absurd hlisted not_mem_nil
    obtain ⟨other, hother, rfl⟩ := mem_map.mp (h.placed peerId subRoomId hseat)
    exact mem_map_of_mem (mem_filter.mpr ⟨hother, by simpa using hne⟩)

end

end Seating

def InfoEdit.seats : InfoEdit → Option PeerId
  | joinSubRoom _ participantId => some participantId
  | syncSubRooms participantId _ => some participantId
  | _ => none

def InfoEdit.expiry (now : Instant) (info : RoomInfo) : InfoEdit → Option PendingSubRoomExpiry
  | .createSubRoom => (info.createSubRoom now).1.expiry
  | .joinSubRoom subRoomId participantId =>
    match (info.joinSubRoom subRoomId participantId now).1 with
    | .ok change => change.expiry
    | .error _ => none
  | .leaveSubRoom participantId => (info.leaveSubRoom participantId now).1.expiry
  | _ => none

namespace SubRoomState

def seat (state : SubRoomState) (participantId : PeerId) : Option String :=
  state.participantAssignments.lookup participantId

def nextRoom (state : SubRoomState) (now : Instant) : SubRoomInfo :=
  let roomNumber := (state.rooms.map (·.roomNumber)).foldl max 0 + 1
  { subRoomId := s!"room-{roomNumber}"
    roomNumber
    isDefault := false
    participantIds := []
    deleteAt := some (now + subRoomDeleteAfter) }

def vacancy (state : SubRoomState) (participantId subRoomId : String) (now : Instant) :
    Option PendingSubRoomExpiry :=
  ((state.find subRoomId).bind fun room => (room.vacate participantId now).deleteAt).map
    fun deleteAt => ⟨subRoomId, deleteAt⟩

/-- The rooms are in order, and the passthrough connects two of them. -/
structure Sound (state : SubRoomState) : Prop where
  catalogue : Catalogue state.rooms
  linked : ∀ pair, state.activePassthrough = some pair → Linked state.rooms pair

end SubRoomState

/-- What an edit can do to the sub-rooms, and the timer it asks for. -/
inductive SubRoomTurn (now : Instant) (before : SubRoomState) :
    InfoEdit → Option PendingSubRoomExpiry → SubRoomState → Prop
  | idle {edit after} (rooms : after.rooms = before.rooms) (seat : after.seat = before.seat)
      (pair : after.activePassthrough = before.activePassthrough) :
      SubRoomTurn now before edit none after
  | create {after} (rooms : after.rooms = before.rooms ++ [before.nextRoom now])
      (seat : after.seat = before.seat)
      (pair : after.activePassthrough = before.activePassthrough) :
      SubRoomTurn now before .createSubRoom
        (some ⟨(before.nextRoom now).subRoomId, now + subRoomDeleteAfter⟩) after
  | forget {after} (participantId : String)
      (rooms : after.rooms = before.rooms.map (·.strike participantId))
      (seat : after.seat = Function.update before.seat participantId none)
      (pair : after.activePassthrough = before.activePassthrough) :
      SubRoomTurn now before (.syncSubRooms participantId true) none after
  | enter {edit after} (participantId subRoomId : String)
      (free : before.seat participantId = none ∨ edit = .syncSubRooms participantId false)
      (room : subRoomId ∈ before.rooms.map (·.subRoomId))
      (rooms : after.rooms = before.rooms.map (·.enter participantId subRoomId))
      (seat : after.seat = Function.update before.seat participantId (some subRoomId))
      (pair : after.activePassthrough = before.activePassthrough)
      (seats : edit.seats = some participantId) :
      SubRoomTurn now before edit none after
  | leave {edit after} (participantId subRoomId : String)
      (seated : before.seat participantId = some subRoomId)
      (rooms : after.rooms = before.rooms.map (·.release participantId subRoomId now))
      (seat : after.seat = Function.update before.seat participantId none)
      (pair : after.activePassthrough = before.activePassthrough) :
      SubRoomTurn now before edit (before.vacancy participantId subRoomId now) after
  | move {edit after} (participantId old subRoomId : String)
      (seated : before.seat participantId = some old) (ne : old ≠ subRoomId)
      (room : subRoomId ∈ before.rooms.map (·.subRoomId))
      (rooms : after.rooms = (before.rooms.map (·.release participantId old now)).map
        (·.enter participantId subRoomId))
      (seat : after.seat = Function.update before.seat participantId (some subRoomId))
      (pair : after.activePassthrough = before.activePassthrough)
      (seats : edit.seats = some participantId) :
      SubRoomTurn now before edit (before.vacancy participantId old now) after
  | connect {after} (participantId target subRoomId : String) (link : PassthroughPair)
      (enabled : before.passthroughEnabled = true)
      (seated : before.seat participantId = some subRoomId)
      (involved : ∀ old, before.activePassthrough = some old → old.Names subRoomId)
      (named : link.Names subRoomId) (linked : Linked before.rooms link)
      (rooms : after.rooms = before.rooms) (seat : after.seat = before.seat)
      (pair : after.activePassthrough = some link) :
      SubRoomTurn now before (.setPassthrough participantId target) none after
  | disconnect {after} (participantId subRoomId : String) (old : PassthroughPair)
      (seated : before.seat participantId = some subRoomId)
      (active : before.activePassthrough = some old) (involved : old.Names subRoomId)
      (rooms : after.rooms = before.rooms) (seat : after.seat = before.seat)
      (pair : after.activePassthrough = none) :
      SubRoomTurn now before (.clearPassthrough participantId) none after
  | expire {after} (room : SubRoomInfo) (deadline : Instant) (mem : room ∈ before.rooms)
      (notDefault : room.isDefault = false) (empty : room.participantIds = [])
      (due : room.deleteAt = some deadline)
      (rooms : after.rooms = before.rooms.filter (·.subRoomId ≠ room.subRoomId))
      (seat : after.seat = before.seat)
      (pair : after.activePassthrough
        = before.activePassthrough.filter fun pair => !decide (pair.Names room.subRoomId)) :
      SubRoomTurn now before (.expireSubRoom room.subRoomId deadline) none after

namespace SubRoomState

theorem mem_of_find (h : state.find subRoomId = some room) :
    room ∈ state.rooms ∧ room.subRoomId = subRoomId :=
  ⟨mem_of_find?_eq_some h, by simpa using find?_some h⟩

theorem find_of_mem (h : Catalogue state.rooms) (hroom : room ∈ state.rooms) :
    state.find room.subRoomId = some room := by
  cases hfind : state.find room.subRoomId with
  | none =>
    have hnone := find?_eq_none.mp hfind room hroom
    simp at hnone
  | some other =>
    obtain ⟨hmem, hid⟩ := mem_of_find hfind
    rw [h.eq_of_subRoomId hmem hroom hid]

/-- In working order nothing has to be repaired. -/
theorem Sound.clearInvalid (h : state.Sound) : state.clearInvalidPassthroughLocked = state := by
  unfold clearInvalidPassthroughLocked
  cases hpair : state.activePassthrough with
  | none => rfl
  | some pair =>
    have hlinked := h.linked pair hpair
    have hne := h.catalogue.linked_ne hlinked
    obtain ⟨source, hsource, target, htarget, hid, hid', -⟩ := hlinked
    dsimp only
    rw [← hid, ← hid'] at hne ⊢
    rw [find_of_mem h.catalogue hsource, find_of_mem h.catalogue htarget]
    simp [hne]

theorem rooms_updateRoom (h : Catalogue state.rooms) (change : SubRoomInfo → SubRoomInfo) :
    (state.updateRoom subRoomId change).rooms
      = state.rooms.map fun room => if room.subRoomId = subRoomId then change room else room :=
  updateFirst_eq_map h.ids

/-- What becomes of a room that a participant leaves: its list and its timer. -/
theorem leave_eq (h : Catalogue state.rooms) (peerId subRoomId : String) (now : Instant) :
    let left := (state.dropParticipant subRoomId peerId).scheduleEmptyRoomIfNeeded
      subRoomId now
    left.1 = state.vacancy peerId subRoomId now
      ∧ left.2 = { state with
        rooms := state.rooms.map (·.release peerId subRoomId now) } := by
  set dropped := state.dropParticipant subRoomId peerId with hdropped
  have hrooms : dropped.rooms = state.rooms.map fun room =>
      if room.subRoomId = subRoomId then room.strike peerId else room :=
    rooms_updateRoom h _
  have hcatalogue : Catalogue dropped.rooms := by
    rw [hrooms]
    exact h.map ((keeps_strike peerId).only subRoomId)
  intro left
  cases hfind : state.find subRoomId with
  | none =>
    -- No room has the id, so nobody leaves.
    have hother : ∀ room ∈ state.rooms, room.subRoomId ≠ subRoomId := by
      intro room hroom heq
      rw [← heq, find_of_mem h hroom] at hfind
      cases hfind
    have hnobody : ∀ change : SubRoomInfo → SubRoomInfo, (state.rooms.map fun room =>
        if room.subRoomId = subRoomId then change room else room) = state.rooms := fun change =>
      (map_congr_left fun room hroom => if_neg (hother room hroom)).trans (map_id _)
    have hsame : dropped.rooms = state.rooms := hrooms.trans (hnobody _)
    have hnone : dropped.find subRoomId = none := by
      rw [find, hsame]
      exact hfind
    have hleft : left = (none, dropped) := by
      simp only [left, scheduleEmptyRoomIfNeeded, hnone]
    rw [hleft]
    refine ⟨by simp [vacancy, hfind], ?_⟩
    have hreleased : state.rooms.map (·.release peerId subRoomId now) = dropped.rooms :=
      (hnobody _).trans hsame.symm
    rw [hreleased]
    rfl
  | some room =>
    obtain ⟨hroom, hid⟩ := mem_of_find hfind
    have hmem : room.strike peerId ∈ dropped.rooms := by
      rw [hrooms]
      exact mem_map.mpr ⟨room, hroom, if_pos hid⟩
    have hstruck : dropped.find subRoomId = some (room.strike peerId) := by
      rw [← hid]
      exact find_of_mem hcatalogue hmem
    -- The timer of the room is what the departure makes of it.
    have htimed : ∀ deleteAt, (room.vacate peerId now).deleteAt = deleteAt →
        dropped.updateRoom subRoomId (fun room => { room with deleteAt })
          = { state with rooms := state.rooms.map (·.release peerId subRoomId now) } := by
      intro deleteAt hdelete
      have hall : (dropped.updateRoom subRoomId fun room => { room with deleteAt }).rooms
          = state.rooms.map (·.release peerId subRoomId now) := by
        rw [rooms_updateRoom hcatalogue, hrooms, map_map]
        refine map_congr_left fun other hother => ?_
        by_cases hsame : other.subRoomId = subRoomId
        · have heq : other = room := h.eq_of_subRoomId hother hroom (hsame.trans hid.symm)
          subst heq
          simp [release, strike, vacate, hsame, ← hdelete]
        · simp [release, hsame]
      rw [← hall]
      rfl
    have hvacancy : state.vacancy peerId subRoomId now
        = (room.vacate peerId now).deleteAt.map fun deleteAt => ⟨subRoomId, deleteAt⟩ := by
      simp [vacancy, hfind]
    simp only [left, scheduleEmptyRoomIfNeeded, hstruck]
    split_ifs with hkept
    · have hnone : (room.vacate peerId now).deleteAt = none := if_pos hkept
      rw [hvacancy, hnone]
      exact ⟨rfl, htimed none hnone⟩
    · have hsome : (room.vacate peerId now).deleteAt = some (now + subRoomDeleteAfter) :=
        if_neg hkept
      rw [hvacancy, hsome]
      exact ⟨rfl, htimed _ hsome⟩

theorem normalize_linked (h : Catalogue state.rooms) {sourceId targetId : String}
    (hpair : state.normalizePassthroughPair sourceId targetId = .ok pair) :
    pair.Names sourceId ∧ Linked state.rooms pair := by
  unfold normalizePassthroughPair at hpair
  split_ifs at hpair with hsame
  cases hsource : state.find sourceId with
  | none =>
    rw [hsource] at hpair
    cases hpair
  | some source =>
    rw [hsource] at hpair
    cases htarget : state.find targetId with
    | none =>
      rw [htarget] at hpair
      cases hpair
    | some target =>
      rw [htarget] at hpair
      obtain ⟨hmem, hid⟩ := mem_of_find hsource
      obtain ⟨hmem', hid'⟩ := mem_of_find htarget
      have hne : source.roomNumber ≠ target.roomNumber := by
        intro heq
        have hroom : source = target := inj_on_of_nodup_map h.numbers hmem hmem' heq
        exact hsame (by rw [← hid, ← hid', hroom])
      dsimp only at hpair
      split_ifs at hpair with hle
      · cases hpair
        exact ⟨.inl hid, source, hmem, target, hmem', rfl, rfl, lt_of_le_of_ne hle hne⟩
      · cases hpair
        exact ⟨.inr hid, target, hmem', source, hmem, rfl, rfl, Nat.lt_of_not_le hle⟩

/-- The deletion of a room ends a passthrough that uses it. -/
theorem Sound.clearInvalid_erase (h : state.Sound) (hdefault : room.isDefault = false)
    (hroom : room ∈ state.rooms) :
    ({ state with rooms := state.rooms.filter (·.subRoomId ≠ room.subRoomId)
      } : SubRoomState).clearInvalidPassthroughLocked
      = { state with
        rooms := state.rooms.filter (·.subRoomId ≠ room.subRoomId)
        activePassthrough := state.activePassthrough.filter fun pair =>
          !decide (pair.Names room.subRoomId) } := by
  set reduced : SubRoomState :=
    { state with rooms := state.rooms.filter (·.subRoomId ≠ room.subRoomId) }
  have hcatalogue : Catalogue reduced.rooms := by
    refine h.catalogue.erase fun other hother hid => ?_
    rw [h.catalogue.eq_of_subRoomId hother hroom hid]
    exact hdefault
  have hgone : reduced.find room.subRoomId = none := by
    simp [find, reduced]
  cases hactive : state.activePassthrough with
  | none =>
    have hsound : reduced.Sound := ⟨hcatalogue, fun pair hpair => by
      rw [show reduced.activePassthrough = none from hactive] at hpair
      cases hpair⟩
    rw [hsound.clearInvalid]
    simp [reduced, hactive]
  | some pair =>
    by_cases hnames : pair.Names room.subRoomId
    · have hbroken : (reduced.find pair.sourceSubRoomId).isNone = true
          ∨ (reduced.find pair.targetSubRoomId).isNone = true := by
        rcases hnames with hsource | htarget
        · exact .inl (by rw [hsource, hgone]; rfl)
        · exact .inr (by rw [htarget, hgone]; rfl)
      unfold clearInvalidPassthroughLocked
      rw [show reduced.activePassthrough = some pair from hactive]
      dsimp only
      rw [if_pos (by rcases hbroken with hnone | hnone <;> simp [hnone]), Option.filter_some,
        if_neg (by simpa using hnames)]
    · have hsound : reduced.Sound := by
        refine ⟨hcatalogue, fun pair' hpair => ?_⟩
        rw [show reduced.activePassthrough = some pair from hactive, Option.some.injEq] at hpair
        subst hpair
        exact (h.linked pair hactive).erase hnames
      rw [hsound.clearInvalid, Option.filter_some, if_pos (by simpa using hnames), ← hactive]

theorem seat_erase (state' : SubRoomState)
    (h : state'.participantAssignments = state.participantAssignments.erase peerId) :
    state'.seat = update state.seat peerId none := by
  funext other
  by_cases hother : other = peerId
  · rw [hother, update_self, seat, h, AList.lookup_erase]
  · rw [update_of_ne hother, seat, h, AList.lookup_erase_ne hother]
    rfl

theorem seat_assign (source : SubRoomMembershipSource) :
    (state.assign peerId subRoomId source).seat
      = update state.seat peerId (some subRoomId) := by
  funext other
  change (state.participantAssignments.insert peerId subRoomId).lookup other = _
  by_cases hother : other = peerId
  · rw [hother, update_self, AList.lookup_insert]
  · rw [update_of_ne hother, AList.lookup_insert_ne hother]
    rfl

theorem rooms_assign (h : Catalogue state.rooms) (source : SubRoomMembershipSource) :
    (state.assign peerId subRoomId source).rooms
      = state.rooms.map (·.enter peerId subRoomId) :=
  rooms_updateRoom h _

end SubRoomState

namespace RoomInfo

theorem joinSubRoom_turn (h : info.ensureRoomSubRooms.Sound) (subRoomId peerId : String)
    (now : Instant) :
    ∃ after, (info.joinSubRoom subRoomId peerId now).2.subRoomState = some after
      ∧ SubRoomTurn now info.ensureRoomSubRooms (.joinSubRoom subRoomId peerId)
        ((InfoEdit.joinSubRoom subRoomId peerId).expiry now info) after := by
  unfold InfoEdit.expiry joinSubRoom
  rw [h.clearInvalid]
  generalize info.ensureRoomSubRooms = subRooms at h
  dsimp only
  cases hfind : subRooms.find subRoomId with
  | none => exact ⟨subRooms, rfl, .idle rfl rfl rfl⟩
  | some room =>
    obtain ⟨hroom, hid⟩ := mem_of_find hfind
    have hexists : subRoomId ∈ subRooms.rooms.map (·.subRoomId) :=
      mem_map.mpr ⟨room, hroom, hid⟩
    cases hprevious : subRooms.participantAssignments.lookup peerId with
    | none =>
      rw [if_neg nofun]
      exact ⟨_, rfl, .enter peerId subRoomId (.inl hprevious) hexists
        (rooms_assign h.catalogue _) (seat_assign _) rfl rfl⟩
    | some old =>
      split_ifs with hsame
      · exact ⟨subRooms, rfl, .idle rfl rfl rfl⟩
      · have hne : old ≠ subRoomId := ne_of_apply_ne some hsame
        obtain ⟨htimer, hleft⟩ := leave_eq h.catalogue peerId old now
        rw [htimer, hleft]
        refine ⟨_, rfl, .move peerId old subRoomId hprevious hne hexists ?_
          (seat_assign _) rfl rfl⟩
        exact rooms_assign (h.catalogue.map (keeps_release peerId old now)) _

theorem leaveSubRoom_turn (hstate : info.subRoomState = some state) (h : state.Sound)
    (peerId : String) (now : Instant) :
    ∃ after, (info.leaveSubRoom peerId now).2.subRoomState = some after
      ∧ SubRoomTurn now state (.leaveSubRoom peerId)
        ((InfoEdit.leaveSubRoom peerId).expiry now info) after
      ∧ after.seat peerId = none := by
  unfold InfoEdit.expiry leaveSubRoom
  rw [hstate]
  dsimp only
  rw [h.clearInvalid]
  set unassigned : SubRoomState :=
    { state with
      participantAssignments := state.participantAssignments.erase peerId
      membershipSources := state.membershipSources.erase peerId }
  have hseat : unassigned.seat = update state.seat peerId none :=
    seat_erase unassigned rfl
  have hnone : unassigned.seat peerId = none := by rw [hseat, update_self]
  cases hcurrent : state.participantAssignments.lookup peerId with
  | none =>
    have hsame : update state.seat peerId none = state.seat := by
      rw [← hcurrent]
      exact update_eq_self peerId state.seat
    exact ⟨unassigned, rfl, .idle rfl (hseat.trans hsame) rfl, hnone⟩
  | some subRoomId =>
    have hcatalogue : Catalogue unassigned.rooms := h.catalogue
    obtain ⟨htimer, hleft⟩ := leave_eq hcatalogue peerId subRoomId now
    dsimp only
    rw [htimer, hleft]
    have hturn : SubRoomTurn now state (.leaveSubRoom peerId)
        (unassigned.vacancy peerId subRoomId now)
        { unassigned with
          rooms := unassigned.rooms.map (·.release peerId subRoomId now) } :=
      .leave peerId subRoomId hcurrent rfl hseat rfl
    split_ifs <;> exact ⟨_, rfl, hturn, hnone⟩

theorem syncSubRooms_turn (h : info.ensureRoomSubRooms.Sound) (peerId : String)
    (supportsSubRooms : Bool) (now : Instant) :
    ∃ after, (info.syncSubRoomsOnVoiceJoin peerId supportsSubRooms).2.subRoomState
        = some after
      ∧ SubRoomTurn now info.ensureRoomSubRooms (.syncSubRooms peerId supportsSubRooms)
        none after := by
  unfold syncSubRoomsOnVoiceJoin
  rw [h.clearInvalid]
  generalize info.ensureRoomSubRooms = subRooms at h
  cases supportsSubRooms with
  | true =>
    exact ⟨_, rfl, .forget peerId rfl (seat_erase _ rfl) rfl⟩
  | false =>
    rw [if_neg nofun]
    cases hfind : subRooms.rooms.find? (·.isDefault) with
    | none => exact ⟨subRooms, rfl, .idle rfl rfl rfl⟩
    | some room =>
      exact ⟨_, rfl, .enter peerId room.subRoomId (.inr rfl)
        (mem_map_of_mem (mem_of_find?_eq_some hfind))
        (rooms_assign h.catalogue _) (seat_assign _) rfl rfl⟩

theorem createSubRoom_turn (h : info.ensureRoomSubRooms.Sound) (now : Instant) :
    ∃ after, (info.createSubRoom now).2.subRoomState = some after
      ∧ SubRoomTurn now info.ensureRoomSubRooms .createSubRoom
        (InfoEdit.createSubRoom.expiry now info) after := by
  unfold InfoEdit.expiry createSubRoom
  rw [h.clearInvalid]
  exact ⟨_, rfl, .create rfl rfl rfl⟩

section

variable (hstate : info.subRoomState = some state)
include hstate

theorem setPassthrough_turn (h : state.Sound) (peerId targetSubRoomId : String)
    (now : Instant) :
    ∃ after, (info.setPassthrough peerId targetSubRoomId).2.subRoomState = some after
      ∧ SubRoomTurn now state (.setPassthrough peerId targetSubRoomId) none after := by
  have hidle : SubRoomTurn now state (.setPassthrough peerId targetSubRoomId) none state :=
    .idle rfl rfl rfl
  unfold setPassthrough
  rw [hstate]
  dsimp only
  rw [h.clearInvalid]
  split_ifs with henabled
  · exact ⟨state, rfl, hidle⟩
  cases hsource : state.participantAssignments.lookup peerId with
  | none => exact ⟨state, rfl, hidle⟩
  | some source =>
    dsimp only
    split_ifs with hforeign
    · exact ⟨state, rfl, hidle⟩
    cases hpair : state.normalizePassthroughPair source targetSubRoomId with
    | error message => exact ⟨state, rfl, hidle⟩
    | ok pair =>
      obtain ⟨hnames, hlinked⟩ := normalize_linked h.catalogue hpair
      refine ⟨_, rfl, .connect peerId targetSubRoomId source pair
        (by simpa using henabled) hsource ?_ hnames hlinked rfl rfl rfl⟩
      intro old hold
      rw [hold] at hforeign
      by_contra hnot
      exact hforeign (by simpa [PassthroughPair.Names] using hnot)

theorem clearPassthrough_turn (h : state.Sound) (peerId : String) (now : Instant) :
    ∃ after, (info.clearPassthrough peerId).2.subRoomState = some after
      ∧ SubRoomTurn now state (.clearPassthrough peerId) none after := by
  have hidle : SubRoomTurn now state (.clearPassthrough peerId) none state :=
    .idle rfl rfl rfl
  unfold clearPassthrough
  rw [hstate]
  dsimp only
  rw [h.clearInvalid]
  cases hsource : state.participantAssignments.lookup peerId with
  | none => exact ⟨state, rfl, hidle⟩
  | some source =>
    cases hactive : state.activePassthrough with
    | none => exact ⟨state, rfl, hidle⟩
    | some pair =>
      dsimp only
      split_ifs with hforeign
      · exact ⟨state, rfl, hidle⟩
      · refine ⟨_, rfl, .disconnect peerId source pair hsource hactive ?_ rfl rfl rfl⟩
        by_contra hnot
        exact hforeign (by simpa [PassthroughPair.Names] using hnot)

theorem adjustSubRooms_turn (unchanged : SubRoomState → Bool) {change : SubRoomState → SubRoomState}
    (hrooms : (change state).rooms = state.rooms) (hseat : (change state).seat = state.seat)
    (hpair : (change state).activePassthrough = state.activePassthrough) (edit : InfoEdit)
    (now : Instant) :
    ∃ after, (info.adjustSubRooms unchanged change).2.subRoomState = some after
      ∧ SubRoomTurn now state edit none after := by
  unfold adjustSubRooms
  rw [hstate]
  dsimp only
  split_ifs
  · exact ⟨state, hstate, .idle rfl rfl rfl⟩
  · exact ⟨change state, rfl, .idle hrooms hseat hpair⟩

theorem expireSubRoom_turn (h : state.Sound) (subRoomId : String) (expectedDeleteAt now : Instant) :
    ∃ after, (info.expireSubRoom subRoomId expectedDeleteAt).2.subRoomState = some after
      ∧ SubRoomTurn now state (.expireSubRoom subRoomId expectedDeleteAt) none after := by
  have hidle : SubRoomTurn now state (.expireSubRoom subRoomId expectedDeleteAt) none state :=
    .idle rfl rfl rfl
  unfold expireSubRoom
  rw [hstate]
  dsimp only
  rw [h.clearInvalid]
  cases hfind : state.find subRoomId with
  | none => exact ⟨state, rfl, hidle⟩
  | some room =>
    obtain ⟨hroom, rfl⟩ := mem_of_find hfind
    dsimp only
    split_ifs with hkept
    · exact ⟨state, rfl, hidle⟩
    · simp only [Bool.or_eq_true, not_or, Bool.not_eq_true, Bool.not_eq_false',
        bne_eq_false_iff_eq, List.isEmpty_iff] at hkept
      obtain ⟨⟨hdefault, hempty⟩, hdue⟩ := hkept
      rw [eraseP_eq_filter h.catalogue.ids, h.clearInvalid_erase hdefault hroom]
      exact ⟨_, rfl, .expire room expectedDeleteAt hroom hdefault hempty hdue rfl rfl rfl⟩

end

theorem startShare_subRoomState (peers : List PeerId) (senderId : PeerId) (role : ParticipantRole)
    (shareType : Option WireShareType) :
    (info.startShare peers senderId role shareType).2.subRoomState = info.subRoomState := by
  unfold startShare
  split_ifs
  all_goals first
    | rfl
    | cases shareType <;> dsimp only <;> (try split_ifs) <;> rfl

theorem stopShare_subRoomState (peers : List PeerId) (target : PeerId)
    (shareType : Option WireShareType) :
    (info.stopShare peers target shareType).2.subRoomState = info.subRoomState := by
  unfold stopShare
  split_ifs
  · rfl
  · rfl
  · split
    · dsimp only
      split_ifs <;> rfl
    · rfl
  · rfl

end RoomInfo

namespace InfoEdit

open RoomInfo

def onSubRooms : InfoEdit → Bool
  | activateSubRooms _ => true
  | syncSubRooms _ _ => true
  | createSubRoom => true
  | joinSubRoom _ _ => true
  | leaveSubRoom _ => true
  | setPassthrough _ _ => true
  | clearPassthrough _ => true
  | setPassthroughEnabled _ => true
  | setPassthroughVolume _ => true
  | setPassthroughFilter _ _ => true
  | expireSubRoom _ _ => true
  | _ => false

theorem apply_subRoomState {edit : InfoEdit} (h : edit.onSubRooms = false) (now : Instant)
    (peers : List PeerId) (info : RoomInfo) :
    (edit.apply now peers info).subRoomState = info.subRoomState := by
  cases edit with
  | startShare senderId role shareType =>
    exact startShare_subRoomState peers senderId role shareType
  | stopShare target shareType => exact stopShare_subRoomState peers target shareType
  | stopAllShares =>
    change info.stopAllShares.2.subRoomState = _
    unfold RoomInfo.stopAllShares
    split_ifs <;> rfl
  | cleanupShare peerId =>
    change (info.cleanupShare peerId).2.subRoomState = _
    unfold RoomInfo.cleanupShare
    split_ifs <;> rfl
  | setSharePermission senderId permission =>
    change (info.setSharePermission peers senderId permission).2.subRoomState = _
    unfold RoomInfo.setSharePermission
    dsimp only
    split_ifs <;> rfl
  | recordViewerIdentity peerId identity =>
    obtain ⟨viewerIdentities, heq⟩ := recordViewerIdentity_eq info peerId identity
    rw [apply, heq]
  | _ => first | rfl | cases h

/-- There are no sub-rooms and the edit makes none, or it is a turn of the sub-rooms. -/
def Turns (edit : InfoEdit) (now : Instant) (peers : List PeerId) (info : RoomInfo) : Prop :=
  info.subRoomState = none ∧ (edit.apply now peers info).subRoomState = none
      ∧ edit.expiry now info = none
    ∨ ∃ after, (edit.apply now peers info).subRoomState = some after
      ∧ SubRoomTurn now info.ensureRoomSubRooms edit (edit.expiry now info) after

theorem turns_of_some (h : info.ensureRoomSubRooms.Sound) {edit : InfoEdit} {now : Instant}
    {peers : List PeerId}
    (hnone : info.subRoomState = none → (edit.apply now peers info).subRoomState = none
      ∧ edit.expiry now info = none)
    (hsome : ∀ state, info.subRoomState = some state → state.Sound →
      ∃ after, (edit.apply now peers info).subRoomState = some after
        ∧ SubRoomTurn now state edit (edit.expiry now info) after) :
    edit.Turns now peers info := by
  cases hstate : info.subRoomState with
  | none => exact .inl ⟨hstate, hnone hstate⟩
  | some state =>
    rw [ensureRoomSubRooms_of_some hstate] at h
    refine .inr ?_
    rw [ensureRoomSubRooms_of_some hstate]
    exact hsome state hstate h

section

variable (h : info.ensureRoomSubRooms.Sound) (edit : InfoEdit) (now : Instant) (peers : List PeerId)
include h edit now peers

theorem turns : edit.Turns now peers info := by
  cases edit with
  | activateSubRooms passthroughEnabled => exact .inr ⟨_, rfl, .idle rfl rfl rfl⟩
  | syncSubRooms peerId supportsSubRooms =>
    exact .inr (syncSubRooms_turn h peerId supportsSubRooms now)
  | createSubRoom => exact .inr (createSubRoom_turn h now)
  | joinSubRoom subRoomId peerId =>
    exact .inr (joinSubRoom_turn h subRoomId peerId now)
  | leaveSubRoom peerId =>
    refine turns_of_some h (fun hnone => ?_) fun state hstate hsound => ?_
    · simp [apply, expiry, RoomInfo.leaveSubRoom, hnone]
    · obtain ⟨after, hafter, hturn, -⟩ := leaveSubRoom_turn hstate hsound peerId now
      exact ⟨after, hafter, hturn⟩
  | setPassthrough peerId targetSubRoomId =>
    refine turns_of_some h (fun hnone => ⟨?_, rfl⟩) fun state hstate hsound =>
      setPassthrough_turn hstate hsound peerId targetSubRoomId now
    simp [apply, RoomInfo.setPassthrough, hnone]
  | clearPassthrough peerId =>
    refine turns_of_some h (fun hnone => ⟨?_, rfl⟩) fun state hstate hsound =>
      clearPassthrough_turn hstate hsound peerId now
    simp [apply, RoomInfo.clearPassthrough, hnone]
  | setPassthroughEnabled enabled | setPassthroughVolume volumePercent
  | setPassthroughFilter enabled strength =>
    refine turns_of_some h (fun hnone => ⟨?_, rfl⟩) fun state hstate _ =>
      adjustSubRooms_turn hstate _ rfl rfl rfl _ now
    simp only [apply, RoomInfo.setPassthroughEnabled, RoomInfo.setPassthroughVolume,
      RoomInfo.setPassthroughFilter, adjustSubRooms, hnone]
  | expireSubRoom subRoomId expectedDeleteAt =>
    refine turns_of_some h (fun hnone => ⟨?_, rfl⟩) fun state hstate hsound =>
      expireSubRoom_turn hstate hsound subRoomId expectedDeleteAt now
    simp [apply, RoomInfo.expireSubRoom, hnone]
  | _ =>
    -- The sub-rooms are left alone.
    refine turns_of_some h (fun hnone => ⟨?_, rfl⟩) fun state hstate _ =>
      ⟨state, ?_, .idle rfl rfl rfl⟩
    · rw [apply_subRoomState rfl, hnone]
    · rw [apply_subRoomState rfl, hstate]

theorem ensured_turn :
    SubRoomTurn now info.ensureRoomSubRooms edit (edit.expiry now info)
      (edit.apply now peers info).ensureRoomSubRooms := by
  rcases turns h edit now peers with ⟨hnone, hnone', hexpiry⟩ | ⟨after, hafter, hturn⟩
  · have hsame : (edit.apply now peers info).ensureRoomSubRooms = info.ensureRoomSubRooms := by
      simp [ensureRoomSubRooms, hnone, hnone']
    rw [hsame, hexpiry]
    exact .idle rfl rfl rfl
  · rw [ensureRoomSubRooms_of_some hafter]
    exact hturn

theorem apply_subRoomState_isSome (hsome : info.subRoomState.isSome = true) :
    (edit.apply now peers info).subRoomState.isSome = true := by
  rcases turns h edit now peers with ⟨hnone, -, -⟩ | ⟨after, hafter, -⟩
  · rw [hnone] at hsome
    cases hsome
  · rw [hafter]
    rfl

end

end InfoEdit

namespace SubRoomState

variable {state' : SubRoomState}

theorem lt_nextRoom (now : Instant) :
    ∀ room ∈ state.rooms, room.roomNumber < (state.nextRoom now).roomNumber :=
  fun _ hroom => lt_foldl_max (mem_map_of_mem hroom)

theorem nextRoom_notMem (h : Catalogue state.rooms) (now : Instant) :
    (state.nextRoom now).subRoomId ∉ state.rooms.map (·.subRoomId) := by
  intro hmem
  obtain ⟨room, hroom, hid⟩ := mem_map.mp hmem
  rw [h.named room hroom] at hid
  exact Nat.ne_of_lt (lt_nextRoom now room hroom) (numbered_injective hid)

theorem sound_new : (new defaultSubRoomId).Sound := by
  refine ⟨⟨?_, by decide, by decide⟩, nofun⟩
  intro room hroom
  rw [mem_singleton.mp hroom]
  rfl

theorem Sound.map (h : state.Sound) (hrooms : state'.rooms = state.rooms.map change)
    (hpair : state'.activePassthrough = state.activePassthrough)
    (hkeeps : Keeps change) : state'.Sound := by
  refine ⟨hrooms ▸ h.catalogue.map hkeeps, fun pair hactive => ?_⟩
  rw [hpair] at hactive
  rw [hrooms]
  exact (h.linked pair hactive).map hkeeps

end SubRoomState

namespace SubRoomTurn

variable {now : Instant} {before after : SubRoomState} {edit : InfoEdit}
  {expiry : Option PendingSubRoomExpiry}

section

variable (hturn : SubRoomTurn now before edit expiry after)
include hturn

theorem sound (h : before.Sound) : after.Sound := by
  cases hturn with
  | idle rooms _ pair =>
    refine ⟨rooms ▸ h.catalogue, fun link hactive => ?_⟩
    rw [pair] at hactive
    exact rooms ▸ h.linked link hactive
  | create rooms _ pair =>
    refine ⟨?_, fun link hactive => ?_⟩
    · rw [rooms]
      exact h.catalogue.concat rfl (lt_nextRoom now) rfl
    · rw [pair] at hactive
      rw [rooms]
      exact (h.linked link hactive).subset (subset_append_left _ _)
  | forget peerId rooms _ pair => exact h.map rooms pair (keeps_strike peerId)
  | enter peerId subRoomId _ _ rooms _ pair =>
    exact h.map rooms pair (keeps_enter peerId subRoomId)
  | leave peerId subRoomId _ rooms _ pair =>
    exact h.map rooms pair (keeps_release peerId subRoomId now)
  | move peerId old subRoomId _ _ _ rooms _ pair =>
    rw [map_map] at rooms
    exact h.map rooms pair ((keeps_release peerId old now).comp (keeps_enter peerId subRoomId))
  | connect peerId target subRoomId link _ _ _ _ linked rooms _ pair =>
    refine ⟨rooms ▸ h.catalogue, fun link' hactive => ?_⟩
    rw [pair, Option.some.injEq] at hactive
    exact rooms ▸ hactive ▸ linked
  | disconnect peerId subRoomId old _ _ _ rooms _ pair =>
    refine ⟨rooms ▸ h.catalogue, fun link hactive => ?_⟩
    rw [pair] at hactive
    cases hactive
  | expire room deadline mem notDefault _ _ rooms _ pair =>
    refine ⟨?_, fun link hactive => ?_⟩
    · rw [rooms]
      refine h.catalogue.erase fun other hother hid => ?_
      rw [h.catalogue.eq_of_subRoomId hother mem hid]
      exact notDefault
    · rw [pair, Option.filter_eq_some_iff] at hactive
      rw [rooms]
      exact (h.linked link hactive.1).erase (by simpa using hactive.2)

theorem seating (h : before.Sound) (hseating : Seating before.rooms before.seat)
    (hsync : ∀ peerId supportsSubRooms, edit = .syncSubRooms peerId supportsSubRooms →
      before.seat peerId = none) : Seating after.rooms after.seat := by
  cases hturn with
  | idle rooms seat _ =>
    rw [rooms, seat]
    exact hseating
  | create rooms seat _ =>
    rw [rooms, seat]
    exact hseating.concat rfl (nextRoom_notMem h.catalogue now)
  | forget peerId rooms seat _ =>
    rw [rooms, seat]
    exact hseating.strike
  | enter peerId subRoomId free room rooms seat _ =>
    have hfree : before.seat peerId = none := free.elim id (hsync peerId false)
    rw [rooms, seat]
    exact hseating.enter hfree room
  | leave peerId subRoomId seated rooms seat _ =>
    rw [rooms, seat]
    exact hseating.release now seated
  | move peerId old subRoomId seated _ room rooms seat _ =>
    -- The departure comes first; it leaves the participant without a seat.
    have hreleased := hseating.release now seated
    have hroom : subRoomId ∈ (before.rooms.map (·.release peerId old now)).map
        (·.subRoomId) := by
      simpa [(keeps_release peerId old now).id] using room
    have hfree : update before.seat peerId none peerId = none :=
      update_self peerId none before.seat
    have hadmitted := hreleased.enter hfree hroom
    rw [update_idem] at hadmitted
    rw [rooms, seat]
    exact hadmitted
  | connect peerId target subRoomId link _ _ _ _ _ rooms seat _
  | disconnect peerId subRoomId old _ _ _ rooms seat _ =>
    rw [rooms, seat]
    exact hseating
  | expire room deadline mem _ empty _ rooms seat _ =>
    rw [rooms, seat]
    exact hseating.erase mem empty

theorem seat_isSome {peerId : PeerId} (hne : edit.seats ≠ some peerId)
    (h : (after.seat peerId).isSome = true) : (before.seat peerId).isSome = true := by
  have hupdate : ∀ other place, after.seat = update before.seat other place →
      (place = none ∨ edit.seats = some other) → (before.seat peerId).isSome = true := by
    intro other place hseat hplace
    rw [hseat] at h
    by_cases hother : peerId = other
    · rw [hother, update_self] at h
      rcases hplace with rfl | hseats
      · cases h
      · exact absurd (hother ▸ hseats) hne
    · rwa [update_of_ne hother] at h
  cases hturn with
  | idle _ seat | create _ seat => exact seat ▸ h
  | forget other _ seat => exact hupdate other none seat (.inl rfl)
  | enter other subRoomId _ _ _ seat _ seats => exact hupdate other _ seat (.inr seats)
  | leave other subRoomId _ _ seat => exact hupdate other none seat (.inl rfl)
  | move other old subRoomId _ _ _ _ seat _ seats => exact hupdate other _ seat (.inr seats)
  | connect _ _ _ _ _ _ _ _ _ _ seat | disconnect _ _ _ _ _ _ _ seat | expire _ _ _ _ _ _ _ seat =>
    exact seat ▸ h

end

end SubRoomTurn

namespace RoomInfo

/-- The sub-rooms are in order and their lists are those of the assignment. -/
structure Seated (info : RoomInfo) : Prop where
  sound : info.ensureRoomSubRooms.Sound
  seating : Seating info.ensureRoomSubRooms.rooms info.ensureRoomSubRooms.seat

theorem Seated.apply (h : info.Seated) {edit : InfoEdit} (now : Instant)
    (peers : List PeerId)
    (hsync : ∀ peerId supportsSubRooms,
      edit = .syncSubRooms peerId supportsSubRooms →
        info.ensureRoomSubRooms.seat peerId = none) :
    (edit.apply now peers info).Seated := by
  have hturn := InfoEdit.ensured_turn h.sound edit now peers
  exact ⟨hturn.sound h.sound, hturn.seating h.sound h.seating hsync⟩

/-- There are no sub-rooms yet, or those of a new voice room. -/
def NewSubRooms (info : RoomInfo) : Prop :=
  info.subRoomState = none
    ∨ ∃ passthroughEnabled, info.subRoomState
      = some { SubRoomState.new defaultSubRoomId with passthroughEnabled }

section

variable (h : info.NewSubRooms)
include h

theorem NewSubRooms.sound : info.ensureRoomSubRooms.Sound := by
  rcases h with hnone | ⟨passthroughEnabled, hsome⟩
  · simpa [ensureRoomSubRooms, hnone] using sound_new
  · rw [ensureRoomSubRooms_of_some hsome]
    exact ⟨sound_new.catalogue, nofun⟩

theorem NewSubRooms.rooms : info.ensureRoomSubRooms.rooms = [.roomOne defaultSubRoomId] := by
  rcases h with hnone | ⟨passthroughEnabled, hsome⟩
  · simp [ensureRoomSubRooms, hnone, new]
  · rw [ensureRoomSubRooms_of_some hsome]
    rfl

theorem NewSubRooms.seat (peerId : PeerId) :
    info.ensureRoomSubRooms.seat peerId = none := by
  rcases h with hnone | ⟨passthroughEnabled, hsome⟩
  · simp [ensureRoomSubRooms, hnone, SubRoomState.new, SubRoomState.seat]
  · rw [ensureRoomSubRooms_of_some hsome]
    rfl

theorem NewSubRooms.seated : info.Seated := by
  refine ⟨h.sound, ?_, ?_, ?_⟩
  · intro room hroom peerId
    rw [h.rooms, mem_singleton] at hroom
    rw [h.seat, hroom]
    simp [roomOne]
  · intro room hroom
    rw [h.rooms, mem_singleton] at hroom
    rw [hroom]
    exact nodup_nil
  · intro peerId subRoomId hseat
    rw [h.seat] at hseat
    cases hseat

end

end RoomInfo

end Wavis
