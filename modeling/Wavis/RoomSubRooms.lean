import Wavis.RoomInfo

/-! Every function answers what the caller turns into signals, beside the room it leaves. -/

namespace Wavis

def defaultSubRoomId : String := "room-1"

def subRoomDeleteAfter : Duration := Duration.fromSecs 60

structure PendingSubRoomExpiry where
  subRoomId : String
  deleteAt : Instant
  deriving DecidableEq

/-- What a request reports: the events it causes and the timer it starts. -/
structure SubRoomChange where
  events : List SignalingMessage
  expiry : Option PendingSubRoomExpiry

def SubRoomMembershipSource.toWire : SubRoomMembershipSource → WireSubRoomMembershipSource
  | .explicit => .explicit
  | .legacyRoomOneFallback => .legacyRoomOne

/-- Wall-clock milliseconds; the model's clock counts nanoseconds since the epoch. -/
def epochMs (now : Instant) : Nat := now / 1000000

def deleteAtEpochMs (deleteAt now : Instant) : Nat := epochMs now + (deleteAt - now) / 1000000

def SubRoomInfo.payload (room : SubRoomInfo) (now : Instant) : SubRoomInfoPayload where
  subRoomId := room.subRoomId
  roomNumber := room.roomNumber
  isDefault := room.isDefault
  participantIds := room.participantIds
  deleteAtMs := room.deleteAt.map fun deleteAt => deleteAtEpochMs deleteAt now

namespace SubRoomState

def find (state : SubRoomState) (subRoomId : String) : Option SubRoomInfo :=
  state.rooms.find? (·.subRoomId = subRoomId)

def passthroughLabel (a b : Nat) : String := s!"{a} - {b}"

def activePassthroughPayload (state : SubRoomState) : Option PassthroughStatePayload :=
  match state.activePassthrough with
  | none => none
  | some pair =>
    match state.find pair.sourceSubRoomId, state.find pair.targetSubRoomId with
    | some source, some target =>
      some ⟨pair.sourceSubRoomId, pair.targetSubRoomId,
        passthroughLabel source.roomNumber target.roomNumber⟩
    | _, _ => none

def payload (state : SubRoomState) (now : Instant) : SubRoomStatePayload where
  rooms := state.rooms.map fun room => room.payload now
  passthrough := state.activePassthroughPayload
  passthroughEnabled := state.passthroughEnabled
  passthroughVolumePercent := state.passthroughVolumePercent
  passthroughFiltersEnabled := state.passthroughFiltersEnabled
  passthroughFilterStrength := state.passthroughFilterStrength

/-- The pair of two rooms, the one with the smaller number first. -/
def normalizePassthroughPair (state : SubRoomState) (sourceId targetId : String) :
    Except String PassthroughPair :=
  if sourceId = targetId then .error "passthrough requires a different target room"
  else
    match state.find sourceId with
    | none => .error "source room not found"
    | some source =>
      match state.find targetId with
      | none => .error "target room not found"
      | some target =>
        if source.roomNumber ≤ target.roomNumber then
          .ok ⟨source.subRoomId, target.subRoomId⟩
        else .ok ⟨target.subRoomId, source.subRoomId⟩

/-- Drops a passthrough pair that does not name two different rooms. -/
def clearInvalidPassthroughLocked (state : SubRoomState) : SubRoomState :=
  match state.activePassthrough with
  | none => state
  | some pair =>
    if (state.find pair.sourceSubRoomId).isNone || (state.find pair.targetSubRoomId).isNone
        || pair.sourceSubRoomId == pair.targetSubRoomId then
      { state with activePassthrough := none }
    else state

def updateRoom (state : SubRoomState) (subRoomId : String) (change : SubRoomInfo → SubRoomInfo) :
    SubRoomState :=
  { state with rooms := updateFirst (·.subRoomId = subRoomId) change state.rooms }

/-- Starts the deletion timer of a room that has become empty. ROOM 1 is never deleted. -/
def scheduleEmptyRoomIfNeeded (state : SubRoomState) (subRoomId : String) (now : Instant) :
    Option PendingSubRoomExpiry × SubRoomState :=
  match state.find subRoomId with
  | none => (none, state)
  | some room =>
    if room.isDefault || !room.participantIds.isEmpty then
      (none, state.updateRoom subRoomId fun room => { room with deleteAt := none })
    else
      let deleteAt := now + subRoomDeleteAfter
      (some ⟨subRoomId, deleteAt⟩,
        state.updateRoom subRoomId fun room => { room with deleteAt := some deleteAt })

def dropParticipant (state : SubRoomState) (subRoomId participantId : String) : SubRoomState :=
  state.updateRoom subRoomId fun room =>
    { room with participantIds := room.participantIds.filter (· ≠ participantId) }

end SubRoomState

def SubRoomInfo.addParticipant (participantId : String) (room : SubRoomInfo) : SubRoomInfo :=
  { room with
    participantIds :=
      if participantId ∈ room.participantIds then room.participantIds
      else room.participantIds ++ [participantId]
    deleteAt := none }

namespace SubRoomState

/-- Forgets the participant wherever it is; it chooses a room later. -/
def forget (participantId : String) (state : SubRoomState) : SubRoomState :=
  { state with
    participantAssignments := state.participantAssignments.erase participantId
    membershipSources := state.membershipSources.erase participantId
    rooms := state.rooms.map fun room =>
      { room with participantIds := room.participantIds.filter (· ≠ participantId) } }

def assign (participantId subRoomId : String) (source : SubRoomMembershipSource)
    (state : SubRoomState) : SubRoomState :=
  let admitted := state.updateRoom subRoomId (SubRoomInfo.addParticipant participantId)
  { admitted with
    participantAssignments := admitted.participantAssignments.insert participantId subRoomId
    membershipSources := admitted.membershipSources.insert participantId source }

end SubRoomState

namespace RoomInfo

def ensureRoomSubRooms (info : RoomInfo) : SubRoomState :=
  info.subRoomState.getD (.new defaultSubRoomId)

def withSubRooms (info : RoomInfo) (subRooms : SubRoomState) : RoomInfo :=
  { info with subRoomState := some subRooms }

def activateSubRooms (passthroughEnabled : Bool) (info : RoomInfo) : RoomInfo :=
  info.withSubRooms { info.ensureRoomSubRooms with passthroughEnabled }

/-- A client that knows sub-rooms starts in none of them; any other is put into ROOM 1. -/
def syncSubRoomsOnVoiceJoin (participantId : String) (supportsSubRooms : Bool) (info : RoomInfo) :
    Option SignalingMessage × RoomInfo :=
  let subRooms := info.ensureRoomSubRooms.clearInvalidPassthroughLocked
  if supportsSubRooms then (none, info.withSubRooms (subRooms.forget participantId))
  else
    match subRooms.rooms.find? (·.isDefault) with
    | none => (none, info.withSubRooms subRooms)
    | some room =>
      (some (.subRoomJoined participantId room.subRoomId
          (SubRoomMembershipSource.toWire .legacyRoomOneFallback)),
        info.withSubRooms (subRooms.assign participantId room.subRoomId .legacyRoomOneFallback))

def createSubRoom (now : Instant) (info : RoomInfo) : SubRoomChange × RoomInfo :=
  let subRooms := info.ensureRoomSubRooms.clearInvalidPassthroughLocked
  let nextRoomNumber := (subRooms.rooms.map (·.roomNumber)).foldl max 0 + 1
  let deleteAt := now + subRoomDeleteAfter
  let room : SubRoomInfo :=
    { subRoomId := s!"room-{nextRoomNumber}"
      roomNumber := nextRoomNumber
      isDefault := false
      participantIds := []
      deleteAt := some deleteAt }
  (⟨[.subRoomCreated (room.payload now)], some ⟨room.subRoomId, deleteAt⟩⟩,
    info.withSubRooms { subRooms with rooms := subRooms.rooms ++ [room] })

def joinSubRoom (subRoomId participantId : String) (now : Instant) (info : RoomInfo) :
    Except String SubRoomChange × RoomInfo :=
  let subRooms := info.ensureRoomSubRooms.clearInvalidPassthroughLocked
  match subRooms.find subRoomId with
  | none => (.error "room not found", info.withSubRooms subRooms)
  | some _ =>
    let previous := subRooms.participantAssignments.lookup participantId
    if previous = some subRoomId then (.ok ⟨[], none⟩, info.withSubRooms subRooms)
    else
      let left := match previous with
        | none => (none, subRooms)
        | some old =>
          (subRooms.dropParticipant old participantId).scheduleEmptyRoomIfNeeded old now
      (.ok ⟨[.subRoomJoined participantId subRoomId .explicit], left.1⟩,
        info.withSubRooms (left.2.assign participantId subRoomId .explicit))

def leaveSubRoom (participantId : String) (now : Instant) (info : RoomInfo) :
    SubRoomChange × RoomInfo :=
  match info.subRoomState with
  | none => (⟨[], none⟩, info)
  | some state =>
    let subRooms := state.clearInvalidPassthroughLocked
    let current := subRooms.participantAssignments.lookup participantId
    let unassigned :=
      { subRooms with
        participantAssignments := subRooms.participantAssignments.erase participantId
        membershipSources := subRooms.membershipSources.erase participantId }
    match current with
    | none => (⟨[], none⟩, info.withSubRooms unassigned)
    | some subRoomId =>
      let left :=
        (unassigned.dropParticipant subRoomId participantId).scheduleEmptyRoomIfNeeded
          subRoomId now
      let moved := info.withSubRooms left.2
      -- A share does not outlive its owner's place in a sub-room.
      if moved.activeShares.contains participantId then
        (⟨[.subRoomLeft participantId subRoomId,
            .shareStopped participantId (lookupDisplayName moved.participants participantId)
              none], left.1⟩,
          { moved with
            activeShares := moved.activeShares.erase participantId
            activeShareTypes := moved.activeShareTypes.erase participantId })
      else (⟨[.subRoomLeft participantId subRoomId], left.1⟩, moved)

/-- A participant controls the passthrough from its own sub-room, and only when the active pair
involves that room. -/
def setPassthrough (participantId targetSubRoomId : String) (info : RoomInfo) :
    Except String Bool × RoomInfo :=
  match info.subRoomState with
  | none => (.error "room state unavailable", info)
  | some state =>
    let subRooms := state.clearInvalidPassthroughLocked
    let kept := info.withSubRooms subRooms
    if !subRooms.passthroughEnabled then (.error "passthrough is disabled", kept)
    else
      match subRooms.participantAssignments.lookup participantId with
      | none => (.error "join a room to use passthrough", kept)
      | some source =>
        if subRooms.activePassthrough.any fun pair =>
            pair.sourceSubRoomId != source && pair.targetSubRoomId != source then
          (.error "passthrough is controlled by the active room pair", kept)
        else
          match subRooms.normalizePassthroughPair source targetSubRoomId with
          | .error message => (.error message, kept)
          | .ok pair =>
            (.ok (subRooms.activePassthrough != some pair),
              info.withSubRooms { subRooms with activePassthrough := some pair })

def clearPassthrough (participantId : String) (info : RoomInfo) : Except String Bool × RoomInfo :=
  match info.subRoomState with
  | none => (.error "room state unavailable", info)
  | some state =>
    let subRooms := state.clearInvalidPassthroughLocked
    let kept := info.withSubRooms subRooms
    match subRooms.participantAssignments.lookup participantId with
    | none => (.error "join a room to use passthrough", kept)
    | some source =>
      match subRooms.activePassthrough with
      | none => (.ok false, kept)
      | some pair =>
        if pair.sourceSubRoomId != source && pair.targetSubRoomId != source then
          (.error "passthrough is controlled by the active room pair", kept)
        else (.ok true, info.withSubRooms { subRooms with activePassthrough := none })

/-- Applies a setting of the sub-rooms and tells whether anything changed. -/
def adjustSubRooms (unchanged : SubRoomState → Bool) (change : SubRoomState → SubRoomState)
    (info : RoomInfo) : Bool × RoomInfo :=
  match info.subRoomState with
  | none => (false, info)
  | some state =>
    if unchanged state then (false, info) else (true, info.withSubRooms (change state))

def setPassthroughEnabled (enabled : Bool) : RoomInfo → Bool × RoomInfo :=
  adjustSubRooms (fun state => state.passthroughEnabled == enabled)
    fun state => { state with passthroughEnabled := enabled }

def setPassthroughVolume (volumePercent : Nat) : RoomInfo → Bool × RoomInfo :=
  let clamped := min volumePercent 100
  adjustSubRooms (fun state => state.passthroughVolumePercent == clamped)
    fun state => { state with passthroughVolumePercent := clamped }

def setPassthroughFilter (enabled : Bool) (strength : Nat) : RoomInfo → Bool × RoomInfo :=
  let clamped := min strength 100
  adjustSubRooms
    (fun state => state.passthroughFiltersEnabled == enabled
      && state.passthroughFilterStrength == clamped)
    fun state =>
      { state with passthroughFiltersEnabled := enabled, passthroughFilterStrength := clamped }

/-- Deletes a room whose timer has run out, unless it was used again or its timer was restarted. -/
def expireSubRoom (subRoomId : String) (expectedDeleteAt : Instant) (info : RoomInfo) :
    Bool × RoomInfo :=
  match info.subRoomState with
  | none => (false, info)
  | some state =>
    let subRooms := state.clearInvalidPassthroughLocked
    match subRooms.find subRoomId with
    | none => (false, info.withSubRooms subRooms)
    | some room =>
      if room.isDefault || !room.participantIds.isEmpty
          || room.deleteAt != some expectedDeleteAt then
        (false, info.withSubRooms subRooms)
      else
        (true, info.withSubRooms
          { subRooms with rooms := subRooms.rooms.eraseP (·.subRoomId = subRoomId)
            }.clearInvalidPassthroughLocked)

end RoomInfo

end Wavis
