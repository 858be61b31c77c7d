import Wavis.Concurrency.Pool
import Wavis.RoomEdit

/-! `InMemoryRoomState` is three locks: the map of rooms, one lock for every room object, and the
reverse index from peers to rooms. Each constructor of `RoomOp` is one section of code that runs
under these locks without releasing the one it works on, and the functions of the source are
programs over them.

A room object outlives its entry in the map for as long as a call still holds it, so the map stores
addresses and a separate heap stores the objects. -/

namespace Wavis

open Concurrency

/-- The address of a shared room object. -/
abbrev ArcId := Nat

structure RoomMembers where
  peers : List PeerId
  info : RoomInfo

structure InMemoryRoomState where
  rooms : HashMap RoomId ArcId
  heap : ArcId → RoomMembers
  nextArc : ArcId
  peerToRoom : HashMap PeerId RoomId
  rooms_lt : ∀ {roomId arc}, rooms.lookup roomId = some arc → arc < nextArc
  rooms_inj : ∀ {roomId roomId' arc},
    rooms.lookup roomId = some arc → rooms.lookup roomId' = some arc → roomId = roomId'

namespace InMemoryRoomState

def new : InMemoryRoomState where
  rooms := ∅
  heap _ := ⟨[], .newP2p⟩
  nextArc := 0
  peerToRoom := ∅
  rooms_lt h := by simp at h
  rooms_inj h := by simp at h

def insertRoom (state : InMemoryRoomState) (roomId : RoomId) (info : RoomInfo) :
    InMemoryRoomState where
  rooms := state.rooms.insert roomId state.nextArc
  heap := Function.update state.heap state.nextArc ⟨[], info⟩
  nextArc := state.nextArc + 1
  peerToRoom := state.peerToRoom
  rooms_lt := by
    intro roomId' arc h
    by_cases hroom : roomId' = roomId
    · subst hroom
      rw [AList.lookup_insert, Option.some.injEq] at h
      exact h ▸ Nat.lt_succ_self _
    · rw [AList.lookup_insert_ne hroom] at h
      exact Nat.lt_succ_of_lt (state.rooms_lt h)
  rooms_inj := by
    intro roomId₁ roomId₂ arc h₁ h₂
    by_cases hroom₁ : roomId₁ = roomId <;> by_cases hroom₂ : roomId₂ = roomId
    · rw [hroom₁, hroom₂]
    · subst hroom₁
      rw [AList.lookup_insert, Option.some.injEq] at h₁
      rw [AList.lookup_insert_ne hroom₂] at h₂
      exact absurd (state.rooms_lt h₂) (h₁ ▸ Nat.lt_irrefl _)
    · subst hroom₂
      rw [AList.lookup_insert, Option.some.injEq] at h₂
      rw [AList.lookup_insert_ne hroom₁] at h₁
      exact absurd (state.rooms_lt h₁) (h₂ ▸ Nat.lt_irrefl _)
    · rw [AList.lookup_insert_ne hroom₁] at h₁
      rw [AList.lookup_insert_ne hroom₂] at h₂
      exact state.rooms_inj h₁ h₂

def eraseRoom (state : InMemoryRoomState) (roomId : RoomId) : InMemoryRoomState where
  rooms := state.rooms.erase roomId
  heap := state.heap
  nextArc := state.nextArc
  peerToRoom := state.peerToRoom
  rooms_lt := by
    intro roomId' arc h
    by_cases hroom : roomId' = roomId
    · subst hroom
      simp at h
    · rw [AList.lookup_erase_ne hroom] at h
      exact state.rooms_lt h
  rooms_inj := by
    intro roomId₁ roomId₂ arc h₁ h₂
    have hne₁ : roomId₁ ≠ roomId := by
      rintro rfl
      simp at h₁
    have hne₂ : roomId₂ ≠ roomId := by
      rintro rfl
      simp at h₂
    rw [AList.lookup_erase_ne hne₁] at h₁
    rw [AList.lookup_erase_ne hne₂] at h₂
    exact state.rooms_inj h₁ h₂

def setMembers (state : InMemoryRoomState) (arc : ArcId) (members : RoomMembers) :
    InMemoryRoomState :=
  { state with heap := Function.update state.heap arc members }

def linkPeer (state : InMemoryRoomState) (peerId : PeerId) (roomId : RoomId) :
    InMemoryRoomState :=
  { state with peerToRoom := state.peerToRoom.insert peerId roomId }

def unlinkPeer (state : InMemoryRoomState) (peerId : PeerId) : InMemoryRoomState :=
  { state with peerToRoom := state.peerToRoom.erase peerId }

def find (state : InMemoryRoomState) (roomId : RoomId) : Option RoomMembers :=
  (state.rooms.lookup roomId).map state.heap

end InMemoryRoomState

/-- The lock-protected sections. `F` is the type of the closures passed to `tryAddPeerWith`. An edit
answers the room it was applied to and the time. -/
inductive RoomOp (F : Type) where
  | createRoom (roomId : RoomId) (info : RoomInfo)
  | ensureRoom (roomId : RoomId)
  | getRoom (roomId : RoomId)
  | removeRoom (roomId : RoomId)
  | checkEmpty (roomId : RoomId)
  | tryPush (arc : ArcId) (peerId : PeerId) (f : F)
  | pushUnlessMoving (arc : ArcId) (peerId : PeerId) (roomId : RoomId)
  | push (arc : ArcId) (peerId : PeerId)
  | retainPeers (arc : ArcId) (peerId : PeerId)
  | linkPeer (peerId : PeerId) (roomId : RoomId)
  | unlinkPeer (peerId : PeerId)
  | getRoomForPeer (peerId : PeerId)
  | readRoom (roomId : RoomId)
  | updateInfo (roomId : RoomId) (edit : InfoEdit)
  | updateObject (arc : ArcId) (edit : InfoEdit)
  | roomsNeedingTokenRefresh (refreshAfterSecs : Nat)

namespace RoomOp

variable {F κ : Type}

@[reducible] def Resp : RoomOp F → Type
  | createRoom _ _ => Bool
  | ensureRoom _ => Unit
  | getRoom _ => Option ArcId
  | removeRoom _ => Bool
  | checkEmpty _ => Bool
  | tryPush _ _ _ => Except JoinRejectionReason Nat
  | pushUnlessMoving _ _ _ => Option RoomId
  | push _ _ => Unit
  | retainPeers _ _ => Bool
  | linkPeer _ _ => Unit
  | unlinkPeer _ => Option RoomId
  | getRoomForPeer _ => Option RoomId
  | readRoom _ => Option RoomMembers
  | updateInfo _ _ => Option (RoomMembers × Instant)
  | updateObject _ _ => RoomMembers × Instant
  | roomsNeedingTokenRefresh _ => List (RoomId × SfuRoomHandle × List PeerId)

end RoomOp

def RoomMembers.isFull (members : RoomMembers) : Bool :=
  decide (members.info.maxParticipants ≤ members.peers.length)

def RoomMembers.push (members : RoomMembers) (peerId : PeerId) : RoomMembers :=
  if peerId ∈ members.peers then members else { members with peers := members.peers ++ [peerId] }

def RoomMembers.retain (members : RoomMembers) (peerId : PeerId) : RoomMembers :=
  { members with peers := members.peers.filter (· ≠ peerId) }

def RoomMembers.edit (members : RoomMembers) (edit : InfoEdit) (now : Instant) : RoomMembers :=
  { members with info := edit.apply now members.peers members.info }

def RoomMembers.tokenRefresh (members : RoomMembers) (roomId : RoomId) (refreshAfterSecs : Nat)
    (now : Instant) : Option (RoomId × SfuRoomHandle × List PeerId) :=
  if members.info.roomType ≠ .sfu then none
  else
    match members.info.sfuHandle with
    | none => none
    | some handle =>
      match members.info.peersNeedingTokenRefresh refreshAfterSecs now with
      | [] => none
      | peers => some (roomId, handle, peers)

namespace RoomOp

variable {F κ : Type}

open InMemoryRoomState

/-- What a section does. The closure of `tryPush` runs on a state of its own, under the room's lock;
it is run only when the peer is new to the room and the room is not full. -/
def exec (run : F → κ → Except JoinRejectionReason Unit × κ) (now : Instant) :
    (o : RoomOp F) → InMemoryRoomState × κ → o.Resp × (InMemoryRoomState × κ)
  | createRoom roomId info, (state, k) =>
    match state.rooms.lookup roomId with
    | some _ => (false, state, k)
    | none => (true, state.insertRoom roomId info, k)
  | ensureRoom roomId, (state, k) =>
    match state.rooms.lookup roomId with
    | some _ => ((), state, k)
    | none => ((), state.insertRoom roomId .newP2p, k)
  | getRoom roomId, (state, k) => (state.rooms.lookup roomId, state, k)
  | removeRoom roomId, (state, k) =>
    ((state.rooms.lookup roomId).isSome, state.eraseRoom roomId, k)
  | checkEmpty roomId, (state, k) =>
    ((state.find roomId).any (·.peers.isEmpty), state, k)
  | tryPush arc peerId f, (state, k) =>
    let members := state.heap arc
    if peerId ∈ members.peers then (.ok members.peers.length, state, k)
    else if members.peers.length ≥ members.info.maxParticipants then (.error .roomFull, state, k)
    else
      match run f k with
      | (.error reason, k') => (.error reason, state, k')
      | (.ok (), k') =>
        (.ok (members.peers.length + 1), state.setMembers arc (members.push peerId), k')
  | pushUnlessMoving arc peerId roomId, (state, k) =>
    match state.peerToRoom.lookup peerId with
    | some old =>
      if old ≠ roomId then (some old, state, k)
      else (none, state.setMembers arc ((state.heap arc).push peerId), k)
    | none => (none, state.setMembers arc ((state.heap arc).push peerId), k)
  | push arc peerId, (state, k) =>
    ((), state.setMembers arc ((state.heap arc).push peerId), k)
  | retainPeers arc peerId, (state, k) =>
    let members := (state.heap arc).retain peerId
    (members.peers.isEmpty, state.setMembers arc members, k)
  | linkPeer peerId roomId, (state, k) => ((), state.linkPeer peerId roomId, k)
  | unlinkPeer peerId, (state, k) =>
    (state.peerToRoom.lookup peerId, state.unlinkPeer peerId, k)
  | getRoomForPeer peerId, (state, k) => (state.peerToRoom.lookup peerId, state, k)
  | readRoom roomId, (state, k) => (state.find roomId, state, k)
  | updateInfo roomId edit, (state, k) =>
    match state.rooms.lookup roomId with
    | none => (none, state, k)
    | some arc =>
      (some (state.heap arc, now), state.setMembers arc ((state.heap arc).edit edit now), k)
  | updateObject arc edit, (state, k) =>
    ((state.heap arc, now), state.setMembers arc ((state.heap arc).edit edit now), k)
  | roomsNeedingTokenRefresh refreshAfterSecs, (state, k) =>
    (state.rooms.entries.filterMap fun entry =>
      (state.heap entry.2).tokenRefresh entry.1 refreshAfterSecs now, state, k)

end RoomOp

abbrev RoomProg (F α : Type) := Prog (@RoomOp.Resp F) α

def RoomOp.perform {F : Type} (o : RoomOp F) : RoomProg F o.Resp := Prog.perform o

namespace InMemoryRoomState

variable {F : Type}

def createRoom (roomId : RoomId) (info : RoomInfo) : RoomProg F Bool :=
  RoomOp.perform (.createRoom roomId info)

def removeEmptyRoom (roomId : RoomId) : RoomProg F Bool := do
  if ← RoomOp.perform (.checkEmpty roomId) then RoomOp.perform (.removeRoom roomId) else pure false

/-- The capacity-checked join. A missing room is reported as full. -/
def tryAddPeerWith (peerId : PeerId) (roomId : RoomId) (f : F) :
    RoomProg F (Except JoinRejectionReason Nat) := do
  match ← RoomOp.perform (.getRoom roomId) with
  | none => pure (.error .roomFull)
  | some arc =>
    match ← RoomOp.perform (.tryPush arc peerId f) with
    | .error reason => pure (.error reason)
    | .ok newCount => do
        RoomOp.perform (.linkPeer peerId roomId)
        pure (.ok newCount)

def removePeerFromRoomOnly (peerId : PeerId) (roomId : RoomId) : RoomProg F Unit := do
  match ← RoomOp.perform (.getRoom roomId) with
  | none => pure ()
  | some arc => do
      if ← RoomOp.perform (.retainPeers arc peerId) then
        let _ ← RoomOp.perform (.removeRoom roomId)
      pure ()

/-- Adds a peer without a capacity check; `none` is the panic of a failed `unwrap`. -/
def addPeer (peerId : PeerId) (roomId : RoomId) : RoomProg F (Option Unit) := do
  RoomOp.perform (.ensureRoom roomId)
  match ← RoomOp.perform (.getRoom roomId) with
  | none => pure none
  | some arc =>
    match ← RoomOp.perform (.pushUnlessMoving arc peerId roomId) with
    | some old => do
        removePeerFromRoomOnly peerId old
        match ← RoomOp.perform (.getRoom roomId) with
        | none => pure none
        | some arc2 => do
            RoomOp.perform (.push arc2 peerId)
            RoomOp.perform (.linkPeer peerId roomId)
            pure (some ())
    | none => do
        RoomOp.perform (.linkPeer peerId roomId)
        pure (some ())

def removePeerInternal (peerId : PeerId) (removeEmptyRoom : Bool) : RoomProg F Unit := do
  match ← RoomOp.perform (.unlinkPeer peerId) with
  | none => pure ()
  | some roomId =>
    match ← RoomOp.perform (.getRoom roomId) with
    | none => pure ()
    | some arc => do
        let isEmpty ← RoomOp.perform (.retainPeers arc peerId)
        if removeEmptyRoom && isEmpty then
          let _ ← RoomOp.perform (.removeRoom roomId)
        pure ()

def removePeer (peerId : PeerId) : RoomProg F Unit := removePeerInternal peerId true

def removePeerPreserveRoom (peerId : PeerId) : RoomProg F Unit := removePeerInternal peerId false

def getRoomForPeer (peerId : PeerId) : RoomProg F (Option RoomId) :=
  RoomOp.perform (.getRoomForPeer peerId)

def getRoomInfo (roomId : RoomId) : RoomProg F (Option RoomInfo) := do
  let members ← RoomOp.perform (.readRoom roomId)
  pure (members.map (·.info))

def getPeersInRoom (roomId : RoomId) : RoomProg F (List PeerId) := do
  let members ← RoomOp.perform (.readRoom roomId)
  pure ((members.map (·.peers)).getD [])

def peerCount (roomId : RoomId) : RoomProg F Nat := do
  let peers ← getPeersInRoom roomId
  pure peers.length

/-- Edits the room under the lock of the map; a missing room is left alone. -/
def updateRoomInfo (roomId : RoomId) (edit : InfoEdit) :
    RoomProg F (Option (RoomMembers × Instant)) :=
  RoomOp.perform (.updateInfo roomId edit)

/-- Edits the room after the lock of the map has been released; `none` when it was not found. -/
def withRoomWrite (roomId : RoomId) (edit : InfoEdit) :
    RoomProg F (Option (RoomMembers × Instant)) := do
  match ← RoomOp.perform (.getRoom roomId) with
  | none => pure none
  | some arc => do
      let answer ← RoomOp.perform (.updateObject arc edit)
      pure (some answer)

def isParticipantRevoked (roomId : RoomId) (participantId : PeerId) (ttlWindow : Duration) :
    RoomProg F Bool := do
  match ← withRoomWrite roomId (.isParticipantRevoked participantId ttlWindow) with
  | none => pure false
  | some (members, now) => pure (members.info.isParticipantRevoked participantId ttlWindow now).1

end InMemoryRoomState

end Wavis
