import Wavis.Backend
import Wavis.Concurrency.Locks

/-! Every section of the room state takes its locks, does its work and gives them back. What the
work reads is left open, so the runs include those of any state of the rooms and of the invites. -/

namespace Wavis

open Concurrency InMemoryRoomState

inductive RoomLock where
  | rooms
  | room (arc : ArcId)
  | peerToRoom
  | invites
  | roomInviteCounts
  deriving DecidableEq

inductive LockedWork where
  | perform (o : RoomOp JoinCheck)
  /-- The lookup of a room in the map. -/
  | get (roomId : RoomId)
  /-- Whether the peer is new to the room and finds a place, so that the closure is called. -/
  | callsClosure (arc : ArcId) (peerId : PeerId)
  | values

@[reducible] def LockedWork.Answer : LockedWork → Type
  | perform o => o.Resp
  | get _ => Option ArcId
  | callsClosure _ _ => Bool
  | values => List ArcId

abbrev LockedProg (α : Type) := LockProg RoomLock LockedWork.Answer α

def LockedWork.run (work : LockedWork) : LockedProg work.Answer := LockOp.perform (.work work)

/-- Works on a room while the lock of the map is held, and on nothing if there is no such room. -/
def inRoom {α : Type} (roomId : RoomId) (access : Access) (body : LockedProg α) :
    LockedProg α :=
  withLock .rooms .read do
    match ← LockedWork.run (.get roomId) with
    | none => body
    | some arc => withLock (.room arc) access body

def readRooms : LockedProg Unit := do
  let rooms ← LockedWork.run .values
  Prog.each (fun arc => withLock (.room arc) .read (pure ())) rooms

/-- The locks that a section holds while it does its work. -/
def RoomOp.underLocks {α : Type} (body : LockedProg α) : RoomOp JoinCheck → LockedProg α
  | createRoom _ _ => withLock .rooms .write body
  | ensureRoom _ => withLock .rooms .write body
  | getRoom _ => withLock .rooms .read body
  | removeRoom _ => withLock .rooms .write body
  | checkEmpty roomId => inRoom roomId .read body
  | tryPush arc peerId f => withLock (.room arc) .write do
      if f.isSome && (← LockedWork.run (.callsClosure arc peerId)) then
        -- `validate_and_consume`
        withLock .invites .write (pure ())
      body
  | pushUnlessMoving arc _ _ => withLock (.room arc) .write do
      withLock .peerToRoom .read (pure ())
      body
  | push arc _ => withLock (.room arc) .write body
  | retainPeers arc _ => withLock (.room arc) .write body
  | linkPeer _ _ => withLock .peerToRoom .write body
  | unlinkPeer _ => withLock .peerToRoom .write body
  | getRoomForPeer _ => withLock .peerToRoom .read body
  | readRoom roomId => inRoom roomId .read body
  | updateInfo roomId _ => inRoom roomId .write body
  | updateObject arc _ => withLock (.room arc) .write body
  | roomsNeedingTokenRefresh _ => withLock .rooms .read do
      readRooms
      body

def RoomOp.locked (o : RoomOp JoinCheck) : LockedProg o.Resp :=
  o.underLocks (LockedWork.run (.perform o))

/-- The operations of the room state and of the invite store. -/
inductive LockedCall where
  | createRoom (roomId : RoomId) (info : RoomInfo)
  | removeEmptyRoom (roomId : RoomId)
  | getRoomInfo (roomId : RoomId)
  | updateRoomInfo (roomId : RoomId) (edit : InfoEdit)
  | peerCount (roomId : RoomId)
  | withRoomWrite (roomId : RoomId) (edit : InfoEdit)
  | tryAddPeerWith (peerId : PeerId) (roomId : RoomId) (f : JoinCheck)
  | addPeer (peerId : PeerId) (roomId : RoomId)
  | removePeer (peerId : PeerId)
  | removePeerPreserveRoom (peerId : PeerId)
  | snapshotRooms
  | activeRoomCount
  | totalParticipantCount
  | snapshotRoomIds
  | roomsNeedingTokenRefresh (refreshAfterSecs : Nat)
  | getRoomForPeer (peerId : PeerId)
  | getPeersInRoom (roomId : RoomId)
  | generate
  | validate
  | consumeUse
  | validateAndConsume
  | revoke
  | revokeAuthorized
  | removeRoomInvites
  | sweepExpired
  | roomInviteCount
  | totalInviteCount

def lockedRoomState {α : Type} (program : RoomProg JoinCheck α) : LockedProg Unit := do
  let _ ← program.expand RoomOp.locked
  pure ()

def lockInvitesAndCounts : LockedProg Unit :=
  withLock .invites .write (withLock .roomInviteCounts .write (pure ()))

def LockedCall.body : LockedCall → LockedProg Unit
  | createRoom roomId info => lockedRoomState (InMemoryRoomState.createRoom roomId info)
  | removeEmptyRoom roomId => lockedRoomState (InMemoryRoomState.removeEmptyRoom roomId)
  | getRoomInfo roomId => lockedRoomState (InMemoryRoomState.getRoomInfo roomId)
  | updateRoomInfo roomId edit => lockedRoomState (InMemoryRoomState.updateRoomInfo roomId edit)
  | peerCount roomId => lockedRoomState (InMemoryRoomState.peerCount roomId)
  | withRoomWrite roomId edit => lockedRoomState (InMemoryRoomState.withRoomWrite roomId edit)
  | tryAddPeerWith peerId roomId f =>
    lockedRoomState (InMemoryRoomState.tryAddPeerWith peerId roomId f)
  | addPeer peerId roomId => lockedRoomState (InMemoryRoomState.addPeer peerId roomId)
  | removePeer peerId => lockedRoomState (InMemoryRoomState.removePeer peerId)
  | removePeerPreserveRoom peerId =>
    lockedRoomState (InMemoryRoomState.removePeerPreserveRoom peerId)
  | snapshotRooms => withLock .rooms .read readRooms
  | activeRoomCount => withLock .rooms .read (pure ())
  | totalParticipantCount => withLock .rooms .read readRooms
  | snapshotRoomIds => withLock .rooms .read (pure ())
  | roomsNeedingTokenRefresh refreshAfterSecs =>
    lockedRoomState (RoomOp.perform (.roomsNeedingTokenRefresh refreshAfterSecs))
  | getRoomForPeer peerId => lockedRoomState (InMemoryRoomState.getRoomForPeer peerId)
  | getPeersInRoom roomId => lockedRoomState (InMemoryRoomState.getPeersInRoom roomId)
  | generate => lockInvitesAndCounts
  | validate => withLock .invites .read (pure ())
  | consumeUse => withLock .invites .write (pure ())
  | validateAndConsume => withLock .invites .write (pure ())
  | revoke => withLock .invites .write (pure ())
  | revokeAuthorized => withLock .invites .write (pure ())
  | removeRoomInvites => lockInvitesAndCounts
  | sweepExpired => lockInvitesAndCounts
  | roomInviteCount => withLock .roomInviteCounts .read (pure ())
  | totalInviteCount => withLock .invites .read (pure ())

/-- The program of an operation. -/
def IsOperation (program : LockedProg Unit) : Prop := ∃ call : LockedCall, program = call.body

end Wavis
