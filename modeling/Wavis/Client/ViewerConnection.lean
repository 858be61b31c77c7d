import Wavis.Concurrency.Machine
import Mathlib.Algebra.Group.Nat.Defs
import Mathlib.Logic.Function.Basic

/-! A window that shows screen shares has a LiveKit room of its own and reconnects by itself. The
code between two awaits is one step. An attempt to connect waits for a token and then for the room,
and the marker `connectPromise` stands from its start to its end; the callback that clears it runs
before any other event. -/

namespace Wavis

open Concurrency

/-- The state of a LiveKit room. `disconnected` is told apart by what has ended the connection. -/
inductive ViewerRoomState where
  | connecting
  | connected
  | reconnecting
  /-- `disconnect()` was called. -/
  | closed
  /-- The room has reported its terminal disconnect, or could not be connected. -/
  | lost
  deriving DecidableEq

/-- The effect of `disconnect()`. -/
def ViewerRoomState.disconnect : ViewerRoomState → ViewerRoomState
  | lost => lost
  | _ => closed

def ViewerRoomState.live : ViewerRoomState → Bool
  | connecting | connected | reconnecting => true
  | closed | lost => false

inductive ConnectStage where
  | requestToken
  | connect (room : Nat)
  deriving DecidableEq

structure ConnectAttempt where
  generation : Nat
  stage : ConnectStage
  deriving DecidableEq

structure ViewerRoomConnection where
  room : Option Nat
  connectPromise : Option ConnectAttempt
  generation : Nat
  attempt : Nat
  reconnectTimer : Option Nat
  disposed : Bool
  watches : List (String × Nat)
  /-- The rooms 0 … `nextRoom` - 1 have been created. -/
  nextRoom : Nat
  rooms : Nat → ViewerRoomState

/-- Exponential backoff in milliseconds, capped at 15 seconds. -/
def computeViewerBackoffMs (attempt : Nat) : Nat := min (1000 * 2 ^ min attempt 31) 15000

inductive ViewerEvent where
  | watch (identity : String) (callback : Nat)
  | unwatch (identity : String) (callback : Nat)
  | refreshIdentity
  | forceReconnect
  | dispose
  | token (arrived : Bool)
  | connect (succeeded : Bool)
  | roomReconnecting (room : Nat)
  | roomReconnected (room : Nat)
  | roomDisconnected (room : Nat)
  | reconnectTimer

namespace ViewerRoomConnection

def initial : ViewerRoomConnection := ⟨none, none, 0, 0, none, false, [], 0, fun _ => .lost⟩

def setRoom (c : ViewerRoomConnection) (room : Nat) (state : ViewerRoomState) :
    ViewerRoomConnection :=
  { c with rooms := Function.update c.rooms room state }

def scheduleReconnect (c : ViewerRoomConnection) : ViewerRoomConnection :=
  if c.disposed || c.reconnectTimer.isSome || c.watches.isEmpty then c
  else
    { c with
      reconnectTimer := some (computeViewerBackoffMs c.attempt), attempt := c.attempt + 1 }

/-- The start of an attempt, up to its first await. -/
def connectOnce (c : ViewerRoomConnection) : ViewerRoomConnection :=
  { c with
    generation := c.generation + 1
    connectPromise := some ⟨c.generation + 1, .requestToken⟩ }

def ensureConnected (c : ViewerRoomConnection) : ViewerRoomConnection :=
  if c.disposed || c.room.map c.rooms = some .connected || c.connectPromise.isSome then c
  else c.connectOnce

/-- What `forceReconnect` and `dispose` have in common. -/
def tearDown (c : ViewerRoomConnection) : ViewerRoomConnection :=
  { c with
    generation := c.generation + 1
    reconnectTimer := none
    room := none
    rooms := match c.room with
      | none => c.rooms
      | some room => Function.update c.rooms room (c.rooms room).disconnect }

def watch (c : ViewerRoomConnection) (identity : String) (callback : Nat) :
    ViewerRoomConnection :=
  if c.disposed then c
  else ensureConnected { c with watches := c.watches.insert (identity, callback) }

def forceReconnect (c : ViewerRoomConnection) : ViewerRoomConnection :=
  if c.disposed then c else ensureConnected { c.tearDown with attempt := 0 }

def dispose (c : ViewerRoomConnection) : ViewerRoomConnection :=
  if c.disposed then c else { c.tearDown with disposed := true, watches := [] }

/-- The attempt goes on only if nothing has overtaken it. -/
def isCurrent (c : ViewerRoomConnection) (generation : Nat) : Bool :=
  !c.disposed && generation = c.generation

def tokenArrived (c : ViewerRoomConnection) (generation : Nat) : ViewerRoomConnection :=
  if c.isCurrent generation then
    { c.setRoom c.nextRoom .connecting with
      room := some c.nextRoom
      nextRoom := c.nextRoom + 1
      connectPromise := some ⟨generation, .connect c.nextRoom⟩ }
  else { c with connectPromise := none }

def connectSucceeded (c : ViewerRoomConnection) (generation room : Nat) : ViewerRoomConnection :=
  if c.isCurrent generation then
    { c.setRoom room .connected with attempt := 0, connectPromise := none }
  else { c.setRoom room .closed with connectPromise := none }

def attemptFailed (c : ViewerRoomConnection) (generation : Nat) : ViewerRoomConnection :=
  if c.isCurrent generation then
    scheduleReconnect { c with room := none, connectPromise := none }
  else { c with connectPromise := none }

def roomDisconnected (c : ViewerRoomConnection) (room : Nat) : ViewerRoomConnection :=
  if c.disposed || c.room ≠ some room then c.setRoom room .lost
  else scheduleReconnect { c.setRoom room .lost with room := none }

/-- A room that has reported its terminal disconnect does not connect any more. -/
def next (c : ViewerRoomConnection) : ViewerEvent → Option ViewerRoomConnection
  | .watch identity callback => some (c.watch identity callback)
  | .unwatch identity callback =>
    some { c with watches := c.watches.erase (identity, callback) }
  | .refreshIdentity => some c.ensureConnected
  | .forceReconnect => some c.forceReconnect
  | .dispose => some c.dispose
  | .token arrived =>
    match c.connectPromise with
    | some ⟨generation, .requestToken⟩ =>
      some (if arrived then c.tokenArrived generation else c.attemptFailed generation)
    | _ => none
  | .connect succeeded =>
    match c.connectPromise with
    | some ⟨generation, .connect room⟩ =>
      if succeeded then
        if c.rooms room = .lost then none else some (c.connectSucceeded generation room)
      else some ((c.setRoom room .lost).attemptFailed generation)
    | _ => none
  | .roomReconnecting room =>
    if c.rooms room = .connected then some (c.setRoom room .reconnecting) else none
  | .roomReconnected room =>
    if c.rooms room = .reconnecting then some (c.setRoom room .connected) else none
  | .roomDisconnected room => if c.rooms room = .lost then none else some (c.roomDisconnected room)
  | .reconnectTimer =>
    if c.reconnectTimer.isSome then some (ensureConnected { c with reconnectTimer := none })
    else none

end ViewerRoomConnection

def viewerMachine : Machine ViewerRoomConnection ViewerEvent := ⟨ViewerRoomConnection.next⟩

end Wavis
