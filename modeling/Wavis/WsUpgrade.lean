import Wavis.Abuse
import Wavis.Concurrency.Machine

/-! The handler of the route checks a request and counts the connection for the address it comes
from. The connection becomes a socket only later, in a task of its own that owns a guard: when the
task ends, for whatever reason, the guard takes the connection off the count. If the connection
breaks before the task has begun, there is no guard. -/

namespace Wavis

open Concurrency

structure UpgradeRequest where
  ip : IpAddr
  /-- A header names HTTPS. -/
  tlsProto : Bool
  /-- The limit on upgrades of all addresses together allows one more. -/
  belowCeiling : Bool
  tempBanned : Bool
  /-- Whether the ticket is known, if there is one. -/
  ticket : Option Bool

inductive UpgradeResponse where
  | forbidden
  | tooManyRequests
  | unauthorized
  | switchingProtocols
  deriving DecidableEq

def wsHandler (requireTls : Bool) (request : UpgradeRequest) (tracker : IpConnectionTracker) :
    UpgradeResponse × IpConnectionTracker :=
  if requireTls && !request.tlsProto then (.forbidden, tracker)
  else if !request.belowCeiling then (.tooManyRequests, tracker)
  else if request.tempBanned then (.tooManyRequests, tracker)
  else
    match request.ticket with
    | none => (.unauthorized, tracker)
    | some false => (.unauthorized, tracker)
    | some true =>
      match tracker.tryAdd request.ip with
      | (false, tracker) => (.tooManyRequests, tracker)
      | (true, tracker) => (.switchingProtocols, tracker)

inductive ConnectionStage where
  | upgrading
  | live
  | ended
  | failed
  deriving DecidableEq

structure WsConnection where
  ip : IpAddr
  stage : ConnectionStage
  deriving DecidableEq

structure WsServer where
  tracker : IpConnectionTracker
  /-- Every connection the handler has agreed to. -/
  connections : List WsConnection

inductive WsEvent where
  | request (request : UpgradeRequest)
  | upgraded (i : Nat)
  | upgradeFailed (i : Nat)
  | socketEnded (i : Nat)

namespace WsServer

def initial (maxPerIp : Nat) : WsServer := ⟨.new maxPerIp, []⟩

def move (s : WsServer) (i : Nat) (stage stage' : ConnectionStage) : Option WsServer :=
  match s.connections[i]? with
  | some connection =>
    if connection.stage = stage then
      some { s with connections := s.connections.set i { connection with stage := stage' } }
    else none
  | none => none

def drop (s : WsServer) (i : Nat) : WsServer :=
  match s.connections[i]? with
  | some connection => { s with tracker := s.tracker.remove connection.ip }
  | none => s

def request (s : WsServer) (requireTls : Bool) (request : UpgradeRequest) : WsServer :=
  match wsHandler requireTls request s.tracker with
  | (.switchingProtocols, tracker) => ⟨tracker, s.connections ++ [⟨request.ip, .upgrading⟩]⟩
  | (_, tracker) => { s with tracker }

def next (requireTls : Bool) (s : WsServer) : WsEvent → Option WsServer
  | .request request => some (s.request requireTls request)
  | .upgraded i => s.move i .upgrading .live
  | .upgradeFailed i => s.move i .upgrading .failed
  | .socketEnded i => (s.move i .live .ended).map fun s => s.drop i

end WsServer

def wsMachine (requireTls : Bool) : Machine WsServer WsEvent where
  next := WsServer.next requireTls

end Wavis
