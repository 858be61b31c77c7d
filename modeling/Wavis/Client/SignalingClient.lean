import Mathlib.Algebra.Group.Nat.Defs
import Wavis.Concurrency.Machine

/-! The client of the desktop application keeps one WebSocket to the backend and reconnects by
itself. The code between two awaits is one step, and in between callers, timers, the answers of
requests and the events of sockets come in any order. The state below is the fields of the class
together with what the event loop holds for it: every socket it has ever opened, the timeouts that
are pending and the connect attempts that are suspended at an await.

A failed connection reports an error and its end in one task, so the two events are one here. -/

namespace Wavis

open Concurrency

inductive WsStatus where
  | disconnected
  | connecting
  | connected
  deriving DecidableEq

inductive ReadyState where
  | connecting
  | open
  | closing
  | closed
  deriving DecidableEq

structure Socket where
  /-- Where its handlers reconnect to. -/
  wsUrl : String
  ticket : Option String
  readyState : ReadyState
  deriving DecidableEq

def ReadyState.close : ReadyState → ReadyState
  | connecting => closing
  | .open => closing
  | closing => closing
  | closed => closed

def Socket.close (socket : Socket) : Socket :=
  { socket with readyState := socket.readyState.close }

def Socket.alive (socket : Socket) : Bool :=
  socket.readyState = .connecting || socket.readyState = .open

structure Timeout where
  id : Nat
  wsUrl : String
  delayMs : Nat
  deriving DecidableEq

inductive Awaiting where
  | isTokenExpired
  | refreshTokens
  | fetchWsTicket
  deriving DecidableEq

inductive Starter where
  | caller
  | fastRetry
  | periodicRetry
  deriving DecidableEq

structure Attempt where
  wsUrl : String
  starter : Starter
  awaiting : Awaiting
  deriving DecidableEq

inductive LastCall where
  | connect
  | disconnect
  deriving DecidableEq

structure SignalingClient where
  ws : Option Nat
  reconnectTimer : Option Nat
  keepaliveTimer : Bool
  /-- The address that the pending interval retries. -/
  periodicRetryTimer : Option String
  reconnectAttempt : Nat
  intentionalDisconnect : Bool
  status : WsStatus
  reconnectExhausted : Bool
  sockets : List Socket
  timeouts : List Timeout
  nextTimeout : Nat
  attempts : List Attempt
  /-- Which no code reads. -/
  lastCall : Option LastCall
  /-- The fast retries since a socket opened, which no code reads. -/
  retries : Nat
  deriving DecidableEq

namespace SignalingClient

def maxReconnectAttempt : Nat := 10

def initial : SignalingClient where
  ws := none
  reconnectTimer := none
  keepaliveTimer := false
  periodicRetryTimer := none
  reconnectAttempt := 0
  intentionalDisconnect := false
  status := .disconnected
  reconnectExhausted := false
  sockets := []
  timeouts := []
  nextTimeout := 0
  attempts := []
  lastCall := none
  retries := 0

def setStatus (c : SignalingClient) (next : WsStatus) : SignalingClient :=
  { c with status := next, keepaliveTimer := next = .connected }

def stopPeriodicRetry (c : SignalingClient) : SignalingClient :=
  { c with periodicRetryTimer := none }

def startPeriodicRetry (c : SignalingClient) (url : String) : SignalingClient :=
  { c.stopPeriodicRetry with periodicRetryTimer := some url }

/-- The handle of an older timeout is overwritten, and the timeout stays. -/
def scheduleReconnect (c : SignalingClient) (url : String) : SignalingClient :=
  if maxReconnectAttempt ≤ c.reconnectAttempt then
    { c with reconnectExhausted := true }.startPeriodicRetry url
  else
    { c with
      reconnectAttempt := c.reconnectAttempt + 1
      reconnectTimer := some c.nextTimeout
      timeouts := c.timeouts ++ [⟨c.nextTimeout, url, min (1000 * 2 ^ c.reconnectAttempt) 30000⟩]
      nextTimeout := c.nextTimeout + 1
      retries := c.retries + 1 }

def clearReconnectTimer (c : SignalingClient) : SignalingClient :=
  { c with
    timeouts := c.timeouts.filter fun timeout => c.reconnectTimer ≠ some timeout.id
    reconnectTimer := none }

def closeSocket (c : SignalingClient) : SignalingClient :=
  { c with
    sockets :=
      match c.ws with
      | some i => c.sockets.modify i Socket.close
      | none => c.sockets }

def disconnect (c : SignalingClient) : SignalingClient :=
  let c := { c with intentionalDisconnect := true }.clearReconnectTimer
  let c := { c with reconnectExhausted := false }.stopPeriodicRetry
  { c.closeSocket with ws := none }.setStatus .disconnected

def openSocket (c : SignalingClient) (wsUrl : String) (ticket : Option String) :
    SignalingClient :=
  let c := if c.ws.isSome then c.disconnect else c
  let c := { c with intentionalDisconnect := false }.setStatus .connecting
  { c with sockets := c.sockets ++ [⟨wsUrl, ticket, .connecting⟩], ws := some c.sockets.length }

def onopen (c : SignalingClient) : SignalingClient :=
  { c.setStatus .connected with
    reconnectAttempt := 0, reconnectExhausted := false, retries := 0 }.stopPeriodicRetry

/-- The connection has ended, or could not be made. -/
def retryUnlessIntentional (c : SignalingClient) (wsUrl : String) : SignalingClient :=
  if c.intentionalDisconnect then c else c.scheduleReconnect wsUrl

def onclose (c : SignalingClient) (wsUrl : String) : SignalingClient :=
  { c.setStatus .disconnected with ws := none }.retryUnlessIntentional wsUrl

def onerror (c : SignalingClient) : SignalingClient := c.closeSocket

/-- A token or a ticket was refused before there was a socket. -/
def connectFailed (c : SignalingClient) (wsUrl : String) : SignalingClient :=
  (c.setStatus .disconnected).retryUnlessIntentional wsUrl

/-- `connectWithAuth` up to its first await. -/
def connectWithAuth (c : SignalingClient) (wsUrl : String) (starter : Starter) :
    SignalingClient :=
  { c with attempts := c.attempts ++ [⟨wsUrl, starter, .isTokenExpired⟩] }

def reconnectWithNewToken (c : SignalingClient) (wsUrl : String) : SignalingClient :=
  let c := { c with intentionalDisconnect := true }.clearReconnectTimer.stopPeriodicRetry
  { c.closeSocket with ws := none }.connectWithAuth wsUrl .caller

def await (c : SignalingClient) (i : Nat) (awaiting : Awaiting) : SignalingClient :=
  { c with attempts := c.attempts.modify i fun attempt => { attempt with awaiting } }

def endAttempt (c : SignalingClient) (i : Nat) : SignalingClient :=
  { c with attempts := c.attempts.eraseIdx i }

def retryPeriodically (c : SignalingClient) (url : String) : SignalingClient :=
  if c.status = .connected ∨ c.intentionalDisconnect then c.stopPeriodicRetry
  else { c with reconnectAttempt := 0 }.connectWithAuth url .periodicRetry

def setReadyState (c : SignalingClient) (i : Nat) (readyState : ReadyState) : SignalingClient :=
  { c with sockets := c.sockets.modify i fun socket => { socket with readyState } }

end SignalingClient

inductive ClientEvent where
  | connect (url : String)
  | connectWithAuth (wsUrl : String)
  | reconnectWithNewToken (wsUrl : String)
  | disconnect
  /-- The answers to the requests of an attempt. -/
  | tokenExpired (attempt : Nat) (expired : Bool)
  | tokensRefreshed (attempt : Nat) (success : Bool)
  | ticketFetched (attempt : Nat) (ticket : Option String)
  | timeout (id : Nat)
  | interval
  | opened (socket : Nat)
  | closed (socket : Nat) (failed : Bool)
  deriving DecidableEq

namespace SignalingClient

def called (c : SignalingClient) (call : LastCall) : SignalingClient :=
  { c with lastCall := some call }

def next (c : SignalingClient) : ClientEvent → Option SignalingClient
  | .connect url => some ((c.openSocket url none).called .connect)
  | .connectWithAuth wsUrl => some ((c.connectWithAuth wsUrl .caller).called .connect)
  | .reconnectWithNewToken wsUrl => some ((c.reconnectWithNewToken wsUrl).called .connect)
  | .disconnect => some (c.disconnect.called .disconnect)
  | .tokenExpired i expired =>
    match c.attempts[i]? with
    | some ⟨_, _, .isTokenExpired⟩ =>
      some (c.await i (if expired then .refreshTokens else .fetchWsTicket))
    | _ => none
  | .tokensRefreshed i success =>
    match c.attempts[i]? with
    | some ⟨wsUrl, _, .refreshTokens⟩ =>
      if success then some (c.await i .fetchWsTicket)
      else some ((c.endAttempt i).connectFailed wsUrl)
    | _ => none
  | .ticketFetched i ticket =>
    match c.attempts[i]?, ticket with
    | some ⟨wsUrl, _, .fetchWsTicket⟩, some ticket =>
      some ((c.endAttempt i).openSocket wsUrl (some ticket))
    | some ⟨wsUrl, _, .fetchWsTicket⟩, none => some ((c.endAttempt i).connectFailed wsUrl)
    | _, _ => none
  | .timeout id =>
    match c.timeouts.find? fun timeout => timeout.id = id with
    | some timeout =>
      some ({ c with
        timeouts := c.timeouts.filter fun other => other.id ≠ id
        reconnectTimer := none }.connectWithAuth timeout.wsUrl .fastRetry)
    | none => none
  | .interval => c.periodicRetryTimer.map c.retryPeriodically
  | .opened i =>
    match c.sockets[i]? with
    | some ⟨_, _, .connecting⟩ => some (c.setReadyState i .open).onopen
    | _ => none
  | .closed i failed =>
    match c.sockets[i]? with
    | some ⟨_, _, .closed⟩ => none
    | some socket =>
      let c := c.setReadyState i .closed
      some ((if failed then c.onerror else c).onclose socket.wsUrl)
    | none => none

end SignalingClient

def signalingClient : Machine SignalingClient ClientEvent := ⟨SignalingClient.next⟩

end Wavis
