import Wavis.Client.CallManager

/-! The session puts a user interface and a signaling connection around the manager of a call.
Messages are sent with their failures ignored, but for the offer. -/

namespace Wavis.Call

open Concurrency

structure CallSession where
  manager : CallManager
  turnUsername : String
  turnCredential : String
  /-- A callback for call states is registered. -/
  listening : Bool
  /-- The state the callback was called with last. -/
  reported : Option CallState
  deriving DecidableEq

def maxSdpSize : Nat := 64 * 1024

def checkSdpSize (sdp : String) : Bool := sdp.utf8ByteSize ≤ maxSdpSize

def checkIceCandidateSize (candidate : String) : Bool := candidate.utf8ByteSize ≤ 2 * 1024

inductive CallMessage where
  | offer (sdp : String)
  | answer (sdp : String)
  | iceCandidate (candidate : String)
  | peerLeft
  | other

namespace CallSession

def new (turnUsername turnCredential : String) : CallSession :=
  ⟨.new, turnUsername, turnCredential, false, none⟩

def notifyState (s : CallSession) (state : CallState) : CallSession :=
  if s.listening then { s with reported := some state } else s

def onCallStateChanged (s : CallSession) : CallSession := { s with listening := true }

def initiateCall (s : CallSession) (backends : Backends) (send : Except String Unit) :
    Except CallError Unit × CallSession :=
  match s.manager.startCall backends with
  | (.error e, manager) => (.error e, { s with manager })
  | (.ok _, manager) => (send.mapError .signalingError, { s with manager })

def clearCredentials (s : CallSession) : CallSession :=
  { s with turnUsername := "", turnCredential := "" }

def endCall (s : CallSession) (backends : Backends) : Except CallError Unit × CallSession :=
  match s.manager.hangup backends with
  | (.error e, manager) => (.error e, { s with manager })
  | (.ok _, manager) => (.ok (), ({ s with manager }.clearCredentials).notifyState .closed)

/-- The handler that `wire_incoming_signaling` installs. -/
def handleMessage (s : CallSession) (backends : Backends) : CallMessage → CallSession
  | .offer sdp =>
    if checkSdpSize sdp then
      match s.manager.acceptCall backends with
      | (.ok _, manager) => { s with manager }
      | (.error _, manager) => { s with manager }.notifyState .failed
    else s
  | .answer sdp =>
    if checkSdpSize sdp then { s with manager := (s.manager.setAnswer backends).2 } else s
  | .iceCandidate candidate =>
    if checkIceCandidateSize candidate then
      { s with manager := (s.manager.addIceCandidate backends).2 }
    else s
  | .peerLeft => { s with manager := (s.manager.hangup backends).2 }.notifyState .closed
  | .other => s

/-- The manager's handler, and after it the one of `wire_connection_state_forwarding`. -/
def connectionStateChanged (s : CallSession) (state : ConnectionState) (backends : Backends) :
    CallSession :=
  let manager := s.manager.connectionStateChanged state backends
  let s := { s with manager }.notifyState manager.state
  if state = .failed then s.notifyState .failed else s

end CallSession

inductive SessionEvent where
  | onCallStateChanged
  | initiateCall (backends : Backends) (send : Except String Unit)
  | endCall (backends : Backends)
  | message (msg : CallMessage) (backends : Backends)
  /-- The peer connection reports its state; nobody listens before the first call. -/
  | connectionState (state : ConnectionState) (backends : Backends)

def SessionEvent.apply (s : CallSession) : SessionEvent → CallSession
  | onCallStateChanged => s.onCallStateChanged
  | initiateCall backends send => (s.initiateCall backends send).2
  | endCall backends => (s.endCall backends).2
  | message msg backends => s.handleMessage backends msg
  | connectionState state backends =>
    if s.manager.handled then s.connectionStateChanged state backends else s

def CallState.free : CallState → Bool
  | idle => true
  | closed => true
  | _ => false

/-- A call is started or accepted: the manager is asked for one while it has none. -/
def SessionEvent.begins (s : CallSession) : SessionEvent → Bool
  | initiateCall _ _ => s.manager.state.free
  | message (.offer sdp) _ => checkSdpSize sdp && s.manager.state.free
  | _ => false

def callSessionMachine : Machine (CallSession × Bool) SessionEvent where
  next s event := some (event.apply s.1, s.2 || event.begins s.1)

end Wavis.Call
