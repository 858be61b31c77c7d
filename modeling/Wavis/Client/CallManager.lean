import Wavis.Concurrency.Machine

/-! The native clients drive one call at a time through a microphone and a peer connection, each
behind a backend that may fail at any of its operations. Kept of the backends is whether the
microphone captures and whether a peer connection is open. The forwarding of events to the owner of
the manager is left out, and so is playback. -/

namespace Wavis.Call

open Concurrency

inductive AudioError where
  | microphoneDenied
  | outputUnavailable
  | other (reason : String)
  deriving DecidableEq

def AudioError.text : AudioError → String
  | microphoneDenied => "microphone access denied"
  | outputUnavailable => "no audio output available"
  | other reason => "audio backend error: " ++ reason

inductive CallError where
  | microphoneDenied
  | negotiationFailed (detail : String)
  | iceFailed
  | signalingError (detail : String)
  | alreadyInCall
  | noActiveCall
  | audio (detail : String)
  deriving DecidableEq

def CallError.ofAudio : AudioError → CallError
  | .microphoneDenied => .microphoneDenied
  | e => .audio e.text

inductive CallState where
  | idle
  | negotiating
  | connecting
  | connected
  | failed
  | closed
  deriving DecidableEq

inductive ConnectionState where
  | new
  | checking
  | connected
  | completed
  | failed
  | disconnected
  | closed
  deriving DecidableEq

structure AudioTrack where
  id : String
  deriving DecidableEq

structure Backends where
  createPeerConnection : Except CallError Unit
  captureMic : Except AudioError AudioTrack
  addAudioTrack : Except CallError Unit
  createOffer : Except CallError String
  createAnswer : Except CallError String
  setRemoteAnswer : Except CallError Unit
  addIceCandidate : Except CallError Unit
  close : Except CallError Unit
  stop : Except AudioError Unit

structure CallManager where
  state : CallState
  /-- The handler of connection states is installed. -/
  handled : Bool
  micOpen : Bool
  connectionOpen : Bool
  deriving DecidableEq

namespace CallManager

def new : CallManager := ⟨.idle, false, false, false⟩

def setState (m : CallManager) (state : CallState) : CallManager := { m with state }

/-- `pc_backend.close()`; its failure is ignored. -/
def closeConnection (m : CallManager) (backends : Backends) : CallManager :=
  if backends.close.isOk then { m with connectionOpen := false } else m

/-- `audio.stop()`; its failure is ignored. -/
def stopAudio (m : CallManager) (backends : Backends) : CallManager :=
  if backends.stop.isOk then { m with micOpen := false } else m

/-- The part that starting and accepting a call share: everything up to the description that the
peer connection makes of itself. -/
def openCall (m : CallManager) (backends : Backends) (describe : Except CallError String) :
    Except CallError String × CallManager :=
  if m.state ≠ .idle ∧ m.state ≠ .closed then (.error .alreadyInCall, m)
  else
    match backends.createPeerConnection with
    | .error e => (.error e, m)
    | .ok _ =>
      let m := { m with connectionOpen := true, handled := true }
      match backends.captureMic with
      | .error e => (.error (.ofAudio e), m)
      | .ok _ =>
        let m := { m with micOpen := true }
        match backends.addAudioTrack, describe with
        | .error e, _ => (.error e, m)
        | .ok _, .error e => (.error e, m)
        | .ok _, .ok sdp => (.ok sdp, m.setState .negotiating)

def startCall (m : CallManager) (backends : Backends) : Except CallError String × CallManager :=
  m.openCall backends backends.createOffer

/-- The answer is made from the offer by the backend. -/
def acceptCall (m : CallManager) (backends : Backends) : Except CallError String × CallManager :=
  m.openCall backends backends.createAnswer

def setAnswer (m : CallManager) (backends : Backends) : Except CallError Unit × CallManager :=
  if m.state ≠ .negotiating ∧ m.state ≠ .connecting then (.error .noActiveCall, m)
  else
    match backends.setRemoteAnswer with
    | .error e => (.error e, m)
    | .ok _ => (.ok (), m.setState .connecting)

def addIceCandidate (m : CallManager) (backends : Backends) : Except CallError Unit × CallManager :=
  (match m.state with
    | .negotiating | .connecting | .connected => backends.addIceCandidate
    | _ => .error .noActiveCall, m)

def hangup (m : CallManager) (backends : Backends) : Except CallError Unit × CallManager :=
  if m.state = .idle ∨ m.state = .closed then (.ok (), m)
  else (.ok (), ((m.closeConnection backends).stopAudio backends).setState .closed)

/-- The handler that `install_connection_state_handler` installs. -/
def connectionStateChanged (m : CallManager) (state : ConnectionState) (backends : Backends) :
    CallManager :=
  match state with
  | .connected => m.setState .connected
  | .completed => m.setState .connected
  | .failed => (((m.setState .failed).closeConnection backends).stopAudio backends)
  | .checking => m.setState .connecting
  | .closed => m.setState .closed
  | .new => m
  | .disconnected => m

end CallManager

inductive CallEvent where
  | startCall (backends : Backends)
  | acceptCall (backends : Backends)
  | setAnswer (backends : Backends)
  | addIceCandidate (backends : Backends)
  | hangup (backends : Backends)
  /-- The peer connection reports its state; nobody listens before the first call. -/
  | connectionState (state : ConnectionState) (backends : Backends)

def CallEvent.apply (m : CallManager) : CallEvent → CallManager
  | startCall backends => (m.startCall backends).2
  | acceptCall backends => (m.acceptCall backends).2
  | setAnswer backends => (m.setAnswer backends).2
  | addIceCandidate backends => (m.addIceCandidate backends).2
  | hangup backends => (m.hangup backends).2
  | connectionState state backends =>
    if m.handled then m.connectionStateChanged state backends else m

def callMachine : Machine CallManager CallEvent where
  next m event := some (event.apply m)

end Wavis.Call
