import Wavis.Client.CallManager

/-! The native clients join a room with a microphone and either a peer connection, through the proxy
of the backend, or a LiveKit connection, which a media token of the server opens. Kept of a session
is what it holds of these. The lists of tracks and shares and the TURN credentials are left out. -/

namespace Wavis.Call

open Concurrency

inductive RoomError where
  | notInRoom
  | alreadyInRoom
  | sfuConnectionFailed (detail : String)
  /-- The source keeps the text of the cause. -/
  | publishFailed (cause : CallError)
  | audio (detail : String)
  | signaling (detail : String)
  deriving DecidableEq

inductive SfuConnectionMode where
  | proxy
  | liveKit (livekitUrl token : String)
  deriving DecidableEq

structure RoomBackends extends Backends where
  isAvailable : Bool
  connect : Except RoomError Unit
  disconnect : Except RoomError Unit
  send : Except String Unit

structure RoomSession where
  inRoom : Bool
  micOpen : Bool
  connectionOpen : Bool
  liveKitConnected : Bool
  sfuMode : SfuConnectionMode
  storedTrack : Option AudioTrack
  deriving DecidableEq

/-- The messages that the session acts on; an answer or a candidate is passed on to the peer
connection, and changes nothing here. -/
inductive RoomMessage where
  | mediaToken (sfuUrl token : String)
  | other

namespace RoomSession

def new : RoomSession := ⟨false, false, false, false, .proxy, none⟩

def startMedia (s : RoomSession) (backends : RoomBackends) : Except RoomError Unit × RoomSession :=
  if s.inRoom then (.error .alreadyInRoom, s)
  else
    match backends.captureMic with
    | .error e => (.error (.audio e.text), s)
    | .ok track =>
      let s := { s with micOpen := true, storedTrack := some track }
      -- LiveKit takes the track once the media token has come.
      if backends.isAvailable then (.ok (), { s with inRoom := true })
      else
        match backends.createPeerConnection with
        | .error e => (.error (.publishFailed e), s)
        | .ok _ =>
          let s := { s with connectionOpen := true }
          match backends.addAudioTrack with
          | .error e => (.error (.publishFailed e), s)
          | .ok _ => (.ok (), { s with inRoom := true })

def joinRoom (s : RoomSession) (backends : RoomBackends) : Except RoomError Unit × RoomSession :=
  if s.inRoom then (.error .alreadyInRoom, s)
  else
    match backends.send with
    | .error e => (.error (.signaling e), s)
    | .ok _ => s.startMedia backends

/-- `livekit.disconnect()`, in LiveKit mode; its failure is ignored. -/
def disconnect (s : RoomSession) (backends : RoomBackends) : RoomSession :=
  match s.sfuMode with
  | .proxy => s
  | .liveKit _ _ => if backends.disconnect.isOk then { s with liveKitConnected := false } else s

/-- `pc_backend.close()` and `audio.stop()`; their failures are ignored. -/
def stop (s : RoomSession) (backends : RoomBackends) : RoomSession :=
  { s with
    connectionOpen := s.connectionOpen && !backends.close.isOk
    micOpen := s.micOpen && !backends.stop.isOk
    storedTrack := none }

def leaveRoom (s : RoomSession) (backends : RoomBackends) : Except RoomError Unit × RoomSession :=
  if s.inRoom then
    let s := (s.disconnect backends).stop backends
    match backends.send with
    | .error e => (.error (.signaling e), s)
    | .ok _ => (.ok (), { s with inRoom := false })
  else (.error .notInRoom, s)

/-- The handler that `wire_signaling` installs; whether the track is published is ignored. -/
def handleMessage (s : RoomSession) (backends : RoomBackends) : RoomMessage → RoomSession
  | .mediaToken sfuUrl token =>
    match backends.connect with
    | .ok _ => { s with liveKitConnected := true, sfuMode := .liveKit sfuUrl token }
    | .error _ => s
  | .other => s

end RoomSession

inductive RoomEvent where
  | joinRoom (backends : RoomBackends)
  | startMedia (backends : RoomBackends)
  | leaveRoom (backends : RoomBackends)
  | message (msg : RoomMessage) (backends : RoomBackends)

def RoomEvent.apply (s : RoomSession) : RoomEvent → RoomSession
  | joinRoom backends => (s.joinRoom backends).2
  | startMedia backends => (s.startMedia backends).2
  | leaveRoom backends => (s.leaveRoom backends).2
  | message msg backends => s.handleMessage backends msg

/-- Whether the session is outside of rooms after the event: it is so at first and after
`leaveRoom`, also if that fails, until it enters a room. -/
def RoomEvent.outside (s : RoomSession) (before : Bool) : RoomEvent → Bool
  | joinRoom backends => before && !(s.joinRoom backends).1.isOk
  | startMedia backends => before && !(s.startMedia backends).1.isOk
  | leaveRoom _ => true
  | message _ _ => before

def roomSessionMachine : Machine (RoomSession × Bool) RoomEvent where
  next s event := some (event.apply s.1, event.outside s.1 s.2)

end Wavis.Call
