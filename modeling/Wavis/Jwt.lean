import Wavis.RoomInfo
import Wavis.Text

/-! A token is signed with the configured keys; the system clock and the encoder of the libraries
may fail at any time. -/

namespace Wavis

inductive SfuError where
  | unavailable (reason : String)
  | roomNotFound (reason : String)
  | participantError (reason : String)
  | transportError (reason : String)
  | tokenError (reason : String)
  | roomFull
  | inviteExhausted
  | invalidInput (reason : String)
  | unauthorized (reason : String)
  deriving DecidableEq

def SfuError.text : SfuError → String
  | unavailable reason => s!"SFU unavailable: {reason}"
  | roomNotFound reason => s!"room not found: {reason}"
  | participantError reason => s!"participant error: {reason}"
  | transportError reason => s!"transport error: {reason}"
  | tokenError reason => s!"token error: {reason}"
  | roomFull => "room is full"
  | inviteExhausted => "invite exhausted"
  | invalidInput reason => s!"invalid input: {reason}"
  | unauthorized reason => s!"unauthorized: {reason}"

def defaultTokenTtlSecs : Nat := 21600

def livekitTokenTtlSecs : Nat := 21600

/-- How the server signs media tokens. -/
inductive TokenMode where
  | custom (jwtSecret issuer : String) (ttlSecs : Nat)
  | livekit (apiKey apiSecret : String) (ttlSecs : Nat)

def TokenMode.ttlSecs : TokenMode → Nat
  | custom _ _ ttlSecs => ttlSecs
  | livekit _ _ ttlSecs => ttlSecs

def TokenMode.ttlWindow (mode : TokenMode) : Duration := Duration.fromSecs mode.ttlSecs

def signMediaToken (roomId participantId secret issuer : String) (ttlSecs nowSecs : Nat)
    (clockFault encodeFault : Option String) : Except SfuError SignedToken :=
  if secret.utf8ByteSize < 32 then
    .error (.tokenError "SFU_JWT_SECRET must be at least 32 bytes")
  else
    match clockFault, encodeFault with
    | some e, _ => .error (.tokenError s!"system time error: {e}")
    | none, some e => .error (.tokenError s!"JWT signing failed: {e}")
    | none, none => .ok (.media roomId participantId issuer nowSecs ttlSecs)

def signLivekitToken (roomId participantId displayName apiKey apiSecret : String)
    (ttlSecs nowSecs : Nat) (encodeFault : Option String) : Except SfuError SignedToken :=
  if apiKey = "" ∨ apiSecret = "" then
    .error (.tokenError "LiveKit api_key and api_secret must be non-empty")
  else if roomId = "" ∨ participantId = "" then
    .error (.tokenError "room_id and participant_id must be non-empty")
  else
    match encodeFault with
    | some e => .error (.tokenError s!"LiveKit token signing failed: {e}")
    | none => .ok (.livekit roomId participantId displayName nowSecs ttlSecs)

def signLivekitViewerToken (roomId viewerIdentity apiKey apiSecret : String)
    (ttlSecs nowSecs : Nat) (encodeFault : Option String) : Except SfuError SignedToken :=
  if apiKey = "" ∨ apiSecret = "" then
    .error (.tokenError "LiveKit api_key and api_secret must be non-empty")
  else if roomId = "" ∨ viewerIdentity = "" then
    .error (.tokenError "room_id and viewer_identity must be non-empty")
  else
    match encodeFault with
    | some e => .error (.tokenError s!"LiveKit viewer token signing failed: {e}")
    | none => .ok (.livekitViewer roomId viewerIdentity nowSecs ttlSecs)

/-- The durable user id where there is one, otherwise the id of the connection. -/
def livekitIdentity (peerId : PeerId) (userId : Option String) : String := userId.getD peerId

def validateIdentifier (value label : String) : Except SfuError Unit :=
  if value = "" ∨ value.utf8ByteSize > 128 then
    .error (.invalidInput s!"{label} must be 1–128 characters")
  else if !value.toList.all isIdentifierChar then
    .error (.invalidInput s!"{label} must contain only ASCII alphanumeric, hyphens, underscores")
  else .ok ()

end Wavis
