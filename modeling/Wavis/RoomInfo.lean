import Wavis.Collections
import Wavis.Signaling

/-! The record a room keeps beside its peer list, and the operations on it that read or change one
room only. Instants and durations are counted in nanoseconds. -/

namespace Wavis

abbrev PeerId := String
abbrev RoomId := String
abbrev SfuRoomHandle := String
abbrev Instant := Nat
abbrev Duration := Nat

def Duration.fromSecs (secs : Nat) : Duration := secs * 1000000000

def Duration.asSecs (duration : Duration) : Nat := duration / 1000000000

inductive RoomType where
  | p2p
  | sfu
  deriving DecidableEq

inductive SharePermission where
  | allParticipants
  | hostOnly
  deriving DecidableEq

def SharePermission.toWire : SharePermission → WireSharePermission
  | .allParticipants => .anyone
  | .hostOnly => .hostOnly

def SharePermission.ofWire : WireSharePermission → SharePermission
  | .anyone => .allParticipants
  | .hostOnly => .hostOnly

/-- How a participant's sub-room was chosen. -/
inductive SubRoomMembershipSource where
  | explicit
  | legacyRoomOneFallback
  deriving DecidableEq

structure SubRoomInfo where
  subRoomId : String
  roomNumber : Nat
  isDefault : Bool
  participantIds : List String
  /-- When an empty room is deleted; `none` for ROOM 1 and for rooms with participants. -/
  deleteAt : Option Instant

def SubRoomInfo.roomOne (subRoomId : String) : SubRoomInfo where
  subRoomId
  roomNumber := 1
  isDefault := true
  participantIds := []
  deleteAt := none

structure PassthroughPair where
  sourceSubRoomId : String
  targetSubRoomId : String
  deriving DecidableEq

structure SubRoomState where
  rooms : List SubRoomInfo
  participantAssignments : HashMap String String
  membershipSources : HashMap String SubRoomMembershipSource
  activePassthrough : Option PassthroughPair
  passthroughEnabled : Bool
  passthroughVolumePercent : Nat
  passthroughFiltersEnabled : Bool
  passthroughFilterStrength : Nat

def SubRoomState.new (roomOneId : String) : SubRoomState where
  rooms := [.roomOne roomOneId]
  participantAssignments := ∅
  membershipSources := ∅
  activePassthrough := none
  passthroughEnabled := false
  passthroughVolumePercent := 20
  passthroughFiltersEnabled := true
  passthroughFilterStrength := 50

def maxViewerIdentitiesPerPeer : Nat := 8

structure RoomInfo where
  roomType : RoomType
  sfuHandle : Option SfuRoomHandle
  maxParticipants : Nat
  participants : List ParticipantInfo
  /-- When each participant's media token was last issued. -/
  tokenIssuedAt : HashMap String Instant
  mediaConnected : HashSet String
  /-- Participants removed by a kick or a leave, with the time of the removal. -/
  revokedParticipants : HashMap String Instant
  activeShares : HashSet String
  activeShareTypes : HashMap String (HashSet WireShareType)
  sharePermission : SharePermission
  /-- Sub-rooms of a channel voice session; `none` in legacy rooms. -/
  subRoomState : Option SubRoomState
  /-- Hidden viewer identities issued to each peer. -/
  viewerIdentities : HashMap String (HashSet String)
  p2pCapacity : roomType = .p2p → maxParticipants = 2

namespace RoomInfo

def newP2p : RoomInfo where
  roomType := .p2p
  sfuHandle := none
  maxParticipants := 2
  participants := []
  tokenIssuedAt := ∅
  mediaConnected := ∅
  revokedParticipants := ∅
  activeShares := ∅
  activeShareTypes := ∅
  sharePermission := .allParticipants
  subRoomState := none
  viewerIdentities := ∅
  p2pCapacity _ := rfl

def newSfu (maxParticipants : Nat) (sfuHandle : SfuRoomHandle) : RoomInfo where
  roomType := .sfu
  sfuHandle := some sfuHandle
  maxParticipants := max 3 (min maxParticipants 6)
  participants := []
  tokenIssuedAt := ∅
  mediaConnected := ∅
  revokedParticipants := ∅
  activeShares := ∅
  activeShareTypes := ∅
  sharePermission := .allParticipants
  subRoomState := none
  viewerIdentities := ∅
  p2pCapacity h := by cases h

def addRevokedParticipant (participantId : String) (now : Instant) (info : RoomInfo) : RoomInfo :=
  { info with revokedParticipants := info.revokedParticipants.insert participantId now }

/-- Drops the entries older than the window and tells whether the participant is still listed. -/
def isParticipantRevoked (participantId : String) (ttlWindow : Duration) (now : Instant)
    (info : RoomInfo) : Bool × RoomInfo :=
  let revoked := info.revokedParticipants.retain fun _ revokedAt => now - revokedAt < ttlWindow
  ((revoked.lookup participantId).isSome, { info with revokedParticipants := revoked })

def recordTokenIssued (peerId : PeerId) (now : Instant) (info : RoomInfo) : RoomInfo :=
  { info with tokenIssuedAt := info.tokenIssuedAt.insert peerId now }

/-- The text from the last occurrence of `needle` on. -/
def rfindSuffix (needle text : String) : Option String :=
  (text.toList.tails.reverse.find? fun tail => needle.toList.isPrefixOf tail).map String.ofList

/-- Records a viewer identity; `false` when the peer already holds the maximum. An identity issued
again for the same window replaces the old one. -/
def recordViewerIdentity (peerId : PeerId) (identity : String) (info : RoomInfo) :
    Bool × RoomInfo :=
  let entries := (info.viewerIdentities.lookup peerId).getD ∅
  let entries := match rfindSuffix "-vw-" identity with
    | some suffix =>
      entries.retain fun existing _ => !suffix.toList.isSuffixOf existing.toList
    | none => entries
  if entries.keys.length ≥ maxViewerIdentitiesPerPeer then
    (false, { info with viewerIdentities := info.viewerIdentities.insert peerId entries })
  else
    (true, { info with
      viewerIdentities := info.viewerIdentities.insert peerId (entries.insert identity ()) })

def takeViewerIdentities (peerId : PeerId) (info : RoomInfo) : List String × RoomInfo :=
  (((info.viewerIdentities.lookup peerId).map AList.keys).getD [],
    { info with viewerIdentities := info.viewerIdentities.erase peerId })

/-- Peers whose token is older than `refreshAfterSecs` and whose media is not connected. -/
def peersNeedingTokenRefresh (refreshAfterSecs : Nat) (now : Instant) (info : RoomInfo) :
    List String :=
  (info.tokenIssuedAt.retain fun peerId issuedAt =>
    !info.mediaConnected.contains peerId
      && decide (Duration.asSecs (now - issuedAt) ≥ refreshAfterSecs)).keys

end RoomInfo

inductive ParticipantRole where
  | host
  | guest
  deriving DecidableEq

inductive SignalTarget where
  | peer (peerId : PeerId)
  | broadcast (exclude : PeerId)
  | broadcastAll

structure OutboundSignal where
  target : SignalTarget
  msg : SignalingMessage

namespace OutboundSignal

def toPeer (peerId : PeerId) (msg : SignalingMessage) : OutboundSignal := ⟨.peer peerId, msg⟩

def broadcastExcept (exclude : PeerId) (msg : SignalingMessage) : OutboundSignal :=
  ⟨.broadcast exclude, msg⟩

def broadcastAll (msg : SignalingMessage) : OutboundSignal := ⟨.broadcastAll, msg⟩

end OutboundSignal

def lookupDisplayName (participants : List ParticipantInfo) (participantId : String) : String :=
  ((participants.find? (·.participantId = participantId)).map (·.displayName)).getD participantId

end Wavis
