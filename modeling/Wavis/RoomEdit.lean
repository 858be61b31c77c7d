import Wavis.RoomShares
import Wavis.RoomSubRooms

/-! The closures that the backend runs on a room's metadata while it holds the room's lock, one
constructor for each of them. What an edit reports to its caller is computed from the room it was
applied to, so a section that applies one answers that room. -/

namespace Wavis

inductive SelfFlag where
  | muted
  | unmuted
  | deafened
  | undeafened

/-- A self-unmute cannot override a host mute. -/
def SelfFlag.apply : SelfFlag → ParticipantInfo → ParticipantInfo
  | muted, participant => { participant with isMuted := true }
  | unmuted, participant => { participant with isMuted := participant.isHostMuted }
  | deafened, participant => { participant with isDeafened := true }
  | undeafened, participant => { participant with isDeafened := false }

inductive InfoEdit where
  | addRevokedParticipant (participantId : PeerId)
  | isParticipantRevoked (participantId : PeerId) (ttlWindow : Duration)
  | recordTokenIssued (peerId : PeerId)
  | addParticipant (participant : ParticipantInfo)
  | join (participant : ParticipantInfo)
  | dropParticipant (participantId : PeerId)
  | kick (participantId : PeerId)
  | takeViewerIdentities (peerId : PeerId)
  | recordViewerIdentity (peerId : PeerId) (identity : String)
  | mute (participantId : PeerId)
  | unmute (participantId : PeerId)
  | selfFlag (participantId : PeerId) (flag : SelfFlag)
  | rename (participantId : PeerId) (username : String)
  | startShare (senderId : PeerId) (role : ParticipantRole) (shareType : Option WireShareType)
  | stopShare (target : PeerId) (shareType : Option WireShareType)
  | stopAllShares
  | cleanupShare (peerId : PeerId)
  | setSharePermission (senderId : PeerId) (permission : WireSharePermission)
  | activateSubRooms (passthroughEnabled : Bool)
  | syncSubRooms (participantId : PeerId) (supportsSubRooms : Bool)
  | createSubRoom
  | joinSubRoom (subRoomId : String) (participantId : PeerId)
  | leaveSubRoom (participantId : PeerId)
  | setPassthrough (participantId : PeerId) (targetSubRoomId : String)
  | clearPassthrough (participantId : PeerId)
  | setPassthroughEnabled (enabled : Bool)
  | setPassthroughVolume (volumePercent : Nat)
  | setPassthroughFilter (enabled : Bool) (strength : Nat)
  | expireSubRoom (subRoomId : String) (expectedDeleteAt : Instant)

namespace RoomInfo

def updateParticipant (participantId : PeerId) (change : ParticipantInfo → ParticipantInfo)
    (info : RoomInfo) : RoomInfo :=
  { info with
    participants := updateFirst (·.participantId = participantId) change info.participants }

def addParticipant (participant : ParticipantInfo) (info : RoomInfo) : RoomInfo :=
  { info with participants := info.participants ++ [participant] }

def retainParticipants (participantId : PeerId) (info : RoomInfo) : RoomInfo :=
  { info with participants := info.participants.filter (·.participantId ≠ participantId) }

end RoomInfo

open RoomInfo in
def InfoEdit.apply (now : Instant) (peers : List PeerId) (info : RoomInfo) : InfoEdit → RoomInfo
  | addRevokedParticipant participantId => info.addRevokedParticipant participantId now
  | isParticipantRevoked participantId ttlWindow =>
    (info.isParticipantRevoked participantId ttlWindow now).2
  | recordTokenIssued peerId => info.recordTokenIssued peerId now
  | addParticipant participant => info.addParticipant participant
  | join participant =>
    (info.addParticipant participant).recordTokenIssued participant.participantId now
  | dropParticipant participantId => info.retainParticipants participantId
  | kick participantId =>
    (info.retainParticipants participantId).addRevokedParticipant participantId now
  | takeViewerIdentities peerId => (info.takeViewerIdentities peerId).2
  | recordViewerIdentity peerId identity => (info.recordViewerIdentity peerId identity).2
  | mute participantId => info.updateParticipant participantId fun participant =>
    { participant with isMuted := true, isHostMuted := true }
  | unmute participantId => info.updateParticipant participantId fun participant =>
    { participant with isHostMuted := false }
  | selfFlag participantId flag => info.updateParticipant participantId flag.apply
  | rename participantId username => info.updateParticipant participantId fun participant =>
    { participant with displayName := username }
  | startShare senderId role shareType => (info.startShare peers senderId role shareType).2
  | stopShare target shareType => (info.stopShare peers target shareType).2
  | stopAllShares => info.stopAllShares.2
  | cleanupShare peerId => (info.cleanupShare peerId).2
  | setSharePermission senderId permission => (info.setSharePermission peers senderId permission).2
  | activateSubRooms passthroughEnabled => info.activateSubRooms passthroughEnabled
  | syncSubRooms participantId supportsSubRooms =>
    (info.syncSubRoomsOnVoiceJoin participantId supportsSubRooms).2
  | createSubRoom => (info.createSubRoom now).2
  | joinSubRoom subRoomId participantId => (info.joinSubRoom subRoomId participantId now).2
  | leaveSubRoom participantId => (info.leaveSubRoom participantId now).2
  | setPassthrough participantId targetSubRoomId =>
    (info.setPassthrough participantId targetSubRoomId).2
  | clearPassthrough participantId => (info.clearPassthrough participantId).2
  | setPassthroughEnabled enabled => (info.setPassthroughEnabled enabled).2
  | setPassthroughVolume volumePercent => (info.setPassthroughVolume volumePercent).2
  | setPassthroughFilter enabled strength => (info.setPassthroughFilter enabled strength).2
  | expireSubRoom subRoomId expectedDeleteAt => (info.expireSubRoom subRoomId expectedDeleteAt).2

end Wavis
