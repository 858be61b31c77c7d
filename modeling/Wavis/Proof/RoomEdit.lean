import Wavis.RoomEdit

namespace Wavis

namespace RoomInfo

/-- The two records agree in everything but shares and sub-rooms. -/
structure SameCore (info info' : RoomInfo) : Prop where
  roomType : info'.roomType = info.roomType
  sfuHandle : info'.sfuHandle = info.sfuHandle
  maxParticipants : info'.maxParticipants = info.maxParticipants
  participants : info'.participants = info.participants
  tokenIssuedAt : info'.tokenIssuedAt = info.tokenIssuedAt
  mediaConnected : info'.mediaConnected = info.mediaConnected
  revokedParticipants : info'.revokedParticipants = info.revokedParticipants
  viewerIdentities : info'.viewerIdentities = info.viewerIdentities

variable (info : RoomInfo) (participantId subRoomId : String) (peers : List PeerId)
  (senderId peerId : PeerId)

theorem SameCore.refl : info.SameCore info := by constructor <;> rfl

/-- The two records agree in everything but the sub-rooms. -/
def OnlySubRooms (info' : RoomInfo) : Prop := ∃ subRoomState, info' = { info with subRoomState }

theorem OnlySubRooms.refl : info.OnlySubRooms info := ⟨_, rfl⟩

theorem OnlySubRooms.sameCore {info info' : RoomInfo} (h : info.OnlySubRooms info') :
    info.SameCore info' := by
  obtain ⟨subRoomState, rfl⟩ := h
  constructor <;> rfl

theorem onlySubRooms_withSubRooms (subRooms : SubRoomState) :
    info.OnlySubRooms (info.withSubRooms subRooms) := ⟨_, rfl⟩

theorem sameCore_setShareTypes (types : HashSet WireShareType) :
    info.SameCore (info.setShareTypes participantId types) := by constructor <;> rfl

theorem sameCore_clearShares :
    info.SameCore (info.clearShares participantId) := by constructor <;> rfl

theorem sameCore_startShare (role : ParticipantRole) (shareType : Option WireShareType) :
    info.SameCore (info.startShare peers senderId role shareType).2 := by
  unfold startShare
  split_ifs
  all_goals first
    | exact .refl info
    | cases shareType <;> dsimp only <;> (try split_ifs) <;> constructor <;> rfl

theorem sameCore_stopShare (target : PeerId) (shareType : Option WireShareType) :
    info.SameCore (info.stopShare peers target shareType).2 := by
  unfold stopShare
  split_ifs
  · exact .refl info
  · exact .refl info
  · split
    · dsimp only
      split_ifs
      · exact .refl info
      · exact sameCore_clearShares info target
      · exact sameCore_setShareTypes info target _
    · exact sameCore_clearShares info target
  · exact .refl info

theorem sameCore_stopAllShares : info.SameCore info.stopAllShares.2 := by
  unfold stopAllShares
  split_ifs <;> constructor <;> rfl

theorem sameCore_cleanupShare : info.SameCore (info.cleanupShare peerId).2 := by
  unfold cleanupShare
  split_ifs <;> constructor <;> rfl

theorem sameCore_setSharePermission (permission : WireSharePermission) :
    info.SameCore (info.setSharePermission peers senderId permission).2 := by
  unfold setSharePermission
  dsimp only
  split_ifs <;> constructor <;> rfl

theorem onlySubRooms_syncSubRoomsOnVoiceJoin (supportsSubRooms : Bool) :
    info.OnlySubRooms (info.syncSubRoomsOnVoiceJoin participantId supportsSubRooms).2 := by
  unfold syncSubRoomsOnVoiceJoin
  dsimp only
  split_ifs
  · exact onlySubRooms_withSubRooms info _
  · split <;> exact onlySubRooms_withSubRooms info _

theorem onlySubRooms_joinSubRoom (participantId : String) (now : Instant) :
    info.OnlySubRooms (info.joinSubRoom subRoomId participantId now).2 := by
  unfold joinSubRoom
  dsimp only
  split
  · exact onlySubRooms_withSubRooms info _
  · split_ifs <;> exact onlySubRooms_withSubRooms info _

theorem sameCore_leaveSubRoom (now : Instant) :
    info.SameCore (info.leaveSubRoom participantId now).2 := by
  unfold leaveSubRoom
  split
  · exact .refl info
  · dsimp only
    split
    · exact (onlySubRooms_withSubRooms info _).sameCore
    · split_ifs <;> constructor <;> rfl

theorem onlySubRooms_setPassthrough (targetSubRoomId : String) :
    info.OnlySubRooms (info.setPassthrough participantId targetSubRoomId).2 := by
  unfold setPassthrough
  split
  · exact .refl info
  · dsimp only
    split_ifs
    · exact onlySubRooms_withSubRooms info _
    · split
      · exact onlySubRooms_withSubRooms info _
      · split_ifs
        · exact onlySubRooms_withSubRooms info _
        · split <;> exact onlySubRooms_withSubRooms info _

theorem onlySubRooms_clearPassthrough :
    info.OnlySubRooms (info.clearPassthrough participantId).2 := by
  unfold clearPassthrough
  split
  · exact .refl info
  · dsimp only
    split
    · exact onlySubRooms_withSubRooms info _
    · split
      · exact onlySubRooms_withSubRooms info _
      · split_ifs <;> exact onlySubRooms_withSubRooms info _

theorem onlySubRooms_adjustSubRooms (unchanged : SubRoomState → Bool)
    (change : SubRoomState → SubRoomState) :
    info.OnlySubRooms (info.adjustSubRooms unchanged change).2 := by
  unfold adjustSubRooms
  split
  · exact .refl info
  · split_ifs
    · exact .refl info
    · exact onlySubRooms_withSubRooms info _

theorem onlySubRooms_expireSubRoom (expectedDeleteAt : Instant) :
    info.OnlySubRooms (info.expireSubRoom subRoomId expectedDeleteAt).2 := by
  unfold expireSubRoom
  split
  · exact .refl info
  · dsimp only
    split
    · exact onlySubRooms_withSubRooms info _
    · split_ifs <;> exact onlySubRooms_withSubRooms info _

theorem recordViewerIdentity_eq (identity : String) :
    ∃ viewerIdentities, (info.recordViewerIdentity peerId identity).2
      = { info with viewerIdentities } := by
  unfold recordViewerIdentity
  dsimp only
  split_ifs <;> exact ⟨_, rfl⟩

end RoomInfo

namespace InfoEdit

open RoomInfo

/-- The edit concerns shares or sub-rooms only. -/
def sharesOrSubRooms : InfoEdit → Bool
  | addRevokedParticipant _ => false
  | isParticipantRevoked _ _ => false
  | recordTokenIssued _ => false
  | addParticipant _ => false
  | join _ => false
  | dropParticipant _ => false
  | kick _ => false
  | takeViewerIdentities _ => false
  | recordViewerIdentity _ _ => false
  | mute _ => false
  | unmute _ => false
  | selfFlag _ _ => false
  | rename _ _ => false
  | _ => true

/-- The edit concerns the sub-rooms only. A departure may end shares, too. -/
def subRoomsOnly : InfoEdit → Bool
  | activateSubRooms _ => true
  | syncSubRooms _ _ => true
  | createSubRoom => true
  | joinSubRoom _ _ => true
  | setPassthrough _ _ => true
  | clearPassthrough _ => true
  | setPassthroughEnabled _ => true
  | setPassthroughVolume _ => true
  | setPassthroughFilter _ _ => true
  | expireSubRoom _ _ => true
  | _ => false

theorem onlySubRooms_apply {edit : InfoEdit} (h : edit.subRoomsOnly = true) (now : Instant)
    (peers : List PeerId) (info : RoomInfo) : info.OnlySubRooms (edit.apply now peers info) := by
  cases edit with
  | activateSubRooms passthroughEnabled => exact onlySubRooms_withSubRooms info _
  | syncSubRooms participantId supportsSubRooms =>
    exact onlySubRooms_syncSubRoomsOnVoiceJoin info participantId supportsSubRooms
  | createSubRoom => exact onlySubRooms_withSubRooms info _
  | joinSubRoom subRoomId participantId =>
    exact onlySubRooms_joinSubRoom info subRoomId participantId now
  | setPassthrough participantId targetSubRoomId =>
    exact onlySubRooms_setPassthrough info participantId targetSubRoomId
  | clearPassthrough participantId => exact onlySubRooms_clearPassthrough info participantId
  | setPassthroughEnabled enabled | setPassthroughVolume volumePercent
  | setPassthroughFilter enabled strength => exact onlySubRooms_adjustSubRooms info _ _
  | expireSubRoom subRoomId expectedDeleteAt =>
    exact onlySubRooms_expireSubRoom info subRoomId expectedDeleteAt
  | _ => cases h

theorem sameCore_apply {edit : InfoEdit} (h : edit.sharesOrSubRooms = true) (now : Instant)
    (peers : List PeerId) (info : RoomInfo) : info.SameCore (edit.apply now peers info) := by
  cases edit with
  | startShare senderId role shareType =>
    exact sameCore_startShare info peers senderId role shareType
  | stopShare target shareType => exact sameCore_stopShare info peers target shareType
  | stopAllShares => exact sameCore_stopAllShares info
  | cleanupShare peerId => exact sameCore_cleanupShare info peerId
  | setSharePermission senderId permission =>
    exact sameCore_setSharePermission info peers senderId permission
  | leaveSubRoom participantId => exact sameCore_leaveSubRoom info participantId now
  | _ => first | exact (onlySubRooms_apply rfl now peers info).sameCore | cases h

variable (edit : InfoEdit) (now : Instant) (peers : List PeerId) (info : RoomInfo)

/-- A property that edits of shares and sub-rooms keep needs to be checked for the others only. -/
theorem apply_of_sameCore {motive : RoomInfo → Prop}
    (hcore : ∀ info', info.SameCore info' → motive info')
    (hother : edit.sharesOrSubRooms = false → motive (edit.apply now peers info)) :
    motive (edit.apply now peers info) := by
  cases h : edit.sharesOrSubRooms with
  | true => exact hcore _ (sameCore_apply h now peers info)
  | false => exact hother h

theorem apply_header :
    (edit.apply now peers info).roomType = info.roomType
      ∧ (edit.apply now peers info).sfuHandle = info.sfuHandle
      ∧ (edit.apply now peers info).maxParticipants = info.maxParticipants := by
  apply apply_of_sameCore (motive := fun info' => info'.roomType = info.roomType
    ∧ info'.sfuHandle = info.sfuHandle ∧ info'.maxParticipants = info.maxParticipants)
  · exact fun info' hcore => ⟨hcore.roomType, hcore.sfuHandle, hcore.maxParticipants⟩
  · intro h
    cases edit with
    | recordViewerIdentity peerId identity =>
      obtain ⟨viewerIdentities, heq⟩ := recordViewerIdentity_eq info peerId identity
      rw [apply, heq]
      exact ⟨rfl, rfl, rfl⟩
    | _ => first | exact ⟨rfl, rfl, rfl⟩ | cases h

@[simp] theorem apply_roomType : (edit.apply now peers info).roomType = info.roomType :=
  (edit.apply_header now peers info).1

@[simp] theorem apply_maxParticipants :
    (edit.apply now peers info).maxParticipants = info.maxParticipants :=
  (edit.apply_header now peers info).2.2

end InfoEdit

end Wavis
