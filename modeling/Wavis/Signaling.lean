/-! The messages of the signaling protocol with their payloads. A signed token travels as an opaque
text; here it is the claims that were signed, since nobody else can produce that text. -/

namespace Wavis

inductive JoinRejectionReason where
  | inviteExpired
  | inviteRevoked
  | inviteInvalid
  | inviteRequired
  | inviteExhausted
  | roomFull
  | rateLimited
  | notAuthorized
  deriving DecidableEq

inductive WireSharePermission where
  | anyone
  | hostOnly
  deriving DecidableEq

inductive WireShareType where
  | screenAudio
  | window
  | audioOnly
  | browser
  deriving DecidableEq

def WireShareType.isAudioOnly : WireShareType → Bool
  | .audioOnly => true
  | _ => false

inductive WireSubRoomMembershipSource where
  | explicit
  | legacyRoomOne
  deriving DecidableEq

structure ParticipantInfo where
  participantId : String
  displayName : String
  userId : Option String
  profileColor : Option String
  isMuted : Bool
  isHostMuted : Bool
  isDeafened : Bool
  deriving DecidableEq

/-- The claims of a signed token. Times are seconds of the wall clock. -/
inductive SignedToken where
  | media (roomId participantId issuer : String) (issuedAt ttlSecs : Nat)
  | livekit (roomId identity displayName : String) (issuedAt ttlSecs : Nat)
  | livekitViewer (roomId identity : String) (issuedAt ttlSecs : Nat)
  deriving DecidableEq

def SignedToken.roomId : SignedToken → String
  | media roomId _ _ _ _ => roomId
  | livekit roomId _ _ _ _ => roomId
  | livekitViewer roomId _ _ _ => roomId

structure IceConfigPayload where
  stunUrls : List String
  turnUrls : List String
  turnUsername : String
  turnCredential : String

structure JoinPayload where
  roomId : String
  roomType : Option String
  inviteCode : Option String
  displayName : Option String
  profileColor : Option String

structure CreateRoomPayload where
  roomId : String
  roomType : Option String
  displayName : Option String
  profileColor : Option String

structure JoinVoicePayload where
  channelId : String
  displayName : Option String
  profileColor : Option String
  supportsSubRooms : Option Bool

structure JoinedPayload where
  roomId : String
  peerId : String
  peerCount : Nat
  participants : List ParticipantInfo
  iceConfig : Option IceConfigPayload
  sharePermission : Option WireSharePermission

structure SessionDescription where
  sdp : String
  sdpType : String

structure IceCandidate where
  candidate : String
  sdpMid : String
  sdpMlineIndex : Nat

structure ActiveSharePayload where
  participantId : String
  shareType : Option WireShareType

structure SubRoomInfoPayload where
  subRoomId : String
  roomNumber : Nat
  isDefault : Bool
  participantIds : List String
  deleteAtMs : Option Nat

structure PassthroughStatePayload where
  sourceSubRoomId : String
  targetSubRoomId : String
  label : String

structure SubRoomStatePayload where
  rooms : List SubRoomInfoPayload
  passthrough : Option PassthroughStatePayload
  passthroughEnabled : Bool
  passthroughVolumePercent : Nat
  passthroughFiltersEnabled : Bool
  passthroughFilterStrength : Nat

structure ChatHistoryMessagePayload where
  messageId : String
  participantId : String
  userId : Option String
  displayName : String
  text : String
  timestamp : String

inductive SignalingMessage where
  | join (payload : JoinPayload)
  | joined (payload : JoinedPayload)
  | offer (sessionDescription : SessionDescription)
  | answer (sessionDescription : SessionDescription)
  | iceCandidate (candidate : IceCandidate)
  | peerLeft
  | leave
  | error (message : String)
  | joinRejected (reason : JoinRejectionReason)
  | inviteCreate (maxUses : Option Nat)
  | inviteCreated (inviteCode : String) (expiresInSecs maxUses : Nat)
  | inviteRevoke (inviteCode : String)
  | inviteRevoked (inviteCode : String)
  | participantJoined (participantId displayName : String) (userId profileColor : Option String)
  | participantLeft (participantId : String)
  | roomState (participants : List ParticipantInfo)
  | mediaToken (token : SignedToken) (sfuUrl : String)
  | requestViewerToken (windowId : String)
  | viewerToken (windowId : String) (token : SignedToken) (sfuUrl identity : String)
  | kickParticipant (targetParticipantId : String)
  | muteParticipant (targetParticipantId : String)
  | unmuteParticipant (targetParticipantId : String)
  | selfMute
  | selfUnmute
  | selfDeafen
  | selfUndeafen
  | participantKicked (participantId reason : String)
  | participantMuted (participantId : String)
  | participantUnmuted (participantId : String)
  | participantSelfMuted (participantId : String)
  | participantSelfUnmuted (participantId : String)
  | participantDeafened (participantId : String)
  | participantUndeafened (participantId : String)
  | startShare (shareType : Option WireShareType)
  | shareStarted (participantId displayName : String) (shareType : Option WireShareType)
  | stopShare (targetParticipantId : Option String) (shareType : Option WireShareType)
  | shareStopped (participantId displayName : String) (shareType : Option WireShareType)
  | stopAllShares
  | shareState (participantIds : List String) (activeShares : List ActiveSharePayload)
  | setSharePermission (permission : WireSharePermission)
  | sharePermissionChanged (permission : WireSharePermission)
  | viewerSubscribed (targetId : String)
  | viewerJoined (viewerId displayName : String)
  | createRoom (payload : CreateRoomPayload)
  | roomCreated (roomId peerId inviteCode : String) (expiresInSecs maxUses : Nat)
      (iceConfig : Option IceConfigPayload)
  | auth (accessToken : String)
  | authSuccess (userId : String)
  | authFailed (reason : String)
  | joinVoice (payload : JoinVoicePayload)
  | createSubRoom
  | joinSubRoom (subRoomId : String)
  | leaveSubRoom
  | setPassthrough (targetSubRoomId : String)
  | clearPassthrough
  | setPassthroughEnabled (enabled : Bool)
  | setPassthroughVolume (volume : Nat)
  | setPassthroughFilter (enabled : Bool) (strength : Nat)
  | subRoomState (payload : SubRoomStatePayload)
  | subRoomCreated (room : SubRoomInfoPayload)
  | subRoomJoined (participantId subRoomId : String) (source : WireSubRoomMembershipSource)
  | subRoomLeft (participantId subRoomId : String)
  | subRoomDeleted (subRoomId : String)
  | sfuColdStarting (estimatedWaitSecs : Nat)
  | chatSend (text : String)
  | chatMessage (participantId : String) (userId : Option String)
      (displayName text timestamp : String) (messageId : Option String)
  | chatHistoryRequest (since : Option String)
  | chatHistoryResponse (messages : List ChatHistoryMessagePayload)
  | ping
  | sessionDisplaced (reason : String)
  | updateProfileColor (profileColor : String)
  | participantColorUpdated (participantId profileColor : String)
  | updateUsername (username : String)
  | participantUsernameUpdated (participantId username : String)

end Wavis
