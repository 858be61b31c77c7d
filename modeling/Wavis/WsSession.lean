import Wavis.VoiceOrchestrator

/-! An explicit leave and the cleanup of a closed socket both end in `closeConnection`. -/

namespace Wavis

open Concurrency InMemoryRoomState

/-- What a disconnect does before it leaves an SFU room: the participant is revoked and its shares
are stopped. -/
def revokeOnDisconnect (session : SignalingSession) : BackendProg Unit := do
  let peerId := session.participantId
  let roomId := session.roomId
  let _ ← roomState (updateRoomInfo roomId (.addRevokedParticipant peerId))
  let shareSignals ← cleanupShareOnDisconnect roomId peerId
  dispatchSignals (shareSignals.getD []) roomId

def leaveSfuRoom (session : SignalingSession) : BackendProg Unit := do
  let peerId := session.participantId
  let roomId := session.roomId
  let signals ← handleSfuLeave roomId peerId
  let subRoomResult ← removeParticipantFromSubRoom roomId peerId
  dispatchSignals (signals ++ subRoomResult.signals) roomId
  scheduleSubRoomExpiry roomId subRoomResult.expiry

def announceP2pLeave (peerId : PeerId) : BackendProg Unit := do
  match ← handleDisconnect peerId with
  | some (target, message) => sendTo target message
  | none => pure ()

/-- Leaves the room of the session. On a disconnect the caller removes the peer of a P2P room. -/
def leaveRoom (session : SignalingSession) (isDisconnect : Bool) : BackendProg Unit := do
  let peerId := session.participantId
  let info ← roomState (getRoomInfo session.roomId)
  match info.map (·.roomType) with
  | some RoomType.sfu => do
      if isDisconnect then revokeOnDisconnect session
      leaveSfuRoom session
  | _ => do
      announceP2pLeave peerId
      if !isDisconnect then
        roomState (removePeer peerId)
        Op.perform (.removed peerId session.roomId)

/-- An explicit leave, at most once for a session. -/
def handleLeave (session : SignalingSession) (peerId : PeerId) : BackendProg Unit := do
  if session.leaveHandled then pure ()
  else
    leaveRoom session false
    Op.perform (.setSession peerId { session with leaveHandled := true })

/-- Removes the invites and the map entry of a room that no longer exists. -/
def cleanupRoomArtifacts (session : SignalingSession) : BackendProg Unit := do
  let info ← roomState (getRoomInfo session.roomId)
  if info.isSome then pure ()
  else
    Op.perform (.removeRoomInvites session.roomId)
    match session.channelId with
    | some channelId => Op.perform (.removeActiveRoomIf channelId session.roomId)
    | none => pure ()

def forgetConnection (session : SignalingSession) (peerId : PeerId) : BackendProg Unit := do
  Op.perform (.unregister peerId)
  roomState (removePeer peerId)
  cleanupRoomArtifacts session

/-- The cleanup of a joined connection, at most once for a session. -/
def cleanupConnection (session : SignalingSession) (peerId : PeerId) : BackendProg Unit := do
  if session.cleanupComplete then pure ()
  else
    Op.perform (.setSession peerId { session with cleanupComplete := true })
    if !session.leaveHandled then leaveRoom session true
    forgetConnection session peerId

def cleanupUnjoinedConnection (peerId : PeerId) : BackendProg Unit := do
  Op.perform (.unregister peerId)
  roomState (removePeer peerId)

def closeConnection (peerId : PeerId) : BackendProg Unit := do
  match ← Op.perform (.getConnection peerId) with
  | none => pure ()
  | some connection => do
      match connection.session with
      | some session => cleanupConnection session peerId
      | none => cleanupUnjoinedConnection peerId
      Op.perform (.closeConnection peerId)

end Wavis
