import Wavis.Backend

namespace Wavis

open Concurrency InMemoryRoomState

def sendTo (peerId : PeerId) (msg : SignalingMessage) : BackendProg Unit :=
  Op.perform (.send peerId msg)

def sendError (peerId : PeerId) (message : String) : BackendProg Unit :=
  sendTo peerId (.error message)

def dispatchSignal (roomId : RoomId) (signal : OutboundSignal) : BackendProg Unit :=
  match signal.target with
  | .peer peerId => sendTo peerId signal.msg
  | .broadcast exclude => do
      let peers ← roomState (getPeersInRoom roomId)
      Prog.each (fun peer => sendTo peer signal.msg) (peers.filter (· ≠ exclude))
  | .broadcastAll => do
      let peers ← roomState (getPeersInRoom roomId)
      Prog.each (fun peer => sendTo peer signal.msg) peers

def dispatchSignals (signals : List OutboundSignal) (roomId : RoomId) : BackendProg Unit :=
  Prog.each (dispatchSignal roomId) signals

def scheduleSubRoomExpiry (roomId : RoomId) : Option PendingSubRoomExpiry → BackendProg Unit
  | none => pure ()
  | some expiry => Op.perform (.scheduleExpiry roomId expiry)

inductive RelayResult where
  | relayed (targetPeerId : PeerId) (message : SignalingMessage)
  | noPeer (error : SignalingMessage)

def relaySignaling (senderPeerId : PeerId) (message : SignalingMessage) :
    BackendProg RelayResult := do
  match ← roomState (getRoomForPeer senderPeerId) with
  | none => pure (.noPeer (.error "not in a room"))
  | some roomId => do
      let peers ← roomState (getPeersInRoom roomId)
      match peers.find? (· ≠ senderPeerId) with
      | some target => pure (.relayed target message)
      | none => pure (.noPeer (.error "no peer available"))

inductive P2PJoinResult where
  | joined (signals : List OutboundSignal)
  | roomFull
  | inviteRejected (reason : JoinRejectionReason)

def p2pJoined (roomId : RoomId) (peerId : PeerId) (peerCount : Nat) : SignalingMessage :=
  .joined
    { roomId, peerId, peerCount
      participants := []
      iceConfig := none
      sharePermission := none }

/-- The invite a join has to consume, if the server requires one. -/
def joinCheck (roomId : RoomId) (inviteCode : Option String) : JoinCheck :=
  inviteCode.map fun code => (code, roomId)

def handleP2pJoin (roomId : RoomId) (peerId : PeerId) (inviteCode : Option String) :
    BackendProg P2PJoinResult := do
  let peersBefore ← roomState (getPeersInRoom roomId)
  let _ ← roomState (createRoom roomId .newP2p)
  match ← roomState (tryAddPeerWith peerId roomId (joinCheck roomId inviteCode)) with
  | .error .roomFull => pure .roomFull
  | .error reason => pure (.inviteRejected reason)
  | .ok peerCount =>
    pure (.joined (.toPeer peerId (p2pJoined roomId peerId peerCount)
      :: (peersBefore.filter (· ≠ peerId)).map fun existing =>
        .toPeer existing (p2pJoined roomId existing peerCount)))

/-- The peer that remains behind in the room, with the message it gets. -/
def handleDisconnect (peerId : PeerId) : BackendProg (Option (PeerId × SignalingMessage)) := do
  match ← roomState (getRoomForPeer peerId) with
  | none => pure none
  | some roomId => do
      let peers ← roomState (getPeersInRoom roomId)
      pure ((peers.find? (· ≠ peerId)).map fun remaining => (remaining, .peerLeft))

end Wavis
