import Wavis.RoomState

namespace Wavis

inductive ShareRequest where
  | start (senderId : PeerId) (role : ParticipantRole) (shareType : Option WireShareType)
  | stop (peerId : PeerId) (targetParticipantId : Option PeerId) (role : ParticipantRole)
      (shareTypeToStop : Option WireShareType)
  | stopAll (role : ParticipantRole)
  | cleanup (peerId : PeerId)

namespace RoomMembers

def withInfo (members : RoomMembers) (info : RoomInfo) : RoomMembers := { members with info }

/-- The answer of a request and the room it leaves. A cleanup answers nothing if there was no
share. -/
def share (members : RoomMembers) : ShareRequest → ShareResult × RoomMembers
  | .start senderId role shareType =>
    let (result, info) := members.info.startShare members.peers senderId role shareType
    (result, members.withInfo info)
  | .stop peerId targetParticipantId role shareTypeToStop =>
    let target := targetParticipantId.getD peerId
    if target ≠ peerId ∧ role ≠ .host then
      (.error (.error "permission denied: only host can stop another participant's share"),
        members)
    else
      let (result, info) := members.info.stopShare members.peers target shareTypeToStop
      (result, members.withInfo info)
  | .stopAll role =>
    if role ≠ .host then
      (.error (.error "permission denied: only host can stop all shares"), members)
    else
      let (result, info) := members.info.stopAllShares
      (result, members.withInfo info)
  | .cleanup peerId =>
    let (signals, info) := members.info.cleanupShare peerId
    ((signals.map .ok).getD .noop, members.withInfo info)

/-- The answers of a sequence of requests and the room it leaves. -/
def shareAll (members : RoomMembers) : List ShareRequest → List ShareResult × RoomMembers
  | [] => ([], members)
  | request :: rest =>
    let (result, next) := members.share request
    let (results, last) := next.shareAll rest
    (result :: results, last)

end RoomMembers

end Wavis
