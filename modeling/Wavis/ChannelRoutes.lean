import Wavis.ChannelModels
import Wavis.WsActions

namespace Wavis

open Concurrency

def banMember (channelId requesterUserId targetUserId : Uuid) :
    BackendProg (Except ChannelError Unit) := do
  if requesterUserId = targetUserId then pure (.error .selfBan)
  else
    -- The time of the ban is the time at which the transaction begins.
    let now ← Op.perform .getNow
    match ← Op.perform (.selectMembership channelId requesterUserId) with
    | .error e => pure (.error (.databaseError e))
    | .ok none => pure (.error .forbidden)
    | .ok (some requester) =>
      if requester.bannedAt.isSome ∨ requester.role = .member then pure (.error .forbidden)
      else
        match ← Op.perform (.selectMembership channelId targetUserId) with
        | .error e => pure (.error (.databaseError e))
        | .ok none => pure (.error .targetNotMember)
        | .ok (some target) =>
          match checkBan requester target with
          | .error e => pure (.error e)
          | .ok _ =>
            match ← Op.perform (.updateBan channelId targetUserId) with
            | .error e => pure (.error (.databaseError e))
            | .ok _ =>
              match ← Op.perform (.commitBan channelId targetUserId now) with
              | .error e => pure (.error (.databaseError e))
              | .ok _ => pure (.ok ())

/-- The ban is stored before the ejection, which is a best effort. -/
def banMemberRoute (channelId requesterUserId targetUserId : Uuid) :
    BackendProg (Except ChannelError Unit) := do
  if !(← Op.perform (.allow .channelRequest)) then pure (.error .rateLimited)
  else
    match ← banMember channelId requesterUserId targetUserId with
    | .error e => pure (.error e)
    | .ok _ =>
      match ← findUserInVoice channelId targetUserId with
      | none => pure (.ok ())
      | some (roomId, peerId) => do
          match ← ejectBannedUser roomId peerId channelId with
          | .error _ => pure ()
          | .ok signals => do
              let subRoomResult ← removeParticipantFromSubRoom roomId peerId
              dispatchSignals (signals ++ subRoomResult.signals) roomId
              scheduleSubRoomExpiry roomId subRoomResult.expiry
          pure (.ok ())

end Wavis
