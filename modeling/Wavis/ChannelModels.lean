import Wavis.Backend

namespace Wavis

inductive ChannelError where
  | invalidName
  | channelNotFound
  | notMember
  | banned
  | forbidden
  | alreadyMember
  | invalidInvite
  | alreadyBanned
  | cannotBanOwner
  | insufficientPrivileges
  | selfBan
  | ownerCannotLeave
  | targetNotMember
  | targetNotBanned
  | invalidRole
  | cannotChangeOwnerRole
  | cannotChangeBannedRole
  | inviteNotFound
  | rateLimited
  | databaseError (reason : String)

structure Channel where
  channelId : Uuid
  name : String
  ownerUserId : Uuid
  createdAt : Instant

structure ChannelInvite where
  code : String
  channelId : Uuid
  /-- May lie before the creation. -/
  expiresAt : Option Int
  maxUses : Option Int
  uses : Int
  createdAt : Instant

structure JoinResult where
  channelId : Uuid
  name : String
  role : ChannelRole

structure BanResult where
  channelId : Uuid
  userId : Uuid
  bannedAt : Instant

structure RoleChangeResult where
  channelId : Uuid
  userId : Uuid
  role : ChannelRole

/-- The checks of a ban on the rows of the requester and the target, in the order of the source. -/
def checkBan (requester target : ChannelMembership) : Except ChannelError Unit :=
  if target.role = .owner then .error .cannotBanOwner
  else if requester.role = .admin ∧ target.role = .admin then .error .insufficientPrivileges
  else if target.bannedAt.isSome then .error .alreadyBanned
  else .ok ()

end Wavis
