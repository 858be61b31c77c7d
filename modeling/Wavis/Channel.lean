import Wavis.ChannelStore

/-! A transaction that is dropped before its commit is rolled back. -/

namespace Wavis.Channels

open Concurrency

def validateChannelName (name : String) : Except ChannelError Unit :=
  if name = "" ∨ name.toList.length > 100 then .error .invalidName else .ok ()

def abort {α : Type} (tx : TxId) (e : ChannelError) : ChannelProg (Except ChannelError α) := do
  ChannelOp.perform (.rollback tx)
  pure (.error e)

def finish {α : Type} (tx : TxId) (value : α) : ChannelProg (Except ChannelError α) := do
  match ← ChannelOp.perform (.commit tx) with
  | .error e => pure (.error (.databaseError e))
  | .ok _ => pure (.ok value)

def createChannel (userId : Uuid) (name : String) : ChannelProg (Except ChannelError Channel) := do
  match validateChannelName name with
  | .error e => pure (.error e)
  | .ok _ =>
    match ← ChannelOp.perform .begin with
    | .error e => pure (.error (.databaseError e))
    | .ok (tx, now) =>
      match ← ChannelOp.perform (.insertChannel tx name userId now) with
      | .error e => abort tx (.databaseError e)
      | .ok channelId =>
        match ← ChannelOp.perform (.insertMembership tx channelId userId .owner false) with
        | .error e => abort tx (.databaseError e)
        | .ok _ => finish tx ⟨channelId, name, userId, now⟩

/-- Deletes rows that go with a channel until one deletion fails. -/
def deleteDependents (tx : TxId) : List Dependent → ChannelProg (Except String Unit)
  | [] => pure (.ok ())
  | dependent :: rest => do
      match ← ChannelOp.perform (.deleteDependent tx dependent) with
      | .error e => pure (.error e)
      | .ok _ => deleteDependents tx rest

/-- The deletion of a channel with all rows that go with it, which is one statement. -/
def deleteCascade (tx : TxId) (channelId : Uuid) : ChannelProg (Except String Unit) := do
  match ← ChannelOp.perform (.deleteChannel tx channelId) with
  | .error e => pure (.error e)
  | .ok false => pure (.ok ())
  | .ok true =>
    match ← ChannelOp.perform (.selectDependents tx channelId) with
    | .error e => pure (.error e)
    | .ok dependents => deleteDependents tx dependents

def deleteChannel (channelId userId : Uuid) : ChannelProg (Except ChannelError Unit) := do
  match ← ChannelOp.perform (.selectOwner channelId) with
  | .error e => pure (.error (.databaseError e))
  | .ok none => pure (.error .channelNotFound)
  | .ok (some ownerUserId) =>
    if ownerUserId ≠ userId then pure (.error .forbidden)
    else
      match ← ChannelOp.perform .begin with
      | .error e => pure (.error (.databaseError e))
      | .ok (tx, _) =>
        match ← deleteCascade tx channelId with
        | .error e => abort tx (.databaseError e)
        | .ok _ => finish tx ()

/-- The check of who asks for something that owners and admins may do. -/
def checkModerator : Option ChannelMembership → Except ChannelError ChannelMembership
  | none => .error .forbidden
  | some requester =>
    if requester.bannedAt.isSome then .error .forbidden
    else if requester.role = .member then .error .forbidden
    else .ok requester

def createInvite (channelId userId : Uuid) (expiresInSecs maxUses : Option Int) :
    ChannelProg (Except ChannelError ChannelInvite) := do
  match ← ChannelOp.perform (.selectMembership none channelId userId) with
  | .error e => pure (.error (.databaseError e))
  | .ok membership =>
    match checkModerator membership with
    | .error e => pure (.error e)
    | .ok _ => do
        let code ← ChannelOp.perform .generateInviteCode
        let now ← ChannelOp.perform .getNow
        let invite : ChannelInvite :=
          { code, channelId, maxUses
            expiresAt := expiresInSecs.map fun secs => now + secs
            uses := 0
            createdAt := now }
        match ← ChannelOp.perform (.insertInvite invite) with
        | .error e => pure (.error (.databaseError e))
        | .ok _ => pure (.ok invite)

/-- Counts a use of the invite and makes the user a member, both or neither. -/
def joinChannelByInvite (userId : Uuid) (code : String) :
    ChannelProg (Except ChannelError JoinResult) := do
  match ← ChannelOp.perform .begin with
  | .error e => pure (.error (.databaseError e))
  | .ok (tx, now) =>
    match ← ChannelOp.perform (.consumeInvite tx code now) with
    | .error e => abort tx (.databaseError e)
    | .ok none => abort tx .invalidInvite
    | .ok (some channelId) =>
      match ← ChannelOp.perform (.selectMembership (some tx) channelId userId) with
      | .error e => abort tx (.databaseError e)
      | .ok (some existing) =>
        abort tx (if existing.bannedAt.isSome then .banned else .alreadyMember)
      | .ok none =>
        match ← ChannelOp.perform (.insertMembership tx channelId userId .member true) with
        | .error e => abort tx (.databaseError e)
        | .ok false => abort tx .alreadyMember
        | .ok true =>
          match ← ChannelOp.perform (.selectName tx channelId) with
          | .error e => abort tx (.databaseError e)
          | .ok none => abort tx (.databaseError "no rows returned")
          | .ok (some name) => finish tx ⟨channelId, name, .member⟩

/-- The check and the deletion are two statements outside a transaction. -/
def leaveChannel (channelId userId : Uuid) : ChannelProg (Except ChannelError Unit) := do
  match ← ChannelOp.perform (.selectMembership none channelId userId) with
  | .error e => pure (.error (.databaseError e))
  | .ok none => pure (.error .notMember)
  | .ok (some membership) =>
    if membership.bannedAt.isSome then pure (.error .banned)
    else if membership.role = .owner then pure (.error .ownerCannotLeave)
    else
      match ← ChannelOp.perform (.deleteMembership channelId userId) with
      | .error e => pure (.error (.databaseError e))
      | .ok _ => pure (.ok ())

def revokeInvite (channelId userId : Uuid) (code : String) :
    ChannelProg (Except ChannelError Unit) := do
  match ← ChannelOp.perform (.selectMembership none channelId userId) with
  | .error e => pure (.error (.databaseError e))
  | .ok membership =>
    match checkModerator membership with
    | .error e => pure (.error e)
    | .ok _ =>
      match ← ChannelOp.perform (.deleteInvite channelId code) with
      | .error e => pure (.error (.databaseError e))
      | .ok false => pure (.error .inviteNotFound)
      | .ok true => pure (.ok ())

def checkBanTarget (requester : ChannelMembership) :
    Option ChannelMembership → Except ChannelError Unit
  | none => .error .targetNotMember
  | some target => checkBan requester target

def banMember (channelId requesterUserId targetUserId : Uuid) :
    ChannelProg (Except ChannelError BanResult) := do
  if requesterUserId = targetUserId then pure (.error .selfBan)
  else
    match ← ChannelOp.perform .begin with
    | .error e => pure (.error (.databaseError e))
    | .ok (tx, now) =>
      match ← ChannelOp.perform (.selectMembership (some tx) channelId requesterUserId) with
      | .error e => abort tx (.databaseError e)
      | .ok requesterRow =>
        match checkModerator requesterRow with
        | .error e => abort tx e
        | .ok requester =>
          match ← ChannelOp.perform (.selectMembership (some tx) channelId targetUserId) with
          | .error e => abort tx (.databaseError e)
          | .ok targetRow =>
            match checkBanTarget requester targetRow with
            | .error e => abort tx e
            | .ok _ =>
              match ← ChannelOp.perform
                  (.updateMembership tx channelId targetUserId (.ban now)) with
              | .error e => abort tx (.databaseError e)
              | .ok none => abort tx (.databaseError "no rows returned")
              | .ok (some row) =>
                finish tx ⟨channelId, targetUserId, row.bannedAt.getD now⟩

def unbanMember (channelId requesterUserId targetUserId : Uuid) :
    ChannelProg (Except ChannelError Unit) := do
  match ← ChannelOp.perform .begin with
  | .error e => pure (.error (.databaseError e))
  | .ok (tx, _) =>
    match ← ChannelOp.perform (.selectMembership (some tx) channelId requesterUserId) with
    | .error e => abort tx (.databaseError e)
    | .ok requesterRow =>
      match checkModerator requesterRow with
      | .error e => abort tx e
      | .ok _ =>
        match ← ChannelOp.perform (.selectMembership (some tx) channelId targetUserId) with
        | .error e => abort tx (.databaseError e)
        | .ok none => abort tx .targetNotMember
        | .ok (some target) =>
          if target.bannedAt.isNone then abort tx .targetNotBanned
          else
            match ← ChannelOp.perform
                (.updateMembership tx channelId targetUserId .unban) with
            | .error e => abort tx (.databaseError e)
            | .ok _ => finish tx ()

/-- Only admins and members are made. -/
def parseAssignableRole : String → Except ChannelError ChannelRole
  | "admin" => .ok .admin
  | "member" => .ok .member
  | _ => .error .invalidRole

def checkOwner : Option ChannelMembership → Except ChannelError Unit
  | none => .error .forbidden
  | some requester =>
    if requester.bannedAt.isSome then .error .forbidden
    else if requester.role ≠ .owner then .error .forbidden
    else .ok ()

def checkRoleTarget : Option ChannelMembership → Except ChannelError Unit
  | none => .error .targetNotMember
  | some target =>
    if target.role = .owner then .error .cannotChangeOwnerRole
    else if target.bannedAt.isSome then .error .cannotChangeBannedRole
    else .ok ()

def changeRole (channelId requesterUserId targetUserId : Uuid) (newRole : String) :
    ChannelProg (Except ChannelError RoleChangeResult) := do
  match parseAssignableRole newRole with
  | .error e => pure (.error e)
  | .ok role =>
    match ← ChannelOp.perform .begin with
    | .error e => pure (.error (.databaseError e))
    | .ok (tx, _) =>
      match ← ChannelOp.perform (.selectMembership (some tx) channelId requesterUserId) with
      | .error e => abort tx (.databaseError e)
      | .ok requesterRow =>
        match checkOwner requesterRow with
        | .error e => abort tx e
        | .ok _ =>
          if requesterUserId = targetUserId then abort tx .cannotChangeOwnerRole
          else
            match ← ChannelOp.perform
                (.selectMembership (some tx) channelId targetUserId) with
            | .error e => abort tx (.databaseError e)
            | .ok targetRow =>
              match checkRoleTarget targetRow with
              | .error e => abort tx e
              | .ok _ =>
                match ← ChannelOp.perform
                    (.updateMembership tx channelId targetUserId (.setRole role)) with
                | .error e => abort tx (.databaseError e)
                | .ok _ => finish tx ⟨channelId, targetUserId, role⟩

end Wavis.Channels

namespace Wavis

open Concurrency

inductive ChannelCall where
  | createChannel (userId : Uuid) (name : String)
  | deleteChannel (channelId userId : Uuid)
  | createInvite (channelId userId : Uuid) (expiresInSecs maxUses : Option Int)
  | joinChannelByInvite (userId : Uuid) (code : String)
  | leaveChannel (channelId userId : Uuid)
  | revokeInvite (channelId userId : Uuid) (code : String)
  | banMember (channelId requesterUserId targetUserId : Uuid)
  | unbanMember (channelId requesterUserId targetUserId : Uuid)
  | changeRole (channelId requesterUserId targetUserId : Uuid) (newRole : String)
  deriving DecidableEq

@[reducible] def ChannelCall.Ret : ChannelCall → Type
  | createChannel _ _ => Except ChannelError Channel
  | deleteChannel _ _ => Except ChannelError Unit
  | createInvite _ _ _ _ => Except ChannelError ChannelInvite
  | joinChannelByInvite _ _ => Except ChannelError JoinResult
  | leaveChannel _ _ => Except ChannelError Unit
  | revokeInvite _ _ _ => Except ChannelError Unit
  | banMember _ _ _ => Except ChannelError BanResult
  | unbanMember _ _ _ => Except ChannelError Unit
  | changeRole _ _ _ _ => Except ChannelError RoleChangeResult

def ChannelCall.body : (call : ChannelCall) → ChannelProg call.Ret
  | createChannel userId name => Channels.createChannel userId name
  | deleteChannel channelId userId => Channels.deleteChannel channelId userId
  | createInvite channelId userId expiresInSecs maxUses =>
    Channels.createInvite channelId userId expiresInSecs maxUses
  | joinChannelByInvite userId code => Channels.joinChannelByInvite userId code
  | leaveChannel channelId userId => Channels.leaveChannel channelId userId
  | revokeInvite channelId userId code => Channels.revokeInvite channelId userId code
  | banMember channelId requesterUserId targetUserId =>
    Channels.banMember channelId requesterUserId targetUserId
  | unbanMember channelId requesterUserId targetUserId =>
    Channels.unbanMember channelId requesterUserId targetUserId
  | changeRole channelId requesterUserId targetUserId newRole =>
    Channels.changeRole channelId requesterUserId targetUserId newRole

/-- Any number of requests on the channel tables, statement by statement. -/
def channelService : System ChannelOp.Resp ChannelCall.Ret ChannelEnv ChannelStore where
  exec := ChannelOp.exec
  body := ChannelCall.body

abbrev ChannelPool := Pool ChannelOp.Resp ChannelCall.Ret ChannelStore

abbrev ChannelAct := Act ChannelCall ChannelEnv

def ChannelPool.initial : ChannelPool := ⟨.empty, []⟩

end Wavis
