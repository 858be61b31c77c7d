import Wavis.TokenStore

/-! An invite is redeemed in the transaction that creates the user, so that both happen or neither.
The raw code is not stored: the invite is found by the hash of the normalised code. -/

namespace Wavis

open Concurrency

inductive AlphaInviteError where
  | invalid
  | databaseError (reason : String)
  deriving DecidableEq

inductive RegisterError where
  | inviteInvalid
  | databaseError (reason : String)
  | signingFailed (reason : String)
  deriving DecidableEq

def RegisterError.ofInvite : AlphaInviteError → RegisterError
  | .invalid => .inviteInvalid
  | .databaseError reason => .databaseError reason

structure DeviceRegistration where
  userId : Uuid
  deviceId : Uuid
  recoveryId : String
  accessToken : String
  refreshToken : String
  deriving DecidableEq

inductive AlphaInviteAdminError where
  | notFound
  | databaseError (reason : String)
  deriving DecidableEq

namespace Alpha

/-- Blank, tab, line feed, form feed and carriage return. -/
def isAsciiWhitespace (c : Char) : Bool :=
  let n := c.toNat
  n == 32 || n == 9 || n == 10 || n == 12 || n == 13

def toAsciiUppercase (c : Char) : Char :=
  if 'a' ≤ c ∧ c ≤ 'z' then Char.ofNat (c.toNat - 32) else c

def normalizeInviteCode (code : String) : Except AlphaInviteError String :=
  let normalized :=
    ((trim code).toList.filter fun c => !isAsciiWhitespace c && c != '-').map toAsciiUppercase
  if normalized.isEmpty then .error .invalid else .ok (String.ofList normalized)

/-- The hash with the pepper of the server is left open. -/
def hashInviteCode (hash : String → String) (code : String) : Except AlphaInviteError String :=
  (normalizeInviteCode code).map hash

def active (invite : AlphaInvite) (now : Instant) : Bool :=
  invite.disabledAt.isNone && invite.expiresAt.all (fun expiresAt => decide (now < expiresAt))
    && decide (invite.redemptionCount < invite.maxRedemptions)

/-- Locks the invite, checks it and counts the redemption. -/
def redeemHashedInvite (tx : TxId) (codeHash : String) : TokenProg (Except AlphaInviteError Uuid) :=
  trying .databaseError (TokenOp.perform (.selectInviteForUpdate tx codeHash)) fun
    | none => pure (.error .invalid)
    | some (inviteId, invite) =>
      .op .getNow fun now =>
        if !active invite now then pure (.error .invalid)
        else
          trying .databaseError (TokenOp.perform (.countRedemption tx inviteId)) fun _ =>
            pure (.ok inviteId)

def redeemAlphaInvite (hash : String → String) (tx : TxId) (code : String) :
    TokenProg (Except AlphaInviteError Uuid) :=
  match hashInviteCode hash code with
  | .error e => pure (.error e)
  | .ok codeHash => redeemHashedInvite tx codeHash

def generateUniqueRecoveryIdInTx (tx : TxId) : Nat → TokenProg (Except RegisterError String)
  | 0 => pure (.error (.databaseError "failed to generate unique recovery_id"))
  | left + 1 =>
    .op .generateRecoveryId fun recoveryId =>
      trying .databaseError (TokenOp.perform (.recoveryIdExists tx recoveryId)) fun taken =>
        if taken then generateUniqueRecoveryIdInTx tx left else pure (.ok recoveryId)

def createUser (tx : TxId) (phrase username : String) (refreshTtl : Duration) (inviteId : Uuid) :
    TokenProg (Except RegisterError DeviceRegistration) :=
  trying .databaseError (TokenOp.perform (.insertUser tx)) fun userId =>
  trying .databaseError (TokenOp.perform (.hashPhrase phrase userId)) fun (salt, verifier) =>
  generateUniqueRecoveryIdInTx tx 6 >>= fun
    | .error e => pure (.error e)
    | .ok recoveryId =>
      trying .databaseError (TokenOp.perform
        (.updateUser tx userId ⟨salt, verifier, recoveryId, username⟩)) fun _ =>
      trying .databaseError (TokenOp.perform (.insertDevice tx userId "primary")) fun deviceId =>
      .op .generateRefreshToken fun token =>
      .op .getNow fun now =>
      .op .genRandomUuid fun familyId =>
      trying .databaseError (TokenOp.perform
        (.insertToken tx token ⟨deviceId, familyId, now + refreshTtl, none, none⟩)) fun _ =>
      trying .databaseError (TokenOp.perform
        (.insertRedemption tx ⟨inviteId, userId, deviceId⟩)) fun _ =>
      trying .signingFailed (TokenOp.perform (.signAccessToken userId deviceId 0))
        fun accessToken =>
      pure (.ok ⟨userId, deviceId, recoveryId, accessToken, token⟩)

/-- What follows the invite. A transaction that is dropped before its commit is rolled back. -/
def finishRegistration (tx : TxId) (phrase username : String) (refreshTtl : Duration) :
    Except AlphaInviteError Uuid → TokenProg (Except RegisterError DeviceRegistration)
  | .error e => .op (.rollback tx) fun _ => pure (.error (.ofInvite e))
  | .ok inviteId =>
    createUser tx phrase username refreshTtl inviteId >>= fun
      | .error e => .op (.rollback tx) fun _ => pure (.error e)
      | .ok registration =>
        trying .databaseError (TokenOp.perform (.commit tx)) fun _ => pure (.ok registration)

def registerUserWithInvite (hash : String → String) (phrase username inviteCode : String)
    (refreshTtl : Duration) : TokenProg (Except RegisterError DeviceRegistration) :=
  trying .databaseError (TokenOp.perform .begin) fun (tx, _) =>
    redeemAlphaInvite hash tx inviteCode >>= finishRegistration tx phrase username refreshTtl

def disableAlphaInvite (inviteId : Uuid) : TokenProg (Except AlphaInviteAdminError AlphaInvite) :=
  trying .databaseError (TokenOp.perform (.disableInvite inviteId)) fun
    | none => pure (.error .notFound)
    | some invite => pure (.ok invite)

end Alpha

inductive AlphaCall where
  | registerUserWithInvite (phrase username inviteCode : String) (refreshTtl : Duration)
  | disableAlphaInvite (inviteId : Uuid)
  deriving DecidableEq

def AlphaRet : AlphaCall → Type
  | .registerUserWithInvite _ _ _ _ => Except RegisterError DeviceRegistration
  | .disableAlphaInvite _ => Except AlphaInviteAdminError AlphaInvite

def AlphaCall.body (hash : String → String) : (call : AlphaCall) → TokenProg (AlphaRet call)
  | .registerUserWithInvite phrase username inviteCode refreshTtl =>
    Alpha.registerUserWithInvite hash phrase username inviteCode refreshTtl
  | .disableAlphaInvite inviteId => Alpha.disableAlphaInvite inviteId

def alphaService (hash : String → String) : System TokenOp.Resp AlphaRet TokenEnv TokenStore where
  exec := TokenOp.exec
  body := AlphaCall.body hash

abbrev AlphaPool := Pool TokenOp.Resp AlphaRet TokenStore

def AlphaPool.initial (w : TokenStore) : AlphaPool := ⟨w, []⟩

end Wavis
