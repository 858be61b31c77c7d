import Wavis.TokenStore

/-! A new device shows a code, a trusted device approves the pairing with it, and the new device
then finishes the pairing with the same code and gets its tokens. Both calls read the pairing first
and check it, and then write it by an update that checks it again. Wrong codes are counted. -/

namespace Wavis

open Concurrency

inductive PairingError where
  | notFound
  | expired
  | alreadyApproved
  | alreadyUsed
  | notApproved
  | codeMismatch
  | lockedOut
  | databaseError (reason : String)
  deriving DecidableEq

structure PairingResult where
  userId : Uuid
  deviceId : Uuid
  accessToken : String
  refreshToken : String
  deriving DecidableEq

inductive PairingStage where
  | approve
  | finish
  deriving DecidableEq

/-- Why a pairing is refused, in the order in which the code looks. -/
def Pairing.refusal (pairing : Pairing) (stage : PairingStage) (now : Instant) :
    Option PairingError :=
  if pairing.usedAt.isSome then some .alreadyUsed
  else if pairing.expiresAt < now then some .expired
  else if 5 ≤ pairing.attemptCount then some .lockedOut
  else
    match stage with
    | .approve => if pairing.approvedAt.isSome then some .alreadyApproved else none
    | .finish => if pairing.approvedAt.isNone then some .notApproved else none

namespace Pair

def rejectCode {α : Type} (pairingId : Uuid) : TokenProg (Except PairingError α) :=
  trying .databaseError (TokenOp.perform (.countAttempt pairingId)) fun updated =>
    if updated.any fun count => decide (5 ≤ count) then pure (.error .lockedOut)
    else pure (.error .codeMismatch)

/-- Reads the pairing again to tell why the update has changed no row. -/
def explain {α : Type} (tx : Option TxId) (stage : PairingStage) (pairingId : Uuid) :
    TokenProg (Except PairingError α) :=
  trying .databaseError (TokenOp.perform (.selectPairing tx pairingId)) fun
    | none => pure (.error .notFound)
    | some current =>
      .op .getNow fun now =>
        match current.refusal stage now with
        | some e => pure (.error e)
        | none => pure (.error (.databaseError "conditional update failed for unknown reason"))

/-- Reads and checks the pairing and the code, and goes on if both are right. -/
def verify {α : Type} (hash : String → String) (stage : PairingStage) (pairingId : Uuid)
    (code : String) (next : TokenProg (Except PairingError α)) :
    TokenProg (Except PairingError α) :=
  trying .databaseError (TokenOp.perform (.selectPairing none pairingId)) fun
    | none => pure (.error .notFound)
    | some row =>
      .op .getNow fun now =>
        match row.refusal stage now with
        | some e => pure (.error e)
        | none => if hash code ≠ row.codeHash then rejectCode pairingId else next

def approvePairing (hash : String → String) (pairingId : Uuid) (code : String)
    (userId deviceId : Uuid) : TokenProg (Except PairingError Unit) :=
  verify hash .approve pairingId code <|
    trying .databaseError (TokenOp.perform (.approvePairing pairingId userId deviceId))
      fun approved =>
        if approved then pure (.ok ()) else explain none .approve pairingId

def createDevice (tx : TxId) (userId : Uuid) (deviceName : String) (refreshTtl : Duration) :
    TokenProg (Except PairingError PairingResult) :=
  trying .databaseError (TokenOp.perform (.insertDevice tx userId deviceName)) fun deviceId =>
  .op .generateRefreshToken fun token =>
  .op .getNow fun now =>
  .op .genRandomUuid fun familyId =>
  trying .databaseError (TokenOp.perform
    (.insertToken tx token ⟨deviceId, familyId, now + refreshTtl, none, none⟩)) fun _ =>
  trying .databaseError (TokenOp.perform (.selectEpoch tx userId)) fun epoch =>
  trying .databaseError (TokenOp.perform (.signAccessToken userId deviceId epoch))
    fun accessToken =>
  pure (.ok ⟨userId, deviceId, accessToken, token⟩)

def usePairing (tx : TxId) (now : Instant) (pairingId : Uuid) (refreshTtl : Duration) :
    TokenProg (Except PairingError PairingResult) :=
  trying .databaseError (TokenOp.perform (.usePairing tx pairingId now)) fun
    | none => explain (some tx) .finish pairingId
    | some (userId, deviceName) => createDevice tx userId deviceName refreshTtl

def finishPairing (hash : String → String) (pairingId : Uuid) (code : String)
    (refreshTtl : Duration) : TokenProg (Except PairingError PairingResult) :=
  verify hash .finish pairingId code <|
    trying .databaseError (TokenOp.perform .begin) fun (tx, now) =>
      usePairing tx now pairingId refreshTtl >>= fun
        | .error e => .op (.rollback tx) fun _ => pure (.error e)
        | .ok result =>
          trying .databaseError (TokenOp.perform (.commit tx)) fun _ => pure (.ok result)

end Pair

inductive PairingCall where
  | approvePairing (pairingId : Uuid) (code : String) (userId deviceId : Uuid)
  | finishPairing (pairingId : Uuid) (code : String) (refreshTtl : Duration)
  deriving DecidableEq

def PairingRet : PairingCall → Type
  | .approvePairing _ _ _ _ => Except PairingError Unit
  | .finishPairing _ _ _ => Except PairingError PairingResult

def PairingCall.body (hash : String → String) : (call : PairingCall) → TokenProg (PairingRet call)
  | .approvePairing pairingId code userId deviceId =>
    Pair.approvePairing hash pairingId code userId deviceId
  | .finishPairing pairingId code refreshTtl => Pair.finishPairing hash pairingId code refreshTtl

def pairingService (hash : String → String) :
    System TokenOp.Resp PairingRet TokenEnv TokenStore where
  exec := TokenOp.exec
  body := PairingCall.body hash

abbrev PairingPool := Pool TokenOp.Resp PairingRet TokenStore

def PairingPool.initial (w : TokenStore) : PairingPool := ⟨w, []⟩

end Wavis
