import Wavis.RoomInfo
import Wavis.Text
import Wavis.Concurrency.Pool
import Wavis.Concurrency.ReadCommitted

/-! Users, devices, refresh tokens, alpha invites and pairings in Postgres, at the isolation level
READ COMMITTED. Tokens are long and random, so no two have the same hash, and the table is kept by
the tokens themselves. No token or id is drawn twice.

A statement waits for a row that another transaction has written. A row that a statement locks is
kept as one that its transaction has written, with the same columns.

Any statement may fail, and so may the signing of a token. That covers the unique index on recovery
ids, which is left out. -/

namespace Wavis

open Concurrency

structure RefreshToken where
  deviceId : Uuid
  /-- The tokens that descend from one login. -/
  familyId : Uuid
  expiresAt : Instant
  consumedAt : Option Instant
  revokedAt : Option Instant
  deriving DecidableEq

structure Device where
  userId : Uuid
  deviceName : String
  revokedAt : Option Instant
  deriving DecidableEq

/-- What a registration stores about its user. -/
structure Profile where
  phraseSalt : String
  phraseVerifier : String
  recoveryId : String
  username : String
  deriving DecidableEq

structure Account where
  sessionEpoch : Int
  profile : Option Profile
  deriving DecidableEq

structure AlphaInvite where
  codeHash : String
  expiresAt : Option Instant
  disabledAt : Option Instant
  maxRedemptions : Nat
  redemptionCount : Nat
  deriving DecidableEq

structure Redemption where
  inviteId : Uuid
  userId : Uuid
  deviceId : Uuid
  deriving DecidableEq

structure Pairing where
  codeHash : String
  requestDeviceName : String
  approvedUserId : Option Uuid
  approvedByDeviceId : Option Uuid
  approvedAt : Option Instant
  expiresAt : Instant
  usedAt : Option Instant
  attemptCount : Nat
  deriving DecidableEq

/-- `used_at IS NULL AND expires_at > now()` -/
def Pairing.pending (pairing : Pairing) (now : Instant) : Bool :=
  pairing.usedAt.isNone && decide (now < pairing.expiresAt)

/-- `approved_at IS NULL AND used_at IS NULL AND expires_at > now() AND attempt_count < 5` -/
def Pairing.approvable (pairing : Pairing) (now : Instant) : Bool :=
  pairing.approvedAt.isNone && pairing.pending now && decide (pairing.attemptCount < 5)

/-- `approved_at IS NOT NULL AND used_at IS NULL AND expires_at > now() AND attempt_count < 5` -/
def Pairing.usable (pairing : Pairing) (now : Instant) : Bool :=
  pairing.approvedAt.isSome && pairing.pending now && decide (pairing.attemptCount < 5)

structure TokenStore where
  tokens : Table String RefreshToken
  devices : Table Uuid Device
  users : Table Uuid Account
  alphaInvites : Table Uuid AlphaInvite
  redemptions : Table Uuid Redemption
  pairings : Table Uuid Pairing
  drawn : List String
  nextTx : TxId

inductive TokenOp where
  | begin
  | commit (tx : TxId)
  | rollback (tx : TxId)
  | generateRefreshToken
  | getNow
  /-- `INSERT INTO refresh_tokens …` -/
  | insertToken (tx : TxId) (token : String) (row : RefreshToken)
  | signAccessToken (userId deviceId : Uuid) (epoch : Int)
  /-- `SELECT … FROM alpha_invites WHERE code_hash = … FOR UPDATE` -/
  | selectInviteForUpdate (tx : TxId) (codeHash : String)
  /-- `UPDATE alpha_invites SET redemption_count = redemption_count + 1 WHERE invite_id = …` -/
  | countRedemption (tx : TxId) (inviteId : Uuid)
  /-- `UPDATE alpha_invites SET disabled_at = COALESCE(disabled_at, now()) WHERE invite_id = …` -/
  | disableInvite (inviteId : Uuid)
  /-- `INSERT INTO users DEFAULT VALUES RETURNING user_id` -/
  | insertUser (tx : TxId)
  /-- Hashes a passphrase and encrypts the result. -/
  | hashPhrase (phrase : String) (userId : Uuid)
  | generateRecoveryId
  /-- `gen_random_uuid()` -/
  | genRandomUuid
  /-- `SELECT EXISTS(SELECT 1 FROM users WHERE recovery_id = …)` -/
  | recoveryIdExists (tx : TxId) (recoveryId : String)
  /-- `UPDATE users SET phrase_salt = …, … WHERE user_id = …` -/
  | updateUser (tx : TxId) (userId : Uuid) (profile : Profile)
  /-- `INSERT INTO devices … RETURNING device_id` -/
  | insertDevice (tx : TxId) (userId : Uuid) (deviceName : String)
  /-- `INSERT INTO alpha_invite_redemptions …` -/
  | insertRedemption (tx : TxId) (row : Redemption)
  /-- `SELECT … FROM pairings WHERE pairing_id = …` -/
  | selectPairing (tx : Option TxId) (pairingId : Uuid)
  /-- `UPDATE pairings SET attempt_count = attempt_count + 1 WHERE …` -/
  | countAttempt (pairingId : Uuid)
  /-- `UPDATE pairings SET approved_user_id = …, … WHERE …` -/
  | approvePairing (pairingId userId deviceId : Uuid)
  /-- `UPDATE pairings SET used_at = now() WHERE …` -/
  | usePairing (tx : TxId) (pairingId : Uuid) (now : Instant)
  /-- `SELECT session_epoch FROM users WHERE user_id = …` -/
  | selectEpoch (tx : TxId) (userId : Uuid)

@[reducible] def TokenOp.Resp : TokenOp → Type
  | begin => Except String (TxId × Instant)
  | commit _ => Except String Unit
  | rollback _ => Unit
  | generateRefreshToken => String
  | getNow => Instant
  | insertToken _ _ _ => Except String Unit
  | signAccessToken _ _ _ => Except String String
  | selectInviteForUpdate _ _ => Except String (Option (Uuid × AlphaInvite))
  | countRedemption _ _ => Except String Unit
  | disableInvite _ => Except String (Option AlphaInvite)
  | insertUser _ => Except String Uuid
  | hashPhrase _ _ => Except String (String × String)
  | generateRecoveryId => String
  | genRandomUuid => Uuid
  | recoveryIdExists _ _ => Except String Bool
  | updateUser _ _ _ => Except String Unit
  | insertDevice _ _ _ => Except String Uuid
  | insertRedemption _ _ => Except String Unit
  | selectPairing _ _ => Except String (Option Pairing)
  | countAttempt _ => Except String (Option Nat)
  | approvePairing _ _ _ => Except String Bool
  | usePairing _ _ _ => Except String (Option (Uuid × String))
  | selectEpoch _ _ => Except String Int

/-- What the code cannot determine. -/
structure TokenEnv where
  now : Instant
  failure : Option String
  token : String
  accessToken : String
  uuid : Uuid
  recoveryId : String
  phraseSalt : String
  phraseVerifier : String

namespace TokenStore

def commit (w : TokenStore) (tx : TxId) : TokenStore :=
  { w with
    tokens := w.tokens.commit tx
    devices := w.devices.commit tx
    users := w.users.commit tx
    alphaInvites := w.alphaInvites.commit tx
    redemptions := w.redemptions.commit tx
    pairings := w.pairings.commit tx }

def rollback (w : TokenStore) (tx : TxId) : TokenStore :=
  { w with
    tokens := w.tokens.rollback tx
    devices := w.devices.rollback tx
    users := w.users.rollback tx
    alphaInvites := w.alphaInvites.rollback tx
    redemptions := w.redemptions.rollback tx
    pairings := w.pairings.rollback tx }

def insertToken (w : TokenStore) (tx : TxId) (token : String) (row : RefreshToken) :
    Except String Unit × TokenStore :=
  if ((w.devices.rows row.deviceId).visible (some tx)).isNone then
    (.error "foreign_key_violation", w)
  else (.ok (), { w with tokens := w.tokens.stage tx token (some row) })

/-- Looks for the code and locks the row it finds. -/
def selectInviteForUpdate (w : TokenStore) (tx : TxId) (codeHash : String) :
    Option (Except String (Option (Uuid × AlphaInvite)) × TokenStore) :=
  match (w.alphaInvites.scan (some tx) fun _ invite => invite.codeHash = codeHash).head? with
  | none => some (.ok none, w)
  | some inviteId =>
    let row := w.alphaInvites.rows inviteId
    if ¬ row.Free (some tx) then none
    else
      match row.visible (some tx) with
      | none => some (.ok none, w)
      | some invite =>
        some (.ok (some (inviteId, invite)),
          { w with alphaInvites := w.alphaInvites.stage tx inviteId (some invite) })

def countRedemption (w : TokenStore) (tx : TxId) (inviteId : Uuid) :
    Option (Except String Unit × TokenStore) :=
  let row := w.alphaInvites.rows inviteId
  match row.visible (some tx) with
  | none => some (.ok (), w)
  | some invite =>
    if ¬ row.Free (some tx) then none
    else if invite.maxRedemptions < invite.redemptionCount + 1 then
      some (.error "check_violation", w)
    else
      let invite := { invite with redemptionCount := invite.redemptionCount + 1 }
      some (.ok (), { w with alphaInvites := w.alphaInvites.stage tx inviteId (some invite) })

def disableInvite (w : TokenStore) (inviteId : Uuid) (now : Instant) :
    Option (Except String (Option AlphaInvite) × TokenStore) :=
  let row := w.alphaInvites.rows inviteId
  match row.visible none with
  | none => some (.ok none, w)
  | some invite =>
    if ¬ row.Free none then none
    else
      let invite := { invite with disabledAt := some (invite.disabledAt.getD now) }
      some (.ok (some invite), { w with alphaInvites := w.alphaInvites.put inviteId (some invite) })

/-- An id that was used before is not drawn. -/
def insertUser (w : TokenStore) (tx : TxId) (userId : Uuid) :
    Option (Except String Uuid × TokenStore) :=
  if userId ∈ w.users.keys then none
  else some (.ok userId, { w with users := w.users.stage tx userId (some ⟨0, none⟩) })

def recoveryIdExists (w : TokenStore) (tx : TxId) (recoveryId : String) : Bool :=
  !(w.users.scan (some tx) fun _ account =>
    account.profile.any fun profile => profile.recoveryId = recoveryId).isEmpty

def updateUser (w : TokenStore) (tx : TxId) (userId : Uuid) (profile : Profile) :
    Option (Except String Unit × TokenStore) :=
  let row := w.users.rows userId
  match row.visible (some tx) with
  | none => some (.ok (), w)
  | some account =>
    if ¬ row.Free (some tx) then none
    else
      some (.ok (),
        { w with users := w.users.stage tx userId (some { account with profile := some profile }) })

def insertDevice (w : TokenStore) (tx : TxId) (deviceId : Uuid) (device : Device) :
    Option (Except String Uuid × TokenStore) :=
  if deviceId ∈ w.devices.keys then none
  else if ((w.users.rows device.userId).visible (some tx)).isNone then
    some (.error "foreign_key_violation", w)
  else some (.ok deviceId, { w with devices := w.devices.stage tx deviceId (some device) })

def insertRedemption (w : TokenStore) (tx : TxId) (redemptionId : Uuid) (row : Redemption) :
    Option (Except String Unit × TokenStore) :=
  if redemptionId ∈ w.redemptions.keys then none
  else if ((w.alphaInvites.rows row.inviteId).visible (some tx)).isNone
      || ((w.users.rows row.userId).visible (some tx)).isNone
      || ((w.devices.rows row.deviceId).visible (some tx)).isNone then
    some (.error "foreign_key_violation", w)
  else some (.ok (), { w with redemptions := w.redemptions.stage tx redemptionId (some row) })

def updatePairing {α : Type} (w : TokenStore) (pairingId : Uuid) (test : Pairing → Bool)
    (change : Pairing → Pairing) (nothing : α) (answer : Pairing → α) :
    Option (Except String α × TokenStore) :=
  let row := w.pairings.rows pairingId
  match row.visible none with
  | none => some (.ok nothing, w)
  | some pairing =>
    if !test pairing then some (.ok nothing, w)
    else if ¬ row.Free none then none
    else
      some (.ok (answer (change pairing)),
        { w with pairings := w.pairings.put pairingId (some (change pairing)) })

def countAttempt (w : TokenStore) (pairingId : Uuid) (now : Instant) :
    Option (Except String (Option Nat) × TokenStore) :=
  w.updatePairing pairingId (fun pairing => pairing.pending now)
    (fun pairing => { pairing with attemptCount := pairing.attemptCount + 1 }) none
    fun pairing => some pairing.attemptCount

def approvePairing (w : TokenStore) (pairingId userId deviceId : Uuid) (now : Instant) :
    Option (Except String Bool × TokenStore) :=
  w.updatePairing pairingId (fun pairing => pairing.approvable now)
    (fun pairing =>
      { pairing with
        approvedUserId := some userId, approvedByDeviceId := some deviceId
        approvedAt := some now })
    false fun _ => true

/-- The update of a finish, in its transaction. A pairing that nobody has approved has no user. -/
def usePairing (w : TokenStore) (tx : TxId) (pairingId : Uuid) (now : Instant) :
    Option (Except String (Option (Uuid × String)) × TokenStore) :=
  let row := w.pairings.rows pairingId
  match row.visible (some tx) with
  | none => some (.ok none, w)
  | some pairing =>
    if !pairing.usable now then some (.ok none, w)
    else if ¬ row.Free (some tx) then none
    else
      let w := { w with
        pairings := w.pairings.stage tx pairingId (some { pairing with usedAt := some now }) }
      match pairing.approvedUserId with
      | none => some (.error "unexpected null", w)
      | some userId => some (.ok (some (userId, pairing.requestDeviceName)), w)

def selectEpoch (w : TokenStore) (tx : TxId) (userId : Uuid) : Except String Int :=
  match (w.users.rows userId).visible (some tx) with
  | none => .error "no rows returned"
  | some account => .ok account.sessionEpoch

end TokenStore

def TokenEnv.fallible {α : Type} (env : TokenEnv) (w : TokenStore)
    (run : Option (Except String α × TokenStore)) : Option (Except String α × TokenStore) :=
  match env.failure with
  | some reason => some (.error reason, w)
  | none => run

@[elab_as_elim]
theorem TokenEnv.of_fallible {α : Type} {env : TokenEnv} {w w' : TokenStore}
    {run : Option (Except String α × TokenStore)} {answer : Except String α}
    {P : Except String α → TokenStore → Prop} (h : env.fallible w run = some (answer, w'))
    (herror : ∀ reason, P (.error reason) w) (hrun : run = some (answer, w') → P answer w') :
    P answer w' := by
  unfold TokenEnv.fallible at h
  split at h
  · cases h
    exact herror _
  · exact hrun h

def TokenOp.exec (o : TokenOp) (env : TokenEnv) (w : TokenStore) :
    Option (o.Resp × TokenStore) :=
  match o with
  | begin => env.fallible w (some (.ok (w.nextTx, env.now), { w with nextTx := w.nextTx + 1 }))
  | commit tx =>
    match env.failure with
    | some reason => some (.error reason, w.rollback tx)
    | none => some (.ok (), w.commit tx)
  | rollback tx => some ((), w.rollback tx)
  | generateRefreshToken =>
    if env.token ∈ w.drawn then none
    else some (env.token, { w with drawn := env.token :: w.drawn })
  | getNow => some (env.now, w)
  | insertToken tx token row => env.fallible w (some (w.insertToken tx token row))
  | signAccessToken _ _ _ => env.fallible w (some (.ok env.accessToken, w))
  | selectInviteForUpdate tx codeHash => env.fallible w (w.selectInviteForUpdate tx codeHash)
  | countRedemption tx inviteId => env.fallible w (w.countRedemption tx inviteId)
  | disableInvite inviteId => env.fallible w (w.disableInvite inviteId env.now)
  | insertUser tx => env.fallible w (w.insertUser tx env.uuid)
  | hashPhrase _ _ => env.fallible w (some (.ok (env.phraseSalt, env.phraseVerifier), w))
  | generateRecoveryId => some (env.recoveryId, w)
  | genRandomUuid => some (env.uuid, w)
  | recoveryIdExists tx recoveryId =>
    env.fallible w (some (.ok (w.recoveryIdExists tx recoveryId), w))
  | updateUser tx userId profile => env.fallible w (w.updateUser tx userId profile)
  | insertDevice tx userId deviceName =>
    env.fallible w (w.insertDevice tx env.uuid ⟨userId, deviceName, none⟩)
  | insertRedemption tx row => env.fallible w (w.insertRedemption tx env.uuid row)
  | selectPairing tx pairingId =>
    env.fallible w (some (.ok ((w.pairings.rows pairingId).visible tx), w))
  | countAttempt pairingId => env.fallible w (w.countAttempt pairingId env.now)
  | approvePairing pairingId userId deviceId =>
    env.fallible w (w.approvePairing pairingId userId deviceId env.now)
  | usePairing tx pairingId now => env.fallible w (w.usePairing tx pairingId now)
  | selectEpoch tx userId => env.fallible w (some (w.selectEpoch tx userId, w))

abbrev TokenProg (α : Type) := Prog TokenOp.Resp α

def TokenOp.perform (o : TokenOp) : TokenProg o.Resp := Prog.perform o

def trying {ε α β : Type} (wrap : String → ε) (statement : TokenProg (Except String α))
    (next : α → TokenProg (Except ε β)) : TokenProg (Except ε β) :=
  statement >>= fun
    | .error e => pure (.error (wrap e))
    | .ok a => next a

theorem obeys_trying {Φ ε α β : Type} {step : Φ → (o : TokenOp) → o.Resp → Φ}
    {may : Φ → TokenOp → Prop} {post : Φ → Except ε β → Prop} {wrap : String → ε}
    {statement : TokenProg (Except String α)} {next : α → TokenProg (Except ε β)} {φ : Φ}
    (h : statement.Obeys step may (fun φ r => match r with
      | .error e => post φ (.error (wrap e))
      | .ok a => (next a).Obeys step may post φ) φ) :
    (trying wrap statement next).Obeys step may post φ := by
  apply h.bind
  intro φ r hr
  cases r with
  | error e | ok a => exact hr

end Wavis
