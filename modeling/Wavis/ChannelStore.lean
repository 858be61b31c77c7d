import Wavis.ChannelModels
import Wavis.Concurrency.ReadCommitted

/-! Channels, memberships and channel invites in Postgres, at the isolation level READ COMMITTED. An
operation is one statement, or the part of it that touches one row. It may fail for a reason of the
database's own, such as a deadlock, and then leaves the rows as they were; a failed commit is a
rollback.

Primary keys, foreign keys and the checks of the tables are part of the statements. The index that
allows one owner for each channel is left out: nothing depends on it. -/

namespace Wavis

open Concurrency

/-- What the committed transactions did; no code reads it. -/
inductive ChannelEvent where
  | inviteCreated (code : String)
  | consumed (code : String)
  | joined (channelId userId : Uuid)
  | left (channelId userId : Uuid)
  | banned (channelId userId : Uuid)
  | unbanned (channelId userId : Uuid)
  deriving DecidableEq

structure ChannelStore where
  channels : Table Uuid Channel
  memberships : Table (Uuid × Uuid) ChannelMembership
  invites : Table String ChannelInvite
  /-- The ids that were drawn for channels. -/
  drawn : List Uuid
  nextTx : TxId
  drafts : List (TxId × ChannelEvent)
  log : List ChannelEvent

inductive MembershipEdit where
  | ban (now : Instant)
  | unban
  | setRole (role : ChannelRole)
  deriving DecidableEq

def MembershipEdit.apply (edit : MembershipEdit) (row : ChannelMembership) : ChannelMembership :=
  match edit with
  | ban now => { row with bannedAt := some now }
  | unban => { row with bannedAt := none }
  | setRole role => { row with role }

def MembershipEdit.events (edit : MembershipEdit) (channelId userId : Uuid) : List ChannelEvent :=
  match edit with
  | ban _ => [.banned channelId userId]
  | unban => [.unbanned channelId userId]
  | setRole _ => []

def ChannelInvite.usable (invite : ChannelInvite) (now : Instant) : Bool :=
  invite.expiresAt.all (fun expiresAt => decide ((now : Int) < expiresAt))
    && invite.maxUses.all fun maxUses => decide (invite.uses < maxUses)

/-- The largest value of an integer column. -/
def maxInteger : Int := 2147483647

inductive Dependent where
  | membership (channelId userId : Uuid)
  | invite (code : String)

inductive ChannelOp where
  | begin
  | commit (tx : TxId)
  | rollback (tx : TxId)
  /-- `INSERT INTO channels … RETURNING channel_id` -/
  | insertChannel (tx : TxId) (name : String) (ownerUserId : Uuid) (now : Instant)
  /-- `SELECT owner_user_id FROM channels WHERE channel_id = …` -/
  | selectOwner (channelId : Uuid)
  /-- `SELECT name FROM channels WHERE channel_id = …` -/
  | selectName (tx : TxId) (channelId : Uuid)
  /-- `DELETE FROM channels WHERE channel_id = …`, without the rows that go with it. -/
  | deleteChannel (tx : TxId) (channelId : Uuid)
  | selectDependents (tx : TxId) (channelId : Uuid)
  | deleteDependent (tx : TxId) (dependent : Dependent)
  /-- `SELECT role, banned_at FROM channel_memberships WHERE channel_id = … AND user_id = …` -/
  | selectMembership (tx : Option TxId) (channelId userId : Uuid)
  /-- `INSERT INTO channel_memberships …`; a conflict is an error or answered by `false`. -/
  | insertMembership (tx : TxId) (channelId userId : Uuid) (role : ChannelRole)
      (onConflictDoNothing : Bool)
  /-- `UPDATE channel_memberships SET … WHERE channel_id = … AND user_id = …` -/
  | updateMembership (tx : TxId) (channelId userId : Uuid) (edit : MembershipEdit)
  /-- `DELETE FROM channel_memberships WHERE channel_id = … AND user_id = …` -/
  | deleteMembership (channelId userId : Uuid)
  /-- `INSERT INTO channel_invites …` -/
  | insertInvite (invite : ChannelInvite)
  /-- `UPDATE channel_invites SET uses = uses + 1 WHERE code = … AND … RETURNING channel_id` -/
  | consumeInvite (tx : TxId) (code : String) (now : Instant)
  /-- `DELETE FROM channel_invites WHERE code = … AND channel_id = …` -/
  | deleteInvite (channelId : Uuid) (code : String)
  | generateInviteCode
  | getNow

@[reducible] def ChannelOp.Resp : ChannelOp → Type
  | begin => Except String (TxId × Instant)
  | commit _ => Except String Unit
  | rollback _ => Unit
  | insertChannel _ _ _ _ => Except String Uuid
  | selectOwner _ => Except String (Option Uuid)
  | selectName _ _ => Except String (Option String)
  | deleteChannel _ _ => Except String Bool
  | selectDependents _ _ => Except String (List Dependent)
  | deleteDependent _ _ => Except String Unit
  | selectMembership _ _ _ => Except String (Option ChannelMembership)
  | insertMembership _ _ _ _ _ => Except String Bool
  | updateMembership _ _ _ _ => Except String (Option ChannelMembership)
  | deleteMembership _ _ => Except String Unit
  | insertInvite _ => Except String Unit
  | consumeInvite _ _ _ => Except String (Option Uuid)
  | deleteInvite _ _ => Except String Bool
  | generateInviteCode => String
  | getNow => Instant

/-- What the code cannot determine. Clocks may show any time. -/
structure ChannelEnv where
  now : Instant := 0
  failure : Option String := none
  uuid : Uuid := nilUuid
  code : String := ""

namespace ChannelStore

def empty : ChannelStore := ⟨.empty, .empty, .empty, [], 0, [], []⟩

def commit (w : ChannelStore) (tx : TxId) : ChannelStore :=
  { w with
    channels := w.channels.commit tx
    memberships := w.memberships.commit tx
    invites := w.invites.commit tx
    drafts := w.drafts.filter fun draft => draft.1 ≠ tx
    log := w.log ++ (w.drafts.filter fun draft => draft.1 = tx).map (·.2) }

def rollback (w : ChannelStore) (tx : TxId) : ChannelStore :=
  { w with
    channels := w.channels.rollback tx
    memberships := w.memberships.rollback tx
    invites := w.invites.rollback tx
    drafts := w.drafts.filter fun draft => draft.1 ≠ tx }

def draft (w : ChannelStore) (tx : TxId) (events : List ChannelEvent) : ChannelStore :=
  { w with drafts := w.drafts ++ events.map fun event => (tx, event) }

def record (w : ChannelStore) (event : ChannelEvent) : ChannelStore :=
  { w with log := w.log ++ [event] }

def setChannels (w : ChannelStore) (channels : Table Uuid Channel) : ChannelStore :=
  { w with channels }

def setMemberships (w : ChannelStore) (memberships : Table (Uuid × Uuid) ChannelMembership) :
    ChannelStore :=
  { w with memberships }

def setInvites (w : ChannelStore) (invites : Table String ChannelInvite) : ChannelStore :=
  { w with invites }

def dependents (w : ChannelStore) (tx : TxId) (channelId : Uuid) : List Dependent :=
  (w.memberships.scan (some tx) fun key _ => key.1 = channelId).map
      (fun key => .membership key.1 key.2)
    ++ (w.invites.scan (some tx) fun _ invite => invite.channelId = channelId).map .invite

/-- The id is drawn at random and has not been drawn before. -/
def insertChannel (w : ChannelStore) (tx : TxId) (name : String) (ownerUserId : Uuid)
    (now : Instant) (channelId : Uuid) : Option (Except String Uuid × ChannelStore) :=
  if channelId ∈ w.drawn then none
  else
    let channel : Channel := { channelId, name, ownerUserId, createdAt := now }
    some (.ok channelId, { w with
      channels := w.channels.stage tx channelId (some channel)
      drawn := channelId :: w.drawn })

def deleteChannel (w : ChannelStore) (tx : TxId) (channelId : Uuid) :
    Option (Except String Bool × ChannelStore) :=
  let row := w.channels.rows channelId
  if row.visible (some tx) = none then some (.ok false, w)
  else if row.Free (some tx) ∧ row.Unshared tx then
    some (.ok true, w.setChannels (w.channels.stage tx channelId none))
  else none

def deleteDependent (w : ChannelStore) (tx : TxId) :
    Dependent → Option (Except String Unit × ChannelStore)
  | .membership channelId userId =>
    let row := w.memberships.rows (channelId, userId)
    if row.visible (some tx) = none then some (.ok (), w)
    else if row.Free (some tx) then
      some (.ok (), w.setMemberships (w.memberships.stage tx (channelId, userId) none))
    else none
  | .invite code =>
    let row := w.invites.rows code
    if row.visible (some tx) = none then some (.ok (), w)
    else if row.Free (some tx) then some (.ok (), w.setInvites (w.invites.stage tx code none))
    else none

/-- The key is checked first; a row with another transaction's version of the key is waited for. The
channel must exist, and stays until the transaction ends. -/
def insertMembership (w : ChannelStore) (tx : TxId) (channelId userId : Uuid) (role : ChannelRole)
    (onConflictDoNothing : Bool) : Option (Except String Bool × ChannelStore) :=
  let row := w.memberships.rows (channelId, userId)
  let channel := w.channels.rows channelId
  if ¬ row.Free (some tx) then none
  else if row.visible (some tx) ≠ none then
    some (if onConflictDoNothing then .ok false else .error "unique_violation", w)
  else if channel.visible (some tx) = none then some (.error "foreign_key_violation", w)
  else if channel.Free (some tx) then
    let w := w.setMemberships (w.memberships.stage tx (channelId, userId) (some ⟨role, none⟩))
    some (.ok true, (w.setChannels (w.channels.share tx channelId)).draft tx
      [.joined channelId userId])
  else none

def updateMembership (w : ChannelStore) (tx : TxId) (channelId userId : Uuid)
    (edit : MembershipEdit) : Option (Except String (Option ChannelMembership) × ChannelStore) :=
  let row := w.memberships.rows (channelId, userId)
  match row.visible (some tx) with
  | none => some (.ok none, w)
  | some membership =>
    if row.Free (some tx) then
      let w := w.setMemberships
        (w.memberships.stage tx (channelId, userId) (some (edit.apply membership)))
      some (.ok (some (edit.apply membership)), w.draft tx (edit.events channelId userId))
    else none

def deleteMembership (w : ChannelStore) (channelId userId : Uuid) :
    Option (Except String Unit × ChannelStore) :=
  let row := w.memberships.rows (channelId, userId)
  if row.visible none = none then some (.ok (), w)
  else if row.Free none then
    some (.ok (), (w.setMemberships (w.memberships.put (channelId, userId) none)).record
      (.left channelId userId))
  else none

def insertInvite (w : ChannelStore) (invite : ChannelInvite) :
    Option (Except String Unit × ChannelStore) :=
  let row := w.invites.rows invite.code
  let channel := w.channels.rows invite.channelId
  if ¬ invite.maxUses.all (fun maxUses => decide (0 < maxUses)) then
    some (.error "check_violation", w)
  else if ¬ row.Free none then none
  else if (row.visible none).isSome then some (.error "unique_violation", w)
  else if (channel.visible none).isNone then some (.error "foreign_key_violation", w)
  else if channel.Free none then
    some (.ok (), (w.setInvites (w.invites.put invite.code (some invite))).record
      (.inviteCreated invite.code))
  else none

def consumeInvite (w : ChannelStore) (tx : TxId) (code : String) (now : Instant) :
    Option (Except String (Option Uuid) × ChannelStore) :=
  let row := w.invites.rows code
  match row.visible (some tx) with
  | none => some (.ok none, w)
  | some invite =>
    if !invite.usable now then some (.ok none, w)
    else if ¬ row.Free (some tx) then none
    else if invite.uses + 1 > maxInteger then some (.error "numeric_value_out_of_range", w)
    else
      let w := w.setInvites
        (w.invites.stage tx code (some { invite with uses := invite.uses + 1 }))
      some (.ok (some invite.channelId), w.draft tx [.consumed code])

def deleteInvite (w : ChannelStore) (channelId : Uuid) (code : String) :
    Option (Except String Bool × ChannelStore) :=
  let row := w.invites.rows code
  match row.visible none with
  | none => some (.ok false, w)
  | some invite =>
    if invite.channelId ≠ channelId then some (.ok false, w)
    else if row.Free none then some (.ok true, w.setInvites (w.invites.put code none))
    else none

end ChannelStore

def ChannelEnv.fallible {α : Type} (env : ChannelEnv) (w : ChannelStore)
    (run : Option (Except String α × ChannelStore)) : Option (Except String α × ChannelStore) :=
  match env.failure with
  | some reason => some (.error reason, w)
  | none => run

def ChannelOp.exec (o : ChannelOp) (env : ChannelEnv) (w : ChannelStore) :
    Option (o.Resp × ChannelStore) :=
  match o with
  | begin => env.fallible w (some (.ok (w.nextTx, env.now), { w with nextTx := w.nextTx + 1 }))
  | commit tx =>
    match env.failure with
    | some reason => some (.error reason, w.rollback tx)
    | none => some (.ok (), w.commit tx)
  | rollback tx => some ((), w.rollback tx)
  | insertChannel tx name ownerUserId now =>
    env.fallible w (w.insertChannel tx name ownerUserId now env.uuid)
  | selectOwner channelId =>
    env.fallible w (some (.ok (((w.channels.rows channelId).visible none).map (·.ownerUserId)), w))
  | selectName tx channelId =>
    env.fallible w (some (.ok (((w.channels.rows channelId).visible (some tx)).map (·.name)), w))
  | deleteChannel tx channelId => env.fallible w (w.deleteChannel tx channelId)
  | selectDependents tx channelId => env.fallible w (some (.ok (w.dependents tx channelId), w))
  | deleteDependent tx dependent => env.fallible w (w.deleteDependent tx dependent)
  | selectMembership tx channelId userId =>
    env.fallible w (some (.ok ((w.memberships.rows (channelId, userId)).visible tx), w))
  | insertMembership tx channelId userId role onConflictDoNothing =>
    env.fallible w (w.insertMembership tx channelId userId role onConflictDoNothing)
  | updateMembership tx channelId userId edit =>
    env.fallible w (w.updateMembership tx channelId userId edit)
  | deleteMembership channelId userId => env.fallible w (w.deleteMembership channelId userId)
  | insertInvite invite => env.fallible w (w.insertInvite invite)
  | consumeInvite tx code now => env.fallible w (w.consumeInvite tx code now)
  | deleteInvite channelId code => env.fallible w (w.deleteInvite channelId code)
  | generateInviteCode => some (env.code, w)
  | getNow => some (env.now, w)

abbrev ChannelProg (α : Type) := Prog ChannelOp.Resp α

def ChannelOp.perform (o : ChannelOp) : ChannelProg o.Resp := Prog.perform o

end Wavis
