import Wavis.RoomInfo

/-! The in-memory store of invite codes. Each function runs under the store's locks from beginning
to end. A code is drawn at random, so `generate` is given the one that was drawn. -/

namespace Wavis

structure InviteRecord where
  code : String
  roomId : RoomId
  issuerId : String
  issuedAt : Instant
  expiresAt : Instant
  remainingUses : Nat
  revoked : Bool

structure InviteStoreConfig where
  defaultTtl : Duration := Duration.fromSecs 86400
  defaultMaxUses : Nat := 6
  maxInvitesPerRoom : Nat := 20
  maxInvitesGlobal : Nat := 1000

inductive InviteError where
  | roomLimitReached (roomId : RoomId) (limit : Nat)
  | globalLimitReached (limit : Nat)
  | notFound
  deriving DecidableEq

def InviteError.text : InviteError → String
  | roomLimitReached roomId limit => s!"per-room invite limit ({limit}) reached for room {roomId}"
  | globalLimitReached limit => s!"global invite limit ({limit}) reached"
  | notFound => "invite code not found"

inductive InviteRevokeError where
  | notFound
  | unauthorized
  deriving DecidableEq

structure InviteStore where
  invites : HashMap String InviteRecord
  roomInviteCounts : HashMap RoomId Nat
  config : InviteStoreConfig

/-- Why a record does not admit a join, if it does not. -/
def InviteRecord.rejection (record : InviteRecord) (roomId : RoomId) (now : Instant) :
    Option JoinRejectionReason :=
  if record.revoked then some .inviteRevoked
  else if now ≥ record.expiresAt then some .inviteExpired
  else if record.roomId ≠ roomId then some .inviteInvalid
  else if record.remainingUses = 0 then some .inviteExhausted
  else none

namespace InviteStore

def new (config : InviteStoreConfig) : InviteStore := ⟨∅, ∅, config⟩

def generate (roomId : RoomId) (issuerId : String) (maxUses : Option Nat) (now : Instant)
    (code : String) (store : InviteStore) : Except InviteError InviteRecord × InviteStore :=
  let roomCount := (store.roomInviteCounts.lookup roomId).getD 0
  if store.invites.entries.length ≥ store.config.maxInvitesGlobal then
    (.error (.globalLimitReached store.config.maxInvitesGlobal), store)
  else if roomCount ≥ store.config.maxInvitesPerRoom then
    (.error (.roomLimitReached roomId store.config.maxInvitesPerRoom), store)
  else
    let record : InviteRecord :=
      { code, roomId, issuerId
        issuedAt := now
        expiresAt := now + store.config.defaultTtl
        remainingUses := maxUses.getD store.config.defaultMaxUses
        revoked := false }
    (.ok record, { store with
      invites := store.invites.insert code record
      roomInviteCounts := store.roomInviteCounts.insert roomId (roomCount + 1) })

def validate (code : String) (roomId : RoomId) (now : Instant) (store : InviteStore) :
    Except JoinRejectionReason Unit :=
  match store.invites.lookup code with
  | none => .error .inviteInvalid
  | some record =>
    match record.rejection roomId now with
    | some reason => .error reason
    | none => .ok ()

def consumeUse (code : String) (store : InviteStore) : InviteStore :=
  match store.invites.lookup code with
  | none => store
  | some record =>
    if record.remainingUses > 0 then
      let consumed := { record with remainingUses := record.remainingUses - 1 }
      { store with invites := store.invites.insert code consumed }
    else store

def validateAndConsume (code : String) (roomId : RoomId) (now : Instant) (store : InviteStore) :
    Except JoinRejectionReason Unit × InviteStore :=
  match store.invites.lookup code with
  | none => (.error .inviteInvalid, store)
  | some record =>
    match record.rejection roomId now with
    | some reason => (.error reason, store)
    | none =>
      let consumed := { record with remainingUses := record.remainingUses - 1 }
      (.ok (), { store with invites := store.invites.insert code consumed })

/-- Revocation without a check of who asks for it. -/
def revoke (code : String) (store : InviteStore) : Except InviteError Unit × InviteStore :=
  match store.invites.lookup code with
  | none => (.error .notFound, store)
  | some record =>
    let revoked := { record with revoked := true }
    (.ok (), { store with invites := store.invites.insert code revoked })

def revokeAuthorized (code : String) (roomId : RoomId) (requestorRole : ParticipantRole)
    (store : InviteStore) : Except InviteRevokeError Unit × InviteStore :=
  match store.invites.lookup code with
  | none => (.error .notFound, store)
  | some record =>
    if record.roomId ≠ roomId then (.error .unauthorized, store)
    else if requestorRole ≠ .host then (.error .unauthorized, store)
    else
      let revoked := { record with revoked := true }
      (.ok (), { store with invites := store.invites.insert code revoked })

def removeRoomInvites (roomId : RoomId) (store : InviteStore) : InviteStore :=
  { store with
    invites := store.invites.retain fun _ record => record.roomId != roomId
    roomInviteCounts := store.roomInviteCounts.erase roomId }

/-- The counts after one expired invite of the room has been taken out. -/
def uncount (counts : HashMap RoomId Nat) (roomId : RoomId) : HashMap RoomId Nat :=
  counts.insert roomId ((counts.lookup roomId).getD 0 - 1)

/-- Removes the expired invites and answers by how many the store has shrunk. Rooms without invites
lose their count. -/
def sweepExpired (now : Instant) (store : InviteStore) : Nat × InviteStore :=
  let expired := store.invites.entries.filter fun entry => decide (now ≥ entry.2.expiresAt)
  let counts := expired.foldl (fun counts entry => uncount counts entry.2.roomId)
    store.roomInviteCounts
  let invites := store.invites.retain fun _ record => !decide (now ≥ record.expiresAt)
  (store.invites.entries.length - invites.entries.length, { store with
    invites
    roomInviteCounts := counts.retain fun _ count => decide (count > 0) })

end InviteStore

def InviteStoreConfig.defaultTtlSecs (config : InviteStoreConfig) : Nat :=
  Duration.asSecs config.defaultTtl

end Wavis
