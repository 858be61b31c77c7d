import Wavis.Concurrency.Machine
import Wavis.Invite

/-! The store counts the records of a room apart from the records themselves, and a revoked or
expired invite is counted until a sweep or the end of its room. -/

namespace Wavis

open Concurrency AList

/-- The calls that change the store. The code of a new invite is the one that was drawn. -/
inductive InviteStoreCall where
  | generate (roomId : RoomId) (issuerId : String) (maxUses : Option Nat) (now : Instant)
      (code : String)
  | consumeUse (code : String)
  | validateAndConsume (code : String) (roomId : RoomId) (now : Instant)
  | revoke (code : String)
  | revokeAuthorized (code : String) (roomId : RoomId) (requestorRole : ParticipantRole)
  | removeRoomInvites (roomId : RoomId)
  | sweepExpired (now : Instant)

def InviteStoreCall.serve (store : InviteStore) : InviteStoreCall → InviteStore
  | generate roomId issuerId maxUses now code =>
    (store.generate roomId issuerId maxUses now code).2
  | consumeUse code => store.consumeUse code
  | validateAndConsume code roomId now => (store.validateAndConsume code roomId now).2
  | revoke code => (store.revoke code).2
  | revokeAuthorized code roomId role => (store.revokeAuthorized code roomId role).2
  | removeRoomInvites roomId => store.removeRoomInvites roomId
  | sweepExpired now => (store.sweepExpired now).2

def InviteStoreCall.Fresh (store : InviteStore) : InviteStoreCall → Prop
  | generate _ _ _ _ code => code ∉ store.invites
  | _ => True

def inviteMachine : Machine InviteStore InviteStoreCall :=
  ⟨fun store call => some (call.serve store)⟩

def InviteRecord.Active (record : InviteRecord) (now : Instant) : Prop :=
  record.revoked = false ∧ now < record.expiresAt

instance (record : InviteRecord) (now : Instant) : Decidable (record.Active now) :=
  inferInstanceAs (Decidable (_ ∧ _))

def countRecords (invites : HashMap String InviteRecord) (test : InviteRecord → Bool) : Nat :=
  invites.entries.countP fun entry => test entry.2

section

variable {invites : HashMap String InviteRecord} {code : String} {record : InviteRecord}

theorem countRecords_insert_of_notMem (h : code ∉ invites) (test : InviteRecord → Bool) :
    countRecords (invites.insert code record) test
      = countRecords invites test + if test record then 1 else 0 := by
  rw [countRecords, entries_insert_of_notMem h, List.countP_cons, countRecords]

theorem countRecords_insert (h : invites.lookup code = some record) (record' : InviteRecord)
    (test : InviteRecord → Bool) (htest : test record' = test record) :
    countRecords (invites.insert code record') test = countRecords invites test := by
  have hsame : (invites.insert code record).entries.Perm invites.entries := by
    refine List.lookup_ext (nodupKeys _) invites.nodupKeys fun code' other => ?_
    change other ∈ (invites.insert code record).lookup code' ↔ other ∈ invites.lookup code'
    by_cases hcode : code' = code
    · rw [hcode, lookup_insert, h]
    · rw [lookup_insert_ne hcode]
  rw [countRecords, countRecords, ← hsame.countP_eq, entries_insert, entries_insert,
    List.countP_cons, List.countP_cons, htest]

theorem countRecords_retain_add (invites : HashMap String InviteRecord)
    (drop test : InviteRecord → Bool) :
    countRecords (invites.retain fun _ record => !drop record) test
      + (invites.entries.filter fun entry => drop entry.2).countP (fun entry => test entry.2)
      = countRecords invites test := by
  rw [Nat.add_comm]
  exact (List.countP_eq_countP_filter_add _ _ _).symm

end

namespace InviteStore

variable {config : InviteStoreConfig} {store : InviteStore} {code : String} {roomId : RoomId}
  {record record' : InviteRecord}

def ofRoom (store : InviteStore) (roomId : RoomId) : Nat :=
  countRecords store.invites fun record => record.roomId = roomId

structure Exact (config : InviteStoreConfig) (store : InviteStore) : Prop where
  config_eq : store.config = config
  counts : ∀ roomId, (store.roomInviteCounts.lookup roomId).getD 0 = store.ofRoom roomId
  perRoom : ∀ roomId, store.ofRoom roomId ≤ config.maxInvitesPerRoom
  global : store.invites.entries.length ≤ config.maxInvitesGlobal

structure Sweeps (store : InviteStore) (now : Instant) : Prop where
  kept : ∀ code record, (store.sweepExpired now).2.invites.lookup code = some record
    ↔ store.invites.lookup code = some record ∧ now < record.expiresAt
  answer : (store.sweepExpired now).1
    = countRecords store.invites fun record => now ≥ record.expiresAt

theorem Exact.new : (InviteStore.new config).Exact config where
  config_eq := rfl
  counts _ := rfl
  perRoom _ := Nat.zero_le _
  global := Nat.zero_le _

theorem Exact.replace (h : store.Exact config) (hrecord : store.invites.lookup code = some record)
    (hroom : record'.roomId = record.roomId) :
    Exact config { store with invites := store.invites.insert code record' } := by
  have hsame : ∀ roomId, ofRoom { store with invites := store.invites.insert code record' } roomId
      = store.ofRoom roomId :=
    fun roomId => countRecords_insert hrecord _ _ (by rw [hroom])
  refine ⟨h.config_eq, fun roomId => ?_, fun roomId => ?_, ?_⟩
  · rw [hsame]
    exact h.counts roomId
  · rw [hsame]
    exact h.perRoom roomId
  · have hlength := countRecords_insert hrecord record' (fun _ => true) rfl
    simp only [countRecords, List.countP_true] at hlength
    exact Nat.le_trans (Nat.le_of_eq hlength) h.global

theorem Exact.generate (h : store.Exact config) (hcode : code ∉ store.invites) (roomId : RoomId)
    (issuerId : String) (maxUses : Option Nat) (now : Instant) :
    (store.generate roomId issuerId maxUses now code).2.Exact config := by
  unfold InviteStore.generate
  dsimp only
  split_ifs with hglobal hroom
  · exact h
  · exact h
  rw [h.config_eq] at hglobal
  rw [h.config_eq, h.counts] at hroom
  have hnew : ∀ record roomId', record.roomId = roomId →
      ofRoom { store with invites := store.invites.insert code record } roomId'
        = store.ofRoom roomId' + if roomId = roomId' then 1 else 0 := by
    intro record roomId' hrecord
    rw [ofRoom, countRecords_insert_of_notMem hcode, hrecord]
    simp only [decide_eq_true_eq, ofRoom]
  refine ⟨h.config_eq, fun roomId' => ?_, fun roomId' => ?_, ?_⟩
  · refine .trans ?_ (hnew _ roomId' rfl).symm
    by_cases heq : roomId = roomId'
    · subst heq
      simp [h.counts]
    · simp [lookup_insert_ne (Ne.symm heq), h.counts, heq]
  · refine Nat.le_trans (Nat.le_of_eq (hnew _ roomId' ?_)) ?_
    · rfl
    split_ifs with heq
    · rw [← heq]
      omega
    · exact h.perRoom roomId'
  · rw [entries_insert_of_notMem hcode, List.length_cons]
    omega

theorem Exact.removeRoomInvites (h : store.Exact config) (roomId : RoomId) :
    (store.removeRoomInvites roomId).Exact config := by
  refine ⟨h.config_eq, fun roomId' => ?_, fun roomId' => ?_, ?_⟩
  · have hkept := countRecords_retain_add store.invites (fun record => record.roomId == roomId)
      fun record => record.roomId = roomId'
    change ((store.roomInviteCounts.erase roomId).lookup roomId').getD 0 = countRecords _ _
    by_cases heq : roomId' = roomId
    · subst heq
      rw [lookup_erase]
      refine (List.countP_eq_zero.mpr fun entry hentry => ?_).symm
      simpa using (List.mem_filter.mp hentry).2
    · have hnone : (store.invites.entries.filter fun entry => entry.2.roomId == roomId).countP
          (fun entry => entry.2.roomId = roomId') = 0 := by
        refine List.countP_eq_zero.mpr fun entry hentry => ?_
        have hroom : entry.2.roomId = roomId := by simpa using (List.mem_filter.mp hentry).2
        simpa [hroom] using Ne.symm heq
      rw [hnone, Nat.add_zero] at hkept
      rw [lookup_erase_ne heq, h.counts]
      exact hkept.symm
  · exact Nat.le_trans List.filter_sublist.countP_le (h.perRoom roomId')
  · exact Nat.le_trans List.filter_sublist.length_le h.global

theorem getD_lookup_foldl_uncount (expired : List ((_ : String) × InviteRecord))
    (counts : HashMap RoomId Nat) (roomId : RoomId) :
    ((expired.foldl (fun counts entry => uncount counts entry.2.roomId) counts).lookup
        roomId).getD 0
      = (counts.lookup roomId).getD 0 - expired.countP fun entry => entry.2.roomId = roomId := by
  induction expired generalizing counts with
  | nil => rfl
  | cons entry expired ih =>
    rw [List.foldl_cons, ih, List.countP_cons, uncount]
    by_cases hroom : roomId = entry.2.roomId
    · subst hroom
      simp only [lookup_insert, Option.getD_some, decide_true, if_true]
      omega
    · simp [lookup_insert_ne hroom, Ne.symm hroom]

theorem Exact.sweepExpired (h : store.Exact config) (now : Instant) :
    (store.sweepExpired now).2.Exact config := by
  refine ⟨h.config_eq, fun roomId => ?_, fun roomId => ?_, ?_⟩
  · have hkept := countRecords_retain_add store.invites (fun record => now ≥ record.expiresAt)
      fun record => record.roomId = roomId
    have hcount := getD_lookup_foldl_uncount
      (store.invites.entries.filter fun entry => now ≥ entry.2.expiresAt) store.roomInviteCounts
      roomId
    rw [h.counts, ofRoom, ← hkept, Nat.add_sub_cancel] at hcount
    refine .trans ?_ hcount
    -- The counts that are dropped are those of rooms without records.
    change ((HashMap.retain _ _).lookup roomId).getD 0 = _
    rw [HashMap.lookup_retain]
    generalize lookup roomId _ = stored
    cases stored with
    | none => rfl
    | some count => cases count <;> rfl
  · exact Nat.le_trans List.filter_sublist.countP_le (h.perRoom roomId)
  · exact Nat.le_trans List.filter_sublist.length_le h.global

theorem sweeps (store : InviteStore) (now : Instant) : store.Sweeps now where
  kept code record := by
    change (HashMap.retain _ _).lookup code = _ ↔ _
    rw [HashMap.lookup_retain, Option.filter_eq_some_iff]
    simp
  answer := by
    have hkept := countRecords_retain_add store.invites (fun record => now ≥ record.expiresAt)
      fun _ => true
    simp only [countRecords, List.countP_true] at hkept
    change store.invites.entries.length - (HashMap.retain _ _).entries.length = _
    rw [← hkept, Nat.add_sub_cancel_left, countRecords, List.countP_eq_length_filter]

theorem Exact.serve (h : store.Exact config) {call : InviteStoreCall} (hfresh : call.Fresh store) :
    (call.serve store).Exact config := by
  cases call with
  | generate roomId issuerId maxUses now code => exact h.generate hfresh roomId issuerId maxUses now
  | removeRoomInvites roomId => exact h.removeRoomInvites roomId
  | sweepExpired now => exact h.sweepExpired now
  | consumeUse code =>
    simp only [InviteStoreCall.serve, consumeUse]
    cases hrecord : store.invites.lookup code with
    | none => exact h
    | some record =>
      dsimp only
      split_ifs
      · exact h.replace hrecord (by rfl)
      · exact h
  | validateAndConsume code roomId now =>
    simp only [InviteStoreCall.serve, validateAndConsume]
    cases hrecord : store.invites.lookup code with
    | none => exact h
    | some record =>
      dsimp only
      cases record.rejection roomId now with
      | some reason => exact h
      | none => exact h.replace hrecord (by rfl)
  | revoke code =>
    simp only [InviteStoreCall.serve, revoke]
    cases hrecord : store.invites.lookup code with
    | none => exact h
    | some record => exact h.replace hrecord (by rfl)
  | revokeAuthorized code roomId role =>
    simp only [InviteStoreCall.serve, revokeAuthorized]
    cases hrecord : store.invites.lookup code with
    | none => exact h
    | some record =>
      dsimp only
      split_ifs
      · exact h
      · exact h
      · exact h.replace hrecord (by rfl)

theorem exact_of_reach (h : inviteMachine.Reach InviteStoreCall.Fresh (.new config) store) :
    store.Exact config :=
  h.invariant .new fun _ _ _ hexact hfresh hnext => by
    cases hnext
    exact hexact.serve hfresh

/-- **The counts of the invite store are exact**, as long as no code is drawn that is in use. -/
theorem invite_counts_exact (h : inviteMachine.Reach InviteStoreCall.Fresh (.new config) store) :
    store.Exact config ∧ ∀ now, store.Sweeps now :=
  ⟨exact_of_reach h, store.sweeps⟩

/-- The invites of two rooms, of which a sweep takes out the older one. -/
theorem invite_counts_exact_two_rooms :
    let first := ((InviteStore.new {}).generate "room" "host" none 0 "code").2
    let store := (first.generate "lobby" "host" none 1 "other").2
    store.Exact {} ∧ (store.sweepExpired (Duration.fromSecs 86400)).1 = 1 := by
  intro first store
  have hfirst : inviteMachine.Reach InviteStoreCall.Fresh (.new {}) first :=
    Machine.Reach.refl.tail (e := .generate "room" "host" none 0 "code") (by nofun) rfl
  have hreach : inviteMachine.Reach InviteStoreCall.Fresh (.new {}) store :=
    hfirst.tail (e := .generate "lobby" "host" none 1 "other")
      (show "other" ∉ first.invites by decide) rfl
  obtain ⟨hexact, hsweeps⟩ := invite_counts_exact hreach
  exact ⟨hexact, (hsweeps _).answer.trans (by rfl)⟩

def active (store : InviteStore) (now : Instant) : Nat :=
  countRecords store.invites fun record => record.Active now

def activeOf (store : InviteStore) (roomId : RoomId) (now : Instant) : Nat :=
  countRecords store.invites fun record => record.roomId = roomId ∧ record.Active now

/-- **A refused invite finds the quota used up by active invites** exactly if no others count for
it. -/
theorem quota_of_active (h : inviteMachine.Reach InviteStoreCall.Fresh (.new config) store)
    (roomId : RoomId) (issuerId : String) (maxUses : Option Nat) (now : Instant) (code : String) :
    (∀ roomId' limit,
      (store.generate roomId issuerId maxUses now code).1 = .error (.roomLimitReached roomId' limit)
        → (store.activeOf roomId now = config.maxInvitesPerRoom
          ↔ ∀ entry ∈ store.invites.entries, entry.2.roomId = roomId → entry.2.Active now))
    ∧ ∀ limit,
      (store.generate roomId issuerId maxUses now code).1 = .error (.globalLimitReached limit) →
        (store.active now = config.maxInvitesGlobal
          ↔ ∀ entry ∈ store.invites.entries, entry.2.Active now) := by
  have hexact := exact_of_reach h
  unfold InviteStore.generate
  rw [hexact.config_eq]
  dsimp only
  constructor
  · intro roomId' limit hrefused
    have hfull : config.maxInvitesPerRoom ≤ store.ofRoom roomId := by
      rw [← hexact.counts]
      split_ifs at hrefused with hglobal hroom
      · cases hrefused
      · exact hroom
    rw [← Nat.le_antisymm (hexact.perRoom roomId) hfull, ofRoom, countRecords,
      List.countP_eq_length_filter]
    have hfilter : store.activeOf roomId now = (store.invites.entries.filter fun entry =>
        entry.2.roomId = roomId).countP fun entry => entry.2.Active now := by
      rw [List.countP_filter]
      simp [activeOf, countRecords, Bool.and_comm]
    rw [hfilter, List.countP_eq_length]
    simp
  · intro limit hrefused
    have hfull : config.maxInvitesGlobal ≤ store.invites.entries.length := by
      split_ifs at hrefused with hglobal hroom
      · exact hglobal
      · cases hrefused
    rw [← Nat.le_antisymm hexact.global hfull]
    refine List.countP_eq_length.trans (forall₂_congr fun entry hentry => ?_)
    exact decide_eq_true_iff

/-- The calls that make one invite for a room that may have one. -/
def oneInvite : InviteStore :=
  ((InviteStore.new { maxInvitesPerRoom := 1 }).generate "room" "host" none 0 "code").2

theorem reach_oneInvite : inviteMachine.Reach InviteStoreCall.Fresh
    (.new { maxInvitesPerRoom := 1 }) oneInvite :=
  Machine.Reach.refl.tail (e := .generate "room" "host" none 0 "code") (by nofun) rfl

theorem quota_of_active_one :
    (oneInvite.generate "room" "host" none 1 "other").1 = .error (.roomLimitReached "room" 1)
      ∧ oneInvite.activeOf "room" 1 = 1 := by
  have hquota := quota_of_active reach_oneInvite "room" "host" none 1 "other"
  exact ⟨rfl, (hquota.1 "room" 1 rfl).mpr (by decide)⟩

/-- The only invite of the room is revoked, and the room gets no other. -/
theorem not_quota_of_active : ¬ ∀ (config : InviteStoreConfig) (store : InviteStore),
    inviteMachine.Reach InviteStoreCall.Fresh (.new config) store →
    ∀ roomId issuerId maxUses now code roomId' limit,
      (store.generate roomId issuerId maxUses now code).1 = .error (.roomLimitReached roomId' limit)
        → store.activeOf roomId now = config.maxInvitesPerRoom := by
  intro h
  have hreach := reach_oneInvite.tail (e := .revoke "code") (by trivial) rfl
  exact absurd (h _ _ hreach "room" "host" none 0 "other" "room" 1 rfl) (by decide)

end InviteStore

end Wavis
