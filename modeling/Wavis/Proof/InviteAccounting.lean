import Wavis.InviteCalls
import Wavis.Proof.RoomPrograms

/-! The invariant ties every stored record to the log: the invite generated last under its code,
less one use for each peer inserted since. -/

namespace Wavis

open Concurrency Prog InMemoryRoomState InviteOp List Option

variable {record : InviteRecord} {event : InviteEvent} {log : List InviteEvent} {code : String}

theorem tenure_concat_generated (h : record.code = code) :
    tenure code (log ++ [.generated record]) = some (record, []) := by
  simp [tenure, h]

def InviteEvent.keepsTenure (code : String) : InviteEvent → Bool
  | generated record => record.code != code
  | _ => true

theorem tenure_concat (h : event.keepsTenure code = true) :
    tenure code (log ++ [event])
      = (tenure code log).map fun (generated, since) => (generated, since ++ [event]) := by
  unfold tenure
  rw [foldl_append, foldl_cons, foldl_nil]
  cases event with
  | generated record =>
    have hne : record.code ≠ code := by simpa [InviteEvent.keepsTenure] using h
    simp only [hne, if_false]
  | _ => rfl

theorem insertions_concat (code : String) (events : List InviteEvent) (event : InviteEvent) :
    insertions code (events ++ [event])
      = insertions code events + if event.insertsWith code then 1 else 0 := by
  unfold insertions
  rw [countP_append, countP_singleton]

/-- What a record owes to the log. -/
structure InviteRecord.Accounts (record : InviteRecord) (code : String)
    (generated : InviteRecord) (since : List InviteEvent) : Prop where
  uses : record.remainingUses + insertions code since = generated.remainingUses
  room : record.roomId = generated.roomId
  expiry : record.expiresAt = generated.expiresAt
  revoked : record.revoked = since.any (·.revokes code)

/-- The events before an insertion entitle the peer to it. -/
def Entitled (before : List InviteEvent) (code : String) (arc : ArcId) (time : Instant) : Prop :=
  ∃ generated since, tenure code before = some (generated, since)
    ∧ insertions code since < generated.remainingUses
    ∧ since.any (·.revokes code) = false
    ∧ time < generated.expiresAt
    ∧ .opened generated.roomId arc ∈ before

def AllEntitled (log : List InviteEvent) : Prop :=
  ∀ before peerId code arc time after,
    log = before ++ .inserted peerId code arc time :: after → Entitled before code arc time

/-- Since an invite was generated, no more peers have entered with it than it has uses. -/
def WithinUses (log : List InviteEvent) : Prop :=
  ∀ code generated since, tenure code log = some (generated, since) →
    insertions code since ≤ generated.remainingUses

structure InviteWorld.Accounted (w : InviteWorld) : Prop where
  records : ∀ code record, w.inviteStore.invites.lookup code = some record →
    ∃ generated since, tenure code w.log = some (generated, since)
      ∧ record.Accounts code generated since
  withinUses : WithinUses w.log
  entitled : AllEntitled w.log

theorem AllEntitled.concat (h : AllEntitled log)
    (hnew : ∀ peerId code arc time, event = .inserted peerId code arc time →
      Entitled log code arc time) : AllEntitled (log ++ [event]) := by
  intro before peerId code arc time after heq
  rcases eq_nil_or_concat after with rfl | ⟨rest, last, rfl⟩
  · obtain ⟨rfl, hlast⟩ := append_inj' heq rfl
    rw [singleton_inj] at hlast
    exact hnew peerId code arc time hlast
  · rw [concat_eq_append, ← cons_append, ← append_assoc] at heq
    obtain ⟨hlog, -⟩ := append_inj' heq rfl
    exact h before peerId code arc time rest hlog

theorem WithinUses.concat (h : WithinUses log)
    (hnew : ∀ code generated since, event.insertsWith code = true →
      tenure code log = some (generated, since) →
      insertions code since < generated.remainingUses) : WithinUses (log ++ [event]) := by
  intro code generated since htenure
  by_cases hkeeps : event.keepsTenure code = true
  · rw [tenure_concat hkeeps, map_eq_some_iff] at htenure
    obtain ⟨⟨generated', since'⟩, hold, heq⟩ := htenure
    cases heq
    rw [insertions_concat]
    have hle := h code generated since' hold
    split_ifs with hinserts
    · exact hnew code generated since' hinserts hold
    · exact hle
  · cases event with
    | generated record =>
      have hcode : record.code = code := by simpa [InviteEvent.keepsTenure] using hkeeps
      rw [tenure_concat_generated hcode] at htenure
      cases htenure
      exact Nat.zero_le _
    | _ => exact absurd rfl hkeeps

namespace InviteRecord.Accounts

variable {generated : InviteRecord} {since : List InviteEvent}

section

variable (h : record.Accounts code generated since)
include h

theorem concat (hinserts : event.insertsWith code = false) (hrevokes : event.revokes code = false) :
    record.Accounts code generated (since ++ [event]) where
  uses := by rw [insertions_concat, hinserts]; exact h.uses
  room := h.room
  expiry := h.expiry
  revoked := by rw [any_append, h.revoked]; simp [hrevokes]

theorem revoke :
    { record with revoked := true }.Accounts code generated
      (since ++ [InviteEvent.revoked code]) where
  uses := by rw [insertions_concat]; exact h.uses
  room := h.room
  expiry := h.expiry
  revoked := by simp [InviteEvent.revokes]

theorem consume (huses : record.remainingUses ≠ 0) (peerId : PeerId) (arc : ArcId)
    (time : Instant) :
    { record with remainingUses := record.remainingUses - 1 }.Accounts code generated
      (since ++ [InviteEvent.inserted peerId code arc time]) where
  uses := by
    have huses' := h.uses
    rw [insertions_concat]
    simp only [InviteEvent.insertsWith, beq_self_eq_true, if_true]
    omega
  room := h.room
  expiry := h.expiry
  revoked := by rw [any_append, ← h.revoked]; simp [InviteEvent.revokes]

end

end InviteRecord.Accounts

variable {peerId : PeerId} {arc : ArcId} {roomId : RoomId} {w : InviteWorld}

namespace InviteWorld.Accounted

variable {state : InMemoryRoomState} {store : InviteStore}

section

variable (h : w.Accounted)
include h

theorem shrink
    (hsub : ∀ code record, store.invites.lookup code = some record →
      w.inviteStore.invites.lookup code = some record) : Accounted ⟨state, store, w.log⟩ where
  records code record hlookup := h.records code record (hsub code record hlookup)
  withinUses := h.withinUses
  entitled := h.entitled

theorem openRoom (roomId : RoomId) (arc : ArcId) :
    Accounted ⟨state, w.inviteStore, w.log ++ [.opened roomId arc]⟩ where
  records code record hlookup := by
    obtain ⟨generated, since, htenure, haccounts⟩ := h.records code record hlookup
    refine ⟨generated, since ++ [.opened roomId arc], ?_, haccounts.concat rfl rfl⟩
    rw [tenure_concat rfl, htenure]
    rfl
  withinUses := h.withinUses.concat nofun
  entitled := h.entitled.concat nofun

theorem generate (hrevoked : record.revoked = false)
    (hstore : store.invites = w.inviteStore.invites.insert record.code record) :
    Accounted ⟨state, store, w.log ++ [.generated record]⟩ where
  records code record' hlookup := by
    rw [hstore] at hlookup
    by_cases hcode : code = record.code
    · subst hcode
      rw [AList.lookup_insert, some.injEq] at hlookup
      subst hlookup
      exact ⟨record, [], tenure_concat_generated rfl, rfl, rfl, rfl, hrevoked⟩
    · rw [AList.lookup_insert_ne hcode] at hlookup
      obtain ⟨generated, since, htenure, haccounts⟩ := h.records code record' hlookup
      refine ⟨generated, since ++ [.generated record], ?_, haccounts.concat rfl rfl⟩
      rw [tenure_concat (by simpa [InviteEvent.keepsTenure] using Ne.symm hcode), htenure]
      rfl
  withinUses := h.withinUses.concat nofun
  entitled := h.entitled.concat nofun

theorem revoke (hrecord : w.inviteStore.invites.lookup code = some record)
    (hstore : store.invites = w.inviteStore.invites.insert code { record with revoked := true }) :
    Accounted ⟨state, store, w.log ++ [.revoked code]⟩ where
  records code' record' hlookup := by
    rw [hstore] at hlookup
    by_cases hcode : code' = code
    · subst hcode
      rw [AList.lookup_insert, some.injEq] at hlookup
      subst hlookup
      obtain ⟨generated, since, htenure, haccounts⟩ := h.records code' record hrecord
      refine ⟨generated, since ++ [.revoked code'], ?_, haccounts.revoke⟩
      rw [tenure_concat rfl, htenure]
      rfl
    · rw [AList.lookup_insert_ne hcode] at hlookup
      obtain ⟨generated, since, htenure, haccounts⟩ := h.records code' record' hlookup
      refine ⟨generated, since ++ [.revoked code], ?_, haccounts.concat rfl ?_⟩
      · rw [tenure_concat rfl, htenure]
        rfl
      · simpa [InviteEvent.revokes] using Ne.symm hcode
  withinUses := h.withinUses.concat nofun
  entitled := h.entitled.concat nofun

/-- **One section, one use.** A join that passes the checks of its invite takes one use off the
record and enters the room of the invite. -/
theorem insert {now : Instant} (hrecord : w.inviteStore.invites.lookup code = some record)
    (hrejection : record.rejection roomId now = none) (hopened : .opened roomId arc ∈ w.log)
    (hstore : store.invites = w.inviteStore.invites.insert code
      { record with remainingUses := record.remainingUses - 1 }) :
    Accounted ⟨state, store, w.log ++ [.inserted peerId code arc now]⟩ := by
  obtain ⟨generated, since, htenure, haccounts⟩ := h.records code record hrecord
  obtain ⟨hrevoked, hexpiry, hroom, huses⟩ : record.revoked = false ∧ now < record.expiresAt
      ∧ record.roomId = roomId ∧ record.remainingUses ≠ 0 := by
    unfold InviteRecord.rejection at hrejection
    split_ifs at hrejection with hrevoked hexpiry hroom huses
    exact ⟨by simpa using hrevoked, not_le.mp hexpiry, by simpa using hroom, huses⟩
  have hleft : insertions code since < generated.remainingUses := by
    have := haccounts.uses
    omega
  refine ⟨?_, ?_, ?_⟩
  · intro code' record' hlookup
    rw [hstore] at hlookup
    by_cases hcode : code' = code
    · subst hcode
      rw [AList.lookup_insert, some.injEq] at hlookup
      subst hlookup
      refine ⟨generated, since ++ [.inserted peerId code' arc now], ?_,
        haccounts.consume huses peerId arc now⟩
      rw [tenure_concat rfl, htenure]
      rfl
    · rw [AList.lookup_insert_ne hcode] at hlookup
      obtain ⟨generated', since', htenure', haccounts'⟩ := h.records code' record' hlookup
      refine ⟨generated', since' ++ [.inserted peerId code arc now], ?_,
        haccounts'.concat ?_ rfl⟩
      · rw [tenure_concat rfl, htenure']
        rfl
      · simpa [InviteEvent.insertsWith] using Ne.symm hcode
  · apply h.withinUses.concat
    intro code' generated' since' hinserts htenure'
    have hcode : code = code' := by simpa [InviteEvent.insertsWith] using hinserts
    subst hcode
    cases htenure.symm.trans htenure'
    exact hleft
  · apply h.entitled.concat
    intro peerId' code' arc' time heq
    cases heq
    refine ⟨generated, since, htenure, hleft, ?_, ?_, ?_⟩
    · rw [← haccounts.revoked]
      exact hrevoked
    · rw [← haccounts.expiry]
      exact hexpiry
    · rw [← haccounts.room, hroom]
      exact hopened

end

end InviteWorld.Accounted

section

variable (env : InviteEnv)

section

variable (h : w.Accounted)
include h

theorem accounted_generate (roomId : RoomId) (issuerId : String) (maxUses : Option Nat)
    (now : Instant) : ((generate roomId issuerId maxUses now).exec env w).2.Accounted := by
  simp only [exec, InviteStore.generate]
  split_ifs
  · simpa [Except.toOption] using h
  · simpa [Except.toOption] using h
  · exact h.generate rfl rfl

theorem accounted_revoke (code : String) : ((revoke code).exec env w).2.Accounted := by
  simp only [exec, InviteStore.revoke]
  cases hrecord : w.inviteStore.invites.lookup code with
  | none => simpa [revokedEvents] using h
  | some record => exact h.revoke hrecord rfl

theorem accounted_revokeAuthorized (code : String) (roomId : RoomId) (role : ParticipantRole) :
    ((revokeAuthorized code roomId role).exec env w).2.Accounted := by
  simp only [exec, InviteStore.revokeAuthorized]
  cases hrecord : w.inviteStore.invites.lookup code with
  | none => simpa [revokedEvents] using h
  | some record =>
    dsimp only
    split_ifs
    · simpa [revokedEvents] using h
    · simpa [revokedEvents] using h
    · exact h.revoke hrecord rfl

theorem accounted_sweepExpired (now : Instant) :
    ((sweepExpired now).exec env w).2.Accounted := by
  apply h.shrink
  intro code record hlookup
  rw [HashMap.lookup_retain] at hlookup
  exact (filter_eq_some_iff.mp hlookup).1

theorem accounted_removeRoomInvites (roomId : RoomId) :
    ((removeRoomInvites roomId).exec env w).2.Accounted := by
  apply h.shrink
  intro code record hlookup
  rw [InviteStore.removeRoomInvites, HashMap.lookup_retain] at hlookup
  exact (filter_eq_some_iff.mp hlookup).1

end

variable {env} {check : JoinCheck}

theorem tryPush_refused
    (h : peerId ∈ (w.roomState.heap arc).peers
      ∨ (w.roomState.heap arc).info.maxParticipants ≤ (w.roomState.heap arc).peers.length
      ∨ ∃ code roomId reason, check = some (code, roomId)
        ∧ w.inviteStore.validateAndConsume code roomId env.now = (.error reason, w.inviteStore)) :
    ((room (.tryPush arc peerId check)).exec env w).2 = w := by
  have hlog : ∀ state : InMemoryRoomState, state = w.roomState →
      (RoomOp.tryPush arc peerId check).inviteEvents env.now w.roomState state = [] := by
    rintro state rfl
    cases check with
    | none => rfl
    | some check => simp [RoomOp.inviteEvents]
  by_cases hmem : peerId ∈ (w.roomState.heap arc).peers
  · simp [exec, RoomOp.exec, hmem, hlog]
  · by_cases hfull : (w.roomState.heap arc).info.maxParticipants
        ≤ (w.roomState.heap arc).peers.length
    · simp [exec, RoomOp.exec, hmem, hfull, hlog]
    · obtain ⟨code, roomId, reason, rfl, hrun⟩ := (h.resolve_left hmem).resolve_left hfull
      simp [exec, RoomOp.exec, hmem, hfull, JoinCheck.run, hrun, hlog]

theorem accounted_tryPush (h : w.Accounted)
    (hopened : ∀ code roomId, check = some (code, roomId) → .opened roomId arc ∈ w.log) :
    ((room (.tryPush arc peerId check)).exec env w).2.Accounted := by
  by_cases hmem : peerId ∈ (w.roomState.heap arc).peers
  · rw [tryPush_refused (.inl hmem)]
    exact h
  by_cases hfull : (w.roomState.heap arc).info.maxParticipants
      ≤ (w.roomState.heap arc).peers.length
  · rw [tryPush_refused (.inr (.inl hfull))]
    exact h
  cases check with
  | none =>
    simp only [exec, RoomOp.exec, hmem, hfull, if_false, JoinCheck.run,
      RoomOp.inviteEvents, append_nil]
    exact h.shrink fun _ _ => id
  | some check =>
    obtain ⟨code, roomId⟩ := check
    cases hrecord : w.inviteStore.invites.lookup code with
    | none =>
      rw [tryPush_refused (.inr (.inr ⟨code, roomId, .inviteInvalid, rfl, ?_⟩))]
      · exact h
      · simp only [InviteStore.validateAndConsume, hrecord]
    | some record =>
      cases hrejection : record.rejection roomId env.now with
      | some reason =>
        rw [tryPush_refused (.inr (.inr ⟨code, roomId, reason, rfl, ?_⟩))]
        · exact h
        · simp only [InviteStore.validateAndConsume, hrecord, hrejection]
      | none =>
        have hpush : peerId ∈ ((w.roomState.heap arc).push peerId).peers := by
          simp [RoomMembers.push, hmem]
        simp only [exec, RoomOp.exec, hmem, hfull, if_false,
          JoinCheck.run, InviteStore.validateAndConsume, hrecord, hrejection,
          RoomOp.inviteEvents, setMembers, Function.update_self, hpush, not_false_eq_true,
          and_self, if_true]
        exact h.insert hrecord hrejection (hopened code roomId rfl) rfl

theorem accounted_room (h : w.Accounted) (o : RoomOp JoinCheck)
    (hopened : ∀ arc peerId code roomId, o = .tryPush arc peerId (some (code, roomId)) →
      .opened roomId arc ∈ w.log) :
    ((room o).exec env w).2.Accounted := by
  have hkeep : ∀ state, InviteWorld.Accounted ⟨state, w.inviteStore, w.log ++ []⟩ := by
    intro state
    rw [append_nil]
    exact h.shrink fun _ _ => id
  cases o with
  | createRoom roomId info | ensureRoom roomId =>
    simp only [exec, RoomOp.exec, RoomOp.inviteEvents]
    cases w.roomState.rooms.lookup roomId with
    | some arc => exact hkeep _
    | none => exact h.openRoom roomId _
  | tryPush arc peerId check =>
    exact accounted_tryPush h fun code roomId heq => hopened arc peerId code roomId (heq ▸ rfl)
  | pushUnlessMoving arc peerId roomId =>
    simp only [exec, RoomOp.exec, RoomOp.inviteEvents]
    split
    · split_ifs <;> exact hkeep _
    · exact hkeep _
  | updateInfo roomId edit =>
    simp only [exec, RoomOp.exec, RoomOp.inviteEvents]
    split <;> exact hkeep _
  | _ => exact hkeep _

theorem log_prefix_exec (w : InviteWorld) (env : InviteEnv) (o : InviteOp) :
    w.log <+: (o.exec env w).2.log := by
  cases o <;> simp [exec]

def InviteWorld.RoomsOpened (w : InviteWorld) : Prop :=
  ∀ roomId arc, w.roomState.rooms.lookup roomId = some arc → .opened roomId arc ∈ w.log

theorem InviteWorld.RoomsOpened.insertRoom (h : w.RoomsOpened) (roomId : RoomId)
    (info : RoomInfo) {store : InviteStore} :
    InviteWorld.RoomsOpened ⟨w.roomState.insertRoom roomId info, store,
      w.log ++ [.opened roomId w.roomState.nextArc]⟩ := by
  intro roomId' arc hlookup
  change (w.roomState.rooms.insert roomId w.roomState.nextArc).lookup roomId' = some arc at hlookup
  by_cases hroom : roomId' = roomId
  · subst hroom
    rw [AList.lookup_insert, some.injEq] at hlookup
    subst hlookup
    exact mem_append_right _ mem_cons_self
  · rw [AList.lookup_insert_ne hroom] at hlookup
    exact mem_append_left _ (h roomId' arc hlookup)

theorem InviteWorld.RoomsOpened.of_rooms (h : w.RoomsOpened) {w' : InviteWorld}
    (hrooms : ∀ roomId arc, w'.roomState.rooms.lookup roomId = some arc →
      w.roomState.rooms.lookup roomId = some arc) (hlog : w.log <+: w'.log) : w'.RoomsOpened :=
  fun roomId arc hlookup => hlog.subset (h roomId arc (hrooms roomId arc hlookup))

theorem roomsOpened_exec (h : w.RoomsOpened) (o : InviteOp) : (o.exec env w).2.RoomsOpened := by
  have hlog := log_prefix_exec w env o
  cases o with
  | room o =>
    cases o with
    | createRoom roomId info =>
      cases hroom : w.roomState.rooms.lookup roomId with
      | none =>
        simp only [exec, RoomOp.exec, RoomOp.inviteEvents, hroom]
        exact h.insertRoom roomId info
      | some arc =>
        refine h.of_rooms ?_ hlog
        simp [exec, RoomOp.exec, hroom]
    | ensureRoom roomId =>
      cases hroom : w.roomState.rooms.lookup roomId with
      | none =>
        simp only [exec, RoomOp.exec, RoomOp.inviteEvents, hroom]
        exact h.insertRoom roomId .newP2p
      | some arc =>
        refine h.of_rooms ?_ hlog
        simp [exec, RoomOp.exec, hroom]
    | removeRoom roomId =>
      refine h.of_rooms (fun roomId' arc hlookup => ?_) hlog
      change (w.roomState.rooms.erase roomId).lookup roomId' = some arc at hlookup
      by_cases hroom : roomId' = roomId
      · subst hroom
        simp at hlookup
      · rwa [AList.lookup_erase_ne hroom] at hlookup
    | tryPush arc peerId check =>
      refine h.of_rooms (fun roomId' arc' hlookup => ?_) hlog
      simp only [exec, RoomOp.exec] at hlookup
      split_ifs at hlookup
      · exact hlookup
      · exact hlookup
      · split at hlookup <;> exact hlookup
    | pushUnlessMoving arc peerId roomId =>
      refine h.of_rooms (fun roomId' arc' hlookup => ?_) hlog
      simp only [exec, RoomOp.exec] at hlookup
      split at hlookup
      · split_ifs at hlookup <;> exact hlookup
      · exact hlookup
    | updateInfo roomId edit =>
      refine h.of_rooms (fun roomId' arc' hlookup => ?_) hlog
      simp only [exec, RoomOp.exec] at hlookup
      split at hlookup <;> exact hlookup
    | _ => exact h.of_rooms (fun _ _ => id) hlog
  | _ => exact h.of_rooms (fun _ _ => id) hlog

end

def inviteNext (looked : Option (RoomId × ArcId)) :
    (o : InviteOp) → o.Resp → Option (RoomId × ArcId)
  | .room (.getRoom roomId), some arc => some (roomId, arc)
  | _, _ => looked

def InviteMay (looked : Option (RoomId × ArcId)) : InviteOp → Prop
  | .room (.tryPush arc _ (some (_, roomId))) => looked = some (roomId, arc)
  | _ => True

def inviteProtocol : Protocol InviteOp.Resp InviteCall.Ret (Option (RoomId × ArcId)) where
  init _ := none
  next := inviteNext
  may _ := InviteMay
  post _ _ _ := True

def InviteOp.isJoin : InviteOp → Bool
  | room (.tryPush _ _ _) => true
  | _ => false

section

variable {α : Type} {looked : Option (RoomId × ArcId)}

theorem obeys_of_no_join {program : InviteProg α} (h : program.Within fun o => o.isJoin = false) :
    program.Obeys inviteNext InviteMay (fun _ _ => True) looked := by
  refine Within.obeys h trivial fun looked o _ ho => ⟨?_, fun _ => trivial⟩
  cases o with
  | room o => cases o <;> trivial
  | _ => trivial

theorem within_ofRooms {program : RoomProg JoinCheck α}
    (h : program.Within fun o => (room o).isJoin = false) :
    (InviteCall.ofRooms program).Within fun o => o.isJoin = false :=
  .lift h

theorem tryAddPeerWith_obeys (peerId : PeerId) (roomId : RoomId) (inviteCode : Option String) :
    (InviteCall.body (.tryAddPeerWith peerId roomId inviteCode)).Obeys inviteNext InviteMay
      (fun _ _ => True) looked := by
  refine ⟨trivial, fun arc => ?_⟩
  cases arc with
  | none => trivial
  | some arc =>
    refine ⟨?_, fun count => ?_⟩
    · cases inviteCode with
      | none => trivial
      | some code => rfl
    · cases count with
      | error reason => trivial
      | ok count => exact ⟨trivial, fun _ => trivial⟩

theorem removePeerInternal_no_join (peerId : PeerId) (removeEmptyRoom : Bool) :
    (InviteCall.ofRooms (removePeerInternal peerId removeEmptyRoom)).Within
      fun o => o.isJoin = false :=
  within_ofRooms (RoomProg.within_removePeerInternal (fun _ => rfl) (fun _ => rfl) (fun _ => rfl)
    (by rfl) removeEmptyRoom)

theorem inviteCall_holds (call : InviteCall) :
    inviteProtocol.Holds (inviteSystem.spawn call) := by
  cases call with
  | tryAddPeerWith peerId roomId inviteCode => exact tryAddPeerWith_obeys peerId roomId inviteCode
  | addPeer peerId roomId =>
    exact obeys_of_no_join (within_ofRooms (RoomProg.within_addPeer (fun _ => rfl) (fun _ => rfl)
      (fun _ => rfl) (by rfl) (fun _ => rfl) (fun _ => rfl) (by rfl)))
  | removePeer peerId => exact obeys_of_no_join (removePeerInternal_no_join peerId true)
  | removePeerPreserveRoom peerId =>
    exact obeys_of_no_join (removePeerInternal_no_join peerId false)
  | removeEmptyRoom roomId =>
    exact obeys_of_no_join (within_ofRooms (RoomProg.within_removeEmptyRoom (by rfl) (by rfl)))
  | _ => exact ⟨trivial, fun _ => trivial⟩

end

structure InvitePool.Inv (pool : InvitePool) : Prop where
  accounted : pool.shared.Accounted
  opened : pool.shared.RoomsOpened
  looked : ∀ thread ∈ pool.threads, ∀ roomId arc,
    inviteProtocol.phase thread = some (roomId, arc) → .opened roomId arc ∈ pool.shared.log

theorem InvitePool.Inv.initial (config : InviteStoreConfig) :
    InvitePool.Inv (InvitePool.initial config) where
  accounted := by
    refine ⟨?_, ?_, ?_⟩
    · intro code record hlookup
      cases hlookup
    · intro code generated since htenure
      cases htenure
    · intro before peerId code arc time after heq
      simp [InvitePool.initial] at heq
  opened roomId arc hlookup := by cases hlookup
  looked thread hthread := by cases hthread

theorem opened_of_inviteNext {env : InviteEnv} {o : InviteOp} {looked : Option (RoomId × ArcId)}
    (hopened : w.RoomsOpened)
    (hlooked : ∀ roomId arc, looked = some (roomId, arc) → .opened roomId arc ∈ w.log)
    (hnext : inviteNext looked o (o.exec env w).1 = some (roomId, arc)) :
    .opened roomId arc ∈ w.log := by
  cases o with
  | room o =>
    cases o with
    | getRoom roomId' =>
      cases hroom : w.roomState.rooms.lookup roomId' with
      | none =>
        simp only [exec, RoomOp.exec, hroom, inviteNext] at hnext
        exact hlooked roomId arc hnext
      | some arc' =>
        simp only [exec, RoomOp.exec, hroom, inviteNext, some.injEq,
          Prod.mk.injEq] at hnext
        obtain ⟨rfl, rfl⟩ := hnext
        exact hopened roomId' arc' hroom
    | _ => exact hlooked roomId arc hnext
  | _ => exact hlooked roomId arc hnext

theorem InvitePool.Inv.of_reach {config : InviteStoreConfig} {pool : InvitePool}
    (hreach : inviteSystem.Reach (fun _ _ => True) (InvitePool.initial config) pool) :
    InvitePool.Inv pool := by
  refine (hreach.invariant (P := inviteProtocol) (I := InvitePool.Inv)
    (fun _ call _ => inviteCall_holds call) rfl (.initial config) ?_ ?_).1
  · intro pool call h _
    refine ⟨h.accounted, h.opened, ?_⟩
    intro thread hthread roomId arc hphase
    rcases mem_append.mp hthread with hthread | hthread
    · exact h.looked thread hthread roomId arc hphase
    · rw [mem_singleton] at hthread
      subst hthread
      cases hphase
  · intro pool i env call trace o rest answer shared h _ hthread hmay _ hexec
    obtain ⟨rfl, rfl⟩ : (o.exec env pool.shared).1 = answer
        ∧ (o.exec env pool.shared).2 = shared := by
      have heq := some.inj hexec
      exact ⟨congrArg Prod.fst heq, congrArg Prod.snd heq⟩
    have hold := h.looked _ (mem_of_getElem? hthread)
    refine ⟨?_, roomsOpened_exec h.opened o, ?_⟩
    · cases o with
      | room o =>
        apply accounted_room h.accounted
        rintro arc peerId code roomId rfl
        exact hold roomId arc hmay
      | generate roomId issuerId maxUses now =>
        exact accounted_generate env h.accounted roomId issuerId maxUses now
      | revoke code => exact accounted_revoke env h.accounted code
      | revokeAuthorized code roomId role =>
        exact accounted_revokeAuthorized env h.accounted code roomId role
      | sweepExpired now => exact accounted_sweepExpired env h.accounted now
      | removeRoomInvites roomId => exact accounted_removeRoomInvites env h.accounted roomId
    · intro thread hmem roomId arc hphase
      have hlog := log_prefix_exec pool.shared env o
      rcases mem_or_eq_of_mem_set hmem with hmem | rfl
      · exact hlog.subset (h.looked thread hmem roomId arc hphase)
      · rw [inviteProtocol.phase_step] at hphase
        exact hlog.subset (opened_of_inviteNext h.opened hold hphase)

/-- **Invite uses are accounted exactly.** -/
theorem inviteUses_accounted (config : InviteStoreConfig) {pool : InvitePool}
    (hreach : inviteSystem.Reach (fun _ _ => True) (InvitePool.initial config) pool) :
    (∀ code record, pool.shared.inviteStore.invites.lookup code = some record →
      ∃ generated since, tenure code pool.shared.log = some (generated, since)
        ∧ record.remainingUses + insertions code since = generated.remainingUses)
    ∧ WithinUses pool.shared.log
    ∧ AllEntitled pool.shared.log
    ∧ ∀ i env arc peerId check pool',
      pool.nextOp i = some (.room (.tryPush arc peerId check)) →
      inviteSystem.next pool (.step i env) = some pool' →
      peerId ∈ (pool.shared.roomState.heap arc).peers
        ∨ (pool.shared.roomState.heap arc).isFull = true →
      pool'.shared.inviteStore = pool.shared.inviteStore := by
  have hinv := InvitePool.Inv.of_reach hreach
  refine ⟨?_, hinv.accounted.withinUses, hinv.accounted.entitled, ?_⟩
  · intro code record hlookup
    obtain ⟨generated, since, htenure, haccounts⟩ := hinv.accounted.records code record hlookup
    exact ⟨generated, since, htenure, haccounts.uses⟩
  · intro i env arc peerId check pool' hop hnext hrefused
    obtain ⟨call, trace, o, rest, answer, shared, hthread, hexec, rfl⟩ :=
      inviteSystem.next_step hnext
    have ho : o = .room (.tryPush arc peerId check) := by
      simpa only [Pool.nextOp, hthread, some.injEq] using hop
    subst ho
    have hshared : shared = pool.shared := by
      have heq := congrArg Prod.snd (some.inj hexec)
      refine heq.symm.trans (tryPush_refused (hrefused.imp_right fun hfull => .inl ?_))
      simpa [RoomMembers.isFull] using hfull
    rw [hshared]

/-- One use is consumed, one rejected because the room is full, and one not taken. -/
theorem inviteUses_accounted_join :
    ∃ (pool : InvitePool) (record generated : InviteRecord) (since : List InviteEvent),
      pool.shared.inviteStore.invites.lookup "code" = some record
        ∧ record.remainingUses = 1
        ∧ tenure "code" pool.shared.log = some (generated, since)
        ∧ record.remainingUses + insertions "code" since = generated.remainingUses := by
  obtain ⟨pool, hreach, record, hlookup, huses⟩ := System.exists_reach_of_replay inviteSystem
    (fun _ _ => True) (InvitePool.initial {})
    [.start (.createRoom "room" .newP2p), .step 0 {},
      .start (.generate "room" "issuer" (some 2) 0), .step 1 { code := "code" },
      .start (.tryAddPeerWith "peer-1" "room" (some "code")), .step 2 {}, .step 2 { now := 5 },
      .start (.tryAddPeerWith "peer-1" "room" (some "code")), .step 3 {}, .step 3 {},
      .start (.addPeer "peer-2" "room"), .step 4 {}, .step 4 {}, .step 4 {},
      .start (.tryAddPeerWith "peer-3" "room" (some "code")), .step 5 {}, .step 5 {}]
    (fun pool => ∃ record ∈ pool.shared.inviteStore.invites.lookup "code",
      record.remainingUses = 1) (by decide)
  obtain ⟨generated, since, htenure, haccount⟩ :=
    (inviteUses_accounted {} hreach).1 "code" record hlookup
  exact ⟨pool, record, generated, since, hlookup, huses, htenure, haccount⟩

end Wavis
