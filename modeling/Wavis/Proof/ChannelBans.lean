import Wavis.Proof.ChannelOwners

namespace Wavis

open Concurrency ChannelStore ChannelPhase ChannelPool ChannelEvent

/-- What the log tells about a user and a channel. -/
structure Standing where
  banned : Bool
  trespassed : Bool

def ChannelEvent.concerns (channelId userId : Uuid) : ChannelEvent → Bool
  | joined channelId' userId' => channelId' = channelId ∧ userId' = userId
  | banned channelId' userId' => channelId' = channelId ∧ userId' = userId
  | unbanned channelId' userId' => channelId' = channelId ∧ userId' = userId
  | _ => false

def ChannelEvent.standing (before : Standing) : ChannelEvent → Standing
  | joined _ _ => { before with trespassed := before.trespassed || before.banned }
  | banned _ _ => { before with banned := true }
  | unbanned _ _ => { before with banned := false }
  | _ => before

def banLedger : Ledger (Uuid × Uuid) ChannelEvent Standing where
  start := ⟨false, false⟩
  step key before event := if event.concerns key.1 key.2 then event.standing before else before
  touches event key := event.concerns key.1 key.2
  step_quiet _ _ _ hquiet := by simp [hquiet]

/-- The last ban or unban of the user in the log is a ban. -/
def ChannelStore.Banned (w : ChannelStore) (channelId userId : Uuid) : Prop :=
  (banLedger.after (channelId, userId) w.log).banned = true

instance (w : ChannelStore) (channelId userId : Uuid) : Decidable (w.Banned channelId userId) :=
  inferInstanceAs (Decidable (_ = true))

def ChannelStore.Marked (w : ChannelStore) (key : Uuid × Uuid) (standing : Standing)
    (version : Option ChannelMembership) : Prop :=
  standing.trespassed = false ∧ (standing.banned = true →
    w.Gone key.1 ∨ ∃ row, version = some row ∧ row.bannedAt.isSome)

def ChannelStore.MarkedUnlessRemoved (w : ChannelStore) (key : Uuid × Uuid) (standing : Standing)
    (version : Option ChannelMembership) : Prop :=
  standing.trespassed = false ∧ (standing.banned = true →
    w.Gone key.1 ∨ ∀ row ∈ version, row.bannedAt.isSome)

def ChannelStore.BansKept (w : ChannelStore) : Prop :=
  Tracks banLedger w.Marked w.MarkedUnlessRemoved w.memberships w.draftsOf w.log

section

variable {w w' : ChannelStore} {o : ChannelOp} {answer : o.Resp} {call : ChannelCall}
  {φ : ChannelPhase} {tx : TxId} {channelId userId : Uuid} {standing : Standing}
  {event : ChannelEvent}

theorem ChannelStore.Step.marked (hstep : Step w o answer w') (key : Uuid × Uuid)
    (standing : Standing) (version : Option ChannelMembership)
    (h : w.Marked key standing version) : w'.Marked key standing version :=
  ⟨h.1, fun hbanned => (h.2 hbanned).imp_left hstep.gone⟩

theorem ChannelStore.Step.markedUnlessRemoved (hstep : Step w o answer w') (key : Uuid × Uuid)
    (standing : Standing) (version : Option ChannelMembership)
    (h : w.MarkedUnlessRemoved key standing version) :
    w'.MarkedUnlessRemoved key standing version :=
  ⟨h.1, fun hbanned => (h.2 hbanned).imp_left hstep.gone⟩

theorem banLedger_concat {events : List ChannelEvent}
    (hconcerns : event.concerns channelId userId = true) :
    banLedger.after (channelId, userId) (events ++ [event])
      = event.standing (banLedger.after (channelId, userId) events) := by
  rw [Ledger.after_concat]
  exact if_pos hconcerns

theorem ChannelEvent.joined_concerns : (joined channelId userId).concerns channelId userId = true :=
  decide_eq_true ⟨rfl, rfl⟩

theorem ChannelEvent.banned_concerns : (banned channelId userId).concerns channelId userId = true :=
  decide_eq_true ⟨rfl, rfl⟩

theorem ChannelEvent.unbanned_concerns :
    (unbanned channelId userId).concerns channelId userId = true :=
  decide_eq_true ⟨rfl, rfl⟩

theorem ChannelEvent.concerns_unique {other userId' : Uuid}
    (h : event.concerns channelId userId = true) (hne : (other, userId') ≠ (channelId, userId)) :
    event.concerns other userId' = false := by
  cases event with
  | joined channelId₀ userId₀ | banned channelId₀ userId₀ | unbanned channelId₀ userId₀ =>
    obtain ⟨rfl, rfl⟩ := of_decide_eq_true h
    exact decide_eq_false fun ⟨hchannel, huser⟩ => hne (by rw [hchannel, huser])
  | _ => rfl

namespace ChannelStore.BansKept

variable {row : ChannelMembership}

section

variable (h : w.BansKept) (hfree : (w.memberships.rows (channelId, userId)).Free (some tx))
include h hfree

theorem visible (hvisible : (w.memberships.rows (channelId, userId)).visible (some tx) = some row) :
    w.Marked (channelId, userId) (banLedger.after (channelId, userId) (w.log ++ w.draftsOf tx))
      (some row) := by
  rcases Tracks.visible h hfree with hmarked | ⟨-, hmarked⟩
  · exact hvisible ▸ hmarked
  · rw [hvisible] at hmarked
    refine ⟨hmarked.1, fun hbanned => (hmarked.2 hbanned).imp_right fun hrow => ?_⟩
    exact ⟨row, rfl, hrow row rfl⟩

theorem unspoiled :
    (banLedger.after (channelId, userId) (w.log ++ w.draftsOf tx)).trespassed = false := by
  rcases Tracks.visible h hfree with hmarked | ⟨-, hmarked⟩
  · exact hmarked.1
  · exact hmarked.1

end

theorem insertable (h : w.BansKept) (hfits : Fits w call φ) (htx : φ.tx = some tx)
    (hfree : (w.memberships.rows (channelId, userId)).Free (some tx))
    (hnone : (w.memberships.rows (channelId, userId)).visible (some tx) = none)
    (hvisible : (w.channels.rows channelId).visible (some tx) ≠ none) :
    banLedger.after (channelId, userId) (w.log ++ w.draftsOf tx) = ⟨false, false⟩ := by
  obtain ⟨channel, hchannel⟩ := Option.ne_none_iff_exists'.mp hvisible
  rcases Tracks.visible h hfree with hmarked | ⟨hwritten, -⟩
  · rw [hnone] at hmarked
    obtain ⟨htrespassed, hbanned⟩ := hmarked
    cases hstanding : banLedger.after (channelId, userId) (w.log ++ w.draftsOf tx) with
    | mk banned trespassed =>
      rw [hstanding] at htrespassed hbanned
      cases banned with
      | false => exact congrArg _ htrespassed
      | true =>
        rcases hbanned rfl with hgone | ⟨row, hrow, -⟩
        · exact absurd (Row.has_of_visible hchannel) (hgone.2 channel)
        · cases hrow
  · rw [hnone] at hwritten
    exact absurd hwritten (hfits.not_removed htx hvisible)

theorem update (h : w.BansKept) (edit : MembershipEdit)
    (hvisible : (w.memberships.rows (channelId, userId)).visible (some tx) = some row)
    (hfree : (w.memberships.rows (channelId, userId)).Free (some tx)) :
    w.Marked (channelId, userId) (banLedger.after (channelId, userId)
      (w.log ++ w.draftsOf tx ++ edit.events channelId userId)) (some (edit.apply row)) := by
  obtain ⟨htrespassed, hbanned⟩ := h.visible hfree hvisible
  cases edit with
  | ban now =>
    rw [MembershipEdit.events, banLedger_concat banned_concerns]
    exact ⟨htrespassed, fun _ => .inr ⟨_, rfl, rfl⟩⟩
  | unban =>
    rw [MembershipEdit.events, banLedger_concat unbanned_concerns]
    exact ⟨htrespassed, nofun⟩
  | setRole role =>
    rw [MembershipEdit.events, List.append_nil]
    refine ⟨htrespassed, fun hyes => (hbanned hyes).imp_right ?_⟩
    rintro ⟨row', hrow', hmarked⟩
    cases hrow'
    exact ⟨_, rfl, hmarked⟩

theorem marked_unless_removed {key : Uuid × Uuid} (h : w.Marked key standing (some row)) :
    w.MarkedUnlessRemoved key standing (some row) := by
  refine ⟨h.1, fun hbanned => (h.2 hbanned).imp_right ?_⟩
  rintro ⟨row', hrow', hmarked⟩ other hother
  cases hrow'
  cases hother
  exact hmarked

end ChannelStore.BansKept

/-- The statement takes no ban away with the membership it deletes. -/
def ChannelOp.KeepsBan (w : ChannelStore) : ChannelOp → Prop
  | deleteMembership channelId userId =>
    ∀ row ∈ (w.memberships.rows (channelId, userId)).committed, row.bannedAt = none
  | _ => True

instance ChannelOp.decidableKeepsBan (w : ChannelStore) (o : ChannelOp) :
    Decidable (o.KeepsBan w) := by
  unfold ChannelOp.KeepsBan
  split <;> infer_instance

theorem ChannelStore.BansKept.step (h : w.BansKept) (hregular : w.Regular)
    (hfits : Fits w call φ) (hmay : May call φ o) (hkeeps : o.KeepsBan w)
    (hstep : Step w o answer w') : w'.BansKept := by
  have hR := hstep.marked
  have hW := hstep.markedUnlessRemoved
  cases hstep with
  | commit tx =>
    refine .commit h hR hW draftsOf_commit_self (fun tx' => draftsOf_commit_ne) ?_
    rintro ⟨channelId, userId⟩ version hwritten ⟨htrespassed, hbanned⟩
    refine ⟨htrespassed, fun hyes => ?_⟩
    cases version with
    | none => exact .inl (hfits.gone_of_removed hregular (hmay.own tx rfl) hwritten)
    | some row =>
      refine ((hW _ _ _ ⟨htrespassed, hbanned⟩).2 hyes).imp_right fun hrow => ?_
      exact ⟨row, rfl, hrow row rfl⟩
  | failedCommit tx e | rollback tx =>
    exact .rollback h hR hW draftsOf_rollback_self fun tx' => draftsOf_rollback_ne
  | @deleteMember tx channelId userId hfree =>
    refine Tracks.stage h hR hW hfree (List.append_nil _).symm (fun _ _ => rfl)
      (fun _ _ => .nil) ⟨?_, fun _ => .inr (by simp)⟩
    rw [List.append_nil]
    exact h.unspoiled hfree
  | @insertMembership tx channelId userId role onConflictDoNothing hfree hnone hvisible hchannel =>
    refine .stage h hR hW hfree (draftsOf_draft_self _)
      (fun _ hne => draftsOf_draft_ne _ hne.symm)
      (fun _ hne => .singleton (concerns_unique joined_concerns hne)) ?_
    rw [banLedger_concat joined_concerns,
      h.insertable hfits (hmay.own tx rfl) hfree hnone hvisible]
    exact ⟨rfl, nofun⟩
  | @updateMembership tx channelId userId edit row hvisible hfree =>
    refine .stage h hR hW hfree (draftsOf_draft_self _)
      (fun _ hne => draftsOf_draft_ne _ hne.symm) ?_ ?_
    · intro key hne
      cases edit with
      | ban now => exact .singleton (concerns_unique banned_concerns hne)
      | unban => exact .singleton (concerns_unique unbanned_concerns hne)
      | setRole role => exact .nil
    · exact hW _ _ _ (marked_unless_removed (h.update edit hvisible hfree))
  | @deleteMembership channelId userId hvisible hfree =>
    have hquiet : ∀ key, banLedger.Quiet key [.left channelId userId] := fun _ => .singleton rfl
    refine .put h hR hW _ hfree (fun _ _ => hquiet _) ?_
    rw [Ledger.after_quiet (hquiet _)]
    obtain ⟨htrespassed, hbanned⟩ := h.committed (channelId, userId)
    refine ⟨htrespassed, fun hyes => ?_⟩
    rcases hbanned hyes with hgone | ⟨row, hrow, hmarked⟩
    · exact .inl hgone
    · rw [hkeeps row hrow] at hmarked
      cases hmarked
  | @insertInvite invite hmax hfree =>
    exact .frame h hR hW (fun _ => rfl) (fun _ => rfl)
      ⟨[.inviteCreated invite.code], rfl, fun _ => .singleton rfl⟩
      fun _ => ⟨[], (List.append_nil _).symm, fun _ => .nil⟩
  | @consumeInvite tx code now invite hvisible husable hfree =>
    refine .frame h hR hW (fun _ => rfl) (fun _ => rfl)
      ⟨[], (List.append_nil _).symm, fun _ => .nil⟩ (draft_quiet fun _ => .singleton rfl)
  | _ => exact .keep h hR hW (fun _ => rfl) fun _ => rfl

end

def ChannelPool.KeepsBan (pool : ChannelPool) : ChannelAct → Prop
  | .start _ => True
  | .step i env => env.failure = none → ∀ o ∈ pool.nextOp i, o.KeepsBan pool.shared

instance ChannelPool.decidableKeepsBan (pool : ChannelPool) (act : ChannelAct) :
    Decidable (pool.KeepsBan act) := by
  refine act.casesOn ?_ ?_ <;> intros <;> dsimp only [ChannelPool.KeepsBan] <;> infer_instance

theorem ChannelStore.bansKept_empty : ChannelStore.empty.BansKept :=
  .empty fun _ => ⟨rfl, nofun⟩

theorem channelService_bansKept {pool : ChannelPool}
    (hreach : channelService.Reach ChannelPool.KeepsBan initial pool) :
    pool.shared.BansKept := by
  refine channelService_invariant bansKept_empty ?_ hreach
  intro pool i env call φ o answer w hallowed hop hregular howned hfits hmay hexec h
  have hstep := ChannelOp.exec_step hexec
  cases hfailure : env.failure with
  | none => exact h.step hregular hfits hmay (hallowed hfailure o hop) hstep
  | some reason =>
    cases o with
    | deleteMembership channelId userId =>
      have hsame : pool.shared = w := by
        simp only [ChannelOp.exec, ChannelEnv.fallible, hfailure] at hexec
        cases hexec
        rfl
      exact hsame ▸ h
    | _ => exact h.step hregular hfits hmay trivial hstep

def ChannelPool.admitted (pool : ChannelPool) (i : Nat) : Option (Uuid × Uuid) :=
  match pool.threads[i]? with
  | some ⟨.joinChannelByInvite userId _, _, .ret (.ok result)⟩ => some (result.channelId, userId)
  | _ => none

theorem ChannelPool.exists_of_admitted {pool : ChannelPool} {i : Nat} {channelId userId : Uuid}
    (h : admitted pool i = some (channelId, userId)) :
    ∃ code trace result, pool.threads[i]?
        = some ⟨.joinChannelByInvite userId code, trace, .ret (.ok result)⟩
      ∧ result.channelId = channelId := by
  unfold admitted at h
  split at h
  · rename_i code trace result hthread
    cases h
    exact ⟨code, trace, result, hthread, rfl⟩
  · cases h

/-- **A ban lasts until it is lifted**, unless a leave deletes the membership of somebody banned. -/
theorem ban_lasts {pool : ChannelPool}
    (hreach : channelService.Reach ChannelPool.KeepsBan ChannelPool.initial pool)
    {channelId userId : Uuid} (hbanned : pool.shared.Banned channelId userId) :
    ((pool.shared.channels.rows channelId).committed ≠ none →
      ∃ row, (pool.shared.memberships.rows (channelId, userId)).committed = some row
        ∧ row.bannedAt.isSome)
      ∧ ∀ i env pool', channelService.next pool (.step i env) = some pool' →
        ChannelPool.admitted pool' i ≠ some (channelId, userId) := by
  have hbans := channelService_bansKept hreach
  refine ⟨fun hexists => ?_, ?_⟩
  · obtain ⟨channel, hchannel⟩ := Option.ne_none_iff_exists'.mp hexists
    rcases (hbans.committed (channelId, userId)).2 hbanned with hgone | hrow
    · exact absurd (.inl hchannel) (hgone.2 channel)
    · exact hrow
  · intro i env pool' hnext hadmitted
    obtain ⟨code, trace, result, hthread, rfl⟩ := exists_of_admitted hadmitted
    obtain ⟨tx, hdrafts⟩ := join_commits (hreach.mono fun _ _ _ => trivial) hnext hthread
    obtain ⟨version, hwritten⟩ := hbans.locked (result.channelId, userId) tx
      (.joined result.channelId userId) (by simp [hdrafts]) joined_concerns
    have htrespassed := (hbans.written _ tx version hwritten).1
    -- The join would be noted as one of somebody who is banned.
    rw [hdrafts, ← List.singleton_append, ← List.append_assoc,
      banLedger_concat joined_concerns, Ledger.after_quiet (.singleton rfl)]
      at htrespassed
    exact absurd (hbanned.symm.trans (Bool.or_eq_false_iff.mp htrespassed).2) (by simp)

/-- The member is banned and tries to leave and to join again. -/
theorem ban_lasts_rejoin :
    ∃ pool : ChannelPool, pool.shared.Banned lobby bob
      ∧ (∃ row, (pool.shared.memberships.rows (lobby, bob)).committed = some row
        ∧ row.bannedAt.isSome)
      ∧ ∀ i env pool', channelService.next pool (.step i env) = some pool' →
        ChannelPool.admitted pool' i ≠ some (lobby, bob) := by
  obtain ⟨pool, hreach, hbanned, hexists⟩ := System.exists_reach_of_replay channelService
    ChannelPool.KeepsBan initial
    (openLobby ++ .start (.banMember lobby alice bob) :: .replicate 5 (.step 3 {})
      ++ .start (.leaveChannel lobby bob) :: .step 4 {}
      :: .start (.joinChannelByInvite bob "code") :: .replicate 3 (.step 5 {}))
    (fun pool => pool.shared.Banned lobby bob
      ∧ (pool.shared.channels.rows lobby).committed.isSome) (by decide)
  have hlasts := ban_lasts hreach hbanned
  exact ⟨pool, hbanned, hlasts.1 (Option.isSome_iff_ne_none.mp hexists), hlasts.2⟩

/-- A member checks that they are not banned, and is banned before they leave. -/
def leavesBanned : List ChannelAct :=
  openLobby ++ .start (.leaveChannel lobby bob) :: .step 3 {}
    :: .start (.banMember lobby alice bob) :: List.replicate 5 (.step 4 {}) ++ [.step 3 {}]

/-- The ban is gone with the membership, and the invite admits them again. -/
theorem not_ban_lasts :
    (¬ ∀ (pool : ChannelPool) (channelId userId : Uuid),
      channelService.Reach (fun _ _ => True) ChannelPool.initial pool →
      pool.shared.Banned channelId userId →
      (pool.shared.channels.rows channelId).committed ≠ none →
      ∃ row, (pool.shared.memberships.rows (channelId, userId)).committed = some row
        ∧ row.bannedAt.isSome)
      ∧ ¬ ∀ (pool : ChannelPool) (channelId userId : Uuid),
        channelService.Reach (fun _ _ => True) ChannelPool.initial pool →
        pool.shared.Banned channelId userId →
        ∀ i env pool', channelService.next pool (.step i env) = some pool' →
          ChannelPool.admitted pool' i ≠ some (channelId, userId) := by
  constructor
  · intro h
    obtain ⟨pool, hreach, hbanned, hexists, hnone⟩ :=
      System.exists_reach_of_replay channelService (fun _ _ => True) initial leavesBanned
      (fun pool => pool.shared.Banned lobby bob
        ∧ (pool.shared.channels.rows lobby).committed.isSome
        ∧ (pool.shared.memberships.rows (lobby, bob)).committed = none) (by decide)
    obtain ⟨row, hrow, -⟩ := h pool lobby bob hreach hbanned (Option.isSome_iff_ne_none.mp hexists)
    rw [hnone] at hrow
    cases hrow
  · intro h
    obtain ⟨pool, hreach, hbanned, pool', hpool', hadmitted⟩ :=
      System.exists_reach_of_replay channelService (fun _ _ => True) initial
      (leavesBanned ++ .start (.joinChannelByInvite bob "code") :: .replicate 5 (.step 5 {}))
      (fun pool => pool.shared.Banned lobby bob ∧ ∃ pool' ∈ channelService.next pool (.step 5 {}),
        admitted pool' 5 = some (lobby, bob)) (by decide)
    exact h pool lobby bob hreach hbanned 5 {} pool' hpool' hadmitted

end Wavis
