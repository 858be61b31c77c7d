import Wavis.Proof.ChannelOwners

namespace Wavis

open Concurrency ChannelStore ChannelPhase ChannelEvent ChannelPool List

structure InviteUses where
  created : Nat
  current : Nat
  total : Nat

def ChannelEvent.ofCode (code : String) : ChannelEvent → Bool
  | inviteCreated code' => code' = code
  | consumed code' => code' = code
  | _ => false

def ChannelEvent.uses (before : InviteUses) : ChannelEvent → InviteUses
  | inviteCreated _ => { before with created := before.created + 1, current := 0 }
  | consumed _ => { before with current := before.current + 1, total := before.total + 1 }
  | _ => before

def inviteLedger : Ledger String ChannelEvent InviteUses where
  start := ⟨0, 0, 0⟩
  step code before event := if event.ofCode code then event.uses before else before
  touches event code := event.ofCode code
  step_quiet _ _ _ hquiet := by simp [hquiet]

structure InviteUses.Fits (uses : InviteUses) (version : Option ChannelInvite) : Prop where
  unused : uses.created = 0 → uses.total = 0
  only : uses.created ≤ 1 → uses.current = uses.total
  created : ∀ invite ∈ version, 0 < uses.created
  counted : ∀ invite ∈ version, invite.uses = uses.current
  bounded : ∀ invite ∈ version, ∀ maxUses ∈ invite.maxUses, invite.uses ≤ maxUses

def ChannelStore.UsesCounted (w : ChannelStore) : Prop :=
  Tracks inviteLedger (fun _ => InviteUses.Fits) (fun _ => InviteUses.Fits) w.invites w.draftsOf
    w.log

variable {event : ChannelEvent} {φ : ChannelPhase} {call : ChannelCall} {o : ChannelOp}
  {events : List ChannelEvent} {answer : o.Resp} {code : String} {tx : TxId} {userId : Uuid}

section

variable {uses : InviteUses}

theorem inviteLedger_concat (hcode : event.ofCode code = true) :
    inviteLedger.after code (events ++ [event]) = event.uses (inviteLedger.after code events) := by
  rw [Ledger.after_concat]
  exact if_pos hcode

theorem ChannelEvent.inviteCreated_ofCode : (inviteCreated code).ofCode code = true :=
  decide_eq_true rfl

theorem ChannelEvent.consumed_ofCode : (consumed code).ofCode code = true := decide_eq_true rfl

theorem inviteLedger_counts (code : String) (events : List ChannelEvent) :
    (inviteLedger.after code events).created = events.count (.inviteCreated code)
      ∧ (inviteLedger.after code events).total = events.count (.consumed code) := by
  induction events using reverseRecOn with
  | nil => exact ⟨rfl, rfl⟩
  | append_singleton events event ih =>
    rw [Ledger.after_concat, count_append, count_append]
    cases event with
    | inviteCreated code' | consumed code' =>
      by_cases hcode : code' = code
      · simp [inviteLedger, ofCode, uses, hcode] at ih ⊢
        exact ih
      · simp [inviteLedger, ofCode, hcode] at ih ⊢
        exact ih
    | _ => simpa [inviteLedger, ofCode] using ih

namespace InviteUses.Fits

variable {version : Option ChannelInvite} {invite : ChannelInvite}

theorem delete (h : uses.Fits version) : uses.Fits none :=
  ⟨h.unused, h.only, by simp, by simp, by simp⟩

theorem create (h : uses.Fits version) (hunused : invite.uses = 0)
    (hmax : ∀ maxUses ∈ invite.maxUses, 0 < maxUses) :
    ((inviteCreated code).uses uses).Fits (some invite) where
  unused hzero := absurd hzero (Nat.succ_ne_zero _)
  only hone := (h.unused (Nat.le_zero.mp (Nat.le_of_succ_le_succ hone))).symm
  created _ _ := Nat.succ_pos _
  counted invite' hmem := by
    cases hmem
    exact hunused
  bounded invite' hmem maxUses hbound := by
    cases hmem
    rw [hunused]
    exact Int.le_of_lt (hmax maxUses hbound)

theorem consume (h : uses.Fits (some invite)) {now : Instant} (husable : invite.usable now = true) :
    ((consumed code).uses uses).Fits
      (some { invite with uses := invite.uses + 1 }) where
  unused hzero := absurd hzero (h.created invite rfl).ne'
  only hone := congrArg (· + 1) (h.only hone)
  created _ _ := h.created invite rfl
  counted invite' hmem := by
    cases hmem
    exact congrArg (· + 1) (h.counted invite rfl)
  bounded invite' hmem maxUses hbound := by
    cases hmem
    obtain ⟨-, hleft⟩ := Bool.and_eq_true_iff.mp husable
    have hlt := (Option.all_eq_true _ _).mp hleft maxUses hbound
    exact Int.add_one_le_iff.mpr (of_decide_eq_true hlt)

end InviteUses.Fits

theorem ChannelEvent.ofCode_unique {other : String} (h : event.ofCode code = true)
    (hne : other ≠ code) : event.ofCode other = false := by
  cases event with
  | inviteCreated code' | consumed code' =>
    cases of_decide_eq_true h
    exact decide_eq_false hne.symm
  | _ => rfl

variable {w w' : ChannelStore}

theorem ChannelStore.UsesCounted.visible (h : w.UsesCounted)
    (hfree : (w.invites.rows code).Free (some tx)) :
    (inviteLedger.after code (w.log ++ w.draftsOf tx)).Fits
      ((w.invites.rows code).visible (some tx)) := by
  rcases Tracks.visible h hfree with hfits | ⟨-, hfits⟩
  · exact hfits
  · exact hfits

theorem ChannelStore.UsesCounted.step (h : w.UsesCounted) (hmay : May call φ o)
    (hstep : Step w o answer w') : w'.UsesCounted := by
  have hsame : ∀ (code : String) uses version, InviteUses.Fits uses version →
      InviteUses.Fits uses version := fun _ _ _ hfits => hfits
  have hsilent : ∀ tx, ∃ events, w.draftsOf tx = w.draftsOf tx ++ events
      ∧ ∀ code, inviteLedger.Quiet code events :=
    fun tx => ⟨[], (append_nil _).symm, fun _ => .nil⟩
  cases hstep with
  | commit tx =>
    exact .commit h hsame hsame draftsOf_commit_self (fun _ => draftsOf_commit_ne)
      fun _ _ _ hfits => hfits
  | failedCommit tx e | rollback tx =>
    exact .rollback h hsame hsame draftsOf_rollback_self fun _ => draftsOf_rollback_ne
  | @deleteItsInvite tx code hfree =>
    refine Tracks.stage h hsame hsame hfree (append_nil _).symm (fun _ _ => rfl)
      (fun _ _ => .nil) ?_
    rw [append_nil]
    exact (h.visible hfree).delete
  | @insertMembership tx channelId userId role onConflictDoNothing hfree hnone hvisible hchannel =>
    exact .frame h hsame hsame (fun _ => rfl) (fun _ => rfl)
      ⟨[], (append_nil _).symm, fun _ => .nil⟩ (draft_quiet fun _ => .singleton rfl)
  | @updateMembership tx channelId userId edit row hvisible hfree =>
    refine .frame h hsame hsame (fun _ => rfl) (fun _ => rfl)
      ⟨[], (append_nil _).symm, fun _ => .nil⟩ (draft_quiet fun _ => ?_)
    cases edit with
    | ban now | unban => exact .singleton rfl
    | setRole role => exact .nil
  | @deleteMembership channelId userId hvisible hfree =>
    exact .frame h hsame hsame (fun _ => rfl) (fun _ => rfl)
      ⟨[.left channelId userId], rfl, fun _ => .singleton rfl⟩ hsilent
  | @insertInvite invite hmax hfree =>
    refine .put h hsame hsame _ hfree (fun _ hne =>
      .singleton (ofCode_unique inviteCreated_ofCode hne)) ?_
    rw [inviteLedger_concat inviteCreated_ofCode]
    exact (h.committed invite.code).create hmay.permits.1 hmax
  | @consumeInvite tx code now invite hvisible husable hfree =>
    refine .stage h hsame hsame hfree (draftsOf_draft_self _)
      (fun _ hne => draftsOf_draft_ne _ hne.symm)
      (fun _ hne => .singleton (ofCode_unique consumed_ofCode hne)) ?_
    have hfits := h.visible hfree
    rw [hvisible] at hfits
    rw [inviteLedger_concat consumed_ofCode]
    exact hfits.consume husable
  | @deleteInvite channelId code hfree =>
    have hput := Tracks.put h hsame hsame [] hfree (fun _ _ => .nil)
      (by rw [append_nil]; exact (h.committed code).delete)
    rw [append_nil] at hput
    exact hput
  | _ => exact .keep h hsame hsame (fun _ => rfl) fun _ => rfl

end

def ChannelEvent.ofMember (key : Uuid × Uuid) : ChannelEvent → Bool
  | joined channelId userId => (channelId, userId) = key
  | left channelId userId => (channelId, userId) = key
  | _ => false

def ChannelEvent.memberships (before : Int) : ChannelEvent → Int
  | joined _ _ => before + 1
  | left _ _ => before - 1
  | _ => before

def membershipLedger : Ledger (Uuid × Uuid) ChannelEvent Int where
  start := 0
  step key before event := if event.ofMember key then event.memberships before else before
  touches event key := event.ofMember key
  step_quiet _ _ _ hquiet := by simp [hquiet]

def ChannelStore.Holds (w : ChannelStore) (key : Uuid × Uuid) (held : Int) :
    Option ChannelMembership → Prop
  | some _ => held = 1
  | none => held = 0 ∨ w.Gone key.1 ∧ held ≤ 1

def ChannelStore.HoldsUnlessRemoved (held : Int) : Option ChannelMembership → Prop
  | some _ => held = 1
  | none => held ≤ 1

def ChannelStore.MembershipsCounted (w : ChannelStore) : Prop :=
  Tracks membershipLedger w.Holds (fun _ => HoldsUnlessRemoved) w.memberships w.draftsOf w.log

section

variable {key : Uuid × Uuid} {held : Int} {channelId : Uuid}

theorem membershipLedger_concat (hmember : event.ofMember key = true) :
    membershipLedger.after key (events ++ [event])
      = event.memberships (membershipLedger.after key events) := by
  rw [Ledger.after_concat]
  exact if_pos hmember

theorem membershipLedger_step (event : ChannelEvent) :
    membershipLedger.step (channelId, userId) held event
      = held + [event].count (.joined channelId userId)
        - [event].count (.left channelId userId) := by
  cases event with
  | joined channelId' userId' | left channelId' userId' =>
    by_cases hkey : (channelId', userId') = (channelId, userId)
    · cases hkey
      simp [membershipLedger, ChannelEvent.ofMember, ChannelEvent.memberships]
    · have hne : ¬ (channelId' = channelId ∧ userId' = userId) := by simpa using hkey
      simp [membershipLedger, ofMember, hne]
  | _ => simp [membershipLedger, ofMember]

theorem membershipLedger_counts :
    membershipLedger.after (channelId, userId) events
      = events.count (.joined channelId userId) - events.count (.left channelId userId) := by
  induction events using reverseRecOn with
  | nil => rfl
  | append_singleton events event ih =>
    rw [Ledger.after_concat, membershipLedger_step, ih, count_append, count_append]
    omega

theorem ChannelEvent.joined_ofMember :
    (joined channelId userId).ofMember (channelId, userId) = true :=
  decide_eq_true rfl

theorem ChannelEvent.left_ofMember : (left channelId userId).ofMember (channelId, userId) = true :=
  decide_eq_true rfl

variable {w w' : ChannelStore}

theorem ChannelStore.Step.holds (hstep : Step w o answer w') (key : Uuid × Uuid) (held : Int)
    (version : Option ChannelMembership) (h : w.Holds key held version) :
    w'.Holds key held version := by
  cases version with
  | some row => exact h
  | none => exact h.imp_right fun hgone => ⟨hstep.gone hgone.1, hgone.2⟩

namespace ChannelStore.MembershipsCounted

section

variable (h : w.MembershipsCounted)
include h

theorem held_of_visible {row : ChannelMembership}
    (hfree : (w.memberships.rows key).Free (some tx))
    (hvisible : (w.memberships.rows key).visible (some tx) = some row) :
    membershipLedger.after key (w.log ++ w.draftsOf tx) = 1 := by
  rcases Tracks.visible h hfree with hheld | ⟨-, hheld⟩
  · rwa [hvisible] at hheld
  · rwa [hvisible] at hheld

theorem held_le (hfree : (w.memberships.rows key).Free (some tx)) :
    membershipLedger.after key (w.log ++ w.draftsOf tx) ≤ 1 := by
  cases hvisible : (w.memberships.rows key).visible (some tx) with
  | some row => exact Int.le_of_eq (h.held_of_visible hfree hvisible)
  | none =>
    rcases Tracks.visible h hfree with hheld | ⟨-, hheld⟩
    · rw [hvisible] at hheld
      rcases hheld with hzero | ⟨-, hle⟩
      · rw [hzero]
        decide
      · exact hle
    · rwa [hvisible] at hheld

theorem held_of_insertable (hfits : Fits w call φ) (htx : φ.tx = some tx)
    (hfree : (w.memberships.rows (channelId, userId)).Free (some tx))
    (hnone : (w.memberships.rows (channelId, userId)).visible (some tx) = none)
    (hvisible : (w.channels.rows channelId).visible (some tx) ≠ none) :
    membershipLedger.after (channelId, userId) (w.log ++ w.draftsOf tx) = 0 := by
  obtain ⟨channel, hchannel⟩ := Option.ne_none_iff_exists'.mp hvisible
  rcases Tracks.visible h hfree with hheld | ⟨hwritten, -⟩
  · rw [hnone] at hheld
    rcases hheld with hzero | ⟨hgone, -⟩
    · exact hzero
    · exact absurd (Row.has_of_visible hchannel) (hgone.2 channel)
  · rw [hnone] at hwritten
    exact absurd hwritten (hfits.not_removed htx hvisible)

theorem step (hregular : w.Regular) (hfits : Fits w call φ) (hmay : May call φ o)
    (hstep : Step w o answer w') : w'.MembershipsCounted := by
  have hR := hstep.holds
  have hW : ∀ (key : Uuid × Uuid) held version, HoldsUnlessRemoved held version →
      HoldsUnlessRemoved held version := fun _ _ _ hheld => hheld
  cases hstep with
  | commit tx =>
    refine .commit h hR hW draftsOf_commit_self (fun _ => draftsOf_commit_ne) ?_
    rintro ⟨channelId, userId⟩ version hwritten hheld
    cases version with
    | none => exact .inr ⟨hfits.gone_of_removed hregular (hmay.own tx rfl) hwritten, hheld⟩
    | some row => exact hheld
  | failedCommit tx e | rollback tx =>
    exact .rollback h hR hW draftsOf_rollback_self fun _ => draftsOf_rollback_ne
  | @deleteMember tx channelId userId hfree =>
    refine Tracks.stage h hR hW hfree (append_nil _).symm (fun _ _ => rfl)
      (fun _ _ => .nil) ?_
    rw [append_nil]
    exact h.held_le hfree
  | @insertMembership tx channelId userId role onConflictDoNothing hfree hnone hvisible hchannel =>
    refine .stage h hR hW hfree (draftsOf_draft_self _)
      (fun _ hne => draftsOf_draft_ne _ hne.symm)
      (fun _ hne => .singleton (decide_eq_false hne.symm)) ?_
    rw [membershipLedger_concat joined_ofMember,
      h.held_of_insertable hfits (hmay.own tx rfl) hfree hnone hvisible]
    rfl
  | @updateMembership tx channelId userId edit row hvisible hfree =>
    have hquiet : ∀ key, membershipLedger.Quiet key (edit.events channelId userId) := by
      intro key
      cases edit with
      | ban now | unban => exact .singleton rfl
      | setRole role => exact .nil
    refine .stage h hR hW hfree (draftsOf_draft_self _)
      (fun _ hne => draftsOf_draft_ne _ hne.symm) (fun key _ => hquiet key) ?_
    rw [Ledger.after_quiet (hquiet _)]
    exact h.held_of_visible hfree hvisible
  | @deleteMembership channelId userId hvisible hfree =>
    refine .put h hR hW _ hfree (fun _ hne => .singleton (decide_eq_false hne.symm)) ?_
    rw [membershipLedger_concat left_ofMember]
    obtain ⟨row, hrow⟩ := Option.ne_none_iff_exists'.mp hvisible
    rw [Row.visible_of_unwritten hfree.written_none] at hrow
    have hheld := h.committed (channelId, userId)
    rw [hrow] at hheld
    have hone : membershipLedger.after (channelId, userId) w.log = 1 := hheld
    rw [hone]
    exact .inl rfl
  | @insertInvite invite hmax hfree =>
    exact .frame h hR hW (fun _ => rfl) (fun _ => rfl)
      ⟨[.inviteCreated invite.code], rfl, fun _ => .singleton rfl⟩
      fun _ => ⟨[], (append_nil _).symm, fun _ => .nil⟩
  | @consumeInvite tx code now invite hvisible husable hfree =>
    exact .frame h hR hW (fun _ => rfl) (fun _ => rfl)
      ⟨[], (append_nil _).symm, fun _ => .nil⟩ (draft_quiet fun _ => .singleton rfl)
  | _ => exact .keep h hR hW (fun _ => rfl) fun _ => rfl

end

end ChannelStore.MembershipsCounted

end

def joinedWith (code : String) (thread : Thread ChannelOp.Resp ChannelCall.Ret) : Bool :=
  match thread with
  | ⟨.joinChannelByInvite _ code', _, .ret (.ok _)⟩ => code' = code
  | _ => false

def ChannelPool.joins (pool : ChannelPool) (code : String) : Nat :=
  pool.threads.countP (joinedWith code)

variable {pool : ChannelPool}

section

variable {thread : Thread ChannelOp.Resp ChannelCall.Ret} {w' w : ChannelStore}

theorem count_done (code : String) (h : channelProtocol.Holds thread) :
    (channelProtocol.phase thread).done.count (.consumed code)
      = if joinedWith code thread then 1 else 0 := by
  obtain ⟨call, trace, program⟩ := thread
  cases program with
  | op o rest =>
    have hdone : (channelProtocol.phase ⟨call, trace, .op o rest⟩).done = [] := h.1.open_
    rw [hdone]
    cases call <;> rfl
  | ret result =>
    have hpost : Post call (channelProtocol.phase ⟨call, trace, .ret result⟩) result := h
    cases call with
    | joinChannelByInvite userId code' =>
      cases result with
      | error e =>
        have hdone : (channelProtocol.phase _).done = [] := hpost.2
        rw [hdone]
        rfl
      | ok result =>
        have hdone : (channelProtocol.phase _).done
          = [.consumed code', .joined result.channelId userId] := hpost.2
        rw [hdone]
        simp [joinedWith, count_cons]
    | _ => exact count_eq_zero.mpr (hpost.2 code)

theorem ChannelStore.Step.count_log (code : String) (hfits : Fits w call φ) (hmay : May call φ o)
    (hstep : Step w o answer w') :
    w'.log.count (.consumed code)
      = w.log.count (.consumed code) + (φ.next o answer).done.count (.consumed code) := by
  have hkept : ∀ {done}, done = φ.done → w.log.count (.consumed code)
      = w.log.count (.consumed code) + done.count (.consumed code) := by
    rintro _ rfl
    rw [hmay.open_]
    rfl
  cases hstep with
  | same hidle =>
    rw [next_idle hidle]
    exact hkept rfl
  | commit tx =>
    have hdone : (φ.next (.commit tx) (.ok ())).done = φ.drafts := by
      simp [ChannelPhase.next, hmay.open_]
    have hlog : (w.commit tx).log = w.log ++ φ.drafts :=
      congrArg (w.log ++ ·) (hfits.drafts tx (hmay.own tx rfl))
    rw [hdone, hlog, count_append]
  | insertMembership role onConflictDoNothing hfree hnone hvisible hchannel =>
    exact hkept (by simp [ChannelPhase.next])
  | deleteMembership hvisible hfree =>
    simp only [record, setMemberships, count_append]
    exact hkept rfl
  | insertInvite hmax hfree =>
    simp only [record, setInvites, count_append]
    exact hkept rfl
  | _ => exact hkept rfl

theorem channelService_joins
    (hreach : channelService.Reach (fun _ _ => True) initial pool) :
    pool.shared.log.count (.consumed code) = joins pool code := by
  have hstrong := hreach.strengthen fun pool hreach => channelService_owning hreach
  refine (hstrong.invariant (P := channelProtocol)
    (I := fun pool => pool.shared.log.count (.consumed code) = joins pool code)
    (fun _ call _ => channelService_holds call) rfl rfl ?_ ?_).1
  · intro pool call h _
    have hspawn : 0 = if joinedWith code (channelService.spawn call) then 1 else 0 :=
      count_done code (channelService_holds call)
    rw [joins, countP_append, countP_singleton, ← hspawn]
    exact h
  · intro pool i env call trace o rest answer w h hallowed hthread hmay hholds hexec
    obtain ⟨-, ⟨-, hfits, -⟩, -⟩ := hallowed
    have hlog := (ChannelOp.exec_step hexec).count_log code
      (hfits _ (mem_of_getElem? hthread)) hmay
    have hdone := count_done code hholds
    rw [channelProtocol.phase_step] at hdone
    obtain ⟨hi, hget⟩ := List.getElem?_eq_some_iff.mp hthread
    have hold : joinedWith code pool.threads[i] = false := by
      rw [hget]
      cases call <;> rfl
    rw [joins, countP_set hi, hold, ← hdone]
    exact hlog.trans (congrArg (· + _) h)

/-- A join changes committed rows only by a commit that counts a use. -/
theorem ChannelStore.Step.join_unchanged (hstep : Step w o answer w')
    (hcall : call = .joinChannelByInvite userId code) (hmay : May call φ o)
    (hnone : (φ.next o answer).done.count (.consumed code) = 0) :
    (∀ code, (w'.invites.rows code).committed = (w.invites.rows code).committed)
      ∧ ∀ key, (w'.memberships.rows key).committed = (w.memberships.rows key).committed := by
  cases hstep with
  | commit tx =>
    subst hcall
    obtain ⟨-, channelId, hdrafts⟩ := hmay.permits
    simp [ChannelPhase.next, hmay.open_, hdrafts] at hnone
  | deleteMember hfree => exact ⟨fun _ => rfl, fun _ => Table.committed_stage _ _ _ _ _⟩
  | deleteItsInvite hfree => exact ⟨fun _ => Table.committed_stage _ _ _ _ _, fun _ => rfl⟩
  | insertMembership role onConflictDoNothing hfree hnone hvisible hchannel
  | updateMembership edit hvisible hfree =>
    exact ⟨fun _ => rfl, fun _ => Table.committed_stage _ _ _ _ _⟩
  | deleteMembership hvisible hfree => cases hcall.symm.trans hmay.permits.2
  | insertInvite hmax hfree =>
    obtain ⟨-, _, _, _, hcreate⟩ := hmay.permits
    cases hcall.symm.trans hcreate
  | consumeInvite hvisible husable hfree =>
    exact ⟨fun _ => Table.committed_stage _ _ _ _ _, fun _ => rfl⟩
  | deleteInvite hfree =>
    obtain ⟨_, hrevoke⟩ := hmay.permits
    cases hcall.symm.trans hrevoke
  | _ => exact ⟨fun _ => rfl, fun _ => rfl⟩

theorem join_step_unchanged {pool' : ChannelPool}
    (hreach : channelService.Reach (fun _ _ => True) initial pool) {i : Nat}
    {env : ChannelEnv} (hnext : channelService.next pool (.step i env) = some pool')
    (hthread : pool'.threads[i]? = some thread)
    (hcall : thread.call = .joinChannelByInvite userId code)
    (hfailed : joinedWith code thread = false) :
    (∀ code, (pool'.shared.invites.rows code).committed = (pool.shared.invites.rows code).committed)
      ∧ ∀ key, (pool'.shared.memberships.rows key).committed
        = (pool.shared.memberships.rows key).committed := by
  obtain ⟨⟨-, hfits, -⟩, hholds⟩ := channelService_owning hreach
  have hholds' := (channelService_owning (hreach.tail trivial hnext)).2 _
    (mem_of_getElem? hthread)
  obtain ⟨call, trace, o, rest, answer, w, hbefore, hexec, rfl⟩ := channelService.next_step hnext
  rw [List.getElem?_set_self (List.getElem?_eq_some_iff.mp hbefore).1, Option.some.injEq] at hthread
  subst hthread
  have hmay := (hholds _ (mem_of_getElem? hbefore)).1
  have hdone := count_done code hholds'
  rw [channelProtocol.phase_step, hfailed] at hdone
  exact (ChannelOp.exec_step hexec).join_unchanged hcall hmay hdone

end

section

variable (hreach : channelService.Reach (fun _ _ => True) ChannelPool.initial pool)
include hreach

theorem channelService_usesCounted : pool.shared.UsesCounted := by
  refine channelService_invariant ?_ ?_ hreach
  · exact .empty fun _ => ⟨fun _ => rfl, fun _ => rfl, by simp, by simp, by simp⟩
  · intro pool i env call φ o answer w _ _ _ _ _ hmay hexec h
    exact h.step hmay (ChannelOp.exec_step hexec)

theorem channelService_membershipsCounted : pool.shared.MembershipsCounted := by
  refine channelService_invariant ?_ ?_ hreach
  · exact .empty fun _ => .inl rfl
  · intro pool i env call φ o answer w _ _ hregular _ hfits hmay hexec h
    exact h.step hregular hfits hmay (ChannelOp.exec_step hexec)

end

/-- **Invites admit what they count.** -/
theorem invites_count_joins {pool : ChannelPool}
    (hreach : channelService.Reach (fun _ _ => True) ChannelPool.initial pool) :
    (∀ code, pool.shared.log.count (.consumed code) = ChannelPool.joins pool code)
      ∧ (∀ code invite, (pool.shared.invites.rows code).committed = some invite →
        invite.uses = (inviteLedger.after code pool.shared.log).current
          ∧ (pool.shared.log.count (.inviteCreated code) ≤ 1 →
            invite.uses = ChannelPool.joins pool code)
          ∧ ∀ maxUses ∈ invite.maxUses, invite.uses ≤ maxUses)
      ∧ (∀ i env pool' thread userId code, channelService.next pool (.step i env) = some pool' →
        pool'.threads[i]? = some thread → thread.call = .joinChannelByInvite userId code →
        joinedWith code thread = false →
        (∀ code, (pool'.shared.invites.rows code).committed
            = (pool.shared.invites.rows code).committed)
          ∧ ∀ key, (pool'.shared.memberships.rows key).committed
            = (pool.shared.memberships.rows key).committed)
      ∧ ∀ channelId userId, pool.shared.log.count (.joined channelId userId)
        ≤ pool.shared.log.count (.left channelId userId) + 1 := by
  refine ⟨fun code => channelService_joins hreach, ?_, ?_, ?_⟩
  · intro code invite hinvite
    have hfits := (channelService_usesCounted hreach).committed code
    rw [hinvite] at hfits
    have hcounted := hfits.counted invite rfl
    obtain ⟨hcreated, htotal⟩ := inviteLedger_counts code pool.shared.log
    refine ⟨hcounted, fun honce => ?_, hfits.bounded invite rfl⟩
    rw [hcounted, hfits.only (hcreated ▸ honce), htotal, channelService_joins hreach]
  · intro i env pool' thread userId code hnext hthread hcall hfailed
    exact join_step_unchanged hreach hnext hthread hcall hfailed
  · intro channelId userId
    have hheld : membershipLedger.after (channelId, userId) pool.shared.log ≤ 1 := by
      have h := (channelService_membershipsCounted hreach).committed (channelId, userId)
      cases hrow : (pool.shared.memberships.rows (channelId, userId)).committed with
      | some row =>
        rw [hrow] at h
        exact Int.le_of_eq h
      | none =>
        rw [hrow] at h
        rcases h with hzero | ⟨-, hle⟩
        · rw [hzero]
          decide
        · exact hle
    rw [membershipLedger_counts] at hheld
    omega

/-- Two users join at once with an invite for one. -/
theorem invites_count_joins_race :
    ∃ (pool : ChannelPool) (invite : ChannelInvite),
      (pool.shared.invites.rows "code").committed = some invite ∧ invite.maxUses = some 1
        ∧ ChannelPool.joins pool "code" = 1 ∧ invite.uses = ChannelPool.joins pool "code"
        ∧ pool.shared.log.count (.joined lobby bob)
          ≤ pool.shared.log.count (.left lobby bob) + 1 := by
  obtain ⟨pool, hreach, ⟨invite, hinvite, hmax⟩, hjoins, honce⟩ :=
    System.exists_reach_of_replay channelService (fun _ _ => True) initial
    (.start (.createChannel alice "lobby") :: .replicate 4 (.step 0 { uuid := lobby })
      ++ .start (.createInvite lobby alice none (some 1))
      :: .replicate 4 (.step 1 { code := "code" })
      ++ .start (.joinChannelByInvite bob "code") :: .start (.joinChannelByInvite carol "code")
      :: .replicate 2 (.step 2 {}) ++ .step 3 {} :: .replicate 4 (.step 2 {})
      ++ .replicate 2 (.step 3 {}))
    (fun pool => (∃ invite ∈ (pool.shared.invites.rows "code").committed,
        invite.maxUses = some 1) ∧ joins pool "code" = 1
      ∧ pool.shared.log.count (.inviteCreated "code") ≤ 1) (by decide)
  obtain ⟨-, hcounts, -, hheld⟩ := invites_count_joins hreach
  exact ⟨pool, invite, hinvite, hmax, hjoins, (hcounts "code" invite hinvite).2.1 honce,
    hheld lobby bob⟩

end Wavis
