import Wavis.BackendCalls
import Wavis.Proof.ChannelThreads

namespace Wavis

open Concurrency ChannelStore ChannelPhase Table List

/-- Owners are members with the role of the owner, nobody else has it, and they are not banned. -/
structure ChannelStore.Owned (w : ChannelStore) : Prop where
  one : ∀ channelId channel channel', (w.channels.rows channelId).Has channel →
    (w.channels.rows channelId).Has channel' → channel.ownerUserId = channel'.ownerUserId
  role : ∀ channelId userId channel row, (w.channels.rows channelId).Has channel →
    (w.memberships.rows (channelId, userId)).Has row →
    (row.role = .owner ↔ userId = channel.ownerUserId)
  unbanned : ∀ channelId userId channel row, (w.channels.rows channelId).Has channel →
    (w.memberships.rows (channelId, userId)).Has row → userId = channel.ownerUserId →
    row.bannedAt = none
  present : ∀ channelId channel, (w.channels.rows channelId).committed = some channel →
    ∃ row, (w.memberships.rows (channelId, channel.ownerUserId)).committed = some row

variable {channel : Channel} {channelId userId : Uuid}

section

variable {w w' : ChannelStore} {o : ChannelOp} {answer : o.Resp} {call : ChannelCall}
  {φ : ChannelPhase}

theorem ChannelPhase.Fits.own (h : Fits w call φ) (hregular : w.Regular) (howned : w.Owned)
    (hmay : May call φ o) (hstep : Step w o answer w') : Fits w' call (φ.next o answer) := by
  have hstep' := hstep
  cases hstep with
  | same hidle =>
    rw [next_idle hidle]
    exact h
  | begin now => exact h.begin hregular hmay.permits
  | commit tx =>
    refine h.ended hstep' fun event hmem => ?_
    rcases mem_append.mp hmem with hold | hnew
    · exact hstep'.log_subset (h.noted event hold)
    · rw [← h.drafts tx (hmay.own tx rfl)] at hnew
      exact mem_append_right _ hnew
  | failedCommit tx e | rollback tx => exact h.ended hstep' h.noted
  | insertChannel tx channel hfresh =>
    exact h.insertChannel hregular hfresh hmay.permits (hmay.own tx rfl) hstep' rfl rfl rfl
  | @deleteChannel tx channelId hvisible hfree =>
    obtain ⟨hfounding, userId, rfl⟩ := hmay.permits
    exact h.deleteChannel (hmay.own tx rfl) hfounding hstep'
  | selectDependents tx channelId =>
    refine ⟨h.known, h.closed, h.drafts, h.deleted, h.caller, ?_, h.removed, h.removal,
      h.founder, h.founding, h.outsider, h.noted⟩
    intro other userId hmem
    rw [ChannelStore.mem_dependents hmem]
    exact hmay.permits
  | @deleteMember tx channelId userId hfree =>
    have hdeleted := h.dependents channelId userId hmay.permits
    refine h.write hstep' rfl rfl rfl rfl rfl h.drafts h.closed (fun _ => rfl) ?_ (.inr rfl) ?_
    · intro tx' _ other userId' hwritten
      simp only [setMemberships, written_stage] at hwritten
      split_ifs at hwritten with hkey
      · cases hkey
        exact .inr hdeleted
      · exact .inl hwritten
    · intro tx' htx' other channel hother hrow
      refine hrow.imp_left ?_
      rintro ⟨row, hrow⟩
      have hne : (other, channel.ownerUserId) ≠ (channelId, userId) := by
        rintro hkey
        cases hkey
        obtain ⟨_, -, hnone⟩ := h.deleted _ hdeleted
        rw [hnone] at hother
        cases hother
      exact ⟨row, by simpa only [setMemberships, written_stage, if_neg hne] using hrow⟩
  | @deleteItsInvite tx code hfree =>
    exact h.keep hstep' rfl rfl rfl rfl rfl rfl h.drafts h.closed (fun _ => rfl) fun _ => rfl
  | @selectMembership tx channelId userId row hvisible =>
    have hhas := Row.has_of_visible hvisible
    refine ⟨h.known, h.closed, h.drafts, h.deleted, h.caller, h.dependents, h.removed, h.removal,
      h.founder, h.founding, ?_, h.noted⟩
    intro other userId' row' hmem hrole
    rcases mem_cons.mp hmem with heq | hold
    · cases heq
      refine ⟨hregular.member_drawn _ _ _ hhas, fun channel hchannel howner => hrole ?_⟩
      exact (howned.role _ _ _ _ hchannel hhas).mpr howner.symm
    · exact h.outsider other userId' row' hold hrole
  | @insertMembership tx channelId userId role onConflictDoNothing hfree hnone hvisible hchannel =>
    have htx := hmay.own tx rfl
    simp only [next, Bool.not_true, Bool.and_false, Bool.false_eq_true, if_false]
    refine h.write hstep' rfl rfl rfl rfl rfl ?_ ?_ (fun _ => written_share _ _ _ _) ?_
      (.inl rfl) ?_
    · intro tx' htx'
      cases htx.symm.trans htx'
      rw [draftsOf_draft_self]
      exact congrArg (· ++ _) (h.drafts tx htx)
    · intro hnone
      rw [htx] at hnone
      cases hnone
    · intro tx' _ other userId' hwritten
      simp only [ChannelStore.draft, setChannels, setMemberships, written_stage] at hwritten
      split_ifs at hwritten
      · cases hwritten
      · exact .inl hwritten
    · intro tx' htx' other channel _ hrow
      cases htx.symm.trans htx'
      simp only [ChannelStore.draft, setChannels, setMemberships, written_stage]
      split_ifs with hkey
      · exact .inl ⟨_, rfl⟩
      · rcases hrow with hrow | hfounding
        · exact .inl hrow
        · rcases hmay.permits with ⟨-, hself, -⟩ | ⟨-, hnot, -⟩
          · rw [hself] at hfounding
            cases hfounding
            exact absurd rfl hkey
          · rw [hnot] at hfounding
            cases hfounding
  | @updateMembership tx channelId userId edit row hvisible hfree =>
    have htx := hmay.own tx rfl
    refine h.write hstep' rfl rfl rfl rfl rfl ?_ ?_ (fun _ => rfl) ?_ (.inr rfl) ?_
    · intro tx' htx'
      cases htx.symm.trans htx'
      rw [draftsOf_draft_self]
      exact congrArg (· ++ _) (h.drafts tx htx)
    · intro hnone
      rw [htx] at hnone
      cases hnone
    · intro tx' _ other userId' hwritten
      simp only [ChannelStore.draft, setMemberships, written_stage] at hwritten
      split_ifs at hwritten
      · cases hwritten
      · exact .inl hwritten
    · intro tx' htx' other channel _ hrow
      cases htx.symm.trans htx'
      simp only [ChannelStore.draft, setMemberships, written_stage]
      split_ifs
      · exact .inl ⟨_, rfl⟩
      · exact hrow
  | @deleteMembership channelId userId hvisible hfree =>
    exact h.keep hstep' rfl rfl rfl rfl rfl rfl h.drafts h.closed (fun _ => rfl)
      fun _ => written_put _ _ _ _
  | @insertInvite invite hmax hfree =>
    exact h.keep hstep' rfl rfl rfl rfl rfl rfl h.drafts h.closed (fun _ => rfl) fun _ => rfl
  | @consumeInvite tx code now invite hvisible husable hfree =>
    have htx := hmay.own tx rfl
    refine h.keep hstep' rfl rfl rfl rfl rfl rfl ?_ ?_ (fun _ => rfl) fun _ => rfl
    · intro tx' htx'
      cases htx.symm.trans htx'
      rw [draftsOf_draft_self]
      exact congrArg (· ++ _) (h.drafts tx htx)
    · intro hnone
      rw [htx] at hnone
      cases hnone
  | @deleteInvite channelId code hfree =>
    exact h.keep hstep' rfl rfl rfl rfl rfl rfl h.drafts h.closed (fun _ => rfl) fun _ => rfl

theorem ChannelStore.Step.channel_has_cases (hstep : Step w o answer w') (hregular : w.Regular)
    (hhas : (w'.channels.rows channelId).Has channel) :
    (w.channels.rows channelId).Has channel
      ∨ channelId ∉ w.drawn
        ∧ ∀ other, (w'.channels.rows channelId).Has other → other = channel := by
  by_cases hdrawn : channelId ∈ w.drawn
  · exact .inl (hstep.channel_has hdrawn hhas)
  · obtain ⟨hcommitted, hwritten⟩ := hregular.blank channelId hdrawn
    have hnone : ∀ other, ¬ (w.channels.rows channelId).Has other := by
      rintro other (hc | ⟨tx, hw⟩)
      · rw [hcommitted] at hc
        cases hc
      · rw [hwritten] at hw
        cases hw
    refine .inr ⟨hdrawn, ?_⟩
    cases hstep with
    | insertChannel tx inserted hfresh =>
      have honly : ∀ other, ((w.channels.stage tx inserted.channelId (some inserted)).rows
          channelId).Has other → other = inserted := by
        intro other hother
        rcases has_stage _ hother with hold | ⟨-, hnew⟩
        · exact absurd hold (hnone other)
        · exact (Option.some.inj hnew).symm
      intro other hother
      rw [honly other hother, honly channel hhas]
    | commit tx => exact absurd (Row.has_commit hhas) (hnone channel)
    | failedCommit tx e | rollback tx => exact absurd (Row.has_rollback hhas) (hnone channel)
    | deleteChannel hvisible hfree =>
      rcases has_stage _ hhas with hold | ⟨-, hnew⟩
      · exact absurd hold (hnone channel)
      · cases hnew
    | insertMembership role onConflictDoNothing hfree hnone' hvisible hchannel =>
      exact absurd (has_share _ hhas) (hnone channel)
    | _ => exact absurd hhas (hnone channel)

namespace ChannelStore.Owned

theorem member_ne_owner (h : w.Owned) (hfits : Fits w call φ) {tx : TxId} (htx : φ.tx = some tx)
    (hφ : φ.founding = none) (hfree : (w.memberships.rows (channelId, userId)).Free (some tx))
    (hnone : (w.memberships.rows (channelId, userId)).visible (some tx) = none)
    (hvisible : (w.channels.rows channelId).visible (some tx) ≠ none)
    (hchannel : (w.channels.rows channelId).Free (some tx))
    (hhas : (w.channels.rows channelId).Has channel) : userId ≠ channel.ownerUserId := by
  rintro rfl
  rcases hchannel.cases with ⟨hunwritten, hcommitted⟩ | ⟨writer, hwriter, hwritten⟩
  · -- The channel is committed, so its owner is a member.
    obtain ⟨committed, hsome⟩ := Option.ne_none_iff_exists'.mp hvisible
    rw [hcommitted] at hsome
    obtain ⟨row, hrow⟩ := h.present channelId committed hsome
    rw [h.one channelId committed channel (.inl hsome) hhas] at hrow
    rcases hfree.cases with ⟨-, heq⟩ | ⟨writer, hwriter, hwritten⟩
    · rw [heq, hrow] at hnone
      cases hnone
    · cases hwriter
      rw [hnone] at hwritten
      obtain ⟨tx', -, hdeleted⟩ := hfits.deleted channelId (hfits.removal tx htx _ _ hwritten)
      rw [hunwritten] at hdeleted
      cases hdeleted
  · -- The transaction has inserted the channel itself.
    cases hwriter
    obtain ⟨inserted, hsome⟩ := Option.ne_none_iff_exists'.mp hvisible
    rw [hsome] at hwritten
    have hone := h.one channelId inserted channel (.inr ⟨tx, hwritten⟩) hhas
    rcases hfits.founding tx htx channelId inserted hwritten with ⟨row, hrow⟩ | hfounding
    · rw [hone] at hrow
      simp [Row.visible, hrow] at hnone
    · rw [hφ] at hfounding
      cases hfounding

theorem outsider_of_checked (hfits : Fits w call φ) {edit : MembershipEdit}
    (hchecked : Checked call φ.seen channelId userId edit) (hedit : edit ≠ .unban)
    (hhas : (w.channels.rows channelId).Has channel) : channel.ownerUserId ≠ userId := by
  cases edit with
  | ban now =>
    obtain ⟨requesterUserId, requester, target, -, -, hseen, -, hcheck⟩ := hchecked
    have hrole : target.role ≠ .owner := by
      intro howner
      simp [checkBan, howner] at hcheck
    exact (hfits.outsider channelId userId target hseen hrole).2 channel hhas
  | unban => exact absurd rfl hedit
  | setRole role =>
    obtain ⟨requesterUserId, newRole, requester, target, -, -, -, hseen, -, hcheck⟩ := hchecked
    have hrole : target.role ≠ .owner := by
      intro howner
      simp [Channels.checkRoleTarget, howner] at hcheck
    exact (hfits.outsider channelId userId target hseen hrole).2 channel hhas

theorem parseAssignableRole_ne_owner {newRole : String} {role : ChannelRole}
    (h : Channels.parseAssignableRole newRole = .ok role) : role ≠ .owner := by
  unfold Channels.parseAssignableRole at h
  split at h <;> cases h <;> simp

section

variable (h : w.Owned) (hregular : w.Regular) (hfits : Fits w call φ) (hmay : May call φ o)
  (hstep : Step w o answer w')
include h hregular hstep

theorem step_one (channelId : Uuid) (channel channel' : Channel)
    (hhas : (w'.channels.rows channelId).Has channel)
    (hhas' : (w'.channels.rows channelId).Has channel') :
    channel.ownerUserId = channel'.ownerUserId := by
  rcases hstep.channel_has_cases hregular hhas with hold | ⟨hfresh, honly⟩
  · rcases hstep.channel_has_cases hregular hhas' with hold' | ⟨hfresh, -⟩
    · exact h.one channelId channel channel' hold hold'
    · exact absurd (hregular.drawn_of_has hold) hfresh
  · rw [honly channel' hhas']

include hfits hmay

theorem step_role (channelId userId : Uuid) (channel : Channel) (row : ChannelMembership)
    (hhas : (w'.channels.rows channelId).Has channel)
    (hrow : (w'.memberships.rows (channelId, userId)).Has row) :
    (row.role = .owner ↔ userId = channel.ownerUserId)
      ∧ (userId = channel.ownerUserId → row.bannedAt = none) := by
  rcases hstep.membership_has hrow with hold | ⟨tx, role, b, rfl, rfl, hfree, hnone, hvisible,
    hchannel⟩ | ⟨tx, edit, row₀, rfl, rfl, hold⟩
  · have hbefore := hstep.channel_has (hregular.member_drawn _ _ _ hold) hhas
    exact ⟨h.role _ _ _ _ hbefore hold, h.unbanned _ _ _ _ hbefore hold⟩
  · have hbefore := hstep.channel_has (hregular.drawn_of_visible hvisible) hhas
    refine ⟨?_, fun _ => rfl⟩
    rcases hmay.permits with ⟨rfl, hfounding, -⟩ | ⟨rfl, hnot, -⟩
    · obtain ⟨tx', founded, -, hwritten, howner⟩ := hfits.founder channelId userId hfounding
      rw [← howner, h.one channelId founded channel (.inr ⟨tx', hwritten⟩) hbefore]
      simp
    · have hne := h.member_ne_owner hfits (hmay.own tx rfl) hnot hfree hnone hvisible hchannel
        hbefore
      simp [hne]
  · have hbefore := hstep.channel_has (hregular.member_drawn _ _ _ hold) hhas
    have hrole := h.role _ _ _ _ hbefore hold
    have hunbanned := h.unbanned _ _ _ _ hbefore hold
    have hchecked : Checked call φ.seen channelId userId edit := hmay.permits
    cases edit with
    | unban => exact ⟨hrole, fun _ => rfl⟩
    | ban now =>
      have hne := outsider_of_checked hfits hchecked (by simp) hbefore
      exact ⟨hrole, fun howner => absurd howner.symm hne⟩
    | setRole role =>
      have hne := outsider_of_checked hfits hchecked (by simp) hbefore
      obtain ⟨_, newRole, _, _, -, hparsed, -⟩ := hchecked
      refine ⟨iff_of_false (parseAssignableRole_ne_owner hparsed) hne.symm, fun howner => ?_⟩
      exact absurd howner.symm hne

omit hregular hmay hstep in
theorem commit_present {tx : TxId} (htx : φ.tx = some tx) (hφ : φ.founding = none)
    (channelId : Uuid) (channel : Channel)
    (hcommitted : ((w.channels.rows channelId).commit tx).committed = some channel) :
    ∃ row, ((w.memberships.rows (channelId, channel.ownerUserId)).commit tx).committed
      = some row := by
  rcases (w.channels.rows channelId).committed_commit tx with
    ⟨version, hwritten, heq⟩ | ⟨hother, heq⟩
  · rw [← heq, hcommitted] at hwritten
    rcases hfits.founding tx htx channelId channel hwritten with ⟨row, hrow⟩ | hfounding
    · exact ⟨row, by simp [Row.commit, hrow]⟩
    · rw [hφ] at hfounding
      cases hfounding
  · rw [heq] at hcommitted
    obtain ⟨row, hrow⟩ := h.present channelId channel hcommitted
    rcases (w.memberships.rows (channelId, channel.ownerUserId)).committed_commit tx with
      ⟨version, hwritten, heq'⟩ | ⟨-, heq'⟩
    · cases version with
      | none =>
        have hdeleted := hfits.removal tx htx _ _ hwritten
        obtain ⟨tx', htx', hgone⟩ := hfits.deleted channelId hdeleted
        cases htx.symm.trans htx'
        exact absurd hgone (hother none)
      | some row' => exact ⟨row', heq'⟩
    · exact ⟨row, heq'.trans hrow⟩

omit hregular in
theorem step_present (channelId : Uuid) (channel : Channel)
    (hcommitted : (w'.channels.rows channelId).committed = some channel) :
    ∃ row, (w'.memberships.rows (channelId, channel.ownerUserId)).committed = some row := by
  cases hstep with
  | commit tx =>
    exact h.commit_present hfits (hmay.own tx rfl) hmay.permits.1 channelId channel hcommitted
  | insertChannel tx inserted hfresh =>
    simp only [Table.committed_stage] at hcommitted
    exact h.present channelId channel hcommitted
  | deleteChannel hvisible hfree =>
    simp only [setChannels, Table.committed_stage] at hcommitted
    exact h.present channelId channel hcommitted
  | deleteMember hfree =>
    simp only [setMemberships, Table.committed_stage]
    exact h.present channelId channel hcommitted
  | insertMembership role onConflictDoNothing hfree hnone hvisible hchannel =>
    simp only [draft, setChannels, setMemberships, Table.committed_share] at hcommitted
    simp only [draft, setChannels, setMemberships, Table.committed_stage]
    exact h.present channelId channel hcommitted
  | updateMembership edit hvisible hfree =>
    simp only [draft, setMemberships, Table.committed_stage]
    exact h.present channelId channel hcommitted
  | @deleteMembership channelId' userId hvisible hfree =>
    obtain ⟨row, hseen, hrole, -⟩ := hmay.permits.1
    have hne : (channelId, channel.ownerUserId) ≠ (channelId', userId) := by
      intro hkey
      cases hkey
      exact (hfits.outsider _ _ row hseen hrole).2 channel (.inl hcommitted) rfl
    simp only [record, setMemberships, Table.committed_put, if_neg hne]
    exact h.present channelId channel hcommitted
  | _ => exact h.present channelId channel hcommitted

theorem step : w'.Owned where
  one := h.step_one hregular hstep
  role channelId userId channel row hhas hrow :=
    (h.step_role hregular hfits hmay hstep channelId userId channel row hhas hrow).1
  unbanned channelId userId channel row hhas hrow :=
    (h.step_role hregular hfits hmay hstep channelId userId channel row hhas hrow).2
  present := h.step_present hfits hmay hstep

end

end ChannelStore.Owned

end

theorem ChannelStore.owned_empty : ChannelStore.empty.Owned where
  one _ _ _ hhas := by
    rcases hhas with hc | ⟨tx, hw⟩
    · cases hc
    · cases hw
  role _ _ _ _ hhas := by
    rcases hhas with hc | ⟨tx, hw⟩
    · cases hc
    · cases hw
  unbanned _ _ _ _ hhas := by
    rcases hhas with hc | ⟨tx, hw⟩
    · cases hc
    · cases hw
  present _ _ hcommitted := by cases hcommitted

variable {allowed : ChannelPool → ChannelAct → Prop} {pool : ChannelPool}

theorem channelService_owning (hreach : channelService.Reach allowed ChannelPool.initial pool) :
    pool.Owning channelProtocol (fun w => w.Regular ∧ w.Owned) Fits (·.tx)
      ∧ ∀ thread ∈ pool.threads, channelProtocol.Holds thread := by
  refine hreach.owning (fun _ call _ => channelService_holds call) rfl
    ⟨regular_empty, owned_empty⟩ ?_ (fun w call _ => ⟨.initial w call, rfl⟩) ?_ ?_
  · rintro pool i env call φ o answer w - - ⟨hregular, howned⟩ hfits hmay hexec
    have hstep := ChannelOp.exec_step hexec
    exact ⟨⟨hregular.step hstep (hmay.begun hfits), howned.step hregular hfits hmay hstep⟩,
      hfits.own hregular howned hmay hstep⟩
  · rintro pool i env call φ o answer w call' φ' - - ⟨hregular, -⟩ hfits hmay hexec hfits' hapart
    refine hfits'.other hregular (ChannelOp.exec_step hexec) fun tx htx hown => ?_
    exact hapart tx (hmay.own tx hown) htx
  · rintro pool i env thread o answer w j other tx - - - - - hfits hmay hexec htx hfits' htx'
    rcases next_tx (ChannelOp.exec_step hexec) htx with hown | rfl
    · exact hown
    · exact absurd (hfits'.known _ htx') (Nat.lt_irrefl _)

theorem channelService_invariant {I : ChannelStore → Prop} (hempty : I .empty)
    (hstep : ∀ pool i env call φ o answer w, allowed pool (.step i env) → pool.nextOp i = some o →
      pool.shared.Regular → pool.shared.Owned → Fits pool.shared call φ → May call φ o →
      o.exec env pool.shared = some (answer, w) → I pool.shared → I w)
    (hreach : channelService.Reach allowed ChannelPool.initial pool) : I pool.shared := by
  have hstrong := hreach.strengthen fun pool hreach => channelService_owning hreach
  refine (hstrong.invariant (P := channelProtocol) (I := fun pool => I pool.shared)
    (fun _ call _ => channelService_holds call) rfl hempty (fun _ _ h _ => h) ?_).1
  intro pool i env call trace o rest answer w h hallowed hthread hmay hholds hexec
  obtain ⟨hallowed, ⟨⟨hregular, howned⟩, hfits, -⟩, -⟩ := hallowed
  have hop : pool.nextOp i = some o := by simp only [Pool.nextOp, hthread]
  exact hstep pool i env call _ o answer w hallowed hop hregular howned
    (hfits _ (mem_of_getElem? hthread)) hmay hexec h

/-- A join that succeeds has just committed the use of its invite and the membership. -/
theorem join_commits {pool' : ChannelPool}
    (hreach : channelService.Reach (fun _ _ => True) ChannelPool.initial pool) {i : Nat}
    {env : ChannelEnv} (hnext : channelService.next pool (.step i env) = some pool')
    {code : String} {trace : List ((o : ChannelOp) × o.Resp)} {result : JoinResult}
    (hthread : pool'.threads[i]?
      = some ⟨.joinChannelByInvite userId code, trace, .ret (.ok result)⟩) :
    ∃ tx, pool.shared.draftsOf tx = [.consumed code, .joined result.channelId userId] := by
  obtain ⟨⟨-, hfits, -⟩, hholds⟩ := channelService_owning hreach
  have hpost := (channelService_owning (hreach.tail trivial hnext)).2 _
    (mem_of_getElem? hthread)
  obtain ⟨call, trace', o, rest, answer, w, hbefore, hexec, rfl⟩ := channelService.next_step hnext
  rw [List.getElem?_set_self (List.getElem?_eq_some_iff.mp hbefore).1] at hthread
  have hphase := channelProtocol.phase_step call trace' o rest answer
  rw [Option.some.inj hthread] at hphase
  have hmay := (hholds _ (mem_of_getElem? hbefore)).1
  have hdone : (channelProtocol.phase _).done = _ := hpost.2
  rw [hphase] at hdone
  rcases next_done (channelProtocol.phase ⟨call, trace', .op o rest⟩) o answer with
    hsame | ⟨tx, rfl, hcommit⟩
  · exact absurd (hdone.symm.trans (hsame.trans hmay.open_)) (by simp)
  · refine ⟨tx, ?_⟩
    rw [(hfits _ (mem_of_getElem? hbefore)).drafts tx (hmay.own tx rfl), ← hdone]
    refine (hcommit.trans ?_).symm
    rw [hmay.open_, nil_append]

theorem ChannelStore.Step.channel_vanishes {w w' : ChannelStore} {o : ChannelOp} {answer : o.Resp}
    (hstep : Step w o answer w') (hbefore : (w.channels.rows channelId).committed = some channel)
    (hafter : (w'.channels.rows channelId).committed = none) :
    ∃ tx, o = .commit tx ∧ (w.channels.rows channelId).written = some (tx, none) := by
  have hkept : ∀ {committed : Option Channel}, committed = some channel → committed ≠ none := by
    rintro _ rfl
    simp
  cases hstep with
  | commit tx =>
    refine ⟨tx, rfl, ?_⟩
    rcases (w.channels.rows channelId).committed_commit tx with
      ⟨version, hwritten, heq⟩ | ⟨-, heq⟩
    · rwa [← heq.symm.trans hafter]
    · exact absurd hafter (hkept (heq.trans hbefore))
  | insertChannel tx inserted hfresh =>
    simp only [committed_stage] at hafter
    exact absurd hafter (hkept hbefore)
  | deleteChannel hvisible hfree =>
    simp only [setChannels, committed_stage] at hafter
    exact absurd hafter (hkept hbefore)
  | insertMembership role onConflictDoNothing hfree hnone hvisible hchannel =>
    simp only [draft, setChannels, setMemberships, committed_share] at hafter
    exact absurd hafter (hkept hbefore)
  | _ => exact absurd hafter (hkept hbefore)

/-- **Every channel has one owner**, who is not banned and leaves only with the channel. -/
theorem channel_one_owner {pool : ChannelPool}
    (hreach : channelService.Reach (fun _ _ => True) ChannelPool.initial pool) {channelId : Uuid}
    {channel : Channel}
    (hchannel : (pool.shared.channels.rows channelId).committed = some channel) :
    (∃ row, (pool.shared.memberships.rows (channelId, channel.ownerUserId)).committed = some row
        ∧ row.role = .owner ∧ row.bannedAt = none)
      ∧ (∀ userId row, (pool.shared.memberships.rows (channelId, userId)).committed = some row →
        row.role = .owner → userId = channel.ownerUserId)
      ∧ ∀ i env pool', channelService.next pool (.step i env) = some pool' →
        (pool'.shared.memberships.rows (channelId, channel.ownerUserId)).committed = none →
        ∃ thread userId, pool.threads[i]? = some thread
          ∧ thread.call = .deleteChannel channelId userId := by
  obtain ⟨⟨⟨hregular, howned⟩, hfits, -⟩, hholds⟩ := channelService_owning hreach
  have hhas : (pool.shared.channels.rows channelId).Has channel := .inl hchannel
  refine ⟨?_, ?_, ?_⟩
  · obtain ⟨row, hrow⟩ := howned.present channelId channel hchannel
    exact ⟨row, hrow, (howned.role _ _ _ _ hhas (.inl hrow)).mpr rfl,
      howned.unbanned _ _ _ _ hhas (.inl hrow) rfl⟩
  · intro userId row hrow
    exact (howned.role _ _ _ _ hhas (.inl hrow)).mp
  · intro i env pool' hnext hgone
    obtain ⟨⟨⟨-, howned'⟩, -, -⟩, -⟩ := channelService_owning (hreach.tail trivial hnext)
    obtain ⟨call, trace, o, rest, answer, w, hthread, hexec, rfl⟩ := channelService.next_step hnext
    have hstep := ChannelOp.exec_step hexec
    have hmay := (hholds _ (mem_of_getElem? hthread)).1
    have hphase := hfits _ (mem_of_getElem? hthread)
    have hnone : (w.channels.rows channelId).committed = none := by
      by_contra hsome
      obtain ⟨channel', hchannel'⟩ := Option.ne_none_iff_exists'.mp hsome
      obtain ⟨row, hrow⟩ := howned'.present channelId channel' hchannel'
      have hbefore := hstep.channel_has (hregular.drawn_of_has hhas) (.inl hchannel')
      rw [howned.one channelId channel' channel hbefore hhas, hgone] at hrow
      cases hrow
    obtain ⟨tx, rfl, hwritten⟩ := hstep.channel_vanishes hchannel hnone
    have hdeleted := hphase.removed tx (hmay.own tx rfl) channelId hwritten
    obtain ⟨userId, hcall⟩ := hphase.caller channelId hdeleted
    exact ⟨_, userId, hthread, hcall⟩

/-- A channel of one owner, with an invite, and a second user who joins it. -/
def openLobby : List ChannelAct :=
  .start (.createChannel alice "lobby") :: List.replicate 4 (.step 0 { uuid := lobby })
    ++ .start (.createInvite lobby alice none none) :: List.replicate 4 (.step 1 { code := "code" })
    ++ .start (.joinChannelByInvite bob "code") :: List.replicate 6 (.step 2 {})

/-- The second member is made an admin while the owner tries to leave. -/
theorem channel_one_owner_admin :
    ∃ (pool : ChannelPool) (channel : Channel),
      (pool.shared.channels.rows lobby).committed = some channel
        ∧ (pool.shared.memberships.rows (lobby, bob)).committed = some ⟨.admin, none⟩
        ∧ (∃ row, (pool.shared.memberships.rows (lobby, channel.ownerUserId)).committed = some row
            ∧ row.role = .owner ∧ row.bannedAt = none)
        ∧ ∀ userId row, (pool.shared.memberships.rows (lobby, userId)).committed = some row →
            row.role = .owner → userId = channel.ownerUserId := by
  obtain ⟨pool, hreach, hsome, hadmin⟩ := System.exists_reach_of_replay channelService
    (fun _ _ => True) ChannelPool.initial
    (openLobby ++ .start (.leaveChannel lobby alice) :: .start (.changeRole lobby alice bob "admin")
      :: .replicate 3 (.step 4 {}) ++ .step 3 {} :: .replicate 2 (.step 4 {}))
    (fun pool => (pool.shared.channels.rows lobby).committed.isSome
      ∧ (pool.shared.memberships.rows (lobby, bob)).committed = some ⟨.admin, none⟩) (by decide)
  obtain ⟨channel, hchannel⟩ := Option.isSome_iff_exists.mp hsome
  obtain ⟨howner, honly, -⟩ := channel_one_owner hreach hchannel
  exact ⟨pool, channel, hchannel, hadmin, howner, honly⟩

end Wavis
