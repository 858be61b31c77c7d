import Wavis.Proof.ChannelOps

namespace Wavis

open Concurrency ChannelStore Table

def ChannelStore.draftsOf (w : ChannelStore) (tx : TxId) : List ChannelEvent :=
  (w.drafts.filter fun draft => draft.1 = tx).map (·.2)

structure ChannelStore.Regular (w : ChannelStore) : Prop where
  blank : ∀ channelId, channelId ∉ w.drawn →
    (w.channels.rows channelId).committed = none ∧ (w.channels.rows channelId).written = none
  member_drawn : ∀ channelId userId row, (w.memberships.rows (channelId, userId)).Has row →
    channelId ∈ w.drawn
  channels_begun : ∀ channelId tx version,
    (w.channels.rows channelId).written = some (tx, version) → tx < w.nextTx
  memberships_begun : ∀ key tx version,
    (w.memberships.rows key).written = some (tx, version) → tx < w.nextTx
  invites_begun : ∀ code tx version,
    (w.invites.rows code).written = some (tx, version) → tx < w.nextTx
  drafts_begun : ∀ draft ∈ w.drafts, draft.1 < w.nextTx

namespace ChannelStore

variable {tx' tx : TxId} {w w' : ChannelStore} {o : ChannelOp} {answer : o.Resp}
  {drafts : List (TxId × ChannelEvent)} {channel : Channel} {channelId : Uuid}
  (events : List ChannelEvent)

theorem draftsOf_draft_self : (w.draft tx events).draftsOf tx = w.draftsOf tx ++ events := by
  simp [draftsOf, draft, List.filter_map, Function.comp_def]

theorem draftsOf_draft_ne (hne : tx' ≠ tx) : (w.draft tx' events).draftsOf tx = w.draftsOf tx := by
  simp [draftsOf, draft, List.filter_map, Function.comp_def, hne]

theorem draftsOf_end_self :
    ((drafts.filter fun draft => draft.1 ≠ tx).filter fun draft => draft.1 = tx) = [] := by
  simp [List.filter_filter]

theorem draftsOf_end_ne (hne : tx' ≠ tx) :
    ((drafts.filter fun draft => draft.1 ≠ tx').filter fun draft => draft.1 = tx)
      = drafts.filter fun draft => draft.1 = tx := by
  rw [List.filter_filter]
  refine List.filter_congr fun draft _ => ?_
  by_cases h : draft.1 = tx
  · simp [h, hne.symm]
  · simp [h]

theorem draftsOf_commit_self : (w.commit tx).draftsOf tx = [] := congrArg _ draftsOf_end_self

theorem draftsOf_commit_ne (hne : tx' ≠ tx) : (w.commit tx).draftsOf tx' = w.draftsOf tx' :=
  congrArg _ (draftsOf_end_ne hne.symm)

theorem draftsOf_rollback_self : (w.rollback tx).draftsOf tx = [] := congrArg _ draftsOf_end_self

theorem draftsOf_rollback_ne (hne : tx' ≠ tx) : (w.rollback tx).draftsOf tx' = w.draftsOf tx' :=
  congrArg _ (draftsOf_end_ne hne.symm)

namespace Step

section

variable (h : Step w o answer w')
include h

theorem channels_written (hregular : w.Regular) (hne : o.tx ≠ some tx) {version : Option Channel} :
    (w'.channels.rows channelId).written = some (tx, version)
      ↔ (w.channels.rows channelId).written = some (tx, version) := by
  cases h with
  | commit tx' => exact Row.written_commit_iff (ne_of_apply_ne some hne)
  | failedCommit tx' e | rollback tx' =>
    exact Row.written_rollback_iff (ne_of_apply_ne some hne)
  | insertChannel tx' channel hfresh =>
    exact written_stage_iff _ (by simp [Row.Free, (hregular.blank _ hfresh).2])
      (ne_of_apply_ne some hne)
  | deleteChannel hvisible hfree =>
    exact written_stage_iff _ hfree (ne_of_apply_ne some hne)
  | insertMembership role onConflictDoNothing hfree hnone hvisible hchannel =>
    simp only [draft, setChannels, written_share]
  | _ => rfl

theorem memberships_written (hne : o.tx ≠ some tx) {key : Uuid × Uuid}
    {version : Option ChannelMembership} :
    (w'.memberships.rows key).written = some (tx, version)
      ↔ (w.memberships.rows key).written = some (tx, version) := by
  cases h with
  | commit tx' => exact Row.written_commit_iff (ne_of_apply_ne some hne)
  | failedCommit tx' e | rollback tx' =>
    exact Row.written_rollback_iff (ne_of_apply_ne some hne)
  | deleteMember hfree | insertMembership role onConflictDoNothing hfree hnone hvisible hchannel
  | updateMembership edit hvisible hfree =>
    exact written_stage_iff _ hfree (ne_of_apply_ne some hne)
  | deleteMembership hvisible hfree =>
    simp only [record, setMemberships, written_put]
  | _ => rfl

theorem invites_written (hne : o.tx ≠ some tx) {code : String} {version : Option ChannelInvite} :
    (w'.invites.rows code).written = some (tx, version)
      ↔ (w.invites.rows code).written = some (tx, version) := by
  cases h with
  | commit tx' => exact Row.written_commit_iff (ne_of_apply_ne some hne)
  | failedCommit tx' e | rollback tx' =>
    exact Row.written_rollback_iff (ne_of_apply_ne some hne)
  | deleteItsInvite hfree | consumeInvite hvisible husable hfree =>
    exact written_stage_iff _ hfree (ne_of_apply_ne some hne)
  | insertInvite hmax hfree =>
    simp only [record, setInvites, written_put]
  | deleteInvite hfree =>
    simp only [setInvites, written_put]
  | _ => rfl

theorem draftsOf_eq (hne : o.tx ≠ some tx) : w'.draftsOf tx = w.draftsOf tx := by
  cases h with
  | commit tx' | failedCommit tx' e | rollback tx' =>
    exact congrArg _ (draftsOf_end_ne (ne_of_apply_ne some hne))
  | insertMembership role onConflictDoNothing hfree hnone hvisible hchannel
  | updateMembership edit hvisible hfree | consumeInvite hvisible husable hfree =>
    exact draftsOf_draft_ne _ (ne_of_apply_ne some hne)
  | _ => rfl

theorem drawn_subset (hmem : channelId ∈ w.drawn) : channelId ∈ w'.drawn := by
  cases h with
  | insertChannel tx channel hfresh => exact List.mem_cons_of_mem _ hmem
  | _ => exact hmem

theorem log_subset {event : ChannelEvent} (hmem : event ∈ w.log) : event ∈ w'.log := by
  cases h with
  | commit tx | deleteMembership hvisible hfree | insertInvite hmax hfree =>
    exact List.mem_append_left _ hmem
  | _ => exact hmem

theorem nextTx_le : w.nextTx ≤ w'.nextTx := by
  cases h with
  | begin now => exact Nat.le_succ _
  | _ => exact Nat.le_refl _

theorem channel_has (hdrawn : channelId ∈ w.drawn)
    (hhas : (w'.channels.rows channelId).Has channel) :
    (w.channels.rows channelId).Has channel := by
  cases h with
  | commit tx => exact Row.has_commit hhas
  | failedCommit tx e | rollback tx => exact Row.has_rollback hhas
  | insertChannel tx channel' hfresh =>
    have hid : channelId ≠ channel'.channelId := fun heq => hfresh (heq ▸ hdrawn)
    rwa [stage, rows_modify_ne _ _ hid] at hhas
  | deleteChannel hvisible hfree =>
    rcases has_stage _ hhas with hold | ⟨-, hnew⟩
    · exact hold
    · cases hnew
  | insertMembership role onConflictDoNothing hfree hnone hvisible hchannel =>
    exact has_share _ hhas
  | _ => exact hhas

theorem membership_has {userId : Uuid} {row : ChannelMembership}
    (hhas : (w'.memberships.rows (channelId, userId)).Has row) :
    (w.memberships.rows (channelId, userId)).Has row
      ∨ (∃ tx role onConflictDoNothing,
          o = .insertMembership tx channelId userId role onConflictDoNothing
            ∧ row = ⟨role, none⟩ ∧ (w.memberships.rows (channelId, userId)).Free (some tx)
            ∧ (w.memberships.rows (channelId, userId)).visible (some tx) = none
            ∧ (w.channels.rows channelId).visible (some tx) ≠ none
            ∧ (w.channels.rows channelId).Free (some tx))
      ∨ ∃ tx edit row₀, o = .updateMembership tx channelId userId edit
          ∧ row = MembershipEdit.apply edit row₀
          ∧ (w.memberships.rows (channelId, userId)).Has row₀ := by
  cases h with
  | commit tx => exact .inl (Row.has_commit hhas)
  | failedCommit tx e | rollback tx => exact .inl (Row.has_rollback hhas)
  | deleteMember hfree =>
    rcases has_stage _ hhas with hold | ⟨-, hnew⟩
    · exact .inl hold
    · cases hnew
  | @insertMembership tx channelId' userId' role onConflict hfree hnone hvisible hchannel =>
    rcases has_stage _ hhas with hold | ⟨hkey, hnew⟩
    · exact .inl hold
    · cases hkey
      cases hnew
      exact .inr (.inl ⟨tx, role, onConflict, rfl, rfl, hfree, hnone, hvisible, hchannel⟩)
  | @updateMembership tx channelId' userId' edit row₀ hvisible hfree =>
    rcases has_stage _ hhas with hold | ⟨hkey, hnew⟩
    · exact .inl hold
    · cases hkey
      cases hnew
      exact .inr (.inr ⟨tx, edit, row₀, rfl, rfl, Row.has_of_visible hvisible⟩)
  | deleteMembership hvisible hfree =>
    rcases has_put _ hhas with hold | ⟨-, hnew⟩
    · exact .inl hold
    · cases hnew
  | _ => exact .inl hhas

end

end Step

theorem Regular.drawn_of_visible (h : w.Regular) {tx : Option TxId}
    (hvisible : (w.channels.rows channelId).visible tx ≠ none) : channelId ∈ w.drawn := by
  by_contra hfresh
  obtain ⟨hcommitted, hwritten⟩ := h.blank channelId hfresh
  exact hvisible ((Row.visible_of_unwritten hwritten).trans hcommitted)

theorem Regular.drawn_of_has (h : w.Regular) (hhas : (w.channels.rows channelId).Has channel) :
    channelId ∈ w.drawn := by
  by_contra hfresh
  obtain ⟨hcommitted, hwritten⟩ := h.blank channelId hfresh
  rcases hhas with hc | ⟨tx, hw⟩
  · rw [hcommitted] at hc
    cases hc
  · rw [hwritten] at hw
    cases hw

section

variable (h : w.Regular) (hstep : Step w o answer w') (hbegun : ∀ tx ∈ o.tx, tx < w.nextTx)
include h hstep hbegun

omit h in
theorem Step.begun (hold : o.tx ≠ some tx → tx < w.nextTx) : tx < w'.nextTx := by
  refine Nat.lt_of_lt_of_le ?_ hstep.nextTx_le
  by_cases hown : o.tx = some tx
  · exact hbegun tx hown
  · exact hold hown

theorem Regular.step_channels_begun (channelId : Uuid) (tx : TxId) (version : Option Channel)
    (hwritten : (w'.channels.rows channelId).written = some (tx, version)) : tx < w'.nextTx :=
  hstep.begun hbegun fun hown =>
    h.channels_begun _ _ _ ((hstep.channels_written h hown).mp hwritten)

theorem Regular.step_memberships_begun (key : Uuid × Uuid) (tx : TxId)
    (version : Option ChannelMembership)
    (hwritten : (w'.memberships.rows key).written = some (tx, version)) : tx < w'.nextTx :=
  hstep.begun hbegun fun hown =>
    h.memberships_begun _ _ _ ((hstep.memberships_written hown).mp hwritten)

theorem Regular.step_invites_begun (code : String) (tx : TxId) (version : Option ChannelInvite)
    (hwritten : (w'.invites.rows code).written = some (tx, version)) : tx < w'.nextTx :=
  hstep.begun hbegun fun hown =>
    h.invites_begun _ _ _ ((hstep.invites_written hown).mp hwritten)

theorem Regular.step_drafts_begun (draft : TxId × ChannelEvent) (hmem : draft ∈ w'.drafts) :
    draft.1 < w'.nextTx := by
  refine hstep.begun hbegun fun hown => ?_
  have hdraft : draft.2 ∈ w'.draftsOf draft.1 :=
    List.mem_map.mpr ⟨draft, List.mem_filter.mpr ⟨hmem, by simp⟩, rfl⟩
  rw [hstep.draftsOf_eq hown] at hdraft
  obtain ⟨before, hbefore, -⟩ := List.mem_map.mp hdraft
  rw [List.mem_filter] at hbefore
  have hlt := h.drafts_begun before hbefore.1
  rwa [of_decide_eq_true hbefore.2] at hlt

omit hbegun in
theorem Regular.step_blank (channelId : Uuid) (hfresh : channelId ∉ w'.drawn) :
    (w'.channels.rows channelId).committed = none
      ∧ (w'.channels.rows channelId).written = none := by
  have hbefore := h.blank channelId fun hmem => hfresh (hstep.drawn_subset hmem)
  cases hstep with
  | commit tx => simp [commit, Row.commit, hbefore]
  | failedCommit tx e => simp [rollback, Row.rollback, hbefore]
  | rollback tx => simp [rollback, Row.rollback, hbefore]
  | insertChannel tx channel hnew =>
    have hid : channelId ≠ channel.channelId := fun heq => hfresh (heq ▸ List.mem_cons_self)
    simpa only [Table.stage, Table.rows_modify_ne _ _ hid] using hbefore
  | @deleteChannel tx deleted hvisible hfree =>
    have hid : channelId ≠ deleted := fun heq =>
      hvisible (heq ▸ (Row.visible_of_unwritten hbefore.2).trans hbefore.1)
    simpa only [setChannels, Table.stage, Table.rows_modify_ne _ _ hid] using hbefore
  | insertMembership role onConflictDoNothing hfree hnone hvisible hchannel =>
    simp only [draft, setChannels, Table.share, Table.rows_modify]
    split_ifs <;> exact hbefore
  | _ => exact hbefore

omit hbegun in
theorem Regular.step_member_drawn (channelId userId : Uuid) (row : ChannelMembership)
    (hhas : (w'.memberships.rows (channelId, userId)).Has row) : channelId ∈ w'.drawn := by
  refine hstep.drawn_subset ?_
  rcases hstep.membership_has hhas with hold | ⟨tx, role, b, rfl, -, -, -, hvisible, -⟩
    | ⟨tx, edit, row₀, -, -, hold⟩
  · exact h.member_drawn _ _ _ hold
  · exact h.drawn_of_visible hvisible
  · exact h.member_drawn _ _ _ hold

theorem Regular.step : w'.Regular where
  blank := h.step_blank hstep
  member_drawn := h.step_member_drawn hstep
  channels_begun := h.step_channels_begun hstep hbegun
  memberships_begun := h.step_memberships_begun hstep hbegun
  invites_begun := h.step_invites_begun hstep hbegun
  drafts_begun := h.step_drafts_begun hstep hbegun

end

theorem regular_empty : ChannelStore.empty.Regular where
  blank _ _ := ⟨rfl, rfl⟩
  member_drawn _ _ _ hhas := by
    rcases hhas with hc | ⟨tx, hw⟩
    · cases hc
    · cases hw
  channels_begun _ _ _ hwritten := by cases hwritten
  memberships_begun _ _ _ hwritten := by cases hwritten
  invites_begun _ _ _ hwritten := by cases hwritten
  drafts_begun _ hmem := by cases hmem

end ChannelStore

end Wavis
