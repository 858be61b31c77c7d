import Wavis.Concurrency.Ledger
import Wavis.Concurrency.Ownership
import Wavis.Proof.ChannelProtocol

/-! What is known of a request concerns rows that its transaction has locked, or ids that are drawn
only once, so the statements of other requests cannot change it. -/

namespace Wavis

open Concurrency ChannelStore ChannelPhase

namespace ChannelPhase

structure Fits (w : ChannelStore) (call : ChannelCall) (φ : ChannelPhase) : Prop where
  known : ∀ tx ∈ φ.tx, tx < w.nextTx
  closed : φ.tx = none → φ.drafts = []
  drafts : ∀ tx ∈ φ.tx, w.draftsOf tx = φ.drafts
  deleted : ∀ channelId ∈ φ.deleted, ∃ tx, φ.tx = some tx
    ∧ (w.channels.rows channelId).written = some (tx, none)
  caller : ∀ channelId ∈ φ.deleted, ∃ userId, call = .deleteChannel channelId userId
  dependents : ∀ channelId userId, .membership channelId userId ∈ φ.dependents →
    φ.deleted = some channelId
  removed : ∀ tx ∈ φ.tx, ∀ channelId, (w.channels.rows channelId).written = some (tx, none) →
    φ.deleted = some channelId
  removal : ∀ tx ∈ φ.tx, ∀ channelId userId,
    (w.memberships.rows (channelId, userId)).written = some (tx, none) → φ.deleted = some channelId
  founder : ∀ channelId userId, φ.founding = some (channelId, userId) → ∃ tx channel,
    φ.tx = some tx ∧ (w.channels.rows channelId).written = some (tx, some channel)
      ∧ channel.ownerUserId = userId
  founding : ∀ tx ∈ φ.tx, ∀ channelId channel,
    (w.channels.rows channelId).written = some (tx, some channel) →
    (∃ row, (w.memberships.rows (channelId, channel.ownerUserId)).written = some (tx, some row))
      ∨ φ.founding = some (channelId, channel.ownerUserId)
  outsider : ∀ channelId userId row, ((channelId, userId), row) ∈ φ.seen → row.role ≠ .owner →
    channelId ∈ w.drawn ∧ ∀ channel, (w.channels.rows channelId).Has channel →
      channel.ownerUserId ≠ userId
  noted : ∀ event ∈ φ.done, event ∈ w.log

variable {w w' : ChannelStore} {o : ChannelOp} {answer : o.Resp} {call : ChannelCall}
  {φ : ChannelPhase}

theorem next_idle (h : o.idle answer = true) : φ.next o answer = φ := by
  cases o with
  | begin =>
    cases answer with
    | error e => rfl
    | ok _ => cases h
  | commit tx | rollback tx => cases h
  | insertChannel tx name ownerUserId now =>
    cases answer with
    | error e => rfl
    | ok _ => cases h
  | deleteChannel tx channelId =>
    match answer with
    | .error e | .ok false => rfl
    | .ok true => cases h
  | selectDependents tx channelId =>
    cases answer with
    | error e => rfl
    | ok _ => cases h
  | selectMembership tx channelId userId =>
    match answer with
    | .error e | .ok none => rfl
    | .ok (some row) => cases h
  | insertMembership tx channelId userId role onConflictDoNothing =>
    cases answer with
    | error e => rfl
    | ok inserted => exact if_pos h
  | updateMembership tx channelId userId edit =>
    match answer with
    | .error e | .ok none => rfl
    | .ok (some row) => cases h
  | consumeInvite tx code now =>
    match answer with
    | .error e | .ok none => rfl
    | .ok (some channelId) => cases h
  | _ => rfl

theorem next_tx (h : Step w o answer w') {tx : TxId} (htx : (φ.next o answer).tx = some tx) :
    φ.tx = some tx ∨ tx = w.nextTx := by
  cases h with
  | same hidle =>
    rw [next_idle hidle] at htx
    exact .inl htx
  | begin now =>
    cases htx
    exact .inr rfl
  | commit tx | failedCommit tx e | rollback tx => cases htx
  | insertMembership role onConflictDoNothing hfree hnone hvisible hchannel =>
    simp only [next, Bool.not_true, Bool.and_false] at htx
    exact .inl htx
  | _ => exact .inl htx

theorem next_done (φ : ChannelPhase) (o : ChannelOp) (answer : o.Resp) :
    (φ.next o answer).done = φ.done
      ∨ ∃ tx, o = .commit tx ∧ (φ.next o answer).done = φ.done ++ φ.drafts := by
  cases o with
  | commit tx =>
    cases answer with
    | error e => exact .inl rfl
    | ok _ => exact .inr ⟨tx, rfl, rfl⟩
  | insertMembership tx channelId userId role onConflictDoNothing =>
    cases answer with
    | error e => exact .inl rfl
    | ok inserted =>
      refine .inl ?_
      simp only [next]
      split_ifs <;> rfl
  | begin | insertChannel tx name ownerUserId now => cases answer <;> exact .inl rfl
  | deleteChannel tx channelId =>
    rcases answer with e | _ | _ <;> exact .inl rfl
  | selectDependents tx channelId => cases answer <;> exact .inl rfl
  | selectMembership tx channelId userId | updateMembership tx channelId userId edit
  | consumeInvite tx code now =>
    rcases answer with e | _ | _ <;> exact .inl rfl
  | _ => exact .inl rfl

namespace Fits

theorem initial (w : ChannelStore) (call : ChannelCall) : Fits w call .initial where
  known _ htx := by cases htx
  closed _ := rfl
  drafts _ htx := by cases htx
  deleted _ hdeleted := by cases hdeleted
  caller _ hdeleted := by cases hdeleted
  dependents _ _ hmem := by cases hmem
  removed _ htx := by cases htx
  removal _ htx := by cases htx
  founder _ _ hfounding := by cases hfounding
  founding _ htx := by cases htx
  outsider _ _ _ hmem := by cases hmem
  noted _ hmem := by cases hmem

theorem other (h : Fits w call φ) (hregular : w.Regular) (hstep : Step w o answer w')
    (hne : ∀ tx ∈ φ.tx, o.tx ≠ some tx) : Fits w' call φ where
  known tx htx := Nat.lt_of_lt_of_le (h.known tx htx) hstep.nextTx_le
  closed := h.closed
  drafts tx htx := (hstep.draftsOf_eq (hne tx htx)).trans (h.drafts tx htx)
  deleted channelId hdeleted := by
    obtain ⟨tx, htx, hwritten⟩ := h.deleted channelId hdeleted
    exact ⟨tx, htx, (hstep.channels_written hregular (hne tx htx)).mpr hwritten⟩
  caller := h.caller
  dependents := h.dependents
  removed tx htx channelId hwritten :=
    h.removed tx htx channelId ((hstep.channels_written hregular (hne tx htx)).mp hwritten)
  removal tx htx channelId userId hwritten :=
    h.removal tx htx channelId userId ((hstep.memberships_written (hne tx htx)).mp hwritten)
  founder channelId userId hfounding := by
    obtain ⟨tx, channel, htx, hwritten, howner⟩ := h.founder channelId userId hfounding
    exact ⟨tx, channel, htx, (hstep.channels_written hregular (hne tx htx)).mpr hwritten, howner⟩
  founding tx htx channelId channel hwritten := by
    rcases h.founding tx htx channelId channel
      ((hstep.channels_written hregular (hne tx htx)).mp hwritten) with ⟨row, hrow⟩ | hfounding
    · exact .inl ⟨row, (hstep.memberships_written (hne tx htx)).mpr hrow⟩
    · exact .inr hfounding
  outsider channelId userId row hmem hrole := by
    obtain ⟨hdrawn, howner⟩ := h.outsider channelId userId row hmem hrole
    exact ⟨hstep.drawn_subset hdrawn, fun channel hhas =>
      howner channel (hstep.channel_has hdrawn hhas)⟩
  noted event hmem := hstep.log_subset (h.noted event hmem)

theorem ended (h : Fits w call φ) (hstep : Step w o answer w') {done : List ChannelEvent}
    (hdone : ∀ event ∈ done, event ∈ w'.log) : Fits w' call { φ.ended with done } where
  known _ htx := by cases htx
  closed _ := rfl
  drafts _ htx := by cases htx
  deleted _ hdeleted := by cases hdeleted
  caller _ hdeleted := by cases hdeleted
  dependents _ _ hmem := by cases hmem
  removed _ htx := by cases htx
  removal _ htx := by cases htx
  founder _ _ hfounding := by cases hfounding
  founding _ htx := by cases htx
  outsider channelId userId row hmem hrole := by
    obtain ⟨hdrawn, howner⟩ := h.outsider channelId userId row hmem hrole
    exact ⟨hstep.drawn_subset hdrawn, fun channel hhas =>
      howner channel (hstep.channel_has hdrawn hhas)⟩
  noted := hdone

end Fits

end ChannelPhase

section

variable {tx : TxId} {channelId userId : Uuid} {w w' : ChannelStore} {o : ChannelOp}
  {answer : o.Resp} {call : ChannelCall} {φ : ChannelPhase}

theorem ChannelPhase.May.begun (hmay : May call φ o) (h : Fits w call φ) :
    ∀ tx ∈ o.tx, tx < w.nextTx :=
  fun tx htx => h.known tx (hmay.own tx htx)

theorem ChannelStore.mem_dependents {channelId' : Uuid}
    (h : .membership channelId' userId ∈ w.dependents tx channelId) : channelId' = channelId := by
  rcases List.mem_append.mp h with hmember | hinvite
  · obtain ⟨key, hkey, heq⟩ := List.mem_map.mp hmember
    cases heq
    simp only [Table.scan, List.mem_filter, Option.any_eq_true, decide_eq_true_eq] at hkey
    obtain ⟨-, row, -, hid⟩ := hkey
    exact hid
  · obtain ⟨code, -, heq⟩ := List.mem_map.mp hinvite
    cases heq

theorem ChannelPhase.Fits.insertChannel (h : Fits w call φ) (hregular : w.Regular)
    {channel : Channel} (hfresh : channel.channelId ∉ w.drawn) (hφ : φ.founding = none)
    (htx : φ.tx = some tx)
    (hstep : Step w (.insertChannel tx channel.name channel.ownerUserId channel.createdAt)
      (.ok channel.channelId) w')
    (hchannels : w'.channels = w.channels.stage tx channel.channelId (some channel))
    (hmemberships : w'.memberships = w.memberships) (hdrafts : w'.drafts = w.drafts) :
    Fits w' call { φ with founding := some (channel.channelId, channel.ownerUserId) } := by
  have hblank := hregular.blank _ hfresh
  have hrow : ∀ channelId, channelId ≠ channel.channelId →
      w'.channels.rows channelId = w.channels.rows channelId := by
    intro channelId hne
    rw [hchannels, Table.stage, Table.rows_modify_ne _ _ hne]
  have hself : (w'.channels.rows channel.channelId).written = some (tx, some channel) := by
    rw [hchannels, Table.stage, Table.rows_modify_self, Row.written_stage]
  constructor
  · exact fun tx htx => Nat.lt_of_lt_of_le (h.known tx htx) hstep.nextTx_le
  · exact h.closed
  · intro tx' htx'
    rw [draftsOf, hdrafts]
    exact h.drafts tx' htx'
  · intro channelId hdeleted
    obtain ⟨tx', htx', hwritten⟩ := h.deleted channelId hdeleted
    refine ⟨tx', htx', ?_⟩
    rw [hrow channelId (fun heq => by rw [heq, hblank.2] at hwritten; cases hwritten)]
    exact hwritten
  · exact h.caller
  · exact h.dependents
  · intro tx' htx' channelId hwritten
    by_cases hid : channelId = channel.channelId
    · rw [hid, hself] at hwritten
      cases hwritten
    · rw [hrow channelId hid] at hwritten
      exact h.removed tx' htx' channelId hwritten
  · intro tx' htx' channelId userId hwritten
    rw [hmemberships] at hwritten
    exact h.removal tx' htx' channelId userId hwritten
  · rintro channelId userId hfounding
    cases hfounding
    exact ⟨tx, channel, htx, hself, rfl⟩
  · intro tx' htx' channelId channel' hwritten
    by_cases hid : channelId = channel.channelId
    · subst hid
      rw [hself] at hwritten
      cases hwritten
      exact .inr rfl
    · rw [hrow channelId hid] at hwritten
      rw [hmemberships]
      rcases h.founding tx' htx' channelId channel' hwritten with hrow' | hfounding
      · exact .inl hrow'
      · rw [hφ] at hfounding
        cases hfounding
  · intro channelId userId row hmem hrole
    obtain ⟨hdrawn, howner⟩ := h.outsider channelId userId row hmem hrole
    exact ⟨hstep.drawn_subset hdrawn, fun channel hhas =>
      howner channel (hstep.channel_has hdrawn hhas)⟩
  · exact fun event hmem => hstep.log_subset (h.noted event hmem)

section

variable {φ' : ChannelPhase} (h : Fits w call φ) (hstep : Step w o answer w') (htx : φ'.tx = φ.tx)
  (hdeleted : φ'.deleted = φ.deleted) (hdependents : φ'.dependents = φ.dependents)
  (hseen : φ'.seen = φ.seen) (hdone : φ'.done = φ.done)
include h hstep htx hdeleted hdependents hseen hdone

theorem ChannelPhase.Fits.write
    (hdrafts : ∀ tx ∈ φ.tx, w'.draftsOf tx = φ'.drafts) (hclosed : φ.tx = none → φ'.drafts = [])
    (hchannels : ∀ channelId,
      (w'.channels.rows channelId).written = (w.channels.rows channelId).written)
    (hremoval : ∀ tx ∈ φ.tx, ∀ channelId userId,
      (w'.memberships.rows (channelId, userId)).written = some (tx, none) →
      (w.memberships.rows (channelId, userId)).written = some (tx, none)
        ∨ φ.deleted = some channelId)
    (hfounder : φ'.founding = none ∨ φ'.founding = φ.founding)
    (hfounding : ∀ tx ∈ φ.tx, ∀ channelId channel,
      (w.channels.rows channelId).written = some (tx, some channel) →
      (∃ row, (w.memberships.rows (channelId, channel.ownerUserId)).written = some (tx, some row))
        ∨ φ.founding = some (channelId, channel.ownerUserId) →
      (∃ row, (w'.memberships.rows (channelId, channel.ownerUserId)).written = some (tx, some row))
        ∨ φ'.founding = some (channelId, channel.ownerUserId)) :
    Fits w' call φ' := by
  constructor
  · intro tx hown
    exact Nat.lt_of_lt_of_le (h.known tx (htx ▸ hown)) hstep.nextTx_le
  · exact fun hnone => hclosed (htx ▸ hnone)
  · exact fun tx hown => hdrafts tx (htx ▸ hown)
  · intro channelId hmem
    rw [hdeleted] at hmem
    obtain ⟨tx, hown, hwritten⟩ := h.deleted channelId hmem
    exact ⟨tx, htx.trans hown, (hchannels channelId).trans hwritten⟩
  · rw [hdeleted]
    exact h.caller
  · rw [hdependents, hdeleted]
    exact h.dependents
  · intro tx hown channelId hwritten
    rw [hchannels] at hwritten
    rw [hdeleted]
    exact h.removed tx (htx ▸ hown) channelId hwritten
  · intro tx hown channelId userId hwritten
    rw [hdeleted]
    rcases hremoval tx (htx ▸ hown) channelId userId hwritten with hold | hgone
    · exact h.removal tx (htx ▸ hown) channelId userId hold
    · exact hgone
  · intro channelId userId hsome
    rcases hfounder with hnone | hsame
    · rw [hnone] at hsome
      cases hsome
    · obtain ⟨tx, channel, hown, hwritten, howner⟩ := h.founder channelId userId (hsame ▸ hsome)
      exact ⟨tx, channel, htx.trans hown, (hchannels channelId).trans hwritten, howner⟩
  · intro tx hown channelId channel hwritten
    rw [hchannels] at hwritten
    exact hfounding tx (htx ▸ hown) channelId channel hwritten
      (h.founding tx (htx ▸ hown) channelId channel hwritten)
  · intro channelId userId row hmem hrole
    obtain ⟨hdrawn, howner⟩ := h.outsider channelId userId row (hseen ▸ hmem) hrole
    exact ⟨hstep.drawn_subset hdrawn, fun channel hhas =>
      howner channel (hstep.channel_has hdrawn hhas)⟩
  · rw [hdone]
    exact fun event hmem => hstep.log_subset (h.noted event hmem)

theorem ChannelPhase.Fits.keep (hfounding : φ'.founding = φ.founding)
    (hdrafts : ∀ tx ∈ φ.tx, w'.draftsOf tx = φ'.drafts) (hclosed : φ.tx = none → φ'.drafts = [])
    (hchannels : ∀ channelId,
      (w'.channels.rows channelId).written = (w.channels.rows channelId).written)
    (hmemberships : ∀ key, (w'.memberships.rows key).written = (w.memberships.rows key).written) :
    Fits w' call φ' := by
  refine h.write hstep htx hdeleted hdependents hseen hdone hdrafts hclosed hchannels ?_
    (.inr hfounding) ?_
  · intro tx hown channelId userId hwritten
    exact .inl (hmemberships _ ▸ hwritten)
  · intro tx hown channelId channel hwritten hrow
    rw [hmemberships, hfounding]
    exact hrow

end

theorem ChannelPhase.Fits.begin (h : Fits w call φ) (hregular : w.Regular) (hφ : φ.tx = none) :
    Fits { w with nextTx := w.nextTx + 1 } call { φ with tx := some w.nextTx } where
  known tx htx := by
    cases htx
    exact Nat.lt_succ_self _
  closed hnone := by cases hnone
  drafts tx htx := by
    cases htx
    have hnone : w.draftsOf w.nextTx = [] := by
      simp only [draftsOf, List.map_eq_nil_iff, List.filter_eq_nil_iff, decide_eq_true_eq]
      exact fun draft hmem => Nat.ne_of_lt (hregular.drafts_begun draft hmem)
    exact hnone.trans (h.closed hφ).symm
  deleted channelId hdeleted := by
    obtain ⟨tx, htx, -⟩ := h.deleted channelId hdeleted
    rw [hφ] at htx
    cases htx
  caller := h.caller
  dependents := h.dependents
  removed tx htx channelId hwritten := by
    cases htx
    exact absurd (hregular.channels_begun _ _ _ hwritten) (Nat.lt_irrefl _)
  removal tx htx channelId userId hwritten := by
    cases htx
    exact absurd (hregular.memberships_begun _ _ _ hwritten) (Nat.lt_irrefl _)
  founder channelId userId hfounding := by
    obtain ⟨tx, channel, htx, -⟩ := h.founder channelId userId hfounding
    rw [hφ] at htx
    cases htx
  founding tx htx channelId channel hwritten := by
    cases htx
    exact absurd (hregular.channels_begun _ _ _ hwritten) (Nat.lt_irrefl _)
  outsider := h.outsider
  noted := h.noted

theorem ChannelPhase.Fits.deleteChannel (h : Fits w (.deleteChannel channelId userId) φ)
    (htx : φ.tx = some tx) (hφ : φ.founding = none)
    (hstep : Step w (.deleteChannel tx channelId) (.ok true)
      (w.setChannels (w.channels.stage tx channelId none))) :
    Fits (w.setChannels (w.channels.stage tx channelId none)) (.deleteChannel channelId userId)
      { φ with deleted := some channelId } := by
  have hself : ∀ other, φ.deleted = some other → some channelId = some other := by
    intro other hother
    obtain ⟨_, hcall⟩ := h.caller other hother
    cases hcall
    rfl
  have hrow : ∀ other, other ≠ channelId →
      (w.setChannels (w.channels.stage tx channelId none)).channels.rows other
        = w.channels.rows other :=
    fun other hne => by rw [setChannels, Table.stage, Table.rows_modify_ne _ _ hne]
  have hwritten : ((w.setChannels (w.channels.stage tx channelId none)).channels.rows
      channelId).written = some (tx, none) := by
    simp [setChannels, Table.stage]
  constructor
  · exact h.known
  · exact h.closed
  · exact h.drafts
  · rintro other hother
    cases hother
    exact ⟨tx, htx, hwritten⟩
  · rintro other hother
    cases hother
    exact ⟨userId, rfl⟩
  · exact fun other userId' hmem => hself other (h.dependents other userId' hmem)
  · intro tx' htx' other hother
    by_cases hid : other = channelId
    · exact congrArg some hid.symm
    · rw [hrow other hid] at hother
      exact hself other (h.removed tx' htx' other hother)
  · exact fun tx' htx' other userId' hother => hself other (h.removal tx' htx' other userId' hother)
  · intro other userId' hfounding
    rw [hφ] at hfounding
    cases hfounding
  · intro tx' htx' other channel hother
    by_cases hid : other = channelId
    · rw [hid, hwritten] at hother
      cases hother
    · rw [hrow other hid] at hother
      exact h.founding tx' htx' other channel hother
  · intro other userId' row hmem hrole
    obtain ⟨hdrawn, howner⟩ := h.outsider other userId' row hmem hrole
    exact ⟨hdrawn, fun channel hhas => howner channel (hstep.channel_has hdrawn hhas)⟩
  · exact h.noted

/-- The channel was deleted, and no channel comes back. -/
def ChannelStore.Gone (w : ChannelStore) (channelId : Uuid) : Prop :=
  channelId ∈ w.drawn ∧ ∀ channel, ¬ (w.channels.rows channelId).Has channel

theorem ChannelStore.Step.gone (hstep : Step w o answer w') (h : w.Gone channelId) :
    w'.Gone channelId :=
  ⟨hstep.drawn_subset h.1, fun channel hhas => h.2 channel (hstep.channel_has h.1 hhas)⟩

/-- A membership that a transaction has removed goes with its channel when it commits. -/
theorem ChannelPhase.Fits.gone_of_removed (h : Fits w call φ) (hregular : w.Regular)
    (htx : φ.tx = some tx)
    (hwritten : (w.memberships.rows (channelId, userId)).written = some (tx, none)) :
    (w.commit tx).Gone channelId := by
  obtain ⟨tx', htx', hdeleted⟩ := h.deleted channelId (h.removal tx htx channelId userId hwritten)
  cases htx.symm.trans htx'
  constructor
  · by_contra hfresh
    rw [(hregular.blank channelId hfresh).2] at hdeleted
    cases hdeleted
  · rintro channel (hcommitted | ⟨tx', hversion⟩)
    · simp [ChannelStore.commit, Row.commit, hdeleted] at hcommitted
    · have hold := Row.written_commit hversion
      rw [hdeleted] at hold
      cases hold.1

theorem ChannelPhase.Fits.not_removed (h : Fits w call φ) (htx : φ.tx = some tx)
    (hvisible : (w.channels.rows channelId).visible (some tx) ≠ none) :
    (w.memberships.rows (channelId, userId)).written ≠ some (tx, none) := by
  intro hwritten
  obtain ⟨tx', htx', hdeleted⟩ := h.deleted channelId (h.removal tx htx _ _ hwritten)
  cases htx.symm.trans htx'
  simp [Row.visible, hdeleted] at hvisible

theorem ChannelStore.draft_quiet {K σ : Type} {L : Ledger K ChannelEvent σ}
    {events : List ChannelEvent} (hquiet : ∀ k, L.Quiet k events) (tx' : TxId) :
    ∃ more, (w.draft tx events).draftsOf tx' = w.draftsOf tx' ++ more ∧ ∀ k, L.Quiet k more := by
  by_cases htx : tx = tx'
  · subst htx
    exact ⟨events, draftsOf_draft_self _, hquiet⟩
  · exact ⟨[], (draftsOf_draft_ne _ htx).trans (List.append_nil _).symm, fun _ => .nil⟩

end

end Wavis
