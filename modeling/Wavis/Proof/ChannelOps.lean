import Wavis.Channel

/-! Every statement leaves the tables as they are, ends a transaction, or changes one row that no
other transaction has written. Everything proved about runs of channel requests goes through the
relation below. -/

namespace Wavis

open Concurrency ChannelEnv

def ChannelOp.tx : ChannelOp → Option TxId
  | commit tx => some tx
  | rollback tx => some tx
  | insertChannel tx _ _ _ => some tx
  | selectName tx _ => some tx
  | deleteChannel tx _ => some tx
  | selectDependents tx _ => some tx
  | deleteDependent tx _ => some tx
  | selectMembership tx _ _ => tx
  | insertMembership tx _ _ _ _ => some tx
  | updateMembership tx _ _ _ => some tx
  | consumeInvite tx _ _ => some tx
  | _ => none

/-- The answer may come from a statement that changed nothing and told nothing. -/
def ChannelOp.idle : (o : ChannelOp) → o.Resp → Bool
  | begin, answer => answer.isOk == false
  | commit _, _ => false
  | rollback _, _ => false
  | insertChannel _ _ _ _, answer => answer.isOk == false
  | deleteChannel _ _, .ok deleted => !deleted
  | selectDependents _ _, answer => answer.isOk == false
  | selectMembership _ _ _, .ok row => row.isNone
  | insertMembership _ _ _ _ onConflictDoNothing, .ok inserted => onConflictDoNothing && !inserted
  | updateMembership _ _ _ _, .ok row => row.isNone
  | insertInvite _, answer => answer.isOk == false
  | consumeInvite _ _ _, .ok channelId => channelId.isNone
  | deleteInvite _ _, .ok deleted => !deleted
  | _, _ => true

namespace ChannelStore

inductive Step (w : ChannelStore) : (o : ChannelOp) → o.Resp → ChannelStore → Prop
  | same {o : ChannelOp} {answer : o.Resp} (hidle : o.idle answer = true) : Step w o answer w
  | begin (now : Instant) :
      Step w .begin (.ok (w.nextTx, now)) { w with nextTx := w.nextTx + 1 }
  | commit (tx : TxId) : Step w (.commit tx) (.ok ()) (w.commit tx)
  | failedCommit (tx : TxId) (e : String) : Step w (.commit tx) (.error e) (w.rollback tx)
  | rollback (tx : TxId) : Step w (.rollback tx) () (w.rollback tx)
  | insertChannel (tx : TxId) (channel : Channel) (hfresh : channel.channelId ∉ w.drawn) :
      Step w (.insertChannel tx channel.name channel.ownerUserId channel.createdAt)
        (.ok channel.channelId)
        { w with
          channels := w.channels.stage tx channel.channelId (some channel)
          drawn := channel.channelId :: w.drawn }
  | deleteChannel {tx : TxId} {channelId : Uuid}
      (hvisible : (w.channels.rows channelId).visible (some tx) ≠ none)
      (hfree : (w.channels.rows channelId).Free (some tx)) :
      Step w (.deleteChannel tx channelId) (.ok true)
        (w.setChannels (w.channels.stage tx channelId none))
  | selectDependents (tx : TxId) (channelId : Uuid) :
      Step w (.selectDependents tx channelId) (.ok (w.dependents tx channelId)) w
  | deleteMember {tx : TxId} {channelId userId : Uuid}
      (hfree : (w.memberships.rows (channelId, userId)).Free (some tx)) :
      Step w (.deleteDependent tx (.membership channelId userId)) (.ok ())
        (w.setMemberships (w.memberships.stage tx (channelId, userId) none))
  | deleteItsInvite {tx : TxId} {code : String}
      (hfree : (w.invites.rows code).Free (some tx)) :
      Step w (.deleteDependent tx (.invite code)) (.ok ())
        (w.setInvites (w.invites.stage tx code none))
  | selectMembership {tx : Option TxId} {channelId userId : Uuid} {row : ChannelMembership}
      (hvisible : (w.memberships.rows (channelId, userId)).visible tx = some row) :
      Step w (.selectMembership tx channelId userId) (.ok (some row)) w
  | insertMembership {tx : TxId} {channelId userId : Uuid} (role : ChannelRole)
      (onConflictDoNothing : Bool)
      (hfree : (w.memberships.rows (channelId, userId)).Free (some tx))
      (hnone : (w.memberships.rows (channelId, userId)).visible (some tx) = none)
      (hvisible : (w.channels.rows channelId).visible (some tx) ≠ none)
      (hchannel : (w.channels.rows channelId).Free (some tx)) :
      Step w (.insertMembership tx channelId userId role onConflictDoNothing) (.ok true)
        (((w.setMemberships
            (w.memberships.stage tx (channelId, userId) (some ⟨role, none⟩))).setChannels
          (w.channels.share tx channelId)).draft tx [.joined channelId userId])
  | updateMembership {tx : TxId} {channelId userId : Uuid} (edit : MembershipEdit)
      {row : ChannelMembership}
      (hvisible : (w.memberships.rows (channelId, userId)).visible (some tx) = some row)
      (hfree : (w.memberships.rows (channelId, userId)).Free (some tx)) :
      Step w (.updateMembership tx channelId userId edit) (.ok (some (edit.apply row)))
        ((w.setMemberships
            (w.memberships.stage tx (channelId, userId) (some (edit.apply row)))).draft tx
          (edit.events channelId userId))
  | deleteMembership {channelId userId : Uuid}
      (hvisible : (w.memberships.rows (channelId, userId)).visible none ≠ none)
      (hfree : (w.memberships.rows (channelId, userId)).Free none) :
      Step w (.deleteMembership channelId userId) (.ok ())
        ((w.setMemberships (w.memberships.put (channelId, userId) none)).record
          (.left channelId userId))
  | insertInvite {invite : ChannelInvite} (hmax : ∀ maxUses ∈ invite.maxUses, 0 < maxUses)
      (hfree : (w.invites.rows invite.code).Free none) :
      Step w (.insertInvite invite) (.ok ())
        ((w.setInvites (w.invites.put invite.code (some invite))).record
          (.inviteCreated invite.code))
  | consumeInvite {tx : TxId} {code : String} {now : Instant} {invite : ChannelInvite}
      (hvisible : (w.invites.rows code).visible (some tx) = some invite)
      (husable : invite.usable now = true) (hfree : (w.invites.rows code).Free (some tx)) :
      Step w (.consumeInvite tx code now) (.ok (some invite.channelId))
        ((w.setInvites (w.invites.stage tx code
          (some { invite with uses := invite.uses + 1 }))).draft tx [.consumed code])
  | deleteInvite {channelId : Uuid} {code : String}
      (hfree : (w.invites.rows code).Free none) :
      Step w (.deleteInvite channelId code) (.ok true)
        (w.setInvites (w.invites.put code none))

end ChannelStore

open ChannelStore

variable {w w' : ChannelStore} {env : ChannelEnv}

@[elab_as_elim]
theorem ChannelEnv.of_fallible {α : Type} {run : Option (Except String α × ChannelStore)}
    {answer : Except String α} {P : Except String α → ChannelStore → Prop}
    (h : env.fallible w run = some (answer, w')) (herror : ∀ e, P (.error e) w)
    (hrun : run = some (answer, w') → P answer w') : P answer w' := by
  unfold fallible at h
  split at h
  · cases h
    exact herror _
  · exact hrun h

/-- **What a statement does.** -/
theorem ChannelOp.exec_step {o : ChannelOp} {answer : o.Resp}
    (h : o.exec env w = some (answer, w')) : Step w o answer w' := by
  cases o with
  | begin =>
    refine of_fallible h (fun _ => .same rfl) fun h => ?_
    cases h
    exact .begin env.now
  | commit tx =>
    simp only [ChannelOp.exec] at h
    split at h
    · cases h
      exact .failedCommit tx _
    · cases h
      exact .commit tx
  | rollback tx =>
    cases h
    exact .rollback tx
  | insertChannel tx name ownerUserId now =>
    refine of_fallible h (fun _ => .same rfl) fun h => ?_
    unfold ChannelStore.insertChannel at h
    split_ifs at h with hfresh
    cases h
    exact .insertChannel tx ⟨env.uuid, name, ownerUserId, now⟩ hfresh
  | selectOwner channelId | selectName tx channelId =>
    refine of_fallible h (fun _ => .same rfl) fun h => ?_
    cases h
    exact .same rfl
  | deleteChannel tx channelId =>
    refine of_fallible h (fun _ => .same rfl) fun h => ?_
    simp only [ChannelStore.deleteChannel] at h
    split_ifs at h with hvisible hfree
    · cases h
      exact .same rfl
    · cases h
      exact .deleteChannel hvisible hfree.1
  | selectDependents tx channelId =>
    refine of_fallible h (fun _ => .same rfl) fun h => ?_
    cases h
    exact .selectDependents tx channelId
  | deleteDependent tx dependent =>
    refine of_fallible h (fun _ => .same rfl) fun h => ?_
    cases dependent with
    | membership channelId userId =>
      simp only [ChannelStore.deleteDependent] at h
      split_ifs at h with hvisible hfree
      · cases h
        exact .same rfl
      · cases h
        exact .deleteMember hfree
    | invite code =>
      simp only [ChannelStore.deleteDependent] at h
      split_ifs at h with hvisible hfree
      · cases h
        exact .same rfl
      · cases h
        exact .deleteItsInvite hfree
  | selectMembership tx channelId userId =>
    refine of_fallible h (fun _ => .same rfl) fun h => ?_
    cases h
    cases hvisible : (w.memberships.rows (channelId, userId)).visible tx with
    | none => exact .same rfl
    | some row => exact .selectMembership hvisible
  | insertMembership tx channelId userId role onConflictDoNothing =>
    refine of_fallible h (fun _ => .same rfl) fun h => ?_
    simp only [ChannelStore.insertMembership] at h
    split_ifs at h with hfree hnone hconflict hvisible hchannel
    · cases h
      exact .same (by simp [ChannelOp.idle, hconflict])
    · cases h
      exact .same rfl
    · cases h
      exact .same rfl
    · cases h
      exact .insertMembership role onConflictDoNothing hfree (not_not.mp hnone)
        hvisible hchannel
  | updateMembership tx channelId userId edit =>
    refine of_fallible h (fun _ => .same rfl) fun h => ?_
    simp only [ChannelStore.updateMembership] at h
    split at h
    · cases h
      exact .same rfl
    · rename_i row hvisible
      split_ifs at h with hfree
      cases h
      exact .updateMembership edit hvisible hfree
  | deleteMembership channelId userId =>
    refine of_fallible h (fun _ => .same rfl) fun h => ?_
    simp only [ChannelStore.deleteMembership] at h
    split_ifs at h with hvisible hfree
    · cases h
      exact .same rfl
    · cases h
      exact .deleteMembership hvisible hfree
  | insertInvite invite =>
    refine of_fallible h (fun _ => .same rfl) fun h => ?_
    simp only [ChannelStore.insertInvite] at h
    split_ifs at h with hmax hfree hsome hchannel hlocked
    · cases h
      exact .same rfl
    · cases h
      exact .same rfl
    · cases h
      refine .insertInvite (fun maxUses hmem => ?_) hfree
      rw [Option.mem_def] at hmem
      simpa [hmem] using hmax
    · cases h
      exact .same rfl
  | consumeInvite tx code now =>
    refine of_fallible h (fun _ => .same rfl) fun h => ?_
    simp only [ChannelStore.consumeInvite] at h
    split at h
    · cases h
      exact .same rfl
    · rename_i invite hvisible
      split_ifs at h with husable hfree hrange
      · cases h
        exact .same rfl
      · cases h
        exact .same rfl
      · cases h
        exact .consumeInvite hvisible (by simpa using husable) hfree
  | deleteInvite channelId code =>
    refine of_fallible h (fun _ => .same rfl) fun h => ?_
    simp only [ChannelStore.deleteInvite] at h
    split at h
    · cases h
      exact .same rfl
    · split_ifs at h with hother hfree
      · cases h
        exact .same rfl
      · cases h
        exact .deleteInvite hfree
  | generateInviteCode | getNow =>
    cases h
    exact .same rfl

end Wavis
