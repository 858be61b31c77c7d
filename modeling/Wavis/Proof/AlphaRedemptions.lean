import Wavis.Proof.RegisterProtocol
import Wavis.Concurrency.Drafts
import Wavis.Concurrency.Ownership

namespace Wavis

open Concurrency Function Table TokenStore TokenEnv

open Table (blank single)

structure Books where
  invites : Table Uuid AlphaInvite
  users : Table Uuid Account
  redemptions : Table Uuid Redemption
  nextTx : TxId

def TokenStore.books (w : TokenStore) : Books :=
  ⟨w.alphaInvites, w.users, w.redemptions, w.nextTx⟩

def AlphaInvite.counted (invite : AlphaInvite) : AlphaInvite :=
  { invite with redemptionCount := invite.redemptionCount + 1 }

def AlphaInvite.disabled (invite : AlphaInvite) (now : Instant) : AlphaInvite :=
  { invite with disabledAt := some (invite.disabledAt.getD now) }

namespace Books

structure Drafted (b : Books) (tx : TxId) (invites : Uuid → Option (Option AlphaInvite))
    (users : Uuid → Option (Option Account)) (redemptions : Uuid → Option (Option Redemption)) :
    Prop where
  opened : tx < b.nextTx
  invites : b.invites.draft tx = invites
  users : b.users.draft tx = users
  redemptions : b.redemptions.draft tx = redemptions

/-- The invite is the one that the call asked for, and still as it was found. -/
structure Found (b : Books) (codeHash : Option String) (inviteId : Uuid) (invite : AlphaInvite) :
    Prop where
  asked : codeHash = some invite.codeHash
  view : b.invites.view inviteId = some invite

def Fits (codeHash : Option String) (b : Books) : RegisterPhase → Prop
  | .outside => True
  | .opened tx => b.Drafted tx blank blank blank
  | .locked tx inviteId invite =>
    b.Found codeHash inviteId invite ∧ b.Drafted tx (single inviteId invite) blank blank
  | .counted tx inviteId invite =>
    b.Found codeHash inviteId invite ∧ invite.redemptionCount < invite.maxRedemptions
      ∧ b.Drafted tx (single inviteId invite.counted) blank blank
  | .created tx inviteId invite userId =>
    b.Found codeHash inviteId invite ∧ invite.redemptionCount < invite.maxRedemptions
      ∧ b.users.view userId = none
      ∧ ∃ account, b.Drafted tx (single inviteId invite.counted) (single userId account) blank
  | .recorded tx inviteId invite row =>
    b.Found codeHash inviteId invite ∧ invite.redemptionCount < invite.maxRedemptions
      ∧ b.users.view row.userId = none ∧ row.inviteId = inviteId
      ∧ ∃ account redemptionId, b.redemptions.view redemptionId = none
        ∧ b.Drafted tx (single inviteId invite.counted) (single row.userId account)
          (single redemptionId row)
  | .registered hash row =>
    codeHash = some hash ∧ (∃ redemptionId, b.redemptions.view redemptionId = some row)
      ∧ ∃ invite, b.invites.view row.inviteId = some invite ∧ invite.codeHash = hash
  | .disabled inviteId =>
    ∃ invite, b.invites.view inviteId = some invite ∧ invite.disabledAt ≠ none

inductive Step (codeHash : Option String) (b : Books) :
    RegisterPhase → RegisterPhase → Books → Prop
  | aside (φ : RegisterPhase) : Step codeHash b φ φ b
  | opened (φ : RegisterPhase) (h : φ.owner = none) :
      Step codeHash b φ (.opened b.nextTx) { b with nextTx := b.nextTx + 1 }
  | locked {tx : TxId} {inviteId : Uuid} {invite : AlphaInvite}
      (hfree : (b.invites.rows inviteId).Free (some tx))
      (hrow : (b.invites.rows inviteId).visible (some tx) = some invite)
      (hasked : codeHash = some invite.codeHash) :
      Step codeHash b (.opened tx) (.locked tx inviteId invite)
        { b with invites := b.invites.stage tx inviteId (some invite) }
  | counted {tx : TxId} {inviteId : Uuid} {invite : AlphaInvite}
      (hfree : (b.invites.rows inviteId).Free (some tx))
      (hroom : invite.redemptionCount < invite.maxRedemptions) :
      Step codeHash b (.locked tx inviteId invite) (.counted tx inviteId invite)
        { b with invites := b.invites.stage tx inviteId (some invite.counted) }
  | created {tx : TxId} {inviteId userId : Uuid} {invite : AlphaInvite}
      (hnew : userId ∉ b.users.keys) :
      Step codeHash b (.counted tx inviteId invite) (.created tx inviteId invite userId)
        { b with users := b.users.stage tx userId (some ⟨0, none⟩) }
  | updated {tx : TxId} {inviteId userId : Uuid} {invite : AlphaInvite} (account : Account)
      (hfree : (b.users.rows userId).Free (some tx)) :
      Step codeHash b (.created tx inviteId invite userId) (.created tx inviteId invite userId)
        { b with users := b.users.stage tx userId (some account) }
  | recorded {tx : TxId} {redemptionId : Uuid} {invite : AlphaInvite} {row : Redemption}
      (hnew : redemptionId ∉ b.redemptions.keys) :
      Step codeHash b (.created tx row.inviteId invite row.userId)
        (.recorded tx row.inviteId invite row)
        { b with redemptions := b.redemptions.stage tx redemptionId (some row) }
  | committed {tx : TxId} {inviteId : Uuid} {invite : AlphaInvite} {row : Redemption} :
      Step codeHash b (.recorded tx inviteId invite row) (.registered invite.codeHash row)
        ⟨b.invites.commit tx, b.users.commit tx, b.redemptions.commit tx, b.nextTx⟩
  | ended {φ : RegisterPhase} {tx : TxId} (howner : φ.owner = some tx) :
      Step codeHash b φ .outside
        ⟨b.invites.rollback tx, b.users.rollback tx, b.redemptions.rollback tx, b.nextTx⟩
  | disabled {inviteId : Uuid} {invite : AlphaInvite} (now : Instant)
      (hfree : (b.invites.rows inviteId).Free none)
      (hrow : b.invites.view inviteId = some invite) :
      Step codeHash b .outside (.disabled inviteId)
        { b with invites := b.invites.put inviteId (some (invite.disabled now)) }

end Books

variable {tx : TxId} {hash : String} {codeHash : Option String} {φ : RegisterPhase} {w : TokenStore}

section

variable {w' : TokenStore} {env : TokenEnv} {o : TokenOp} {answer : o.Resp}

theorem TokenStore.books_of_aside (h : RegisterPhase.aside o = true)
    (hexec : o.exec env w = some (answer, w')) : w'.books = w.books := by
  cases o with
  | insertToken tx token row =>
    refine of_fallible hexec (fun _ => rfl) fun hrun => ?_
    simp only [insertToken, Option.some.injEq] at hrun
    split_ifs at hrun <;> cases hrun <;> rfl
  | insertDevice tx userId deviceName =>
    refine of_fallible hexec (fun _ => rfl) fun hrun => ?_
    simp only [insertDevice] at hrun
    split_ifs at hrun <;> cases hrun <;> rfl
  | generateRefreshToken =>
    simp only [TokenOp.exec] at hexec
    split_ifs at hexec
    cases hexec
    rfl
  | getNow | generateRecoveryId | genRandomUuid => cases hexec; rfl
  | signAccessToken userId deviceId epoch | hashPhrase phrase userId
  | recoveryIdExists tx recoveryId =>
    refine of_fallible hexec (fun _ => rfl) fun hrun => ?_
    cases hrun
    rfl
  | _ => cases h

theorem TokenStore.selectInviteForUpdate_cases
    {answer : Except String (Option (Uuid × AlphaInvite))}
    (h : w.selectInviteForUpdate tx hash = some (answer, w')) :
    (answer = .ok none ∧ w' = w)
      ∨ ∃ inviteId invite, answer = .ok (some (inviteId, invite)) ∧ invite.codeHash = hash
        ∧ (w.alphaInvites.rows inviteId).Free (some tx)
        ∧ (w.alphaInvites.rows inviteId).visible (some tx) = some invite
        ∧ w' = { w with alphaInvites := w.alphaInvites.stage tx inviteId (some invite) } := by
  unfold selectInviteForUpdate at h
  split at h
  · cases h
    exact .inl ⟨rfl, rfl⟩
  · rename_i inviteId hscan
    dsimp only at h
    split_ifs at h with hfree
    split at h
    · cases h
      exact .inl ⟨rfl, rfl⟩
    · rename_i invite hrow
      cases h
      refine .inr ⟨inviteId, invite, rfl, ?_, hfree, hrow, rfl⟩
      have hmem := List.mem_of_mem_head? hscan
      simpa [scan, hrow] using (List.mem_filter.mp hmem).2

/-- **What a statement of a call does.** -/
theorem Books.step_of_exec (hfits : w.books.Fits codeHash φ) (hmay : φ.May codeHash o)
    (hexec : o.exec env w = some (answer, w')) :
    Step codeHash w.books φ (φ.next o answer) w'.books := by
  cases o with
  | begin =>
    cases (hmay : φ = .outside)
    refine of_fallible hexec (fun _ => .aside _) fun hrun => ?_
    cases hrun
    exact .opened _ rfl
  | commit tx =>
    obtain ⟨inviteId, invite, row, rfl⟩ := hmay
    simp only [TokenOp.exec] at hexec
    split at hexec
    · cases hexec
      exact .ended rfl
    · cases hexec
      exact .committed
  | rollback tx =>
    cases hexec
    exact .ended hmay
  | selectInviteForUpdate tx hash =>
    obtain ⟨rfl, rfl⟩ := hmay
    refine of_fallible hexec (fun _ => .aside _) fun hrun => ?_
    rcases selectInviteForUpdate_cases hrun with
      ⟨rfl, rfl⟩ | ⟨inviteId, invite, rfl, rfl, hfree, hrow, rfl⟩
    · exact .aside _
    · exact .locked hfree hrow rfl
  | countRedemption tx inviteId =>
    obtain ⟨invite, rfl, -, hroom⟩ := hmay
    refine of_fallible hexec (fun _ => .aside _) fun hrun => ?_
    have hrow := visible_single hfits.2.invites
    simp only [countRedemption] at hrun
    change (w.alphaInvites.rows inviteId).visible (some tx) = some invite at hrow
    simp only [hrow] at hrun
    split_ifs at hrun with hfree
    · cases hrun
      exact .aside _
    · cases hrun
      exact .counted hfree hroom
  | insertUser tx =>
    obtain ⟨inviteId, invite, rfl⟩ := hmay
    refine of_fallible hexec (fun _ => .aside _) fun hrun => ?_
    simp only [insertUser] at hrun
    split_ifs at hrun with hnew
    cases hrun
    exact .created hnew
  | updateUser tx userId profile =>
    obtain ⟨inviteId, invite, rfl⟩ := hmay
    refine of_fallible hexec (fun _ => .aside _) fun hrun => ?_
    simp only [updateUser] at hrun
    split at hrun
    · cases hrun
      exact .aside _
    · split_ifs at hrun with hfree
      cases hrun
      exact .updated _ hfree
  | insertRedemption tx row =>
    obtain ⟨invite, rfl⟩ := hmay
    refine of_fallible hexec (fun _ => .aside _) fun hrun => ?_
    simp only [insertRedemption] at hrun
    split_ifs at hrun with hnew hforeign
    · cases hrun
      exact .aside _
    · cases hrun
      exact .recorded hnew
  | disableInvite inviteId =>
    cases (hmay : φ = .outside)
    refine of_fallible hexec (fun _ => .aside _) fun hrun => ?_
    simp only [disableInvite, visible_none] at hrun
    split at hrun
    · cases hrun
      exact .aside _
    · rename_i invite hrow
      split_ifs at hrun with hfree
      cases hrun
      exact .disabled env.now hfree hrow
  | _ =>
    have haside : RegisterPhase.aside _ = true := hmay
    rw [RegisterPhase.next_aside haside, books_of_aside haside hexec]
    exact .aside φ

end

variable {inviteId userId : Uuid}

namespace Books

variable {b b' : Books} {φ' : RegisterPhase} {table' table : Table Uuid Redemption}
  {row : Redemption} {k : Uuid}

structure Balanced (b : Books) : Prop where
  counts : ∀ inviteId invite, b.invites.view inviteId = some invite →
    invite.redemptionCount = b.redemptions.count (fun _ row => row.inviteId = inviteId)
      ∧ invite.redemptionCount ≤ invite.maxRedemptions
  redeemed : ∀ userId account, b.users.view userId = some account →
    ∃! redemptionId, ∃ row, b.redemptions.view redemptionId = some row ∧ row.userId = userId
  known : ∀ redemptionId row, b.redemptions.view redemptionId = some row →
    b.users.view row.userId ≠ none

/-- **How what is committed changes.** -/
inductive Moved (b b' : Books) : Prop
  | same (hinvites : b'.invites.view = b.invites.view) (husers : b'.users.view = b.users.view)
      (hredemptions : b'.redemptions.view = b.redemptions.view)
  | registered {invite : AlphaInvite} {account : Account} {redemptionId : Uuid} {row : Redemption}
      (hinvite : b.invites.view row.inviteId = some invite)
      (hroom : invite.redemptionCount < invite.maxRedemptions)
      (huser : b.users.view row.userId = none)
      (hredemption : b.redemptions.view redemptionId = none)
      (hinvites : b'.invites.view = update b.invites.view row.inviteId (some invite.counted))
      (husers : b'.users.view = update b.users.view row.userId (some account))
      (hredemptions : b'.redemptions.view = update b.redemptions.view redemptionId (some row))
  | disabled {inviteId : Uuid} {invite : AlphaInvite} {now : Instant}
      (hinvite : b.invites.view inviteId = some invite)
      (hinvites : b'.invites.view = update b.invites.view inviteId (some (invite.disabled now)))
      (husers : b'.users.view = b.users.view)
      (hredemptions : b'.redemptions.view = b.redemptions.view)

theorem moved_of_step (hstep : Step codeHash b φ φ' b') (hfits : b.Fits codeHash φ) :
    Moved b b' := by
  cases hstep with
  | aside | opened => exact .same rfl rfl rfl
  | locked | counted => exact .same view_stage rfl rfl
  | created | updated => exact .same rfl view_stage rfl
  | recorded => exact .same rfl rfl view_stage
  | committed =>
    obtain ⟨hfound, hroom, huser, rfl, account, redemptionId, hredemption, hdraft⟩ := hfits
    exact .registered hfound.view hroom huser hredemption
      (view_commit_of_single hdraft.invites) (view_commit_of_single hdraft.users)
      (view_commit_of_single hdraft.redemptions)
  | ended => exact .same view_rollback view_rollback view_rollback
  | disabled now hfree hrow => exact .disabled hrow view_put rfl rfl

section

variable (hnew : table.view k = none) (h : table'.view = update table.view k (some row))
include hnew h

theorem count_update_ne (hne : row.inviteId ≠ inviteId) :
    table'.count (fun _ row => row.inviteId = inviteId)
      = table.count fun _ row => row.inviteId = inviteId := by
  apply count_congr
  ext k'
  simp only [passing, h, update_apply, Set.mem_ofPred_eq, decide_eq_true_eq]
  split_ifs with hk
  · subst hk
    simp [hnew, hne]
  · rfl

theorem count_update :
    table'.count (fun _ row' => row'.inviteId = row.inviteId)
      = table.count (fun _ row' => row'.inviteId = row.inviteId) + 1 := by
  apply count_insert (k := k)
  · rintro ⟨row', hrow', -⟩
    rw [hnew] at hrow'
    cases hrow'
  · ext k'
    simp only [passing, h, update_apply, Set.mem_insert_iff, Set.mem_ofPred_eq,
      decide_eq_true_eq]
    split_ifs with hk
    · simp [hk]
    · simp [hk]

end

theorem Balanced.same (h : b.Balanced) (husers : b'.users.view = b.users.view)
    (hredemptions : b'.redemptions.view = b.redemptions.view)
    (hcounts : ∀ inviteId invite, b'.invites.view inviteId = some invite →
      ∃ before, b.invites.view inviteId = some before
        ∧ invite.redemptionCount = before.redemptionCount
        ∧ invite.maxRedemptions = before.maxRedemptions) : b'.Balanced where
  counts inviteId invite hview := by
    obtain ⟨before, hbefore, hcount, hmax⟩ := hcounts inviteId invite hview
    rw [hcount, hmax, count_of_view hredemptions]
    exact h.counts inviteId before hbefore
  redeemed := by
    rw [husers, hredemptions]
    exact h.redeemed
  known := by
    rw [husers, hredemptions]
    exact h.known

section

variable {account : Account} {redemptionId : Uuid}

theorem Balanced.redeemed_new (h : b.Balanced) (huser : b.users.view row.userId = none)
    (hredemptions : b'.redemptions.view = update b.redemptions.view redemptionId (some row)) :
    ∃! k, ∃ row', b'.redemptions.view k = some row' ∧ row'.userId = row.userId := by
  rw [hredemptions]
  refine ⟨redemptionId, ⟨row, update_self .., rfl⟩, ?_⟩
  rintro k ⟨row', hrow', heq⟩
  by_contra hk
  rw [update_of_ne hk] at hrow'
  exact h.known k row' hrow' (heq ▸ huser)

theorem Balanced.redeemed_old (h : b.Balanced)
    (hredemption : b.redemptions.view redemptionId = none)
    (hredemptions : b'.redemptions.view = update b.redemptions.view redemptionId (some row))
    (hview : b.users.view userId = some account) (hne : row.userId ≠ userId) :
    ∃! k, ∃ row', b'.redemptions.view k = some row' ∧ row'.userId = userId := by
  obtain ⟨k, ⟨row', hrow', huser⟩, hunique⟩ := h.redeemed userId account hview
  rw [hredemptions]
  have hk : k ≠ redemptionId := by
    rintro rfl
    rw [hredemption] at hrow'
    cases hrow'
  refine ⟨k, ⟨row', by rw [update_of_ne hk, hrow'], huser⟩, ?_⟩
  rintro k' ⟨row'', hrow'', huser'⟩
  by_cases hk' : k' = redemptionId
  · rw [hk', update_self, Option.some.injEq] at hrow''
    exact absurd (hrow'' ▸ huser') hne
  · rw [update_of_ne hk'] at hrow''
    exact hunique k' ⟨row'', hrow'', huser'⟩

end

theorem Balanced.moved (h : b.Balanced) (hmoved : Moved b b') : b'.Balanced := by
  cases hmoved with
  | same hinvites husers hredemptions =>
    apply h.same husers hredemptions
    intro inviteId invite hview
    exact ⟨invite, hinvites ▸ hview, rfl, rfl⟩
  | @disabled changed before now hinvite hinvites husers hredemptions =>
    apply h.same husers hredemptions
    intro inviteId invite hview
    rw [hinvites, update_apply] at hview
    split_ifs at hview with hk
    · cases hview
      exact ⟨before, hk ▸ hinvite, rfl, rfl⟩
    · exact ⟨invite, hview, rfl, rfl⟩
  | @registered before account redemptionId row hinvite hroom huser hredemption hinvites husers
      hredemptions =>
      refine ⟨fun inviteId invite hview => ?_, fun userId account' hview => ?_,
        fun k row' hview => ?_⟩
      · rw [hinvites, update_apply] at hview
        split_ifs at hview with hk
        · cases hview
          subst hk
          rw [count_update hredemption hredemptions]
          exact ⟨congrArg (· + 1) (h.counts _ before hinvite).1, hroom⟩
        · rw [count_update_ne hredemption hredemptions (Ne.symm hk)]
          exact h.counts inviteId invite hview
      · by_cases hk : userId = row.userId
        · rw [hk]
          exact h.redeemed_new huser hredemptions
        · rw [husers, update_of_ne hk] at hview
          exact h.redeemed_old hredemption hredemptions hview (.symm hk)
      · rw [husers, update_apply]
        split_ifs with hk
        · simp
        · rw [hredemptions, update_apply] at hview
          split_ifs at hview with hk'
          · cases hview
            exact absurd rfl hk
          · exact h.known k row' hview

/-- What a transaction has written, and what is committed of it, is left alone. -/
structure Framed (tx : TxId) (b b' : Books) : Prop where
  nextTx : b.nextTx ≤ b'.nextTx
  invites : Table.Framed tx b.invites b'.invites
  users : Table.Framed tx b.users b'.users
  redemptions : Table.Framed tx b.redemptions b'.redemptions

theorem framed_of_step (hstep : Step codeHash b φ φ' b') (hne : φ.owner ≠ some tx) :
    Framed tx b b' := by
  have hapart : ∀ tx', φ.owner = some tx' → tx ≠ tx' := by
    rintro tx' howner rfl
    exact hne howner
  cases hstep with
  | aside => exact ⟨le_rfl, .refl tx _, .refl tx _, .refl tx _⟩
  | opened => exact ⟨Nat.le_succ _, .refl tx _, .refl tx _, .refl tx _⟩
  | locked hfree | counted hfree =>
    exact ⟨le_rfl, framed_stage hfree (hapart _ rfl), .refl tx _, .refl tx _⟩
  | created hnew =>
    exact ⟨le_rfl, .refl tx _, framed_stage (free_of_new hnew) (hapart _ rfl), .refl tx _⟩
  | updated account hfree =>
    exact ⟨le_rfl, .refl tx _, framed_stage hfree (hapart _ rfl), .refl tx _⟩
  | recorded hnew =>
    exact ⟨le_rfl, .refl tx _, .refl tx _, framed_stage (free_of_new hnew) (hapart _ rfl)⟩
  | committed =>
    exact ⟨le_rfl, framed_commit (hapart _ rfl), framed_commit (hapart _ rfl),
      framed_commit (hapart _ rfl)⟩
  | ended howner =>
    exact ⟨le_rfl, framed_rollback (hapart _ howner),
      framed_rollback (hapart _ howner), framed_rollback (hapart _ howner)⟩
  | disabled now hfree =>
    exact ⟨le_rfl, framed_put hfree, .refl tx _, .refl tx _⟩

section

variable {invites : Uuid → Option (Option AlphaInvite)} {users : Uuid → Option (Option Account)}
  {redemptions : Uuid → Option (Option Redemption)}

theorem Framed.drafted (h : Framed tx b b') (hdraft : b.Drafted tx invites users redemptions) :
    b'.Drafted tx invites users redemptions where
  opened := Nat.lt_of_lt_of_le hdraft.opened h.nextTx
  invites := h.invites.draft.trans hdraft.invites
  users := h.users.draft.trans hdraft.users
  redemptions := h.redemptions.draft.trans hdraft.redemptions

theorem Framed.found {invite row : AlphaInvite} (h : Framed tx b b')
    (hdraft : b.invites.draft tx = single inviteId row)
    (hfound : b.Found codeHash inviteId invite) : b'.Found codeHash inviteId invite :=
  ⟨hfound.asked, (view_of_framed h.invites hdraft).trans hfound.view⟩

end

/-- A committed invite keeps its code, and stays disabled once it is. -/
theorem Moved.invite_stays {invite : AlphaInvite} (h : Moved b b')
    (hinvite : b.invites.view k = some invite) :
    ∃ invite', b'.invites.view k = some invite' ∧ invite'.codeHash = invite.codeHash
      ∧ (invite.disabledAt ≠ none → invite'.disabledAt ≠ none) := by
  cases h with
  | same hinvites => exact ⟨invite, hinvites ▸ hinvite, rfl, id⟩
  | registered hbefore _ _ _ hinvites | disabled hbefore hinvites =>
    rw [hinvites, update_apply]
    split_ifs with heq
    · rw [heq, hbefore] at hinvite
      cases hinvite
      exact ⟨_, rfl, rfl, by simp [AlphaInvite.counted, AlphaInvite.disabled]⟩
    · exact ⟨invite, hinvite, rfl, id⟩

theorem Moved.redemption_stays (h : Moved b b') (hrow : b.redemptions.view k = some row) :
    b'.redemptions.view k = some row := by
  cases h with
  | same _ _ hredemptions | disabled _ _ _ hredemptions => exact hredemptions ▸ hrow
  | registered _ _ _ hnew _ _ hredemptions =>
    rw [hredemptions, update_of_ne, hrow]
    rintro rfl
    rw [hnew] at hrow
    cases hrow

theorem Fits.framed (hmoved : Moved b b')
    (hframed : ∀ tx, φ.owner = some tx → Framed tx b b') (hfits : b.Fits codeHash φ) :
    b'.Fits codeHash φ := by
  cases φ with
  | outside => trivial
  | opened tx => exact (hframed tx rfl).drafted hfits
  | locked tx inviteId invite =>
    obtain ⟨hfound, hdraft⟩ := hfits
    exact ⟨(hframed tx rfl).found hdraft.invites hfound, (hframed tx rfl).drafted hdraft⟩
  | counted tx inviteId invite =>
    obtain ⟨hfound, hroom, hdraft⟩ := hfits
    exact ⟨(hframed tx rfl).found hdraft.invites hfound, hroom, (hframed tx rfl).drafted hdraft⟩
  | created tx inviteId invite userId =>
    obtain ⟨hfound, hroom, huser, account, hdraft⟩ := hfits
    have h := hframed tx rfl
    exact ⟨h.found hdraft.invites hfound, hroom,
      (view_of_framed h.users hdraft.users).trans huser, account, h.drafted hdraft⟩
  | recorded tx inviteId invite row =>
    obtain ⟨hfound, hroom, huser, hrow, account, k, hk, hdraft⟩ := hfits
    have h := hframed tx rfl
    exact ⟨h.found hdraft.invites hfound, hroom,
      (view_of_framed h.users hdraft.users).trans huser, hrow, account, k,
      (view_of_framed h.redemptions hdraft.redemptions).trans hk, h.drafted hdraft⟩
  | registered hash row =>
    obtain ⟨hasked, ⟨k, hk⟩, invite, hinvite, rfl⟩ := hfits
    obtain ⟨invite', hinvite', hcode, -⟩ := hmoved.invite_stays hinvite
    exact ⟨hasked, ⟨k, hmoved.redemption_stays hk⟩, invite', hinvite', hcode⟩
  | disabled inviteId =>
    obtain ⟨invite, hinvite, hdisabled⟩ := hfits
    obtain ⟨invite', hinvite', -, hstays⟩ := hmoved.invite_stays hinvite
    exact ⟨invite', hinvite', hstays hdisabled⟩

/-- No transaction has written anything before it was opened. -/
def Unused (b : Books) : Prop :=
  ∀ tx, b.nextTx ≤ tx →
    b.invites.draft tx = blank ∧ b.users.draft tx = blank ∧ b.redemptions.draft tx = blank

theorem Fits.owner_lt (hfits : b.Fits codeHash φ) (h : φ.owner = some tx) : tx < b.nextTx := by
  cases φ with
  | opened tx => cases h; exact hfits.opened
  | locked tx inviteId invite => cases h; exact hfits.2.opened
  | counted tx inviteId invite => cases h; exact hfits.2.2.opened
  | created tx inviteId invite userId =>
    obtain ⟨-, -, -, account, hdraft⟩ := hfits
    cases h
    exact hdraft.opened
  | recorded tx inviteId invite row =>
    obtain ⟨-, -, -, -, account, k, -, hdraft⟩ := hfits
    cases h
    exact hdraft.opened
  | _ => cases h

theorem nextTx_le_of_step (hstep : Step codeHash b φ φ' b') : b.nextTx ≤ b'.nextTx := by
  cases hstep <;> first | exact le_rfl | exact Nat.le_succ _

theorem Unused.step (h : b.Unused) (hfits : b.Fits codeHash φ)
    (hstep : Step codeHash b φ φ' b') : b'.Unused := by
  intro tx htx
  have hle : b.nextTx ≤ tx := Nat.le_trans (nextTx_le_of_step hstep) htx
  have hframed : Framed tx b b' := by
    apply framed_of_step hstep
    intro howner
    exact Nat.not_lt_of_le hle (hfits.owner_lt howner)
  obtain ⟨hinvites, husers, hredemptions⟩ := h tx hle
  exact ⟨hframed.invites.draft.trans hinvites, hframed.users.draft.trans husers,
    hframed.redemptions.draft.trans hredemptions⟩

theorem owner_of_step (hstep : Step codeHash b φ φ' b') (h : φ'.owner = some tx)
    (hlt : tx < b.nextTx) : φ.owner = some tx := by
  cases hstep with
  | opened =>
    cases h
    exact absurd hlt (Nat.lt_irrefl _)
  | committed | ended | disabled => cases h
  | _ => exact h

theorem fits_of_step (hunused : b.Unused) (hfits : b.Fits codeHash φ)
    (hstep : Step codeHash b φ φ' b') : b'.Fits codeHash φ' := by
  have hmoved := moved_of_step hstep hfits
  cases hstep with
  | aside => exact hfits
  | opened =>
    obtain ⟨hinvites, husers, hredemptions⟩ := hunused b.nextTx le_rfl
    exact ⟨Nat.lt_succ_self _, hinvites, husers, hredemptions⟩
  | @locked tx inviteId invite hfree hrow hasked =>
    rw [visible_eq, hfits.invites] at hrow
    exact ⟨⟨hasked, (congrFun view_stage inviteId).trans hrow⟩, hfits.opened,
      draft_stage_blank hfits.invites, hfits.users, hfits.redemptions⟩
  | @counted tx inviteId invite hfree hroom =>
    obtain ⟨hfound, hdraft⟩ := hfits
    exact ⟨⟨hfound.asked, (congrFun view_stage inviteId).trans hfound.view⟩, hroom,
      hdraft.opened, draft_stage_single hdraft.invites, hdraft.users, hdraft.redemptions⟩
  | @created tx inviteId userId invite hnew =>
    obtain ⟨hfound, hroom, hdraft⟩ := hfits
    exact ⟨⟨hfound.asked, hfound.view⟩, hroom,
      (congrFun view_stage userId).trans (view_of_new hnew), _, hdraft.opened,
      hdraft.invites, draft_stage_blank hdraft.users, hdraft.redemptions⟩
  | @updated tx inviteId userId invite account hfree =>
    obtain ⟨hfound, hroom, huser, before, hdraft⟩ := hfits
    exact ⟨⟨hfound.asked, hfound.view⟩, hroom, (congrFun view_stage userId).trans huser,
      account, hdraft.opened, hdraft.invites, draft_stage_single hdraft.users,
      hdraft.redemptions⟩
  | @recorded tx redemptionId invite row hnew =>
    obtain ⟨hfound, hroom, huser, account, hdraft⟩ := hfits
    exact ⟨⟨hfound.asked, hfound.view⟩, hroom, huser, rfl, account, redemptionId,
      (congrFun view_stage redemptionId).trans (view_of_new hnew), hdraft.opened,
      hdraft.invites, hdraft.users, draft_stage_blank hdraft.redemptions⟩
  | @committed tx inviteId invite row =>
    obtain ⟨hfound, -, -, rfl, account, k, -, hdraft⟩ := hfits
    refine ⟨hfound.asked, ⟨k, ?_⟩, invite.counted, ?_, rfl⟩
    · rw [view_commit_of_single hdraft.redemptions, update_self]
    · rw [view_commit_of_single hdraft.invites, update_self]
  | ended => trivial
  | disabled now hfree hrow =>
    exact ⟨_, (congrFun view_put _).trans (update_self ..), Option.some_ne_none _⟩

end Books

/-- No transaction has written a row that it has not committed. -/
def TokenStore.Unopened (w : TokenStore) : Prop :=
  (∀ k, (w.alphaInvites.rows k).written = none) ∧ (∀ k, (w.users.rows k).written = none)
    ∧ ∀ k, (w.redemptions.rows k).written = none

def TokenStore.registeredWith (w : TokenStore) (inviteId userId : Uuid) : Bool :=
  decide (0 < w.redemptions.count fun _ row => row.inviteId = inviteId && row.userId = userId)

/-- What a call has done with its invite: the user of a registration has redeemed the one that its
code stands for, and one that was disabled is so. -/
def AlphaCall.Settled (hash : String → String) (w : TokenStore) :
    (call : AlphaCall) → AlphaRet call → Prop
  | .registerUserWithInvite _ _ inviteCode _, .ok registration =>
    ∃ redemptionId row invite, w.redemptions.view redemptionId = some row
      ∧ row.userId = registration.userId ∧ row.deviceId = registration.deviceId
      ∧ w.alphaInvites.view row.inviteId = some invite
      ∧ Alpha.hashInviteCode hash inviteCode = .ok invite.codeHash
  | .disableAlphaInvite inviteId, .ok _ =>
    ∃ invite, w.alphaInvites.view inviteId = some invite ∧ invite.disabledAt ≠ none
  | _, _ => True

section

variable {hash : String → String} {pool : AlphaPool}

theorem TokenStore.Unopened.unused (h : w.Unopened) : w.books.Unused := by
  obtain ⟨hinvites, husers, hredemptions⟩ := h
  intro tx _
  refine ⟨funext fun k => ?_, funext fun k => ?_, funext fun k => ?_⟩
  · exact draft_of_unwritten (hinvites k)
  · exact draft_of_unwritten (husers k)
  · exact draft_of_unwritten (hredemptions k)

theorem owning_registrations (hunopened : w.Unopened) (hbalanced : w.books.Balanced)
    (hreach : (alphaService hash).Reach (fun _ _ => True) (AlphaPool.initial w) pool) :
    pool.Owning (registerProtocol hash) (fun w => w.books.Balanced ∧ w.books.Unused)
        (fun w call φ => w.books.Fits (call.codeHash hash) φ) RegisterPhase.owner
      ∧ ∀ thread ∈ pool.threads, (registerProtocol hash).Holds thread := by
  refine hreach.owning (fun _ call _ => holds_registerProtocol hash call) rfl
    ⟨hbalanced, hunopened.unused⟩ ?_ (fun _ _ _ => ⟨trivial, rfl⟩) ?_ ?_
  · intro pool i env call φ o answer w _ _ ⟨hbalanced, hunused⟩ hfits hmay hexec
    have hstep := Books.step_of_exec hfits hmay hexec
    have hmoved := Books.moved_of_step hstep hfits
    exact ⟨⟨hbalanced.moved hmoved, hunused.step hfits hstep⟩,
      Books.fits_of_step hunused hfits hstep⟩
  · intro pool i env call φ o answer w call' φ' _ _ _ hfits hmay hexec hfits' hapart
    have hstep := Books.step_of_exec hfits hmay hexec
    refine hfits'.framed (Books.moved_of_step hstep hfits) fun tx howner => ?_
    exact Books.framed_of_step hstep fun hsame => hapart tx hsame howner
  · intro pool i env thread o answer w j other tx _ _ _ _ _ hfits hmay hexec hown hfits' howner
    exact Books.owner_of_step (Books.step_of_exec hfits hmay hexec) hown (hfits'.owner_lt howner)

theorem TokenStore.registeredWith_iff :
    w.registeredWith inviteId userId = true
      ↔ ∃ redemptionId row, w.redemptions.view redemptionId = some row
        ∧ row.inviteId = inviteId ∧ row.userId = userId := by
  rw [registeredWith, decide_eq_true_iff, count_pos_iff]
  simp only [passing, Bool.and_eq_true, decide_eq_true_eq]
  rfl

theorem Books.Balanced.count_users (h : w.books.Balanced) (inviteId : Uuid) :
    w.redemptions.count (fun _ row => row.inviteId = inviteId)
      = w.users.count fun userId _ => w.registeredWith inviteId userId := by
  apply count_eq_of_match
    fun redemptionId userId =>
      ∃ row, w.redemptions.view redemptionId = some row ∧ row.userId = userId
  · rintro redemptionId ⟨row, hrow, hinvite⟩
    obtain ⟨account, haccount⟩ := Option.ne_none_iff_exists'.mp (h.known redemptionId row hrow)
    have hregistered : w.registeredWith inviteId row.userId = true :=
      registeredWith_iff.mpr ⟨redemptionId, row, hrow, of_decide_eq_true hinvite, rfl⟩
    refine ⟨row.userId, ⟨⟨account, haccount, hregistered⟩, row, hrow, rfl⟩, ?_⟩
    rintro userId ⟨-, row', hrow', rfl⟩
    rw [hrow] at hrow'
    cases hrow'
    rfl
  · rintro userId ⟨account, haccount, hregistered⟩
    obtain ⟨redemptionId, row, hrow, hinvite, huser⟩ :=
      registeredWith_iff.mp hregistered
    refine ⟨redemptionId, ⟨⟨row, hrow, decide_eq_true hinvite⟩, row, hrow, huser⟩, ?_⟩
    rintro other ⟨-, hother⟩
    exact (h.redeemed userId account haccount).unique hother ⟨row, hrow, huser⟩

theorem active_of_counting
    (howning : pool.Owning (registerProtocol hash)
      (fun w => w.books.Balanced ∧ w.books.Unused)
      (fun w call φ => w.books.Fits (call.codeHash hash) φ) RegisterPhase.owner)
    (hholds : ∀ thread ∈ pool.threads, (registerProtocol hash).Holds thread) {i : Nat}
    (h : pool.nextOp i = some (.countRedemption tx inviteId)) :
    ∃ invite, pool.shared.alphaInvites.view inviteId = some invite ∧ invite.disabledAt = none := by
  obtain ⟨call, trace, rest, hthread⟩ := Pool.thread_of_nextOp h
  have hmem := List.mem_of_getElem? hthread
  obtain ⟨invite, hphase, hactive, -⟩ := (hholds _ hmem).1
  have hfits := howning.fits _ hmem
  rw [hphase] at hfits
  exact ⟨invite, hfits.1.view, hactive⟩

theorem ok_of_toOption {ε α : Type} {result : Except ε α} {a : α}
    (h : result.toOption = some a) : result = .ok a := by
  cases result with
  | error e => cases h
  | ok b =>
    cases h
    rfl

theorem settled_of_returned (howning : pool.Owning (registerProtocol hash)
      (fun w => w.books.Balanced ∧ w.books.Unused)
      (fun w call φ => w.books.Fits (call.codeHash hash) φ) RegisterPhase.owner)
    (hholds : ∀ thread ∈ pool.threads, (registerProtocol hash).Holds thread)
    {call : AlphaCall} {trace : List ((o : TokenOp) × o.Resp)} {result : AlphaRet call}
    (hmem : ⟨call, trace, .ret result⟩ ∈ pool.threads) :
    call.Settled hash pool.shared result := by
  have hpost := hholds _ hmem
  have hfits := howning.fits _ hmem
  cases call with
  | disableAlphaInvite inviteId =>
    cases result with
    | error e => trivial
    | ok invite =>
      rw [show _ = RegisterPhase.disabled inviteId from hpost] at hfits
      exact hfits
  | registerUserWithInvite phrase username inviteCode refreshTtl =>
    cases result with
    | error e => trivial
    | ok registration =>
      obtain ⟨codeHash, row, hphase, huser, hdevice⟩ := hpost
      rw [hphase] at hfits
      obtain ⟨hasked, ⟨redemptionId, hrow⟩, invite, hinvite, rfl⟩ := hfits
      refine ⟨redemptionId, row, invite, hrow, huser, hdevice, hinvite, ?_⟩
      exact ok_of_toOption hasked

/-- **Alpha invites bound registrations**, however calls are interleaved, fail and roll back. -/
theorem alpha_invites_bound_registrations (hash : String → String) {w : TokenStore}
    (hunopened : w.Unopened) (hbalanced : w.books.Balanced) {pool : AlphaPool}
    (hreach : (alphaService hash).Reach (fun _ _ => True) (AlphaPool.initial w) pool) :
    (∀ inviteId invite, pool.shared.alphaInvites.view inviteId = some invite →
      invite.redemptionCount
          = pool.shared.users.count (fun userId _ => pool.shared.registeredWith inviteId userId)
        ∧ invite.redemptionCount
          = pool.shared.redemptions.count (fun _ row => row.inviteId = inviteId)
        ∧ invite.redemptionCount ≤ invite.maxRedemptions)
    ∧ (∀ userId account, pool.shared.users.view userId = some account →
      ∃! redemptionId, ∃ row, pool.shared.redemptions.view redemptionId = some row
        ∧ row.userId = userId)
    ∧ (∀ i tx inviteId, pool.nextOp i = some (.countRedemption tx inviteId) →
      ∃ invite, pool.shared.alphaInvites.view inviteId = some invite ∧ invite.disabledAt = none)
    ∧ (∀ call trace result, ⟨call, trace, .ret result⟩ ∈ pool.threads →
      call.Settled hash pool.shared result)
    ∧ ∀ code code', Alpha.normalizeInviteCode code = Alpha.normalizeInviteCode code' →
      ∀ phrase username refreshTtl,
        Alpha.registerUserWithInvite hash phrase username code refreshTtl
          = Alpha.registerUserWithInvite hash phrase username code' refreshTtl := by
  obtain ⟨howning, hholds⟩ := owning_registrations hunopened hbalanced hreach
  have hbalance := howning.shared.1
  refine ⟨fun inviteId invite hview => ?_, hbalance.redeemed, fun i tx inviteId => ?_, ?_, ?_⟩
  · obtain ⟨hcount, hmax⟩ := hbalance.counts inviteId invite hview
    exact ⟨hcount.trans (hbalance.count_users inviteId), hcount, hmax⟩
  · exact active_of_counting howning hholds
  · intro call trace result
    exact settled_of_returned howning hholds
  · intro code code' hcode phrase username refreshTtl
    simp only [Alpha.registerUserWithInvite, Alpha.redeemAlphaInvite, Alpha.hashInviteCode, hcode]

end

def TokenStore.withInvite (inviteId : Uuid) (codeHash : String) : TokenStore where
  tokens := .empty
  devices := .empty
  users := .empty
  alphaInvites := Table.empty.put inviteId (some ⟨codeHash, none, none, 2, 0⟩)
  redemptions := .empty
  pairings := .empty
  drawn := []
  nextTx := 0

def firstId : Uuid := ⟨"00000000-0000-4000-8000-000000000001", by decide⟩

theorem TokenStore.unopened_withInvite (inviteId : Uuid) (codeHash : String) :
    (withInvite inviteId codeHash).Unopened := by
  refine ⟨fun k => ?_, fun k => rfl, fun k => rfl⟩
  rw [withInvite, written_put]
  rfl

theorem TokenStore.balanced_withInvite (inviteId : Uuid) (codeHash : String) :
    (withInvite inviteId codeHash).books.Balanced where
  counts k invite hview := by
    simp only [books, withInvite, view_put, update_apply] at hview
    split_ifs at hview
    · cases hview
      exact ⟨rfl, Nat.zero_le _⟩
    · cases hview
  redeemed userId account hview := by cases hview
  known redemptionId row hview := by cases hview

def hasDisabled (inviteId : Uuid) : Thread TokenOp.Resp AlphaRet → Bool
  | ⟨.disableAlphaInvite inviteId', _, .ret (.ok _)⟩ => inviteId' = inviteId
  | _ => false

def firstEnv : TokenEnv := ⟨0, none, "token", "access", firstId, "id", "salt", "verifier"⟩

/-- A registration commits. A second one has begun when the invite is disabled, and is refused. -/
theorem alpha_invites_bound_registrations_disabled :
    ∃ pool : AlphaPool,
      (alphaService id).Reach (fun _ _ => True)
          (AlphaPool.initial (.withInvite firstId "ABCD")) pool
        ∧ pool.shared.users.count (fun userId _ => pool.shared.registeredWith firstId userId) = 1
        ∧ ∃ invite, pool.shared.alphaInvites.view firstId = some invite
          ∧ invite.disabledAt ≠ none := by
  obtain ⟨pool, hreach, ⟨invite, hview, hone⟩, thread, hmem, hdisables⟩ :=
    System.exists_reach_of_replay (alphaService id)
      (fun _ _ => True) (AlphaPool.initial (.withInvite firstId "ABCD"))
      (.start (.registerUserWithInvite "phrase" "name" " ab-cd " 10)
        :: .start (.registerUserWithInvite "phrase" "name" "ABCD" 10)
        :: .start (.disableAlphaInvite firstId)
        :: List.replicate 17 (.step 0 firstEnv) ++ .step 1 firstEnv :: .step 2 firstEnv
        :: List.replicate 3 (.step 1 firstEnv))
      (fun pool => (∃ invite ∈ pool.shared.alphaInvites.view firstId, invite.redemptionCount = 1)
        ∧ ∃ thread ∈ pool.threads, hasDisabled firstId thread = true)
      (by decide +kernel)
  obtain ⟨hcounts, -, -, hsettled, -⟩ := alpha_invites_bound_registrations id
    (unopened_withInvite firstId "ABCD") (balanced_withInvite firstId "ABCD") hreach
  refine ⟨pool, hreach, (hcounts firstId invite hview).1.symm.trans hone, ?_⟩
  unfold hasDisabled at hdisables
  split at hdisables
  · cases of_decide_eq_true hdisables
    exact hsettled _ _ _ hmem
  · cases hdisables

end Wavis
