import Wavis.AlphaInvites

namespace Wavis

open Concurrency Prog

inductive RegisterPhase where
  | outside
  | opened (tx : TxId)
  /-- The invite is locked as it was found. -/
  | locked (tx : TxId) (inviteId : Uuid) (invite : AlphaInvite)
  | counted (tx : TxId) (inviteId : Uuid) (invite : AlphaInvite)
  | created (tx : TxId) (inviteId : Uuid) (invite : AlphaInvite) (userId : Uuid)
  | recorded (tx : TxId) (inviteId : Uuid) (invite : AlphaInvite) (row : Redemption)
  | registered (codeHash : String) (row : Redemption)
  | disabled (inviteId : Uuid)

namespace RegisterPhase

def owner : RegisterPhase → Option TxId
  | opened tx => some tx
  | locked tx _ _ => some tx
  | counted tx _ _ => some tx
  | created tx _ _ _ => some tx
  | recorded tx _ _ _ => some tx
  | _ => none

def next (φ : RegisterPhase) : (o : TokenOp) → o.Resp → RegisterPhase
  | .begin, .ok (tx, _) => opened tx
  | .selectInviteForUpdate tx _, .ok (some (inviteId, invite)) => locked tx inviteId invite
  | .countRedemption _ _, .ok () =>
    match φ with
    | locked tx inviteId invite => counted tx inviteId invite
    | φ => φ
  | .insertUser _, .ok userId =>
    match φ with
    | counted tx inviteId invite => created tx inviteId invite userId
    | φ => φ
  | .insertRedemption _ row, .ok () =>
    match φ with
    | created tx inviteId invite _ => recorded tx inviteId invite row
    | φ => φ
  | .commit _, .ok () =>
    match φ with
    | recorded _ _ invite row => registered invite.codeHash row
    | φ => φ
  | .disableInvite inviteId, .ok (some _) => disabled inviteId
  | .commit _, .error _ => outside
  | .rollback _, _ => outside
  | _, _ => φ

/-- The step writes neither invites nor users nor redemptions. -/
def aside : TokenOp → Bool
  | .getNow => true
  | .generateRefreshToken => true
  | .signAccessToken _ _ _ => true
  | .hashPhrase _ _ => true
  | .generateRecoveryId => true
  | .genRandomUuid => true
  | .recoveryIdExists _ _ => true
  | .insertDevice _ _ _ => true
  | .insertToken _ _ _ => true
  | _ => false

def May (codeHash : Option String) (φ : RegisterPhase) : TokenOp → Prop
  | .begin => φ = outside
  | .selectInviteForUpdate tx hash => φ = opened tx ∧ codeHash = some hash
  | .countRedemption tx inviteId =>
    ∃ invite, φ = locked tx inviteId invite ∧ invite.disabledAt = none
      ∧ invite.redemptionCount < invite.maxRedemptions
  | .disableInvite _ => φ = outside
  | .insertUser tx => ∃ inviteId invite, φ = counted tx inviteId invite
  | .updateUser tx userId _ => ∃ inviteId invite, φ = created tx inviteId invite userId
  | .insertRedemption tx row =>
    ∃ invite, φ = created tx row.inviteId invite row.userId
  | .commit tx => ∃ inviteId invite row, φ = recorded tx inviteId invite row
  | .rollback tx => φ.owner = some tx
  | o => aside o = true

end RegisterPhase

def AlphaCall.codeHash (hash : String → String) : AlphaCall → Option String
  | .registerUserWithInvite _ _ inviteCode _ => (Alpha.hashInviteCode hash inviteCode).toOption
  | .disableAlphaInvite _ => none

def RegisterPhase.Redeemed (φ : RegisterPhase) : Except RegisterError DeviceRegistration → Prop
  | .ok registration =>
    ∃ codeHash row, φ = registered codeHash row ∧ row.userId = registration.userId
      ∧ row.deviceId = registration.deviceId
  | .error _ => True

def RegisterPhase.Post : (call : AlphaCall) → RegisterPhase → AlphaRet call → Prop
  | .registerUserWithInvite _ _ _ _, φ, result => φ.Redeemed result
  | .disableAlphaInvite inviteId, φ, .ok _ => φ = .disabled inviteId
  | .disableAlphaInvite _, _, .error _ => True

def registerProtocol (hash : String → String) :
    Protocol TokenOp.Resp AlphaRet RegisterPhase where
  init _ := .outside
  next := RegisterPhase.next
  may call := RegisterPhase.May (call.codeHash hash)
  post := RegisterPhase.Post

section

variable {φ : RegisterPhase} {o : TokenOp}

open RegisterPhase

variable {codeHash : Option String} {α : Type} {tx : TxId} (hash : String → String)

abbrev Registers (codeHash : Option String) (post : RegisterPhase → α → Prop)
    (program : TokenProg α) (φ : RegisterPhase) : Prop :=
  program.Obeys RegisterPhase.next (RegisterPhase.May codeHash) post φ

theorem RegisterPhase.next_aside (h : aside o = true) (answer : o.Resp) : φ.next o answer = φ := by
  cases o <;> first | rfl | cases h

theorem RegisterPhase.may_aside (h : aside o = true) : May codeHash φ o := by
  cases o <;> first | exact h | cases h

theorem registers_aside {post : RegisterPhase → α → Prop} {rest : o.Resp → TokenProg α}
    (h : aside o = true) (hrest : ∀ answer, Registers codeHash post (rest answer) φ) :
    Registers codeHash post (.op o rest) φ := by
  refine ⟨may_aside h, fun answer => ?_⟩
  rw [next_aside h]
  exact hrest answer

/-- What a part of a registration leaves behind: an open transaction when it fails. -/
def Leaves {ε : Type} (tx : TxId) (post : RegisterPhase → α → Prop) (φ : RegisterPhase) :
    Except ε α → Prop
  | .error _ => φ.owner = some tx
  | .ok a => post φ a

theorem registers_within_aside {program : TokenProg α}
    (h : program.Within fun o => aside o = true) :
    Registers codeHash (fun φ' _ => φ' = φ) program φ := by
  refine h.obeys ?_ ?_
  · exact rfl
  · intro φ' o hφ haside
    exact ⟨may_aside haside, fun answer => (next_aside haside answer).trans hφ⟩

theorem registers_trying_aside {ε β : Type} {post : RegisterPhase → β → Prop} {wrap : String → ε}
    {statement : TokenProg (Except String α)} {next : α → TokenProg (Except ε β)}
    (hstatement : statement.Within fun o => aside o = true) (howner : φ.owner = some tx)
    (hnext : ∀ a, Registers codeHash (Leaves tx post) (next a) φ) :
    Registers codeHash (Leaves tx post) (trying wrap statement next) φ := by
  apply obeys_trying
  refine (registers_within_aside hstatement).mono fun φ' r hφ => ?_
  subst hφ
  cases r with
  | error e => exact howner
  | ok a => exact hnext a

theorem registers_redeemHashedInvite (tx : TxId) (hash : String) :
    Registers (some hash) (Leaves tx fun φ inviteId => ∃ invite, φ = counted tx inviteId invite)
      (Alpha.redeemHashedInvite tx hash) (opened tx) := by
  refine obeys_trying ⟨⟨rfl, rfl⟩, fun answer => ?_⟩
  match answer with
  | .error e | .ok none => exact rfl
  | .ok (some (inviteId, invite)) =>
    refine registers_aside rfl fun now => ?_
    split_ifs with hactive
    · exact rfl
    · simp only [Alpha.active, Bool.not_eq_true', Bool.not_eq_false, Bool.and_eq_true,
        Option.isNone_iff_eq_none, decide_eq_true_eq] at hactive
      refine obeys_trying ⟨⟨invite, rfl, hactive.1.1, hactive.2⟩, fun answer => ?_⟩
      match answer with
      | .error e => exact rfl
      | .ok () => exact ⟨invite, rfl⟩

theorem within_generateUniqueRecoveryIdInTx (tx : TxId) (left : Nat) :
    (Alpha.generateUniqueRecoveryIdInTx tx left).Within fun o => aside o = true := by
  induction left with
  | zero => trivial
  | succ left ih =>
    refine ⟨rfl, fun recoveryId => Within.bind (Within.perform rfl) fun answer => ?_⟩
    match answer with
    | .error e => trivial
    | .ok true => exact ih
    | .ok false => trivial

theorem registers_createUser (tx : TxId) (phrase username : String) (refreshTtl : Duration)
    (inviteId : Uuid) (invite : AlphaInvite) :
    Registers codeHash
      (Leaves tx fun φ registration => ∃ row, φ = recorded tx inviteId invite row
        ∧ row.userId = registration.userId ∧ row.deviceId = registration.deviceId)
      (Alpha.createUser tx phrase username refreshTtl inviteId) (counted tx inviteId invite) := by
  refine obeys_trying ⟨⟨inviteId, invite, rfl⟩, fun answer => ?_⟩
  match answer with
  | .error e => exact rfl
  | .ok userId =>
    refine registers_trying_aside (.perform rfl) rfl fun (salt, verifier) => ?_
    refine (registers_within_aside (within_generateUniqueRecoveryIdInTx tx 6)).bind
      fun φ r hφ => ?_
    subst hφ
    cases r with
    | error e => exact rfl
    | ok recoveryId =>
      refine obeys_trying ⟨⟨inviteId, invite, rfl⟩, fun answer => ?_⟩
      match answer with
      | .error e => exact rfl
      | .ok () =>
        refine registers_trying_aside (.perform rfl) rfl fun deviceId => ?_
        refine registers_aside rfl fun token => registers_aside rfl fun now =>
          registers_aside rfl fun familyId => ?_
        refine registers_trying_aside (.perform rfl) rfl fun _ => ?_
        refine obeys_trying ⟨⟨invite, rfl⟩, fun answer => ?_⟩
        match answer with
        | .error e => exact rfl
        | .ok () =>
          exact registers_trying_aside (.perform rfl) rfl fun _ => ⟨_, rfl, rfl, rfl⟩

theorem registers_afterRedeeming {phrase username : String} {refreshTtl : Duration}
    {result : Except AlphaInviteError Uuid}
    (h : Leaves tx (fun φ inviteId => ∃ invite, φ = counted tx inviteId invite) φ result) :
    Registers codeHash RegisterPhase.Redeemed
      (Alpha.finishRegistration tx phrase username refreshTtl result) φ := by
  cases result with
  | error e => exact ⟨h, fun _ => trivial⟩
  | ok inviteId =>
    obtain ⟨invite, rfl⟩ := h
    refine (registers_createUser tx phrase username refreshTtl inviteId invite).bind
      fun φ r hr => ?_
    cases r with
    | error e => exact ⟨hr, fun _ => trivial⟩
    | ok registration =>
      obtain ⟨row, rfl, huser, hdevice⟩ := hr
      refine obeys_trying ⟨⟨inviteId, invite, row, rfl⟩, fun answer => ?_⟩
      match answer with
      | .error e => trivial
      | .ok () => exact ⟨invite.codeHash, row, rfl, huser, hdevice⟩

theorem registers_registerUserWithInvite (phrase username inviteCode : String)
    (refreshTtl : Duration) :
    Registers (Alpha.hashInviteCode hash inviteCode).toOption RegisterPhase.Redeemed
      (Alpha.registerUserWithInvite hash phrase username inviteCode refreshTtl) outside := by
  unfold Alpha.registerUserWithInvite Alpha.redeemAlphaInvite
  cases Alpha.hashInviteCode hash inviteCode with
  | error e =>
    refine obeys_trying ⟨rfl, fun answer => ?_⟩
    match answer with
    | .error e => trivial
    | .ok (tx, now) => exact ⟨rfl, fun _ => trivial⟩
  | ok codeHash =>
    refine obeys_trying ⟨rfl, fun answer => ?_⟩
    match answer with
    | .error e => trivial
    | .ok (tx, now) =>
      exact (registers_redeemHashedInvite tx codeHash).bind fun φ r => registers_afterRedeeming

theorem registers_disableAlphaInvite (inviteId : Uuid) :
    Registers codeHash (RegisterPhase.Post (.disableAlphaInvite inviteId))
      (Alpha.disableAlphaInvite inviteId) outside := by
  refine obeys_trying ⟨rfl, fun answer => ?_⟩
  match answer with
  | .error e | .ok none => trivial
  | .ok (some invite) => exact rfl

theorem holds_registerProtocol (call : AlphaCall) :
    (registerProtocol hash).Holds ((alphaService hash).spawn call) := by
  cases call with
  | registerUserWithInvite phrase username inviteCode refreshTtl =>
    exact registers_registerUserWithInvite hash phrase username inviteCode refreshTtl
  | disableAlphaInvite inviteId => exact registers_disableAlphaInvite inviteId

end

end Wavis
