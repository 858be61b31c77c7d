import Wavis.Proof.PairingProtocol
import Wavis.Concurrency.Drafts

/-! Every write of a pairing is a single statement that checks the row it changes, so what a call
has read before does not matter. -/

namespace Wavis

open Concurrency Function Table Pairing

open Table (blank single)

structure PairBooks where
  pairings : Table Uuid Pairing
  devices : Table Uuid Device
  tokens : Table String RefreshToken
  drawn : List String
  nextTx : TxId

def TokenStore.pairBooks (w : TokenStore) : PairBooks :=
  ⟨w.pairings, w.devices, w.tokens, w.drawn, w.nextTx⟩

namespace Pairing

variable {pairing : Pairing} {now : Instant}

def attempted (pairing : Pairing) : Pairing :=
  { pairing with attemptCount := pairing.attemptCount + 1 }

def approved (pairing : Pairing) (userId deviceId : Uuid) (now : Instant) : Pairing :=
  { pairing with
    approvedUserId := some userId, approvedByDeviceId := some deviceId, approvedAt := some now }

def used (pairing : Pairing) (now : Instant) : Pairing := { pairing with usedAt := some now }

structure Later (before after : Pairing) : Prop where
  codeHash : after.codeHash = before.codeHash
  deviceName : after.requestDeviceName = before.requestDeviceName
  attempts : before.attemptCount ≤ after.attemptCount
  approved : before.approvedAt.isSome ∨ 5 ≤ before.attemptCount →
    after.approvedAt = before.approvedAt ∧ after.approvedUserId = before.approvedUserId
  used : before.usedAt.isSome ∨ 5 ≤ before.attemptCount → after.usedAt = before.usedAt

theorem Later.refl (pairing : Pairing) : Later pairing pairing :=
  ⟨rfl, rfl, le_rfl, fun _ => ⟨rfl, rfl⟩, fun _ => rfl⟩

theorem Later.trans {first second third : Pairing} (h : Later first second)
    (h' : Later second third) : Later first third where
  codeHash := h'.codeHash.trans h.codeHash
  deviceName := h'.deviceName.trans h.deviceName
  attempts := h.attempts.trans h'.attempts
  approved hfirst := by
    obtain ⟨happroved, huser⟩ := h.approved hfirst
    have hsecond : second.approvedAt.isSome ∨ 5 ≤ second.attemptCount :=
      hfirst.imp (fun hsome => happroved ▸ hsome) fun hfive => hfive.trans h.attempts
    obtain ⟨happroved', huser'⟩ := h'.approved hsecond
    exact ⟨happroved'.trans happroved, huser'.trans huser⟩
  used hfirst := by
    have hused := h.used hfirst
    have hsecond : second.usedAt.isSome ∨ 5 ≤ second.attemptCount :=
      hfirst.imp (fun hsome => hused ▸ hsome) fun hfive => hfive.trans h.attempts
    exact (h'.used hsecond).trans hused

theorem usable_iff :
    pairing.usable now = true ↔ pairing.approvedAt.isSome = true
      ∧ (pairing.usedAt = none ∧ now < pairing.expiresAt) ∧ pairing.attemptCount < 5 := by
  simp [usable, pending, and_assoc]

theorem approvable_iff :
    pairing.approvable now = true ↔ pairing.approvedAt = none
      ∧ (pairing.usedAt = none ∧ now < pairing.expiresAt) ∧ pairing.attemptCount < 5 := by
  simp [approvable, pending, and_assoc]

theorem later_attempted (pairing : Pairing) : Later pairing pairing.attempted :=
  ⟨rfl, rfl, Nat.le_succ _, fun _ => ⟨rfl, rfl⟩, fun _ => rfl⟩

theorem later_approved (userId deviceId : Uuid) (h : pairing.approvable now = true) :
    Later pairing (pairing.approved userId deviceId now) := by
  obtain ⟨happroved, -, hfive⟩ := approvable_iff.mp h
  refine ⟨rfl, rfl, le_rfl, ?_, fun _ => rfl⟩
  rintro (hsome | hmany)
  · rw [happroved] at hsome
    cases hsome
  · exact absurd hmany (Nat.not_le_of_lt hfive)

theorem later_used (h : pairing.usable now = true) : Later pairing (pairing.used now) := by
  obtain ⟨-, ⟨hused, -⟩, hfive⟩ := usable_iff.mp h
  refine ⟨rfl, rfl, le_rfl, fun _ => ⟨rfl, rfl⟩, ?_⟩
  rintro (hsome | hmany)
  · rw [hused] at hsome
    cases hsome
  · exact absurd hmany (Nat.not_le_of_lt hfive)

end Pairing

variable {hash : String → String} {call : PairingCall} {φ φ' : PairPhase}

namespace PairBooks

variable {call' : PairingCall} {b b' : PairBooks}

structure Drafted (b : PairBooks) (tx : TxId) (pairings : Uuid → Option (Option Pairing))
    (devices : Uuid → Option (Option Device)) (tokens : String → Option (Option RefreshToken)) :
    Prop where
  opened : tx < b.nextTx
  pairings : b.pairings.draft tx = pairings
  devices : b.devices.draft tx = devices
  tokens : b.tokens.draft tx = tokens

/-- The code of the call is the right one for its pairing. -/
structure Right (hash : String → String) (b : PairBooks) (call : PairingCall) (pairing : Pairing) :
    Prop where
  view : b.pairings.view call.pairingId = some pairing
  code : pairing.codeHash = hash call.code

structure Taken (hash : String → String) (b : PairBooks) (call : PairingCall) (use : PairingUse)
    (pairing : Pairing) : Prop where
  right : Right hash b call pairing
  same : use.pairingId = call.pairingId
  usable : pairing.usable use.usedAt = true
  user : pairing.approvedUserId = some use.userId
  name : pairing.requestDeviceName = use.deviceName

def Fresh (b : PairBooks) (token : String) : Prop :=
  (b.tokens.rows token).written = none ∧ b.tokens.view token = none

def newDevice (use : PairingUse) : Device := ⟨use.userId, use.deviceName, none⟩

def Fits (hash : String → String) (b : PairBooks) (call : PairingCall) : PairPhase → Prop
  | .outside => True
  | .read codeHash =>
    ∃ pairing, b.pairings.view call.pairingId = some pairing ∧ pairing.codeHash = codeHash
  | .attempted pairingId count =>
    1 ≤ count ∧ ∃ pairing, b.pairings.view pairingId = some pairing
      ∧ count ≤ pairing.attemptCount
  | .approved pairingId userId =>
    pairingId = call.pairingId ∧ ∃ pairing, Right hash b call pairing
      ∧ pairing.approvedAt.isSome ∧ pairing.approvedUserId = some userId
  | .opened tx => (∃ pairing, Right hash b call pairing) ∧ b.Drafted tx blank blank blank
  | .used use =>
    ∃ pairing, Taken hash b call use pairing
      ∧ b.Drafted use.tx (single use.pairingId (pairing.used use.usedAt)) blank blank
  | .paired use deviceId =>
    ∃ pairing, Taken hash b call use pairing ∧ b.devices.view deviceId = none
      ∧ b.Drafted use.tx (single use.pairingId (pairing.used use.usedAt))
        (single deviceId (newDevice use)) blank
  | .drawn use deviceId token =>
    ∃ pairing, Taken hash b call use pairing ∧ b.devices.view deviceId = none
      ∧ b.Fresh token ∧ token ∈ b.drawn
      ∧ b.Drafted use.tx (single use.pairingId (pairing.used use.usedAt))
        (single deviceId (newDevice use)) blank
  | .issued use deviceId token =>
    ∃ pairing row, Taken hash b call use pairing ∧ b.devices.view deviceId = none
      ∧ b.tokens.view token = none ∧ token ∈ b.drawn ∧ row.deviceId = deviceId
      ∧ b.Drafted use.tx (single use.pairingId (pairing.used use.usedAt))
        (single deviceId (newDevice use)) (single token row)
  | .finished pairingId userId deviceId token =>
    pairingId = call.pairingId ∧ ∃ pairing row, Right hash b call pairing
      ∧ pairing.approvedUserId = some userId ∧ pairing.approvedAt.isSome ∧ pairing.usedAt.isSome
      ∧ b.devices.view deviceId = some ⟨userId, pairing.requestDeviceName, none⟩
      ∧ b.tokens.view token = some row ∧ row.deviceId = deviceId ∧ token ∈ b.drawn

structure Sound (b : PairBooks) : Prop where
  unused : ∀ tx, b.nextTx ≤ tx →
    b.pairings.draft tx = blank ∧ b.devices.draft tx = blank ∧ b.tokens.draft tx = blank
  fresh : ∀ token, token ∉ b.drawn → b.Fresh token
  named : ∀ pairingId pairing, b.pairings.view pairingId = some pairing →
    pairing.approvedAt.isSome → pairing.approvedUserId.isSome

inductive Step (hash : String → String) (call : PairingCall) (b : PairBooks) :
    PairPhase → PairPhase → PairBooks → Prop
  | aside (φ : PairPhase) : Step hash call b φ φ b
  | read {φ : PairPhase} {pairing : Pairing}
      (hview : b.pairings.view call.pairingId = some pairing) :
      Step hash call b φ (.read pairing.codeHash) b
  | attempted {codeHash : String} {pairing : Pairing}
      (hfree : (b.pairings.rows call.pairingId).Free none)
      (hview : b.pairings.view call.pairingId = some pairing) :
      Step hash call b (.read codeHash) (.attempted call.pairingId (pairing.attemptCount + 1))
        { b with pairings := b.pairings.put call.pairingId (some pairing.attempted) }
  | approved {pairing : Pairing} (userId deviceId : Uuid) (now : Instant)
      (hfree : (b.pairings.rows call.pairingId).Free none)
      (hview : b.pairings.view call.pairingId = some pairing)
      (hopen : pairing.approvable now = true) :
      Step hash call b (.read (hash call.code)) (.approved call.pairingId userId)
        { b with pairings :=
            b.pairings.put call.pairingId (some (pairing.approved userId deviceId now)) }
  | opened : Step hash call b (.read (hash call.code)) (.opened b.nextTx)
      { b with nextTx := b.nextTx + 1 }
  | used {use : PairingUse} {pairing : Pairing} (hsame : use.pairingId = call.pairingId)
      (hfree : (b.pairings.rows use.pairingId).Free (some use.tx))
      (hrow : (b.pairings.rows use.pairingId).visible (some use.tx) = some pairing)
      (husable : pairing.usable use.usedAt = true)
      (huser : pairing.approvedUserId = some use.userId)
      (hname : pairing.requestDeviceName = use.deviceName) :
      Step hash call b (.opened use.tx) (.used use)
        { b with pairings :=
            b.pairings.stage use.tx use.pairingId (some (pairing.used use.usedAt)) }
  | paired {use : PairingUse} {deviceId : Uuid} (hnew : deviceId ∉ b.devices.keys) :
      Step hash call b (.used use) (.paired use deviceId)
        { b with devices := b.devices.stage use.tx deviceId (some (newDevice use)) }
  | drew {use : PairingUse} {deviceId : Uuid} {token : String} (hnew : token ∉ b.drawn) :
      Step hash call b (.paired use deviceId) (.drawn use deviceId token)
        { b with drawn := token :: b.drawn }
  | issued {use : PairingUse} {token : String} {row : RefreshToken} :
      Step hash call b (.drawn use row.deviceId token) (.issued use row.deviceId token)
        { b with tokens := b.tokens.stage use.tx token (some row) }
  | committed {use : PairingUse} {deviceId : Uuid} {token : String} :
      Step hash call b (.issued use deviceId token)
        (.finished use.pairingId use.userId deviceId token)
        { b with
          pairings := b.pairings.commit use.tx
          devices := b.devices.commit use.tx
          tokens := b.tokens.commit use.tx }
  | ended {φ : PairPhase} {tx : TxId} (howner : φ.owner = some tx) :
      Step hash call b φ .outside
        { b with
          pairings := b.pairings.rollback tx
          devices := b.devices.rollback tx
          tokens := b.tokens.rollback tx }

end PairBooks

variable {pairingId : Uuid} {tx : TxId} {α : Type}

section

variable {w w' : TokenStore} {env : TokenEnv} {o : TokenOp} {answer : o.Resp}

theorem TokenStore.updatePairing_cases {test : Pairing → Bool} {change : Pairing → Pairing}
    {nothing : α} {answer : Pairing → α} {result : Except String α}
    (h : w.updatePairing pairingId test change nothing answer = some (result, w')) :
    (result = .ok nothing ∧ w' = w)
      ∨ ∃ pairing, w.pairings.view pairingId = some pairing ∧ test pairing = true
        ∧ (w.pairings.rows pairingId).Free none ∧ result = .ok (answer (change pairing))
        ∧ w' = { w with pairings := w.pairings.put pairingId (some (change pairing)) } := by
  simp only [updatePairing, visible_none] at h
  split at h
  · cases h
    exact .inl ⟨rfl, rfl⟩
  · rename_i pairing hrow
    split_ifs at h with htest hfree
    · cases h
      exact .inl ⟨rfl, rfl⟩
    · cases h
      exact .inr ⟨pairing, hrow, by simpa using htest, hfree, rfl, rfl⟩

theorem TokenStore.usePairing_cases {now : Instant}
    {result : Except String (Option (Uuid × String))}
    (hnamed : ∀ pairing, (w.pairings.rows pairingId).visible (some tx) = some pairing →
      pairing.approvedAt.isSome → pairing.approvedUserId.isSome)
    (h : w.usePairing tx pairingId now = some (result, w')) :
    (result = .ok none ∧ w' = w)
      ∨ ∃ pairing userId, (w.pairings.rows pairingId).visible (some tx) = some pairing
        ∧ pairing.usable now = true ∧ (w.pairings.rows pairingId).Free (some tx)
        ∧ pairing.approvedUserId = some userId
        ∧ result = .ok (some (userId, pairing.requestDeviceName))
        ∧ w' = { w with pairings := w.pairings.stage tx pairingId (some (pairing.used now)) } := by
  unfold usePairing at h
  dsimp only at h
  split at h
  · cases h
    exact .inl ⟨rfl, rfl⟩
  · rename_i pairing hrow
    split_ifs at h with husable hfree
    · cases h
      exact .inl ⟨rfl, rfl⟩
    · have husable' : pairing.usable now = true := by simpa using husable
      have hsome := hnamed pairing hrow (usable_iff.mp husable').1
      split at h
      · rename_i hnone
        rw [hnone] at hsome
        cases hsome
      · rename_i userId huser
        cases h
        exact .inr ⟨pairing, userId, hrow, husable', hfree, huser, rfl, rfl⟩

theorem TokenStore.pairBooks_of_aside (h : PairPhase.aside o = true)
    (hexec : o.exec env w = some (answer, w')) : w'.pairBooks = w.pairBooks := by
  cases o with
  | getNow | genRandomUuid => cases hexec; rfl
  | signAccessToken userId deviceId epoch | selectEpoch tx userId | selectPairing tx pairingId =>
    refine TokenEnv.of_fallible hexec (fun _ => rfl) fun hrun => ?_
    cases hrun
    rfl
  | _ => cases h

/-- **What a statement of a call does.** -/
theorem PairBooks.step_of_exec (hsound : w.pairBooks.Sound) (hfits : w.pairBooks.Fits hash call φ)
    (hmay : φ.May hash call o) (hexec : o.exec env w = some (answer, w')) :
    Step hash call w.pairBooks φ (φ.next o answer) w'.pairBooks := by
  cases o with
  | selectPairing tx pairingId =>
    cases tx with
    | some tx =>
      have haside : PairPhase.aside (.selectPairing (some tx) pairingId) = true := rfl
      rw [PairPhase.next_aside haside, TokenStore.pairBooks_of_aside haside hexec]
      exact .aside φ
    | none =>
      obtain ⟨-, rfl⟩ := hmay
      refine TokenEnv.of_fallible hexec (fun _ => .aside φ) fun hrun => ?_
      rw [visible_none] at hrun
      cases hrow : (w.pairings.rows call.pairingId).committed with
      | none =>
        rw [hrow] at hrun
        cases hrun
        exact .aside φ
      | some pairing =>
        rw [hrow] at hrun
        cases hrun
        exact .read hrow
  | countAttempt pairingId =>
    obtain ⟨codeHash, rfl, rfl⟩ := hmay
    refine TokenEnv.of_fallible hexec (fun _ => .aside _) fun hrun => ?_
    rcases TokenStore.updatePairing_cases hrun with
      ⟨rfl, rfl⟩ | ⟨pairing, hview, -, hfree, rfl, rfl⟩
    · exact .aside _
    · exact .attempted hfree hview
  | approvePairing pairingId userId deviceId =>
    obtain ⟨rfl, hcall⟩ := hmay
    have hsame : pairingId = call.pairingId := by rw [hcall]; rfl
    subst hsame
    refine TokenEnv.of_fallible hexec (fun _ => .aside _) fun hrun => ?_
    rcases TokenStore.updatePairing_cases hrun with
      ⟨rfl, rfl⟩ | ⟨pairing, hview, hopen, hfree, rfl, rfl⟩
    · exact .aside _
    · exact .approved userId deviceId env.now hfree hview hopen
  | begin =>
    cases (hmay : φ = .read (hash call.code))
    refine TokenEnv.of_fallible hexec (fun _ => .aside _) fun hrun => ?_
    cases hrun
    exact .opened
  | usePairing tx pairingId now =>
    obtain ⟨rfl, rfl⟩ := hmay
    refine TokenEnv.of_fallible hexec (fun _ => .aside _) fun hrun => ?_
    have hdraft : w.pairings.draft tx = blank := hfits.2.pairings
    have hnamed : ∀ pairing,
        (w.pairings.rows call.pairingId).visible (some tx) = some pairing →
        pairing.approvedAt.isSome → pairing.approvedUserId.isSome := by
      intro pairing hrow
      rw [visible_eq, hdraft] at hrow
      exact hsound.named call.pairingId pairing hrow
    rcases TokenStore.usePairing_cases hnamed hrun with
      ⟨rfl, rfl⟩ | ⟨pairing, userId, hrow, husable, hfree, huser, rfl, rfl⟩
    · exact .aside _
    · let use : PairingUse := ⟨tx, call.pairingId, userId, pairing.requestDeviceName, now⟩
      have hsame : use.pairingId = call.pairingId := rfl
      exact .used hsame hfree hrow husable huser rfl
  | insertDevice tx userId deviceName =>
    obtain ⟨use, rfl, rfl, rfl, rfl⟩ := hmay
    refine TokenEnv.of_fallible hexec (fun _ => .aside _) fun hrun => ?_
    simp only [TokenStore.insertDevice] at hrun
    split_ifs at hrun with hnew hforeign
    · cases hrun
      exact .aside _
    · cases hrun
      exact .paired hnew
  | generateRefreshToken =>
    obtain ⟨use, deviceId, rfl⟩ := hmay
    simp only [TokenOp.exec] at hexec
    split_ifs at hexec with hnew
    cases hexec
    exact .drew hnew
  | insertToken tx token row =>
    obtain ⟨use, rfl, rfl⟩ := hmay
    refine TokenEnv.of_fallible hexec (fun _ => .aside _) fun hrun => ?_
    simp only [TokenStore.insertToken, Option.some.injEq] at hrun
    split_ifs at hrun with hforeign
    · cases hrun
      exact .aside _
    · cases hrun
      exact .issued
  | commit tx =>
    obtain ⟨use, deviceId, token, rfl, rfl⟩ := hmay
    simp only [TokenOp.exec] at hexec
    split at hexec
    · cases hexec
      exact .ended rfl
    · cases hexec
      exact .committed
  | rollback tx =>
    cases hexec
    exact .ended hmay
  | _ =>
    have haside : PairPhase.aside _ = true := hmay.1
    rw [PairPhase.next_aside haside, TokenStore.pairBooks_of_aside haside hexec]
    exact .aside φ

end

namespace PairBooks

variable {token : String} {deviceId k : Uuid} {b b' : PairBooks} {table' table : Table Uuid Pairing}
  {pairing after : Pairing}

structure Grown (b b' : PairBooks) : Prop where
  pairings : ∀ pairingId pairing, b.pairings.view pairingId = some pairing →
    ∃ after, b'.pairings.view pairingId = some after ∧ Pairing.Later pairing after
  devices : ∀ deviceId device, b.devices.view deviceId = some device →
    b'.devices.view deviceId = some device
  tokens : ∀ token row, b.tokens.view token = some row → b'.tokens.view token = some row
  drawn : ∀ token ∈ b.drawn, token ∈ b'.drawn

theorem Grown.refl (b : PairBooks) : Grown b b :=
  ⟨fun _ pairing h => ⟨pairing, h, .refl pairing⟩, fun _ _ => id, fun _ _ => id, fun _ => id⟩

theorem later_of_update {before : Pairing} (hbefore : table.view k = some before)
    (hlater : Pairing.Later before after) (h : table'.view = update table.view k (some after))
    (pairingId : Uuid) (pairing : Pairing) (hview : table.view pairingId = some pairing) :
    ∃ after, table'.view pairingId = some after ∧ Pairing.Later pairing after := by
  rw [h, update_apply]
  split_ifs with hk
  · subst hk
    rw [hbefore] at hview
    cases hview
    exact ⟨after, rfl, hlater⟩
  · exact ⟨pairing, hview, .refl pairing⟩

theorem view_of_update {K : Type} [DecidableEq K] {table table' : Table K α} {k : K} {row : α}
    (hnew : table.view k = none) (h : table'.view = update table.view k (some row)) (k' : K)
    (row' : α) (hview : table.view k' = some row') : table'.view k' = some row' := by
  rw [h, update_of_ne, hview]
  rintro rfl
  rw [hnew] at hview
  cases hview

theorem grown_of_step (hstep : Step hash call b φ φ' b') (hfits : b.Fits hash call φ) :
    Grown b b' := by
  cases hstep with
  | attempted hfree hview =>
    refine ⟨?_, fun _ _ => id, fun _ _ => id, fun _ => id⟩
    exact later_of_update hview (later_attempted _) view_put
  | approved userId deviceId now hfree hview hopen =>
    refine ⟨?_, fun _ _ => id, fun _ _ => id, fun _ => id⟩
    exact later_of_update hview (later_approved userId deviceId hopen) view_put
  | used =>
    refine ⟨fun pairingId pairing hview => ⟨pairing, ?_, .refl pairing⟩, fun _ _ => id,
      fun _ _ => id, fun _ => id⟩
    rw [view_stage]
    exact hview
  | paired =>
    refine ⟨(Grown.refl b).pairings, fun deviceId device hview => ?_, fun _ _ => id, fun _ => id⟩
    rw [view_stage]
    exact hview
  | drew => exact ⟨(Grown.refl b).pairings, fun _ _ => id, fun _ _ => id, fun _ =>
    List.mem_cons_of_mem _⟩
  | issued =>
    refine ⟨(Grown.refl b).pairings, fun _ _ => id, fun token row hview => ?_, fun _ => id⟩
    rw [view_stage]
    exact hview
  | committed =>
    obtain ⟨pairing, row, htaken, hdevice, htoken, -, -, hdraft⟩ := hfits
    have hview : b.pairings.view _ = some pairing := htaken.same ▸ htaken.right.view
    exact ⟨later_of_update hview (later_used htaken.usable)
        (view_commit_of_single hdraft.pairings),
      view_of_update hdevice (view_commit_of_single hdraft.devices),
      view_of_update htoken (view_commit_of_single hdraft.tokens), fun _ => id⟩
  | _ => exact ⟨(Grown.refl b).pairings, fun _ _ => id, fun _ _ => id, fun _ => id⟩

/-- What a transaction has written, and what is committed of it, is left alone. -/
structure Framed (tx : TxId) (b b' : PairBooks) : Prop where
  nextTx : b.nextTx ≤ b'.nextTx
  pairings : Table.Framed tx b.pairings b'.pairings
  devices : Table.Framed tx b.devices b'.devices
  tokens : Table.Framed tx b.tokens b'.tokens

theorem framed_of_step (hstep : Step hash call b φ φ' b') (hfits : b.Fits hash call φ)
    (hne : φ.owner ≠ some tx) : Framed tx b b' := by
  have hapart : ∀ tx', φ.owner = some tx' → tx ≠ tx' := by
    rintro tx' howner rfl
    exact hne howner
  cases hstep with
  | attempted hfree | approved userId deviceId now hfree =>
    exact ⟨le_rfl, framed_put hfree, .refl tx _, .refl tx _⟩
  | opened => exact ⟨Nat.le_succ _, .refl tx _, .refl tx _, .refl tx _⟩
  | used hsame hfree =>
    exact ⟨le_rfl, framed_stage hfree (hapart _ rfl), .refl tx _, .refl tx _⟩
  | paired hnew =>
    exact ⟨le_rfl, .refl tx _, framed_stage (free_of_new hnew) (hapart _ rfl),
      .refl tx _⟩
  | issued =>
    obtain ⟨pairing, -, -, hfresh, -, -⟩ := hfits
    exact ⟨le_rfl, .refl tx _, .refl tx _,
      framed_stage (free_of_unwritten hfresh.1) (hapart _ rfl)⟩
  | committed =>
    exact ⟨le_rfl, framed_commit (hapart _ rfl), framed_commit (hapart _ rfl),
      framed_commit (hapart _ rfl)⟩
  | ended howner =>
    exact ⟨le_rfl, framed_rollback (hapart _ howner),
      framed_rollback (hapart _ howner), framed_rollback (hapart _ howner)⟩
  | _ => exact ⟨le_rfl, .refl tx _, .refl tx _, .refl tx _⟩

theorem fresh_of_step (hstep : Step hash call b φ φ' b') (hne : φ.token ≠ some token)
    (hfresh : b.Fresh token) : b'.Fresh token := by
  cases hstep with
  | @issued use token' row =>
    have htoken : token ≠ token' := by
      rintro rfl
      exact hne rfl
    refine ⟨?_, ?_⟩
    · rw [written_stage, if_neg htoken]
      exact hfresh.1
    · rw [view_stage]
      exact hfresh.2
  | committed =>
    refine ⟨?_, ?_⟩
    · simp only [rows_commit, Row.commit, hfresh.1, Option.filter_none]
    · rw [view_commit, draft_of_unwritten hfresh.1]
      exact hfresh.2
  | ended =>
    refine ⟨?_, hfresh.2⟩
    simp only [rows_rollback, Row.rollback, hfresh.1, Option.filter_none]
  | _ => exact hfresh

section

variable {pairings : Uuid → Option (Option Pairing)} {devices : Uuid → Option (Option Device)}
  {tokens : String → Option (Option RefreshToken)}

theorem Framed.drafted (h : Framed tx b b') (hdraft : b.Drafted tx pairings devices tokens) :
    b'.Drafted tx pairings devices tokens where
  opened := Nat.lt_of_lt_of_le hdraft.opened h.nextTx
  pairings := h.pairings.draft.trans hdraft.pairings
  devices := h.devices.draft.trans hdraft.devices
  tokens := h.tokens.draft.trans hdraft.tokens

theorem Taken.of_view {use : PairingUse} (h : Taken hash b call use pairing)
    (hview : b'.pairings.view call.pairingId = b.pairings.view call.pairingId) :
    Taken hash b' call use pairing :=
  ⟨⟨hview.trans h.right.view, h.right.code⟩, h.same, h.usable, h.user, h.name⟩

theorem Framed.taken {use : PairingUse} {row : Pairing} (h : Framed tx b b')
    (hdraft : b.pairings.draft tx = single use.pairingId row)
    (htaken : Taken hash b call use pairing) : Taken hash b' call use pairing := by
  have hview := view_of_framed h.pairings hdraft
  rw [htaken.same] at hview
  exact htaken.of_view hview

end

theorem Grown.right (h : Grown b b') (hright : Right hash b call pairing) :
    ∃ after, Right hash b' call after ∧ Pairing.Later pairing after := by
  obtain ⟨after, hview, hlater⟩ := h.pairings _ pairing hright.view
  exact ⟨after, ⟨hview, hlater.codeHash.trans hright.code⟩, hlater⟩

theorem Fits.framed (hgrown : Grown b b') (hframed : ∀ tx, φ.owner = some tx → Framed tx b b')
    (hfresh : ∀ token, φ.token = some token → b.Fresh token → b'.Fresh token)
    (hfits : b.Fits hash call φ) : b'.Fits hash call φ := by
  cases φ with
  | outside => trivial
  | read codeHash =>
    obtain ⟨pairing, hview, hcode⟩ := hfits
    obtain ⟨after, hview', hlater⟩ := hgrown.pairings _ pairing hview
    exact ⟨after, hview', hlater.codeHash.trans hcode⟩
  | attempted pairingId count =>
    obtain ⟨hpos, pairing, hview, hle⟩ := hfits
    obtain ⟨after, hview', hlater⟩ := hgrown.pairings _ pairing hview
    exact ⟨hpos, after, hview', hle.trans hlater.attempts⟩
  | approved pairingId userId =>
    obtain ⟨hsame, pairing, hright, happroved, huser⟩ := hfits
    obtain ⟨after, hright', hlater⟩ := hgrown.right hright
    obtain ⟨hat, huser'⟩ := hlater.approved (.inl happroved)
    exact ⟨hsame, after, hright', hat ▸ happroved, huser'.trans huser⟩
  | opened tx =>
    obtain ⟨⟨pairing, hright⟩, hdraft⟩ := hfits
    obtain ⟨after, hright', -⟩ := hgrown.right hright
    exact ⟨⟨after, hright'⟩, (hframed tx rfl).drafted hdraft⟩
  | used use =>
    obtain ⟨pairing, htaken, hdraft⟩ := hfits
    have h := hframed use.tx rfl
    exact ⟨pairing, h.taken hdraft.pairings htaken, h.drafted hdraft⟩
  | paired use deviceId =>
    obtain ⟨pairing, htaken, hdevice, hdraft⟩ := hfits
    have h := hframed use.tx rfl
    exact ⟨pairing, h.taken hdraft.pairings htaken,
      (view_of_framed h.devices hdraft.devices).trans hdevice, h.drafted hdraft⟩
  | drawn use deviceId token =>
    obtain ⟨pairing, htaken, hdevice, hnew, hmem, hdraft⟩ := hfits
    have h := hframed use.tx rfl
    exact ⟨pairing, h.taken hdraft.pairings htaken,
      (view_of_framed h.devices hdraft.devices).trans hdevice, hfresh token rfl hnew,
      hgrown.drawn token hmem, h.drafted hdraft⟩
  | issued use deviceId token =>
    obtain ⟨pairing, row, htaken, hdevice, htoken, hmem, hrow, hdraft⟩ := hfits
    have h := hframed use.tx rfl
    exact ⟨pairing, row, h.taken hdraft.pairings htaken,
      (view_of_framed h.devices hdraft.devices).trans hdevice,
      (view_of_framed h.tokens hdraft.tokens).trans htoken, hgrown.drawn token hmem, hrow,
      h.drafted hdraft⟩
  | finished pairingId userId deviceId token =>
    obtain ⟨hsame, pairing, row, hright, huser, happroved, hused, hdevice, htoken, hrow, hmem⟩ :=
      hfits
    obtain ⟨after, hright', hlater⟩ := hgrown.right hright
    obtain ⟨hat, huser'⟩ := hlater.approved (.inl happroved)
    refine ⟨hsame, after, row, hright', huser'.trans huser, hat ▸ happroved,
      hlater.used (.inl hused) ▸ hused, ?_, hgrown.tokens token row htoken, hrow,
      hgrown.drawn token hmem⟩
    rw [hlater.deviceName]
    exact hgrown.devices deviceId _ hdevice

theorem Fits.owner_lt (hfits : b.Fits hash call φ) (h : φ.owner = some tx) : tx < b.nextTx := by
  cases φ with
  | opened tx =>
    cases h
    exact hfits.2.opened
  | used use =>
    obtain ⟨pairing, -, hdraft⟩ := hfits
    cases h
    exact hdraft.opened
  | paired use deviceId =>
    obtain ⟨pairing, -, -, hdraft⟩ := hfits
    cases h
    exact hdraft.opened
  | drawn use deviceId token =>
    obtain ⟨pairing, -, -, -, -, hdraft⟩ := hfits
    cases h
    exact hdraft.opened
  | issued use deviceId token =>
    obtain ⟨pairing, row, -, -, -, -, -, hdraft⟩ := hfits
    cases h
    exact hdraft.opened
  | _ => cases h

theorem nextTx_le_of_step (hstep : Step hash call b φ φ' b') : b.nextTx ≤ b'.nextTx := by
  cases hstep <;> first | exact le_rfl | exact Nat.le_succ _

theorem Fits.token_mem (hfits : b.Fits hash call φ) (h : φ.token = some token) :
    token ∈ b.drawn := by
  cases φ with
  | drawn use deviceId token =>
    obtain ⟨pairing, -, -, -, hmem, -⟩ := hfits
    cases h
    exact hmem
  | issued use deviceId token =>
    obtain ⟨pairing, row, -, -, -, hmem, -⟩ := hfits
    cases h
    exact hmem
  | finished pairingId userId deviceId token =>
    obtain ⟨-, pairing, row, -, -, -, -, -, -, -, hmem⟩ := hfits
    cases h
    exact hmem
  | _ => cases h

theorem named_of_update (h : table'.view = update table.view k (some after))
    (hafter : after.approvedAt.isSome → after.approvedUserId.isSome)
    (hnamed : ∀ pairingId pairing, table.view pairingId = some pairing →
      pairing.approvedAt.isSome → pairing.approvedUserId.isSome) (pairingId : Uuid)
    (pairing : Pairing) (hview : table'.view pairingId = some pairing) :
    pairing.approvedAt.isSome → pairing.approvedUserId.isSome := by
  rw [h, update_apply] at hview
  split_ifs at hview
  · cases hview
    exact hafter
  · exact hnamed pairingId pairing hview

section

variable (h : b.Sound) (hfits : b.Fits hash call φ) (hstep : Step hash call b φ φ' b')
include h hfits hstep

theorem Sound.named_of_step (pairingId : Uuid) (pairing : Pairing) :
    b'.pairings.view pairingId = some pairing →
      pairing.approvedAt.isSome → pairing.approvedUserId.isSome := by
  cases hstep with
  | @attempted codeHash before hfree hview =>
    have hnamed : before.attempted.approvedAt.isSome → before.attempted.approvedUserId.isSome :=
      h.named _ before hview
    exact named_of_update view_put hnamed h.named pairingId pairing
  | approved userId deviceId now hfree hview hopen =>
    exact named_of_update view_put (fun _ => rfl) h.named pairingId pairing
  | used =>
    rw [view_stage]
    exact h.named pairingId pairing
  | @committed use deviceId token =>
    obtain ⟨before, row, htaken, -, -, -, -, hdraft⟩ := hfits
    have huser : (before.used use.usedAt).approvedUserId.isSome := by
      rw [used, htaken.user]
      rfl
    exact named_of_update (view_commit_of_single hdraft.pairings) (fun _ => huser) h.named
      pairingId pairing
  | _ => exact h.named pairingId pairing

theorem Sound.step : b'.Sound where
  unused tx htx := by
    have hle : b.nextTx ≤ tx := Nat.le_trans (nextTx_le_of_step hstep) htx
    have hframed : Framed tx b b' := by
      apply framed_of_step hstep hfits
      intro howner
      exact Nat.not_lt_of_le hle (hfits.owner_lt howner)
    obtain ⟨hpairings, hdevices, htokens⟩ := h.unused tx hle
    exact ⟨hframed.pairings.draft.trans hpairings, hframed.devices.draft.trans hdevices,
      hframed.tokens.draft.trans htokens⟩
  fresh token htoken := by
    have hnew : token ∉ b.drawn := fun hmem =>
      htoken ((grown_of_step hstep hfits).drawn token hmem)
    apply fresh_of_step hstep _ (h.fresh token hnew)
    intro htoken'
    exact hnew (hfits.token_mem htoken')
  named := h.named_of_step hfits hstep

end

theorem fits_of_step (hsound : b.Sound) (hfits : b.Fits hash call φ)
    (hstep : Step hash call b φ φ' b') : b'.Fits hash call φ' := by
  cases hstep with
  | aside => exact hfits
  | read hview => exact ⟨_, hview, rfl⟩
  | @attempted codeHash pairing hfree hview =>
    refine ⟨Nat.succ_pos _, pairing.attempted, ?_, le_rfl⟩
    rw [view_put, update_self]
  | @approved pairing userId deviceId now hfree hview hopen =>
    obtain ⟨before, hbefore, hcode⟩ := hfits
    rw [hview] at hbefore
    cases hbefore
    refine ⟨rfl, pairing.approved userId deviceId now, ⟨?_, hcode⟩, rfl, rfl⟩
    rw [view_put, update_self]
  | opened =>
    obtain ⟨pairing, hview, hcode⟩ := hfits
    obtain ⟨hpairings, hdevices, htokens⟩ := hsound.unused b.nextTx le_rfl
    exact ⟨⟨pairing, hview, hcode⟩, Nat.lt_succ_self _, hpairings, hdevices, htokens⟩
  | @used use pairing hsame hfree hrow husable huser hname =>
    obtain ⟨⟨before, hright⟩, hdraft⟩ := hfits
    rw [visible_eq, hdraft.pairings] at hrow
    have hview : b.pairings.view call.pairingId = some pairing := hsame ▸ hrow
    have hcode : pairing.codeHash = hash call.code := by
      rw [hright.view] at hview
      cases hview
      exact hright.code
    refine ⟨pairing, ⟨⟨?_, hcode⟩, hsame, husable, huser, hname⟩, hdraft.opened,
      draft_stage_blank hdraft.pairings, hdraft.devices, hdraft.tokens⟩
    rw [view_stage]
    exact hview
  | @paired use deviceId hnew =>
    obtain ⟨pairing, htaken, hdraft⟩ := hfits
    refine ⟨pairing, htaken.of_view rfl, ?_, hdraft.opened, hdraft.pairings,
      draft_stage_blank hdraft.devices, hdraft.tokens⟩
    rw [view_stage]
    exact view_of_new hnew
  | @drew use deviceId token hnew =>
    obtain ⟨pairing, htaken, hdevice, hdraft⟩ := hfits
    exact ⟨pairing, htaken.of_view rfl, hdevice, hsound.fresh token hnew, List.mem_cons_self,
      hdraft.opened, hdraft.pairings, hdraft.devices, hdraft.tokens⟩
  | @issued use token row =>
    obtain ⟨pairing, htaken, hdevice, hfresh, hmem, hdraft⟩ := hfits
    refine ⟨pairing, row, htaken.of_view rfl, hdevice, ?_, hmem, rfl, hdraft.opened,
      hdraft.pairings, hdraft.devices, draft_stage_blank hdraft.tokens⟩
    rw [view_stage]
    exact hfresh.2
  | @committed use deviceId token =>
    obtain ⟨pairing, row, htaken, hdevice, htoken, hmem, hrow, hdraft⟩ := hfits
    refine ⟨htaken.same, pairing.used use.usedAt, row, ⟨?_, htaken.right.code⟩, htaken.user,
      (usable_iff.mp htaken.usable).1, rfl, ?_, ?_, hrow, hmem⟩
    · rw [view_commit_of_single hdraft.pairings, htaken.same, update_self]
    · rw [view_commit_of_single hdraft.devices, update_self]
      exact congrArg (fun name => some (Device.mk use.userId name none)) htaken.name.symm
    · rw [view_commit_of_single hdraft.tokens, update_self]
  | ended => trivial

theorem Fits.device_mem (hfits : b.Fits hash call φ) (h : φ.device = some deviceId) :
    deviceId ∈ b.devices.keys := by
  by_contra hnew
  have hview := view_of_new hnew
  have hfree : ∀ tx, b.devices.draft tx deviceId = none := by
    intro tx
    rw [draft_of_unwritten]
    rw [b.devices.support deviceId hnew]
    rfl
  have hsingle : ∀ tx device, b.devices.draft tx ≠ single deviceId device := by
    intro tx device hdraft
    have hnone := hfree tx
    rw [hdraft, single, update_self] at hnone
    cases hnone
  cases φ with
  | paired use deviceId =>
    obtain ⟨pairing, -, -, hdraft⟩ := hfits
    cases h
    exact hsingle _ _ hdraft.devices
  | drawn use deviceId token =>
    obtain ⟨pairing, -, -, -, -, hdraft⟩ := hfits
    cases h
    exact hsingle _ _ hdraft.devices
  | issued use deviceId token =>
    obtain ⟨pairing, row, -, -, -, -, -, hdraft⟩ := hfits
    cases h
    exact hsingle _ _ hdraft.devices
  | finished pairingId userId deviceId token =>
    obtain ⟨-, pairing, row, -, -, -, -, hdevice, -⟩ := hfits
    cases h
    rw [hview] at hdevice
    cases hdevice
  | _ => cases h

section

variable (hfits : b.Fits hash call φ) (hstep : Step hash call b φ φ' b')
include hfits hstep

/-- **A step takes only what no other call has.** -/
theorem keeps_of_step {call' : PairingCall} {other : PairPhase} (hother : b.Fits hash call' other)
    {k : PairKey} (h : φ'.Keeps k) (h' : other.Keeps k) : φ.Keeps k := by
  cases hstep with
  | aside => exact h
  | read => cases k <;> cases h
  | @attempted codeHash pairing hfree hview =>
    cases k with
    | attempt pairingId count =>
      -- the count is higher than that of any other call
      cases h
      cases other <;> cases h'
      obtain ⟨-, before, hbefore, hle⟩ := hother
      rw [hview] at hbefore
      cases hbefore
      exact absurd hle (Nat.not_succ_le_self _)
    | _ => cases h
  | @approved pairing userId deviceId now hfree hview hopen =>
    cases k with
    | approval pairingId =>
      cases h
      cases other <;> cases h'
      obtain ⟨hsame, before, hright, happroved, -⟩ := hother
      have hbefore := hright.view
      rw [← hsame, hview] at hbefore
      cases hbefore
      rw [(approvable_iff.mp hopen).1] at happroved
      cases happroved
    | _ => cases h
  | opened =>
    cases k with
    | transaction tx =>
      cases h
      exact absurd (hother.owner_lt h') (Nat.lt_irrefl _)
    | _ => cases h
  | used =>
    cases k with
    | transaction tx => exact h
    | _ => cases h
  | paired hnew =>
    cases k with
    | transaction tx => exact h
    | device deviceId =>
      cases h
      exact absurd (hother.device_mem h') hnew
    | _ => cases h
  | drew hnew =>
    cases k with
    | token token =>
      cases h
      exact absurd (hother.token_mem h') hnew
    | transaction tx | device deviceId => exact h
    | _ => cases h
  | issued => cases k <;> exact h
  | committed =>
    cases k with
    | finish pairingId =>
      cases h
      cases other <;> cases h'
      obtain ⟨pairing, row, htaken, -⟩ := hfits
      obtain ⟨hsame, before, row', hright, -, -, hused, -⟩ := hother
      have hbefore := hright.view
      rw [← hsame, htaken.same, htaken.right.view] at hbefore
      cases hbefore
      rw [(usable_iff.mp htaken.usable).2.1.1] at hused
      cases hused
    | device deviceId | token token => exact h
    | _ => cases h
  | ended => cases k <;> cases h

theorem device_of_step {device : Device} (h : b'.devices.view deviceId = some device) :
    b.devices.view deviceId = some device
      ∨ ∃ pairingId userId token, φ' = .finished pairingId userId deviceId token := by
  cases hstep with
  | paired =>
    rw [view_stage] at h
    exact .inl h
  | committed =>
    obtain ⟨pairing, row, -, -, -, -, -, hdraft⟩ := hfits
    rw [view_commit_of_single hdraft.devices, update_apply] at h
    split_ifs at h with hk
    · subst hk
      exact .inr ⟨_, _, _, rfl⟩
    · exact .inl h
  | _ => exact .inl h

theorem token_of_step {row : RefreshToken} (h : b'.tokens.view token = some row) :
    b.tokens.view token = some row
      ∨ ∃ pairingId userId deviceId, φ' = .finished pairingId userId deviceId token := by
  cases hstep with
  | issued =>
    rw [view_stage] at h
    exact .inl h
  | committed =>
    obtain ⟨pairing, row', -, -, -, -, -, hdraft⟩ := hfits
    rw [view_commit_of_single hdraft.tokens, update_apply] at h
    split_ifs at h with hk
    · subst hk
      exact .inr ⟨_, _, _, rfl⟩
    · exact .inl h
  | _ => exact .inl h

end

section

variable (hfits : b.Fits hash call φ) (hopen : φ.settled = false) (hstep : Step hash call b φ φ' b')
include hfits hopen hstep

theorem new_of_step {userId : Uuid} (h : φ' = .finished pairingId userId deviceId token) :
    b.devices.view deviceId = none ∧ b.tokens.view token = none := by
  cases hstep with
  | aside =>
    subst h
    cases hopen
  | committed =>
    obtain ⟨pairing, row, -, hdevice, htoken, -⟩ := hfits
    cases h
    exact ⟨hdevice, htoken⟩
  | _ => cases h

theorem few_of_step (h : φ'.approval = some pairingId ∨ φ'.finish = some pairingId)
    (hview : b.pairings.view pairingId = some pairing) : pairing.attemptCount < 5 := by
  cases hstep with
  | aside =>
    have hnone : φ.approval = none ∧ φ.finish = none := by
      cases φ <;> first | exact ⟨rfl, rfl⟩ | cases hopen
    rw [hnone.1, hnone.2] at h
    rcases h with h | h <;> cases h
  | approved userId deviceId now hfree hbefore happrovable =>
    rcases h with h | h <;> cases h
    rw [hbefore] at hview
    cases hview
    exact (approvable_iff.mp happrovable).2.2
  | committed =>
    obtain ⟨before, row, htaken, -⟩ := hfits
    rcases h with h | h <;> cases h
    rw [htaken.same, htaken.right.view] at hview
    cases hview
    exact (usable_iff.mp htaken.usable).2.2
  | _ => rcases h with h | h <;> cases h

end

theorem Grown.trans {b₁ b₂ b₃ : PairBooks} (h : Grown b₁ b₂) (h' : Grown b₂ b₃) : Grown b₁ b₃ where
  pairings pairingId pairing hview := by
    obtain ⟨middle, hmiddle, hlater⟩ := h.pairings pairingId pairing hview
    obtain ⟨after, hafter, hlater'⟩ := h'.pairings pairingId middle hmiddle
    exact ⟨after, hafter, hlater.trans hlater'⟩
  devices deviceId device hview := h'.devices deviceId device (h.devices deviceId device hview)
  tokens token row hview := h'.tokens token row (h.tokens token row hview)
  drawn token hmem := h'.drawn token (h.drawn token hmem)

end PairBooks

end Wavis
