import Wavis.Pairing

namespace Wavis

open Concurrency Prog

structure PairingUse where
  tx : TxId
  pairingId : Uuid
  userId : Uuid
  deviceName : String
  usedAt : Instant

inductive PairPhase where
  | outside
  /-- The pairing was read, with the hash of its code. -/
  | read (codeHash : String)
  /-- A wrong code was counted as the given one. -/
  | attempted (pairingId : Uuid) (count : Nat)
  | approved (pairingId userId : Uuid)
  | opened (tx : TxId)
  | used (use : PairingUse)
  | paired (use : PairingUse) (deviceId : Uuid)
  | drawn (use : PairingUse) (deviceId : Uuid) (token : String)
  | issued (use : PairingUse) (deviceId : Uuid) (token : String)
  | finished (pairingId userId deviceId : Uuid) (token : String)

/-- What no two calls have together. -/
inductive PairKey where
  | transaction (tx : TxId)
  | device (deviceId : Uuid)
  | token (token : String)
  | attempt (pairingId : Uuid) (count : Nat)
  | approval (pairingId : Uuid)
  | finish (pairingId : Uuid)

def PairingCall.pairingId : PairingCall → Uuid
  | .approvePairing pairingId _ _ _ => pairingId
  | .finishPairing pairingId _ _ => pairingId

def PairingCall.code : PairingCall → String
  | .approvePairing _ code _ _ => code
  | .finishPairing _ code _ => code

namespace PairPhase

def owner : PairPhase → Option TxId
  | opened tx => some tx
  | used use => some use.tx
  | paired use _ => some use.tx
  | drawn use _ _ => some use.tx
  | issued use _ _ => some use.tx
  | _ => none

def device : PairPhase → Option Uuid
  | paired _ deviceId => some deviceId
  | drawn _ deviceId _ => some deviceId
  | issued _ deviceId _ => some deviceId
  | finished _ _ deviceId _ => some deviceId
  | _ => none

def token : PairPhase → Option String
  | drawn _ _ token => some token
  | issued _ _ token => some token
  | finished _ _ _ token => some token
  | _ => none

def attempt : PairPhase → Option (Uuid × Nat)
  | attempted pairingId count => some (pairingId, count)
  | _ => none

def approval : PairPhase → Option Uuid
  | approved pairingId _ => some pairingId
  | _ => none

def finish : PairPhase → Option Uuid
  | finished pairingId _ _ _ => some pairingId
  | _ => none

def settled : PairPhase → Bool
  | attempted _ _ => true
  | approved _ _ => true
  | finished _ _ _ _ => true
  | _ => false

def Keeps (φ : PairPhase) : PairKey → Prop
  | .transaction tx => φ.owner = some tx
  | .device deviceId => φ.device = some deviceId
  | .token token => φ.token = some token
  | .attempt pairingId count => φ.attempt = some (pairingId, count)
  | .approval pairingId => φ.approval = some pairingId
  | .finish pairingId => φ.finish = some pairingId

def next (φ : PairPhase) : (o : TokenOp) → o.Resp → PairPhase
  | .selectPairing none _, .ok (some row) => read row.codeHash
  | .countAttempt pairingId, .ok (some count) => attempted pairingId count
  | .approvePairing pairingId userId _, .ok true => approved pairingId userId
  | .begin, .ok (tx, _) => opened tx
  | .usePairing tx pairingId now, .ok (some (userId, deviceName)) =>
    used ⟨tx, pairingId, userId, deviceName, now⟩
  | .insertDevice _ _ _, .ok deviceId =>
    match φ with
    | used use => paired use deviceId
    | φ => φ
  | .generateRefreshToken, token =>
    match φ with
    | paired use deviceId => drawn use deviceId token
    | φ => φ
  | .insertToken _ _ _, .ok () =>
    match φ with
    | drawn use deviceId token => issued use deviceId token
    | φ => φ
  | .commit _, .ok () =>
    match φ with
    | issued use deviceId token => finished use.pairingId use.userId deviceId token
    | φ => φ
  | .commit _, .error _ => outside
  | .rollback _, _ => outside
  | _, _ => φ

def aside : TokenOp → Bool
  | .getNow => true
  | .signAccessToken _ _ _ => true
  | .genRandomUuid => true
  | .selectEpoch _ _ => true
  | .selectPairing (some _) _ => true
  | _ => false

def May (hash : String → String) (call : PairingCall) (φ : PairPhase) : TokenOp → Prop
  | .selectPairing none pairingId =>
    (φ = outside ∨ φ = read (hash call.code)) ∧ pairingId = call.pairingId
  | .countAttempt pairingId => ∃ codeHash, φ = read codeHash ∧ pairingId = call.pairingId
  | .approvePairing pairingId userId deviceId =>
    φ = read (hash call.code) ∧ call = .approvePairing pairingId call.code userId deviceId
  | .begin => φ = read (hash call.code)
  | .usePairing tx pairingId _ => φ = opened tx ∧ pairingId = call.pairingId
  | .insertDevice tx userId deviceName =>
    ∃ use, φ = used use ∧ tx = use.tx ∧ userId = use.userId ∧ deviceName = use.deviceName
  | .generateRefreshToken => ∃ use deviceId, φ = paired use deviceId
  | .insertToken tx token row =>
    ∃ use, φ = drawn use row.deviceId token ∧ tx = use.tx
  | .commit tx => ∃ use deviceId token, φ = issued use deviceId token ∧ tx = use.tx
  | .rollback tx => φ.owner = some tx
  | o => aside o = true ∧ φ.settled = false

def Ends {α : Type} (fail : PairPhase → Prop) (post : PairPhase → α → Prop) (φ : PairPhase) :
    Except PairingError α → Prop
  | .ok a => post φ a
  | .error _ => fail φ

def Unfinished (φ : PairPhase) : Prop := φ.finish = none

/-- What a call that succeeds has committed. -/
def Post : (call : PairingCall) → PairPhase → PairingRet call → Prop
  | .approvePairing pairingId _ userId _, φ, result =>
    Ends Unfinished (fun φ _ => φ = approved pairingId userId) φ result
  | .finishPairing pairingId _ _, φ, result =>
    Ends Unfinished (fun φ result => φ = finished pairingId result.userId result.deviceId
      result.refreshToken) φ result

end PairPhase

def pairingProtocol (hash : String → String) : Protocol TokenOp.Resp PairingRet PairPhase where
  init _ := .outside
  next := PairPhase.next
  may := PairPhase.May hash
  post := PairPhase.Post

section

variable {φ : PairPhase} {o : TokenOp}

open PairPhase

variable {hash : String → String} {call : PairingCall} {α : Type} {post : PairPhase → α → Prop}
  (tx : TxId) (stage : PairingStage)

abbrev Pairs (hash : String → String) (call : PairingCall) (post : PairPhase → α → Prop)
    (program : TokenProg α) (φ : PairPhase) : Prop :=
  program.Obeys PairPhase.next (PairPhase.May hash call) post φ

theorem PairPhase.next_aside (h : aside o = true) (answer : o.Resp) : φ.next o answer = φ := by
  cases o with
  | selectPairing tx pairingId =>
    cases tx with
    | none => cases h
    | some tx => rfl
  | _ => first | rfl | cases h

theorem PairPhase.may_aside (h : aside o = true) (hφ : φ.settled = false) : May hash call φ o := by
  cases o with
  | selectPairing tx pairingId =>
    cases tx with
    | none => cases h
    | some tx => exact ⟨h, hφ⟩
  | _ => first | exact ⟨h, hφ⟩ | cases h

theorem PairPhase.settled_of_may (h : May hash call φ o) : φ.settled = false := by
  cases o with
  | selectPairing tx pairingId =>
    cases tx with
    | none => obtain ⟨rfl | rfl, -⟩ := h <;> rfl
    | some tx => exact h.2
  | countAttempt pairingId =>
    obtain ⟨codeHash, rfl, -⟩ := h
    rfl
  | approvePairing pairingId userId deviceId =>
    rw [h.1]
    rfl
  | begin =>
    cases (h : φ = _)
    rfl
  | usePairing tx pairingId now =>
    rw [h.1]
    rfl
  | insertDevice tx userId deviceName =>
    obtain ⟨use, rfl, -⟩ := h
    rfl
  | generateRefreshToken =>
    obtain ⟨use, deviceId, rfl⟩ := h
    rfl
  | insertToken tx token row =>
    obtain ⟨use, rfl, -⟩ := h
    rfl
  | commit tx =>
    obtain ⟨use, deviceId, token, rfl, -⟩ := h
    rfl
  | rollback tx => cases φ <;> first | rfl | cases h
  | _ => exact h.2

theorem PairPhase.eq_attempted {pairingId : Uuid} {count : Nat}
    (h : φ.attempt = some (pairingId, count)) : φ = attempted pairingId count := by
  cases φ with
  | attempted p n =>
    cases h
    rfl
  | _ => cases h

theorem PairPhase.attempt_of_open (h : φ.settled = false) (entry : Uuid × Nat) :
    φ.attempt ≠ some entry := by
  intro hattempt
  cases φ with
  | attempted pairingId count => cases h
  | _ => cases hattempt

theorem pairs_aside {rest : o.Resp → TokenProg α} (h : aside o = true) (hφ : φ.settled = false)
    (hrest : ∀ answer, Pairs hash call post (rest answer) φ) :
    Pairs hash call post (.op o rest) φ := by
  refine ⟨may_aside h hφ, fun answer => ?_⟩
  rw [next_aside h]
  exact hrest answer

theorem pairs_trying_aside {β : Type} {fail : PairPhase → Prop} {post : PairPhase → β → Prop}
    {statement : TokenProg (Except String α)} {next : α → TokenProg (Except PairingError β)}
    {wrap : String → PairingError} (hstatement : statement.Within fun o => aside o = true)
    (hopen : φ.settled = false) (hφ : fail φ)
    (hnext : ∀ a, Pairs hash call (Ends fail post) (next a) φ) :
    Pairs hash call (Ends fail post) (trying wrap statement next) φ := by
  have hstay : Pairs hash call (fun φ' _ => φ' = φ) statement φ := by
    refine hstatement.obeys ?_ ?_
    · exact rfl
    · rintro φ' o rfl haside
      exact ⟨may_aside haside hopen, next_aside haside⟩
  refine obeys_trying (hstay.mono fun φ' r hφ' => ?_)
  subst hφ'
  cases r with
  | error e => exact hφ
  | ok a => exact hnext a

theorem pairs_rejectCode (codeHash : String) :
    Pairs hash call (Ends Unfinished post) (Pair.rejectCode call.pairingId) (read codeHash) := by
  refine obeys_trying ⟨⟨codeHash, rfl, rfl⟩, fun answer => ?_⟩
  match answer with
  | .error e | .ok none => exact rfl
  | .ok (some count) =>
    simp only [obeys_ret, Option.any_some]
    split_ifs
    · exact rfl
    · exact rfl

theorem pairs_verify {stage : PairingStage} {next : TokenProg (Except PairingError α)}
    (hnext : Pairs hash call (Ends Unfinished post) next (read (hash call.code))) :
    Pairs hash call (Ends Unfinished post) (Pair.verify hash stage call.pairingId call.code next)
      outside := by
  refine obeys_trying ⟨⟨.inl rfl, rfl⟩, fun answer => ?_⟩
  match answer with
  | .error e | .ok none => exact rfl
  | .ok (some row) =>
    refine pairs_aside rfl rfl fun now => ?_
    cases row.refusal stage now with
    | some e => exact rfl
    | none =>
      split_ifs with hcode
      · exact pairs_rejectCode row.codeHash
      · change Pairs hash call (Ends Unfinished post) next (read row.codeHash)
        rw [← not_not.mp hcode]
        exact hnext

theorem pairs_explain_read :
    Pairs hash call (Ends Unfinished post) (Pair.explain none stage call.pairingId)
      (read (hash call.code)) := by
  refine obeys_trying ⟨⟨.inr rfl, rfl⟩, fun answer => ?_⟩
  match answer with
  | .error e | .ok none => exact rfl
  | .ok (some row) =>
    refine pairs_aside rfl rfl fun now => ?_
    cases row.refusal stage now <;> exact rfl

def PairPhase.Inside (tx : TxId) (φ : PairPhase) : Prop := φ.owner = some tx

theorem pairs_explain_opened (pairingId : Uuid) :
    Pairs hash call (Ends (Inside tx) post) (Pair.explain (some tx) stage pairingId)
      (opened tx) := by
  refine pairs_trying_aside (.perform rfl) rfl rfl fun answer => ?_
  cases answer with
  | none => exact rfl
  | some row =>
    refine pairs_aside rfl rfl fun now => ?_
    cases row.refusal stage now <;> exact rfl

theorem pairs_approvePairing (pairingId : Uuid) (code : String) (userId deviceId : Uuid) :
    Pairs hash (.approvePairing pairingId code userId deviceId)
      (Ends Unfinished fun φ _ => φ = approved pairingId userId)
      (Pair.approvePairing hash pairingId code userId deviceId) outside := by
  apply pairs_verify
  refine obeys_trying ⟨⟨rfl, rfl⟩, fun answer => ?_⟩
  match answer with
  | .error e | .ok true => exact rfl
  | .ok false => exact pairs_explain_read .approve

theorem pairs_createDevice (use : PairingUse) (refreshTtl : Duration) :
    Pairs hash call
      (Ends (Inside use.tx) fun φ result => φ = issued use result.deviceId result.refreshToken
        ∧ result.userId = use.userId)
      (Pair.createDevice use.tx use.userId use.deviceName refreshTtl) (used use) := by
  refine obeys_trying ⟨⟨use, rfl, rfl, rfl, rfl⟩, fun answer => ?_⟩
  match answer with
  | .error e => exact rfl
  | .ok deviceId =>
    refine ⟨⟨use, deviceId, rfl⟩, fun token => ?_⟩
    refine pairs_aside rfl rfl fun now => pairs_aside rfl rfl fun familyId => ?_
    refine obeys_trying ⟨⟨use, rfl, rfl⟩, fun answer => ?_⟩
    match answer with
    | .error e => exact rfl
    | .ok () =>
      refine pairs_trying_aside (.perform rfl) rfl rfl fun epoch => ?_
      exact pairs_trying_aside (.perform rfl) rfl rfl fun _ => ⟨rfl, rfl⟩

theorem pairs_usePairing (now : Instant) (refreshTtl : Duration) :
    Pairs hash call
      (Ends (Inside tx) fun φ result => ∃ use : PairingUse,
        φ = issued use result.deviceId result.refreshToken ∧ use.tx = tx
          ∧ use.pairingId = call.pairingId ∧ result.userId = use.userId)
      (Pair.usePairing tx now call.pairingId refreshTtl) (opened tx) := by
  refine obeys_trying ⟨⟨rfl, rfl⟩, fun answer => ?_⟩
  match answer with
  | .error e => exact rfl
  | .ok none => exact pairs_explain_opened tx .finish call.pairingId
  | .ok (some (userId, deviceName)) =>
    let use : PairingUse := ⟨tx, call.pairingId, userId, deviceName, now⟩
    refine (pairs_createDevice use refreshTtl).mono fun φ r hr => ?_
    cases r with
    | error e => exact hr
    | ok result => exact ⟨use, hr.1, rfl, rfl, hr.2⟩

theorem pairs_finishPairing (pairingId : Uuid) (code : String) (refreshTtl : Duration) :
    Pairs hash (.finishPairing pairingId code refreshTtl)
      (Ends Unfinished fun φ result =>
        φ = finished pairingId result.userId result.deviceId result.refreshToken)
      (Pair.finishPairing hash pairingId code refreshTtl) outside := by
  apply pairs_verify
  refine obeys_trying ⟨rfl, fun answer => ?_⟩
  match answer with
  | .error e => exact rfl
  | .ok (tx, now) =>
    refine (pairs_usePairing tx now refreshTtl).bind fun φ r hr => ?_
    cases r with
    | error e => exact ⟨hr, fun _ => rfl⟩
    | ok result =>
      obtain ⟨use, rfl, rfl, huse, huser⟩ := hr
      refine obeys_trying ⟨⟨use, _, _, rfl, rfl⟩, fun answer => ?_⟩
      match answer with
      | .error e => exact rfl
      | .ok () =>
        change finished use.pairingId use.userId _ _ = finished pairingId _ _ _
        rw [huse, huser]
        rfl

theorem holds_pairingProtocol (hash : String → String) (call : PairingCall) :
    (pairingProtocol hash).Holds ((pairingService hash).spawn call) := by
  cases call with
  | approvePairing pairingId code userId deviceId =>
    exact pairs_approvePairing pairingId code userId deviceId
  | finishPairing pairingId code refreshTtl => exact pairs_finishPairing pairingId code refreshTtl

end

end Wavis
