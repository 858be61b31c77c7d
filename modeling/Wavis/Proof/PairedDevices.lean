import Wavis.Proof.PairingSteps
import Wavis.Concurrency.Ownership
import Wavis.Concurrency.Sequential
import Mathlib.Order.Interval.Finset.Nat

namespace Wavis

open Concurrency Function PairBooks List PairPhase

def countedAttempt : (o : TokenOp) × o.Resp → Option (Uuid × Nat)
  | ⟨.countAttempt pairingId, .ok (some count)⟩ => some (pairingId, count)
  | _ => none

/-- The wrong code of a call, and as which it was counted. -/
def attemptOf (thread : Thread TokenOp.Resp PairingRet) : Option (Uuid × Nat) :=
  thread.trace.findSome? countedAttempt

def attemptOn (pairingId : Uuid) (thread : Thread TokenOp.Resp PairingRet) : Option Nat :=
  (attemptOf thread).bind fun entry => if entry.1 = pairingId then some entry.2 else none

def wrongCodes (pool : PairingPool) (pairingId : Uuid) : Nat :=
  (pool.threads.filterMap (attemptOn pairingId)).length

def Approves (pool : PairingPool) (i : Nat) (pairingId : Uuid) (code : String) (userId : Uuid) :
    Prop :=
  ∃ deviceId trace, pool.threads[i]?
    = some ⟨.approvePairing pairingId code userId deviceId, trace, .ret (.ok ())⟩

def Finishes (pool : PairingPool) (i : Nat) (pairingId : Uuid) (code : String)
    (result : PairingResult) : Prop :=
  ∃ refreshTtl trace, pool.threads[i]?
    = some ⟨.finishPairing pairingId code refreshTtl, trace, .ret (.ok result)⟩

structure TokenStore.Startable (w : TokenStore) : Prop where
  pairings : ∀ pairingId, (w.pairings.rows pairingId).written = none
  devices : ∀ deviceId, (w.devices.rows deviceId).written = none
  tokens : ∀ token, (w.tokens.rows token).written = none
  drawn : ∀ token, w.tokens.view token ≠ none → token ∈ w.drawn
  named : ∀ pairingId pairing, w.pairings.view pairingId = some pairing →
    pairing.approvedAt.isSome → pairing.approvedUserId.isSome

theorem TokenStore.Startable.sound {w : TokenStore} (h : w.Startable) : w.pairBooks.Sound where
  unused _ _ := ⟨funext fun k => Table.draft_of_unwritten (h.pairings k),
    funext fun k => Table.draft_of_unwritten (h.devices k),
    funext fun k => Table.draft_of_unwritten (h.tokens k)⟩
  fresh token hnew := ⟨h.tokens token, Decidable.byContradiction fun hview =>
    hnew (h.drawn token hview)⟩
  named := h.named

section

variable {hash : String → String} {w : TokenStore} {pool pool' : PairingPool}
  {thread : Thread TokenOp.Resp PairingRet} {pairingId : Uuid} {pairing : Pairing}
  {call : PairingCall} {o : TokenOp} {rest : o.Resp → TokenProg (PairingRet call)}
  {trace : List ((o : TokenOp) × o.Resp)} {answer : o.Resp} {i : Nat}

structure Kept (hash : String → String) (pool : PairingPool) : Prop where
  holding : pool.Holding (pairingProtocol hash) (fun w => w.pairBooks.Sound)
    (fun w call φ => w.pairBooks.Fits hash call φ) PairPhase.Keeps
  holds : ∀ thread ∈ pool.threads, (pairingProtocol hash).Holds thread

theorem kept_of_reach (hw : w.Startable)
    (hreach : (pairingService hash).Reach (fun _ _ => True) (PairingPool.initial w) pool) :
    Kept hash pool := by
  have hkept : pool.Holding (pairingProtocol hash) (fun w => w.pairBooks.Sound)
        (fun w call φ => w.pairBooks.Fits hash call φ) PairPhase.Keeps
      ∧ ∀ thread ∈ pool.threads, (pairingProtocol hash).Holds thread := by
    refine hreach.holding (fun _ call _ => holds_pairingProtocol hash call) rfl hw.sound
      ?_ (fun _ _ _ => ⟨trivial, fun k hk => by cases k <;> cases hk⟩) ?_ ?_
    · intro pool i env call φ o answer w _ _ hsound hfits hmay hexec
      have hstep := step_of_exec hsound hfits hmay hexec
      exact ⟨hsound.step hfits hstep, fits_of_step hsound hfits hstep⟩
    · intro pool i env call φ o answer w call' φ' _ _ hsound hfits hmay hexec hfits' hapart
      have hstep := step_of_exec hsound hfits hmay hexec
      refine hfits'.framed (grown_of_step hstep hfits) (fun tx howner => ?_)
        fun token htoken => ?_
      · exact framed_of_step hstep hfits fun hsame =>
          hapart (.transaction tx) hsame howner
      · exact fresh_of_step hstep fun hsame => hapart (.token token) hsame htoken
    · intro pool i env thread o answer w j other k _ _ _ _ _ hsound hfits hmay hexec hgain hfits'
      have hstep := step_of_exec hsound hfits hmay hexec
      exact keeps_of_step hfits hstep hfits' hgain
  exact ⟨hkept.1, hkept.2⟩

/-- How what is committed has come about since the run began. -/
structure Traced (hash : String → String) (w : TokenStore) (pool : PairingPool) : Prop where
  grown : PairBooks.Grown w.pairBooks pool.shared.pairBooks
  attempts : ∀ thread ∈ pool.threads, ∀ entry, attemptOf thread = some entry →
    ((pairingProtocol hash).phase thread).attempt = some entry
  devices : ∀ deviceId device, pool.shared.devices.view deviceId = some device →
    w.devices.view deviceId = some device ∨ ∃ thread ∈ pool.threads, ∃ pairingId userId token,
      (pairingProtocol hash).phase thread = .finished pairingId userId deviceId token
  tokens : ∀ token row, pool.shared.tokens.view token = some row →
    w.tokens.view token = some row ∨ ∃ thread ∈ pool.threads, ∃ pairingId userId deviceId,
      (pairingProtocol hash).phase thread = .finished pairingId userId deviceId token
  created : ∀ thread ∈ pool.threads, ∀ pairingId userId deviceId token,
    (pairingProtocol hash).phase thread = .finished pairingId userId deviceId token →
    w.devices.view deviceId = none ∧ w.tokens.view token = none

section

variable {φ : PairPhase}

theorem attemptOf_append (rest' : TokenProg (PairingRet call)) :
    attemptOf ⟨call, trace ++ [⟨o, answer⟩], rest answer⟩
      = (attemptOf ⟨call, trace, rest'⟩).or (countedAttempt ⟨o, answer⟩) := by
  simp [attemptOf, findSome?_append]

theorem attempt_of_counted {entry : Uuid × Nat} (h : countedAttempt ⟨o, answer⟩ = some entry) :
    (φ.next o answer).attempt = some entry := by
  unfold countedAttempt at h
  split at h
  · rename_i pairingId count heq
    cases heq
    exact h
  · cases h

theorem Kept.step {env : TokenEnv} {w' : TokenStore} (h : Kept hash pool)
    (hthread : pool.threads[i]? = some ⟨call, trace, .op o rest⟩)
    (hexec : o.exec env pool.shared = some (answer, w')) :
    ((pairingProtocol hash).phase ⟨call, trace, .op o rest⟩).settled = false
      ∧ pool.shared.pairBooks.Fits hash call
        ((pairingProtocol hash).phase ⟨call, trace, .op o rest⟩)
      ∧ PairBooks.Step hash call pool.shared.pairBooks
        ((pairingProtocol hash).phase ⟨call, trace, .op o rest⟩)
        ((pairingProtocol hash).phase ⟨call, trace ++ [⟨o, answer⟩], rest answer⟩)
        w'.pairBooks := by
  have hmem := mem_of_getElem? hthread
  have hmay := (h.holds _ hmem).1
  have hfits := h.holding.fits _ hmem
  rw [(pairingProtocol hash).phase_step]
  exact ⟨settled_of_may hmay, hfits,
    step_of_exec h.holding.shared hfits hmay hexec⟩

end

theorem Traced.start (h : Traced hash w pool) (call : PairingCall) :
    Traced hash w { pool with threads := pool.threads ++ [(pairingService hash).spawn call] } where
  grown := h.grown
  attempts thread hmem entry hentry := by
    rcases mem_append.mp hmem with hold | hnew
    · exact h.attempts thread hold entry hentry
    · rw [mem_singleton] at hnew
      subst hnew
      cases hentry
  devices deviceId device hview := by
    refine (h.devices deviceId device hview).imp_right ?_
    rintro ⟨thread, hmem, hphase⟩
    exact ⟨thread, mem_append_left _ hmem, hphase⟩
  tokens token row hview := by
    refine (h.tokens token row hview).imp_right ?_
    rintro ⟨thread, hmem, hphase⟩
    exact ⟨thread, mem_append_left _ hmem, hphase⟩
  created thread hmem pairingId userId deviceId token hphase := by
    rcases mem_append.mp hmem with hold | hnew
    · exact h.created thread hold pairingId userId deviceId token hphase
    · rw [mem_singleton] at hnew
      subst hnew
      cases hphase

section

variable {env : TokenEnv} {w' : TokenStore}

theorem Kept.stays (h : Kept hash pool)
    (hthread : pool.threads[i]? = some ⟨call, trace, .op o rest⟩)
    (thread : Thread TokenOp.Resp PairingRet) (hmem : thread ∈ pool.threads)
    (hsettled : ((pairingProtocol hash).phase thread).settled = true)
    (new : Thread TokenOp.Resp PairingRet) : thread ∈ pool.threads.set i new := by
  apply mem_set_of_ne hthread hmem
  rintro rfl
  have hopen := settled_of_may (h.holds _ hmem).1
  exact absurd hsettled (by rw [hopen]; exact Bool.false_ne_true)

theorem Traced.step (h : Traced hash w pool) (hkept : Kept hash pool)
    (hthread : pool.threads[i]? = some ⟨call, trace, .op o rest⟩)
    (hexec : o.exec env pool.shared = some (answer, w')) :
    Traced hash w
      ⟨w', pool.threads.set i ⟨call, trace ++ [⟨o, answer⟩], rest answer⟩⟩ := by
  obtain ⟨hopen, hfits, hstep⟩ := hkept.step hthread hexec
  have hstays := fun thread hmem hsettled =>
    hkept.stays hthread thread hmem hsettled ⟨call, trace ++ [⟨o, answer⟩], rest answer⟩
  have hnew : ⟨call, trace ++ [⟨o, answer⟩], rest answer⟩
      ∈ pool.threads.set i ⟨call, trace ++ [⟨o, answer⟩], rest answer⟩ :=
    List.mem_set (List.getElem?_eq_some_iff.mp hthread).1 _
  refine ⟨h.grown.trans (grown_of_step hstep hfits), fun thread hmem entry hentry => ?_,
    fun deviceId device hview => ?_, fun token row hview => ?_,
    fun thread hmem pairingId userId deviceId token hphase => ?_⟩
  · rcases mem_set_cases hmem with rfl | ⟨j, -, hget⟩
    · rw [attemptOf_append (.op o rest), Option.or_eq_some_iff] at hentry
      rcases hentry with hold | ⟨-, hcounted⟩
      · have hattempt := h.attempts _ (mem_of_getElem? hthread) entry hold
        exact absurd hattempt (attempt_of_open hopen entry)
      · rw [(pairingProtocol hash).phase_step]
        exact attempt_of_counted hcounted
    · exact h.attempts thread (mem_of_getElem? hget) entry hentry
  · rcases device_of_step hfits hstep hview with hold | ⟨p, u, t, hphase⟩
    · rcases h.devices deviceId device hold with hfirst | ⟨thread, hmem, p, u, t, hphase⟩
      · exact .inl hfirst
      · exact .inr ⟨thread, hstays thread hmem (by rw [hphase]; rfl), p, u, t, hphase⟩
    · exact .inr ⟨_, hnew, p, u, t, hphase⟩
  · rcases token_of_step hfits hstep hview with hold | ⟨p, u, d, hphase⟩
    · rcases h.tokens token row hold with hfirst | ⟨thread, hmem, p, u, d, hphase⟩
      · exact .inl hfirst
      · exact .inr ⟨thread, hstays thread hmem (by rw [hphase]; rfl), p, u, d, hphase⟩
    · exact .inr ⟨_, hnew, p, u, d, hphase⟩
  · rcases mem_set_cases hmem with rfl | ⟨j, -, hget⟩
    · -- what was there at the beginning would still be there
      obtain ⟨hdevice, htoken⟩ := new_of_step hfits hopen hstep hphase
      constructor
      · cases hfirst : w.devices.view deviceId with
        | none => rfl
        | some device => cases hdevice.symm.trans (h.grown.devices deviceId device hfirst)
      · cases hfirst : w.tokens.view token with
        | none => rfl
        | some row => cases htoken.symm.trans (h.grown.tokens token row hfirst)
    · exact h.created thread (mem_of_getElem? hget) _ _ _ _ hphase

end

theorem traced_of_reach (hw : w.Startable)
    (hreach : (pairingService hash).Reach (fun _ _ => True) (PairingPool.initial w) pool) :
    Traced hash w pool := by
  induction hreach with
  | refl =>
    exact ⟨.refl _, forall_mem_nil _, fun _ _ => .inl, fun _ _ => .inl,
      forall_mem_nil _⟩
  | @tail pool pool' act hreach _ hnext ih =>
    cases act with
    | start call =>
      cases hnext
      exact ih.start call
    | step i env =>
      obtain ⟨call, trace, o, rest, answer, w', hthread, hexec, rfl⟩ :=
        (pairingService hash).next_step hnext
      exact ih.step (kept_of_reach hw hreach) hthread hexec

section

variable {j : Nat} {userId : Uuid} {code : String} {result : PairingResult}

section

variable (h : Kept hash pool)
include h

theorem Kept.approved (happroves : Approves pool i pairingId code userId) :
    ∃ thread, pool.threads[i]? = some thread ∧ thread.call.code = code
      ∧ (pairingProtocol hash).phase thread = .approved pairingId userId
      ∧ pool.shared.pairBooks.Fits hash thread.call (.approved pairingId userId) := by
  obtain ⟨deviceId, trace, hthread⟩ := happroves
  have hmem := mem_of_getElem? hthread
  have hphase : (pairingProtocol hash).phase
      ⟨.approvePairing pairingId code userId deviceId, trace, .ret (.ok ())⟩
        = .approved pairingId userId := h.holds _ hmem
  exact ⟨_, hthread, rfl, hphase, hphase ▸ h.holding.fits _ hmem⟩

theorem Kept.finished (hfinishes : Finishes pool i pairingId code result) :
    ∃ thread, pool.threads[i]? = some thread ∧ thread.call.code = code
      ∧ (pairingProtocol hash).phase thread
        = .finished pairingId result.userId result.deviceId result.refreshToken
      ∧ pool.shared.pairBooks.Fits hash thread.call
        (.finished pairingId result.userId result.deviceId result.refreshToken) := by
  obtain ⟨refreshTtl, trace, hthread⟩ := hfinishes
  have hmem := mem_of_getElem? hthread
  have hphase : (pairingProtocol hash).phase
      ⟨.finishPairing pairingId code refreshTtl, trace, .ret (.ok result)⟩
        = .finished pairingId result.userId result.deviceId result.refreshToken := h.holds _ hmem
  exact ⟨_, hthread, rfl, hphase, hphase ▸ h.holding.fits _ hmem⟩

theorem Kept.same {thread' : Thread TokenOp.Resp PairingRet} {φ φ' : PairPhase}
    (hthread : pool.threads[i]? = some thread) (hthread' : pool.threads[j]? = some thread')
    (hphase : (pairingProtocol hash).phase thread = φ)
    (hphase' : (pairingProtocol hash).phase thread' = φ') (k : PairKey) (hk : φ.Keeps k)
    (hk' : φ'.Keeps k) : i = j := by
  subst hphase hphase'
  exact h.holding.apart i j thread thread' k hthread hthread' hk hk'

theorem Kept.finishes {deviceId : Uuid} {token : String}
    (hthread : pool.threads[i]? = some thread)
    (hphase : (pairingProtocol hash).phase thread = .finished pairingId userId deviceId token) :
    ∃ code result, Finishes pool i pairingId code result ∧ result.deviceId = deviceId
      ∧ result.refreshToken = token := by
  have hholds := h.holds thread (mem_of_getElem? hthread)
  obtain ⟨call, trace, rest⟩ := thread
  cases rest with
  | op o rest =>
    have hopen := settled_of_may hholds.1
    rw [hphase] at hopen
    cases hopen
  | ret a =>
    have hpost : PairPhase.Post call ((pairingProtocol hash).phase ⟨call, trace, .ret a⟩) a :=
      hholds
    rw [hphase] at hpost
    cases call with
    | approvePairing p code u d =>
      cases a with
      | error e => cases (hpost : some pairingId = none)
      | ok r => cases (hpost : PairPhase.finished _ _ _ _ = .approved p u)
    | finishPairing p code refreshTtl =>
      cases a with
      | error e => cases (hpost : some pairingId = none)
      | ok result =>
        cases (hpost : PairPhase.finished _ _ _ _ = .finished p _ _ _)
        exact ⟨code, result, ⟨refreshTtl, trace, hthread⟩, rfl, rfl⟩

end

end

theorem attemptOf_of_attemptOn {count : Nat} (h : attemptOn pairingId thread = some count) :
    attemptOf thread = some (pairingId, count) := by
  obtain ⟨⟨id, n⟩, hentry, hif⟩ := Option.bind_eq_some_iff.mp h
  dsimp only at hif
  split_ifs at hif with hid
  cases hif
  rw [hentry, hid]

theorem wrongCodes_le (hkept : Kept hash pool) (htraced : Traced hash w pool)
    (hview : pool.shared.pairings.view pairingId = some pairing) :
    wrongCodes pool pairingId ≤ pairing.attemptCount := by
  have hattempt : ∀ thread ∈ pool.threads, ∀ count, attemptOn pairingId thread = some count →
      ((pairingProtocol hash).phase thread).attempt = some (pairingId, count) :=
    fun thread hmem count h => htraced.attempts thread hmem _ (attemptOf_of_attemptOn h)
  have hnodup : (pool.threads.filterMap (attemptOn pairingId)).Nodup := by
    apply Exclusive.nodup_filterMap
    intro i j thread thread' count hi hj hc hc'
    exact hkept.holding.apart i j thread thread' (.attempt pairingId count) hi hj
      (hattempt thread (mem_of_getElem? hi) count hc)
      (hattempt thread' (mem_of_getElem? hj) count hc')
  have hrange : (pool.threads.filterMap (attemptOn pairingId)).toFinset
      ⊆ Finset.Icc 1 pairing.attemptCount := by
    intro count hcount
    obtain ⟨thread, hmem, hc⟩ := mem_filterMap.mp (mem_toFinset.mp hcount)
    have hfits := hkept.holding.fits thread hmem
    have hphase := eq_attempted (hattempt thread hmem count hc)
    rw [hphase] at hfits
    obtain ⟨hpos, before, hbefore, hle⟩ := hfits
    rw [show pool.shared.pairBooks.pairings.view pairingId = some pairing from hview] at hbefore
    cases hbefore
    exact Finset.mem_Icc.mpr ⟨hpos, hle⟩
  calc wrongCodes pool pairingId
      = (pool.threads.filterMap (attemptOn pairingId)).toFinset.card :=
        (toFinset_card_of_nodup hnodup).symm
    _ ≤ (Finset.Icc 1 pairing.attemptCount).card := Finset.card_le_card hrange
    _ = pairing.attemptCount := by rw [Nat.card_Icc, Nat.add_sub_cancel]

/-- **Lock-out.** Once five wrong codes are counted no other call approves or finishes the
pairing. -/
theorem locked_out (hw : w.Startable)
    (hreach : (pairingService hash).Reach (fun _ _ => True) (PairingPool.initial w) pool)
    (hview : pool.shared.pairings.view pairingId = some pairing)
    (hfive : 5 ≤ pairing.attemptCount)
    (hlater : (pairingService hash).Reach (fun _ _ => True) pool pool') :
    (∃ after, pool'.shared.pairings.view pairingId = some after ∧ Pairing.Later pairing after)
      ∧ ∀ (j : Nat) (thread : Thread TokenOp.Resp PairingRet), pool'.threads[j]? = some thread →
        ((pairingProtocol hash).phase thread).approval = some pairingId
          ∨ ((pairingProtocol hash).phase thread).finish = some pairingId →
        pool.threads[j]? = some thread := by
  induction hlater with
  | refl => exact ⟨⟨pairing, hview, .refl pairing⟩, fun _ _ hthread _ => hthread⟩
  | @tail pool₁ pool₂ act hlater _ hnext ih =>
    obtain ⟨⟨after, hafter, hlater'⟩, hsame⟩ := ih
    cases act with
    | start call =>
      cases hnext
      refine ⟨⟨after, hafter, hlater'⟩, fun j thread hthread hdone => ?_⟩
      rcases getElem?_concat_cases hthread with hold | ⟨-, rfl⟩
      · exact hsame j thread hold hdone
      · rcases hdone with hdone | hdone <;> cases hdone
    | step i env =>
      obtain ⟨call, trace, o, rest, answer, w', hthread, hexec, rfl⟩ :=
        (pairingService hash).next_step hnext
      have hkept := kept_of_reach hw (hreach.trans hlater)
      obtain ⟨hopen, hfits, hstep⟩ := hkept.step hthread hexec
      obtain ⟨last, hlast, hlater''⟩ :=
        (grown_of_step hstep hfits).pairings pairingId after hafter
      refine ⟨⟨last, hlast, hlater'.trans hlater''⟩, fun j thread hget hdone => ?_⟩
      by_cases hj : j = i
      · subst hj
        rw [List.getElem?_set_self (List.getElem?_eq_some_iff.mp hthread).1] at hget
        cases hget
        have hfew := few_of_step hfits hopen hstep hdone hafter
        exact absurd (hfive.trans hlater'.attempts) (Nat.not_le_of_lt hfew)
      · rw [getElem?_set_ne (Ne.symm hj)] at hget
        exact hsame j thread hget hdone

structure OneDevice (hash : String → String) (w : TokenStore) (pool : PairingPool) : Prop where
  approved_once : ∀ i j pairingId code code' userId userId',
    Approves pool i pairingId code userId → Approves pool j pairingId code' userId' → i = j
  finished_once : ∀ i j pairingId code code' result result',
    Finishes pool i pairingId code result → Finishes pool j pairingId code' result' → i = j
  delivered : ∀ i pairingId code result, Finishes pool i pairingId code result →
    ∃ pairing row, pool.shared.pairings.view pairingId = some pairing
      ∧ pairing.codeHash = hash code ∧ pairing.approvedUserId = some result.userId
      ∧ pool.shared.devices.view result.deviceId
        = some ⟨result.userId, pairing.requestDeviceName, none⟩
      ∧ pool.shared.tokens.view result.refreshToken = some row ∧ row.deviceId = result.deviceId
  created : ∀ i pairingId code result, Finishes pool i pairingId code result →
    w.devices.view result.deviceId = none ∧ w.tokens.view result.refreshToken = none
  approver : ∀ i j pairingId code code' userId result, Approves pool i pairingId code userId →
    Finishes pool j pairingId code' result → code = code' ∧ userId = result.userId
  devices : ∀ deviceId device, pool.shared.devices.view deviceId = some device →
    w.devices.view deviceId = some device
      ∨ ∃ i pairingId code result, Finishes pool i pairingId code result
        ∧ result.deviceId = deviceId
  tokens : ∀ token row, pool.shared.tokens.view token = some row →
    w.tokens.view token = some row
      ∨ ∃ i pairingId code result, Finishes pool i pairingId code result
        ∧ result.refreshToken = token
  apart : ∀ i j pairingId pairingId' code code' result result',
    Finishes pool i pairingId code result → Finishes pool j pairingId' code' result' →
    result.deviceId = result'.deviceId ∨ result.refreshToken = result'.refreshToken → i = j

theorem oneDevice_of_kept (hinj : Injective hash) (hkept : Kept hash pool)
    (htraced : Traced hash w pool) : OneDevice hash w pool where
  approved_once i j pairingId code code' userId userId' h h' := by
    obtain ⟨thread, hthread, -, hphase, -⟩ := hkept.approved h
    obtain ⟨thread', hthread', -, hphase', -⟩ := hkept.approved h'
    exact hkept.same hthread hthread' hphase hphase' (.approval pairingId) rfl rfl
  finished_once i j pairingId code code' result result' h h' := by
    obtain ⟨thread, hthread, -, hphase, -⟩ := hkept.finished h
    obtain ⟨thread', hthread', -, hphase', -⟩ := hkept.finished h'
    exact hkept.same hthread hthread' hphase hphase' (.finish pairingId) rfl rfl
  delivered i pairingId code result h := by
    obtain ⟨thread, -, rfl, -, hfits⟩ := hkept.finished h
    obtain ⟨rfl, pairing, row, hright, huser, -, -, hdevice, htoken, hrow, -⟩ := hfits
    exact ⟨pairing, row, hright.view, hright.code, huser, hdevice, htoken, hrow⟩
  created i pairingId code result h := by
    obtain ⟨thread, hthread, -, hphase, -⟩ := hkept.finished h
    exact htraced.created thread (mem_of_getElem? hthread) _ _ _ _ hphase
  approver i j pairingId code code' userId result h h' := by
    obtain ⟨thread, -, rfl, -, hsame, pairing, hright, -, huser⟩ := hkept.approved h
    obtain ⟨thread', -, rfl, -, hsame', pairing', row, hright', huser', -⟩ := hkept.finished h'
    have hview := hright.view
    rw [← hsame, hsame', hright'.view] at hview
    cases hview
    exact ⟨hinj (hright.code.symm.trans hright'.code), Option.some.inj (huser.symm.trans huser')⟩
  devices deviceId device hview := by
    refine (htraced.devices deviceId device hview).imp_right ?_
    rintro ⟨thread, hmem, pairingId, userId, token, hphase⟩
    obtain ⟨i, hthread⟩ := mem_iff_getElem?.mp hmem
    obtain ⟨code, result, hfinishes, hdevice, -⟩ := hkept.finishes hthread hphase
    exact ⟨i, pairingId, code, result, hfinishes, hdevice⟩
  tokens token row hview := by
    refine (htraced.tokens token row hview).imp_right ?_
    rintro ⟨thread, hmem, pairingId, userId, deviceId, hphase⟩
    obtain ⟨i, hthread⟩ := mem_iff_getElem?.mp hmem
    obtain ⟨code, result, hfinishes, -, htoken⟩ := hkept.finishes hthread hphase
    exact ⟨i, pairingId, code, result, hfinishes, htoken⟩
  apart i j pairingId pairingId' code code' result result' h h' hsame := by
    obtain ⟨thread, hthread, -, hphase, -⟩ := hkept.finished h
    obtain ⟨thread', hthread', -, hphase', -⟩ := hkept.finished h'
    rcases hsame with hdevice | htoken
    · exact hkept.same hthread hthread' hphase hphase' (.device result.deviceId) rfl
        (congrArg some hdevice.symm)
    · exact hkept.same hthread hthread' hphase hphase' (.token result.refreshToken) rfl
        (congrArg some htoken.symm)

theorem view_of_wrongCodes (hkept : Kept hash pool) (htraced : Traced hash w pool)
    (h : 0 < wrongCodes pool pairingId) :
    ∃ pairing, pool.shared.pairings.view pairingId = some pairing := by
  obtain ⟨count, hcount⟩ := exists_mem_of_length_pos h
  obtain ⟨thread, hmem, hattempt⟩ := mem_filterMap.mp hcount
  have hfits := hkept.holding.fits thread hmem
  rw [eq_attempted (htraced.attempts thread hmem _ (attemptOf_of_attemptOn hattempt))]
    at hfits
  obtain ⟨-, pairing, hview, -⟩ := hfits
  exact ⟨pairing, hview⟩

/-- **A wrong code is counted**, if the pairing is pending. -/
theorem Pair.verify_counts {α : Type} {stage : PairingStage} {now : Instant} {code : String}
    (hview : w.pairings.view pairingId = some pairing) (hrefusal : pairing.refusal stage now = none)
    (hpending : pairing.pending now = true) (hwrong : hash code ≠ pairing.codeHash)
    (next : TokenProg (Except PairingError α)) :
    (verify hash stage pairingId code next).Ensures TokenOp.exec
      (fun _ env => env.now = now ∧ env.failure = none) (fun _ w' => w'.pairings.view pairingId
        = some { pairing with attemptCount := pairing.attemptCount + 1 }) w := by
  have hrow : (w.pairings.rows pairingId).visible none = some pairing :=
    (Table.visible_none _).trans hview
  rintro env answer w₁ ⟨-, hfailure⟩ hexec
  simp only [TokenOp.exec, TokenEnv.fallible, hfailure, hrow] at hexec
  cases hexec
  rintro env _ _ ⟨rfl, -⟩ ⟨⟩
  simp only [hrefusal, ne_eq, hwrong, not_false_eq_true, if_true]
  rintro env₃ answer w₃ ⟨hnow, hfailure⟩ hexec
  simp only [TokenOp.exec, TokenEnv.fallible, hfailure, TokenStore.countAttempt,
    TokenStore.updatePairing, hrow, hnow, hpending] at hexec
  split_ifs at hexec
  · contradiction
  · cases hexec
    have hcounted : (w.pairings.put pairingId (some { pairing with
        attemptCount := pairing.attemptCount + 1 })).view pairingId = _ :=
      (congrFun Table.view_put pairingId).trans (update_self ..)
    dsimp only [Prog.bind]
    split_ifs <;> exact hcounted

/-- **Pairing yields at most one device, for the approver**, and five wrong codes end it. -/
theorem pairing_yields_one_device (hinj : Injective hash) (hw : w.Startable)
    (hreach : (pairingService hash).Reach (fun _ _ => True) (PairingPool.initial w) pool) :
    OneDevice hash w pool
      ∧ ∀ pairingId pool', 5 ≤ wrongCodes pool pairingId →
        (pairingService hash).Reach (fun _ _ => True) pool pool' →
        (∀ j code userId, Approves pool' j pairingId code userId →
          Approves pool j pairingId code userId)
        ∧ (∀ j code result, Finishes pool' j pairingId code result →
          Finishes pool j pairingId code result)
        ∧ ∃ before after, pool.shared.pairings.view pairingId = some before
          ∧ pool'.shared.pairings.view pairingId = some after
          ∧ after.approvedAt = before.approvedAt ∧ after.approvedUserId = before.approvedUserId
          ∧ after.usedAt = before.usedAt := by
  have hkept := kept_of_reach hw hreach
  have htraced := traced_of_reach hw hreach
  refine ⟨oneDevice_of_kept hinj hkept htraced, fun pairingId pool' hfive hlater => ?_⟩
  obtain ⟨before, hview⟩ := view_of_wrongCodes hkept htraced (Nat.lt_of_lt_of_le (by decide) hfive)
  have hattempts := hfive.trans (wrongCodes_le hkept htraced hview)
  obtain ⟨⟨after, hafter, hages⟩, hsame⟩ := locked_out hw hreach hview hattempts hlater
  have hkept' := kept_of_reach hw (hreach.trans hlater)
  obtain ⟨happroved, huser⟩ := hages.approved (.inr hattempts)
  refine ⟨fun j code userId h => ?_, fun j code result h => ?_, before, after, hview, hafter,
    happroved, huser, hages.used (.inr hattempts)⟩
  · obtain ⟨thread, hthread, -, hphase, -⟩ := hkept'.approved h
    obtain ⟨deviceId, trace, hthread'⟩ := h
    have hold := hsame j thread hthread (.inl (by rw [hphase]; rfl))
    exact ⟨deviceId, trace, hold.trans (hthread.symm.trans hthread')⟩
  · obtain ⟨thread, hthread, -, hphase, -⟩ := hkept'.finished h
    obtain ⟨refreshTtl, trace, hthread'⟩ := h
    have hold := hsame j thread hthread (.inr (by rw [hphase]; rfl))
    exact ⟨refreshTtl, trace, hold.trans (hthread.symm.trans hthread')⟩

end

def trustedId : Uuid := ⟨"00000000-0000-4000-8000-000000000002", by decide⟩

def TokenStore.withPairing (id : Uuid) (codeHash : String) : TokenStore where
  tokens := .empty
  devices := .empty
  users := Table.empty.put id (some ⟨0, none⟩)
  alphaInvites := .empty
  redemptions := .empty
  pairings := Table.empty.put id (some ⟨codeHash, "phone", none, none, none, 10, none, 0⟩)
  drawn := []
  nextTx := 0

theorem TokenStore.startable_withPairing (id : Uuid) (codeHash : String) :
    (withPairing id codeHash).Startable where
  pairings pairingId := by
    rw [withPairing, Table.written_put]
    rfl
  devices _ := rfl
  tokens _ := rfl
  drawn _ hview := absurd rfl hview
  named pairingId pairing hview happroved := by
    simp only [withPairing, Table.view_put, update_apply] at hview
    split_ifs at hview
    · cases hview
      cases happroved
    · cases hview

def pairEnv : TokenEnv := ⟨0, none, "token", "access", trustedId, "", "", ""⟩

/-- An approval and a finish; and, in another run, five wrong codes before the right one. -/
theorem pairing_yields_one_device_finished :
    (∃ (pool : PairingPool) (i : Nat) (pairingId : Uuid) (code : String) (result : PairingResult),
      (pairingService id).Reach (fun _ _ => True)
          (PairingPool.initial (.withPairing trustedId "code")) pool
        ∧ Finishes pool i pairingId code result ∧ result.deviceId = trustedId)
    ∧ ∃ (pool pool' : PairingPool) (after : Pairing), 5 ≤ wrongCodes pool trustedId
      ∧ (pairingService id).Reach (fun _ _ => True) pool pool' ∧ pool'.threads.length = 6
      ∧ pool'.shared.pairings.view trustedId = some after ∧ after.approvedAt = none := by
  have hstart := TokenStore.startable_withPairing trustedId "code"
  refine ⟨?_, ?_⟩
  · obtain ⟨pool, hreach, htest⟩ := System.exists_reach_of_replay (pairingService id)
      (fun _ _ => True) (PairingPool.initial (.withPairing trustedId "code"))
      (.start (.approvePairing trustedId "code" trustedId trustedId)
        :: .start (.finishPairing trustedId "code" 10)
        :: replicate 3 (.step 0 pairEnv) ++ replicate 12 (.step 1 pairEnv))
      (fun pool => (pool.shared.devices.view trustedId).isSome) (by decide +kernel)
    obtain ⟨device, hdevice⟩ := Option.isSome_iff_exists.mp htest
    have hone := (pairing_yields_one_device injective_id hstart hreach).1
    rcases hone.devices trustedId device hdevice with hfirst | ⟨i, pairingId, code, result, h, hid⟩
    · cases hfirst
    · exact ⟨pool, i, pairingId, code, result, hreach, h, hid⟩
  · obtain ⟨pool, hreach, hfive, hnone, hright⟩ := System.exists_reach_of_replay (pairingService id)
      (fun _ _ => True) (PairingPool.initial (.withPairing trustedId "code"))
      ((List.range 5).flatMap fun i =>
        .start (.approvePairing trustedId "guess" trustedId trustedId)
          :: replicate 3 (.step i pairEnv))
      (fun pool => wrongCodes pool trustedId = 5
        ∧ (pool.shared.pairings.view trustedId).bind (·.approvedAt) = none
        ∧ ((pairingService id).replay (fun _ _ => True) pool
          (.start (.approvePairing trustedId "code" trustedId trustedId)
            :: replicate 2 (.step 5 pairEnv))).any (fun pool' => pool'.threads.length = 6) = true)
      (by decide +kernel)
    obtain ⟨pool', hlater, hlength⟩ := System.exists_reach_of_replay _ _ _ _ _ hright
    obtain ⟨before, after, hbefore, hafter, hsame, -⟩ :=
      ((pairing_yields_one_device injective_id hstart hreach).2 _ _ hfive.ge hlater).2.2
    rw [hbefore] at hnone
    exact ⟨pool, pool', after, hfive.ge, hlater, hlength, hafter, hsame.trans hnone⟩

end Wavis
