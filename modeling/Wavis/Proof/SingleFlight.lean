import Wavis.Proof.SessionProtocol

/-! The calls that need new tokens at the same time share one refresh: the first starts it, and the
others wait for its result. -/

namespace Wavis.Auth

open Concurrency Prog

variable {insecureTlsAllowed : Bool}

/-- Where a call stands with the refresh that all calls share. -/
inductive Flight where
  | ground
  | joined (refresh : Nat)
  | flying (refresh : Nat)
  | landed (refresh : Nat)

namespace Flight

def owner : Flight → Option Unit
  | flying _ => some ()
  | landed _ => some ()
  | _ => none

def May (φ : Flight) : AuthOp → Prop
  | .beginRefresh => φ = ground
  | .awaitRefresh refresh => φ = joined refresh
  | .settleRefresh refresh _ => φ = flying refresh
  | .endRefresh => ∃ refresh, φ = landed refresh
  | .fetch (.refresh _ _) => ∃ refresh, φ = flying refresh
  | _ => True

def next (φ : Flight) : (o : AuthOp) → AuthResp o → Flight
  | .beginRefresh, .joined refresh => joined refresh
  | .beginRefresh, .started refresh => flying refresh
  | .settleRefresh refresh _, _ => landed refresh
  | .endRefresh, _ => ground
  | _, _ => φ

def protocol : Protocol AuthResp AuthRet Flight where
  init _ := ground
  next := next
  may _ := May
  post _ φ _ := φ.owner = none

/-- The phase permits the operation and stays. -/
def Idle (φ : Flight) (o : AuthOp) : Prop := φ.May o ∧ ∀ answer, φ.next o answer = φ

section

variable {α : Type} {φ : Flight} {rest : AuthProg (Except AuthFailure α)}

theorem obeys_idle {program : AuthProg α} (h : program.Within φ.Idle) :
    program.Obeys next May (fun φ' _ => φ' = φ) φ := by
  refine Within.obeys h rfl ?_
  rintro _ o rfl hidle
  exact hidle

theorem idle_reading {item : StoreRead} {rest : Option String → AuthProg (Except AuthFailure α)}
    (h : ∀ value, (rest value).Within φ.Idle) : (reading item rest).Within φ.Idle := by
  refine ⟨⟨trivial, fun _ => rfl⟩, fun answer => ?_⟩
  cases answer with
  | none => trivial
  | some value => exact h value

theorem idle_readingInsecureTls (insecureTlsAllowed : Bool) (h : rest.Within φ.Idle) :
    (readingInsecureTls insecureTlsAllowed rest).Within φ.Idle := by
  unfold readingInsecureTls
  split_ifs
  · refine ⟨⟨trivial, fun _ => rfl⟩, fun answer => ?_⟩
    cases answer with
    | none => trivial
    | some value => exact h
  · exact h

theorem idle_writing {change : StoreWrite} (h : rest.Within φ.Idle) :
    (writing change rest).Within φ.Idle := by
  refine ⟨⟨trivial, fun _ => rfl⟩, fun answer => ?_⟩
  cases answer with
  | true => exact h
  | false => trivial

theorem idle_keepTokens (body : TokenBody) (h : rest.Within φ.Idle) :
    (keepTokens body rest).Within φ.Idle :=
  idle_writing <| idle_writing <| idle_writing <| idle_writing h

end

theorem idle_tryRefresh (refresh : Nat) :
    (tryRefresh insecureTlsAllowed).Within (flying refresh).Idle := by
  refine idle_reading fun serverUrl => ?_
  cases serverUrl with
  | none => trivial
  | some serverUrl =>
    refine idle_reading fun refreshToken => ?_
    cases refreshToken with
    | none => trivial
    | some refreshToken =>
      refine idle_readingInsecureTls _ ⟨⟨⟨_, rfl⟩, fun _ => rfl⟩, fun reply => ?_⟩
      cases reply with
      | accepted body => exact idle_keepTokens body trivial
      | _ => trivial

theorem idle_login (serverUrl : ServerUrl) (insecureTls : Bool) {request : AuthRequest}
    (hrequest : ground.Idle (.fetch request))
    {rest : TokenBody → AuthProg (Except AuthFailure Unit)}
    (h : ∀ body, (rest body).Within ground.Idle) :
    (login insecureTlsAllowed serverUrl insecureTls request rest).Within ground.Idle := by
  unfold login
  split_ifs
  · refine idle_writing ⟨hrequest, fun reply => ?_⟩
    cases reply with
    | accepted body => exact idle_writing (idle_keepTokens body (h body))
    | _ => trivial
  · trivial

theorem idle_body {call : AuthCall} (h : call ≠ .refreshTokens) :
    (call.body insecureTlsAllowed).Within ground.Idle := by
  cases call with
  | refreshTokens => exact absurd rfl h
  | clearAccessTokens => exact idle_writing <| idle_writing trivial
  | logout =>
    exact idle_writing <| idle_writing <| idle_writing <| idle_writing <| idle_writing
      ⟨⟨trivial, fun _ => rfl⟩, fun _ => trivial⟩
  | registerUser | recoverAccount =>
    exact idle_login _ _ (by exact ⟨trivial, fun _ => rfl⟩) fun body => idle_writing trivial
  | finishPairing pairingId code =>
    refine idle_reading fun serverUrl => ?_
    cases serverUrl with
    | none => trivial
    | some serverUrl =>
      refine idle_readingInsecureTls _ ⟨⟨trivial, fun _ => rfl⟩, fun reply => ?_⟩
      cases reply with
      | accepted body => exact idle_keepTokens body trivial
      | _ => trivial

theorem protocol_holds (call : AuthCall) :
    protocol.Holds ((authCalls insecureTlsAllowed).spawn call) := by
  by_cases hcall : call = .refreshTokens
  · subst hcall
    refine ⟨rfl, fun turn => ?_⟩
    cases turn with
    | joined refresh => exact ⟨rfl, fun _ => rfl⟩
    | started refresh =>
      refine (obeys_idle (idle_tryRefresh refresh)).bind ?_
      rintro _ outcome rfl
      exact ⟨rfl, fun _ => ⟨⟨_, rfl⟩, fun _ => rfl⟩⟩
  · exact (obeys_idle (idle_body hcall)).mono fun _ _ h => h ▸ rfl

def Fits (c : AuthClient) (_ : AuthCall) : Flight → Prop
  | ground => True
  | joined refresh => refresh < c.refreshes.length
  | flying refresh => c.inflightRefresh = some refresh
  | landed refresh => c.inflightRefresh = some refresh ∧ c.refreshes[refresh]? ≠ some none

/-- Only the refresh in flight is not settled. -/
structure Orderly (c : AuthClient) : Prop where
  begun : ∀ {refresh}, c.inflightRefresh = some refresh → refresh < c.refreshes.length
  unsettled : ∀ {refresh}, c.refreshes[refresh]? = some none → c.inflightRefresh = some refresh

/-- What an operation does to the refresh that is shared. -/
inductive Turn (c : AuthClient) : (o : AuthOp) → AuthResp o → AuthClient → Prop
  | idle {o : AuthOp} {answer : AuthResp o} {c' : AuthClient} :
      c'.inflightRefresh = c.inflightRefresh → c'.refreshes = c.refreshes →
      (∀ φ : Flight, φ.next o answer = φ) → Turn c o answer c'
  | joined {refresh : Nat} : c.inflightRefresh = some refresh →
      Turn c .beginRefresh (.joined refresh) c
  | started : c.inflightRefresh = none → Turn c .beginRefresh (.started c.refreshes.length)
      { c with inflightRefresh := some c.refreshes.length, refreshes := c.refreshes ++ [none] }
  | settled {refresh : Nat} (result : RefreshResult) : Turn c (.settleRefresh refresh result) ()
      { c with refreshes := c.refreshes.set refresh (some result) }
  | ended : Turn c .endRefresh () { c with inflightRefresh := none }

section

variable {o : AuthOp} {env : AuthEnv} {c c' : AuthClient} {answer : AuthResp o} {φ φ' : Flight}
  {call call' : AuthCall}

theorem turn_of_exec (h : o.exec env c = some (answer, c')) : Turn c o answer c' := by
  cases o with
  | beginRefresh =>
    simp only [AuthOp.exec] at h
    split at h
    · cases h
      exact .joined ‹_›
    · cases h
      exact .started ‹_›
  | settleRefresh refresh result =>
    cases h
    exact .settled result
  | endRefresh =>
    cases h
    exact .ended
  | awaitRefresh refresh =>
    obtain ⟨result, -, heq⟩ := Option.map_eq_some_iff.mp h
    cases heq
    exact .idle rfl rfl fun _ => rfl
  | write change =>
    simp only [AuthOp.exec] at h
    split_ifs at h <;> cases h <;> exact .idle rfl rfl fun _ => rfl
  | _ =>
    cases h
    exact .idle rfl rfl fun _ => rfl

namespace Turn

variable (h : Turn c o answer c') (hmay : φ.May o)
include h hmay

theorem own (hc : Orderly c) (hfits : Fits c call φ) :
    Orderly c' ∧ Fits c' call (φ.next o answer) := by
  obtain ⟨hbegun, hunsettled⟩ := hc
  cases h with
  | idle hinflight hrefreshes hnext =>
    rw [hnext]
    exact ⟨⟨by grind, by grind⟩, by cases φ <;> grind [Fits]⟩
  | joined hinflight => exact ⟨⟨hbegun, hunsettled⟩, hbegun hinflight⟩
  | started hnone => exact ⟨⟨by grind, by grind⟩, rfl⟩
  | settled result =>
    obtain rfl := hmay
    exact ⟨⟨by grind, by grind⟩, hfits, by grind [hbegun hfits]⟩
  | ended =>
    obtain ⟨refresh, rfl⟩ := hmay
    obtain ⟨hinflight, hsettled⟩ := hfits
    exact ⟨⟨by rintro _ ⟨⟩, by grind⟩, trivial⟩

theorem other (hfits : Fits c call' φ') (hapart : φ.owner = some () → φ'.owner ≠ some ()) :
    Fits c' call' φ' := by
  cases h with
  | joined _ => exact hfits
  | idle _ _ _ | started _ => cases φ' <;> grind [Fits]
  | settled result | ended => cases φ' <;> grind [Fits, owner, May]

/-- A refresh is started only while no other call is at one. -/
theorem gain (howner : (φ.next o answer).owner = some ()) (hfits : Fits c call' φ')
    (howner' : φ'.owner = some ()) : φ.owner = some () := by
  cases h with
  | idle _ _ hnext => rwa [hnext] at howner
  | joined _ | ended => cases howner
  | started hnone => cases φ' <;> grind [Fits, owner]
  | settled result =>
    obtain rfl := hmay
    rfl

end Turn

end

section

variable {store : AuthStore} {pool : Pool AuthResp AuthRet AuthClient}
  (hreach : (authCalls insecureTlsAllowed).Reach (fun _ _ => True) ⟨.initial store, []⟩ pool)
include hreach

theorem owning :
    pool.Owning protocol Orderly Fits owner ∧ ∀ thread ∈ pool.threads, protocol.Holds thread := by
  refine hreach.owning (fun _ call _ => protocol_holds call) rfl
    ⟨by rintro _ ⟨⟩, by rintro _ ⟨⟩⟩ ?_ (fun _ _ _ => ⟨trivial, rfl⟩) ?_ ?_
  · rintro pool i env call φ o answer c - - hc hfits hmay hexec
    exact (turn_of_exec hexec).own hmay hc hfits
  · rintro pool i env call φ o answer c call' φ' - - - - hmay hexec hfits' hapart
    exact (turn_of_exec hexec).other hmay hfits' (hapart ())
  · rintro pool i env thread o answer c j other k - - - - - - hmay hexec howner hfits' howner'
    exact (turn_of_exec hexec).gain hmay howner hfits' howner'

/-- A call that is at a refresh has not returned, and does not wait for one. -/
theorem going {thread : Thread AuthResp AuthRet} (hmem : thread ∈ pool.threads)
    (howner : (protocol.phase thread).owner ≠ none) :
    ∃ j o, pool.nextOp j = some o ∧ ∀ refresh, o ≠ .awaitRefresh refresh := by
  obtain ⟨j, hj⟩ := List.mem_iff_getElem?.mp hmem
  have hholds := (owning hreach).2 thread hmem
  obtain ⟨call, trace, rest⟩ := thread
  cases rest with
  | ret a => exact absurd hholds howner
  | op o rest =>
    refine ⟨j, o, by simp only [Pool.nextOp, hj], ?_⟩
    rintro refresh rfl
    exact howner (congrArg owner hholds.1)

/-- While a refresh is not settled, some call is at it. -/
theorem settled_or_going (refresh : Nat) : pool.shared.refreshes[refresh]? ≠ some none
    ∨ ∃ j o, pool.nextOp j = some o ∧ ∀ refresh', o ≠ .awaitRefresh refresh' := by
  refine or_iff_not_imp_right.mpr fun hstuck => ?_
  have hnone : ∀ thread ∈ pool.threads, (protocol.phase thread).owner = none := by
    intro thread hmem
    by_contra howner
    exact hstuck (going hreach hmem howner)
  refine hreach.at_rest (J := fun c => ∀ refresh : Nat, c.refreshes[refresh]? ≠ some none)
    (fun pool hreach => owning hreach) (by rintro _ ⟨⟩) ?_ hnone refresh
  rintro pool i env call φ o answer c - - hc hfits hmay hexec howner hbefore
  cases turn_of_exec hexec with
  | idle _ hrefreshes hnext =>
    rw [hrefreshes]
    exact hbefore (hnext φ ▸ howner)
  | joined _ =>
    obtain rfl := hmay
    exact hbefore rfl
  | started _ | settled _ => cases howner
  | ended =>
    obtain ⟨refresh, rfl⟩ := hmay
    intro refresh' hopen
    have heq := hfits.1.symm.trans (hc.unsettled hopen)
    exact hfits.2 (Option.some.inj heq ▸ hopen)

end

end Flight

end Wavis.Auth
