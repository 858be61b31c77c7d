import Wavis.Proof.ChannelRows

namespace Wavis

open Concurrency Prog Channels

structure ChannelPhase where
  tx : Option TxId
  seen : List ((Uuid × Uuid) × ChannelMembership)
  /-- The channel that was inserted, and its owner, until the owner is a member. -/
  founding : Option (Uuid × Uuid)
  deleted : Option Uuid
  dependents : List Dependent
  drafts : List ChannelEvent
  /-- What the request has committed in its transaction. -/
  done : List ChannelEvent

namespace ChannelPhase

def initial : ChannelPhase := ⟨none, [], none, none, [], [], []⟩

def ended (φ : ChannelPhase) : ChannelPhase :=
  { φ with tx := none, founding := none, deleted := none, dependents := [], drafts := [] }

def next (φ : ChannelPhase) : (o : ChannelOp) → o.Resp → ChannelPhase
  | .begin, .ok (tx, _) => { φ with tx := some tx }
  | .commit _, .ok _ => { φ.ended with done := φ.done ++ φ.drafts }
  | .commit _, .error _ => φ.ended
  | .rollback _, _ => φ.ended
  | .insertChannel _ _ ownerUserId _, .ok channelId =>
    { φ with founding := some (channelId, ownerUserId) }
  | .deleteChannel _ channelId, .ok true => { φ with deleted := some channelId }
  | .selectDependents _ _, .ok dependents => { φ with dependents }
  | .selectMembership _ channelId userId, .ok (some row) =>
    { φ with seen := ((channelId, userId), row) :: φ.seen }
  | .insertMembership _ channelId userId _ onConflictDoNothing, .ok inserted =>
    if onConflictDoNothing && !inserted then φ
    else { φ with founding := none, drafts := φ.drafts ++ [.joined channelId userId] }
  | .updateMembership _ channelId userId edit, .ok (some _) =>
    { φ with drafts := φ.drafts ++ edit.events channelId userId }
  | .consumeInvite _ code _, .ok (some _) => { φ with drafts := φ.drafts ++ [.consumed code] }
  | _, _ => φ

def Checked (call : ChannelCall) (seen : List ((Uuid × Uuid) × ChannelMembership))
    (channelId userId : Uuid) : MembershipEdit → Prop
  | .ban _ => ∃ requesterUserId requester target,
      call = .banMember channelId requesterUserId userId
        ∧ ((channelId, requesterUserId), requester) ∈ seen ∧ ((channelId, userId), target) ∈ seen
        ∧ Channels.checkModerator (some requester) = .ok requester
        ∧ checkBan requester target = .ok ()
  | .unban => ∃ requesterUserId, call = .unbanMember channelId requesterUserId userId
  | .setRole role => ∃ requesterUserId newRole requester target,
      call = .changeRole channelId requesterUserId userId newRole
        ∧ Channels.parseAssignableRole newRole = .ok role
        ∧ ((channelId, requesterUserId), requester) ∈ seen ∧ ((channelId, userId), target) ∈ seen
        ∧ Channels.checkOwner (some requester) = .ok ()
        ∧ Channels.checkRoleTarget (some target) = .ok ()

/-- A join counts one use and makes its user a member; no other request counts uses. -/
def Did (call : ChannelCall) (events : List ChannelEvent) : Prop :=
  match call with
  | .joinChannelByInvite userId code =>
    ∃ channelId, events = [.consumed code, .joined channelId userId]
  | _ => ∀ code, .consumed code ∉ events

def Permits (call : ChannelCall) (φ : ChannelPhase) : ChannelOp → Prop
  | .begin => φ.tx = none
  | .commit _ => φ.founding = none ∧ Did call φ.drafts
  | .insertChannel _ _ _ _ => φ.founding = none
  | .deleteChannel _ channelId =>
    φ.founding = none ∧ ∃ userId, call = .deleteChannel channelId userId
  | .selectDependents _ channelId => φ.deleted = some channelId
  | .deleteDependent _ dependent => dependent ∈ φ.dependents
  | .insertMembership _ channelId userId role onConflictDoNothing =>
    role = .owner ∧ φ.founding = some (channelId, userId) ∧ onConflictDoNothing = false
      ∨ role = .member ∧ φ.founding = none ∧ onConflictDoNothing = true
  | .updateMembership _ channelId userId edit => Checked call φ.seen channelId userId edit
  | .deleteMembership channelId userId => (∃ row, ((channelId, userId), row) ∈ φ.seen
      ∧ row.role ≠ .owner ∧ row.bannedAt = none) ∧ call = .leaveChannel channelId userId
  | .insertInvite invite => invite.uses = 0 ∧ ∃ userId expiresInSecs maxUses,
      call = .createInvite invite.channelId userId expiresInSecs maxUses
  | .deleteInvite channelId code => ∃ userId, call = .revokeInvite channelId userId code
  | _ => True

structure May (call : ChannelCall) (φ : ChannelPhase) (o : ChannelOp) : Prop where
  open_ : φ.done = []
  own : ∀ tx ∈ o.tx, φ.tx = some tx
  permits : Permits call φ o

/-- A join that succeeded has done its two changes, and one that failed has done nothing. -/
def Post (call : ChannelCall) (φ : ChannelPhase) (ret : call.Ret) : Prop :=
  φ.tx = none ∧
    match call, ret with
    | .joinChannelByInvite userId code, .ok result =>
      φ.done = [.consumed code, .joined result.channelId userId]
    | .joinChannelByInvite _ _, .error _ => φ.done = []
    | _, _ => ∀ code, .consumed code ∉ φ.done

end ChannelPhase

def channelProtocol : Protocol ChannelOp.Resp ChannelCall.Ret ChannelPhase where
  init _ := ChannelPhase.initial
  next := ChannelPhase.next
  may := ChannelPhase.May
  post := ChannelPhase.Post

section

variable {o : ChannelOp} {tx : TxId}

open ChannelPhase

variable {call : ChannelCall} {φ : ChannelPhase} {α : Type} {post : ChannelPhase → α → Prop}

theorem obeys_own {f : o.Resp → ChannelProg α} (htx : φ.tx = some tx) (hdone : φ.done = [])
    (ho : o.tx = some tx) (hpermits : Permits call φ o)
    (hf : ∀ answer, (f answer).Obeys next (May call) post (φ.next o answer)) :
    (ChannelOp.perform o >>= f).Obeys next (May call) post φ := by
  refine ⟨⟨hdone, fun tx' htx' => ?_, hpermits⟩, hf⟩
  rw [ho] at htx'
  cases htx'
  exact htx

theorem obeys_single {f : o.Resp → ChannelProg α} (hdone : φ.done = []) (ho : o.tx = none)
    (hpermits : Permits call φ o)
    (hf : ∀ answer, (f answer).Obeys next (May call) post (φ.next o answer)) :
    (ChannelOp.perform o >>= f).Obeys next (May call) post φ := by
  refine ⟨⟨hdone, fun tx' htx' => ?_, hpermits⟩, hf⟩
  rw [ho] at htx'
  cases htx'

variable {post : ChannelPhase → Except ChannelError α → Prop}
  (channelId userId requesterUserId targetUserId : Uuid) (code : String)

theorem obeys_abort {e : ChannelError} (htx : φ.tx = some tx) (hdone : φ.done = [])
    (hpost : post φ.ended (.error e)) :
    (abort tx e : ChannelProg (Except ChannelError α)).Obeys next (May call) post φ :=
  obeys_own htx hdone rfl trivial fun _ => hpost

theorem obeys_finish {value : α} (htx : φ.tx = some tx) (hdone : φ.done = [])
    (hfounding : φ.founding = none) (hdid : Did call φ.drafts)
    (hok : post { φ.ended with done := φ.drafts } (.ok value))
    (herror : ∀ e, post φ.ended (.error e)) :
    (finish tx value).Obeys next (May call) post φ := by
  refine obeys_own htx hdone rfl ⟨hfounding, hdid⟩ fun answer => ?_
  cases answer with
  | error e => exact herror _
  | ok _ =>
    simp only [next, hdone, List.nil_append]
    exact hok

theorem obeys_begin {f : Except String (TxId × Instant) → ChannelProg α}
    {post : ChannelPhase → α → Prop}
    (hf : ∀ tx now, (f (.ok (tx, now))).Obeys next (May call) post { initial with tx := some tx })
    (herror : ∀ e, (f (.error e)).Obeys next (May call) post initial) :
    (ChannelOp.perform .begin >>= f).Obeys next (May call) post initial :=
  obeys_single rfl rfl rfl fun
    | .error e => herror e
    | .ok (tx, now) => hf tx now

variable {channelId userId} in
theorem obeys_lookup {f : Except String (Option ChannelMembership) →
    ChannelProg (Except ChannelError α)} {e : ChannelError} (htx : φ.tx = some tx)
    (hdone : φ.done = []) (herror : ∀ e, f (.error e) = abort tx (.databaseError e))
    (hnone : f (.ok none) = abort tx e) (hpost : ∀ e, post φ.ended (.error e))
    (hf : ∀ row, (f (.ok (some row))).Obeys next (May call) post
      { φ with seen := ((channelId, userId), row) :: φ.seen }) :
    (ChannelOp.perform (.selectMembership (some tx) channelId userId) >>= f).Obeys next
      (May call) post φ :=
  obeys_own htx hdone rfl trivial fun
    | .error e => herror e ▸ obeys_abort htx hdone (hpost _)
    | .ok none => hnone ▸ obeys_abort htx hdone (hpost e)
    | .ok (some row) => hf row

/-- The request keeps to the protocol. -/
abbrev Follows (call : ChannelCall) : Prop :=
  call.body.Obeys next (May call) (Post call) initial

theorem undone : ChannelEvent.consumed code ∉ initial.done := by
  simp [initial]

theorem createChannel_obeys (name : String) : Follows (.createChannel userId name) := by
  rw [Follows, ChannelCall.body, createChannel]
  split
  · exact ⟨rfl, undone⟩
  · refine obeys_begin (fun tx now => ?_) fun e => ⟨rfl, undone⟩
    refine obeys_own rfl rfl rfl rfl fun answer => ?_
    match answer with
    | .error e => exact obeys_abort rfl rfl ⟨rfl, undone⟩
    | .ok channelId =>
      refine obeys_own rfl rfl rfl (.inl ⟨rfl, rfl, rfl⟩) fun answer => ?_
      match answer with
      | .error e => exact obeys_abort rfl rfl ⟨rfl, undone⟩
      | .ok inserted =>
        have hdrafts : ∀ code, .consumed code ∉ [ChannelEvent.joined channelId userId] := by simp
        exact obeys_finish rfl rfl rfl hdrafts ⟨rfl, hdrafts⟩ fun _ => ⟨rfl, undone⟩

theorem deleteDependents_obeys (htx : φ.tx = some tx) (hdone : φ.done = [])
    (dependents : List Dependent) (hmem : ∀ dependent ∈ dependents, dependent ∈ φ.dependents) :
    (deleteDependents tx dependents).Obeys next (May call) (fun φ' _ => φ' = φ) φ := by
  induction dependents with
  | nil => exact rfl
  | cons dependent rest ih =>
    refine obeys_own htx hdone rfl (hmem dependent List.mem_cons_self)
      fun answer => ?_
    match answer with
    | .error e => exact rfl
    | .ok _ => exact ih fun other hother => hmem other (List.mem_cons_of_mem _ hother)

theorem deleteCascade_obeys {channelId userId : Uuid} (htx : φ.tx = some tx) (hdone : φ.done = [])
    (hfounding : φ.founding = none) (hdrafts : φ.drafts = []) :
    (deleteCascade tx channelId).Obeys next (May (.deleteChannel channelId userId))
      (fun φ' _ => φ'.tx = some tx ∧ φ'.done = [] ∧ φ'.founding = none ∧ φ'.drafts = []) φ := by
  refine obeys_own htx hdone rfl ⟨hfounding, userId, rfl⟩ fun answer => ?_
  match answer with
  | .error e | .ok false => exact ⟨htx, hdone, hfounding, hdrafts⟩
  | .ok true =>
    have htx' : (φ.next (.deleteChannel tx channelId) (.ok true)).tx = some tx := htx
    refine obeys_own htx' hdone rfl rfl fun answer => ?_
    match answer with
    | .error e => exact ⟨htx, hdone, hfounding, hdrafts⟩
    | .ok dependents =>
      have htx'' : ((φ.next (.deleteChannel tx channelId) (.ok true)).next
          (.selectDependents tx channelId) (.ok dependents)).tx = some tx := htx
      refine (deleteDependents_obeys htx'' hdone dependents fun _ => id).mono ?_
      rintro φ' _ rfl
      exact ⟨htx, hdone, hfounding, hdrafts⟩

theorem deleteChannel_obeys : Follows (.deleteChannel channelId userId) := by
  refine obeys_single rfl rfl trivial fun answer => ?_
  match answer with
  | .error e | .ok none => exact ⟨rfl, undone⟩
  | .ok (some ownerUserId) =>
    simp only [next]
    split_ifs
    · exact ⟨rfl, undone⟩
    · refine obeys_begin (fun tx now => ?_) fun e => ⟨rfl, undone⟩
      refine (deleteCascade_obeys rfl rfl rfl rfl).bind ?_
      rintro φ answer ⟨htx, hdone, hfounding, hdrafts⟩
      have hended : ∀ code, .consumed code ∉ φ.done := by simp [hdone]
      match answer with
      | .error e => exact obeys_abort htx hdone ⟨rfl, hended⟩
      | .ok _ =>
        have hdid : ∀ code, .consumed code ∉ φ.drafts := by simp [hdrafts]
        exact obeys_finish htx hdone hfounding hdid ⟨rfl, hdid⟩ fun _ => ⟨rfl, hended⟩

theorem createInvite_obeys (expiresInSecs maxUses : Option Int) :
    Follows (.createInvite channelId userId expiresInSecs maxUses) := by
  refine obeys_single rfl rfl trivial fun answer => ?_
  match answer with
  | .error e => exact ⟨rfl, undone⟩
  | .ok membership =>
    have hphase :
        (initial.next (.selectMembership none channelId userId) (.ok membership)).tx = none
        ∧ (initial.next (.selectMembership none channelId userId) (.ok membership)).done = [] := by
      cases membership <;> exact ⟨rfl, rfl⟩
    generalize initial.next (.selectMembership none channelId userId) (.ok membership) = φ
      at hphase
    obtain ⟨htx, hdone⟩ := hphase
    have hkept : ∀ code, .consumed code ∉ φ.done := by simp [hdone]
    dsimp only
    split
    · exact ⟨htx, hkept⟩
    · refine obeys_single hdone rfl trivial fun code => ?_
      refine obeys_single hdone rfl trivial fun now => ?_
      refine obeys_single hdone rfl ⟨rfl, _, _, _, rfl⟩ fun answer => ?_
      match answer with
      | .error e | .ok _ => exact ⟨htx, hkept⟩

theorem joinChannelByInvite_obeys : Follows (.joinChannelByInvite userId code) := by
  refine obeys_begin (fun tx now => ?_) fun e => ⟨rfl, rfl⟩
  refine obeys_own rfl rfl rfl trivial fun answer => ?_
  match answer with
  | .error e | .ok none => exact obeys_abort rfl rfl ⟨rfl, rfl⟩
  | .ok (some channelId) =>
    refine obeys_own rfl rfl rfl trivial fun answer => ?_
    match answer with
    | .error e | .ok (some existing) => exact obeys_abort rfl rfl ⟨rfl, rfl⟩
    | .ok none =>
      refine obeys_own rfl rfl rfl (.inr ⟨rfl, rfl, rfl⟩) fun answer => ?_
      match answer with
      | .error e | .ok false => exact obeys_abort rfl rfl ⟨rfl, rfl⟩
      | .ok true =>
        refine obeys_own rfl rfl rfl trivial fun answer => ?_
        match answer with
        | .error e | .ok none => exact obeys_abort rfl rfl ⟨rfl, rfl⟩
        | .ok (some name) =>
          exact obeys_finish rfl rfl rfl ⟨channelId, rfl⟩ ⟨rfl, rfl⟩ fun _ => ⟨rfl, rfl⟩

theorem leaveChannel_obeys : Follows (.leaveChannel channelId userId) := by
  refine obeys_single rfl rfl trivial fun answer => ?_
  match answer with
  | .error e | .ok none => exact ⟨rfl, undone⟩
  | .ok (some membership) =>
    dsimp only
    split_ifs with hbanned howner
    · exact ⟨rfl, undone⟩
    · exact ⟨rfl, undone⟩
    · have hseen : Permits (.leaveChannel channelId userId)
          (initial.next (.selectMembership none channelId userId) (.ok (some membership)))
          (.deleteMembership channelId userId) :=
        ⟨⟨membership, List.mem_cons_self, howner, by simpa using hbanned⟩, rfl⟩
      refine obeys_single rfl rfl hseen fun answer => ?_
      match answer with
      | .error e | .ok _ => exact ⟨rfl, undone⟩

theorem revokeInvite_obeys : Follows (.revokeInvite channelId userId code) := by
  refine obeys_single rfl rfl trivial fun answer => ?_
  match answer with
  | .error e | .ok none => exact ⟨rfl, undone⟩
  | .ok (some membership) =>
    dsimp only
    split
    · exact ⟨rfl, undone⟩
    · refine obeys_single rfl rfl ⟨_, rfl⟩ fun answer => ?_
      match answer with
      | .error e | .ok false | .ok true => exact ⟨rfl, undone⟩

theorem checkModerator_ok {row : Option ChannelMembership} {requester : ChannelMembership}
    (h : checkModerator row = .ok requester) : row = some requester := by
  cases row with
  | none => cases h
  | some row =>
    simp only [checkModerator] at h
    split_ifs at h
    cases h
    rfl

theorem banMember_obeys : Follows (.banMember channelId requesterUserId targetUserId) := by
  rw [Follows, ChannelCall.body, banMember]
  split_ifs
  · exact ⟨rfl, undone⟩
  · refine obeys_begin (fun tx now => ?_) fun e => ⟨rfl, undone⟩
    refine obeys_lookup rfl rfl (fun _ => rfl) rfl (fun _ => ⟨rfl, undone⟩) fun requester => ?_
    dsimp only
    split
    · exact obeys_abort rfl rfl ⟨rfl, undone⟩
    · rename_i requester' hmoderator
      cases checkModerator_ok hmoderator
      refine obeys_lookup rfl rfl (fun _ => rfl) rfl (fun _ => ⟨rfl, undone⟩) fun target => ?_
      dsimp only
      split
      · exact obeys_abort rfl rfl ⟨rfl, undone⟩
      · rename_i hcheck
        refine obeys_own rfl rfl rfl ⟨requesterUserId, requester, target, rfl, by simp, by simp,
          hmoderator, hcheck⟩ fun answer => ?_
        match answer with
        | .error e | .ok none => exact obeys_abort rfl rfl ⟨rfl, undone⟩
        | .ok (some row) =>
          have hdrafts : ∀ code, .consumed code
              ∉ [ChannelEvent.banned channelId targetUserId] := by simp
          exact obeys_finish rfl rfl rfl hdrafts ⟨rfl, hdrafts⟩ fun _ => ⟨rfl, undone⟩

theorem unbanMember_obeys : Follows (.unbanMember channelId requesterUserId targetUserId) := by
  refine obeys_begin (fun tx now => ?_) fun e => ⟨rfl, undone⟩
  refine obeys_lookup rfl rfl (fun _ => rfl) rfl (fun _ => ⟨rfl, undone⟩) fun requester => ?_
  dsimp only
  split
  · exact obeys_abort rfl rfl ⟨rfl, undone⟩
  · refine obeys_lookup rfl rfl (fun _ => rfl) rfl (fun _ => ⟨rfl, undone⟩) fun target => ?_
    dsimp only
    split_ifs
    · exact obeys_abort rfl rfl ⟨rfl, undone⟩
    · refine obeys_own rfl rfl rfl ⟨requesterUserId, rfl⟩ fun answer => ?_
      match answer with
      | .error e => exact obeys_abort rfl rfl ⟨rfl, undone⟩
      | .ok none => exact obeys_finish rfl rfl rfl undone ⟨rfl, undone⟩ fun _ => ⟨rfl, undone⟩
      | .ok (some row) =>
        have hdrafts : ∀ code, .consumed code
            ∉ [ChannelEvent.unbanned channelId targetUserId] := by simp
        exact obeys_finish rfl rfl rfl hdrafts ⟨rfl, hdrafts⟩ fun _ => ⟨rfl, undone⟩

theorem changeRole_obeys (newRole : String) :
    Follows (.changeRole channelId requesterUserId targetUserId newRole) := by
  rw [Follows, ChannelCall.body, changeRole]
  split
  · exact ⟨rfl, undone⟩
  · rename_i role hrole
    refine obeys_begin (fun tx now => ?_) fun e => ⟨rfl, undone⟩
    refine obeys_lookup rfl rfl (fun _ => rfl) rfl (fun _ => ⟨rfl, undone⟩) fun requester => ?_
    dsimp only
    split
    · exact obeys_abort rfl rfl ⟨rfl, undone⟩
    · rename_i howner
      split_ifs
      · exact obeys_abort rfl rfl ⟨rfl, undone⟩
      · refine obeys_lookup rfl rfl (fun _ => rfl) rfl (fun _ => ⟨rfl, undone⟩) fun target => ?_
        dsimp only
        split
        · exact obeys_abort rfl rfl ⟨rfl, undone⟩
        · rename_i htarget
          refine obeys_own rfl rfl rfl ⟨requesterUserId, newRole, requester, target, rfl, hrole,
            by simp, by simp, howner, htarget⟩ fun answer => ?_
          match answer with
          | .error e => exact obeys_abort rfl rfl ⟨rfl, undone⟩
          | .ok none | .ok (some row) =>
            exact obeys_finish rfl rfl rfl undone ⟨rfl, undone⟩ fun _ => ⟨rfl, undone⟩

/-- **Every request keeps to the protocol.** -/
theorem channelService_holds (call : ChannelCall) :
    channelProtocol.Holds (channelService.spawn call) := by
  cases call with
  | createChannel userId name => exact createChannel_obeys userId name
  | deleteChannel channelId userId => exact deleteChannel_obeys channelId userId
  | createInvite channelId userId expiresInSecs maxUses =>
    exact createInvite_obeys channelId userId expiresInSecs maxUses
  | joinChannelByInvite userId code => exact joinChannelByInvite_obeys userId code
  | leaveChannel channelId userId => exact leaveChannel_obeys channelId userId
  | revokeInvite channelId userId code => exact revokeInvite_obeys channelId userId code
  | banMember channelId requesterUserId targetUserId =>
    exact banMember_obeys channelId requesterUserId targetUserId
  | unbanMember channelId requesterUserId targetUserId =>
    exact unbanMember_obeys channelId requesterUserId targetUserId
  | changeRole channelId requesterUserId targetUserId newRole =>
    exact changeRole_obeys channelId requesterUserId targetUserId newRole

end

end Wavis
