import Wavis.Proof.ChannelOwners

/-! A ban and a change of roles read the memberships, check them and update the target in separate
statements, and the rows are not locked when they are read. -/

namespace Wavis

open Concurrency ChannelStore ChannelPhase ChannelPool

def ChannelStore.Authorizes (w : ChannelStore) : ChannelCall → Prop
  | .banMember channelId requesterUserId targetUserId =>
    match (w.memberships.rows (channelId, requesterUserId)).committed,
      (w.memberships.rows (channelId, targetUserId)).committed with
    | some requester, some target =>
      requester.bannedAt = none ∧ (requester.role = .owner ∨ requester.role = .admin)
        ∧ target.role ≠ .owner ∧ (requester.role = .admin → target.role ≠ .admin)
    | _, _ => False
  | .changeRole channelId requesterUserId targetUserId _ =>
    match (w.memberships.rows (channelId, requesterUserId)).committed,
      (w.memberships.rows (channelId, targetUserId)).committed with
    | some requester, some target =>
      requester.role = .owner ∧ target.bannedAt = none ∧ target.role ≠ .owner
    | _, _ => False
  | _ => True

instance (w : ChannelStore) (call : ChannelCall) : Decidable (w.Authorizes call) := by
  unfold ChannelStore.Authorizes
  split <;> first | infer_instance | (split <;> infer_instance)

def ChannelOp.Moderates (w : ChannelStore) : ChannelOp → Prop
  | updateMembership tx channelId userId edit =>
    edit ≠ .unban ∧ (w.memberships.rows (channelId, userId)).visible (some tx) ≠ none
  | _ => False

instance (w : ChannelStore) (o : ChannelOp) : Decidable (o.Moderates w) := by
  unfold ChannelOp.Moderates
  split <;> infer_instance

def ChannelPool.succeeded (pool : ChannelPool) (i : Nat) : Bool :=
  match pool.threads[i]? with
  | some ⟨.banMember _ _ _, _, .ret (.ok _)⟩ => true
  | some ⟨.changeRole _ _ _ _, _, .ret (.ok _)⟩ => true
  | _ => false

def ChannelPool.Moderates (allowed : ChannelPool → ChannelAct → Prop) (pool : ChannelPool) (i : Nat)
    (call : ChannelCall) : Prop :=
  ∃ o env pool' later, pool.threads[i]?.map (·.call) = some call
    ∧ pool.nextOp i = some o ∧ o.Moderates pool.shared ∧ env.failure = none
    ∧ allowed pool (.step i env) ∧ channelService.next pool (.step i env) = some pool'
    ∧ channelService.Reach allowed pool' later ∧ ChannelPool.succeeded later i = true

/-- A request that bans or promotes somebody finds the memberships as it has read them. -/
def ChannelPool.AsRead (pool : ChannelPool) : ChannelAct → Prop
  | .start _ => True
  | .step i env => env.failure = none → (∃ o ∈ pool.nextOp i, o.Moderates pool.shared) →
      ∀ thread ∈ pool.threads[i]?, ∀ entry ∈ (channelProtocol.phase thread).seen,
        (pool.shared.memberships.rows entry.1).committed = some entry.2

instance (pool : ChannelPool) (act : ChannelAct) : Decidable (pool.AsRead act) := by
  unfold ChannelPool.AsRead
  split <;> infer_instance

variable {requester target : ChannelMembership}

theorem checkModerator_role (h : Channels.checkModerator (some requester) = .ok requester) :
    requester.bannedAt = none ∧ (requester.role = .owner ∨ requester.role = .admin) := by
  simp only [Channels.checkModerator] at h
  split_ifs at h with hbanned hrole
  refine ⟨by simpa using hbanned, ?_⟩
  cases hrequester : requester.role with
  | owner => exact .inl rfl
  | admin => exact .inr rfl
  | member => exact absurd hrequester hrole

theorem checkBan_ok (h : checkBan requester target = .ok ()) :
    target.role ≠ .owner ∧ (requester.role = .admin → target.role ≠ .admin) := by
  unfold checkBan at h
  split_ifs at h with howner hadmin
  exact ⟨howner, fun hrequester htarget => hadmin ⟨hrequester, htarget⟩⟩

theorem checkOwner_ok (h : Channels.checkOwner (some requester) = .ok ()) :
    requester.role = .owner := by
  simp only [Channels.checkOwner] at h
  split_ifs at h with hbanned hrole
  exact not_not.mp hrole

theorem checkRoleTarget_ok (h : Channels.checkRoleTarget (some target) = .ok ()) :
    target.bannedAt = none ∧ target.role ≠ .owner := by
  simp only [Channels.checkRoleTarget] at h
  split_ifs at h with howner hbanned
  exact ⟨by simpa using hbanned, howner⟩

theorem authorizes_of_checked {w : ChannelStore} {call : ChannelCall}
    {seen : List ((Uuid × Uuid) × ChannelMembership)} {channelId userId : Uuid}
    {edit : MembershipEdit} (hchecked : Checked call seen channelId userId edit)
    (hread : ∀ entry ∈ seen, (w.memberships.rows entry.1).committed = some entry.2) :
    w.Authorizes call := by
  cases edit with
  | ban now =>
    obtain ⟨requesterUserId, requester, target, rfl, hrequester, htarget, hmoderator, hban⟩ :=
      hchecked
    obtain ⟨hunbanned, hrole⟩ := checkModerator_role hmoderator
    simp only [ChannelStore.Authorizes, hread _ hrequester, hread _ htarget]
    exact ⟨hunbanned, hrole, checkBan_ok hban⟩
  | unban =>
    obtain ⟨requesterUserId, rfl⟩ := hchecked
    exact trivial
  | setRole role =>
    obtain ⟨requesterUserId, newRole, requester, target, rfl, -, hrequester, htarget, howner,
      hrole⟩ := hchecked
    simp only [ChannelStore.Authorizes, hread _ hrequester, hread _ htarget]
    exact ⟨checkOwner_ok howner, checkRoleTarget_ok hrole⟩

/-- **Bans and changes of roles are made with authority**, on memberships as they were read. -/
theorem moderation_authorized {pool : ChannelPool}
    (hreach : channelService.Reach ChannelPool.AsRead ChannelPool.initial pool) {i : Nat}
    {call : ChannelCall} (hmoderates : ChannelPool.Moderates ChannelPool.AsRead pool i call) :
    pool.shared.Authorizes call := by
  obtain ⟨o, env, pool', later, hcall, hop, heffect, hfailure, hread, hnext, -, -⟩ := hmoderates
  obtain ⟨-, hholds⟩ := channelService_owning hreach
  obtain ⟨call', trace, o', rest, answer, w, hthread, -, -⟩ := channelService.next_step hnext
  have hmay := (hholds _ (List.mem_of_getElem? hthread)).1
  simp only [hthread, Option.map_some, Option.some.injEq] at hcall
  simp only [Pool.nextOp, hthread, Option.some.injEq] at hop
  subst hcall hop
  cases o' with
  | updateMembership tx channelId userId edit =>
    refine authorizes_of_checked hmay.permits ?_
    exact hread hfailure ⟨_, by simp only [Pool.nextOp, hthread, Option.mem_def], heffect⟩ _ hthread
  | _ => cases heffect

def moderatedLobby : List ChannelAct :=
  openLobby ++ .start (.joinChannelByInvite carol "code") :: List.replicate 6 (.step 3 {})
    ++ .start (.changeRole lobby alice bob "admin") :: List.replicate 5 (.step 4 {})

theorem ChannelPool.exists_moderates_of_replay (allowed : ChannelPool → ChannelAct → Prop)
    [∀ pool act, Decidable (allowed pool act)] (acts rest : List ChannelAct) (i : Nat)
    (call : ChannelCall) (P : ChannelPool → Prop) [DecidablePred P]
    (h : (channelService.replay allowed initial acts).any (fun pool =>
      P pool ∧ pool.threads[i]?.map (·.call) = some call
        ∧ (∃ o ∈ pool.nextOp i, o.Moderates pool.shared) ∧ allowed pool (.step i {})
        ∧ ∃ pool' ∈ channelService.next pool (.step i {}),
          ∃ later ∈ channelService.replay allowed pool' rest,
            succeeded later i) = true) :
    ∃ pool, channelService.Reach allowed initial pool
      ∧ ChannelPool.Moderates allowed pool i call ∧ P pool := by
  obtain ⟨pool, hreach, htest, hcall, ⟨o, hop, heffect⟩, hallowed, pool', hnext, later, hlater,
    hdone⟩ := System.exists_reach_of_replay channelService allowed _ acts _ h
  exact ⟨pool, hreach, ⟨o, {}, pool', later, hcall, hop, heffect, rfl, hallowed, hnext,
    System.Reach.refl.replay rest hlater, hdone⟩, htest⟩

/-- An admin bans a member while the owner looks at the channel. -/
theorem moderation_authorized_admin :
    ∃ pool, ChannelPool.Moderates ChannelPool.AsRead pool 5 (.banMember lobby bob carol)
      ∧ pool.shared.Authorizes (.banMember lobby bob carol) := by
  obtain ⟨pool, hreach, hmoderates, -⟩ := exists_moderates_of_replay
    ChannelPool.AsRead (moderatedLobby ++ .start (.banMember lobby bob carol)
      :: .replicate 2 (.step 5 {}) ++ .start (.createInvite lobby alice none none)
      :: .step 6 {} :: [.step 5 {}]) [.step 5 {}] 5 (.banMember lobby bob carol)
    (fun _ => True) (by decide)
  exact ⟨pool, hmoderates, moderation_authorized hreach hmoderates⟩

/-- An admin who has just been banned bans a member; somebody just banned is promoted. -/
theorem not_moderation_authorized :
    (¬ ∀ (pool : ChannelPool) (i : Nat) (channelId requesterUserId targetUserId : Uuid),
      channelService.Reach (fun _ _ => True) ChannelPool.initial pool →
      ChannelPool.Moderates (fun _ _ => True) pool i
        (.banMember channelId requesterUserId targetUserId) →
      pool.shared.Authorizes (.banMember channelId requesterUserId targetUserId))
    ∧ ¬ ∀ (pool : ChannelPool) (i : Nat) (channelId requesterUserId targetUserId : Uuid)
      (newRole : String),
      channelService.Reach (fun _ _ => True) ChannelPool.initial pool →
      ChannelPool.Moderates (fun _ _ => True) pool i
        (.changeRole channelId requesterUserId targetUserId newRole) →
      pool.shared.Authorizes (.changeRole channelId requesterUserId targetUserId newRole) := by
  constructor
  · intro h
    obtain ⟨pool, hreach, hmoderates, hnot⟩ := exists_moderates_of_replay
      (fun _ _ => True) (moderatedLobby ++ .start (.banMember lobby bob carol)
        :: .replicate 3 (.step 5 {}) ++ .start (.banMember lobby alice bob)
        :: .replicate 5 (.step 6 {})) [.step 5 {}] 5 (.banMember lobby bob carol)
      (fun pool => ¬ pool.shared.Authorizes (.banMember lobby bob carol)) (by decide)
    exact hnot (h pool 5 lobby bob carol hreach hmoderates)
  · intro h
    obtain ⟨pool, hreach, hmoderates, hnot⟩ := exists_moderates_of_replay
      (fun _ _ => True) (moderatedLobby ++ .start (.changeRole lobby alice carol "admin")
        :: .replicate 3 (.step 5 {}) ++ .start (.banMember lobby bob carol)
        :: .replicate 5 (.step 6 {})) [.step 5 {}] 5 (.changeRole lobby alice carol "admin")
      (fun pool => ¬ pool.shared.Authorizes (.changeRole lobby alice carol "admin")) (by decide)
    exact hnot (h pool 5 lobby alice carol "admin" hreach hmoderates)

end Wavis
