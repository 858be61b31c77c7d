import Wavis.Proof.Residence
import Wavis.Proof.VoiceLock

/-! A thread that has just added a peer to a room, or is about to take one out, has the membership
of that peer in custody. A peer that nobody has in custody lives where the reverse index points to.
-/

namespace Wavis

open Concurrency InMemoryRoomState

def InMemoryRoomState.Vacant (state : InMemoryRoomState) (roomId : RoomId) : Prop :=
  ∀ members ∈ state.find roomId, members.peers = []

instance (state : InMemoryRoomState) (roomId : RoomId) : Decidable (state.Vacant roomId) :=
  inferInstanceAs (Decidable (∀ members ∈ state.find roomId, members.peers = []))

/-- The step does not act on what its call has seen and other calls have changed since: a room is
taken out of the map, and a channel's entry is dropped, only while nobody is in the room; and a
voice join adds its peer only to the object that the two maps give for the channel, which does not
list the peer already. -/
def World.VoiceCurrent (w : World) (call : BackendCall) : Op → Prop
  | .room (.removeRoom roomId) => w.roomState.Vacant roomId
  | .removeActiveRoomIf channelId roomId =>
    w.activeRoomMap.lookup channelId = some roomId → w.roomState.Vacant roomId
  | .room (.tryPush arc peerId _) =>
    peerId ∉ (w.roomState.heap arc).peers
      ∧ ((w.roomState.heap arc).isFull = true ∨ ∀ channelId ∈ call.voiceChannel,
        (w.activeRoomMap.lookup channelId).bind w.roomState.rooms.lookup = some arc)
  | _ => True

instance World.decidableVoiceCurrent (w : World) (call : BackendCall) (o : Op) :
    Decidable (w.VoiceCurrent call o) := by
  unfold World.VoiceCurrent
  split <;> infer_instance

def BackendPool.VoiceCurrent (pool : BackendPool) : BackendAct → Prop
  | .start _ => True
  | .step i _ =>
    match pool.threads[i]? with
    | some ⟨call, _, .op o _⟩ => pool.shared.VoiceCurrent call o
    | _ => True

instance BackendPool.decidableVoiceCurrent (pool : BackendPool) (act : BackendAct) :
    Decidable (pool.VoiceCurrent act) :=
  match act with
  | .start _ => instDecidableTrue
  | .step i _ => by
    dsimp only [BackendPool.VoiceCurrent]
    generalize pool.threads[i]? = thread
    exact match thread with
      | none | some ⟨_, _, .ret _⟩ => instDecidableTrue
      | some ⟨_, _, .op _ _⟩ => inferInstance

theorem BackendPool.VoiceCurrent.op {pool : BackendPool} {i : Nat} {env : Env}
    {call : BackendCall} {trace : List ((o : Op) × o.Resp)} {o : Op}
    {rest : o.Resp → BackendProg call.Ret} (h : pool.VoiceCurrent (.step i env))
    (hget : pool.threads[i]? = some ⟨call, trace, .op o rest⟩) :
    pool.shared.VoiceCurrent call o := by
  simp only [BackendPool.VoiceCurrent, hget] at h
  exact h

variable {gone : Option (PeerId × RoomId)} {f : JoinCheck} {peerId : PeerId} {roomId : RoomId}
  {o : Op}

namespace Custody

def claim : Custody → Option (PeerId × RoomId)
  | pushed peerId roomId => some (peerId, roomId)
  | unlinked peerId roomId => some (peerId, roomId)
  | found peerId roomId _ => some (peerId, roomId)
  | _ => none

def Holds (state : InMemoryRoomState) : Custody → Prop
  | idle => True
  | target roomId arc => arc < state.nextArc
      ∧ ∀ roomId', state.rooms.lookup roomId' = some arc → roomId' = roomId
  | pushed peerId roomId => state.Resides peerId roomId
      ∧ state.peerToRoom.lookup peerId ≠ some roomId
  | unlinked peerId roomId => state.Resides peerId roomId
      ∧ state.peerToRoom.lookup peerId ≠ some roomId
  | found peerId roomId arc => state.Resides peerId roomId
      ∧ state.peerToRoom.lookup peerId ≠ some roomId ∧ state.rooms.lookup roomId = some arc

theorem next_eq {φ : Custody} (answer : o.Resp)
    (ho : ∀ ro, o = .room ro →
    (∀ roomId, ro ≠ .getRoom roomId) ∧ (∀ arc peerId f, ro ≠ .tryPush arc peerId f)
      ∧ (∀ peerId roomId, ro ≠ .linkPeer peerId roomId) ∧ (∀ peerId, ro ≠ .unlinkPeer peerId)
      ∧ ∀ arc peerId, ro ≠ .retainPeers arc peerId) : φ.next o answer = φ := by
  cases o with
  | room ro =>
    obtain ⟨hget, hpush, hlink, hunlink, hretain⟩ := ho ro rfl
    cases ro with
    | getRoom roomId => exact absurd rfl (hget roomId)
    | tryPush arc peerId f => exact absurd rfl (hpush arc peerId f)
    | linkPeer peerId roomId => exact absurd rfl (hlink peerId roomId)
    | unlinkPeer peerId => exact absurd rfl (hunlink peerId)
    | retainPeers arc peerId => exact absurd rfl (hretain arc peerId)
    | _ => cases φ <;> rfl
  | _ => cases φ <;> rfl

variable {φ : Custody} {state state' : InMemoryRoomState}

theorem Holds.resides (h : φ.Holds state) (hclaim : φ.claim = some (peerId, roomId)) :
    state.Resides peerId roomId ∧ state.peerToRoom.lookup peerId ≠ some roomId := by
  cases φ <;> cases hclaim
  · exact h
  · exact h
  · exact ⟨h.1, h.2.1⟩

theorem Holds.evolve (h : φ.Holds state) (hevolves : Evolves gone state state')
    (hclaim : ∀ peerId roomId, φ.claim = some (peerId, roomId) →
      gone ≠ some (peerId, roomId) ∧ state'.peerToRoom.lookup peerId ≠ some roomId) :
    φ.Holds state' := by
  cases φ with
  | idle => trivial
  | target roomId arc =>
    refine ⟨Nat.lt_of_lt_of_le h.1 hevolves.fresh, ?_⟩
    intro roomId' harc
    exact h.2 roomId' (hevolves.old h.1 harc)
  | pushed peerId roomId | unlinked peerId roomId =>
    obtain ⟨hgone, hptr⟩ := hclaim peerId roomId rfl
    exact ⟨hevolves.resides hgone h.1, hptr⟩
  | found peerId roomId arc =>
    obtain ⟨hgone, hptr⟩ := hclaim peerId roomId rfl
    exact ⟨hevolves.resides hgone h.1, hptr, hevolves.rooms h.2.2 (h.1.mem h.2.2)⟩

/-- The room that a voice join has looked up is the one the two maps give for its channel. -/
theorem Holds.target_current {w : World} {call : BackendCall} {arc : ArcId} {channelId : Uuid}
    (h : (target roomId arc).Holds w.roomState)
    (hcurrent : w.VoiceCurrent call (.room (.tryPush arc peerId f)))
    (hnotfull : (w.roomState.heap arc).isFull = false)
    (hchannel : call.voiceChannel = some channelId) :
    w.activeRoomMap.lookup channelId = some roomId
      ∧ w.roomState.rooms.lookup roomId = some arc := by
  have hactive := hcurrent.2.resolve_left (by simp [hnotfull]) channelId hchannel
  obtain ⟨roomId', hentry, hroom⟩ := Option.bind_eq_some_iff.mp hactive
  obtain rfl := h.2 roomId' hroom
  exact ⟨hentry, hroom⟩

theorem pushed_of_next {answer : o.Resp} (h : φ.next o answer = .pushed peerId roomId)
    (ho : ∀ arc peerId f, o ≠ .room (.tryPush arc peerId f)) : φ = .pushed peerId roomId := by
  cases o with
  | room ro =>
    cases ro with
    | tryPush arc peerId f => exact absurd rfl (ho arc peerId f)
    | getRoom roomId | unlinkPeer peerId => cases answer <;> cases φ <;> cases h
    | linkPeer peerId roomId | retainPeers arc peerId => cases φ <;> cases h
    | _ =>
      cases φ <;> cases h
      rfl
  | _ =>
    cases φ <;> cases h
    rfl

end Custody

theorem InMemoryRoomState.lookup_of_unlinkPeer {state : InMemoryRoomState} {peerId' : PeerId}
    (h : (state.unlinkPeer peerId).peerToRoom.lookup peerId' = some roomId) :
    state.peerToRoom.lookup peerId' = some roomId := by
  have herase : (state.peerToRoom.erase peerId).lookup peerId' = some roomId := h
  by_cases hpeer : peerId' = peerId
  · subst hpeer
    rw [AList.lookup_erase] at herase
    cases herase
  · exact (AList.lookup_erase_ne hpeer).symm.trans herase

structure MemberInv (pool : BackendPool) : Prop where
  exclusive : Exclusive (fun thread => (voicePhase thread).custody.claim) pool.threads
  holds : ∀ thread ∈ pool.threads, (voicePhase thread).custody.Holds pool.shared.roomState
  linked : ∀ peerId roomId, pool.shared.roomState.peerToRoom.lookup peerId = some roomId →
    pool.shared.roomState.Resides peerId roomId

namespace MemberInv

variable {pool : BackendPool} {new : BackendThread} {shared : World} {i : Nat}

theorem initial (config : Config) (db : ChannelDb) : MemberInv (BackendPool.initial config db) := by
  refine ⟨.nil _, ?_, ?_⟩
  · intro thread hthread
    cases hthread
  · intro peerId roomId h
    cases h

theorem start (h : MemberInv pool) (config : Config) (call : BackendCall) :
    MemberInv { pool with threads := pool.threads ++ [(backend config).spawn call] } := by
  have hidle : (voicePhase ((backend config).spawn call)).custody = .idle := rfl
  refine ⟨?_, ?_, h.linked⟩
  · apply h.exclusive.concat
    intro thread _ b hb
    rw [hidle] at hb
    cases hb
  · intro thread hthread
    rcases List.mem_append.mp hthread with hold | hnew
    · exact h.holds thread hold
    · rw [List.mem_singleton] at hnew
      subst hnew
      rw [hidle]
      trivial

theorem set (h : MemberInv pool) (hevolves : Evolves gone pool.shared.roomState shared.roomState)
    (hothers : ∀ j thread, j ≠ i → pool.threads[j]? = some thread → ∀ peerId roomId,
      (voicePhase thread).custody.claim = some (peerId, roomId) →
      gone ≠ some (peerId, roomId)
        ∧ shared.roomState.peerToRoom.lookup peerId ≠ some roomId
        ∧ (voicePhase new).custody.claim ≠ some (peerId, roomId))
    (hnew : (voicePhase new).custody.Holds shared.roomState)
    (hlinked : ∀ peerId roomId, shared.roomState.peerToRoom.lookup peerId = some roomId →
      shared.roomState.Resides peerId roomId) : MemberInv ⟨shared, pool.threads.set i new⟩ := by
  refine ⟨?_, ?_, hlinked⟩
  · apply h.exclusive.set
    rintro j thread hji hj ⟨peerId, roomId⟩ hb hb'
    exact (hothers j thread hji hj peerId roomId hb').2.2 hb
  · intro thread hthread
    rcases mem_set_cases hthread with rfl | ⟨j, hji, hj⟩
    · exact hnew
    · apply (h.holds thread (List.mem_of_getElem? hj)).evolve hevolves
      intro peerId roomId hclaim
      obtain ⟨hgone, hptr, -⟩ := hothers j thread hji hj peerId roomId hclaim
      exact ⟨hgone, hptr⟩

theorem keep {old : BackendThread} (h : MemberInv pool) (hget : pool.threads[i]? = some old)
    (hphase : (voicePhase new).custody.claim = (voicePhase old).custody.claim)
    (hnew : (voicePhase new).custody.Holds shared.roomState)
    (hevolves : Evolves none pool.shared.roomState shared.roomState)
    (hptr : shared.roomState.peerToRoom = pool.shared.roomState.peerToRoom) :
    MemberInv ⟨shared, pool.threads.set i new⟩ := by
  apply h.set hevolves ?_ hnew
  · intro peerId roomId hlink
    rw [hptr] at hlink
    exact hevolves.resides (by simp) (h.linked peerId roomId hlink)
  · intro j thread hji hj peerId roomId hclaim
    refine ⟨by simp, ?_, ?_⟩
    · rw [hptr]
      exact ((h.holds thread (List.mem_of_getElem? hj)).resides hclaim).2
    · rw [hphase]
      exact fun hold => hji (h.exclusive j i thread old _ hj hget hclaim hold)

section

variable {old : BackendThread} {arc : ArcId} {env : Env} {call : BackendCall}
  {trace : List ((o : Op) × o.Resp)} {rest : o.Resp → BackendProg call.Ret} {answer : o.Resp}

theorem keep_op (h : MemberInv pool) (hget : pool.threads[i]? = some ⟨call, trace, .op o rest⟩)
    (hphase : voicePhase ⟨call, trace ++ [⟨o, answer⟩], rest answer⟩
      = (voicePhase ⟨call, trace, .op o rest⟩).next o answer)
    (hcustody : (voicePhase ⟨call, trace, .op o rest⟩).custody.next o answer
      = (voicePhase ⟨call, trace, .op o rest⟩).custody)
    (hevolves : Evolves none pool.shared.roomState shared.roomState)
    (hptr : shared.roomState.peerToRoom = pool.shared.roomState.peerToRoom) :
    MemberInv ⟨shared, pool.threads.set i ⟨call, trace ++ [⟨o, answer⟩], rest answer⟩⟩ := by
  have hsame : (voicePhase ⟨call, trace ++ [⟨o, answer⟩], rest answer⟩).custody
      = (voicePhase ⟨call, trace, .op o rest⟩).custody := by
    rw [hphase]
    exact hcustody
  have hold := h.holds _ (List.mem_of_getElem? hget)
  refine h.keep hget (by rw [hsame]) ?_ hevolves hptr
  rw [hsame]
  apply hold.evolve hevolves
  intro peerId roomId hclaim
  rw [hptr]
  exact ⟨by simp, (hold.resides hclaim).2⟩

variable {φ : VoicePhase}

section

variable (h : MemberInv pool)
include h

theorem step_getRoom {found : Option ArcId} (hget : pool.threads[i]? = some old)
    (hφ : voicePhase old = φ) (hnew : voicePhase new = φ.next (.room (.getRoom roomId)) found)
    (hmay : φ.custody.mayLookup roomId)
    (hfound : pool.shared.roomState.rooms.lookup roomId = found)
    (hsame : shared.roomState = pool.shared.roomState) :
    MemberInv ⟨shared, pool.threads.set i new⟩ := by
  have hold : φ.custody.Holds pool.shared.roomState :=
    hφ ▸ h.holds old (List.mem_of_getElem? hget)
  have hcustody : (voicePhase new).custody = φ.custody.next (.room (.getRoom roomId)) found := by
    rw [hnew]
    rfl
  have htarget : ∀ arc, found = some arc → (Custody.target roomId arc).Holds
      pool.shared.roomState := by
    intro arc harc
    rw [harc] at hfound
    exact ⟨pool.shared.roomState.rooms_lt hfound,
      fun roomId' hroom => pool.shared.roomState.rooms_inj hroom hfound⟩
  have hgoal : (φ.custody.next (.room (.getRoom roomId)) found).claim = φ.custody.claim
      ∧ (φ.custody.next (.room (.getRoom roomId)) found).Holds pool.shared.roomState := by
    cases hlook : φ.custody with
    | idle | target roomId' arc' =>
      cases found with
      | none => exact ⟨rfl, trivial⟩
      | some arc => exact ⟨rfl, htarget arc rfl⟩
    | unlinked peerId roomId' =>
      rw [hlook] at hold hmay
      obtain rfl : roomId' = roomId := hmay
      cases found with
      | none => exact absurd hfound hold.1.rooms_ne_none
      | some arc => exact ⟨rfl, hold.1, hold.2, hfound⟩
    | pushed peerId roomId' | found peerId roomId' arc' =>
      rw [hlook] at hmay
      exact hmay.elim
  refine h.keep hget ?_ ?_ ?_ (by rw [hsame])
  · rw [hcustody, hφ]
    exact hgoal.1
  · rw [hcustody, hsame]
    exact hgoal.2
  · rw [hsame]
    exact .refl _

theorem step_pushed (hnew : (voicePhase new).custody = .pushed peerId roomId)
    (harc : pool.shared.roomState.rooms.lookup roomId = some arc)
    (hfresh : peerId ∉ (pool.shared.roomState.heap arc).peers)
    (hevolves : Evolves none pool.shared.roomState shared.roomState)
    (hptr : shared.roomState.peerToRoom = pool.shared.roomState.peerToRoom)
    (hres : shared.roomState.Resides peerId roomId) :
    MemberInv ⟨shared, pool.threads.set i new⟩ := by
  have hnotres : ¬ pool.shared.roomState.Resides peerId roomId := fun hold =>
    hfresh (hold.mem harc)
  refine h.set hevolves ?_ ?_ ?_
  · intro j thread hji hj peerId' roomId' hclaim
    obtain ⟨hres', hne⟩ := (h.holds thread (List.mem_of_getElem? hj)).resides hclaim
    refine ⟨by simp, by rw [hptr]; exact hne, ?_⟩
    rw [hnew]
    rintro ⟨⟩
    exact hnotres hres'
  · rw [hnew]
    refine ⟨hres, ?_⟩
    rw [hptr]
    exact fun hlink => hnotres (h.linked peerId roomId hlink)
  · intro peerId' roomId' hlink
    rw [hptr] at hlink
    exact hevolves.resides (by simp) (h.linked peerId' roomId' hlink)

theorem step_linkPeer (hget : pool.threads[i]? = some old)
    (hold : (voicePhase old).custody = .pushed peerId roomId)
    (hnew : (voicePhase new).custody = .idle)
    (hstate : shared.roomState = pool.shared.roomState.linkPeer peerId roomId) :
    MemberInv ⟨shared, pool.threads.set i new⟩ := by
  have hholds := h.holds old (List.mem_of_getElem? hget)
  rw [hold] at hholds
  have hevolves : Evolves none pool.shared.roomState shared.roomState := by
    rw [hstate]
    exact .of_same rfl rfl fun _ _ => id
  have hptr : shared.roomState.peerToRoom
      = pool.shared.roomState.peerToRoom.insert peerId roomId := by rw [hstate]; rfl
  refine h.set hevolves ?_ (by rw [hnew]; trivial) ?_
  · intro j thread hji hj peerId' roomId' hclaim
    refine ⟨by simp, ?_, by rw [hnew]; simp [Custody.claim]⟩
    rw [hptr]
    by_cases hpeer : peerId' = peerId
    · subst hpeer
      rw [AList.lookup_insert]
      rintro ⟨⟩
      exact hji (h.exclusive j i thread old _ hj hget hclaim (congrArg Custody.claim hold))
    · rw [AList.lookup_insert_ne hpeer]
      exact ((h.holds thread (List.mem_of_getElem? hj)).resides hclaim).2
  · intro peerId' roomId' hlink
    rw [hptr] at hlink
    by_cases hpeer : peerId' = peerId
    · subst hpeer
      rw [AList.lookup_insert] at hlink
      cases hlink
      exact hevolves.resides (by simp) hholds.1
    · rw [AList.lookup_insert_ne hpeer] at hlink
      exact hevolves.resides (by simp) (h.linked peerId' roomId' hlink)

theorem step_unlinkPeer
    (hnew : (voicePhase new).custody = match pool.shared.roomState.peerToRoom.lookup peerId with
      | some roomId => .unlinked peerId roomId
      | none => .idle) (hstate : shared.roomState = pool.shared.roomState.unlinkPeer peerId) :
    MemberInv ⟨shared, pool.threads.set i new⟩ := by
  have hevolves : Evolves none pool.shared.roomState shared.roomState := by
    rw [hstate]
    exact .of_same rfl rfl fun _ _ => id
  have hptr : shared.roomState.peerToRoom
      = pool.shared.roomState.peerToRoom.erase peerId := by rw [hstate]; rfl
  have hforgot : ∀ peerId' roomId', shared.roomState.peerToRoom.lookup peerId' = some roomId' →
      pool.shared.roomState.peerToRoom.lookup peerId' = some roomId' := by
    rw [hstate]
    exact fun peerId' roomId' => lookup_of_unlinkPeer
  refine h.set hevolves ?_ ?_ ?_
  · intro j thread hji hj peerId' roomId' hclaim
    have hne := ((h.holds thread (List.mem_of_getElem? hj)).resides hclaim).2
    refine ⟨by simp, fun hlink => hne (hforgot peerId' roomId' hlink), ?_⟩
    rw [hnew]
    split
    · rename_i roomId hlink
      rintro ⟨⟩
      exact hne hlink
    · simp [Custody.claim]
  · rw [hnew]
    split
    · rename_i roomId hlink
      refine ⟨hevolves.resides (by simp) (h.linked peerId roomId hlink), ?_⟩
      rw [hptr, AList.lookup_erase]
      simp
    · trivial
  · intro peerId' roomId' hlink
    exact hevolves.resides (by simp) (h.linked peerId' roomId' (hforgot peerId' roomId' hlink))

theorem step_retainPeers (hget : pool.threads[i]? = some old)
    (hold : (voicePhase old).custody = .found peerId roomId arc)
    (hnew : (voicePhase new).custody = .idle)
    (hstate : shared.roomState = pool.shared.roomState.setMembers arc
      ((pool.shared.roomState.heap arc).retain peerId)) :
    MemberInv ⟨shared, pool.threads.set i new⟩ := by
  have hholds := h.holds old (List.mem_of_getElem? hget)
  rw [hold] at hholds
  obtain ⟨-, hnotlinked, harc⟩ := hholds
  have hevolves : Evolves (some (peerId, roomId)) pool.shared.roomState shared.roomState := by
    rw [hstate]
    exact .retain harc
  have hptr : shared.roomState.peerToRoom = pool.shared.roomState.peerToRoom := by
    rw [hstate]
    rfl
  refine h.set hevolves ?_ (by rw [hnew]; trivial) ?_
  · intro j thread hji hj peerId' roomId' hclaim
    refine ⟨?_, ?_, by rw [hnew]; simp [Custody.claim]⟩
    · rintro ⟨⟩
      exact hji (h.exclusive j i thread old _ hj hget hclaim (congrArg Custody.claim hold))
    · rw [hptr]
      exact ((h.holds thread (List.mem_of_getElem? hj)).resides hclaim).2
  · intro peerId' roomId' hlink
    rw [hptr] at hlink
    refine hevolves.resides ?_ (h.linked peerId' roomId' hlink)
    rintro ⟨⟩
    exact hnotlinked hlink

end

theorem tryPush_cases {answer : Except JoinRejectionReason Nat}
    (hexec : (Op.room (.tryPush arc peerId f)).exec env pool.shared = some (answer, shared))
    (hfresh : peerId ∉ (pool.shared.roomState.heap arc).peers) :
    (∃ reason, answer = .error reason) ∧ shared.roomState = pool.shared.roomState
      ∨ (∃ count, answer = .ok count) ∧ (pool.shared.roomState.heap arc).isFull = false
        ∧ shared.roomState = pool.shared.roomState.setMembers arc
          ((pool.shared.roomState.heap arc).push peerId) := by
  have hroom := Op.exec_room hexec
  simp only [RoomOp.exec, hfresh, if_false] at hroom
  split_ifs at hroom with hfull
  · obtain ⟨hanswer, hstate⟩ := Prod.mk.inj hroom
    exact .inl ⟨⟨_, hanswer.symm⟩, (Prod.mk.inj hstate).1.symm⟩
  · split at hroom
    · obtain ⟨hanswer, hstate⟩ := Prod.mk.inj hroom
      exact .inl ⟨⟨_, hanswer.symm⟩, (Prod.mk.inj hstate).1.symm⟩
    · obtain ⟨hanswer, hstate⟩ := Prod.mk.inj hroom
      exact .inr ⟨⟨_, hanswer.symm⟩, decide_eq_false hfull, (Prod.mk.inj hstate).1.symm⟩

theorem step (h : MemberInv pool) (hget : pool.threads[i]? = some ⟨call, trace, .op o rest⟩)
    (hmay : VoicePhase.May call (voicePhase ⟨call, trace, .op o rest⟩) o)
    (hcurrent : pool.shared.VoiceCurrent call o)
    (hexec : o.exec env pool.shared = some (answer, shared)) :
    MemberInv ⟨shared, pool.threads.set i ⟨call, trace ++ [⟨o, answer⟩], rest answer⟩⟩ := by
  have hphase := voicePhase_step call trace o rest answer
  cases o with
  | room ro =>
    have hroom := Op.exec_room hexec
    cases ro with
    | getRoom roomId =>
      obtain ⟨hfound, hstate⟩ := Prod.mk.inj hroom
      exact h.step_getRoom hget rfl hphase hmay hfound (Prod.mk.inj hstate).1.symm
    | tryPush arc peerId f =>
      obtain ⟨⟨roomId, htarget⟩, -, hchannel, -⟩ := hmay
      rcases tryPush_cases hexec hcurrent.1 with
        ⟨⟨reason, rfl⟩, hsame⟩ | ⟨⟨count, rfl⟩, hnotfull, hstate⟩
      · refine h.keep_op hget hphase ?_ ?_ (by rw [hsame])
        · rw [htarget]
          rfl
        · rw [hsame]
          exact .refl _
      · have hknown := h.holds _ (List.mem_of_getElem? hget)
        rw [htarget] at hknown
        obtain ⟨channelId, hchannel⟩ := Option.isSome_iff_exists.mp hchannel
        obtain ⟨-, harc⟩ := hknown.target_current hcurrent hnotfull hchannel
        refine h.step_pushed ?_ harc hcurrent.1 (RoomOp.exec_evolves hroom trivial)
          (RoomOp.exec_peerToRoom hroom (by simp) (by simp)) ⟨arc, ?_, ?_⟩
        · rw [hphase]
          show (voicePhase _).custody.next _ _ = _
          rw [htarget]
          rfl
        · rw [hstate]
          exact harc
        · rw [hstate]
          simp [InMemoryRoomState.setMembers, RoomMembers.push, hcurrent.1]
    | linkPeer peerId roomId =>
      refine h.step_linkPeer hget hmay.1 ?_ (Prod.mk.inj (Prod.mk.inj hroom).2).1.symm
      rw [hphase, VoicePhase.next_linkPeer]
    | unlinkPeer peerId =>
      obtain ⟨rfl, hstate⟩ := Prod.mk.inj hroom
      refine h.step_unlinkPeer ?_ (Prod.mk.inj hstate).1.symm
      rw [hphase]
      cases pool.shared.roomState.peerToRoom.lookup peerId with
      | none => rw [VoicePhase.next_unlinkPeer_none]
      | some roomId => rw [VoicePhase.next_unlinkPeer_some]
    | retainPeers arc peerId =>
      obtain ⟨roomId, hfound⟩ := hmay
      refine h.step_retainPeers hget hfound ?_ (Prod.mk.inj (Prod.mk.inj hroom).2).1.symm
      rw [hphase, VoicePhase.next_retainPeers]
    | removeRoom roomId =>
      refine h.keep_op hget hphase (Custody.next_eq answer (by simp))
        (RoomOp.exec_evolves hroom ?_) (RoomOp.exec_peerToRoom hroom (by simp) (by simp))
      intro arc harc
      exact hcurrent _ (by simp [InMemoryRoomState.find, harc])
    | _ =>
      exact h.keep_op hget hphase (Custody.next_eq answer (by simp))
        (RoomOp.exec_evolves hroom trivial) (RoomOp.exec_peerToRoom hroom (by simp) (by simp))
  | _ =>
    have hsame : shared.roomState = pool.shared.roomState := by
      rcases Op.exec_roomState hexec with hsame | ⟨ro, hro, -⟩
      · exact hsame
      · cases hro
    refine h.keep_op hget hphase (Custody.next_eq answer (by simp)) ?_ (by rw [hsame])
    rw [hsame]
    exact .refl _

end

theorem of_reach {config : Config} {db : ChannelDb} {allowed : BackendPool → BackendAct → Prop}
    (hvoice : ∀ pool call, allowed pool (.start call) → call.isVoice = true)
    (hcurrent : ∀ pool act, allowed pool act → pool.VoiceCurrent act)
    (hreach : (backend config).Reach allowed (BackendPool.initial config db) pool) :
    MemberInv pool := by
  refine (System.Reach.invariant (P := voiceProtocol)
    (fun pool call hstart => voiceCall_holds config (hvoice pool call hstart)) rfl
    (MemberInv.initial config db) ?_ ?_ hreach).1
  · intro pool call h _
    exact h.start config call
  · intro pool i env call trace o rest answer shared h hallowed hget hmay _ hexec
    exact h.step hget hmay ((hcurrent pool _ hallowed).op hget) hexec

end MemberInv

end Wavis
