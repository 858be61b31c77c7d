import Wavis.Proof.BackendOps
import Wavis.Proof.RoomEdit

/-! Joins check the capacity in the section that adds the peer. Only `addPeer` adds one without
looking, and only the creation of a room calls it, after the room has become visible to others. -/

namespace Wavis

open Concurrency

variable {members : RoomMembers} (peerId : PeerId)

namespace RoomMembers

def WithinCapacity (members : RoomMembers) : Prop :=
  members.peers.length ≤ members.info.maxParticipants

theorem WithinCapacity.push (h : members.WithinCapacity)
    (hplace : peerId ∉ members.peers → members.isFull = false) :
    (members.push peerId).WithinCapacity := by
  unfold RoomMembers.push
  split_ifs with hmem
  · exact h
  · have hfree := hplace hmem
    rw [isFull, decide_eq_false_iff_not, Nat.not_le] at hfree
    unfold WithinCapacity
    rw [List.length_append, List.length_singleton]
    exact hfree

theorem WithinCapacity.retain (h : members.WithinCapacity) :
    (members.retain peerId).WithinCapacity :=
  (List.length_filter_le _ members.peers).trans h

theorem WithinCapacity.edit (edit : InfoEdit) (now : Instant) (h : members.WithinCapacity) :
    (members.edit edit now).WithinCapacity := by
  unfold WithinCapacity RoomMembers.edit
  rw [edit.apply_maxParticipants]
  exact h

end RoomMembers

def RoomOp.insertsUnchecked {F : Type} (state : InMemoryRoomState) : RoomOp F → Option ArcId
  | pushUnlessMoving arc peerId roomId =>
    if (state.peerToRoom.lookup peerId).any (· != roomId) || peerId ∈ (state.heap arc).peers then
      none
    else some arc
  | push arc peerId => if peerId ∈ (state.heap arc).peers then none else some arc
  | _ => none

def World.PlaceLeft (w : World) : Op → Prop
  | .room o => ∀ arc ∈ o.insertsUnchecked w.roomState, (w.roomState.heap arc).isFull = false
  | _ => True

instance World.decidablePlaceLeft (w : World) (o : Op) : Decidable (w.PlaceLeft o) := by
  unfold World.PlaceLeft
  split <;> infer_instance

def BackendPool.PlaceLeft (pool : BackendPool) : BackendAct → Prop
  | .start _ => True
  | .step i _ => ∀ o ∈ pool.nextOp i, pool.shared.PlaceLeft o

instance BackendPool.decidablePlaceLeft (pool : BackendPool) (act : BackendAct) :
    Decidable (pool.PlaceLeft act) := by
  refine act.casesOn ?_ ?_ <;> intros <;> dsimp only [BackendPool.PlaceLeft] <;> infer_instance

def InMemoryRoomState.WithinCapacity (state : InMemoryRoomState) : Prop :=
  ∀ arc, (state.heap arc).WithinCapacity

namespace InMemoryRoomState.WithinCapacity

variable {state : InMemoryRoomState}

section

variable (h : state.WithinCapacity)
include h

theorem insertRoom (roomId : RoomId) (info : RoomInfo) :
    (state.insertRoom roomId info).WithinCapacity := by
  intro arc
  by_cases harc : arc = state.nextArc
  · subst harc
    simp [InMemoryRoomState.insertRoom, RoomMembers.WithinCapacity]
  · simpa [InMemoryRoomState.insertRoom, harc] using h arc

theorem setMembers (arc : ArcId) (hmembers : members.WithinCapacity) :
    (state.setMembers arc members).WithinCapacity := by
  intro arc'
  by_cases harc : arc' = arc
  · subst harc
    simpa [InMemoryRoomState.setMembers] using hmembers
  · simpa [InMemoryRoomState.setMembers, harc] using h arc'

theorem push (arc : ArcId) (peerId : PeerId)
    (hplace : peerId ∉ (state.heap arc).peers → (state.heap arc).isFull = false) :
    (state.setMembers arc ((state.heap arc).push peerId)).WithinCapacity :=
  h.setMembers arc ((h arc).push peerId hplace)

theorem exec {F κ : Type} {run : F → κ → Except JoinRejectionReason Unit × κ} {now : Instant}
    {k : κ} (o : RoomOp F)
    (hplace : ∀ arc ∈ o.insertsUnchecked state, (state.heap arc).isFull = false) :
    (o.exec run now (state, k)).2.1.WithinCapacity := by
  cases o with
  | createRoom roomId info =>
    simp only [RoomOp.exec]
    split
    · exact h
    · exact h.insertRoom roomId info
  | ensureRoom roomId =>
    simp only [RoomOp.exec]
    split
    · exact h
    · exact h.insertRoom roomId .newP2p
  | tryPush arc peerId f =>
    simp only [RoomOp.exec]
    split_ifs with hmem hfull
    · exact h
    · exact h
    · split
      · exact h
      · exact h.push arc peerId fun _ => decide_eq_false hfull
  | pushUnlessMoving arc peerId roomId =>
    have hpush : (state.peerToRoom.lookup peerId).any (· != roomId) = false →
        (state.setMembers arc ((state.heap arc).push peerId)).WithinCapacity := by
      intro hstay
      apply h.push
      intro hnew
      apply hplace arc
      simp [RoomOp.insertsUnchecked, hstay, hnew]
    simp only [RoomOp.exec]
    split
    · rename_i old hold
      split_ifs with hmove
      · exact h
      · exact hpush (by simpa [hold] using hmove)
    · rename_i hnone
      exact hpush (by simp [hnone])
  | push arc peerId =>
    apply h.push
    intro hnew
    apply hplace arc
    simp [RoomOp.insertsUnchecked, hnew]
  | retainPeers arc peerId => exact h.setMembers arc ((h arc).retain peerId)
  | updateInfo roomId edit =>
    simp only [RoomOp.exec]
    split
    · exact h
    · rename_i arc _
      exact h.setMembers arc ((h arc).edit edit now)
  | updateObject arc edit => exact h.setMembers arc ((h arc).edit edit now)
  | removeRoom roomId | getRoom roomId | checkEmpty roomId | linkPeer peerId roomId
  | unlinkPeer peerId | getRoomForPeer peerId | readRoom roomId
  | roomsNeedingTokenRefresh refreshAfterSecs => exact h

end

end InMemoryRoomState.WithinCapacity

theorem World.withinCapacity_exec {w w' : World} {o : Op} {env : Env} {answer : o.Resp}
    (h : w.roomState.WithinCapacity) (hplace : w.PlaceLeft o)
    (hexec : o.exec env w = some (answer, w')) : w'.roomState.WithinCapacity := by
  rcases Op.exec_roomState hexec with hsame | ⟨ro, rfl, heq⟩
  · rw [hsame]
    exact h
  · rw [heq]
    exact h.exec ro hplace

/-- **Capacity of rooms**, if the creator of a room still finds a place in it. -/
theorem peers_length_le_maxParticipants (config : Config) (db : ChannelDb) {pool : BackendPool}
    (hreach : (backend config).Reach
      (fun pool act => BackendPool.Usage pool act ∧ BackendPool.PlaceLeft pool act)
      (BackendPool.initial config db) pool)
    {roomId : RoomId} {members : RoomMembers}
    (hfind : pool.shared.roomState.find roomId = some members) :
    members.peers.length ≤ members.info.maxParticipants
      ∧ (members.info.roomType = .p2p → members.info.maxParticipants = 2) := by
  refine ⟨?_, members.info.p2pCapacity⟩
  have hinv : pool.shared.roomState.WithinCapacity := by
    refine hreach.shared_invariant (I := fun w => w.roomState.WithinCapacity) ?_ ?_
    · intro arc
      exact Nat.zero_le _
    · intro pool i env o answer shared h hallowed hop hexec
      exact World.withinCapacity_exec h (hallowed.2 o hop) hexec
  obtain ⟨arc, -, rfl⟩ := Option.map_eq_some_iff.mp hfind
  exact hinv arc

def joinP2p (roomId : RoomId) : SignalingMessage :=
  .join { roomId, roomType := some "p2p", inviteCode := none, displayName := none,
          profileColor := none }

def createP2p (roomId : RoomId) : SignalingMessage :=
  .createRoom { roomId, roomType := some "p2p", displayName := none, profileColor := none }

/-- A room is created and joined, and a third peer is turned away. -/
theorem peers_length_le_maxParticipants_two_peers :
    ∃ (pool : BackendPool) (members : RoomMembers),
      pool.shared.roomState.find "room" = some members
        ∧ members.peers = ["peer-1", "peer-2"]
        ∧ members.peers.length ≤ members.info.maxParticipants
        ∧ (members.info.roomType = .p2p → members.info.maxParticipants = 2) := by
  obtain ⟨pool, hreach, members, hfind, hpeers⟩ :=
    System.exists_reach_of_replay (backend openServer)
    (fun pool act => BackendPool.Usage pool act ∧ BackendPool.PlaceLeft pool act)
    (BackendPool.initial openServer .empty)
    (opens 0 none ++ opens 1 none ++ opens 2 none
      ++ .start (.message "peer-1" (createP2p "room")) :: .replicate 7 (.step 3 {})
      ++ .start (.message "peer-2" (joinP2p "room")) :: .replicate 5 (.step 4 {})
      ++ .step 3 {} :: .step 4 {} :: .start (.message "peer-3" (joinP2p "room"))
      :: .replicate 7 (.step 5 {}))
    (fun pool => ∃ members ∈ pool.shared.roomState.find "room",
      members.peers = ["peer-1", "peer-2"]) (by decide)
  exact ⟨pool, members, hfind, hpeers,
    peers_length_le_maxParticipants openServer .empty hreach hfind⟩

/-- Two peers join a P2P room between its creation and the insertion of its creator. -/
def crowdedRoom : List BackendAct :=
  opens 0 none ++ opens 1 none ++ opens 2 none
    ++ .start (.message "peer-1" (createP2p "room")) :: List.replicate 7 (.step 3 {})
    ++ .start (.message "peer-2" (joinP2p "room")) :: List.replicate 6 (.step 4 {})
    ++ .start (.message "peer-3" (joinP2p "room")) :: List.replicate 6 (.step 5 {})

theorem not_peers_length_le_maxParticipants :
    ¬ ∀ (config : Config) (db : ChannelDb) (pool : BackendPool),
      (backend config).Reach BackendPool.Usage (BackendPool.initial config db) pool →
      ∀ roomId members, pool.shared.roomState.find roomId = some members →
        members.peers.length ≤ members.info.maxParticipants := by
  intro h
  obtain ⟨pool, hreach, members, hfind, hlt⟩ := System.exists_reach_of_replay (backend openServer)
    BackendPool.Usage (BackendPool.initial openServer .empty) (crowdedRoom ++ [.step 3 {}])
    (fun pool => ∃ members ∈ pool.shared.roomState.find "room",
      members.info.maxParticipants < members.peers.length) (by decide)
  have hle := h openServer .empty pool hreach "room" members hfind
  exact absurd hle (Nat.not_le.mpr hlt)

end Wavis
