import Wavis.Proof.Alone
import Wavis.Proof.RoomIndex

/-! The membership calls keep a partial map from peers to rooms, in the order in which the peers
arrived, with one exception: `tryAddPeerWith` does not take the peer out of the room it is in. -/

namespace Wavis

open Concurrency Prog InMemoryRoomState Function List

variable {F κ : Type} {run : F → κ → Except JoinRejectionReason Unit × κ}
  {state : InMemoryRoomState}

/-- The open rooms with their capacities, and the room of each peer, in the order of arrival. -/
structure PeerMap where
  capacity : RoomId → Option Nat
  roomOf : PeerId → Option RoomId
  order : List PeerId
  nodup : order.Nodup
  mem_order : ∀ {peerId}, peerId ∈ order ↔ (roomOf peerId).isSome = true

variable {m : PeerMap} {peerId : PeerId} {roomId : RoomId} {k : κ}

namespace PeerMap

def empty : PeerMap where
  capacity _ := none
  roomOf _ := none
  order := []
  nodup := List.nodup_nil
  mem_order := by simp

def peersOf (m : PeerMap) (roomId : RoomId) : List PeerId :=
  m.order.filter fun peerId => m.roomOf peerId = some roomId

def insert (m : PeerMap) (peerId : PeerId) (roomId : RoomId) : PeerMap where
  capacity := m.capacity
  roomOf := Function.update m.roomOf peerId (some roomId)
  order := m.order.filter (· ≠ peerId) ++ [peerId]
  nodup := by
    refine (m.nodup.filter _).append (List.nodup_singleton _) ?_
    simp
  mem_order := by
    intro other
    by_cases hother : other = peerId
    · simp [hother]
    · simp [hother, m.mem_order]

def remove (m : PeerMap) (peerId : PeerId) : PeerMap where
  capacity := m.capacity
  roomOf := Function.update m.roomOf peerId none
  order := m.order.filter (· ≠ peerId)
  nodup := m.nodup.filter _
  mem_order := by
    intro other
    by_cases hother : other = peerId
    · simp [hother]
    · simp [hother, m.mem_order]

def setCapacity (m : PeerMap) (roomId : RoomId) (capacity : Option Nat) : PeerMap :=
  { m with capacity := Function.update m.capacity roomId capacity }

def openRoom (m : PeerMap) (roomId : RoomId) (capacity : Nat) : PeerMap :=
  if (m.capacity roomId).isSome then m else m.setCapacity roomId (some capacity)

def closeIfEmpty (m : PeerMap) (roomId : RoomId) : PeerMap :=
  if (m.peersOf roomId).isEmpty then m.setCapacity roomId none else m

def leave (m : PeerMap) (peerId : PeerId) : PeerMap :=
  match m.roomOf peerId with
  | none => m
  | some roomId => (m.remove peerId).closeIfEmpty roomId

def moveTo (m : PeerMap) (peerId : PeerId) (roomId : RoomId) : PeerMap :=
  if m.roomOf peerId = some roomId then m else (m.leave peerId).insert peerId roomId

/-- What a call does to the map. The closures of `tryAddPeerWith` have a state of their own. -/
def serve (run : F → κ → Except JoinRejectionReason Unit × κ) :
    (call : RoomCall F) → PeerMap × κ → call.Ret × (PeerMap × κ)
  | .createRoom roomId info, (m, k) =>
    ((m.capacity roomId).isNone, m.openRoom roomId info.maxParticipants, k)
  | .tryAddPeerWith peerId roomId f, (m, k) =>
    match m.capacity roomId with
    | none => (.error .roomFull, m, k)
    | some capacity =>
      let count := (m.peersOf roomId).length
      if m.roomOf peerId = some roomId then (.ok count, m, k)
      else if capacity ≤ count then (.error .roomFull, m, k)
      else
        match run f k with
        | (.error reason, k') => (.error reason, m, k')
        | (.ok (), k') => (.ok (count + 1), m.moveTo peerId roomId, k')
  | .addPeer peerId roomId, (m, k) => (some (), (m.openRoom roomId 2).moveTo peerId roomId, k)
  | .removePeer peerId, (m, k) => ((), m.leave peerId, k)
  | .removePeerPreserveRoom peerId, (m, k) => ((), m.remove peerId, k)
  | .removeEmptyRoom roomId, (m, k) =>
    ((m.capacity roomId).isSome && (m.peersOf roomId).isEmpty, m.closeIfEmpty roomId, k)

section

variable {roomId' : RoomId}

theorem mem_peersOf : peerId ∈ m.peersOf roomId ↔ m.roomOf peerId = some roomId := by
  unfold peersOf
  rw [mem_filter, m.mem_order, decide_eq_true_eq]
  exact ⟨fun h => h.2, fun h => ⟨h ▸ rfl, h⟩⟩

theorem peersOf_remove :
    (m.remove peerId).peersOf roomId = (m.peersOf roomId).filter (· ≠ peerId) := by
  simp only [peersOf, remove, filter_filter]
  refine filter_congr fun other _ => ?_
  by_cases hother : other = peerId
  · simp [hother]
  · simp [hother]

theorem peersOf_insert :
    (m.insert peerId roomId').peersOf roomId
      = (m.peersOf roomId).filter (· ≠ peerId) ++ if roomId = roomId' then [peerId] else [] := by
  have hothers : (m.order.filter (· ≠ peerId)).filter
        (fun other => (m.insert peerId roomId').roomOf other = some roomId)
      = (m.peersOf roomId).filter (· ≠ peerId) := by
    simp only [peersOf, insert, filter_filter]
    refine filter_congr fun other _ => ?_
    by_cases hother : other = peerId
    · simp [hother]
    · simp [hother]
  have hself : [peerId].filter (fun other => (m.insert peerId roomId').roomOf other = some roomId)
      = if roomId = roomId' then [peerId] else [] := by
    by_cases hroom : roomId = roomId'
    · simp [insert, hroom]
    · simp [insert, hroom, Ne.symm hroom]
  rw [← hothers, ← hself, ← filter_append]
  rfl

theorem filter_peersOf (h : m.roomOf peerId ≠ some roomId) :
    (m.peersOf roomId).filter (· ≠ peerId) = m.peersOf roomId := by
  refine filter_eq_self.mpr fun other hother => ?_
  have hne : other ≠ peerId := by
    rintro rfl
    exact h (mem_peersOf.mp hother)
  simpa using hne

end

end PeerMap

open PeerMap

def serveAll {σ : Type} (serve : (call : RoomCall F) → σ → call.Ret × σ) :
    List (RoomCall F) → σ → List ((call : RoomCall F) × call.Ret) × σ
  | [], s => ([], s)
  | call :: calls, s =>
    let (answer, s') := serve call s
    let (answers, last) := serveAll serve calls s'
    (⟨call, answer⟩ :: answers, last)

/-- A section at time 0. None of the sections of the calls here looks at the clock. -/
def RoomOp.solo (run : F → κ → Except JoinRejectionReason Unit × κ) (o : RoomOp F)
    (state : InMemoryRoomState × κ) : o.Resp × (InMemoryRoomState × κ) := o.exec run 0 state

def RoomCall.serve (run : F → κ → Except JoinRejectionReason Unit × κ) (call : RoomCall F)
    (state : InMemoryRoomState × κ) : call.Ret × (InMemoryRoomState × κ) :=
  call.body.run (RoomOp.solo run) state

open RoomOp (exec solo)

structure Represents (state : InMemoryRoomState) (m : PeerMap) : Prop where
  index : ∀ peerId, state.peerToRoom.lookup peerId = m.roomOf peerId
  rooms : ∀ roomId, (state.find roomId).map (fun members =>
      (members.info.maxParticipants, members.peers))
    = (m.capacity roomId).map fun capacity => (capacity, m.peersOf roomId)
  housed : ∀ peerId roomId, m.roomOf peerId = some roomId → (m.capacity roomId).isSome = true

namespace Represents

variable {state' : InMemoryRoomState}

theorem new : Represents .new .empty where
  index _ := rfl
  rooms _ := rfl
  housed _ _ h := by cases h

section

variable (h : Represents state m)
include h

theorem congr (hfind : ∀ roomId, state'.find roomId = state.find roomId)
    (hindex : ∀ peerId, state'.peerToRoom.lookup peerId = state.peerToRoom.lookup peerId) :
    Represents state' m where
  index peerId := by rw [hindex, h.index]
  rooms roomId := by rw [hfind, h.rooms]
  housed := h.housed

theorem capacity_isSome : (m.capacity roomId).isSome = (state.find roomId).isSome := by
  have hrooms := congrArg Option.isSome (h.rooms roomId)
  rw [Option.isSome_map, Option.isSome_map] at hrooms
  exact hrooms.symm

theorem of_find {members : RoomMembers} (hfind : state.find roomId = some members) :
    m.capacity roomId = some members.info.maxParticipants ∧ m.peersOf roomId = members.peers := by
  have hrooms := h.rooms roomId
  rw [hfind, Option.map_some] at hrooms
  obtain ⟨capacity, hcapacity, hpair⟩ := Option.map_eq_some_iff.mp hrooms.symm
  rw [Prod.mk.injEq] at hpair
  exact ⟨hcapacity.trans (congrArg some hpair.1), hpair.2⟩

theorem of_find_none (hfind : state.find roomId = none) :
    m.capacity roomId = none ∧ m.peersOf roomId = [] := by
  have hcapacity : m.capacity roomId = none := by
    rw [← Option.isNone_iff_eq_none, ← Option.not_isSome, h.capacity_isSome, hfind]
    rfl
  refine ⟨hcapacity, eq_nil_iff_forall_not_mem.mpr fun peerId hmem => ?_⟩
  have hsome := h.housed peerId roomId (mem_peersOf.mp hmem)
  rw [hcapacity] at hsome
  cases hsome

theorem insertRoom (hfind : state.find roomId = none) (info : RoomInfo) :
    Represents (state.insertRoom roomId info)
      (m.setCapacity roomId (some info.maxParticipants)) where
  index := h.index
  rooms := by
    intro roomId'
    rw [find_insertRoom_eq]
    by_cases hroom : roomId' = roomId
    · subst hroom
      have hpeers : (m.setCapacity roomId' (some info.maxParticipants)).peersOf roomId' = [] :=
        (h.of_find_none hfind).2
      rw [if_pos rfl, hpeers]
      simp [setCapacity]
    · rw [if_neg hroom, h.rooms roomId']
      simp only [setCapacity, update_of_ne hroom]
      rfl
  housed := by
    intro peerId roomId' hplace
    by_cases hroom : roomId' = roomId
    · simp [setCapacity, hroom]
    · simpa [setCapacity, hroom] using h.housed peerId roomId' hplace

theorem eraseRoom (hempty : m.peersOf roomId = []) :
    Represents (state.eraseRoom roomId) (m.setCapacity roomId none) where
  index := h.index
  rooms := by
    intro roomId'
    rw [find_eraseRoom_eq]
    by_cases hroom : roomId' = roomId
    · rw [if_pos hroom]
      simp [setCapacity, hroom]
    · rw [if_neg hroom, h.rooms roomId']
      simp only [setCapacity, update_of_ne hroom]
      rfl
  housed := by
    intro peerId roomId' hplace
    have hroom : roomId' ≠ roomId := by
      rintro rfl
      have hmem : peerId ∈ m.peersOf roomId' := mem_peersOf.mpr hplace
      rw [hempty] at hmem
      cases hmem
    simpa [setCapacity, hroom] using h.housed peerId roomId' hplace

theorem enter (hfree : m.roomOf peerId = none) (hopen : (state.find roomId).isSome = true) :
    Represents (state.enter peerId roomId) (m.insert peerId roomId) where
  index := by
    intro other
    rw [lookup_enter hopen]
    by_cases hother : other = peerId
    · simp [PeerMap.insert, hother]
    · simp [PeerMap.insert, hother, h.index]
  rooms := by
    have hlist : ∀ roomId', (m.peersOf roomId').filter (· ≠ peerId) = m.peersOf roomId' :=
      fun roomId' => filter_peersOf (by rw [hfree]; exact nofun)
    intro roomId'
    rw [find_enter, peersOf_insert, hlist]
    by_cases hroom : roomId' = roomId
    · subst hroom
      obtain ⟨members, hfind⟩ := Option.isSome_iff_exists.mp hopen
      obtain ⟨hcapacity, hpeers⟩ := h.of_find hfind
      have habsent : peerId ∉ members.peers := by
        rw [← hpeers, mem_peersOf, hfree]
        exact nofun
      simp [hfind, PeerMap.insert, hcapacity, hpeers, RoomMembers.push, habsent]
    · rw [if_neg hroom, if_neg hroom, append_nil]
      exact h.rooms roomId'
  housed := by
    intro other roomId' hplace
    by_cases hother : other = peerId
    · simp only [PeerMap.insert, hother, update_self, Option.some.injEq] at hplace
      rw [← hplace]
      exact h.capacity_isSome.trans hopen
    · simp only [PeerMap.insert, update_of_ne hother] at hplace
      exact h.housed other roomId' hplace

theorem remove :
    Represents (state.dropPeer peerId false) (m.remove peerId) where
  index := by
    intro other
    rw [lookup_dropPeer]
    by_cases hother : other = peerId
    · simp [PeerMap.remove, hother]
    · simp [PeerMap.remove, hother, h.index]
  rooms := by
    intro roomId
    rw [find_dropPeer, PeerMap.peersOf_remove, h.index]
    by_cases hplace : m.roomOf peerId = some roomId
    · rw [if_pos hplace]
      cases hfind : state.find roomId with
      | none => simp [PeerMap.remove, (h.of_find_none hfind).1]
      | some members =>
        obtain ⟨hcapacity, hpeers⟩ := h.of_find hfind
        simp [PeerMap.remove, hcapacity, hpeers, RoomMembers.retain]
    · rw [if_neg hplace, PeerMap.filter_peersOf hplace]
      exact h.rooms roomId
  housed := by
    intro other roomId hplace
    by_cases hother : other = peerId
    · simp [PeerMap.remove, hother] at hplace
    · simp only [PeerMap.remove, update_of_ne hother] at hplace
      exact h.housed other roomId hplace

theorem leave : Represents (state.dropPeer peerId true) (m.leave peerId) := by
  have hremoved : Represents (state.dropPeer peerId false) (m.remove peerId) := h.remove
  have hindex : ∀ other, (state.dropPeer peerId true).peerToRoom.lookup other
      = (state.dropPeer peerId false).peerToRoom.lookup other := by
    intro other
    rw [lookup_dropPeer, lookup_dropPeer]
  unfold PeerMap.leave
  cases hplace : m.roomOf peerId with
  | none =>
    refine h.congr (fun roomId => ?_) fun other => ?_
    · rw [find_dropPeer, h.index, hplace, if_neg nofun]
    · rw [lookup_dropPeer]
      split_ifs with hother
      · rw [hother, h.index, hplace]
      · rfl
  | some roomId =>
    dsimp only
    have hother : ∀ {roomId'}, roomId' ≠ roomId → (state.dropPeer peerId true).find roomId'
        = (state.dropPeer peerId false).find roomId' := by
      intro roomId' hne
      have helsewhere : some roomId ≠ some roomId' := fun heq => hne (Option.some.inj heq).symm
      rw [find_dropPeer, find_dropPeer, h.index, hplace, if_neg helsewhere, if_neg helsewhere]
    unfold closeIfEmpty
    split_ifs with hempty
    · have hnone : (m.remove peerId).peersOf roomId = [] := by simpa using hempty
      refine (hremoved.eraseRoom hnone).congr (fun roomId' => ?_) hindex
      rw [find_eraseRoom_eq]
      split_ifs with hroom
      · subst hroom
        rw [find_dropPeer, h.index, hplace, if_pos rfl]
        cases hfind : state.find roomId' with
        | none => rfl
        | some members =>
          have hpeers : (members.retain peerId).peers = [] := by
            rw [peersOf_remove, (h.of_find hfind).2] at hnone
            exact hnone
          simp [hpeers]
      · exact hother hroom
    · refine hremoved.congr (fun roomId' => ?_) hindex
      by_cases hroom : roomId' = roomId
      · subst hroom
        rw [find_dropPeer, find_dropPeer, h.index, hplace, if_pos rfl, if_pos rfl]
        cases hfind : state.find roomId' with
        | none => rfl
        | some members =>
          have hpeers : (members.retain peerId).peers ≠ [] := by
            intro hnone
            rw [peersOf_remove, (h.of_find hfind).2] at hempty
            exact hempty (by simpa [RoomMembers.retain] using hnone)
          rw [Option.map_some, Option.filter_some, Option.filter_some,
            if_pos (by simpa using hpeers), if_pos (by simp)]
      · exact hother hroom

end

end Represents

section

def Serves (run : F → κ → Except JoinRejectionReason Unit × κ) (call : RoomCall F)
    (state : InMemoryRoomState) (m : PeerMap) (k : κ) : Prop :=
  (call.serve run (state, k)).1 = (PeerMap.serve run call (m, k)).1
    ∧ Represents (call.serve run (state, k)).2.1 (PeerMap.serve run call (m, k)).2.1
    ∧ (call.serve run (state, k)).2.2 = (PeerMap.serve run call (m, k)).2.2

theorem find_of_lookup {arc : ArcId} (h : state.rooms.lookup roomId = some arc) :
    state.find roomId = some (state.heap arc) :=
  find_eq_some.mpr ⟨arc, h, rfl⟩

theorem find_of_lookup_none (h : state.rooms.lookup roomId = none) : state.find roomId = none := by
  rw [find, h, Option.map_none]

theorem Represents.createRoom (h : Represents state m) (info : RoomInfo) :
    Serves run (.createRoom roomId info) state m k := by
  unfold Serves RoomCall.serve RoomCall.body InMemoryRoomState.createRoom
  simp only [RoomOp.perform, Prog.perform, run_op, run_ret, solo, exec,
    serve, openRoom]
  cases hlookup : state.rooms.lookup roomId with
  | none =>
    rw [(h.of_find_none (find_of_lookup_none hlookup)).1]
    exact ⟨rfl, h.insertRoom (find_of_lookup_none hlookup) info, rfl⟩
  | some arc =>
    rw [(h.of_find (find_of_lookup hlookup)).1]
    exact ⟨rfl, h, rfl⟩

theorem run_removePeerInternal (removeEmptyRoom : Bool) :
    (removePeerInternal peerId removeEmptyRoom).run (solo run) (state, k)
      = ((), state.dropPeer peerId removeEmptyRoom, k) := by
  unfold removePeerInternal dropPeer
  simp only [RoomOp.perform, perform_bind, run_op, solo, exec]
  cases hindex : state.peerToRoom.lookup peerId with
  | none => rfl
  | some roomId =>
    simp only [run_op, solo, exec, unlinkPeer]
    cases hlookup : state.rooms.lookup roomId with
    | none => rfl
    | some arc =>
      simp only [run_op]
      change (if (removeEmptyRoom && ((state.heap arc).retain peerId).peers.isEmpty) = true then
          op (.removeRoom roomId) fun _ => pure () else pure () : RoomProg F Unit).run
        (solo run) _ = _
      cases removeEmptyRoom && ((state.heap arc).retain peerId).peers.isEmpty <;> rfl

theorem Represents.removePeer (h : Represents state m) :
    Serves run (.removePeer peerId) state m k := by
  unfold Serves RoomCall.serve RoomCall.body InMemoryRoomState.removePeer
  rw [run_removePeerInternal]
  exact ⟨rfl, h.leave, rfl⟩

theorem Represents.removePeerPreserveRoom (h : Represents state m) :
    Serves run (.removePeerPreserveRoom peerId) state m k := by
  unfold Serves RoomCall.serve RoomCall.body InMemoryRoomState.removePeerPreserveRoom
  rw [run_removePeerInternal]
  exact ⟨rfl, h.remove, rfl⟩

theorem serve_removeEmptyRoom :
    (RoomCall.removeEmptyRoom roomId).serve run (state, k)
      = if (state.find roomId).any (·.peers.isEmpty) then
          ((state.rooms.lookup roomId).isSome, state.eraseRoom roomId, k)
        else (false, state, k) := by
  change (if (state.find roomId).any (·.peers.isEmpty) = true then
      RoomOp.perform (.removeRoom roomId) else pure false : RoomProg F Bool).run
    (solo run) (state, k) = _
  cases (state.find roomId).any (·.peers.isEmpty) <;> rfl

theorem Represents.removeEmptyRoom (h : Represents state m) :
    Serves run (.removeEmptyRoom roomId) state m k := by
  unfold Serves
  rw [serve_removeEmptyRoom]
  simp only [serve, closeIfEmpty]
  cases hlookup : state.rooms.lookup roomId with
  | none =>
    -- There is nothing to close.
    have hfind := find_of_lookup_none hlookup
    obtain ⟨hcapacity, hpeers⟩ := h.of_find_none hfind
    have hsame : m.setCapacity roomId none = m := by
      simp only [setCapacity, ← hcapacity, update_eq_self]
    rw [hfind, hcapacity, hpeers, hsame]
    exact ⟨rfl, h, rfl⟩
  | some arc =>
    have hfind := find_of_lookup hlookup
    obtain ⟨hcapacity, hpeers⟩ := h.of_find hfind
    rw [hfind, hcapacity, hpeers, Option.any_some]
    cases hempty : (state.heap arc).peers.isEmpty with
    | true =>
      have hnone : m.peersOf roomId = [] := by
        rw [hpeers]
        exact isEmpty_iff.mp hempty
      exact ⟨rfl, h.eraseRoom hnone, rfl⟩
    | false => exact ⟨rfl, h, rfl⟩

def RoomCall.ComesFromOutside (run : F → κ → Except JoinRejectionReason Unit × κ)
    (state : InMemoryRoomState × κ) : RoomCall F → Prop
  | .tryAddPeerWith peerId roomId f =>
    ∀ old, state.1.peerToRoom.lookup peerId = some old → old ≠ roomId →
      ∀ members, state.1.find roomId = some members → members.isFull = false →
        ∃ reason, (run f state.2).1 = .error reason
  | _ => True

theorem Represents.tryAddPeerWith (h : Represents state m) (f : F)
    (houtside : RoomCall.ComesFromOutside run (state, k) (.tryAddPeerWith peerId roomId f)) :
    Serves run (.tryAddPeerWith peerId roomId f) state m k := by
  unfold Serves RoomCall.serve RoomCall.body InMemoryRoomState.tryAddPeerWith
  simp only [PeerMap.serve, RoomOp.perform, perform_bind, run_op, solo, exec]
  cases hlookup : state.rooms.lookup roomId with
  | none =>
    rw [(h.of_find_none (find_of_lookup_none hlookup)).1]
    exact ⟨rfl, h, rfl⟩
  | some arc =>
    have hfind := find_of_lookup hlookup
    obtain ⟨hcapacity, hpeers⟩ := h.of_find hfind
    have hlisted : peerId ∈ (state.heap arc).peers ↔ m.roomOf peerId = some roomId := by
      rw [← hpeers]
      exact PeerMap.mem_peersOf
    rw [hcapacity]
    simp only [run_op, solo, exec, hpeers]
    by_cases hmem : peerId ∈ (state.heap arc).peers
    · -- The peer is in the room already; the index has it there.
      have hplace := hlisted.mp hmem
      rw [if_pos hmem, if_pos hplace]
      refine ⟨rfl, h.congr (fun _ => rfl) fun other => ?_, rfl⟩
      change (state.peerToRoom.insert peerId roomId).lookup other = _
      by_cases hother : other = peerId
      · rw [hother, AList.lookup_insert, h.index, hplace]
      · rw [AList.lookup_insert_ne hother]
    · have hplace : m.roomOf peerId ≠ some roomId := fun heq => hmem (hlisted.mpr heq)
      rw [if_neg hmem, if_neg hplace]
      by_cases hfull : (state.heap arc).info.maxParticipants ≤ (state.heap arc).peers.length
      · rw [if_pos hfull, if_pos hfull]
        exact ⟨rfl, h, rfl⟩
      · rw [if_neg hfull, if_neg hfull]
        cases hrun : run f k with
        | mk verdict k' =>
          cases verdict with
          | error reason => exact ⟨rfl, h, rfl⟩
          | ok accepted =>
            have hfree : m.roomOf peerId = none := by
              cases hold : m.roomOf peerId with
              | none => rfl
              | some old =>
                have hne : old ≠ roomId := fun heq => hplace (by rw [hold, heq])
                obtain ⟨reason, herror⟩ := houtside old (by rw [h.index, hold]) hne _ hfind
                  (decide_eq_false hfull)
                rw [hrun] at herror
                cases herror
            refine ⟨rfl, ?_, rfl⟩
            have hentered := h.enter hfree (by rw [hfind]; rfl)
            simp only [InMemoryRoomState.enter, hlookup] at hentered
            have hmoved : m.moveTo peerId roomId = m.insert peerId roomId := by
              simp [PeerMap.moveTo, PeerMap.leave, hfree]
            rw [← hmoved] at hentered
            exact hentered

def InMemoryRoomState.evict (state : InMemoryRoomState) (peerId : PeerId) (roomId : RoomId) :
    InMemoryRoomState :=
  match state.rooms.lookup roomId with
  | none => state
  | some arc =>
    let members := (state.heap arc).retain peerId
    let left := state.setMembers arc members
    if members.peers.isEmpty then left.eraseRoom roomId else left

theorem run_removePeerFromRoomOnly :
    (removePeerFromRoomOnly peerId roomId).run (solo run) (state, k)
      = ((), state.evict peerId roomId, k) := by
  unfold removePeerFromRoomOnly evict
  simp only [RoomOp.perform, perform_bind, run_op, solo, exec]
  cases hlookup : state.rooms.lookup roomId with
  | none => rfl
  | some arc =>
    simp only [run_op]
    change (if ((state.heap arc).retain peerId).peers.isEmpty = true then
        op (.removeRoom roomId) fun _ => pure () else pure () : RoomProg F Unit).run
      (solo run) _ = _
    cases ((state.heap arc).retain peerId).peers.isEmpty <;> rfl

theorem find_evict (hindex : state.peerToRoom.lookup peerId = some roomId) (roomId' : RoomId) :
    (state.evict peerId roomId).find roomId' = (state.dropPeer peerId true).find roomId' := by
  unfold evict dropPeer
  cases hlookup : state.rooms.lookup roomId with
  | none =>
    simp only [hindex, hlookup]
    rfl
  | some arc =>
    simp only [hindex, hlookup, Bool.true_and]
    split_ifs <;> rfl

theorem exists_lookup_ensured (state : InMemoryRoomState) (roomId : RoomId) :
    ∃ arc, (state.ensured roomId).rooms.lookup roomId = some arc := by
  unfold ensured
  cases hlookup : state.rooms.lookup roomId with
  | none => exact ⟨_, AList.lookup_insert _⟩
  | some arc => exact ⟨arc, hlookup⟩

theorem serve_addPeer :
    (RoomCall.addPeer peerId roomId).serve run (state, k)
      = match (state.ensured roomId).peerToRoom.lookup peerId with
        | none => (some (), (state.ensured roomId).enter peerId roomId, k)
        | some old =>
          if old ≠ roomId then
            let moved := (state.ensured roomId).evict peerId old
            match moved.rooms.lookup roomId with
            | none => (none, moved, k)
            | some _ => (some (), moved.enter peerId roomId, k)
          else (some (), (state.ensured roomId).enter peerId roomId, k) := by
  have hensured : solo run (.ensureRoom roomId) (state, k)
      = ((), state.ensured roomId, k) := by
    simp only [solo, exec, ensured]
    cases state.rooms.lookup roomId <;> rfl
  obtain ⟨arc, hlookup⟩ := exists_lookup_ensured state roomId
  unfold RoomCall.serve RoomCall.body addPeer
  simp only [RoomOp.perform, perform_bind, run_op]
  rw [hensured]
  generalize state.ensured roomId = ensured at hlookup
  have hpushed : (op (.linkPeer peerId roomId) fun _ => pure (some ()) :
        RoomProg F (Option Unit)).run (solo run)
        (ensured.setMembers arc ((ensured.heap arc).push peerId), k)
      = (some (), ensured.enter peerId roomId, k) := by
    simp only [run_op, solo, exec, enter, hlookup]
    rfl
  simp only [solo, exec, hlookup, run_op]
  cases hindex : ensured.peerToRoom.lookup peerId with
  | none => exact hpushed
  | some old =>
    by_cases hold : old = roomId
    · simp only [ne_eq, hold, not_true_eq_false, if_false]
      exact hpushed
    · simp only [ne_eq, hold, not_false_eq_true, if_true]
      rw [run_bind, run_removePeerFromRoomOnly]
      simp only [run_op, solo, exec]
      cases hlookup' : (ensured.evict peerId old).rooms.lookup roomId with
      | none => rfl
      | some arc' =>
        simp only [run_op, solo, exec, enter, hlookup']
        rfl

section

variable (h : Represents state m)
include h

theorem Represents.ensured : Represents (state.ensured roomId) (m.openRoom roomId 2) := by
  unfold InMemoryRoomState.ensured openRoom
  cases hlookup : state.rooms.lookup roomId with
  | none =>
    have hfind := find_of_lookup_none hlookup
    rw [(h.of_find_none hfind).1]
    exact h.insertRoom hfind .newP2p
  | some arc =>
    rw [(h.of_find (find_of_lookup hlookup)).1]
    exact h

theorem Represents.enter_again (hplace : m.roomOf peerId = some roomId) :
    Represents (state.enter peerId roomId) m := by
  have hopen : (state.find roomId).isSome = true := by
    rw [← h.capacity_isSome]
    exact h.housed peerId roomId hplace
  refine h.congr (fun roomId' => ?_) fun other => ?_
  · rw [find_enter]
    split_ifs with hroom
    · subst hroom
      obtain ⟨members, hfind⟩ := Option.isSome_iff_exists.mp hopen
      have hmem : peerId ∈ members.peers := by
        rw [← (h.of_find hfind).2]
        exact mem_peersOf.mpr hplace
      rw [hfind, Option.map_some, RoomMembers.push, if_pos hmem]
    · rfl
  · rw [lookup_enter hopen]
    split_ifs with hother
    · rw [hother, h.index, hplace]
    · rfl

theorem Represents.addPeer : Serves run (.addPeer peerId roomId) state m k := by
  have hensured : Represents (state.ensured roomId) (m.openRoom roomId 2) := h.ensured
  obtain ⟨arc, hlookup⟩ := exists_lookup_ensured state roomId
  unfold Serves
  rw [serve_addPeer]
  simp only [PeerMap.serve]
  generalize state.ensured roomId = ensured at hensured hlookup
  generalize m.openRoom roomId 2 = opened at hensured
  have hfind := find_of_lookup hlookup
  cases hindex : ensured.peerToRoom.lookup peerId with
  | none =>
    have hfree : opened.roomOf peerId = none := by rw [← hensured.index, hindex]
    have hmoved : opened.moveTo peerId roomId = opened.insert peerId roomId := by
      simp [PeerMap.moveTo, PeerMap.leave, hfree]
    rw [hmoved]
    exact ⟨rfl, hensured.enter hfree (by rw [hfind]; rfl), rfl⟩
  | some old =>
    have hplace : opened.roomOf peerId = some old := by rw [← hensured.index, hindex]
    by_cases hold : old = roomId
    · rw [hold] at hplace
      have hmoved : opened.moveTo peerId roomId = opened := if_pos hplace
      simp only [ne_eq, hold, not_true_eq_false, if_false, hmoved]
      exact ⟨trivial, hensured.enter_again hplace, trivial⟩
    · -- The peer is taken out of its old room first.
      have hmoved : opened.moveTo peerId roomId = (opened.leave peerId).insert peerId roomId :=
        if_neg (by rw [hplace, Option.some.injEq]; exact hold)
      have hleft : Represents (ensured.dropPeer peerId true) (opened.leave peerId) :=
        hensured.leave
      have hfree : (opened.leave peerId).roomOf peerId = none := by
        rw [← hleft.index, lookup_dropPeer, if_pos rfl]
      have hopen : (ensured.dropPeer peerId true).find roomId = some (ensured.heap arc) := by
        rw [find_dropPeer, hindex, if_neg (by rw [Option.some.injEq]; exact hold), hfind]
      have hevicted := find_evict hindex
      obtain ⟨arc', hlookup', -⟩ := find_eq_some.mp ((hevicted roomId).trans hopen)
      simp only [ne_eq, hold, not_false_eq_true, if_true, hlookup', hmoved]
      refine ⟨trivial, (hleft.enter hfree (by rw [hopen]; rfl)).congr ?_ ?_, trivial⟩
      · intro roomId'
        rw [find_enter, find_enter, hevicted]
      · intro other
        rw [lookup_enter (by rw [hevicted, hopen]; rfl), lookup_enter (by rw [hopen]; rfl)]
        split_ifs with hother
        · rfl
        · rw [lookup_dropPeer, if_neg hother]
          unfold evict
          split
          · rfl
          · dsimp only
            split_ifs <;> rfl

theorem Represents.serve (call : RoomCall F) (houtside : call.ComesFromOutside run (state, k)) :
    Serves run call state m k := by
  cases call with
  | createRoom roomId info => exact h.createRoom info
  | tryAddPeerWith peerId roomId f => exact h.tryAddPeerWith f houtside
  | addPeer peerId roomId => exact h.addPeer
  | removePeer peerId => exact h.removePeer
  | removePeerPreserveRoom peerId => exact h.removePeerPreserveRoom
  | removeEmptyRoom roomId => exact h.removeEmptyRoom

end

end

section

variable {s : InMemoryRoomState × κ} {call : RoomCall F}

def roomsAfter (run : F → κ → Except JoinRejectionReason Unit × κ) (k : κ)
    (calls : List (RoomCall F)) : List ((call : RoomCall F) × call.Ret) × InMemoryRoomState × κ :=
  serveAll (RoomCall.serve run) calls (.new, k)

def mapAfter (run : F → κ → Except JoinRejectionReason Unit × κ) (k : κ)
    (calls : List (RoomCall F)) : List ((call : RoomCall F) × call.Ret) × PeerMap × κ :=
  serveAll (PeerMap.serve run) calls (.empty, k)

def AllFromOutside (run : F → κ → Except JoinRejectionReason Unit × κ) :
    List (RoomCall F) → InMemoryRoomState × κ → Prop
  | [], _ => True
  | call :: calls, s =>
    call.ComesFromOutside run s ∧ AllFromOutside run calls (call.serve run s).2

theorem AllFromOutside.split {earlier later : List (RoomCall F)}
    (h : AllFromOutside run (earlier ++ call :: later) s) :
    AllFromOutside run earlier s
      ∧ call.ComesFromOutside run (serveAll (RoomCall.serve run) earlier s).2 := by
  induction earlier generalizing s with
  | nil => exact ⟨trivial, h.1⟩
  | cons first earlier ih =>
    obtain ⟨hearlier, hcall⟩ := ih h.2
    exact ⟨⟨h.1, hearlier⟩, hcall⟩

structure BehavesAsMap (run : F → κ → Except JoinRejectionReason Unit × κ) (k : κ)
    (calls : List (RoomCall F)) : Prop where
  answers : (roomsAfter run k calls).1 = (mapAfter run k calls).1
  getRoomForPeer : ∀ peerId,
    ((InMemoryRoomState.getRoomForPeer peerId).run (RoomOp.solo run) (roomsAfter run k calls).2).1
      = (mapAfter run k calls).2.1.roomOf peerId
  getPeersInRoom : ∀ roomId,
    ((InMemoryRoomState.getPeersInRoom roomId).run (RoomOp.solo run) (roomsAfter run k calls).2).1
      = (mapAfter run k calls).2.1.peersOf roomId
  onlyRoom : ∀ earlier call later peerId roomId, calls = earlier ++ call :: later →
    call.peer = some peerId →
    call.place (call.serve run (roomsAfter run k earlier).2).1 none = some roomId →
    ∀ roomId', (∃ members,
      (call.serve run (roomsAfter run k earlier).2).2.1.find roomId' = some members
        ∧ peerId ∈ members.peers) ↔ roomId' = roomId
  refused : ∀ earlier peerId roomId f later reason,
    calls = earlier ++ .tryAddPeerWith peerId roomId f :: later →
    ((RoomCall.tryAddPeerWith peerId roomId f).serve run (roomsAfter run k earlier).2).1
      = .error reason →
    ((RoomCall.tryAddPeerWith peerId roomId f).serve run (roomsAfter run k earlier).2).2.1
      = (roomsAfter run k earlier).2.1

theorem serveAll_concat {σ : Type} (serve : (call : RoomCall F) → σ → call.Ret × σ)
    (calls : List (RoomCall F)) (call : RoomCall F) (s : σ) :
    serveAll serve (calls ++ [call]) s
      = ((serveAll serve calls s).1 ++ [⟨call, (serve call (serveAll serve calls s).2).1⟩],
        (serve call (serveAll serve calls s).2).2) := by
  induction calls generalizing s with
  | nil => rfl
  | cons first calls ih => simp only [cons_append, serveAll, ih]

theorem represents_run {calls : List (RoomCall F)} (h : AllFromOutside run calls (.new, k)) :
    (roomsAfter run k calls).1 = (mapAfter run k calls).1
      ∧ Represents (roomsAfter run k calls).2.1 (mapAfter run k calls).2.1
      ∧ (roomsAfter run k calls).2.2 = (mapAfter run k calls).2.2 := by
  induction calls using reverseRecOn with
  | nil => exact ⟨rfl, .new, rfl⟩
  | append_singleton calls call ih =>
    obtain ⟨hbefore, hcall⟩ := h.split
    obtain ⟨hanswers, hstored, hclosures⟩ := ih hbefore
    unfold roomsAfter mapAfter at *
    rw [serveAll_concat, serveAll_concat, hanswers]
    generalize serveAll (RoomCall.serve run) calls (.new, k) = served at *
    generalize serveAll (serve run) calls (.empty, k) = mapped at *
    obtain ⟨answers, state, k₁⟩ := served
    obtain ⟨answers', m, k₂⟩ := mapped
    subst hclosures
    obtain ⟨hanswer, hstored', hclosures'⟩ := hstored.serve call hcall
    exact ⟨by rw [hanswer], hstored', hclosures'⟩

theorem Represents.mem_find_iff (h : Represents state m) :
    (∃ members, state.find roomId = some members ∧ peerId ∈ members.peers)
      ↔ m.roomOf peerId = some roomId := by
  constructor
  · rintro ⟨members, hfind, hmem⟩
    rw [← (h.of_find hfind).2] at hmem
    exact mem_peersOf.mp hmem
  · intro hplace
    have hopen := h.housed peerId roomId hplace
    rw [h.capacity_isSome] at hopen
    obtain ⟨members, hfind⟩ := Option.isSome_iff_exists.mp hopen
    refine ⟨members, hfind, ?_⟩
    rw [← (h.of_find hfind).2]
    exact mem_peersOf.mpr hplace

theorem PeerMap.roomOf_serve (hpeer : call.peer = some peerId)
    (hplace : call.place (serve run call (m, k)).1 none = some roomId) :
    (serve run call (m, k)).2.1.roomOf peerId = some roomId := by
  have hmoved : ∀ (m : PeerMap) (roomId : RoomId),
      (m.moveTo peerId roomId).roomOf peerId = some roomId := by
    intro m roomId
    unfold moveTo
    split_ifs with hsame
    · exact hsame
    · simp [insert]
  cases call with
  | addPeer peerId' roomId' =>
    cases hpeer
    cases hplace
    exact hmoved _ _
  | tryAddPeerWith peerId' roomId' f =>
    cases hpeer
    simp only [serve] at hplace ⊢
    cases hcapacity : m.capacity roomId' with
    | none =>
      rw [hcapacity] at hplace
      cases hplace
    | some capacity =>
      simp only [hcapacity] at hplace ⊢
      split_ifs at hplace ⊢ with hsame hfull
      · cases hplace
        exact hsame
      · cases hplace
      · cases hrun : run f k with
        | mk verdict k' =>
          rw [hrun] at hplace
          cases verdict with
          | error reason => cases hplace
          | ok accepted =>
            cases hplace
            exact hmoved _ _
  | createRoom roomId' info => cases hpeer
  | removePeer peerId' | removePeerPreserveRoom peerId' => cases hplace
  | removeEmptyRoom roomId' => cases hpeer

theorem serve_tryAddPeerWith_error {f : F} {reason : JoinRejectionReason}
    (h : ((RoomCall.tryAddPeerWith peerId roomId f).serve run s).1 = .error reason) :
    ((RoomCall.tryAddPeerWith peerId roomId f).serve run s).2.1 = s.1 := by
  obtain ⟨state, k⟩ := s
  unfold RoomCall.serve RoomCall.body tryAddPeerWith at h ⊢
  simp only [RoomOp.perform, perform_bind, run_op, solo, exec] at h ⊢
  cases hlookup : state.rooms.lookup roomId with
  | none => rfl
  | some arc =>
    simp only [hlookup, run_op, solo, exec] at h ⊢
    split_ifs at h ⊢ with hmem hfull
    · cases h
    · rfl
    · cases hrun : run f k with
      | mk verdict k' =>
        simp only [hrun] at h ⊢
        cases verdict with
        | error reason' => rfl
        | ok accepted => cases h

end

/-- **Room calls refine a map from peers to rooms**, if nobody joins that is in another room. -/
theorem room_calls_behave_as_map (run : F → κ → Except JoinRejectionReason Unit × κ) (k : κ)
    (calls : List (RoomCall F)) (h : AllFromOutside run calls (.new, k)) :
    BehavesAsMap run k calls := by
  obtain ⟨hanswers, hstored, -⟩ := represents_run h
  refine ⟨hanswers, hstored.index, fun roomId => ?_, ?_, ?_⟩
  · change (((roomsAfter run k calls).2.1.find roomId).map (·.peers)).getD [] = _
    cases hfind : (roomsAfter run k calls).2.1.find roomId with
    | none => exact (hstored.of_find_none hfind).2.symm
    | some members => exact (hstored.of_find hfind).2.symm
  · intro earlier call later peerId roomId hcalls hpeer hplace roomId'
    subst hcalls
    obtain ⟨hearlier, hcall⟩ := h.split
    obtain ⟨-, hstored, hclosures⟩ := represents_run hearlier
    change call.ComesFromOutside run (roomsAfter run k earlier).2 at hcall
    generalize (roomsAfter run k earlier).2 = served at *
    obtain ⟨state, k₁⟩ := served
    obtain ⟨hanswer, hstored', -⟩ := hstored.serve call hcall
    rw [hanswer] at hplace
    rw [hstored'.mem_find_iff, roomOf_serve hpeer hplace, Option.some.injEq]
    exact eq_comm
  · intro earlier peerId roomId f later reason _ hrefused
    exact serve_tryAddPeerWith_error hrefused

/-- A peer moves to another room; a second one is refused by a room that does not exist. -/
theorem room_calls_behave_as_map_moved :
    let calls : List (RoomCall Unit) := [.createRoom "room" .newP2p,
      .tryAddPeerWith "peer-1" "room" (), .tryAddPeerWith "peer-2" "room" (),
      .addPeer "peer-1" "other", .tryAddPeerWith "peer-2" "nowhere" ()]
    (mapAfter acceptAll () calls).2.1.peersOf "room" = ["peer-2"]
      ∧ BehavesAsMap acceptAll () calls := by
  intro calls
  refine ⟨by decide, room_calls_behave_as_map acceptAll () calls
    ⟨trivial, nofun, nofun, trivial, ?_, trivial⟩⟩
  -- The room it comes to does not exist.
  intro old _ _ members hfind
  cases hfind

/-- A peer that is in one room joins another: both list it. -/
theorem not_room_calls_behave_as_map :
    ¬ ∀ calls : List (RoomCall Unit), BehavesAsMap acceptAll () calls := by
  intro h
  let earlier : List (RoomCall Unit) := [.createRoom "room" .newP2p, .createRoom "other" .newP2p,
    .tryAddPeerWith "peer-1" "room" ()]
  let join : RoomCall Unit := .tryAddPeerWith "peer-1" "other" ()
  have honly := (h (earlier ++ [join])).onlyRoom earlier join [] "peer-1" "other" rfl rfl (by rfl)
  have hroom := (honly "room").mp ⟨⟨["peer-1"], .newP2p⟩, rfl, mem_singleton_self _⟩
  exact absurd hroom (by decide)

end Wavis
