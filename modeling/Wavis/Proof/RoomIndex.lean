import Wavis.Proof.PeerAt
import Mathlib.Data.List.Induction

namespace Wavis

open Concurrency IndexPhase InMemoryRoomState RoomThread List

variable {F κ : Type} {run : F → κ → Except JoinRejectionReason Unit × κ}
  {state : InMemoryRoomState × κ} {call : RoomCall F} {o : RoomOp F}
  {trace : List ((o : RoomOp F) × o.Resp)} {peerId : PeerId} {pool : RoomPool F κ}
  (thread : RoomThread F)

theorem isRetain_of_left {thread : RoomThread F} {old : RoomId}
    (h : indexProtocol.phase thread = left old) :
    thread.trace.any (fun event => event.1.isRetain) = true := by
  obtain ⟨call, trace, rest⟩ := thread
  induction trace using reverseRecOn with
  | nil => cases h
  | append_singleton trace event ih =>
    obtain ⟨o, answer⟩ := event
    rw [indexProtocol.phase_append call trace o answer rest rest] at h
    rw [any_append, Bool.or_eq_true]
    by_cases hretain : o.isRetain = true
    · exact .inr (by simp [hretain])
    · left
      apply ih
      generalize indexProtocol.phase ⟨call, trace, rest⟩ = φ at h
      cases o with
      | retainPeers => exact absurd rfl hretain
      | getRoom => cases answer <;> cases φ <;> first | exact h | cases h
      | tryPush | pushUnlessMoving | unlinkPeer => cases answer <;> cases h
      | push | linkPeer => cases h
      | _ => exact h

/-- The phase of an unfinished call says where its peer stands, and the last one made counts. -/
structure IndexInv (pool : RoomPool F κ) : Prop where
  nodup : ∀ arc, (pool.shared.1.heap arc).peers.Nodup
  last : ∀ (i : Nat) (thread : RoomThread F), pool.threads[i]? = some thread →
    thread.active = true → ∀ peerId, thread.call.peer = some peerId →
    ∀ (j : Nat) (later : RoomThread F), i < j → pool.threads[j]? = some later →
    later.call.peer ≠ some peerId
  busy : ∀ thread ∈ pool.threads, thread.active = true → ∀ peerId, thread.call.peer = some peerId →
    (indexProtocol.phase thread).Local pool.shared.1 peerId (lastPlace pool.threads peerId)
      thread.call
  idle : ∀ peerId, (∀ thread ∈ pool.threads, thread.call.peer = some peerId →
    thread.active = false) → Settled pool.shared.1 peerId (lastPlace pool.threads peerId)

theorem RoomThread.moves_of_active (h : thread.active = true) (place : Option RoomId) :
    moves peerId place thread = place := by
  obtain ⟨call, trace, rest⟩ := thread
  cases rest with
  | ret value => cases h
  | op o rest => rfl

theorem RoomThread.moves_of_ne (h : thread.call.peer ≠ some peerId) (place : Option RoomId) :
    moves peerId place thread = place := by
  obtain ⟨call, trace, rest⟩ := thread
  cases rest with
  | ret value => exact if_neg h
  | op o rest => rfl

theorem nodup_exec (h : ∀ arc, (state.1.heap arc).peers.Nodup) (now : Instant) (o : RoomOp F) :
    ∀ arc, ((o.exec run now state).2.1.heap arc).peers.Nodup := by
  obtain ⟨state, k⟩ := state
  have hset : ∀ (arc : ArcId) (members : RoomMembers), members.peers.Nodup →
      ∀ arc', ((state.setMembers arc members).heap arc').peers.Nodup := by
    intro arc members hmembers arc'
    by_cases harc : arc' = arc
    · subst harc
      simpa [setMembers] using hmembers
    · simpa [setMembers, Function.update_of_ne harc] using h arc'
  have hinsert : ∀ (roomId : RoomId) (info : RoomInfo) (arc : ArcId),
      ((state.insertRoom roomId info).heap arc).peers.Nodup := by
    intro roomId info arc
    by_cases harc : arc = state.nextArc
    · subst harc
      simp [insertRoom]
    · simpa [insertRoom, Function.update_of_ne harc] using h arc
  have hpush : ∀ (arc : ArcId) (peerId : PeerId), ((state.heap arc).push peerId).peers.Nodup := by
    intro arc peerId
    unfold RoomMembers.push
    split_ifs with hmem
    · exact h arc
    · exact List.Nodup.append (h arc) (nodup_singleton peerId) (by simpa using hmem)
  cases o with
  | createRoom roomId info | ensureRoom roomId =>
    simp only [RoomOp.exec]
    split
    · exact h
    · exact hinsert _ _
  | tryPush arc peerId f =>
    simp only [RoomOp.exec]
    split_ifs
    · exact h
    · exact h
    · split
      · exact h
      · exact hset _ _ (hpush _ _)
  | pushUnlessMoving arc peerId roomId =>
    simp only [RoomOp.exec]
    split
    · split_ifs
      · exact h
      · exact hset _ _ (hpush _ _)
    · exact hset _ _ (hpush _ _)
  | push arc peerId => exact hset _ _ (hpush _ _)
  | retainPeers arc peerId => exact hset _ _ ((h arc).filter _)
  | updateInfo roomId edit =>
    simp only [RoomOp.exec]
    split
    · exact h
    · exact hset _ _ (h _)
  | updateObject arc edit => exact hset _ _ (h _)
  | _ => exact h

theorem IndexInv.initial (k : κ) : IndexInv (RoomPool.initial k : RoomPool F κ) where
  nodup _ := nodup_nil
  last i thread hget := by cases hget
  busy thread hmem := by cases hmem
  idle peerId _ := ⟨none, ⟨rfl, fun arc => by simp [RoomPool.initial, new],
    nofun⟩, rfl⟩

theorem IndexInv.start (h : IndexInv pool) (husage : pool.Usage (.start call)) :
    IndexInv { pool with threads := pool.threads ++ [(roomSystem run).spawn call] } := by
  have hactive : ((roomSystem run).spawn call).active = true := by cases call <;> rfl
  have hplace : ∀ peerId, lastPlace (pool.threads ++ [(roomSystem run).spawn call]) peerId
      = lastPlace pool.threads peerId := by
    intro peerId
    unfold lastPlace
    rw [foldl_append]
    exact moves_of_active _ hactive _
  have hidle : ∀ peerId, call.peer = some peerId → ∀ thread ∈ pool.threads,
      thread.call.peer = some peerId → thread.active = false := by
    intro peerId hpeer thread hmem hthread
    by_contra hbusy
    rw [Bool.not_eq_false] at hbusy
    rcases husage.1 thread hmem hbusy with hnone | hne
    · rw [hpeer] at hnone
      cases hnone
    · exact hne (hthread.trans hpeer.symm)
  refine ⟨h.nodup, ?_, ?_, ?_⟩
  · intro i thread hget hbusy peerId hpeer j later hlt hlater hsame
    rcases getElem?_concat_cases hget with hget | ⟨rfl, rfl⟩
    · rcases getElem?_concat_cases hlater with hlater | ⟨rfl, rfl⟩
      · exact h.last i thread hget hbusy peerId hpeer j later hlt hlater hsame
      · have hdone := hidle peerId hsame thread (mem_of_getElem? hget) hpeer
        rw [hbusy] at hdone
        cases hdone
    · have hj := (List.getElem?_eq_some_iff.mp hlater).1
      rw [length_append, length_singleton] at hj
      omega
  · intro thread hmem hbusy peerId hpeer
    rw [hplace]
    rcases mem_append.mp hmem with hmem | hmem
    · exact h.busy thread hmem hbusy peerId hpeer
    · rw [mem_singleton] at hmem
      subst hmem
      have hsettled := h.idle peerId (hidle peerId hpeer)
      refine ⟨hsettled, ?_⟩
      rintro ⟨p, r, f, hcall⟩
      subst hcall
      cases hpeer
      obtain ⟨room, hat, -⟩ := hsettled
      exact hat.link.symm.trans husage.2.1
  · intro peerId hdone
    rw [hplace]
    apply h.idle
    intro thread hmem
    exact hdone thread (mem_append_left _ hmem)

theorem IndexInv.step (h : IndexInv pool) {i : Nat} (now : Instant)
    {rest : o.Resp → RoomProg F call.Ret}
    (hget : pool.threads[i]? = some ⟨call, trace, .op o rest⟩)
    (hmay : May call (indexProtocol.phase ⟨call, trace, .op o rest⟩) o)
    (hcurrent : o.Current run pool.shared call trace)
    (hholds : indexProtocol.Holds ⟨call, trace ++ [⟨o, (o.exec run now pool.shared).1⟩],
      rest (o.exec run now pool.shared).1⟩) :
    IndexInv ⟨(o.exec run now pool.shared).2,
      pool.threads.set i ⟨call, trace ++ [⟨o, (o.exec run now pool.shared).1⟩],
        rest (o.exec run now pool.shared).1⟩⟩ := by
  set answer := (o.exec run now pool.shared).1 with hanswer
  set old : RoomThread F := ⟨call, trace, .op o rest⟩ with hold
  set new : RoomThread F := ⟨call, trace ++ [⟨o, answer⟩], rest answer⟩ with hnew
  have hphase : indexProtocol.phase new = (indexProtocol.phase old).next o answer :=
    indexProtocol.phase_step call trace o rest answer
  have hmem : old ∈ pool.threads := mem_of_getElem? hget
  have hothers : ∀ peerId, call.peer ≠ some peerId → ∀ room link,
      PeerAt pool.shared.1 peerId room link →
      PeerAt (o.exec run now pool.shared).2.1 peerId room link := by
    intro peerId hne room link hat
    refine hat.exec_other now hmay ?_ hcurrent hne
    intro hsome hmissing
    obtain ⟨own, hown⟩ := Option.isSome_iff_exists.mp hsome
    have hlocal := h.busy old hmem rfl own hown
    rw [hmissing] at hlocal
    exact hlocal
  have hself : ∀ own, call.peer = some own → (indexProtocol.phase new).Local
      (o.exec run now pool.shared).2.1 own (lastPlace pool.threads own) call := by
    intro own hown
    rw [hphase]
    exact (h.busy old hmem rfl own hown).exec_self now hmay hcurrent hown
      fun _ hleft => isRetain_of_left hleft
  have hsame : ∀ peerId, call.peer ≠ some peerId →
      lastPlace (pool.threads.set i new) peerId = lastPlace pool.threads peerId := by
    intro peerId hne
    refine foldl_set_of_eq hget (fun place => ?_) none
    rw [moves_of_ne old hne, moves_of_ne new hne]
  have hcalls : ∀ (j : Nat) (thread : RoomThread F), (pool.threads.set i new)[j]? = some thread →
      ∃ thread', pool.threads[j]? = some thread' ∧ thread'.call = thread.call
        ∧ (thread.active = true → thread'.active = true) := by
    intro j thread hthread
    by_cases hji : j = i
    · subst hji
      rw [getElem?_set_self'] at hthread
      obtain ⟨_, _, rfl⟩ := Option.map_eq_some_iff.mp hthread
      exact ⟨old, hget, rfl, fun _ => rfl⟩
    · rw [getElem?_set_ne (Ne.symm hji)] at hthread
      exact ⟨thread, hthread, rfl, id⟩
  refine ⟨nodup_exec h.nodup now o, ?_, ?_, ?_⟩
  · intro i₁ thread hthread hbusy peerId hpeer j later hlt hlater
    obtain ⟨thread', hthread', hcall, hactive⟩ := hcalls i₁ thread hthread
    obtain ⟨later', hlater', hcall', -⟩ := hcalls j later hlater
    rw [← hcall']
    exact h.last i₁ thread' hthread' (hactive hbusy) peerId (hcall ▸ hpeer) j later' hlt hlater'
  · intro thread hthread hbusy peerId hpeer
    rcases mem_set_cases hthread with rfl | ⟨j, hji, hj⟩
    · have hplace : lastPlace (pool.threads.set i new) peerId = lastPlace pool.threads peerId :=
        foldl_set_of_eq hget (fun place => by
          rw [moves_of_active old rfl, moves_of_active new hbusy])
          none
      rw [hplace]
      exact hself peerId hpeer
    · have hne : call.peer ≠ some peerId := by
        intro hown
        rcases Nat.lt_or_gt_of_ne hji with hlt | hlt
        · exact h.last j thread hj hbusy peerId hpeer i old hlt hget hown
        · exact h.last i old hget rfl peerId hown j thread hlt hj hpeer
      rw [hsame peerId hne]
      exact (h.busy thread (mem_of_getElem? hj) hbusy peerId hpeer).mono (hothers peerId hne)
  · intro peerId hdone
    by_cases hown : call.peer = some peerId
    · have hlen := (List.getElem?_eq_some_iff.mp hget).1
      have hnewDone := hdone new (mem_set hlen new) hown
      obtain ⟨value, hvalue⟩ : ∃ value, rest answer = .ret value := by
        cases hrest : rest answer with
        | ret value => exact ⟨value, rfl⟩
        | op o' rest' =>
          simp [new, Thread.active, hrest, Prog.returned] at hnewDone
      have hplace : lastPlace (pool.threads.set i new) peerId
          = call.place value (lastPlace pool.threads peerId) := by
        unfold lastPlace
        rw [foldl_set_of_last new hget (moves_of_active old rfl)]
        · simp only [moves, new, hvalue, hown, if_true]
        · intro j later hlt hlater
          exact moves_of_ne later (h.last i old hget rfl peerId hown j later hlt hlater)
      have hpost : Post call (indexProtocol.phase new) value := by
        have hobeys : (rest answer).Obeys next (May call) (Post call)
            (indexProtocol.phase new) := hholds
        rw [hvalue] at hobeys
        exact hobeys
      rw [hplace]
      exact settled_of_post (hself peerId hown) hpost hown
    · rw [hsame peerId hown]
      have hbefore : ∀ thread ∈ pool.threads, thread.call.peer = some peerId →
          thread.active = false := by
        intro thread hthread hpeer
        obtain ⟨j, hj⟩ := mem_iff_getElem?.mp hthread
        have hji : i ≠ j := by
          rintro rfl
          rw [hget] at hj
          cases hj
          exact hown hpeer
        exact hdone thread
          (mem_of_getElem? ((getElem?_set_ne hji).trans hj)) hpeer
      obtain ⟨room, hat, hroom⟩ := h.idle peerId hbefore
      exact ⟨room, hothers peerId hown _ _ hat, hroom⟩

theorem IndexInv.of_reach (run : F → κ → Except JoinRejectionReason Unit × κ) (k : κ)
    (hreach : (roomSystem run).Reach
      (fun pool act => RoomPool.Usage pool act ∧ RoomPool.Current run pool act)
      (RoomPool.initial k) pool) : IndexInv pool := by
  refine (System.Reach.invariant (fun _ call _ => roomCall_holds run call) rfl
    (IndexInv.initial k) ?_ ?_ hreach).1
  · intro pool call h hallowed
    exact h.start hallowed.1
  · intro pool i now call trace o rest answer shared h hallowed hget hmay hholds hexec
    have hcurrent : o.Current run pool.shared call trace := by
      have := hallowed.2
      simp only [RoomPool.Current, hget] at this
      exact this
    have hpair : o.exec run now pool.shared = (answer, shared) := Option.some.inj hexec
    obtain rfl : (o.exec run now pool.shared).1 = answer := congrArg Prod.fst hpair
    obtain rfl : (o.exec run now pool.shared).2 = shared := congrArg Prod.snd hpair
    exact h.step now hget hmay hcurrent hholds

theorem IndexInv.consistent (h : IndexInv pool) (hquiet : pool.Quiescent) : pool.Consistent := by
  have hsettled : ∀ peerId, Settled pool.shared.1 peerId (lastPlace pool.threads peerId) :=
    fun peerId => h.idle peerId fun thread hmem _ => hquiet thread hmem
  have hlink : ∀ peerId,
      pool.shared.1.peerToRoom.lookup peerId = lastPlace pool.threads peerId := by
    intro peerId
    obtain ⟨room, hat, -⟩ := hsettled peerId
    exact hat.link
  have hlisted : ∀ peerId roomId members, pool.shared.1.find roomId = some members →
      peerId ∈ members.peers → lastPlace pool.threads peerId = some roomId := by
    intro peerId roomId members hfind hmem
    obtain ⟨arc, harc, rfl⟩ := Option.map_eq_some_iff.mp hfind
    obtain ⟨room, hat, hroom⟩ := hsettled peerId
    obtain ⟨⟨roomId', arc'⟩, rfl, rfl⟩ := Option.map_eq_some_iff.mp ((hat.listed arc).mp hmem)
    rw [← hroom, pool.shared.1.rooms_inj harc (hat.mapped _ rfl)]
    rfl
  refine ⟨?_, ?_, ?_, hlink⟩
  · intro peerId roomId
    constructor
    · intro hroom
      have hplace := hsettled peerId
      rw [← hlink, hroom] at hplace
      obtain ⟨arc, hat⟩ := hplace.of_some
      refine ⟨pool.shared.1.heap arc, ?_, (hat.listed arc).mpr rfl⟩
      simp [find, hat.mapped _ rfl]
    · rintro ⟨members, hfind, hmem⟩
      rw [hlink]
      exact hlisted peerId roomId members hfind hmem
  · intro roomId members hfind
    obtain ⟨arc, -, rfl⟩ := Option.map_eq_some_iff.mp hfind
    exact h.nodup arc
  · intro peerId roomId roomId' members members' hfind hfind' hmem hmem'
    have hplace := hlisted peerId roomId members hfind hmem
    rw [hlisted peerId roomId' members' hfind' hmem'] at hplace
    exact (Option.some.inj hplace).symm

/-- **Consistency of the indexes**, if all sections are current. -/
theorem roomIndex_consistent (run : F → κ → Except JoinRejectionReason Unit × κ) (k : κ)
    {pool : RoomPool F κ}
    (hreach : (roomSystem run).Reach
      (fun pool act => RoomPool.Usage pool act ∧ RoomPool.Current run pool act)
      (RoomPool.initial k) pool)
    (hquiet : pool.Quiescent) : pool.Consistent :=
  (IndexInv.of_reach run k hreach).consistent hquiet

def acceptAll (_ : Unit) (k : Unit) : Except JoinRejectionReason Unit × Unit := (.ok (), k)

/-- Two peers join at the same time, the first one leaves and comes back to another room. -/
theorem roomIndex_consistent_two_joins :
    ∃ pool : RoomPool Unit Unit,
      pool.shared.1.peerToRoom.lookup "peer-1" = some "other"
        ∧ pool.shared.1.peerToRoom.lookup "peer-2" = some "room" ∧ pool.Consistent := by
  obtain ⟨pool, hreach, hdone, hfirst, hsecond⟩ := System.exists_reach_of_replay
    (roomSystem acceptAll)
    (fun pool act => RoomPool.Usage pool act ∧ RoomPool.Current acceptAll pool act)
    (RoomPool.initial ())
    [.start (.createRoom "room" .newP2p), .step 0 0,
      .start (.tryAddPeerWith "peer-1" "room" ()), .start (.tryAddPeerWith "peer-2" "room" ()),
      .step 1 0, .step 2 0, .step 1 0, .step 2 0, .step 2 0, .step 1 0,
      .start (.addPeer "peer-1" "other"), .step 3 0, .step 3 0, .step 3 0, .step 3 0, .step 3 0,
      .step 3 0, .step 3 0, .step 3 0]
    (fun pool => pool.Quiescent ∧ pool.shared.1.peerToRoom.lookup "peer-1" = some "other"
      ∧ pool.shared.1.peerToRoom.lookup "peer-2" = some "room") (by decide)
  exact ⟨pool, hfirst, hsecond, roomIndex_consistent acceptAll () hreach hdone⟩

/-- A join completes while the last peer of the room leaves, which then removes the room. -/
def lostJoin : List (RoomAct Unit) :=
  [.start (.createRoom "room" .newP2p), .step 0 0,
    .start (.tryAddPeerWith "peer-1" "room" ()), .step 1 0, .step 1 0, .step 1 0,
    .start (.removePeer "peer-1"), .step 2 0, .step 2 0, .step 2 0,
    .start (.tryAddPeerWith "peer-2" "room" ()), .step 3 0, .step 3 0, .step 3 0,
    .step 2 0]

theorem not_roomIndex_consistent :
    ¬ ∀ pool : RoomPool Unit Unit,
      (roomSystem acceptAll).Reach RoomPool.Usage (RoomPool.initial ()) pool →
      pool.Quiescent → pool.Consistent := by
  intro h
  obtain ⟨pool, hreach, hdone, hindex, hnone⟩ := System.exists_reach_of_replay
    (roomSystem acceptAll) RoomPool.Usage (RoomPool.initial ()) lostJoin
    (fun pool => pool.Quiescent ∧ pool.shared.1.peerToRoom.lookup "peer-2" = some "room"
      ∧ pool.shared.1.find "room" = none) (by decide)
  obtain ⟨members, hfind, -⟩ := ((h pool hreach hdone).index "peer-2" "room").mp hindex
  cases hnone.symm.trans hfind

end Wavis
