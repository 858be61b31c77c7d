import Wavis.Proof.Connections
import Wavis.Proof.VoiceMembership

/-! Whoever has a session of a channel and is still in the reverse index lives in the room that the
active-room map names for the channel. -/

namespace Wavis

open Concurrency InMemoryRoomState VoicePhase List

/-- The peer has joined voice in the channel and has not left. -/
def World.InVoice (w : World) (channelId : Uuid) (peerId : PeerId) : Prop :=
  w.channelOf peerId = some channelId ∧ w.roomState.peerToRoom.lookup peerId ≠ none

/-- What the phase says about the connection `peerId` of the thread's task. -/
def ConnPhase.Knows (w : World) (call : BackendCall) (peerId : PeerId) : ConnPhase → Prop
  | unknown => True
  | joined channelId =>
    ∃ connection, w.connections.lookup peerId = some connection
      ∧ connection.channelId = channelId
  | fresh =>
    ∃ connection, w.connections.lookup peerId = some connection ∧ connection.channelId = none
  | linked =>
    (∃ connection, w.connections.lookup peerId = some connection
      ∧ connection.channelId = none)
    ∧ ∀ channelId ∈ call.voiceChannel, ∀ roomId,
      w.roomState.peerToRoom.lookup peerId = some roomId →
      w.activeRoomMap.lookup channelId = some roomId

/-- The map keeps the entry of a channel while somebody lives in the room. -/
def KeepsActive (w w' : World) : Prop :=
  ∀ channelId roomId peerId, w.activeRoomMap.lookup channelId = some roomId →
    w.roomState.Resides peerId roomId → w'.activeRoomMap.lookup channelId = some roomId

/-- The reverse index gives the peer no other room. -/
def KeepsPointer (w w' : World) (peerId : PeerId) : Prop :=
  ∀ roomId, w'.roomState.peerToRoom.lookup peerId = some roomId →
    w.roomState.peerToRoom.lookup peerId = some roomId

theorem KeepsPointer.of_eq {w w' : World}
    (h : w'.roomState.peerToRoom = w.roomState.peerToRoom) (peerId : PeerId) :
    KeepsPointer w w' peerId := by
  rw [KeepsPointer, h]
  exact fun _ => id

/-- A thread that has pushed its peer has it in the active room of its channel. -/
def Pushing (w : World) (thread : BackendThread) : Prop :=
  ∀ peerId roomId, (voicePhase thread).custody = .pushed peerId roomId →
    thread.call.peer = some peerId ∧ ∀ channelId ∈ thread.call.voiceChannel,
      w.activeRoomMap.lookup channelId = some roomId

theorem ConnPhase.Knows.keep {w w' : World} {call : BackendCall} {peerId : PeerId}
    {φ : ConnPhase} (h : φ.Knows w call peerId) (hactive : KeepsActive w w')
    (hlinked : ∀ roomId, w.roomState.peerToRoom.lookup peerId = some roomId →
      w.roomState.Resides peerId roomId)
    (hconn : KeepsConnection w w' peerId) (hptr : KeepsPointer w w' peerId) :
    φ.Knows w' call peerId := by
  cases φ with
  | unknown => trivial
  | joined channelId | fresh =>
    obtain ⟨connection, hlookup, hchannel⟩ := h
    exact ⟨connection, hconn.lookup hlookup, hchannel⟩
  | linked =>
    obtain ⟨⟨connection, hlookup, hchannel⟩, hplaced⟩ := h
    refine ⟨⟨connection, hconn.lookup hlookup, hchannel⟩, ?_⟩
    intro channelId hmem roomId hlink
    have hlink' := hptr roomId hlink
    exact hactive channelId roomId peerId (hplaced channelId hmem roomId hlink')
      (hlinked roomId hlink')

structure SessionInv (pool : BackendPool) : Prop where
  own : ∀ thread ∈ pool.threads, thread.active = true → ∀ peerId,
    thread.call.peer = some peerId →
    (voicePhase thread).conn.Knows pool.shared thread.call peerId
  pushed : ∀ thread ∈ pool.threads, ∀ peerId roomId,
    (voicePhase thread).custody = .pushed peerId roomId →
    thread.call.peer = some peerId ∧ ∀ channelId ∈ thread.call.voiceChannel,
      pool.shared.activeRoomMap.lookup channelId = some roomId
  placed : ∀ peerId channelId roomId, pool.shared.channelOf peerId = some channelId →
    pool.shared.roomState.peerToRoom.lookup peerId = some roomId →
    pool.shared.activeRoomMap.lookup channelId = some roomId

variable {roomId : RoomId}

theorem InMemoryRoomState.Resides.not_vacant {state : InMemoryRoomState} {peerId : PeerId}
    (h : state.Resides peerId roomId) : ¬ state.Vacant roomId := by
  obtain ⟨arc, harc, hmem⟩ := h
  intro hvacant
  rw [hvacant (state.heap arc) (by simp [InMemoryRoomState.find, harc])] at hmem
  cases hmem

theorem keepsActive_step {pool : BackendPool} {i : Nat} {env : Env} {call : BackendCall}
    {trace : List ((o : Op) × o.Resp)} {o : Op} {rest : o.Resp → BackendProg call.Ret}
    {answer : o.Resp} {shared : World} (hlock : LockInv pool)
    (hget : pool.threads[i]? = some ⟨call, trace, .op o rest⟩)
    (hmay : VoicePhase.May call (voicePhase ⟨call, trace, .op o rest⟩) o)
    (hcurrent : pool.shared.VoiceCurrent call o)
    (hexec : o.exec env pool.shared = some (answer, shared)) :
    KeepsActive pool.shared shared := by
  intro channelId roomId peerId hactive hres
  have hknows := hlock.knows _ (mem_of_getElem? hget)
  cases o with
  | lockActiveRoom channelId' =>
    obtain ⟨-, -, rfl⟩ := Op.exec_lockActiveRoom hexec
    exact hactive
  | unlockActiveRoom =>
    cases hexec
    exact hactive
  | publishActiveRoom channelId' roomId' =>
    cases hexec
    have hvacant : (voicePhase _).lock = .vacant channelId' := hmay
    rw [hvacant] at hknows
    have hne : channelId ≠ channelId' := by
      rintro rfl
      rw [show pool.shared.activeRoomMap.lookup channelId = none from hknows] at hactive
      cases hactive
    exact (AList.lookup_insert_ne hne).trans hactive
  | evictActiveRoom channelId' =>
    cases hexec
    obtain ⟨roomId', hgone⟩ := hmay
    rw [hgone] at hknows
    have hne : channelId ≠ channelId' := by
      rintro rfl
      obtain rfl : roomId' = roomId := Option.some.inj (hknows.1.symm.trans hactive)
      exact hres.rooms_ne_none hknows.2
    exact (AList.lookup_erase_ne hne).trans hactive
  | removeActiveRoomIf channelId' roomId' =>
    obtain ⟨-, ⟨hentry, rfl⟩ | ⟨-, rfl⟩⟩ := Op.exec_removeActiveRoomIf hexec
    · have hne : channelId ≠ channelId' := by
        rintro rfl
        obtain rfl : roomId' = roomId := Option.some.inj (hentry.symm.trans hactive)
        exact hres.not_vacant (hcurrent hentry)
      exact (AList.lookup_erase_ne hne).trans hactive
    · exact hactive
  | _ =>
    rw [(Op.exec_activeRooms hexec rfl).1]
    exact hactive

namespace SessionInv

variable {pool : BackendPool}

theorem initial (config : Config) (db : ChannelDb) :
    SessionInv (BackendPool.initial config db) := by
  refine ⟨?_, ?_, ?_⟩
  · intro thread hthread
    cases hthread
  · intro thread hthread
    cases hthread
  · intro peerId channelId roomId h
    cases h

theorem start (h : SessionInv pool) (config : Config) (call : BackendCall) :
    SessionInv { pool with threads := pool.threads ++ [(backend config).spawn call] } := by
  refine ⟨?_, ?_, h.placed⟩
  · intro thread hthread hactive peerId hpeer
    rcases mem_append.mp hthread with hold | hnew
    · exact h.own thread hold hactive peerId hpeer
    · rw [mem_singleton] at hnew
      subst hnew
      trivial
  · intro thread hthread peerId roomId hpushed
    rcases mem_append.mp hthread with hold | hnew
    · exact h.pushed thread hold peerId roomId hpushed
    · rw [mem_singleton] at hnew
      subst hnew
      cases hpushed

section

variable {peerId : PeerId} {i : Nat} {old new : BackendThread} {shared : World}

theorem pushing {thread : BackendThread} (h : SessionInv pool) (hmember : MemberInv pool)
    (hactive : KeepsActive pool.shared shared) (hthread : thread ∈ pool.threads) :
    Pushing shared thread := by
  intro peerId roomId hcustody
  obtain ⟨hpeer, hentry⟩ := h.pushed thread hthread peerId roomId hcustody
  have hholds := hmember.holds thread hthread
  rw [hcustody] at hholds
  exact ⟨hpeer, fun channelId hchannel =>
    hactive channelId roomId peerId (hentry channelId hchannel) hholds.1⟩

theorem pushing_step (h : SessionInv pool) (hmember : MemberInv pool)
    (hget : pool.threads[i]? = some old) (hcall : new.call = old.call)
    (hcustody : (voicePhase new).custody = (voicePhase old).custody)
    (hactive : KeepsActive pool.shared shared) : Pushing shared new := by
  unfold Pushing
  rw [hcall, hcustody]
  exact h.pushing hmember hactive (mem_of_getElem? hget)

/-- A step that concerns nobody but the peer whose task the thread is. -/
theorem set (h : SessionInv pool) (who : Option PeerId) (hmember : MemberInv pool)
    (htasks : Exclusive (Thread.task BackendCall.peer) pool.threads)
    (hget : pool.threads[i]? = some old)
    (hwho : ∀ peerId, who = some peerId → Thread.task BackendCall.peer old = some peerId)
    (hactive : KeepsActive pool.shared shared)
    (hconn : ∀ peerId, who ≠ some peerId → KeepsConnection pool.shared shared peerId)
    (hptr : ∀ peerId, who ≠ some peerId → KeepsPointer pool.shared shared peerId)
    (hown : ∀ peerId, new.call.peer = some peerId →
      (voicePhase new).conn.Knows shared new.call peerId)
    (hpushed : Pushing shared new)
    (hplaced : ∀ peerId, who = some peerId → ∀ channelId roomId,
      shared.channelOf peerId = some channelId →
      shared.roomState.peerToRoom.lookup peerId = some roomId →
      shared.activeRoomMap.lookup channelId = some roomId) :
    SessionInv ⟨shared, pool.threads.set i new⟩ := by
  refine ⟨?_, ?_, ?_⟩
  · intro thread hthread hrunning peerId hpeer
    rcases mem_set_cases hthread with rfl | ⟨j, hji, hj⟩
    · exact hown peerId hpeer
    · have hne : who ≠ some peerId := by
        intro heq
        refine hji (htasks j i thread old peerId hj hget ?_ (hwho peerId heq))
        simp [Thread.task, hrunning, hpeer]
      exact (h.own thread (mem_of_getElem? hj) hrunning peerId hpeer).keep hactive
        (hmember.linked peerId) (hconn peerId hne) (hptr peerId hne)
  · intro thread hthread peerId roomId hcustody
    rcases mem_set_cases hthread with rfl | ⟨j, -, hj⟩
    · exact hpushed peerId roomId hcustody
    · exact h.pushing hmember hactive (mem_of_getElem? hj) peerId roomId hcustody
  · intro peerId channelId roomId hsession hlink
    by_cases hne : who = some peerId
    · exact hplaced peerId hne channelId roomId hsession hlink
    · rw [(hconn peerId hne).channelOf] at hsession
      have hlink' := hptr peerId hne roomId hlink
      exact hactive channelId roomId peerId (h.placed peerId channelId roomId hsession hlink')
        (hmember.linked peerId roomId hlink')

section

variable (h : SessionInv pool) (hmember : MemberInv pool)
  (htasks : Exclusive (Thread.task BackendCall.peer) pool.threads)
  (hget : pool.threads[i]? = some old)
include h hmember htasks hget

theorem quiet (hrunning : old.active = true) (hcall : new.call = old.call)
    (hphase : (voicePhase new).conn = (voicePhase old).conn)
    (hactive : KeepsActive pool.shared shared)
    (hconn : ∀ peerId, KeepsConnection pool.shared shared peerId)
    (hptr : ∀ peerId, KeepsPointer pool.shared shared peerId) (hpushed : Pushing shared new) :
    SessionInv ⟨shared, pool.threads.set i new⟩ := by
  refine h.set none hmember htasks hget (by simp) hactive (fun peerId _ => hconn peerId)
    (fun peerId _ => hptr peerId) ?_ hpushed (by simp)
  intro peerId hpeer
  rw [hphase, hcall]
  rw [hcall] at hpeer
  exact (h.own old (mem_of_getElem? hget) hrunning peerId hpeer).keep hactive
    (hmember.linked peerId) (hconn peerId) (hptr peerId)

theorem step_linkPeer (hrunning : old.active = true) (hcall : new.call = old.call)
    (hold : (voicePhase old).custody = .pushed peerId roomId)
    (hfresh : (voicePhase old).conn = .fresh) (hidle : (voicePhase new).custody = .idle)
    (hlinked : (voicePhase new).conn = .linked) (hactive : KeepsActive pool.shared shared)
    (hconn : shared.connections = pool.shared.connections)
    (hptr : shared.roomState.peerToRoom = pool.shared.roomState.peerToRoom.insert peerId roomId) :
    SessionInv ⟨shared, pool.threads.set i new⟩ := by
  have hmem := mem_of_getElem? hget
  obtain ⟨hpeer, hentry⟩ := h.pushing hmember hactive hmem _ _ hold
  obtain ⟨connection, hlookup, hchannel⟩ : ConnPhase.fresh.Knows pool.shared old.call peerId :=
    hfresh ▸ h.own old hmem hrunning peerId hpeer
  refine h.set (some peerId) hmember htasks hget ?_ hactive (fun _ _ => .of_eq hconn) ?_ ?_ ?_ ?_
  · rintro peerId' ⟨⟩
    simp [Thread.task, hrunning, hpeer]
  · intro peerId' hne roomId' hlink
    rw [hptr, AList.lookup_insert_ne (by rintro rfl; exact hne rfl)] at hlink
    exact hlink
  · intro peerId' hpeer'
    obtain rfl : peerId = peerId' := Option.some.inj (hpeer.symm.trans (hcall ▸ hpeer'))
    rw [hlinked, hcall]
    refine ⟨⟨connection, hconn ▸ hlookup, hchannel⟩, ?_⟩
    intro channelId hmem roomId' hlink
    rw [hptr, AList.lookup_insert] at hlink
    cases hlink
    exact hentry channelId hmem
  · intro peerId' roomId' hpushed
    rw [hidle] at hpushed
    cases hpushed
  · rintro peerId' ⟨⟩ channelId roomId' hsession
    rw [World.channelOf, hconn, hlookup] at hsession
    exact absurd (hchannel.symm.trans hsession) (by simp)

theorem step_getConnection (hcall : new.call = old.call) (hpeer : old.call.peer = some peerId)
    (hphase : (voicePhase new).conn = match pool.shared.connections.lookup peerId with
      | none => .unknown
      | some connection =>
        match connection.session with
        | none => .fresh
        | some session => .joined session.channelId)
    (hcustody : (voicePhase new).custody = (voicePhase old).custody)
    (hactive : KeepsActive pool.shared shared)
    (hconn : shared.connections = pool.shared.connections)
    (hstate : shared.roomState = pool.shared.roomState) :
    SessionInv ⟨shared, pool.threads.set i new⟩ := by
  refine h.set none hmember htasks hget (by simp) hactive (fun _ _ => .of_eq hconn)
    (fun peerId' _ => .of_eq (congrArg _ hstate) peerId') ?_
    (h.pushing_step hmember hget hcall hcustody hactive) (by simp)
  · intro peerId' hpeer'
    obtain rfl : peerId = peerId' := Option.some.inj (hpeer.symm.trans (hcall ▸ hpeer'))
    rw [hphase]
    split
    · trivial
    · rename_i connection hlookup
      split
      · rename_i hsession
        refine ⟨connection, hconn ▸ hlookup, ?_⟩
        rw [Connection.channelId, hsession]
        rfl
      · rename_i session hsession
        refine ⟨connection, hconn ▸ hlookup, ?_⟩
        rw [Connection.channelId, hsession]
        rfl

section

variable (hrunning : old.active = true) (hcall : new.call = old.call)
  (hpeer : old.call.peer = some peerId)
include hrunning hcall hpeer

theorem step_setSession {session : SignalingSession}
    (hbefore : (voicePhase old).conn = .linked ∧ session.channelId = old.call.voiceChannel
      ∨ (voicePhase old).conn = .joined session.channelId)
    (hphase : (voicePhase new).conn = .joined session.channelId)
    (hcustody : (voicePhase new).custody = (voicePhase old).custody)
    (hactive : shared.activeRoomMap = pool.shared.activeRoomMap)
    (hconn : ∀ peerId', shared.connections.lookup peerId' = if peerId' = peerId
      then (pool.shared.connections.lookup peerId).map fun connection =>
        { connection with session := some session }
      else pool.shared.connections.lookup peerId')
    (hstate : shared.roomState = pool.shared.roomState) :
    SessionInv ⟨shared, pool.threads.set i new⟩ := by
  have hkeeps : KeepsActive pool.shared shared := by
    intro channelId roomId peerId hentry _
    rw [hactive]
    exact hentry
  have hmem := mem_of_getElem? hget
  have hknown := h.own old hmem hrunning peerId hpeer
  obtain ⟨connection, hlookup, hplaced⟩ : ∃ connection,
      pool.shared.connections.lookup peerId = some connection ∧ ∀ channelId roomId,
        session.channelId = some channelId →
        pool.shared.roomState.peerToRoom.lookup peerId = some roomId →
        pool.shared.activeRoomMap.lookup channelId = some roomId := by
    rcases hbefore with ⟨hlinked, hchannel⟩ | hjoined
    · rw [hlinked] at hknown
      obtain ⟨⟨connection, hlookup, -⟩, hplaced⟩ := hknown
      exact ⟨connection, hlookup, fun channelId roomId heq =>
        hplaced channelId (hchannel.symm.trans heq) roomId⟩
    · rw [hjoined] at hknown
      obtain ⟨connection, hlookup, hchannel⟩ := hknown
      refine ⟨connection, hlookup, fun channelId roomId heq => h.placed peerId channelId roomId ?_⟩
      rw [World.channelOf, hlookup]
      exact hchannel.trans heq
  have hnew : shared.connections.lookup peerId
      = some { connection with session := some session } := by
    rw [hconn, if_pos rfl, hlookup]
    rfl
  refine h.set (some peerId) hmember htasks hget ?_ hkeeps ?_
    (fun peerId' _ => .of_eq (congrArg _ hstate) peerId') ?_
    (h.pushing_step hmember hget hcall hcustody hkeeps) ?_
  · rintro peerId' ⟨⟩
    simp [Thread.task, hrunning, hpeer]
  · intro peerId' hne
    refine Or.inl ?_
    rw [hconn, if_neg (by rintro rfl; exact hne rfl)]
  · intro peerId' hpeer'
    obtain rfl : peerId = peerId' := Option.some.inj (hpeer.symm.trans (hcall ▸ hpeer'))
    rw [hphase]
    exact ⟨_, hnew, rfl⟩
  · rintro peerId' ⟨⟩ channelId roomId hsession hlink
    rw [World.channelOf, hnew] at hsession
    rw [hstate] at hlink
    rw [hactive]
    exact hplaced channelId roomId hsession hlink

theorem step_closeConnection (hphase : (voicePhase new).conn = .unknown)
    (hcustody : (voicePhase new).custody = (voicePhase old).custody)
    (hactive : KeepsActive pool.shared shared)
    (hconn : shared.connections = pool.shared.connections.erase peerId)
    (hstate : shared.roomState = pool.shared.roomState) :
    SessionInv ⟨shared, pool.threads.set i new⟩ := by
  refine h.set (some peerId) hmember htasks hget ?_ hactive ?_
    (fun peerId' _ => .of_eq (congrArg _ hstate) peerId') ?_
    (h.pushing_step hmember hget hcall hcustody hactive) ?_
  · rintro peerId' ⟨⟩
    simp [Thread.task, hrunning, hpeer]
  · intro peerId' hne
    refine .inl ?_
    rw [hconn, AList.lookup_erase_ne (by rintro rfl; exact hne rfl)]
  · intro peerId' _
    rw [hphase]
    trivial
  · rintro peerId' ⟨⟩ channelId roomId hsession
    rw [World.channelOf, hconn, AList.lookup_erase] at hsession
    cases hsession

end

end

variable {env : Env} {call : BackendCall} {trace : List ((o : Op) × o.Resp)} {o : Op}
  {rest : o.Resp → BackendProg call.Ret} {answer : o.Resp}

theorem step (h : SessionInv pool) (hlock : LockInv pool) (hmember : MemberInv pool)
    (hids : pool.shared.IdsGivenOut)
    (htasks : Exclusive (Thread.task BackendCall.peer) pool.threads)
    (hget : pool.threads[i]? = some ⟨call, trace, .op o rest⟩)
    (hmay : VoicePhase.May call (voicePhase ⟨call, trace, .op o rest⟩) o)
    (hcurrent : pool.shared.VoiceCurrent call o)
    (hexec : o.exec env pool.shared = some (answer, shared)) :
    SessionInv ⟨shared, pool.threads.set i ⟨call, trace ++ [⟨o, answer⟩], rest answer⟩⟩ := by
  have hphase := voicePhase_step call trace o rest answer
  have hactive := keepsActive_step hlock hget hmay hcurrent hexec
  have hmem := mem_of_getElem? hget
  have hpushed : (∀ arc peerId f, o ≠ .room (.tryPush arc peerId f)) →
      Pushing shared ⟨call, trace ++ [⟨o, answer⟩], rest answer⟩ := by
    intro ho peerId roomId hcustody
    rw [hphase] at hcustody
    exact h.pushing hmember hactive hmem _ _ (Custody.pushed_of_next hcustody ho)
  cases o with
  | room ro =>
    have hroom := Op.exec_room hexec
    have hconn := (Op.exec_connections hexec rfl).1
    cases ro with
    | linkPeer peerId roomId =>
      have hstate := (Prod.mk.inj (Prod.mk.inj hroom).2).1
      refine h.step_linkPeer hmember htasks hget rfl rfl hmay.1 hmay.2 ?_ ?_ hactive hconn ?_
      · rw [hphase, next_linkPeer]
      · rw [hphase, next_linkPeer]
      · rw [← hstate]
        rfl
    | tryPush arc peerId f =>
      obtain ⟨⟨roomId, htarget⟩, hpeer, hchannel, -⟩ := hmay
      refine h.quiet hmember htasks hget rfl rfl (by rw [hphase]; rfl) hactive
        (fun _ => .of_eq hconn) (.of_eq (RoomOp.exec_peerToRoom hroom (by simp) (by simp))) ?_
      intro peerId' roomId' hcustody
      rcases MemberInv.tryPush_cases hexec hcurrent.1 with
        ⟨⟨reason, rfl⟩, -⟩ | ⟨⟨count, rfl⟩, hnotfull, -⟩
      · rw [hphase, VoicePhase.next, htarget] at hcustody
        cases hcustody
      · rw [hphase, VoicePhase.next, htarget] at hcustody
        cases hcustody
        have hknown := hmember.holds _ hmem
        rw [htarget] at hknown
        refine ⟨hpeer, fun channelId hmem' => ?_⟩
        rw [(Op.exec_activeRooms hexec rfl).1]
        exact (hknown.target_current hcurrent hnotfull hmem').1
    | unlinkPeer peerId =>
      have hstate := (Prod.mk.inj (Prod.mk.inj hroom).2).1
      refine h.quiet hmember htasks hget rfl rfl (by rw [hphase]; rfl) hactive
        (fun _ => .of_eq hconn) (fun peerId' roomId hlink => ?_) (hpushed (by simp))
      rw [← hstate] at hlink
      exact lookup_of_unlinkPeer hlink
    | _ =>
      exact h.quiet hmember htasks hget rfl rfl (by rw [hphase]; rfl) hactive
        (fun _ => .of_eq hconn) (.of_eq (RoomOp.exec_peerToRoom hroom (by simp) (by simp)))
        (hpushed (by simp))
  | accept userId =>
    have hconn := fun peerId => hids.keepsConnection_accept hexec peerId
    cases hexec
    exact h.quiet hmember htasks hget rfl rfl (by rw [hphase]; rfl) hactive hconn
      (fun _ _ => id) (hpushed (by simp))
  | getConnection peerId =>
    cases hexec
    refine h.step_getConnection hmember htasks hget rfl hmay ?_ ?_ hactive rfl rfl
    · rw [hphase, next_getConnection]
      rfl
    · rw [hphase, next_getConnection]
  | setUser peerId userId => exact hmay.elim
  | setSession peerId session =>
    cases hexec
    refine h.step_setSession hmember htasks hget rfl rfl hmay.1 hmay.2 ?_ ?_ ?_ ?_ ?_
    · rw [hphase, next_setSession]
    · rw [hphase, next_setSession]
    · exact World.setConnection_activeRoomMap _ _ _
    · exact World.lookup_setConnection
    · exact World.setConnection_roomState _ _ _
  | closeConnection peerId =>
    cases hexec
    refine h.step_closeConnection hmember htasks hget rfl rfl hmay ?_ ?_ hactive rfl rfl
    · rw [hphase, next_closeConnection]
    · rw [hphase, next_closeConnection]
  | _ =>
    have hsame : shared.roomState = pool.shared.roomState := by
      rcases Op.exec_roomState hexec with hsame | ⟨ro, hro, -⟩
      · exact hsame
      · cases hro
    exact h.quiet hmember htasks hget rfl rfl (by rw [hphase]; rfl) hactive
      (fun _ => .of_eq (Op.exec_connections hexec rfl).1) (.of_eq (congrArg _ hsame))
      (hpushed (by simp))

end

theorem of_reach {config : Config} {db : ChannelDb} {allowed : BackendPool → BackendAct → Prop}
    (husage : ∀ pool act, allowed pool act → pool.Usage act)
    (hvoice : ∀ pool call, allowed pool (.start call) → call.isVoice = true)
    (hcurrent : ∀ pool act, allowed pool act → pool.VoiceCurrent act)
    (hreach : (backend config).Reach allowed (BackendPool.initial config db) pool) :
    SessionInv pool := by
  -- Where a step starts, all that is known of the pools of the run is known.
  have hstrong := hreach.strengthen (I := fun pool => LockInv pool ∧ MemberInv pool
      ∧ pool.shared.IdsGivenOut ∧ Exclusive (Thread.task BackendCall.peer) pool.threads)
    fun pool hreach => ⟨LockInv.of_reach hvoice hreach, MemberInv.of_reach hvoice hcurrent hreach,
      idsGivenOut_of_reach hreach, exclusive_peer_of_reach husage hreach⟩
  refine (System.Reach.invariant (P := voiceProtocol)
    (fun pool call hstart => voiceCall_holds config (hvoice pool call hstart.1)) rfl
    (SessionInv.initial config db) ?_ ?_ hstrong).1
  · intro pool call h _
    exact h.start config call
  · rintro pool i env call trace o rest answer shared h
      ⟨hallowed, hlock, hmember, hids, htasks⟩ hget hmay - hexec
    exact h.step hlock hmember hids htasks hget hmay ((hcurrent pool _ hallowed).op hget) hexec

end SessionInv

/-- All who are in voice in the channel are in one room, and the map names it. -/
def World.OneActiveRoom (w : World) (channelId : Uuid) : Prop :=
  ∃ roomId, ∀ peerId, w.InVoice channelId peerId →
    w.activeRoomMap.lookup channelId = some roomId
      ∧ ∃ members ∈ w.roomState.find roomId, peerId ∈ members.peers

/-- **One active room per channel.** -/
theorem oneActiveRoom_of_current (config : Config) (db : ChannelDb) (pool : BackendPool)
    (hreach : (backend config).Reach
      (fun pool act => BackendPool.VoiceUsage pool act ∧ BackendPool.VoiceCurrent pool act)
      (BackendPool.initial config db) pool) (channelId : Uuid) :
    pool.shared.OneActiveRoom channelId := by
  have hvoice : ∀ (pool : BackendPool) (call : BackendCall),
      BackendPool.VoiceUsage pool (.start call) ∧ BackendPool.VoiceCurrent pool (.start call) →
      call.isVoice = true := fun pool call h => h.1.2
  have hsession := SessionInv.of_reach (fun pool act h => h.1.1) hvoice (fun pool act h => h.2)
    hreach
  have hmember := MemberInv.of_reach hvoice (fun pool act h => h.2) hreach
  have hplaced : ∀ peerId, pool.shared.InVoice channelId peerId → ∃ roomId,
      pool.shared.activeRoomMap.lookup channelId = some roomId
        ∧ ∃ members ∈ pool.shared.roomState.find roomId, peerId ∈ members.peers := by
    rintro peerId ⟨hchannel, hlinked⟩
    obtain ⟨roomId, hlink⟩ := Option.ne_none_iff_exists'.mp hlinked
    obtain ⟨arc, harc, hmem⟩ := hmember.linked peerId roomId hlink
    exact ⟨roomId, hsession.placed peerId channelId roomId hchannel hlink,
      pool.shared.roomState.heap arc, by simp [InMemoryRoomState.find, harc], hmem⟩
  cases hentry : pool.shared.activeRoomMap.lookup channelId with
  | none =>
    refine ⟨"", fun peerId hpeer => ?_⟩
    obtain ⟨roomId, hactive, -⟩ := hplaced peerId hpeer
    exact absurd (hentry.symm.trans hactive) (by simp)
  | some roomId =>
    refine ⟨roomId, fun peerId hpeer => ?_⟩
    obtain ⟨roomId', hactive, hmembers⟩ := hplaced peerId hpeer
    obtain rfl : roomId = roomId' := Option.some.inj (hentry.symm.trans hactive)
    exact ⟨hentry, hmembers⟩

def joinedMeanwhile : List BackendAct :=
  opens 0 (some alice) ++ opens 1 (some bob)
    ++ .start (.message "peer-1" joinLobby) :: List.replicate 13 (.step 2 {})
    ++ .start (.message "peer-2" joinLobby) :: List.replicate 35 (.step 3 {})

theorem oneActiveRoom_of_current_two_joins :
    ∃ pool : BackendPool, pool.shared.InVoice lobby "peer-1" ∧ pool.shared.InVoice lobby "peer-2"
      ∧ pool.shared.OneActiveRoom lobby := by
  obtain ⟨pool, hreach, hchannel₁, hlinked₁, hchannel₂, hlinked₂⟩ :=
    System.exists_reach_of_replay (backend openServer)
    (fun pool act => BackendPool.VoiceUsage pool act ∧ BackendPool.VoiceCurrent pool act)
    (BackendPool.initial openServer lobbyDb) (joinedMeanwhile ++ replicate 26 (.step 2 {}))
    (fun pool => pool.shared.channelOf "peer-1" = some lobby
      ∧ (pool.shared.roomState.peerToRoom.lookup "peer-1").isSome = true
      ∧ pool.shared.channelOf "peer-2" = some lobby
      ∧ (pool.shared.roomState.peerToRoom.lookup "peer-2").isSome = true) (by decide)
  exact ⟨pool, ⟨hchannel₁, Option.isSome_iff_ne_none.mp hlinked₁⟩,
    ⟨hchannel₂, Option.isSome_iff_ne_none.mp hlinked₂⟩,
    oneActiveRoom_of_current openServer lobbyDb pool hreach lobby⟩

/-- The bridge turns the owner away after the member has joined, and the rollback takes the entry.
-/
theorem not_oneActiveRoom :
    ¬ ∀ (config : Config) (db : ChannelDb) (pool : BackendPool),
      (backend config).Reach BackendPool.VoiceUsage (BackendPool.initial config db) pool →
      pool.Quiescent → ∀ channelId, pool.shared.OneActiveRoom channelId := by
  intro h
  obtain ⟨pool, hreach, hquiescent, hchannel, hlinked, hentry⟩ :=
    System.exists_reach_of_replay (backend openServer)
    BackendPool.VoiceUsage (BackendPool.initial openServer lobbyDb)
    (joinedMeanwhile ++ .step 2 { sfuFault := some (.unavailable "") }
      :: .replicate 3 (.step 2 {}))
    (fun pool => pool.Quiescent ∧ pool.shared.channelOf "peer-2" = some lobby
      ∧ (pool.shared.roomState.peerToRoom.lookup "peer-2").isSome = true
      ∧ pool.shared.activeRoomMap.lookup lobby = none) (by decide)
  obtain ⟨roomId, hroom⟩ := h openServer lobbyDb pool hreach hquiescent lobby
  obtain ⟨hactive, -⟩ := hroom "peer-2" ⟨hchannel, Option.isSome_iff_ne_none.mp hlinked⟩
  exact absurd (hentry.symm.trans hactive) (by simp)

end Wavis
