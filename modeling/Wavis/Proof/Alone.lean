import Wavis.Concurrency.Sequential
import Wavis.Proof.Actions

/-! While no other call runs, a function of the room state that takes several sections has one
effect, which is said here as an update of the state. -/

namespace Wavis

open Concurrency InMemoryRoomState World

open RoomOp (exec)

namespace InMemoryRoomState

variable (state : InMemoryRoomState)

def editRoom (roomId : RoomId) (edit : InfoEdit) (now : Instant) : InMemoryRoomState :=
  match state.rooms.lookup roomId with
  | none => state
  | some arc => state.setMembers arc ((state.heap arc).edit edit now)

def enter (peerId : PeerId) (roomId : RoomId) : InMemoryRoomState :=
  match state.rooms.lookup roomId with
  | none => state
  | some arc => (state.setMembers arc ((state.heap arc).push peerId)).linkPeer peerId roomId

def dropPeer (peerId : PeerId) (removeEmptyRoom : Bool) : InMemoryRoomState :=
  match state.peerToRoom.lookup peerId with
  | none => state.unlinkPeer peerId
  | some roomId =>
    match state.rooms.lookup roomId with
    | none => state.unlinkPeer peerId
    | some arc =>
      let members := (state.heap arc).retain peerId
      let left := (state.unlinkPeer peerId).setMembers arc members
      if removeEmptyRoom && members.peers.isEmpty then left.eraseRoom roomId else left

variable {state} {roomId roomId' : RoomId} {peerId peerId' : PeerId}

theorem find_setMembers_eq (arc : ArcId) (members : RoomMembers) :
    (state.setMembers arc members).find roomId
      = if state.rooms.lookup roomId = some arc then some members else state.find roomId := by
  unfold find setMembers
  cases state.rooms.lookup roomId with
  | none => simp
  | some arc' => by_cases harc : arc' = arc <;> simp [harc]

theorem find_insertRoom_eq (info : RoomInfo) :
    (state.insertRoom roomId' info).find roomId
      = if roomId = roomId' then some ⟨[], info⟩ else state.find roomId := by
  split_ifs with hroom
  · subst hroom
    simp [find, insertRoom]
  · unfold find insertRoom
    rw [AList.lookup_insert_ne hroom]
    cases hlookup : state.rooms.lookup roomId with
    | none => rfl
    | some arc =>
      have hne : arc ≠ state.nextArc := Nat.ne_of_lt (state.rooms_lt hlookup)
      simp [hne]

theorem find_eraseRoom_eq :
    (state.eraseRoom roomId').find roomId
      = if roomId = roomId' then none else state.find roomId := by
  split_ifs with hroom
  · subst hroom
    simp [find, eraseRoom]
  · unfold find eraseRoom
    rw [AList.lookup_erase_ne hroom]

@[simp] theorem find_linkPeer : (state.linkPeer peerId roomId').find roomId = state.find roomId :=
  rfl

@[simp] theorem find_unlinkPeer : (state.unlinkPeer peerId).find roomId = state.find roomId := rfl

theorem find_editRoom (edit : InfoEdit) (now : Instant) :
    (state.editRoom roomId' edit now).find roomId
      = if roomId = roomId' then (state.find roomId).map (·.edit edit now)
        else state.find roomId := by
  unfold editRoom
  cases hroom' : state.rooms.lookup roomId' with
  | none =>
    split_ifs with hroom
    · subst hroom
      simp [find, hroom']
    · rfl
  | some arc =>
    rw [find_setMembers_eq]
    split_ifs with harc hroom hroom
    · subst hroom
      simp [find, hroom']
    · exact absurd (state.rooms_inj harc hroom') hroom
    · subst hroom
      exact absurd hroom' harc
    · rfl

theorem find_editRoom_self {members : RoomMembers} (h : state.find roomId = some members)
    (edit : InfoEdit) (now : Instant) :
    (state.editRoom roomId edit now).find roomId = some (members.edit edit now) := by
  rw [find_editRoom, if_pos rfl, h]
  rfl

@[simp] theorem editRoom_peerToRoom (edit : InfoEdit) (now : Instant) :
    (state.editRoom roomId' edit now).peerToRoom = state.peerToRoom := by
  unfold editRoom
  split <;> rfl

theorem find_enter :
    (state.enter peerId roomId').find roomId
      = if roomId = roomId' then (state.find roomId).map (·.push peerId)
        else state.find roomId := by
  unfold enter
  cases hroom' : state.rooms.lookup roomId' with
  | none =>
    split_ifs with hroom
    · subst hroom
      simp [find, hroom']
    · rfl
  | some arc =>
    rw [find_linkPeer, find_setMembers_eq]
    split_ifs with harc hroom hroom
    · subst hroom
      simp [find, hroom']
    · exact absurd (state.rooms_inj harc hroom') hroom
    · subst hroom
      exact absurd hroom' harc
    · rfl

theorem lookup_enter (h : (state.find roomId).isSome) :
    (state.enter peerId roomId).peerToRoom.lookup peerId'
      = if peerId' = peerId then some roomId else state.peerToRoom.lookup peerId' := by
  obtain ⟨members, hfind⟩ := Option.isSome_iff_exists.mp h
  obtain ⟨arc, harc, -⟩ := find_eq_some.mp hfind
  simp only [enter, harc, linkPeer, setMembers]
  split_ifs with heq
  · subst heq
    exact AList.lookup_insert _
  · exact AList.lookup_insert_ne heq

theorem find_dropPeer (removeEmptyRoom : Bool) :
    (state.dropPeer peerId removeEmptyRoom).find roomId
      = if state.peerToRoom.lookup peerId = some roomId then
          ((state.find roomId).map (·.retain peerId)).filter
            fun members => !(removeEmptyRoom && members.peers.isEmpty)
        else state.find roomId := by
  unfold dropPeer
  cases hindex : state.peerToRoom.lookup peerId with
  | none => simp
  | some roomId' =>
    simp only [Option.some.injEq]
    cases hroom' : state.rooms.lookup roomId' with
    | none =>
      split_ifs with hroom
      · subst hroom
        simp [find, unlinkPeer, hroom']
      · rfl
    | some arc =>
      dsimp only
      by_cases hroom : roomId' = roomId
      · subst hroom
        rw [if_pos rfl]
        have hfind : state.find roomId' = some (state.heap arc) :=
          find_eq_some.mpr ⟨arc, hroom', rfl⟩
        rw [hfind, Option.map_some, Option.filter_some]
        split_ifs with hempty hfilter hfilter
        · simp [hempty] at hfilter
        · rw [find_eraseRoom_eq, if_pos rfl]
        · rw [find_setMembers_eq]
          simp [unlinkPeer, hroom']
        · simp [hempty] at hfilter
      · have harc : state.rooms.lookup roomId ≠ some arc :=
          fun h => hroom (state.rooms_inj hroom' h)
        rw [if_neg hroom]
        split_ifs
        · rw [find_eraseRoom_eq, if_neg (Ne.symm hroom), find_setMembers_eq]
          exact if_neg harc
        · rw [find_setMembers_eq]
          exact if_neg harc

@[simp] theorem lookup_dropPeer (removeEmptyRoom : Bool) :
    (state.dropPeer peerId removeEmptyRoom).peerToRoom.lookup peerId'
      = if peerId' = peerId then none else state.peerToRoom.lookup peerId' := by
  have herase : (state.dropPeer peerId removeEmptyRoom).peerToRoom
      = state.peerToRoom.erase peerId := by
    unfold dropPeer
    split
    · rfl
    · split
      · rfl
      · dsimp only
        split_ifs <;> rfl
  rw [herase]
  split_ifs with heq
  · subst heq
    exact AList.lookup_erase _ _
  · exact AList.lookup_erase_ne heq

end InMemoryRoomState

/-- Run alone, the program returns only with a value and in a state that satisfy `post`. -/
abbrev BackendProg.Alone {α : Type} (program : BackendProg α) (ok : Op → Env → Prop)
    (post : α → World → Prop) (w : World) : Prop :=
  program.Ensures Op.exec ok post w

def Op.keepsRooms : Op → Bool
  | room (.getRoom _) => true
  | room (.checkEmpty _) => true
  | room (.getRoomForPeer _) => true
  | room (.readRoom _) => true
  | room (.roomsNeedingTokenRefresh _) => true
  | room _ => false
  | _ => true

abbrev BackendProg.KeepsRooms {α : Type} (program : BackendProg α) : Prop :=
  program.Within fun o => o.keepsRooms = true

theorem Op.keepsRooms_of_quiet {o : Op} (h : o.quiet = true) : o.keepsRooms = true := by
  cases o with
  | room o => cases o <;> first | rfl | cases h
  | _ => rfl

variable {α : Type} {program : BackendProg α}

theorem BackendProg.Quiet.keepsRooms (h : program.Quiet) : program.KeepsRooms :=
  h.mono fun _ => Op.keepsRooms_of_quiet

variable {w w' : World}

theorem Op.roomState_of_keepsRooms {o : Op} {env : Env} {answer : o.Resp}
    (h : o.keepsRooms = true) (hexec : o.exec env w = some (answer, w')) :
    w'.roomState = w.roomState := by
  rcases Op.exec_roomState hexec with hsame | ⟨ro, rfl, hroom⟩
  · exact hsame
  · rw [hroom]
    cases ro <;> first | rfl | cases h

variable {ok : Op → Env → Prop} {β : Type} {post : β → World → Prop}

theorem BackendProg.KeepsRooms.alone (h : program.KeepsRooms) :
    program.Alone ok (fun _ w' => w'.roomState = w.roomState) w :=
  h.ensures rfl fun hkeeps hsame hexec => (Op.roomState_of_keepsRooms hkeeps hexec).trans hsame

theorem BackendProg.KeepsRooms.alone_bind {f : α → BackendProg β} (h : program.KeepsRooms)
    (hrooms : w'.roomState = w.roomState)
    (hf : ∀ a w'', w''.roomState = w.roomState → (f a).Alone ok post w'') :
    (program >>= f).Alone ok post w' :=
  h.alone.bind fun a w'' hrooms' => hf a w'' (hrooms'.trans hrooms)

theorem alone_bind_of_keepsRooms {o : Op} {f : o.Resp → BackendProg β} (h : o.keepsRooms = true)
    (hrooms : w'.roomState = w.roomState)
    (hf : ∀ answer w'', w''.roomState = w.roomState → (f answer).Alone ok post w'') :
    (Op.perform o >>= f).Alone ok post w' :=
  BackendProg.KeepsRooms.alone_bind (within_perform h) hrooms hf

abbrev BackendProg.KeepsMap {α : Type} (program : BackendProg α) : Prop :=
  program.Within fun o => o.onActiveRooms = false

theorem BackendProg.KeepsMap.alone (h : program.KeepsMap) :
    program.Alone ok (fun _ w' => w'.activeRoomMap = w.activeRoomMap) w :=
  h.ensures rfl fun hkeeps hsame hexec => (Op.exec_activeRooms hexec hkeeps).1.trans hsame

def World.withRooms (w : World) (state : InMemoryRoomState) (clock : Instant) : World :=
  { w with roomState := state, clock }

def World.later (w : World) (clock : Instant) : World := { w with clock }

section

variable (roomId : RoomId) (peerId : PeerId)

theorem alone_getRoomForPeer :
    (roomState (getRoomForPeer peerId)).Alone ok
      (fun room w' => ∃ clock, w' = w.later clock
        ∧ room = w.roomState.peerToRoom.lookup peerId) w := by
  intro env answer w' _ hexec
  cases hexec
  exact ⟨_, rfl, rfl⟩

theorem alone_getRoomInfo :
    (roomState (getRoomInfo roomId)).Alone ok
      (fun info w' => ∃ clock, w' = w.later clock
        ∧ info = (w.roomState.find roomId).map (·.info)) w := by
  intro env answer w' _ hexec
  cases hexec
  exact ⟨_, rfl, rfl⟩

theorem alone_getPeersInRoom :
    (roomState (getPeersInRoom roomId)).Alone ok
      (fun peers w' => ∃ clock, w' = w.later clock
        ∧ peers = ((w.roomState.find roomId).map (·.peers)).getD []) w := by
  intro env answer w' _ hexec
  cases hexec
  exact ⟨_, rfl, rfl⟩

theorem alone_peerCount :
    (roomState (peerCount roomId)).Alone ok
      (fun count w' => ∃ clock, w' = w.later clock
        ∧ count = (((w.roomState.find roomId).map (·.peers)).getD []).length) w := by
  intro env answer w' _ hexec
  cases hexec
  exact ⟨_, rfl, rfl⟩

theorem alone_room {o : RoomOp JoinCheck} {next : o.Resp → BackendProg β}
    (h : ∀ clock, (next (o.exec (JoinCheck.run clock) clock (w.roomState, w.inviteStore)).1).Alone
      ok post { w with
        roomState := (o.exec (JoinCheck.run clock) clock (w.roomState, w.inviteStore)).2.1
        inviteStore := (o.exec (JoinCheck.run clock) clock (w.roomState, w.inviteStore)).2.2
        clock }) : BackendProg.Alone (.op (.room o) next) ok post w := by
  intro env answer w' _ hexec
  cases hexec
  exact h _

theorem alone_createRoom (info : RoomInfo) :
    (roomState (createRoom roomId info)).Alone ok
      (fun isNew w' => ∃ clock, isNew = (w.roomState.find roomId).isNone
        ∧ w' = w.withRooms
          (if isNew then w.roomState.insertRoom roomId info else w.roomState) clock) w := by
  refine alone_room fun clock => ?_
  refine ⟨clock, ?_⟩
  cases hroom : w.roomState.rooms.lookup roomId with
  | none => exact ⟨by simp [exec, find, hroom], by simp [exec, hroom, withRooms]⟩
  | some arc =>
    exact ⟨by simp [exec, find, hroom], by simp [exec, hroom, withRooms]⟩

theorem alone_updateRoomInfo (edit : InfoEdit) :
    (roomState (updateRoomInfo roomId edit)).Alone ok
      (fun before w' => ∃ clock, before = (w.roomState.find roomId).map (·, clock)
        ∧ w' = w.withRooms (w.roomState.editRoom roomId edit clock) clock) w := by
  refine alone_room fun clock => ?_
  refine ⟨clock, ?_⟩
  cases hroom : w.roomState.rooms.lookup roomId with
  | none | some arc =>
    exact ⟨by simp [exec, find, hroom],
      by simp [exec, hroom, withRooms, editRoom]⟩

theorem alone_withRoomWrite (edit : InfoEdit) :
    (roomState (withRoomWrite roomId edit)).Alone ok
      (fun before w' => ∃ clock, before = (w.roomState.find roomId).map (·, clock)
        ∧ w' = w.withRooms (w.roomState.editRoom roomId edit clock) clock) w := by
  refine alone_room fun clock => ?_
  cases hroom : w.roomState.rooms.lookup roomId with
  | none =>
    simp only [exec, hroom]
    exact ⟨clock, by simp [find, hroom], by simp [withRooms, editRoom, hroom]⟩
  | some arc =>
    simp only [exec, hroom]
    refine alone_room fun clock => ?_
    exact ⟨clock, by simp [exec, find, hroom],
      by simp [exec, withRooms, editRoom, hroom]⟩

theorem roomState_bind {α β : Type} (program : RoomProg JoinCheck α)
    (f : α → RoomProg JoinCheck β) :
    roomState (program >>= f) = (roomState program >>= fun a => roomState (f a)) :=
  Prog.lift_bind program f

theorem alone_isParticipantRevoked (window : Duration) :
    (roomState (isParticipantRevoked roomId peerId window)).Alone ok (fun _ w' => ∃ clock,
      w' = w.withRooms (w.roomState.editRoom roomId (.isParticipantRevoked peerId window) clock)
        clock) w := by
  unfold isParticipantRevoked
  rw [roomState_bind]
  refine (alone_withRoomWrite roomId (.isParticipantRevoked peerId window)).bind ?_
  rintro before _ ⟨clock, rfl, rfl⟩
  cases w.roomState.find roomId <;> exact ⟨clock, rfl⟩

theorem alone_sign (mode : TokenMode) (identity displayName : String) :
    (Op.perform (.sign peerId mode roomId identity displayName)).Alone ok
      (fun _ w' => ∃ clock history, w' = { w with clock, history }) w := by
  intro env answer w' _ hexec
  simp only [Op.exec, Op.run, World.signed] at hexec
  split at hexec <;> cases hexec <;> exact ⟨_, _, rfl⟩

theorem alone_signViewer (mode : TokenMode) (identity : String) :
    (Op.perform (.signViewer peerId mode roomId identity)).Alone ok
      (fun _ w' => ∃ clock history, w' = { w with clock, history }) w := by
  intro env answer w' _ hexec
  simp only [Op.exec, Op.run, World.signed] at hexec
  split at hexec <;> cases hexec <;> exact ⟨_, _, rfl⟩

theorem alone_removePeerInternal (removeEmptyRoom : Bool) :
    (roomState (removePeerInternal peerId removeEmptyRoom)).Alone ok
      (fun _ w' => ∃ clock,
        w' = w.withRooms (w.roomState.dropPeer peerId removeEmptyRoom) clock) w := by
  refine alone_room fun clock => ?_
  cases hindex : w.roomState.peerToRoom.lookup peerId with
  | none =>
    simp only [exec, hindex]
    exact ⟨clock, by simp [withRooms, dropPeer, hindex]⟩
  | some roomId =>
    simp only [exec, hindex]
    refine alone_room fun clock => ?_
    cases hroom : w.roomState.rooms.lookup roomId with
    | none =>
      simp only [exec, unlinkPeer, hroom]
      exact ⟨clock, by simp [withRooms, dropPeer, hindex, hroom, unlinkPeer]⟩
    | some arc =>
      simp only [exec, unlinkPeer, hroom]
      refine alone_room fun clock => ?_
      cases removeEmptyRoom with
      | false =>
        exact ⟨clock, by
          simp [exec, withRooms, dropPeer, hindex, hroom, unlinkPeer]⟩
      | true =>
        simp only [exec]
        cases hempty : ((w.roomState.heap arc).retain peerId).peers.isEmpty with
        | false =>
          exact ⟨clock, by
            simp [withRooms, dropPeer, hindex, hroom, hempty, unlinkPeer]⟩
        | true =>
          refine alone_room fun clock => ?_
          refine ⟨clock, ?_⟩
          simp [exec, withRooms, dropPeer, hindex, hroom, hempty, unlinkPeer]

theorem alone_removeEmptyRoom :
    (roomState (removeEmptyRoom roomId)).Alone ok
      (fun _ w' => ∃ clock, w' = w.withRooms
        (if (w.roomState.find roomId).any (·.peers.isEmpty) then w.roomState.eraseRoom roomId
          else w.roomState) clock) w := by
  refine alone_room fun clock => ?_
  by_cases hempty : (w.roomState.find roomId).any (·.peers.isEmpty) = true
  · simp only [exec, hempty, if_true]
    refine alone_room fun clock => ?_
    exact ⟨clock, by simp [exec, withRooms]⟩
  · simp only [exec, hempty]
    exact ⟨clock, by simp [withRooms]⟩

theorem run_error {check : JoinCheck} {now : Instant} {store store' : InviteStore}
    {reason : JoinRejectionReason} (h : check.run now store = (.error reason, store')) :
    store' = store := by
  cases check with
  | none => cases h
  | some check =>
    simp only [JoinCheck.run, InviteStore.validateAndConsume] at h
    split at h
    · cases h
      rfl
    · split at h
      · cases h
        rfl
      · cases h

/-- A join enters the room, or is refused and changes nothing. -/
theorem alone_tryAddPeerWith (check : JoinCheck) :
    (roomState (tryAddPeerWith peerId roomId check)).Alone ok
      (fun answer w' => match answer with
        | .error reason => (∃ clock, w' = w.later clock)
            ∧ ∀ members, w.roomState.find roomId = some members → peerId ∉ members.peers
              ∧ (members.info.maxParticipants ≤ members.peers.length
                ∨ ∃ now ≤ w'.clock, (check.run now w.inviteStore).1 = .error reason)
        | .ok _ => ∃ members clock store, w.roomState.find roomId = some members
            ∧ (peerId ∈ members.peers ∧ store = w.inviteStore
              ∨ peerId ∉ members.peers ∧ members.peers.length < members.info.maxParticipants
                ∧ ∃ now, check.run now w.inviteStore = (.ok (), store))
            ∧ w' = { w.withRooms (w.roomState.enter peerId roomId) clock with
              inviteStore := store }) w := by
  refine alone_room fun clock => ?_
  cases hroom : w.roomState.rooms.lookup roomId with
  | none =>
    simp only [exec, hroom]
    exact ⟨⟨clock, rfl⟩, fun members hfind => by simp [find, hroom] at hfind⟩
  | some arc =>
    simp only [exec, hroom]
    refine alone_room fun clock => ?_
    have hfind : w.roomState.find roomId = some (w.roomState.heap arc) :=
      find_eq_some.mpr ⟨arc, hroom, rfl⟩
    by_cases hmem : peerId ∈ (w.roomState.heap arc).peers
    · simp only [exec, hmem, if_true]
      refine alone_room fun clock => ?_
      refine ⟨_, clock, w.inviteStore, hfind, .inl ⟨hmem, rfl⟩, ?_⟩
      have hsame : (w.roomState.heap arc).push peerId = w.roomState.heap arc := by
        simp [RoomMembers.push, hmem]
      simp [exec, withRooms, enter, hroom, hsame, setMembers]
    by_cases hfull : (w.roomState.heap arc).peers.length
        ≥ (w.roomState.heap arc).info.maxParticipants
    · simp only [exec, hmem, hfull, if_true, if_false]
      refine ⟨⟨clock, rfl⟩, fun members hmembers => ?_⟩
      rw [hfind, Option.some.injEq] at hmembers
      subst hmembers
      exact ⟨hmem, .inl hfull⟩
    rcases hrun : check.run clock w.inviteStore with ⟨verdict, store⟩
    cases verdict with
    | error reason =>
      simp only [exec, hmem, hfull, if_false, hrun]
      refine ⟨⟨clock, by rw [run_error hrun]; rfl⟩, fun members hmembers => ?_⟩
      rw [hfind, Option.some.injEq] at hmembers
      subst hmembers
      exact ⟨hmem, .inr ⟨clock, le_rfl, by rw [hrun]⟩⟩
    | ok _ =>
      simp only [exec, hmem, hfull, if_false, hrun]
      refine alone_room fun clock' => ?_
      refine ⟨_, clock', store, hfind, .inr ⟨hmem, not_le.mp hfull, clock, hrun⟩, ?_⟩
      simp [exec, withRooms, enter, hroom]

def InMemoryRoomState.ensured (state : InMemoryRoomState) (roomId : RoomId) : InMemoryRoomState :=
  match state.rooms.lookup roomId with
  | some _ => state
  | none => state.insertRoom roomId .newP2p

theorem alone_addPeer (hindex : w.roomState.peerToRoom.lookup peerId = none) :
    (roomState (addPeer peerId roomId)).Alone ok
      (fun added w' => added = some ()
        ∧ ∃ clock, w' = w.withRooms ((w.roomState.ensured roomId).enter peerId roomId) clock)
      w := by
  refine alone_room fun clock => ?_
  have hensured : ((RoomOp.ensureRoom roomId).exec (JoinCheck.run clock) clock
      (w.roomState, w.inviteStore)).2 = (w.roomState.ensured roomId, w.inviteStore) := by
    simp only [exec, InMemoryRoomState.ensured]
    cases w.roomState.rooms.lookup roomId <;> rfl
  obtain ⟨arc, hroom⟩ : ∃ arc, (w.roomState.ensured roomId).rooms.lookup roomId = some arc := by
    unfold InMemoryRoomState.ensured
    cases h : w.roomState.rooms.lookup roomId with
    | some arc => exact ⟨arc, h⟩
    | none => exact ⟨_, AList.lookup_insert _⟩
  have hindex' : (w.roomState.ensured roomId).peerToRoom.lookup peerId = none := by
    unfold InMemoryRoomState.ensured
    split <;> exact hindex
  rw [hensured]
  refine alone_room fun clock => ?_
  simp only [exec, hroom]
  refine alone_room fun clock => ?_
  simp only [exec, hindex']
  refine alone_room fun clock => ?_
  exact ⟨rfl, clock, by simp [exec, withRooms, enter, hroom]⟩

theorem alone_createRoom_addPeer {roomId : RoomId} {peerId : PeerId}
    (hfind : w.roomState.find roomId = none)
    (hindex : w.roomState.peerToRoom.lookup peerId = none) (info : RoomInfo)
    {next : Option Unit → BackendProg β}
    (hnext : ∀ clock, (next (some ())).Alone ok post
      (w.withRooms ((w.roomState.insertRoom roomId info).enter peerId roomId) clock)) :
    (do
      let _ ← roomState (createRoom roomId info)
      let added ← roomState (addPeer peerId roomId)
      next added : BackendProg β).Alone ok post w := by
  refine (alone_createRoom roomId info).bind ?_
  rintro isNew w₁ ⟨clock₁, hnew, rfl⟩
  have hnew' : isNew = true := by simpa [hfind] using hnew
  subst hnew'
  have hroom : (w.roomState.insertRoom roomId info).rooms.lookup roomId
      = some w.roomState.nextArc := AList.lookup_insert _
  refine (alone_addPeer (w := w.withRooms (w.roomState.insertRoom roomId info) clock₁) roomId peerId
    hindex).bind ?_
  rintro added w₂ ⟨rfl, clock₂, rfl⟩
  have hensured : (w.roomState.insertRoom roomId info).ensured roomId
      = w.roomState.insertRoom roomId info := by
    simp [InMemoryRoomState.ensured, hroom]
  have hrooms : ((w.withRooms (w.roomState.insertRoom roomId info) clock₁).roomState.ensured
      roomId).enter peerId roomId = (w.roomState.insertRoom roomId info).enter peerId roomId :=
    congrArg (fun state : InMemoryRoomState => state.enter peerId roomId) hensured
  have hworld := hnext clock₂
  rw [← hrooms] at hworld
  exact hworld

end

end Wavis
