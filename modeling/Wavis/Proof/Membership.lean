import Wavis.Proof.Connections
import Wavis.Proof.Directory

namespace Wavis

open Concurrency Prog InMemoryRoomState Option

def InfoEdit.neutral : InfoEdit → Bool
  | addParticipant _ => false
  | join _ => false
  | dropParticipant _ => false
  | kick _ => false
  | _ => true

def RoomOp.neutral {F : Type} : RoomOp F → Bool
  | getRoom _ => true
  | checkEmpty _ => true
  | getRoomForPeer _ => true
  | readRoom _ => true
  | updateInfo _ edit => edit.neutral
  | updateObject _ edit => edit.neutral
  | roomsNeedingTokenRefresh _ => true
  | _ => false

def Op.neutral : Op → Bool
  | room o => o.neutral
  | o => !o.onConnections

/-- The program leaves the directory and the connections alone. -/
abbrev BackendProg.Neutral {α : Type} (program : BackendProg α) : Prop :=
  program.Within fun o => o.neutral = true

variable {edit : InfoEdit} {α : Type} {w w' : World} {o : Op} {program : BackendProg α}

theorem InfoEdit.neutral_of_plain (h : edit.plain = true) : edit.neutral = true := by
  cases edit <;> first | rfl | cases h

theorem Op.neutral_of_plain (h : o.plain = true) : o.neutral = true := by
  cases o with
  | room o =>
    cases o with
    | updateInfo roomId edit | updateObject arc edit => exact InfoEdit.neutral_of_plain h
    | _ => first | rfl | cases h
  | _ => first | rfl | cases h

theorem BackendProg.Plain.neutral (h : program.Plain) : program.Neutral :=
  h.mono fun _ => Op.neutral_of_plain

theorem BackendProg.Passive.neutral (h : program.Passive) : program.Neutral :=
  BackendProg.Plain.neutral (BackendProg.Passive.plain h)

theorem Op.neutral_of_quiet (h : o.quiet = true) : o.neutral = true :=
  Op.neutral_of_plain (Op.plain_of_passive (Op.passive_of_quiet h))

theorem BackendProg.Quiet.neutral (h : program.Quiet) : program.Neutral :=
  h.mono fun _ => Op.neutral_of_quiet

theorem BackendProg.Inert.neutral (h : program.Inert) : program.Neutral :=
  BackendProg.Passive.neutral (BackendProg.Inert.passive h)

theorem Roster.edit_of_neutral (h : edit.neutral = true) (roster : Roster) :
    roster.edit edit = roster := by
  cases edit <;> first | rfl | cases h

theorem directory_setMembers_edit {state : InMemoryRoomState} (h : edit.neutral = true)
    (arc : ArcId) (now : Instant) :
    (state.setMembers arc ((state.heap arc).edit edit now)).directory = state.directory := by
  simp only [directory, Directory.mk.injEq]
  refine ⟨?_, rfl⟩
  funext roomId
  rw [find_setMembers_eq]
  split_ifs with harc
  · have hfind : state.find roomId = some (state.heap arc) := find_eq_some.mpr ⟨arc, harc, rfl⟩
    rw [hfind, map_some, map_some, RoomMembers.roster_edit,
      Roster.edit_of_neutral h]
  · rfl

structure World.SamePlaces (w w' : World) : Prop where
  directory : w'.roomState.directory = w.roomState.directory
  connections : w'.connections = w.connections

theorem RoomOp.directory_of_neutral {F κ : Type}
    {run : F → κ → Except JoinRejectionReason Unit × κ} {now : Instant} {o : RoomOp F}
    (h : o.neutral = true) (state : InMemoryRoomState) (k : κ) :
    (o.exec run now (state, k)).2.1.directory = state.directory := by
  cases o with
  | updateInfo roomId edit =>
    simp only [RoomOp.exec]
    split
    · rfl
    · exact directory_setMembers_edit h _ _
  | updateObject arc edit => exact directory_setMembers_edit h _ _
  | _ => first | rfl | cases h

theorem Op.samePlaces {env : Env} {answer : o.Resp} (h : o.neutral = true)
    (hexec : o.exec env w = some (answer, w')) : w.SamePlaces w' where
  directory := by
    rcases Op.exec_roomState hexec with hsame | ⟨ro, rfl, hroom⟩
    · rw [hsame]
    · rw [hroom]
      exact RoomOp.directory_of_neutral h _ _
  connections := by
    refine (Op.exec_connections hexec ?_).1
    cases o <;> first | rfl | cases h

theorem World.SamePlaces.trans {w'' : World} (h : w.SamePlaces w') (h' : w'.SamePlaces w'') :
    w.SamePlaces w'' :=
  ⟨h'.directory.trans h.directory, h'.connections.trans h.connections⟩

theorem BackendProg.Neutral.alone {ok : Op → Env → Prop} (h : program.Neutral) :
    program.Alone ok (fun _ w' => w.SamePlaces w') w :=
  h.ensures ⟨rfl, rfl⟩ fun hneutral hsame hexec => hsame.trans (Op.samePlaces hneutral hexec)

/-- A session of the peer that names the room the peer is in, if it is in one. -/
structure SignalingSession.Names (session : SignalingSession) (peerId : PeerId)
    (d : Directory) : Prop where
  participantId : session.participantId = peerId
  roomId : ∀ {roomId}, d.index peerId = some roomId → roomId = session.roomId
  leaveHandled : session.leaveHandled = true → d.index peerId = none

variable {session : SignalingSession} {peerId : PeerId} {roomId : RoomId}
  {gain : Option (PeerId × RoomId)} {ok : Op → Env → Prop} {full : Prop} {w₀ : World}

theorem SignalingSession.Names.of_index {d d' : Directory} (h : session.Names peerId d)
    (hindex : ∀ {roomId}, d'.index peerId = some roomId → d.index peerId = some roomId) :
    session.Names peerId d' := by
  refine ⟨h.participantId, fun hplace => h.roomId (hindex hplace), fun hleft => ?_⟩
  rw [eq_none_iff_forall_ne_some]
  intro roomId hplace
  have hnone := h.leaveHandled hleft
  rw [hindex hplace] at hnone
  cases hnone

/-- The directory is sound, and sessions name the rooms of their peers. -/
structure World.Placed (full : Prop) (first : Directory) (w : World) : Prop where
  sound : w.roomState.directory.Sound full
  sessions : ∀ {peerId connection session}, w.connections.lookup peerId = some connection →
    connection.session = some session → session.Names peerId w.roomState.directory
  stays : ∀ {peerId roomId}, first.Present peerId roomId →
    w.roomState.directory.Present peerId roomId ∨ w.roomState.directory.index peerId = none

/-- What a handler does to places: nobody gets one but, possibly, the peer that joins. -/
structure World.Moves (full : Prop) (gain : Option (PeerId × RoomId)) (w w' : World) : Prop where
  sound : w'.roomState.directory.Sound full
  connections : w'.connections = w.connections
  index : ∀ {peerId roomId}, w'.roomState.directory.index peerId = some roomId →
    w.roomState.directory.index peerId = some roomId ∨ gain = some (peerId, roomId)
  stays : ∀ {peerId roomId}, w.roomState.directory.Present peerId roomId →
    w'.roomState.directory.Present peerId roomId ∨ w'.roomState.directory.index peerId = none
      ∨ ∃ roomId', gain = some (peerId, roomId')

namespace World

variable {first : Directory} {w'' : World}

theorem SamePlaces.moves (h : w.SamePlaces w') (hsound : w.roomState.directory.Sound full) :
    w.Moves full gain w' where
  sound := h.directory ▸ hsound
  connections := h.connections
  index hindex := .inl (h.directory ▸ hindex)
  stays hpresent := .inl (h.directory ▸ hpresent)

theorem samePlaces_later (clock : Instant) : w.SamePlaces (w.later clock) := ⟨rfl, rfl⟩

theorem Moves.trans (h : w.Moves full gain w') (h' : w'.Moves full gain w'') :
    w.Moves full gain w'' where
  sound := h'.sound
  connections := h'.connections.trans h.connections
  index hindex := (h'.index hindex).elim h.index .inr
  stays := by
    intro peerId roomId hpresent
    rcases h.stays hpresent with hpresent | hgone | hgain
    · exact h'.stays hpresent
    · right
      cases hindex : w''.roomState.directory.index peerId with
      | none => exact .inl rfl
      | some roomId' =>
        rcases h'.index hindex with hindex | hgain
        · rw [hgone] at hindex
          cases hindex
        · exact .inr ⟨roomId', hgain⟩
    · exact .inr (.inr hgain)

theorem Moves.widen (h : w.Moves full none w') : w.Moves full gain w' where
  sound := h.sound
  connections := h.connections
  index hindex := (h.index hindex).elim .inl nofun
  stays hpresent := by
    rcases h.stays hpresent with hpresent | hgone | ⟨_, hgain⟩
    · exact .inl hpresent
    · exact .inr (.inl hgone)
    · cases hgain

section

variable (h : w.Placed full first)
include h

theorem Placed.restart : w.Placed full w.roomState.directory :=
  ⟨h.sound, h.sessions, .inl⟩

theorem Placed.stays_moves (hmoves : w.Moves full gain w')
    (hgain : ∀ peerId roomId, gain = some (peerId, roomId) → first.index peerId = none)
    (hpresent : first.Present peerId roomId) :
    w'.roomState.directory.Present peerId roomId
      ∨ w'.roomState.directory.index peerId = none := by
  have hne : ∀ roomId', gain ≠ some (peerId, roomId') := by
    intro roomId' heq
    have hnone := hgain peerId roomId' heq
    rw [hpresent.1] at hnone
    cases hnone
  rcases h.stays hpresent with hpresent | hgone
  · rcases hmoves.stays hpresent with hpresent | hgone | ⟨roomId', heq⟩
    · exact .inl hpresent
    · exact .inr hgone
    · exact absurd heq (hne roomId')
  · right
    rw [eq_none_iff_forall_ne_some]
    intro roomId' hindex
    rcases hmoves.index hindex with hindex | heq
    · rw [hgone] at hindex
      cases hindex
    · exact hne roomId' heq

theorem Placed.moves (hmoves : w.Moves full gain w')
    (hgain : ∀ peerId roomId, gain = some (peerId, roomId) → first.index peerId = none
      ∧ ∀ connection, w.connections.lookup peerId = some connection →
        connection.session = none) : w'.Placed full first where
  sound := hmoves.sound
  sessions := by
    intro peerId connection session hconnection hsession
    rw [hmoves.connections] at hconnection
    refine (h.sessions hconnection hsession).of_index fun {roomId} hindex => ?_
    rcases hmoves.index hindex with hindex | hgained
    · exact hindex
    · rw [(hgain peerId roomId hgained).2 connection hconnection] at hsession
      cases hsession
  stays hpresent := h.stays_moves hmoves (fun _ _ heq => (hgain _ _ heq).1) hpresent

theorem Placed.leaves (hmoves : w.Moves full none w') : w'.Placed full first :=
  h.moves hmoves nofun

end

theorem Moves.refl (h : w.roomState.directory.Sound full) : w.Moves full gain w :=
  ⟨h, rfl, .inl, .inl⟩

end World

section

variable {β : Type} {post : β → World → Prop}

section

variable (hmoves : w₀.Moves full gain w)
include hmoves

theorem World.Moves.neutral (h : program.Neutral) :
    program.Alone ok (fun _ w' => w₀.Moves full gain w') w :=
  (BackendProg.Neutral.alone h).mono fun _ _ hsame => hmoves.trans (hsame.moves hmoves.sound)

theorem World.Moves.neutral_bind {f : α → BackendProg β} (h : program.Neutral)
    (hf : ∀ a w', w₀.Moves full gain w' → (f a).Alone ok post w') :
    (program >>= f).Alone ok post w :=
  (hmoves.neutral h).bind hf

theorem World.Moves.depart (hconnections : w'.connections = w.connections)
    (hsound : w'.roomState.directory.Sound full)
    (hindex : w'.roomState.directory.index
      = Function.update w.roomState.directory.index peerId none)
    (hstays : ∀ {peerId' roomId'}, peerId' ≠ peerId →
      w.roomState.directory.Present peerId' roomId' →
      w'.roomState.directory.Present peerId' roomId') :
    w₀.Moves full gain w' ∧ w'.roomState.directory.index peerId = none := by
  have hgone : w'.roomState.directory.index peerId = none := by
    rw [hindex, Function.update_self]
  refine ⟨hmoves.trans ⟨hsound, hconnections, ?_, ?_⟩, hgone⟩
  · intro peerId' roomId' h
    by_cases hpeer : peerId' = peerId
    · rw [hpeer, hgone] at h
      cases h
    · rw [hindex, Function.update_of_ne hpeer] at h
      exact .inl h
  · intro peerId' roomId' hpresent
    by_cases hpeer : peerId' = peerId
    · exact .inr (.inl (hpeer ▸ hgone))
    · exact .inl (hstays hpeer hpresent)

theorem World.Moves.departure_bind {removeEmptyRoom : Bool}
    {f : Option (RoomMembers × Instant) → BackendProg β}
    (hedit : ∀ roster, Roster.edit roster edit = roster.unlist peerId)
    (hindex : ∀ roomId', w.roomState.directory.index peerId = some roomId' → roomId' = roomId)
    (hf : ∀ before w', w₀.Moves full gain w' → w'.roomState.directory.index peerId = none →
      (f before).Alone ok post w') :
    (Wavis.roomState (removePeerInternal peerId removeEmptyRoom) >>= fun _ =>
      Wavis.roomState (updateRoomInfo roomId edit) >>= f).Alone ok post w := by
  refine (alone_removePeerInternal peerId removeEmptyRoom).bind ?_
  rintro _ w₁ ⟨clock, rfl⟩
  refine (alone_updateRoomInfo roomId edit).bind ?_
  rintro before w₂ ⟨clock', -, hw₂⟩
  have hdirectory : w₂.roomState.directory
      = (w.roomState.directory.drop peerId removeEmptyRoom).editRoom roomId edit := by
    rw [← directory_dropPeer, ← directory_editRoom, hw₂]
    rfl
  have hconnections : w₂.connections = w.connections := by
    rw [hw₂]
    rfl
  obtain ⟨hmoves', hgone⟩ := hmoves.depart hconnections
    (hdirectory ▸ hmoves.sound.depart removeEmptyRoom hedit hindex) (by rw [hdirectory]; rfl)
    fun hpeer hpresent => hdirectory ▸ (hpresent.drop hpeer removeEmptyRoom).unlist hpeer hedit
  exact hf before w₂ hmoves' hgone

theorem World.Moves.removePeer
    (hp2p : ∀ roomId roster, w.roomState.directory.index peerId = some roomId →
      w.roomState.directory.room roomId = some roster → roster.sfu = false) :
    (Wavis.roomState (InMemoryRoomState.removePeer peerId)).Alone ok
      (fun _ w' => w₀.Moves full gain w' ∧ w'.roomState.directory.index peerId = none) w := by
  refine (alone_removePeerInternal peerId true).mono ?_
  rintro _ w' ⟨clock, rfl⟩
  have hdirectory : (w.withRooms (w.roomState.dropPeer peerId true) clock).roomState.directory
      = w.roomState.directory.drop peerId true := directory_dropPeer peerId true
  exact hmoves.depart rfl (hdirectory ▸ hmoves.sound.drop true hp2p) (by rw [hdirectory]; rfl)
    fun hpeer hpresent => hdirectory ▸ hpresent.drop hpeer true

end

end

abbrev World.OnlyIn (w : World) (peerId : PeerId) (roomId : RoomId) : Prop :=
  ∀ roomId', w.roomState.directory.index peerId = some roomId' → roomId' = roomId

section

variable {members : RoomMembers}

section

variable (hmoves : w₀.Moves full none w)
include hmoves

theorem World.Moves.onlyIn (h : w₀.OnlyIn peerId roomId) : w.OnlyIn peerId roomId := by
  intro roomId' hindex
  rcases hmoves.index hindex with hindex | hgain
  · exact h roomId' hindex
  · cases hgain

theorem World.Moves.index_none (h : w₀.roomState.directory.index peerId = none) :
    w.roomState.directory.index peerId = none := by
  rw [eq_none_iff_forall_ne_some]
  intro roomId hindex
  rcases hmoves.index hindex with hindex | hgain
  · rw [hindex] at h
    cases h
  · cases hgain

theorem World.Moves.neutral_gone (hgone : w.roomState.directory.index peerId = none)
    (h : program.Neutral) :
    program.Alone ok (fun _ w' => w₀.Moves full none w'
      ∧ w'.roomState.directory.index peerId = none) w :=
  (BackendProg.Neutral.alone h).mono fun _ _ hsame =>
    ⟨hmoves.trans (hsame.moves hmoves.sound), hsame.directory ▸ hgone⟩

theorem handleSfuLeave_moves (honly : w₀.OnlyIn peerId roomId) :
    (handleSfuLeave roomId peerId).Alone ok
      (fun _ w' => w₀.Moves full none w' ∧ w'.roomState.directory.index peerId = none) w := by
  refine hmoves.neutral_bind (within_getRoomInfo rfl) fun info w₁ hmoves => ?_
  refine hmoves.neutral_bind (takeViewerIdentities_inert _ _).neutral fun ids w₂ hmoves => ?_
  refine hmoves.neutral_bind (sfuRemoveAll_inert _ _).neutral fun _ w₃ hmoves => ?_
  refine hmoves.neutral_bind (cleanupShareOnDisconnect_inert _ _).neutral
    fun signals w₄ hmoves => ?_
  refine hmoves.departure_bind (fun _ => rfl) (hmoves.onlyIn honly)
    fun before w₅ hmoves hgone => ?_
  -- What follows the removal revokes the peer and may destroy the SFU room.
  exact hmoves.neutral_gone hgone (within_afterRemoval rfl rfl (fun _ => rfl) rfl)

theorem leaveSfuRoom_moves (honly : w₀.OnlyIn session.participantId session.roomId) :
    (leaveSfuRoom session).Alone ok (fun _ w' => w₀.Moves full none w'
      ∧ w'.roomState.directory.index session.participantId = none) w := by
  refine (handleSfuLeave_moves hmoves honly).bind ?_
  rintro signals w₁ ⟨hmoves, hgone⟩
  refine hmoves.neutral_gone hgone ?_
  refine .bind (removeParticipantFromSubRoom_inert _ _).neutral fun result => ?_
  refine .bind (dispatchSignals_passive _ _).neutral fun _ => ?_
  exact (scheduleSubRoomExpiry_inert _ _).neutral

end

theorem revokeOnDisconnect_neutral (session : SignalingSession) :
    (revokeOnDisconnect session).Neutral := by
  refine .bind (within_updateRoomInfo rfl) fun _ => ?_
  refine .bind (cleanupShareOnDisconnect_inert _ _).neutral fun signals => ?_
  exact (dispatchSignals_passive _ _).neutral

abbrev World.Unshown (w : World) (peerId : PeerId) : Prop :=
  ∀ roomId roster, w.roomState.directory.index peerId = some roomId →
    w.roomState.directory.room roomId = some roster → roster.sfu = false

theorem unshown_of_index_none (h : w.roomState.directory.index peerId = none) :
    w.Unshown peerId := by
  intro roomId roster hindex
  rw [h] at hindex
  cases hindex

theorem unshown_of_roomType (honly : w.OnlyIn peerId roomId)
    (hp2p : ((w.roomState.find roomId).map (·.info)).map (·.roomType) = some .sfu → False) :
    w.Unshown peerId := by
  intro roomId' roster hindex hroom
  obtain rfl := honly roomId' hindex
  obtain ⟨members, hfind, rfl⟩ := map_eq_some_iff.mp hroom
  have htype : members.info.roomType ≠ .sfu := by
    intro hsfu
    exact hp2p (by rw [hfind]; simp [hsfu])
  simpa [RoomMembers.roster, RoomInfo.roster] using htype

theorem leaveRoom_moves (hsound : w.roomState.directory.Sound full)
    (honly : w.OnlyIn session.participantId session.roomId) (isDisconnect : Bool) :
    (leaveRoom session isDisconnect).Alone ok (fun _ w' => w.Moves full none w'
      ∧ w'.Unshown session.participantId
      ∧ (isDisconnect = false → w'.roomState.directory.index session.participantId = none)) w := by
  refine (alone_getRoomInfo session.roomId).bind ?_
  rintro info w₁ ⟨clock, rfl, hinfo⟩
  have hmoves : w.Moves full none (w.later clock) :=
    (World.samePlaces_later clock).moves hsound
  split
  · -- An SFU room: the leave removes the peer in either case.
    have hleave : ∀ w', w.Moves full none w' → (leaveSfuRoom session).Alone ok (fun _ w' =>
        w.Moves full none w' ∧ w'.Unshown session.participantId
          ∧ (isDisconnect = false
            → w'.roomState.directory.index session.participantId = none)) w' := by
      intro w' hmoves
      exact (leaveSfuRoom_moves hmoves honly).mono fun _ _ hpost =>
        ⟨hpost.1, unshown_of_index_none hpost.2, fun _ => hpost.2⟩
    split_ifs
    · exact hmoves.neutral_bind (revokeOnDisconnect_neutral session) fun _ w' => hleave w'
    · exact hleave _ hmoves
  · rename_i hp2p
    have hunshown : (w.later clock).Unshown session.participantId :=
      unshown_of_roomType honly (hinfo ▸ hp2p)
    refine (BackendProg.Neutral.alone (announceP2pLeave_quiet _).neutral).bind ?_
    intro _ w₂ hsame
    have hmoves₂ := hmoves.trans (hsame.moves hmoves.sound)
    have hunshown₂ : w₂.Unshown session.participantId := by
      intro roomId roster hindex hroom
      rw [hsame.directory] at hindex hroom
      exact hunshown roomId roster hindex hroom
    cases isDisconnect with
    | true => exact ⟨hmoves₂, hunshown₂, nofun⟩
    | false =>
      refine (hmoves₂.removePeer hunshown₂).bind ?_
      rintro _ w₃ ⟨hmoves₃, hgone⟩
      exact (hmoves₃.neutral_gone hgone (within_perform rfl)).mono fun _ _ hlast =>
        ⟨hlast.1, unshown_of_index_none hlast.2, fun _ => hlast.2⟩

theorem kickParticipant_moves (hmoves : w₀.Moves full none w) (honly : w₀.OnlyIn peerId roomId) :
    (kickParticipant roomId peerId).Alone ok (fun _ w' => w₀.Moves full none w') w := by
  refine hmoves.neutral_bind (within_getRoomInfo rfl) fun info w₁ hmoves => ?_
  refine hmoves.neutral_bind (sfuRemoveAll_inert _ _).neutral fun _ w₂ hmoves => ?_
  refine hmoves.neutral_bind (takeViewerIdentities_inert _ _).neutral fun ids w₃ hmoves => ?_
  refine hmoves.neutral_bind (sfuRemoveAll_inert _ _).neutral fun _ w₄ hmoves => ?_
  refine hmoves.departure_bind (fun _ => rfl) (hmoves.onlyIn honly) fun before w₅ hmoves _ => ?_
  exact hmoves.neutral (.map (within_perform rfl))

abbrev World.IsSfu (w : World) (roomId : RoomId) : Prop :=
  ∀ roster, w.roomState.directory.room roomId = some roster → roster.sfu = true

def World.HasSfuRoom (w : World) (roomId : RoomId) : Prop :=
  ∃ members, w.roomState.find roomId = some members ∧ members.info.roomType = .sfu

theorem World.HasSfuRoom.isSfu (h : w.HasSfuRoom roomId) : w.IsSfu roomId := by
  obtain ⟨members, hfind, hsfu⟩ := h
  intro roster hroom
  have hroster : members.roster = roster := by simpa [directory, hfind] using hroom
  rw [← hroster]
  simp [RoomMembers.roster, RoomInfo.roster, hsfu]

theorem onlyIn_of_listed (hsound : w.roomState.directory.Sound full) (hsfu : w.IsSfu roomId)
    (hfind : w.roomState.find roomId = some members) {participant : ParticipantInfo}
    (hmem : participant ∈ members.info.participants) :
    w.OnlyIn participant.participantId roomId := by
  have hroom := room_of_find hfind
  have hlisted : participant.participantId ∈ members.roster.ids :=
    List.mem_map.mpr ⟨participant.listing, List.mem_map_of_mem hmem, rfl⟩
  intro roomId' hindex
  rw [hsound.index_of_listed hroom (hsfu _ hroom) hlisted, some.injEq] at hindex
  exact hindex.symm

theorem alone_participantInRoom :
    (participantInRoom roomId peerId).Alone ok (fun isIn w' => ∃ clock, w' = w.later clock
      ∧ (isIn = true → ∃ members participant, w.roomState.find roomId = some members
        ∧ participant ∈ members.info.participants ∧ participant.participantId = peerId)) w := by
  refine (alone_getRoomInfo roomId).bind ?_
  rintro info w₁ ⟨clock, rfl, rfl⟩
  refine ⟨clock, rfl, fun hin => ?_⟩
  cases hfind : w.roomState.find roomId with
  | none => simp [hfind] at hin
  | some members =>
    simp only [hfind, map_some, any_some, List.any_eq_true,
      decide_eq_true_eq] at hin
    obtain ⟨participant, hmem, hid⟩ := hin
    exact ⟨members, participant, rfl, hmem, hid⟩

section

variable (hsound : w.roomState.directory.Sound full)
include hsound

theorem handleKick_moves (hsfu : w.IsSfu roomId) (role : ParticipantRole) :
    (handleKick roomId role peerId).Alone ok (fun _ w' => w.Moves full none w') w := by
  unfold handleKick
  split
  · exact .refl hsound
  refine alone_participantInRoom.bind ?_
  rintro isIn w₁ ⟨clock, rfl, hin⟩
  have hmoves : w.Moves full none (w.later clock) :=
    (World.samePlaces_later clock).moves hsound
  cases isIn with
  | false => exact hmoves
  | true =>
    obtain ⟨members, participant, hfind, hmem, rfl⟩ := hin rfl
    have honly := onlyIn_of_listed hsound hsfu hfind hmem
    exact (kickParticipant_moves hmoves honly).bind fun _ _ hpost => hpost

theorem hasSfuRoom_of_findUser {userId : Uuid} (hfind : w.roomState.find roomId = some members)
    (huser : members.info.findUser userId = some peerId) : w.HasSfuRoom roomId := by
  obtain ⟨participant, hparticipant, -⟩ := map_eq_some_iff.mp huser
  have howner := List.find?_some hparticipant
  refine ⟨members, hfind, ?_⟩
  by_contra hp2p
  have hnone := (hsound _ _ (room_of_find hfind)).userless
    (by simpa [RoomMembers.roster, RoomInfo.roster] using hp2p) participant.listing
    (List.mem_map_of_mem (List.mem_of_find?_eq_some hparticipant))
  simp only [decide_eq_true_eq] at howner
  simp [ParticipantInfo.listing, howner] at hnone

theorem evictStaleSession_moves (userId : Uuid) :
    (evictStaleSession roomId userId).Alone ok (fun _ w' => w.Moves full none w') w := by
  refine (alone_getRoomInfo roomId).bind ?_
  rintro info w₁ ⟨clock, rfl, hinfo⟩
  have hmoves : w.Moves full none (w.later clock) :=
    (World.samePlaces_later clock).moves hsound
  split
  · exact hmoves
  · rename_i stalePeerId hstale
    have honly : w.OnlyIn stalePeerId roomId := by
      rw [hinfo] at hstale
      obtain ⟨found, hfound, huser⟩ := bind_eq_some_iff.mp hstale
      obtain ⟨members, hfind, rfl⟩ := map_eq_some_iff.mp hfound
      obtain ⟨participant, hparticipant, rfl⟩ := map_eq_some_iff.mp huser
      have hmem := List.mem_of_find?_eq_some hparticipant
      exact onlyIn_of_listed hsound (hasSfuRoom_of_findUser hsound hfind huser).isSfu hfind hmem
    refine hmoves.neutral_bind (within_getRoomInfo rfl) fun info w₂ hmoves => ?_
    refine hmoves.neutral_bind (sfuRemoveAll_inert _ _).neutral fun _ w₃ hmoves => ?_
    refine hmoves.neutral_bind (takeViewerIdentities_inert _ _).neutral fun ids w₄ hmoves => ?_
    refine hmoves.neutral_bind (sfuRemoveAll_inert _ _).neutral fun _ w₅ hmoves => ?_
    refine hmoves.neutral_bind (cleanupShareOnDisconnect_inert _ _).neutral
      fun signals w₆ hmoves => ?_
    refine hmoves.departure_bind (fun _ => rfl) (hmoves.onlyIn honly) fun before w₇ hmoves _ => ?_
    exact hmoves.neutral
      (.bind (removeParticipantFromSubRoom_inert _ _).neutral fun _ => .pure)

end

end

end Wavis
