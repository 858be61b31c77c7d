import Wavis.Proof.Alone

/-! What a legacy join and the creation of a room leave behind when they answer an error and no
other call runs. Whether that is nothing is settled by the state before the call and by the calls of
the bridge that fail. -/

namespace Wavis

open Concurrency Prog InMemoryRoomState World

/-- The failures of the bridge that the environment chooses for a join. -/
structure JoinChoices where
  createRoom : Option SfuError := none
  addParticipant : Option SfuError := none

def JoinChoices.Follows (choices : JoinChoices) : Op → Env → Prop
  | .sfuCreateRoom _, env => env.sfuFault = choices.createRoom
  | .sfuAddParticipant _ _, env => env.sfuFault = choices.addParticipant
  | _, _ => True

def World.withSfu (w : World) (sfu : HashMap SfuRoomHandle (HashSet String)) (clock : Instant) :
    World :=
  { w with sfu, clock }

variable {choices : JoinChoices} {ok : Op → Env → Prop} {roomId roomId' : RoomId}
  {peerId : PeerId} {w w₁ w' : World} {edit : InfoEdit} {now clock : Instant}

section

variable {β : Type} {α : Type} (program : BackendProg α)

theorem alone_getNow :
    (Op.perform .getNow).Alone ok (fun _ w' => ∃ clock, w' = w.later clock) w := by
  rintro env answer w' - ⟨⟩
  exact ⟨_, rfl⟩

theorem alone_sfuCreateRoom :
    (Op.perform (.sfuCreateRoom roomId)).Alone choices.Follows (fun answer w' => ∃ clock,
      match answer with
      | .error _ => choices.createRoom.isSome ∧ w' = w.later clock
      | .ok handle => choices.createRoom = none ∧ handle = roomId
          ∧ w' = w.withSfu (w.sfu.insert roomId (w.registered roomId)) clock) w := by
  intro env answer w' hfault hexec
  change env.sfuFault = choices.createRoom at hfault
  refine ⟨w.clock + env.elapsed, ?_⟩
  rw [← hfault]
  simp only [Op.exec, Op.run] at hexec
  split at hexec <;> cases hexec
  · rename_i hsome
    exact ⟨by simp [hsome], rfl⟩
  · rename_i hnone
    exact ⟨hnone, rfl, rfl⟩

theorem alone_sfuAddParticipant (handle : SfuRoomHandle) (identity : String) :
    (Op.perform (.sfuAddParticipant handle identity)).Alone choices.Follows (fun answer w' =>
      (∃ clock, w' = w.later clock) ∧
      match answer with
      | .error _ => choices.addParticipant.isSome = true
      | .ok _ => choices.addParticipant = none) w := by
  intro env answer w' hfault hexec
  change env.sfuFault = choices.addParticipant at hfault
  rw [← hfault]
  simp only [Op.exec, Op.run] at hexec
  split at hexec <;> cases hexec
  · rename_i hsome
    exact ⟨⟨_, rfl⟩, by simp [hsome]⟩
  · rename_i hnone
    exact ⟨⟨_, rfl⟩, hnone⟩

theorem lookup_sfu_insert_registered (h : (w.sfu.lookup roomId).isSome) (handle : SfuRoomHandle) :
    (w.sfu.insert roomId (w.registered roomId)).lookup handle = w.sfu.lookup handle := by
  obtain ⟨identities, hlookup⟩ := Option.isSome_iff_exists.mp h
  by_cases heq : handle = roomId
  · subst heq
    simp [registered, hlookup]
  · exact AList.lookup_insert_ne heq

theorem alone_true : program.Alone ok (fun _ _ => True) w :=
  ensures_true program w

theorem roomArc_editRoom :
    (w.withRooms (w.roomState.editRoom roomId edit now) clock).roomArc roomId'
      = w.roomArc roomId' := by
  simp only [roomArc, withRooms, editRoom]
  split <;> rfl

theorem map_find_editRoom {state : InMemoryRoomState} {view : RoomMembers → β}
    (h : ∀ members, view (members.edit edit now) = view members) (roomId' : RoomId) :
    ((state.editRoom roomId edit now).find roomId').map view = (state.find roomId').map view := by
  rw [find_editRoom]
  split_ifs
  · rw [Option.map_map]
    exact Option.map_congr fun members _ => h members
  · rfl

end

/-- What a failed join must leave as it was: the rooms with their lists, the reverse index, the
invites and the SFU. -/
@[ext] structure Stores where
  rooms : RoomId → Option ArcId
  lists : RoomId → Option (List PeerId × List ParticipantInfo)
  index : PeerId → Option RoomId
  invites : InviteStore
  sfu : SfuRoomHandle → Option (HashSet String)

def World.stores (w : World) : Stores where
  rooms := w.roomArc
  lists roomId := (w.roomState.find roomId).map fun members =>
    (members.peers, members.info.participants)
  index peerId := w.roomState.peerToRoom.lookup peerId
  invites := w.inviteStore
  sfu handle := w.sfu.lookup handle

/-- A failed join leaves no trace: the SFU room was refused, or was there with its room. -/
def World.TracelessJoin (w : World) (choices : JoinChoices) (roomId : RoomId) : Prop :=
  choices.createRoom.isSome ∨ ∃ members, w.roomState.find roomId = some members
    ∧ (members.info.sfuHandle.isSome ∨ (w.sfu.lookup roomId).isSome)

theorem rooms_lookup_none {state : InMemoryRoomState} (h : state.find roomId = none) :
    state.rooms.lookup roomId = none := by
  simpa [find] using h

theorem roomArc_none (h : w'.stores = w.stores) (hfind : w.roomState.find roomId = none) :
    w'.roomArc roomId = none :=
  (congrFun (congrArg Stores.rooms h) roomId).trans (rooms_lookup_none hfind)

section

variable (config : Config)

theorem getOrCreateSfuRoom_stores :
    (getOrCreateSfuRoom config roomId).Alone choices.Follows
      (fun _ w' => w'.stores = w.stores ↔ w.TracelessJoin choices roomId) w := by
  refine (alone_getRoomInfo roomId).bind ?_
  rintro info _ ⟨clock, rfl, rfl⟩
  split
  · -- The room has its handle, and nothing has changed.
    rename_i handle hhandle
    obtain ⟨_, hinfo, hsome⟩ := Option.bind_eq_some_iff.mp hhandle
    obtain ⟨members, hfind, rfl⟩ := Option.map_eq_some_iff.mp hinfo
    exact iff_of_true rfl (.inr ⟨members, hfind, .inl (by simp [hsome])⟩)
  rename_i hhandle
  refine alone_sfuCreateRoom.bind ?_
  rintro created w₂ ⟨clock₂, hcreated⟩
  cases created with
  | error e =>
    obtain ⟨hfault, rfl⟩ := hcreated
    exact iff_of_true rfl (.inl hfault)
  | ok handle =>
    obtain ⟨hfault, rfl, rfl⟩ := hcreated
    refine (alone_createRoom _ _).bind ?_
    rintro isNew _ ⟨clock₃, hnew, rfl⟩
    cases hfind : w.roomState.find handle with
    | none =>
      have hnew' : isNew = true := by simpa [later, withSfu, hfind] using hnew
      subst hnew'
      refine iff_of_false (fun hsame => ?_) (by simp [TracelessJoin, hfault, hfind])
      cases (AList.lookup_insert _).symm.trans (roomArc_none hsame hfind)
    | some members =>
      have hnew' : isNew = false := by simpa [later, withSfu, hfind] using hnew
      subst hnew'
      have hnone : members.info.sfuHandle = none := by simpa [hfind] using hhandle
      simp only [TracelessJoin, hfault, hfind, Option.isSome_none, Bool.false_eq_true, false_or,
        Option.some.injEq, exists_eq_left', hnone]
      refine ⟨fun hsame => ?_, fun hsfu => ?_⟩
      · have hkept := congrFun (congrArg Stores.sfu hsame) handle
        exact Option.isSome_of_eq_some (hkept.symm.trans (AList.lookup_insert _))
      · exact Stores.ext rfl rfl rfl rfl (funext (lookup_sfu_insert_registered hsfu))

theorem isParticipantRevoked_stores (window : Duration) :
    (roomState (isParticipantRevoked roomId peerId window)).Alone ok
      (fun _ w' => w'.stores = w.stores) w := by
  refine (alone_isParticipantRevoked roomId peerId window).mono ?_
  rintro _ _ ⟨clock, rfl⟩
  exact Stores.ext (funext fun _ => roomArc_editRoom) (funext (map_find_editRoom fun _ => rfl))
    (funext fun _ => by rw [World.stores, withRooms, editRoom_peerToRoom]; rfl) rfl rfl

theorem completeSfuJoin_stores (participant : ParticipantInfo) (inviteCode : Option String)
    (token : SignedToken) :
    (completeSfuJoin config roomId participant inviteCode token).Alone ok
      (fun answer w' => ∀ e, answer = .error e → w'.stores = w.stores) w := by
  refine (alone_getRoomInfo roomId).bind ?_
  rintro before _ ⟨clock, rfl, -⟩
  refine (alone_tryAddPeerWith roomId _ _).bind fun added w₂ hadded => ?_
  cases added with
  | error reason =>
    obtain ⟨⟨clock₂, rfl⟩, -⟩ := hadded
    cases reason <;> exact fun _ _ => rfl
  | ok count =>
    refine (alone_true _).bind fun _ _ _ => ?_
    refine (alone_true _).bind fun _ _ _ => ?_
    refine (alone_true _).bind fun _ _ _ => ?_
    refine (alone_true _).bind fun _ _ _ => ?_
    rintro e ⟨⟩

theorem handleSfuJoin_stores (displayName : String) (profileColor inviteCode : Option String) :
    (handleSfuJoin config roomId peerId displayName profileColor inviteCode).Alone
      choices.Follows (fun answer w' => ∀ e, answer = .error e →
        (w'.stores = w.stores ↔ w.TracelessJoin choices roomId)) w := by
  refine (getOrCreateSfuRoom_stores config).bind fun opened w₁ hopened => ?_
  -- What follows keeps the stores until the peer is in the room.
  have hkept : ∀ {w' : World}, w'.stores = w₁.stores →
      (w'.stores = w.stores ↔ w.TracelessJoin choices roomId) := fun h => h ▸ hopened
  cases opened with
  | error e => exact fun _ _ => hopened
  | ok handle =>
    refine (alone_sfuAddParticipant handle peerId).bind ?_
    rintro added _ ⟨⟨clock₂, rfl⟩, -⟩
    cases added with
    | error e => exact fun _ _ => hkept rfl
    | ok _ =>
      refine (isParticipantRevoked_stores _).bind fun revoked w₃ hsame => ?_
      split
      · exact fun _ _ => hkept hsame
      refine (alone_sign _ _ _ _ _).bind ?_
      rintro signed _ ⟨clock₄, history, rfl⟩
      cases signed with
      | error e => exact fun _ _ => hkept hsame
      | ok token =>
        exact (completeSfuJoin_stores config _ inviteCode token).mono
          fun answer w' hfailed e he => hkept ((hfailed e he).trans hsame)

end

def InviteStore.HasSpace (store : InviteStore) (roomId : RoomId) : Prop :=
  store.invites.entries.length < store.config.maxInvitesGlobal
    ∧ (store.roomInviteCounts.lookup roomId).getD 0 < store.config.maxInvitesPerRoom

/-- A failed creation leaves no trace: nothing was created, or the creator came from no room, and
neither a new SFU room nor a room without a token for its creator is left. -/
def World.TracelessCreation (w : World) (choices : JoinChoices) (roomId : RoomId) (peerId : PeerId)
    (roomType : RoomType) (sfuAvailable : Bool) : Prop :=
  roomId = "" ∨ (w.roomState.find roomId).isSome
    ∨ roomType = .sfu ∧ (sfuAvailable = false ∨ choices.createRoom.isSome)
    ∨ w.roomState.peerToRoom.lookup peerId = none
      ∧ (roomType = .sfu → (w.sfu.lookup roomId).isSome
        ∧ (choices.addParticipant.isSome ∨ ¬ w.inviteStore.HasSpace roomId))

section

variable {state : InMemoryRoomState} {info : RoomInfo}

theorem rooms_dropPeer_enter_insertRoom (info : RoomInfo) :
    (((state.insertRoom roomId info).enter peerId roomId).dropPeer peerId true).rooms
      = (state.rooms.insert roomId state.nextArc).erase roomId := by
  have hroom : (state.insertRoom roomId info).rooms.lookup roomId = some state.nextArc :=
    AList.lookup_insert _
  have hindex : ((state.insertRoom roomId info).enter peerId roomId).peerToRoom.lookup peerId
      = some roomId := by
    simp only [enter, hroom, linkPeer]
    exact AList.lookup_insert _
  have hempty : ((⟨[], info⟩ : RoomMembers).push peerId).retain peerId = ⟨[], info⟩ := by
    simp [RoomMembers.push, RoomMembers.retain]
  unfold dropPeer
  rw [hindex]
  simp [enter, linkPeer, setMembers, unlinkPeer, insertRoom, eraseRoom, hempty]

theorem stores_undone (hfind : w.roomState.find roomId = none)
    (hindex : w.roomState.peerToRoom.lookup peerId = none)
    (hrooms : w'.roomState = (w.roomState.insertRoom roomId info).enter peerId roomId)
    (hinvites : w'.inviteStore = w.inviteStore)
    (hsfu : ∀ handle, w'.sfu.lookup handle = w.sfu.lookup handle) :
    (w'.withRooms (w'.roomState.dropPeer peerId true) clock).stores = w.stores := by
  have hnew : (w.roomState.insertRoom roomId info).find roomId = some ⟨[], info⟩ :=
    (find_insertRoom_eq _).trans (if_pos rfl)
  have hentered : ∀ peerId', w'.roomState.peerToRoom.lookup peerId'
      = if peerId' = peerId then some roomId else w.roomState.peerToRoom.lookup peerId' := by
    intro peerId'
    rw [hrooms]
    exact lookup_enter (by simp [hnew])
  refine Stores.ext (funext fun roomId' => ?_) (funext fun roomId' => ?_)
    (funext fun peerId' => ?_) hinvites (funext hsfu)
  · change (w'.roomState.dropPeer peerId true).rooms.lookup roomId' = _
    rw [hrooms, rooms_dropPeer_enter_insertRoom]
    exact HashMap.lookup_erase_insert (rooms_lookup_none hfind) roomId'
  · refine congrArg (Option.map _) ?_
    change (w'.roomState.dropPeer peerId true).find roomId' = w.roomState.find roomId'
    rw [find_dropPeer, hentered, if_pos rfl, hrooms, find_enter, find_insertRoom_eq]
    by_cases hroom : roomId' = roomId
    · subst hroom
      simp [hfind, RoomMembers.push, RoomMembers.retain]
    · simp [hroom, Ne.symm hroom]
  · refine (lookup_dropPeer _).trans ?_
    rw [hentered]
    split_ifs with hpeer
    · rw [hpeer, ← hindex]
      rfl
    · rfl

/-- The creator is in the new room. Taking it out again undoes the creation if it came from no other
room and the SFU room is not new. -/
structure World.RoomEntered (w w' : World) (roomId : RoomId) (peerId : PeerId)
    (roomType : RoomType) : Prop where
  present : (w'.roomArc roomId).isSome
  invites : w.roomState.peerToRoom.lookup peerId = none → w'.inviteStore = w.inviteStore
  undone : ∀ clock, (w'.withRooms (w'.roomState.dropPeer peerId true) clock).stores = w.stores
    ↔ w.roomState.peerToRoom.lookup peerId = none
      ∧ (roomType = .sfu → (w.sfu.lookup roomId).isSome)

theorem alone_getRoom :
    (roomState (RoomOp.perform (.getRoom roomId))).Alone ok
      (fun arc w' => w'.roomArc roomId = arc) w := by
  rintro env answer w' - ⟨⟩
  rfl

theorem alone_keepsArc (roomId : RoomId) {o : RoomOp JoinCheck} (h : ∀ now state store,
      (o.exec (JoinCheck.run now) now (state, store)).2.1.rooms = state.rooms) :
    (roomState (RoomOp.perform o)).Alone ok
      (fun _ w' => w'.roomArc roomId = w.roomArc roomId) w := by
  rintro env answer w' - ⟨⟩
  exact congrArg (AList.lookup roomId) (h _ _ _)

theorem alone_addPeer_present :
    (roomState (addPeer peerId roomId)).Alone ok (fun added w' => added = some () →
      (w'.roomArc roomId).isSome) w := by
  unfold addPeer
  rw [roomState_bind]
  refine (alone_true _).bind fun _ w₁ _ => ?_
  rw [roomState_bind]
  refine alone_getRoom.bind fun arc w₂ harc => ?_
  cases arc with
  | none => nofun
  | some arc =>
    have hmoving : ∀ now state (store : InviteStore), ((RoomOp.pushUnlessMoving arc peerId
        roomId).exec (JoinCheck.run now) now (state, store)).2.1.rooms = state.rooms := by
      intro now state store
      simp only [RoomOp.exec]
      split
      · split_ifs <;> rfl
      · rfl
    dsimp only
    rw [roomState_bind]
    refine (alone_keepsArc roomId hmoving).bind fun old w₃ hold => ?_
    cases old with
    | none =>
      dsimp only
      rw [roomState_bind]
      refine (alone_keepsArc roomId fun _ _ _ => rfl).bind fun _ w₄ hlinked _ => ?_
      rw [hlinked, hold, harc]
      rfl
    | some old =>
      dsimp only
      rw [roomState_bind]
      refine (alone_true _).bind fun _ w₄ _ => ?_
      rw [roomState_bind]
      refine alone_getRoom.bind fun arc w₅ harc => ?_
      cases arc with
      | none => nofun
      | some arc =>
        dsimp only
        rw [roomState_bind]
        refine (alone_keepsArc roomId fun _ _ _ => rfl).bind fun _ w₆ hpushed => ?_
        rw [roomState_bind]
        refine (alone_keepsArc roomId fun _ _ _ => rfl).bind fun _ w₇ hlinked _ => ?_
        rw [hlinked, hpushed, harc]
        rfl

/-- A new room is created and its creator added, after the SFU has created its side of it. -/
theorem alone_enterNewRoom {β : Type} {post : β → World → Prop} (roomType : RoomType) (w₁ : World)
    (hfind : w.roomState.find roomId = none) (hrooms : w₁.roomState = w.roomState)
    (hinvites : w₁.inviteStore = w.inviteStore)
    (hsfu : (roomType = .sfu → (w.sfu.lookup roomId).isSome)
      ↔ ∀ handle, w₁.sfu.lookup handle = w.sfu.lookup handle)
    (info : RoomInfo) {next : Option Unit → BackendProg β}
    (hpanic : ∀ w', (next none).Alone ok post w')
    (hnext : ∀ w', w.RoomEntered w' roomId peerId roomType → (next (some ())).Alone ok post w') :
    (do
      let _ ← roomState (createRoom roomId info)
      let added ← roomState (addPeer peerId roomId)
      next added : BackendProg β).Alone ok post w₁ := by
  by_cases hindex : w.roomState.peerToRoom.lookup peerId = none
  · refine alone_createRoom_addPeer (by rw [hrooms, hfind]) (by rw [hrooms, hindex]) info
      fun clock => hnext _ ⟨?_, fun _ => hinvites, fun clock' =>
        ⟨fun hsame => ⟨hindex, ?_⟩, fun h => ?_⟩⟩
    · rw [roomArc, withRooms, enter]
      split
      · rename_i hnone
        cases hnone.symm.trans (AList.lookup_insert _)
      · exact Option.isSome_of_eq_some (AList.lookup_insert _)
    · exact hsfu.mpr (congrFun (congrArg Stores.sfu hsame))
    · exact stores_undone hfind hindex (by rw [withRooms, hrooms]) hinvites (hsfu.mp h.2)
  · refine (alone_createRoom _ _).bind ?_
    rintro isNew _ ⟨clock, -, rfl⟩
    refine alone_addPeer_present.bind fun added w₂ hpresent => ?_
    cases added with
    | none => exact hpanic w₂
    | some _ =>
      refine hnext w₂ ⟨hpresent rfl, fun h => absurd h hindex, fun clock' => ?_⟩
      refine iff_of_false (fun hundone => hindex ?_) (fun h => hindex h.1)
      have hkept := congrFun (congrArg Stores.index hundone) peerId
      exact hkept.symm.trans ((lookup_dropPeer _).trans (if_pos rfl))

theorem World.TracelessCreation.iff_of_new {roomType : RoomType} {sfuAvailable : Bool}
    (peerId : PeerId) (hne : roomId ≠ "") (hfind : w.roomState.find roomId = none)
    (hcreated : roomType = .sfu → sfuAvailable = true ∧ choices.createRoom = none) :
    w.TracelessCreation choices roomId peerId roomType sfuAvailable
      ↔ w.roomState.peerToRoom.lookup peerId = none
        ∧ (roomType = .sfu → (w.sfu.lookup roomId).isSome
          ∧ (choices.addParticipant.isSome ∨ ¬ w.inviteStore.HasSpace roomId)) := by
  have hnone : ¬ (roomType = .sfu ∧ (sfuAvailable = false ∨ choices.createRoom.isSome)) := by
    rintro ⟨hsfu, h⟩
    simp [hcreated hsfu] at h
  simp [TracelessCreation, hne, hfind, hnone]

theorem createAndEnter_stores (config : Config) (hne : roomId ≠ "")
    (hfind : w.roomState.find roomId = none) (roomType : RoomType) (sfuAvailable : Bool) :
    (createAndEnter config roomId peerId roomType sfuAvailable).Alone choices.Follows
      (fun answer w' =>
        match answer with
        | none => True
        | some (.error _) =>
          w'.stores = w.stores ↔ w.TracelessCreation choices roomId peerId roomType sfuAvailable
        | some (.ok _) => w.RoomEntered w' roomId peerId roomType
          ∧ (roomType = .sfu → sfuAvailable = true ∧ choices.createRoom = none
            ∧ choices.addParticipant = none)) w := by
  cases roomType with
  | p2p =>
    exact alone_enterNewRoom .p2p w hfind rfl rfl (by simp) .newP2p
      (fun _ => trivial) fun w' hentered => ⟨hentered, by simp⟩
  | sfu =>
    cases sfuAvailable with
    | false => exact iff_of_true rfl (.inr (.inr (.inl ⟨rfl, .inl rfl⟩)))
    | true =>
      refine alone_sfuCreateRoom.bind ?_
      rintro created w₁ ⟨clock₁, hcreated⟩
      cases created with
      | error e =>
        obtain ⟨hfault, rfl⟩ := hcreated
        exact iff_of_true rfl (.inr (.inr (.inl ⟨rfl, .inr hfault⟩)))
      | ok handle =>
        obtain ⟨hfault, rfl, rfl⟩ := hcreated
        have hsfu : (RoomType.sfu = .sfu → (w.sfu.lookup handle).isSome)
            ↔ ∀ handle', (w.withSfu (w.sfu.insert handle (w.registered handle)) clock₁).sfu.lookup
              handle' = w.sfu.lookup handle' := by
          refine ⟨fun h => lookup_sfu_insert_registered (h rfl), fun h _ => ?_⟩
          rw [← h handle]
          exact Option.isSome_of_eq_some (AList.lookup_insert _)
        refine alone_enterNewRoom .sfu (w.withSfu _ clock₁) hfind rfl rfl hsfu _
          (fun _ => trivial) fun w₂ hentered => ?_
        refine (alone_sfuAddParticipant handle peerId).bind ?_
        rintro added _ ⟨⟨clock₃, rfl⟩, hadded⟩
        cases added with
        | error e =>
          refine (alone_removePeerInternal peerId true).bind ?_
          rintro _ _ ⟨clock₄, rfl⟩
          refine (hentered.undone clock₄).trans ?_
          rw [TracelessCreation.iff_of_new peerId hne hfind fun _ => ⟨rfl, hfault⟩]
          simp [hadded]
        | ok _ => exact ⟨⟨hentered.present, hentered.invites, hentered.undone⟩,
            fun _ => ⟨rfl, hfault, hadded⟩⟩

theorem alone_generateInvite (issuerId : String) (maxUses : Option Nat) (now : Instant) :
    (Op.perform (.generateInvite roomId issuerId maxUses now)).Alone ok (fun answer w' =>
      match answer with
      | .error _ => ¬ w.inviteStore.HasSpace roomId ∧ ∃ clock, w' = w.later clock
      | .ok _ => w.inviteStore.HasSpace roomId ∧ w'.roomState = w.roomState) w := by
  intro env answer w' _ hexec
  simp only [Op.exec, Op.run, InviteStore.generate] at hexec
  split_ifs at hexec with hglobal hroom <;> cases hexec
  · exact ⟨fun hspace => absurd hspace.1 (not_lt.mpr hglobal), _, rfl⟩
  · exact ⟨fun hspace => absurd hspace.2 (not_lt.mpr hroom), _, rfl⟩
  · exact ⟨⟨not_le.mp hglobal, not_le.mp hroom⟩, rfl⟩

theorem issueCreatorToken_failed (config : Config) (displayName : String) (roomType : RoomType) :
    (issueCreatorToken config roomId peerId displayName roomType).Alone ok
      (fun answer w' => ∀ e, answer = .error e →
        roomType = .sfu ∧ w'.roomState = w.roomState) w := by
  cases roomType with
  | p2p => rintro e ⟨⟩
  | sfu =>
    refine (alone_sign _ _ _ _ _).bind ?_
    rintro signed _ ⟨clock, history, rfl⟩
    cases signed with
    | error e => exact fun _ _ => ⟨rfl, rfl⟩
    | ok token =>
      refine (alone_true _).bind fun _ _ _ => ?_
      rintro e ⟨⟩

theorem handleCreateRoom_stores (config : Config) (roomId : RoomId) (hint : Option String)
    (displayName : String) (profileColor : Option String) (issuerId : String)
    (sfuAvailable : Bool) :
    (handleCreateRoom config roomId peerId displayName profileColor hint issuerId
      sfuAvailable).Alone choices.Follows (fun answer w' => ∀ e, answer = some (.error e) →
        (w'.stores = w.stores ↔ w.TracelessCreation choices (trim roomId) peerId
          (determineRoomType hint config.maxParticipants) sfuAvailable)) w := by
  unfold handleCreateRoom
  dsimp only
  split
  · rename_i hblank
    exact fun _ _ => iff_of_true rfl (.inl hblank)
  rename_i hne
  refine (alone_getRoomInfo _).bind ?_
  rintro info _ ⟨clock₁, rfl, rfl⟩
  split
  · rename_i hsome
    exact fun _ _ => iff_of_true rfl (.inr (.inl (by simpa using hsome)))
  rename_i hnone
  have hfind : w.roomState.find (trim roomId) = none := by simpa using hnone
  generalize determineRoomType hint config.maxParticipants = roomType
  refine (createAndEnter_stores (w := w.later clock₁) config hne hfind roomType
    sfuAvailable).bind fun entered w₂ hentered => ?_
  match entered, hentered with
  | none, _ => nofun
  | some (.error e), hfailed =>
    exact fun _ _ => hfailed
  | some (.ok _), ⟨hentered, hcreated⟩ =>
    have hiff := TracelessCreation.iff_of_new peerId hne hfind
      fun hsfu => ⟨(hcreated hsfu).1, (hcreated hsfu).2.1⟩
    have hinvites : w.roomState.peerToRoom.lookup peerId = none → w₂.inviteStore = w.inviteStore :=
      hentered.invites
    refine alone_getNow.bind ?_
    rintro now _ ⟨clock₃, rfl⟩
    refine (alone_generateInvite _ _ _).bind fun invite w₄ hinvite => ?_
    cases invite with
    | error e =>
      obtain ⟨hfull, clock₄, rfl⟩ := hinvite
      refine (alone_removePeerInternal peerId true).bind ?_
      rintro _ _ ⟨clock₅, rfl⟩ e' he
      rw [hiff]
      refine (hentered.undone clock₅).trans (and_congr_right fun hindex => ?_)
      have hnoSpace : ¬ w.inviteStore.HasSpace (trim roomId) := hinvites hindex ▸ hfull
      simp [hnoSpace, later]
    | ok record =>
      refine (alone_updateRoomInfo _ _).bind ?_
      rintro _ _ ⟨clock₅, -, rfl⟩
      refine (issueCreatorToken_failed config displayName roomType).bind
        fun issued w₆ hissued => ?_
      cases issued with
      | error e =>
        -- The creator gets no token, and the room stays.
        obtain ⟨rfl, hrooms₆⟩ := hissued e rfl
        refine fun _ _ => iff_of_false (fun hsame => ?_) ?_
        · have hpresent : w₆.roomArc (trim roomId) = w₂.roomArc (trim roomId) := by
            rw [roomArc, hrooms₆]
            exact roomArc_editRoom.trans (by rw [roomArc, hinvite.2]; rfl)
          have hsome := hentered.present
          rw [← hpresent, roomArc_none hsame hfind] at hsome
          cases hsome
        · rw [hiff]
          rintro ⟨hindex, h⟩
          have hspace : w.inviteStore.HasSpace (trim roomId) := hinvites hindex ▸ hinvite.1
          simp [(hcreated rfl).2.2, hspace] at h
      | ok signals => rintro e ⟨⟩

end

/-- **A failed legacy join or creation changes nothing** exactly if its condition holds. -/
theorem failed_legacy_join_stores (config : Config) (w : World) (roomId : RoomId)
    (peerId : PeerId) (displayName : String) (profileColor : Option String)
    (choices : JoinChoices) :
    (∀ inviteCode, (handleSfuJoin config roomId peerId displayName profileColor inviteCode).Alone
      choices.Follows (fun answer w' => ∀ e, answer = .error e →
        (w'.stores = w.stores ↔ w.TracelessJoin choices roomId)) w)
    ∧ ∀ hint issuerId sfuAvailable, (handleCreateRoom config roomId peerId displayName profileColor
      hint issuerId sfuAvailable).Alone choices.Follows (fun answer w' =>
        ∀ e, answer = some (.error e) → (w'.stores = w.stores ↔ w.TracelessCreation choices
          (trim roomId) peerId (determineRoomType hint config.maxParticipants) sfuAvailable)) w :=
  ⟨handleSfuJoin_stores config displayName profileColor,
    fun hint issuerId => handleCreateRoom_stores config roomId hint displayName profileColor
      issuerId⟩

def closedServer : Config := { openServer with inviteStore := { maxInvitesGlobal := 0 } }

theorem JoinChoices.follows_default (o : Op) {n : Nat} {env : Env} (h : env ∈ List.replicate n {}) :
    ({} : JoinChoices).Follows o env := by
  rw [List.eq_of_mem_replicate h]
  cases o <;> first | exact trivial | exact rfl

/-- The SFU is down when a peer joins; the server has no invite left for a new P2P room. -/
theorem failed_legacy_join_stores_refused :
    (∃ e w', (handleSfuJoin openServer "room" "peer-1" "ann" none none).eval Op.exec
        [{}, { sfuFault := some (.unavailable "down") }] (World.initial openServer .empty)
          = some (.error e, w') ∧ w'.stores = (World.initial openServer .empty).stores)
    ∧ ∃ e w', (handleCreateRoom closedServer "room" "peer-1" "ann" none (some "p2p") "issuer"
        true).eval Op.exec (List.replicate 12 {}) (World.initial closedServer .empty)
          = some (some (.error e), w')
            ∧ w'.stores = (World.initial closedServer .empty).stores := by
  have hjoin := (failed_legacy_join_stores openServer (.initial openServer .empty) "room"
    "peer-1" "ann" none { createRoom := some (.unavailable "down") }).1 none
  have hcreate := (failed_legacy_join_stores closedServer (.initial closedServer .empty)
    "room" "peer-1" "ann" none {}).2 (some "p2p") "issuer" true
  obtain ⟨⟨answer, w'⟩, heval, herror⟩ := (Option.any_eq_true _ _).mp (show
    ((handleCreateRoom closedServer "room" "peer-1" "ann" none (some "p2p") "issuer" true).eval
      Op.exec (List.replicate 12 {}) (initial closedServer .empty)).any
        (fun result => result.1.any fun answer => !answer.isOk) = true by decide)
  match answer, herror with
  | some (.error e), _ =>
    refine ⟨⟨_, _, rfl, ?_⟩, e, w', heval, ?_⟩
    · exact (hjoin {} _ _ trivial rfl { sfuFault := some (.unavailable "down") } _ _ rfl rfl _
        rfl).mpr (.inl rfl)
    · refine (hcreate.eval (fun o _ => JoinChoices.follows_default o) heval e rfl).mpr ?_
      exact .inr (.inr (.inr ⟨rfl, by simp [determineRoomType]⟩))

/-- The SFU takes the room and refuses the participant: the error leaves an empty room behind. -/
theorem not_failed_legacy_join_stores :
    ¬ ∀ (config : Config) (db : ChannelDb) (pool : BackendPool),
      (backend config).Reach BackendPool.Usage (BackendPool.initial config db) pool →
      pool.Quiescent → ∀ (roomId : RoomId) (peerId : PeerId) (displayName : String)
        (profileColor inviteCode hint : Option String) (issuerId : String) (sfuAvailable : Bool),
      (handleSfuJoin config roomId peerId displayName profileColor inviteCode).Alone
        (fun _ _ => True) (fun answer w => ∀ e, answer = .error e → w.stores = pool.shared.stores)
        pool.shared
      ∧ (handleCreateRoom config roomId peerId displayName profileColor hint issuerId
        sfuAvailable).Alone (fun _ _ => True)
          (fun answer w => ∀ e, answer = some (.error e) → w.stores = pool.shared.stores)
          pool.shared := by
  intro h
  obtain ⟨hjoin, -⟩ := h openServer .empty (.initial openServer .empty) .refl
    (fun _ hmem => (by cases hmem)) "room" "peer-1" "ann" none none none "issuer" true
  -- The room is looked up, created at the SFU and in the map; then the SFU refuses the peer.
  have hsame := hjoin {} _ _ trivial rfl {} _ _ trivial rfl {} _ _ trivial rfl
    { sfuFault := some (.unavailable "down") } _ _ trivial rfl _ rfl
  cases congrFun (congrArg Stores.lists hsame) "room"

end Wavis
