import Wavis.Proof.Membership

namespace Wavis

open Concurrency InMemoryRoomState BackendProg.Neutral

section

variable {info : RoomInfo} {d : Directory} {full : Prop} {ok : Op → Env → Prop} {w₀ w : World}
  {roomId roomId' : RoomId} {peerId peerId' : PeerId} {gain : Option (PeerId × RoomId)} {β : Type}
  {post : β → World → Prop}

theorem alone_createRoom_moves (hsound : w.roomState.directory.Sound full)
    (hempty : info.participants = [])
    (hhandle : info.sfuHandle.isSome = true → info.roomType = .sfu) :
    (roomState (createRoom roomId info)).Alone ok (fun isNew w' => w.Moves full none w'
      ∧ isNew = (w.roomState.find roomId).isNone
      ∧ w'.roomState.directory = if isNew = true
        then w.roomState.directory.insertRoom roomId info else w.roomState.directory) w := by
  refine (alone_createRoom roomId info).mono ?_
  rintro isNew w' ⟨clock, hnew, rfl⟩
  have hdirectory : (w.withRooms (if isNew = true then w.roomState.insertRoom roomId info
      else w.roomState) clock).roomState.directory
      = if isNew = true then w.roomState.directory.insertRoom roomId info
        else w.roomState.directory := by
    split_ifs
    · exact directory_insertRoom roomId info
    · rfl
  refine ⟨⟨?_, rfl, ?_, ?_⟩, hnew, hdirectory⟩
  · rw [hdirectory]
    split_ifs
    · exact hsound.insertRoom hempty hhandle
    · exact hsound
  · intro peerId' roomId' hindex
    rw [hdirectory] at hindex
    split_ifs at hindex
    · exact .inl hindex
    · exact .inl hindex
  · intro peerId' roomId' hpresent
    rw [hdirectory]
    split_ifs with hcreated
    · have hnone : w.roomState.directory.room roomId = none := by
        rw [hcreated] at hnew
        simpa [InMemoryRoomState.directory] using hnew
      exact .inl (hpresent.insertRoom hnone info)
    · exact .inl hpresent

theorem Directory.index_enter (h : (d.enter peerId roomId).index peerId' = some roomId') :
    d.index peerId' = some roomId' ∨ some (peerId, roomId) = some (peerId', roomId') := by
  by_cases hpeer : peerId' = peerId
  · subst hpeer
    simp only [Directory.enter, Function.update_self, Option.some.injEq] at h
    exact .inr (by rw [h])
  · simp only [Directory.enter, Function.update_of_ne hpeer] at h
    exact .inl h

theorem Directory.Present.ne (h : d.Present peerId' roomId') (hindex : d.index peerId = none) :
    peerId' ≠ peerId := by
  rintro rfl
  rw [h.1] at hindex
  cases hindex

structure World.Entered (w w' : World) (peerId : PeerId) (roomId : RoomId) : Prop where
  directory : w'.roomState.directory = w.roomState.directory.enter peerId roomId
  connections : w'.connections = w.connections

theorem alone_tryAddPeerWith_entered (hsound : w.roomState.directory.Sound full)
    (hindex : w.roomState.directory.index peerId = none) (check : JoinCheck) :
    (roomState (tryAddPeerWith peerId roomId check)).Alone ok
      (fun answer w' => match answer with
        | .error _ => w.SamePlaces w'
        | .ok _ => w.Entered w' peerId roomId ∧ ∃ members, w.roomState.find roomId = some members
            ∧ members.peers.length < members.info.maxParticipants) w := by
  refine (alone_tryAddPeerWith roomId peerId check).mono ?_
  intro answer w' hpost
  cases answer with
  | error reason =>
    obtain ⟨⟨clock, rfl⟩, -⟩ := hpost
    exact ⟨rfl, rfl⟩
  | ok count =>
    obtain ⟨members, clock, store, hfind, hcases, rfl⟩ := hpost
    have hroom := room_of_find hfind
    have hnew : peerId ∉ members.roster.peers :=
      hsound.not_mem_peers hroom (by simp [hindex])
    refine ⟨⟨directory_enter roomId peerId (by simp [hfind]), rfl⟩, members, hfind, ?_⟩
    rcases hcases with ⟨hmem, -⟩ | ⟨-, hfree, -⟩
    · exact absurd hmem hnew
    · exact hfree

/-- The room may have been created on the way: the directories share only the index. -/
theorem alone_arrival_bind (hentered : w.roomState.directory = d.enter peerId roomId)
    (hconnections : w.connections = w₀.connections)
    (hsame : d.index = w₀.roomState.directory.index)
    (hkept : ∀ {peerId' roomId'}, w₀.roomState.directory.Present peerId' roomId' →
      d.Present peerId' roomId') (hsound : d.Sound full) (hindex : d.index peerId = none)
    {edit : InfoEdit} {userId : Option String}
    (hedit : ∀ roster, Roster.edit roster edit = roster.list (peerId, userId))
    (huser : ∀ roster, d.room roomId = some roster → roster.sfu = false → userId = none)
    {f : Option (RoomMembers × Instant) → BackendProg β}
    (hf : ∀ before w', w₀.Moves full (some (peerId, roomId)) w' → (f before).Alone ok post w') :
    (roomState (updateRoomInfo roomId edit) >>= f).Alone ok post w := by
  refine (alone_updateRoomInfo roomId edit).bind ?_
  rintro before w₁ ⟨clock, -, rfl⟩
  have hdirectory : (w.withRooms (w.roomState.editRoom roomId edit clock)
      clock).roomState.directory = (d.enter peerId roomId).editRoom roomId edit := by
    rw [← hentered]
    exact directory_editRoom roomId edit clock
  refine hf before _ ⟨?_, hconnections, ?_, ?_⟩
  · rw [hdirectory]
    exact hsound.arrive hindex hedit huser
  · intro peerId' roomId' hplace
    rw [hdirectory] at hplace
    rw [← hsame]
    exact Directory.index_enter hplace
  · intro peerId' roomId' hpresent
    rw [hdirectory]
    have hpresent' := hkept hpresent
    exact .inl ((hpresent'.enter (hpresent'.ne hindex)).list hedit)

/-- A P2P join finds no SFU room that would take it. -/
def World.FitsP2p (w : World) (roomId : RoomId) : Prop :=
  ∀ members, w.roomState.find roomId = some members → members.info.roomType = .sfu →
    members.info.maxParticipants ≤ members.peers.length

theorem handleP2pJoin_moves (hsound : w.roomState.directory.Sound full)
    (hindex : w.roomState.directory.index peerId = none) (hfits : full → w.FitsP2p roomId)
    (inviteCode : Option String) :
    (handleP2pJoin roomId peerId inviteCode).Alone ok
      (fun _ w' => w.Moves full (some (peerId, roomId)) w') w := by
  refine (alone_getPeersInRoom roomId).bind ?_
  rintro peersBefore w₁ ⟨clock, rfl, -⟩
  have hsound₁ : (w.later clock).roomState.directory.Sound full := hsound
  refine ((alone_createRoom roomId .newP2p).and
    (alone_createRoom_moves hsound₁ rfl nofun)).bind ?_
  rintro isNew w₂ ⟨⟨clock', hnew, rfl⟩, hmoves, -, -⟩
  refine (alone_tryAddPeerWith_entered hmoves.sound (hmoves.index_none hindex) _).bind ?_
  intro answer w₃ hpost
  have hmoves' : w.Moves full (some (peerId, roomId)) _ :=
    World.Moves.widen (((World.samePlaces_later clock).moves hsound).trans hmoves)
  cases answer with
  | error reason =>
    have hdone := hmoves'.trans (hpost.moves hmoves.sound)
    cases reason <;> exact hdone
  | ok count =>
    obtain ⟨hentered, members, hfind, hfree⟩ := hpost
    have hp2p : full → members.info.roomType ≠ .sfu := by
      intro hfull hsfu
      cases isNew with
      | true =>
        have hfresh : some (⟨[], .newP2p⟩ : RoomMembers) = some members := by
          rw [← hfind]
          exact ((find_insertRoom_eq RoomInfo.newP2p).trans (if_pos rfl)).symm
        cases hfresh
        cases hsfu
      | false => exact absurd hfree (not_lt.mpr (hfits hfull members hfind hsfu))
    refine hmoves'.trans ⟨?_, hentered.connections, ?_, ?_⟩
    · rw [hentered.directory]
      refine hmoves.sound.enter (hmoves.index_none hindex) fun hfull roster hroom => ?_
      have hroster : members.roster = roster := by simpa [directory, hfind] using hroom
      subst hroster
      simpa [RoomMembers.roster, RoomInfo.roster] using hp2p hfull
    · intro peerId' roomId' hplace
      rw [hentered.directory] at hplace
      exact Directory.index_enter hplace
    · intro peerId' roomId' hpresent
      rw [hentered.directory]
      exact .inl (hpresent.enter (hpresent.ne (hmoves.index_none hindex)))

section

variable (config : Config) (hsound : w.roomState.directory.Sound full)
include config hsound

theorem getOrCreateSfuRoom_moves :
    (getOrCreateSfuRoom config roomId).Alone ok (fun _ w' => w.Moves full none w') w := by
  have hmoves : w.Moves full none w := .refl hsound
  refine hmoves.neutral_bind (within_getRoomInfo rfl) fun info w₁ hmoves => ?_
  split
  · exact hmoves
  refine hmoves.neutral_bind (within_perform rfl) fun created w₂ hmoves => ?_
  cases created with
  | error e => exact hmoves
  | ok handle =>
    refine (alone_createRoom_moves hmoves.sound rfl fun _ => rfl).bind ?_
    rintro isNew w₃ ⟨hcreated, -, -⟩
    exact hmoves.trans hcreated

theorem completeSfuJoin_moves {participant : ParticipantInfo} (huser : participant.userId = none)
    (hindex : w.roomState.directory.index participant.participantId = none)
    (inviteCode : Option String) (token : SignedToken) :
    (completeSfuJoin config roomId participant inviteCode token).Alone ok
      (fun _ w' => w.Moves full (some (participant.participantId, roomId)) w') w := by
  refine (alone_getRoomInfo roomId).bind ?_
  rintro before w₁ ⟨clock, rfl, -⟩
  have hmoves : w.Moves full (some (participant.participantId, roomId)) (w.later clock) :=
    (World.samePlaces_later clock).moves hsound
  refine (alone_tryAddPeerWith_entered hmoves.sound hindex _).bind ?_
  intro answer w₂ hpost
  cases answer with
  | error reason =>
    have hdone := hmoves.trans (hpost.moves hmoves.sound)
    cases reason <;> exact hdone
  | ok count =>
    refine alone_arrival_bind hpost.1.directory hpost.1.connections rfl id hmoves.sound hindex
      (fun _ => rfl) (fun _ _ _ => huser) fun before w₃ harrived => ?_
    refine (hmoves.trans harrived).neutral ?_
    refine .bind (within_peerCount rfl) fun _ => ?_
    refine .bind (within_getRoomInfo rfl) fun _ => ?_
    exact .bind (shareStateSnapshot_inert _ _).neutral fun _ => .pure

theorem handleSfuJoin_moves (hindex : w.roomState.directory.index peerId = none)
    (displayName : String) (profileColor inviteCode : Option String) :
    (handleSfuJoin config roomId peerId displayName profileColor inviteCode).Alone ok
      (fun _ w' => w.Moves full (some (peerId, roomId)) w') w := by
  refine (getOrCreateSfuRoom_moves config hsound).bind ?_
  intro created w₁ hmoves
  cases created with
  | error e => exact hmoves.widen
  | ok handle =>
    refine hmoves.neutral_bind (within_perform rfl) fun added w₂ hmoves => ?_
    cases added with
    | error e => exact hmoves.widen
    | ok _ =>
      refine hmoves.neutral_bind (within_isParticipantRevoked rfl fun _ => rfl)
        fun revoked w₃ hmoves => ?_
      cases revoked with
      | true => exact hmoves.widen
      | false =>
        refine hmoves.neutral_bind (within_perform rfl) fun signed w₄ hmoves => ?_
        cases signed with
        | error e => exact hmoves.widen
        | ok token =>
          exact (completeSfuJoin_moves config hmoves.sound rfl
            (hmoves.index_none hindex) inviteCode token).mono
              fun _ _ hjoined => hmoves.widen.trans hjoined

end

def freshRoom (config : Config) (roomId : RoomId) : RoomType → RoomInfo
  | .p2p => .newP2p
  | .sfu => .newSfu config.maxParticipants roomId

theorem freshRoom_participants (config : Config) (roomType : RoomType) :
    (freshRoom config roomId roomType).participants = [] := by
  cases roomType <;> rfl

theorem freshRoom_handle (config : Config) (roomType : RoomType)
    (h : (freshRoom config roomId roomType).sfuHandle.isSome = true) :
    (freshRoom config roomId roomType).roomType = .sfu := by
  cases roomType with
  | p2p => cases h
  | sfu => rfl

/-- The creator is alone in the new room. -/
structure World.Opened (w w' : World) (peerId : PeerId) (roomId : RoomId) (info : RoomInfo) :
    Prop where
  directory : w'.roomState.directory
    = (w.roomState.directory.insertRoom roomId info).enter peerId roomId
  connections : w'.connections = w.connections

theorem World.Opened.neutral {w' : World} (h : w₀.Opened w peerId roomId info)
    (hsame : w.SamePlaces w') : w₀.Opened w' peerId roomId info :=
  ⟨hsame.directory.trans h.directory, hsame.connections.trans h.connections⟩

theorem alone_createRoom_addPeer_opened (hroom : w.roomState.find roomId = none)
    (hindex : w.roomState.directory.index peerId = none) {f : Option Unit → BackendProg β}
    (hf : ∀ w', w.Opened w' peerId roomId info → (f (some ())).Alone ok post w') :
    (roomState (createRoom roomId info) >>= fun _ =>
      roomState (addPeer peerId roomId) >>= f).Alone ok post w := by
  refine alone_createRoom_addPeer hroom hindex info fun clock => hf _ ⟨?_, rfl⟩
  have hfind : (w.roomState.insertRoom roomId info).find roomId = some ⟨[], info⟩ := by
    rw [find_insertRoom_eq, if_pos rfl]
  change ((w.roomState.insertRoom roomId info).enter peerId roomId).directory = _
  rw [directory_enter roomId peerId (by simp [hfind]), directory_insertRoom]

theorem World.Opened.removePeer (h : w₀.Opened w peerId roomId info)
    (hsound : w₀.roomState.directory.Sound full) (hroom : w₀.roomState.find roomId = none)
    (hindex : w₀.roomState.directory.index peerId = none) :
    (Wavis.roomState (InMemoryRoomState.removePeer peerId)).Alone ok
      (fun _ w' => w₀.Moves full none w') w := by
  refine (alone_removePeerInternal peerId true).mono ?_
  rintro _ w' ⟨clock, rfl⟩
  have hdirectory : (w.withRooms (w.roomState.dropPeer peerId true) clock).roomState.directory
      = w₀.roomState.directory := by
    change (w.roomState.dropPeer peerId true).directory = _
    rw [directory_dropPeer, h.directory]
    exact Directory.drop_enter_insertRoom (by simp [InMemoryRoomState.directory, hroom]) hindex
      info
  exact ⟨hdirectory ▸ hsound, h.connections, fun hplace => .inl (hdirectory ▸ hplace),
    fun hpresent => .inl (hdirectory ▸ hpresent)⟩

theorem createAndEnter_opened (config : Config) (hsound : w.roomState.directory.Sound full)
    (hroom : w.roomState.find roomId = none)
    (hindex : w.roomState.directory.index peerId = none) (roomType : RoomType)
    (sfuAvailable : Bool) :
    (createAndEnter config roomId peerId roomType sfuAvailable).Alone ok
      (fun answer w' => match answer with
        | none => False
        | some (.error _) => w.Moves full none w'
        | some (.ok _) => w.Opened w' peerId roomId (freshRoom config roomId roomType)) w := by
  unfold createAndEnter
  cases roomType with
  | p2p => exact alone_createRoom_addPeer_opened hroom hindex fun w' hopened => hopened
  | sfu =>
    dsimp only
    split
    · exact .refl hsound
    intro env created w₁ henv hexec
    have hsame : w.SamePlaces w₁ := Op.samePlaces rfl hexec
    have hhandle : ∀ handle, created = .ok handle → handle = roomId := by
      intro handle hcreated
      simp only [Op.exec, Op.run] at hexec
      split at hexec
      · cases hexec
        cases hcreated
      · cases hexec
        cases hcreated
        rfl
    have hroomState : w₁.roomState = w.roomState := by
      rcases Op.exec_roomState hexec with hstate | ⟨ro, hro, -⟩
      · exact hstate
      · cases hro
    cases created with
    | error e => exact hsame.moves hsound
    | ok handle =>
      obtain rfl := hhandle handle rfl
      refine alone_createRoom_addPeer_opened (by rw [hroomState]; exact hroom)
        (by rw [hroomState]; exact hindex) fun w₂ hopened => ?_
      have hopened' : w.Opened w₂ peerId handle (freshRoom config handle .sfu) :=
        ⟨by rw [hopened.directory, hroomState]; rfl,
          hopened.connections.trans hsame.connections⟩
      refine (alone (within_perform rfl)).bind ?_
      intro added w₃ hsame₃
      have hopened₃ := hopened'.neutral hsame₃
      cases added with
      | error e =>
        exact (hopened₃.removePeer hsound hroom hindex).bind fun _ _ hmoves => hmoves
      | ok _ => exact hopened₃

theorem handleCreateRoom_moves (config : Config) (hsound : w.roomState.directory.Sound full)
    (hindex : w.roomState.directory.index peerId = none) (displayName : String)
    (profileColor roomTypeHint : Option String) (issuerId : String) (sfuAvailable : Bool) :
    (handleCreateRoom config roomId peerId displayName profileColor roomTypeHint issuerId
      sfuAvailable).Alone ok
      (fun answer w' => w.Moves full (some (peerId, trim roomId)) w' ∧ answer.isSome = true) w := by
  unfold handleCreateRoom
  dsimp only
  split
  · exact ⟨.refl hsound, rfl⟩
  refine (alone_getRoomInfo (trim roomId)).bind ?_
  rintro info w₁ ⟨clock, rfl, hinfo⟩
  have hmoves : w.Moves full (some (peerId, trim roomId)) (w.later clock) :=
    (World.samePlaces_later clock).moves hsound
  split
  · exact ⟨hmoves, rfl⟩
  rename_i hnew
  have hroom : (w.later clock).roomState.find (trim roomId) = none := by
    change w.roomState.find (trim roomId) = none
    rw [hinfo] at hnew
    simpa using hnew
  refine (createAndEnter_opened config hmoves.sound hroom hindex _ sfuAvailable).bind ?_
  intro answer w₂ hpost
  match answer, hpost with
  | some (.error e), hpost => exact ⟨hmoves.trans hpost.widen, rfl⟩
  | some (.ok _), hopened =>
    refine (alone (within_perform rfl)).bind fun now w₃ hsame => ?_
    have hopened₃ := hopened.neutral hsame
    refine (alone (within_perform rfl)).bind fun invite w₄ hsame => ?_
    have hopened₄ := hopened₃.neutral hsame
    cases invite with
    | error e =>
      refine (hopened₄.removePeer hmoves.sound hroom hindex).bind ?_
      exact fun _ _ hleft => ⟨hmoves.trans hleft.widen, rfl⟩
    | ok invite =>
      -- The creator arrives in the directory that has the new room already.
      refine alone_arrival_bind hopened₄.directory hopened₄.connections rfl
        (fun hpresent => hpresent.insertRoom (by simpa [directory] using hroom) _)
        (hmoves.sound.insertRoom (freshRoom_participants config _)
          (freshRoom_handle config _)) hindex (fun _ => rfl) (fun _ _ _ => rfl)
        fun before w₅ harrived => ?_
      refine ((hmoves.trans harrived).neutral_bind
        (within_issueCreatorToken (fun _ _ _ _ _ => rfl) rfl)) fun token w₆ hdone => ?_
      cases token <;> exact ⟨hdone, rfl⟩

theorem createActiveRoom_moves (config : Config) (hmoves : w₀.Moves full none w) (channelId : Uuid)
    (passthroughEnabled : Bool) :
    (createActiveRoom config channelId passthroughEnabled).Alone ok
      (fun _ w' => w₀.Moves full none w') w := by
  refine hmoves.neutral_bind (within_perform rfl) fun suffix w₁ hmoves => ?_
  refine hmoves.neutral_bind (within_perform rfl) fun created w₂ hmoves => ?_
  cases created with
  | error e => exact hmoves.neutral (.map (within_perform rfl))
  | ok handle =>
    refine (alone_createRoom_moves hmoves.sound rfl fun _ => rfl).bind ?_
    rintro isNew w₃ ⟨hcreated, -, -⟩
    have hdone := hmoves.trans hcreated
    cases isNew <;>
      exact hdone.neutral (.map (within_perform rfl))

theorem ensureActiveRoom_moves (config : Config) (hmoves : w₀.Moves full none w) (channelId : Uuid)
    (passthroughEnabled : Bool) :
    (ensureActiveRoom config channelId passthroughEnabled).Alone ok
      (fun _ w' => w₀.Moves full none w') w := by
  refine hmoves.neutral_bind (within_perform rfl) fun active w₁ hmoves => ?_
  cases active with
  | none => exact createActiveRoom_moves config hmoves channelId passthroughEnabled
  | some roomId =>
    refine hmoves.neutral_bind (within_getRoomInfo rfl) fun info w₂ hmoves => ?_
    split
    · refine hmoves.neutral (.bind (within_updateRoomInfo rfl) fun _ => ?_)
      exact .map (within_perform rfl)
    · refine hmoves.neutral_bind (within_perform rfl) fun _ w₃ hmoves => ?_
      exact createActiveRoom_moves config hmoves channelId passthroughEnabled

theorem rollbackRoom_moves (hmoves : w₀.Moves full gain w) (channelId : Uuid) :
    (rollbackRoom roomId channelId).Alone ok (fun _ w' => w₀.Moves full gain w') w := by
  refine (alone_removeEmptyRoom roomId).bind ?_
  rintro _ w₁ ⟨clock, rfl⟩
  refine .neutral (hmoves.trans ?_) (within_perform rfl)
  by_cases hempty : (w.roomState.find roomId).any (·.peers.isEmpty) = true
  · rw [if_pos hempty]
    have hdirectory : (w.withRooms (w.roomState.eraseRoom roomId) clock).roomState.directory
        = w.roomState.directory.eraseRoom roomId := directory_eraseRoom roomId
    refine ⟨?_, rfl, .inl, fun hpresent => .inl ?_⟩
    · rw [hdirectory]
      exact hmoves.sound.eraseRoom
    · rw [hdirectory]
      refine hpresent.eraseRoom fun roster hroom => ?_
      obtain ⟨members, hfind, rfl⟩ := Option.map_eq_some_iff.mp hroom
      rw [hfind, Option.any_some] at hempty
      exact List.isEmpty_iff.mp hempty
  · rw [if_neg hempty]
    exact (World.samePlaces_later clock).moves hmoves.sound

theorem rollbackIfCreated_moves {α : Type} (hmoves : w₀.Moves full gain w) (channelId : Uuid)
    (created : Bool) (a : α) :
    (if created = true then rollbackRoom roomId channelId >>= fun _ => pure a
      else pure a : BackendProg α).Alone ok
        (fun answer w' => w₀.Moves full gain w' ∧ answer = a) w := by
  split_ifs
  · exact (rollbackRoom_moves hmoves channelId).bind fun _ _ hdone => ⟨hdone, rfl⟩
  · exact ⟨hmoves, rfl⟩

theorem completeVoiceJoin_moves (config : Config) (joiner : VoiceJoiner)
    (hentered : w₀.Entered w joiner.peerId roomId) (hsound : w₀.roomState.directory.Sound full)
    (hindex : w₀.roomState.directory.index joiner.peerId = none) (hsfu : w₀.IsSfu roomId)
    (channelId : Uuid) (role : ParticipantRole) (eviction : Option Eviction)
    (existing : List ParticipantInfo) :
    (completeVoiceJoin config joiner channelId role roomId eviction existing).Alone ok
      (fun answer w' => w₀.Moves full (some (joiner.peerId, roomId)) w'
        ∧ ∀ result, answer = .ok result → result.roomId = roomId) w := by
  refine alone_arrival_bind hentered.directory hentered.connections rfl id hsound hindex
    (fun _ => rfl) ?_ fun before w₁ hmoves => ?_
  · intro roster hroom hp2p
    rw [hsfu roster hroom] at hp2p
    cases hp2p
  refine hmoves.neutral_bind (syncSubRoomStateOnVoiceJoin_inert _ _ _).neutral
    fun sync w₂ hmoves => ?_
  refine hmoves.neutral_bind (within_perform rfl) fun signed w₃ hmoves => ?_
  cases signed with
  | error e => exact ⟨hmoves, nofun⟩
  | ok token =>
    refine hmoves.neutral_bind (within_peerCount rfl) fun count w₄ hmoves => ?_
    refine hmoves.neutral_bind (within_getRoomInfo rfl) fun info w₅ hmoves => ?_
    refine hmoves.neutral_bind (shareStateSnapshot_inert _ _).neutral fun share w₆ hmoves => ?_
    refine ⟨hmoves, ?_⟩
    rintro result ⟨⟩
    rfl

section

variable (config : Config) (joiner : VoiceJoiner) (hsound : w.roomState.directory.Sound full)
  (hindex : w.roomState.directory.index joiner.peerId = none)
include config joiner hsound hindex

theorem enterVoiceRoom_moves (channelId : Uuid) (role : ParticipantRole) (created : Bool) :
    (enterVoiceRoom config joiner channelId role roomId created).Alone ok
      (fun answer w' => w.Moves full (some (joiner.peerId, roomId)) w'
        ∧ ∀ result, answer = .ok result → result.roomId = roomId) w := by
  refine (evictStaleSession_moves hsound joiner.userId).bind ?_
  intro eviction w₁ hmoves
  refine (alone_getRoomInfo roomId).bind ?_
  rintro info w₂ ⟨clock, rfl, hinfo⟩
  have hmoves₂ : w.Moves full none (w₁.later clock) :=
    hmoves.trans ((World.samePlaces_later clock).moves hmoves.sound)
  split
  · exact ⟨hmoves₂.widen, by rintro _ ⟨⟩⟩
  rename_i handle hhandle
  -- A room with a handle is an SFU room, so it may show a participant that belongs to a user.
  have hsfu : w₁.IsSfu roomId := by
    intro roster hroom
    obtain ⟨members, hfind, rfl⟩ := Option.map_eq_some_iff.mp hroom
    refine (hmoves.sound _ _ hroom).sfu_of_handle ?_
    rw [hinfo, hfind] at hhandle
    have hsome : members.info.sfuHandle = some handle := hhandle
    simp [RoomMembers.roster, RoomInfo.roster, hsome]
  have hfailed : ∀ {w' : World} (e : VoiceJoinError), w.Moves full none w' →
      (if created = true then rollbackRoom roomId channelId >>= fun _ => pure (.error e)
        else pure (.error e) : BackendProg (Except VoiceJoinError VoiceJoinResult)).Alone ok
        (fun answer w' => w.Moves full (some (joiner.peerId, roomId)) w'
          ∧ ∀ result, answer = .ok result → result.roomId = roomId) w' := by
    intro w' e hmoves
    refine (rollbackIfCreated_moves hmoves channelId created _).mono ?_
    rintro answer w'' ⟨hdone, rfl⟩
    exact ⟨hdone.widen, by rintro _ ⟨⟩⟩
  refine (alone (within_perform rfl)).bind ?_
  intro added w₃ hsame
  have hmoves₃ := hmoves₂.trans (hsame.moves hmoves₂.sound)
  cases added with
  | error e => exact hfailed _ hmoves₃
  | ok _ =>
    refine (alone (within_getRoomInfo rfl)).bind ?_
    intro before w₄ hsame₄
    have hmoves₄ := hmoves₃.trans (hsame₄.moves hmoves₃.sound)
    have hsfu₄ : w₄.IsSfu roomId := by
      intro roster hroom
      rw [hsame₄.directory, hsame.directory] at hroom
      exact hsfu roster hroom
    have hindex₄ := hmoves₄.index_none hindex
    refine (alone_tryAddPeerWith_entered hmoves₄.sound hindex₄ _).bind ?_
    intro answer w₅ hpost
    cases answer with
    | error reason => exact hfailed _ (hmoves₄.trans (hpost.moves hmoves₄.sound))
    | ok count =>
      exact (completeVoiceJoin_moves config joiner hpost.1 hmoves₄.sound hindex₄ hsfu₄ channelId
        role eviction _).mono fun _ _ hdone => ⟨hmoves₄.widen.trans hdone.1, hdone.2⟩

theorem joinVoice_moves (channelId : String) :
    (joinVoice config channelId joiner).Alone ok
      (fun answer w' => ∃ roomId, w.Moves full (some (joiner.peerId, roomId)) w'
        ∧ ∀ result, answer = .ok result → result.roomId = roomId) w := by
  have hrefused : ∀ {w' : World} (e : VoiceJoinError), w.Moves full none w' →
      ∃ roomId, w.Moves full (some (joiner.peerId, roomId)) w'
        ∧ ∀ result, Except.error e = Except.ok result → VoiceJoinResult.roomId result = roomId :=
    fun _ hmoves => ⟨"", hmoves.widen, nofun⟩
  have hmoves : w.Moves full none w := .refl hsound
  unfold joinVoice
  split
  · exact hrefused _ hmoves
  refine hmoves.neutral_bind (within_perform rfl) fun membership w₁ hmoves => ?_
  rcases membership with e | _ | ⟨membership, passthroughEnabled⟩
  · exact hrefused _ hmoves
  · exact hrefused _ hmoves
  dsimp only
  split
  · exact hrefused _ hmoves
  refine (ensureActiveRoom_moves config hmoves _ passthroughEnabled).bind ?_
  intro active w₂ hmoves
  rcases active with e | ⟨roomId, created⟩
  · exact hrefused _ hmoves
  exact (enterVoiceRoom_moves config joiner hmoves.sound (hmoves.index_none hindex) _ _
    created).mono fun _ _ hdone => ⟨roomId, hmoves.widen.trans hdone.1, hdone.2⟩

end

end

structure World.PlacedBesides (full : Prop) (first : Directory) (w : World) (peerId : PeerId) :
    Prop where
  sound : w.roomState.directory.Sound full
  sessions : ∀ {peerId' connection session}, peerId' ≠ peerId →
    w.connections.lookup peerId' = some connection → connection.session = some session →
    session.Names peerId' w.roomState.directory
  stays : ∀ {peerId' roomId}, first.Present peerId' roomId →
    w.roomState.directory.Present peerId' roomId ∨ w.roomState.directory.index peerId' = none

section

variable {session : SignalingSession} {answer : Unit} {full : Prop} {first : Directory}
  {ok : Op → Env → Prop} {w w' : World} {roomId : RoomId} {peerId : PeerId} {env : Env}

theorem World.Placed.besides (h : w.Placed full first) : w.PlacedBesides full first peerId :=
  ⟨h.sound, fun _ hconnection hsession => h.sessions hconnection hsession, h.stays⟩

theorem World.PlacedBesides.leaves (h : w.PlacedBesides full first peerId)
    (hmoves : w.Moves full none w') : w'.PlacedBesides full first peerId where
  sound := hmoves.sound
  sessions := by
    intro peerId' connection session hpeer hconnection hsession
    rw [hmoves.connections] at hconnection
    refine (h.sessions hpeer hconnection hsession).of_index fun {roomId} hindex => ?_
    exact (hmoves.index hindex).elim id nofun
  stays := by
    intro peerId' roomId hpresent
    rcases h.stays hpresent with hpresent | hgone
    · rcases hmoves.stays hpresent with hpresent | hgone | ⟨_, hgain⟩
      · exact .inl hpresent
      · exact .inr hgone
      · cases hgain
    · exact .inr (hmoves.index_none hgone)

theorem World.Placed.joins (h : w.Placed full first)
    (hmoves : w.Moves full (some (peerId, roomId)) w') (hfirst : first.index peerId = none) :
    w'.PlacedBesides full first peerId where
  sound := hmoves.sound
  sessions := by
    intro peerId' connection session hpeer hconnection hsession
    rw [hmoves.connections] at hconnection
    refine (h.sessions hconnection hsession).of_index fun {roomId'} hindex => ?_
    rcases hmoves.index hindex with hindex | hgain
    · exact hindex
    · cases hgain
      exact absurd rfl hpeer
  stays hpresent := by
    refine h.stays_moves hmoves ?_ hpresent
    rintro _ _ ⟨⟩
    exact hfirst

section

variable (h : w.PlacedBesides full first peerId)
include h

theorem World.PlacedBesides.setSession
    (hexec : (Op.setSession peerId session).exec env w = some (answer, w')) :
    w'.PlacedBesides full first peerId ∧ w'.roomState = w.roomState := by
  cases hexec
  have hroomState : ((w.tick env.elapsed).setConnection peerId fun connection =>
      { connection with session := some session }).roomState = w.roomState :=
    World.setConnection_roomState _ _ _
  refine ⟨⟨hroomState ▸ h.sound, ?_, fun hpresent => hroomState ▸ h.stays hpresent⟩, hroomState⟩
  intro peerId' connection session' hpeer hconnection hsession
  rw [World.lookup_setConnection, if_neg hpeer] at hconnection
  rw [hroomState]
  exact h.sessions hpeer hconnection hsession

theorem World.PlacedBesides.placed_setSession
    (hnames : session.Names peerId w.roomState.directory)
    (hexec : (Op.setSession peerId session).exec env w = some (answer, w')) :
    w'.Placed full first := by
  obtain ⟨hbesides, hroomState⟩ := h.setSession hexec
  refine ⟨hbesides.sound, ?_, hbesides.stays⟩
  intro peerId' connection session' hconnection hsession
  by_cases hpeer : peerId' = peerId
  · subst hpeer
    cases hexec
    rw [World.lookup_setConnection, if_pos rfl] at hconnection
    obtain ⟨old, -, rfl⟩ := Option.map_eq_some_iff.mp hconnection
    cases hsession
    rw [hroomState]
    exact hnames
  · exact hbesides.sessions hpeer hconnection hsession

theorem World.PlacedBesides.close
    (hexec : (Op.closeConnection peerId).exec env w = some (answer, w')) :
    w'.Placed full first := by
  cases hexec
  refine ⟨h.sound, ?_, h.stays⟩
  intro peerId' connection session hconnection hsession
  have hlookup : (w.connections.erase peerId).lookup peerId' = some connection := hconnection
  by_cases hpeer : peerId' = peerId
  · subst hpeer
    rw [AList.lookup_erase] at hlookup
    cases hlookup
  · rw [AList.lookup_erase_ne hpeer] at hlookup
    exact h.sessions hpeer hlookup hsession

end

theorem forgetConnection_moves (session : SignalingSession)
    (hsound : w.roomState.directory.Sound full) (hunshown : w.Unshown peerId) :
    (forgetConnection session peerId).Alone ok (fun _ w' => w.Moves full none w') w := by
  refine (alone (within_perform rfl)).bind ?_
  intro _ w₁ hsame
  have hmoves : w.Moves full none w₁ := hsame.moves hsound
  have hunshown₁ : w₁.Unshown peerId := by
    intro roomId roster hindex hroom
    rw [hsame.directory] at hindex hroom
    exact hunshown roomId roster hindex hroom
  refine (hmoves.removePeer hunshown₁).bind ?_
  rintro _ w₂ ⟨hleft, -⟩
  exact hleft.neutral (within_cleanupRoomArtifacts rfl rfl fun _ => rfl)

theorem cleanupConnection_placed (h : w.PlacedBesides full first peerId)
    (hnames : session.Names peerId w.roomState.directory) :
    (cleanupConnection session peerId).Alone ok
      (fun _ w' => w'.PlacedBesides full first peerId) w := by
  unfold cleanupConnection
  split
  · exact h
  intro env _ w₁ _ hexec
  obtain ⟨hbesides, hroomState⟩ := h.setSession hexec
  have hnames₁ : session.Names peerId w₁.roomState.directory := by
    rw [hroomState]
    exact hnames
  obtain rfl := hnames.participantId
  have hforget : ∀ {w₂ : World}, w₁.Moves full none w₂ → w₂.Unshown session.participantId →
      (forgetConnection session session.participantId).Alone ok
        (fun _ w' => w'.PlacedBesides full first session.participantId) w₂ := fun hmoves hunshown =>
    (forgetConnection_moves session hmoves.sound hunshown).mono fun _ _ hleft =>
      hbesides.leaves (hmoves.trans hleft)
  split
  · refine (leaveRoom_moves hbesides.sound (fun _ => hnames₁.roomId) true).bind ?_
    rintro _ w₂ ⟨hmoves, hunshown, -⟩
    exact hforget hmoves hunshown
  · rename_i hleft
    refine hforget (.refl hbesides.sound) (unshown_of_index_none ?_)
    exact hnames₁.leaveHandled (by simpa using hleft)

/-- The connection has joined, or its peer is in no room. -/
def World.JoinedOrOut (w : World) (peerId : PeerId) : Prop :=
  ∀ connection, w.connections.lookup peerId = some connection → connection.session = none →
    w.roomState.peerToRoom.lookup peerId = none

theorem closeConnection_placed (h : w.Placed full first) (hout : w.JoinedOrOut peerId) :
    (closeConnection peerId).Alone ok (fun _ w' => w'.Placed full first) w := by
  intro env connection w₁ _ hexec
  cases hexec
  have hplaced : (w.tick env.elapsed).Placed full first := ⟨h.sound, h.sessions, h.stays⟩
  cases hconnection : (w.tick env.elapsed).connections.lookup peerId with
  | none => exact hplaced
  | some connection =>
    have hclose : ∀ {w₂ : World}, w₂.PlacedBesides full first peerId →
        (Op.perform (.closeConnection peerId)).Alone ok (fun _ w' => w'.Placed full first) w₂ :=
      fun hbesides _ _ _ _ hexec => hbesides.close hexec
    obtain ⟨issuerId, userId, session⟩ := connection
    cases session with
    | some session =>
      exact (cleanupConnection_placed hplaced.besides
        (hplaced.sessions hconnection rfl)).bind fun _ _ => hclose
    | none =>
      have hindex : w.roomState.directory.index peerId = none := hout _ hconnection rfl
      have hmoves : w.Moves full none (w.tick env.elapsed) := ⟨h.sound, rfl, .inl, .inl⟩
      have hcleanup : (cleanupUnjoinedConnection peerId).Alone ok
          (fun _ w' => w'.PlacedBesides full first peerId) (w.tick env.elapsed) := by
        refine hmoves.neutral_bind (within_perform rfl) fun _ w₂ hmoves => ?_
        refine (hmoves.removePeer (unshown_of_index_none (hmoves.index_none hindex))).mono ?_
        exact fun _ _ hleft => h.besides.leaves hleft.1
      exact hcleanup.bind fun _ _ => hclose

end

end Wavis
