import Wavis.Proof.Alone

/-! Who is in which room, apart from everything else a room keeps. The functions of the room state
act on this directory alone. -/

namespace Wavis

open Concurrency InMemoryRoomState Function List

/-- A participant as the directory knows it: its id and the user it belongs to. -/
abbrev Listing := PeerId × Option String

structure Roster where
  sfu : Bool
  handle : Bool
  capacity : Nat
  peers : List PeerId
  listed : List Listing

structure Directory where
  room : RoomId → Option Roster
  index : PeerId → Option RoomId

def ParticipantInfo.listing (participant : ParticipantInfo) : Listing :=
  (participant.participantId, participant.userId)

def RoomInfo.roster (info : RoomInfo) (peers : List PeerId) : Roster where
  sfu := info.roomType == .sfu
  handle := info.sfuHandle.isSome
  capacity := info.maxParticipants
  peers
  listed := info.participants.map (·.listing)

def RoomMembers.roster (members : RoomMembers) : Roster := members.info.roster members.peers

def InMemoryRoomState.directory (state : InMemoryRoomState) : Directory where
  room roomId := (state.find roomId).map (·.roster)
  index peerId := state.peerToRoom.lookup peerId

namespace Roster

def push (roster : Roster) (peerId : PeerId) : Roster :=
  if peerId ∈ roster.peers then roster else { roster with peers := roster.peers ++ [peerId] }

def retain (roster : Roster) (peerId : PeerId) : Roster :=
  { roster with peers := roster.peers.filter (· ≠ peerId) }

def list (roster : Roster) (listing : Listing) : Roster :=
  { roster with listed := roster.listed ++ [listing] }

def unlist (roster : Roster) (peerId : PeerId) : Roster :=
  { roster with listed := roster.listed.filter (·.1 ≠ peerId) }

def edit (roster : Roster) : InfoEdit → Roster
  | .addParticipant participant => roster.list participant.listing
  | .join participant => roster.list participant.listing
  | .dropParticipant peerId => roster.unlist peerId
  | .kick peerId => roster.unlist peerId
  | _ => roster

end Roster

open Roster

namespace Directory

def editRoom (d : Directory) (roomId : RoomId) (edit : InfoEdit) : Directory :=
  { d with room := Function.update d.room roomId ((d.room roomId).map (·.edit edit)) }

def enter (d : Directory) (peerId : PeerId) (roomId : RoomId) : Directory where
  room := Function.update d.room roomId ((d.room roomId).map (·.push peerId))
  index := Function.update d.index peerId (some roomId)

/-- The peer leaves the room of its index entry; a room that is left empty may be removed. -/
def drop (d : Directory) (peerId : PeerId) (removeEmptyRoom : Bool) : Directory where
  room roomId :=
    if d.index peerId = some roomId then
      ((d.room roomId).map (·.retain peerId)).filter
        fun roster => !(removeEmptyRoom && roster.peers.isEmpty)
    else d.room roomId
  index := Function.update d.index peerId none

def insertRoom (d : Directory) (roomId : RoomId) (info : RoomInfo) : Directory :=
  { d with room := Function.update d.room roomId (some (info.roster [])) }

def eraseRoom (d : Directory) (roomId : RoomId) : Directory :=
  { d with room := Function.update d.room roomId none }

end Directory

section

variable {state : InMemoryRoomState} (roomId : RoomId) (peerId : PeerId) (members : RoomMembers)

theorem map_listing_updateFirst {test : ParticipantInfo → Bool}
    {change : ParticipantInfo → ParticipantInfo}
    (hchange : ∀ participant, (change participant).listing = participant.listing)
    (participants : List ParticipantInfo) :
    (updateFirst test change participants).map (·.listing) = participants.map (·.listing) := by
  induction participants with
  | nil => rfl
  | cons participant rest ih =>
    unfold updateFirst
    split_ifs
    · simp [hchange]
    · simp [ih]

theorem RoomMembers.roster_edit (edit : InfoEdit) (now : Instant) :
    (members.edit edit now).roster = members.roster.edit edit := by
  obtain ⟨peers, info⟩ := members
  cases hcore : edit.sharesOrSubRooms with
  | true =>
    have hsame := InfoEdit.sameCore_apply hcore now peers info
    have hedit : (RoomMembers.roster ⟨peers, info⟩).edit edit
        = RoomMembers.roster ⟨peers, info⟩ := by
      cases edit <;> first | rfl | cases hcore
    rw [hedit]
    simp only [RoomMembers.edit, RoomMembers.roster, RoomInfo.roster, hsame.roomType,
      hsame.sfuHandle, hsame.maxParticipants, hsame.participants]
  | false =>
    have hupdate : ∀ (participantId : PeerId) (change : ParticipantInfo → ParticipantInfo),
        (∀ participant, (change participant).listing = participant.listing) →
        (info.updateParticipant participantId change).roster peers = info.roster peers := by
      intro participantId change hchange
      simp only [RoomInfo.updateParticipant, RoomInfo.roster, map_listing_updateFirst hchange]
    cases edit with
    | mute participantId | unmute participantId => exact hupdate participantId _ fun _ => rfl
    | selfFlag participantId flag =>
      exact hupdate participantId _ fun _ => by cases flag <;> rfl
    | rename participantId username => exact hupdate participantId _ fun _ => rfl
    | recordViewerIdentity peerId identity =>
      obtain ⟨viewerIdentities, heq⟩ := info.recordViewerIdentity_eq peerId identity
      simp only [RoomMembers.edit, InfoEdit.apply, heq, RoomMembers.roster]
      rfl
    | addParticipant participant =>
      simp [RoomMembers.edit, InfoEdit.apply, RoomInfo.addParticipant, RoomMembers.roster,
        RoomInfo.roster, Roster.edit, Roster.list]
    | join participant =>
      simp [RoomMembers.edit, InfoEdit.apply, RoomInfo.addParticipant,
        RoomInfo.recordTokenIssued, RoomMembers.roster, RoomInfo.roster, Roster.edit,
        Roster.list]
    | dropParticipant participantId =>
      simp [RoomMembers.edit, InfoEdit.apply, RoomInfo.retainParticipants, RoomMembers.roster,
        RoomInfo.roster, Roster.edit, Roster.unlist, filter_map, ParticipantInfo.listing,
        comp_def]
    | kick participantId =>
      simp [RoomMembers.edit, InfoEdit.apply, RoomInfo.retainParticipants,
        RoomInfo.addRevokedParticipant, RoomMembers.roster, RoomInfo.roster, Roster.edit,
        Roster.unlist, filter_map, ParticipantInfo.listing, comp_def]
    | _ => first | rfl | cases hcore

theorem RoomMembers.roster_push : (members.push peerId).roster = members.roster.push peerId := by
  unfold RoomMembers.push Roster.push
  split_ifs with hmem hmem' hmem'
  · rfl
  · exact absurd hmem hmem'
  · exact absurd hmem' hmem
  · rfl

theorem room_of_find {roomId : RoomId} {members : RoomMembers}
    (hfind : state.find roomId = some members) :
    state.directory.room roomId = some members.roster := by
  simp [directory, hfind]

theorem directory_editRoom (edit : InfoEdit) (now : Instant) :
    (state.editRoom roomId edit now).directory = state.directory.editRoom roomId edit := by
  simp only [directory, Directory.editRoom, editRoom_peerToRoom, Directory.mk.injEq, and_true]
  funext roomId'
  rw [find_editRoom]
  by_cases hroom : roomId' = roomId
  · subst hroom
    simp only [if_true, update_self, Option.map_map]
    congr 1
    funext members
    exact members.roster_edit edit now
  · simp [hroom]

theorem directory_enter (hroom : (state.find roomId).isSome) :
    (state.enter peerId roomId).directory = state.directory.enter peerId roomId := by
  simp only [directory, Directory.enter, Directory.mk.injEq]
  refine ⟨?_, ?_⟩
  · funext roomId'
    rw [find_enter]
    by_cases hroom' : roomId' = roomId
    · subst hroom'
      simp only [if_true, update_self, Option.map_map]
      congr 1
      funext members
      exact members.roster_push peerId
    · simp [hroom']
  · funext peerId'
    rw [lookup_enter hroom]
    by_cases hpeer : peerId' = peerId
    · subst hpeer
      simp
    · simp [hpeer]

theorem directory_dropPeer (removeEmptyRoom : Bool) :
    (state.dropPeer peerId removeEmptyRoom).directory
      = state.directory.drop peerId removeEmptyRoom := by
  simp only [directory, Directory.drop, Directory.mk.injEq]
  refine ⟨?_, ?_⟩
  · funext roomId'
    rw [find_dropPeer]
    by_cases hindex : state.peerToRoom.lookup peerId = some roomId'
    · simp only [hindex, if_true]
      cases state.find roomId' with
      | none => rfl
      | some members =>
        have hpeers : (members.roster.retain peerId).peers = (members.retain peerId).peers := rfl
        simp only [Option.map_some, Option.filter_some, hpeers]
        split_ifs <;> rfl
    · simp only [hindex, if_false]
  · funext peerId'
    rw [lookup_dropPeer]
    by_cases hpeer : peerId' = peerId
    · subst hpeer
      simp
    · simp [hpeer]

theorem directory_insertRoom (info : RoomInfo) :
    (state.insertRoom roomId info).directory = state.directory.insertRoom roomId info := by
  simp only [directory, Directory.insertRoom, Directory.mk.injEq]
  refine ⟨?_, rfl⟩
  funext roomId'
  rw [find_insertRoom_eq]
  by_cases hroom : roomId' = roomId
  · subst hroom
    simp [RoomMembers.roster]
  · simp [hroom]

theorem directory_eraseRoom :
    (state.eraseRoom roomId).directory = state.directory.eraseRoom roomId := by
  simp only [directory, Directory.eraseRoom, Directory.mk.injEq]
  refine ⟨?_, rfl⟩
  funext roomId'
  rw [find_eraseRoom_eq]
  by_cases hroom : roomId' = roomId
  · subst hroom
    simp
  · simp [hroom]

end

variable {index : PeerId → Option RoomId} {peerId peerId' : PeerId} {full : Prop}

namespace Roster

def ids (roster : Roster) : List PeerId := roster.listed.map Prod.fst

/-- The participants shown are peers, each of them shown once; in a `full` roster all peers are. -/
structure Matched (full : Prop) (roster : Roster) : Prop where
  nodup : roster.ids.Nodup
  mem_peers : ∀ {peerId}, peerId ∈ roster.ids → peerId ∈ roster.peers
  mem_ids : full → ∀ {peerId}, peerId ∈ roster.peers → peerId ∈ roster.ids

variable {roster : Roster}

theorem mem_peers_push : peerId' ∈ (roster.push peerId).peers
    ↔ peerId' ∈ roster.peers ∨ peerId' = peerId := by
  unfold push
  split_ifs with hmem
  · exact ⟨.inl, fun h => h.elim id fun heq => heq ▸ hmem⟩
  · simp

@[simp] theorem push_listed : (roster.push peerId).listed = roster.listed := by
  unfold push
  split_ifs <;> rfl

@[simp] theorem push_sfu : (roster.push peerId).sfu = roster.sfu := by
  unfold push
  split_ifs <;> rfl

@[simp] theorem push_handle : (roster.push peerId).handle = roster.handle := by
  unfold push
  split_ifs <;> rfl

theorem ids_list (listing : Listing) : (roster.list listing).ids = roster.ids ++ [listing.1] := by
  simp [ids, list]

theorem ids_unlist : (roster.unlist peerId).ids = roster.ids.filter (· ≠ peerId) := by
  simp [ids, unlist, filter_map, comp_def]

theorem ids_push : (roster.push peerId).ids = roster.ids := by simp [ids]

section

variable (h : roster.Matched full)
include h

theorem Matched.arrive (hnew : peerId ∉ roster.peers) (userId : Option String) :
    ((roster.push peerId).list (peerId, userId)).Matched full where
  nodup := by
    rw [ids_list, ids_push]
    refine h.nodup.append (nodup_singleton _) ?_
    rw [disjoint_singleton]
    exact fun hmem => hnew (h.mem_peers hmem)
  mem_peers := by
    intro peerId' hmem
    rw [ids_list, ids_push, mem_append, mem_singleton] at hmem
    exact mem_peers_push.mpr (hmem.imp_left h.mem_peers)
  mem_ids := by
    intro hfull peerId' hmem
    rw [ids_list, ids_push, mem_append, mem_singleton]
    exact (mem_peers_push.mp hmem).imp_left (h.mem_ids hfull)

theorem Matched.push (hnot : ¬ full) : (roster.push peerId).Matched full where
  nodup := by
    rw [ids_push]
    exact h.nodup
  mem_peers := by
    intro peerId' hmem
    rw [ids_push] at hmem
    exact mem_peers_push.mpr (.inl (h.mem_peers hmem))
  mem_ids hfull := absurd hfull hnot

theorem Matched.depart : ((roster.retain peerId).unlist peerId).Matched full where
  nodup := by
    rw [ids_unlist]
    exact h.nodup.filter _
  mem_peers := by
    intro peerId' hmem
    rw [ids_unlist, mem_filter] at hmem
    exact mem_filter.mpr ⟨h.mem_peers hmem.1, hmem.2⟩
  mem_ids := by
    intro hfull peerId' hmem
    obtain ⟨hmem, hne⟩ := mem_filter.mp hmem
    rw [ids_unlist]
    exact mem_filter.mpr ⟨h.mem_ids hfull hmem, hne⟩

theorem Matched.unlist (hnew : peerId ∉ roster.peers) : (roster.unlist peerId).Matched full where
  nodup := by
    rw [ids_unlist]
    exact h.nodup.filter _
  mem_peers := by
    intro peerId' hmem
    rw [ids_unlist, mem_filter] at hmem
    exact h.mem_peers hmem.1
  mem_ids := by
    intro hfull peerId' hmem
    rw [ids_unlist, mem_filter]
    refine ⟨h.mem_ids hfull hmem, ?_⟩
    simp only [ne_eq, decide_eq_true_eq]
    exact fun heq => hnew (heq ▸ hmem)

end

/-- The index gives the room for each of its peers, and an SFU room shows peers of its own. -/
structure Fits (full : Prop) (roster : Roster) (roomId : RoomId)
    (index : PeerId → Option RoomId) : Prop where
  indexed : ∀ {peerId}, peerId ∈ roster.peers → index peerId = some roomId
  matched : roster.sfu = true → roster.Matched full
  userless : roster.sfu = false → ∀ listing ∈ roster.listed, listing.2 = none
  sfu_of_handle : roster.handle = true → roster.sfu = true

theorem Fits.congr_index {roomId : RoomId} {index' : PeerId → Option RoomId}
    (h : roster.Fits full roomId index)
    (hindex : ∀ peerId, index peerId = some roomId → index' peerId = some roomId) :
    roster.Fits full roomId index' :=
  { h with indexed := fun hmem => hindex _ (h.indexed hmem) }

end Roster

namespace Directory

def Sound (full : Prop) (d : Directory) : Prop :=
  ∀ roomId roster, d.room roomId = some roster → roster.Fits full roomId d.index

variable {d : Directory} {roomId : RoomId} {roster : Roster} {room : Option Roster}

section

variable (h : d.Sound full)
include h

theorem Sound.index_of_listed (hroom : d.room roomId = some roster) (hsfu : roster.sfu = true)
    (hlisted : peerId ∈ roster.ids) : d.index peerId = some roomId :=
  (h _ _ hroom).indexed (((h _ _ hroom).matched hsfu).mem_peers hlisted)

theorem Sound.not_mem_peers (hroom : d.room roomId = some roster)
    (hindex : d.index peerId ≠ some roomId) : peerId ∉ roster.peers :=
  fun hmem => hindex ((h _ _ hroom).indexed hmem)

theorem Sound.replace
    (hindex : ∀ peerId roomId', roomId' ≠ roomId → d.index peerId = some roomId' →
      index peerId = some roomId')
    (hroom : ∀ roster, room = some roster → roster.Fits full roomId index) :
    Sound full ⟨update d.room roomId room, index⟩ := by
  intro roomId' roster hfind
  dsimp only at hfind
  by_cases heq : roomId' = roomId
  · subst heq
    rw [update_self] at hfind
    exact hroom roster hfind
  · rw [update_of_ne heq] at hfind
    exact (h _ _ hfind).congr_index fun peerId => hindex peerId roomId' heq

theorem Sound.eraseRoom : (d.eraseRoom roomId).Sound full := by
  refine h.replace (fun _ _ _ hindex => hindex) ?_
  intro roster hroster
  cases hroster

theorem Sound.insertRoom {info : RoomInfo} (hempty : info.participants = [])
    (hhandle : info.sfuHandle.isSome = true → info.roomType = .sfu) :
    (d.insertRoom roomId info).Sound full := by
  refine h.replace (fun _ _ _ hindex => hindex) ?_
  intro roster hroster
  cases hroster
  have hlisted : (info.roster []).listed = [] := by simp [RoomInfo.roster, hempty]
  have hids : (info.roster []).ids = [] := by simp [ids, hlisted]
  refine ⟨fun hmem => ?_, fun _ => ⟨?_, ?_, ?_⟩, ?_, ?_⟩
  · cases hmem
  · simp [hids]
  · simp [hids]
  · intro _ peerId hmem
    cases hmem
  · simp [hlisted]
  · intro hsome
    simp [RoomInfo.roster, hhandle hsome]

end

theorem index_update_of_none {roomId' : RoomId} (hindex : d.index peerId = none)
    (h : d.index peerId' = some roomId') :
    update d.index peerId (some roomId) peerId' = some roomId' := by
  have hne : peerId' ≠ peerId := by
    rintro rfl
    rw [hindex] at h
    cases h
  rw [update_of_ne hne]
  exact h

theorem Sound.enter (h : d.Sound full) (hindex : d.index peerId = none)
    (hp2p : full → ∀ roster, d.room roomId = some roster → roster.sfu = false) :
    (d.enter peerId roomId).Sound full := by
  refine h.replace (fun peerId' roomId' _ => index_update_of_none hindex) ?_
  intro roster hroster
  obtain ⟨old, hold, rfl⟩ := Option.map_eq_some_iff.mp hroster
  have hfits := h _ _ hold
  refine ⟨fun hmem => ?_, fun hsfu => ?_, fun hsfu => ?_, fun hhandle => ?_⟩
  · rcases mem_peers_push.mp hmem with hmem | rfl
    · exact index_update_of_none hindex (hfits.indexed hmem)
    · exact update_self ..
  · rw [push_sfu] at hsfu
    refine (hfits.matched hsfu).push fun hfull => ?_
    rw [hp2p hfull old hold] at hsfu
    cases hsfu
  · simpa using hfits.userless (by simpa using hsfu)
  · simpa using hfits.sfu_of_handle (by simpa using hhandle)

theorem Sound.arrive (h : d.Sound full) (hindex : d.index peerId = none) {userId : Option String}
    {edit : InfoEdit} (hedit : ∀ roster, Roster.edit roster edit = roster.list (peerId, userId))
    (huser : ∀ roster, d.room roomId = some roster → roster.sfu = false → userId = none) :
    ((d.enter peerId roomId).editRoom roomId edit).Sound full := by
  simp only [Directory.editRoom, Directory.enter, update_self, update_idem]
  refine h.replace (fun peerId' roomId' _ => index_update_of_none hindex) ?_
  intro roster hroster
  obtain ⟨pushed, hpushed, rfl⟩ := Option.map_eq_some_iff.mp hroster
  obtain ⟨old, hold, rfl⟩ := Option.map_eq_some_iff.mp hpushed
  have hfits := h _ _ hold
  have hnew : peerId ∉ old.peers := h.not_mem_peers hold (by simp [hindex])
  rw [hedit]
  refine ⟨fun hmem => ?_, fun hsfu => ?_, fun hsfu => ?_, fun hhandle => ?_⟩
  · rcases mem_peers_push.mp hmem with hmem | rfl
    · exact index_update_of_none hindex (hfits.indexed hmem)
    · exact update_self ..
  · exact (hfits.matched (by simpa [list] using hsfu)).arrive hnew userId
  · have hp2p : old.sfu = false := by simpa [list] using hsfu
    intro listing hlisting
    rcases mem_append.mp hlisting with hlisting | hlisting
    · exact hfits.userless hp2p listing (by simpa using hlisting)
    · rw [mem_singleton.mp hlisting]
      exact huser old hold hp2p
  · simpa [list] using hfits.sfu_of_handle (by simpa [list] using hhandle)

theorem drop_of_none (hindex : d.index peerId = none) (removeEmptyRoom : Bool) :
    d.drop peerId removeEmptyRoom = d := by
  simp only [drop, hindex]
  congr 1
  exact update_eq_self_iff.mpr hindex.symm

def left (d : Directory) (peerId : PeerId) (roomId : RoomId) (removeEmptyRoom : Bool) :
    Option Roster :=
  ((d.room roomId).map (·.retain peerId)).filter
    fun roster => !(removeEmptyRoom && roster.peers.isEmpty)

theorem exists_of_left {removeEmptyRoom : Bool}
    (h : d.left peerId roomId removeEmptyRoom = some roster) :
    ∃ old, d.room roomId = some old ∧ roster = old.retain peerId := by
  obtain ⟨hroster, -⟩ := Option.filter_eq_some_iff.mp h
  obtain ⟨old, hold, rfl⟩ := Option.map_eq_some_iff.mp hroster
  exact ⟨old, hold, rfl⟩

theorem drop_of_some (hindex : d.index peerId = some roomId) (removeEmptyRoom : Bool) :
    d.drop peerId removeEmptyRoom
      = ⟨update d.room roomId (d.left peerId roomId removeEmptyRoom),
        update d.index peerId none⟩ := by
  simp only [drop, hindex, Option.some.injEq, mk.injEq, and_true]
  funext roomId'
  by_cases heq : roomId = roomId'
  · subst heq
    simp [left]
  · simp [heq, Ne.symm heq]

theorem index_update_of_ne {roomId' : RoomId} (hindex : d.index peerId = some roomId)
    (hne : roomId' ≠ roomId) (h : d.index peerId' = some roomId') :
    update d.index peerId none peerId' = some roomId' := by
  have hne' : peerId' ≠ peerId := by
    rintro rfl
    rw [hindex, Option.some.injEq] at h
    exact hne h.symm
  rw [update_of_ne hne']
  exact h

theorem index_update_of_retain (hfits : roster.Fits full roomId d.index)
    (hmem : peerId' ∈ (roster.retain peerId).peers) :
    update d.index peerId none peerId' = some roomId := by
  obtain ⟨hmem, hne⟩ := mem_filter.mp hmem
  rw [update_of_ne (by simpa using hne)]
  exact hfits.indexed hmem

theorem Sound.drop (h : d.Sound full) (removeEmptyRoom : Bool)
    (hp2p : ∀ roomId roster, d.index peerId = some roomId → d.room roomId = some roster →
      roster.sfu = false) : (d.drop peerId removeEmptyRoom).Sound full := by
  cases hindex : d.index peerId with
  | none => rwa [drop_of_none hindex]
  | some roomId =>
    rw [drop_of_some hindex]
    refine h.replace (fun peerId' roomId' => index_update_of_ne hindex) ?_
    intro roster hroster
    obtain ⟨old, hold, rfl⟩ := exists_of_left hroster
    have hfits := h _ _ hold
    have hsfu : (old.retain peerId).sfu = false := hp2p roomId old hindex hold
    refine ⟨index_update_of_retain hfits, fun hsfu' => ?_, fun _ => ?_, fun hhandle => ?_⟩
    · rw [hsfu] at hsfu'
      cases hsfu'
    · exact hfits.userless hsfu
    · exact hfits.sfu_of_handle hhandle

theorem Sound.depart (h : d.Sound full) (removeEmptyRoom : Bool) {edit : InfoEdit}
    (hedit : ∀ roster, Roster.edit roster edit = roster.unlist peerId)
    (hindex : ∀ roomId', d.index peerId = some roomId' → roomId' = roomId) :
    ((d.drop peerId removeEmptyRoom).editRoom roomId edit).Sound full := by
  have hsub : ∀ {roster : Roster}, ∀ listing ∈ (roster.unlist peerId).listed,
      listing ∈ roster.listed := fun listing hmem => (mem_filter.mp hmem).1
  cases hpeer : d.index peerId with
  | none =>
    rw [drop_of_none hpeer]
    refine h.replace (fun _ _ _ hindex => hindex) ?_
    intro roster hroster
    obtain ⟨old, hold, rfl⟩ := Option.map_eq_some_iff.mp hroster
    have hfits := h _ _ hold
    have hnew : peerId ∉ old.peers := h.not_mem_peers hold (by simp [hpeer])
    rw [hedit]
    exact ⟨hfits.indexed, fun hsfu => (hfits.matched hsfu).unlist hnew,
      fun hsfu listing hmem => hfits.userless hsfu listing (hsub listing hmem),
      hfits.sfu_of_handle⟩
  | some roomId' =>
    obtain rfl := hindex roomId' hpeer
    rw [drop_of_some hpeer]
    simp only [Directory.editRoom, update_self, update_idem]
    refine h.replace (fun peerId' roomId' => index_update_of_ne hpeer) ?_
    intro roster hroster
    obtain ⟨kept, hkept, rfl⟩ := Option.map_eq_some_iff.mp hroster
    obtain ⟨old, hold, rfl⟩ := exists_of_left hkept
    have hfits := h _ _ hold
    rw [hedit]
    exact ⟨index_update_of_retain hfits, fun hsfu => (hfits.matched hsfu).depart,
      fun hsfu listing hmem => hfits.userless hsfu listing (hsub listing hmem),
      hfits.sfu_of_handle⟩

/-- The creator of a room leaves it again before anybody else has come. -/
theorem drop_enter_insertRoom (hroom : d.room roomId = none) (hindex : d.index peerId = none)
    (info : RoomInfo) : ((d.insertRoom roomId info).enter peerId roomId).drop peerId true = d := by
  have hpeer : ((d.insertRoom roomId info).enter peerId roomId).index peerId = some roomId := by
    simp [enter]
  have hleft : ((d.insertRoom roomId info).enter peerId roomId).left peerId roomId true = none := by
    simp [left, enter, insertRoom, push, retain, RoomInfo.roster]
  rw [drop_of_some hpeer, hleft]
  simp only [enter, insertRoom, update_idem]
  rw [update_eq_self_iff.mpr hroom.symm, update_eq_self_iff.mpr hindex.symm]

def Present (d : Directory) (peerId : PeerId) (roomId : RoomId) : Prop :=
  d.index peerId = some roomId
    ∧ ∃ roster, d.room roomId = some roster ∧ peerId ∈ roster.ids ∧ peerId ∈ roster.peers

variable {roomId' : RoomId}

section

variable (h : d.Present peerId roomId)
include h

theorem Present.replace (hindex : index peerId = some roomId)
    (hroom : roomId = roomId' → ∀ old, d.room roomId = some old → peerId ∈ old.ids →
      peerId ∈ old.peers → ∃ roster, room = some roster ∧ peerId ∈ roster.ids
      ∧ peerId ∈ roster.peers) :
    Present ⟨update d.room roomId' room, index⟩ peerId roomId := by
  obtain ⟨-, old, hold, hids, hpeers⟩ := h
  refine ⟨hindex, ?_⟩
  by_cases heq : roomId = roomId'
  · obtain ⟨roster, hroster, hids', hpeers'⟩ := hroom heq old hold hids hpeers
    subst heq
    exact ⟨roster, by simp [hroster], hids', hpeers'⟩
  · exact ⟨old, by simp [heq, hold], hids, hpeers⟩

theorem Present.insertRoom (hnew : d.room roomId' = none) (info : RoomInfo) :
    (d.insertRoom roomId' info).Present peerId roomId := by
  refine h.replace h.1 ?_
  rintro rfl old hold
  rw [hnew] at hold
  cases hold

theorem Present.eraseRoom (hempty : ∀ roster, d.room roomId' = some roster → roster.peers = []) :
    (d.eraseRoom roomId').Present peerId roomId := by
  refine h.replace h.1 ?_
  rintro rfl old hold - hpeers
  rw [hempty old hold] at hpeers
  cases hpeers

theorem Present.enter (hne : peerId ≠ peerId') :
    (d.enter peerId' roomId').Present peerId roomId := by
  refine h.replace ((update_of_ne hne _ _).trans h.1) ?_
  rintro rfl old hold hids hpeers
  refine ⟨old.push peerId', by simp [hold], ?_, mem_peers_push.mpr (.inl hpeers)⟩
  rw [ids_push]
  exact hids

theorem Present.list {edit : InfoEdit} {listing : Listing}
    (hedit : ∀ roster, Roster.edit roster edit = roster.list listing) :
    (d.editRoom roomId' edit).Present peerId roomId := by
  refine h.replace h.1 ?_
  rintro rfl old hold hids hpeers
  refine ⟨old.list listing, by simp [hold, hedit], ?_, hpeers⟩
  rw [ids_list]
  exact mem_append_left _ hids

theorem Present.unlist (hne : peerId ≠ peerId') {edit : InfoEdit}
    (hedit : ∀ roster, Roster.edit roster edit = roster.unlist peerId') :
    (d.editRoom roomId' edit).Present peerId roomId := by
  refine h.replace h.1 ?_
  rintro rfl old hold hids hpeers
  refine ⟨old.unlist peerId', by simp [hold, hedit], ?_, hpeers⟩
  rw [ids_unlist]
  exact mem_filter.mpr ⟨hids, by simpa using hne⟩

theorem Present.drop (hne : peerId ≠ peerId') (removeEmptyRoom : Bool) :
    (d.drop peerId' removeEmptyRoom).Present peerId roomId := by
  cases hindex : d.index peerId' with
  | none => rwa [drop_of_none hindex]
  | some roomId' =>
    rw [drop_of_some hindex]
    refine h.replace ((update_of_ne hne _ _).trans h.1) ?_
    rintro rfl old hold hids hpeers
    have hkept : peerId ∈ (old.retain peerId').peers :=
      mem_filter.mpr ⟨hpeers, by simpa using hne⟩
    refine ⟨old.retain peerId', ?_, hids, hkept⟩
    have hsome : (old.retain peerId').peers.isEmpty = false := by
      simpa using ne_nil_of_mem hkept
    simp [left, hold, hsome]

end

end Directory

end Wavis
