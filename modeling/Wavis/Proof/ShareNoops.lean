import Wavis.Proof.Alone
import Wavis.ShareRequests

namespace Wavis

open Concurrency InMemoryRoomState RoomInfo RoomMembers

def ShareRequest.handle (roomId : RoomId) : ShareRequest → BackendProg ShareResult
  | start senderId role shareType => handleStartShareWithType roomId senderId role shareType
  | stop peerId targetParticipantId role shareTypeToStop =>
    handleStopShare roomId peerId targetParticipantId role shareTypeToStop
  | stopAll role => handleStopAllShares roomId role
  | cleanup peerId => do
      let signals ← cleanupShareOnDisconnect roomId peerId
      pure ((signals.map .ok).getD .noop)

section

variable {ok : Op → Env → Prop} {w : World} {roomId : RoomId} {members : RoomMembers}

theorem alone_runShare (hfind : w.roomState.find roomId = some members) (edit : InfoEdit)
    (missing : ShareResult) (result : RoomMembers → ShareResult) :
    (runShare roomId edit missing result).Alone ok (fun answer w' => answer = result members
      ∧ ∃ clock, w'.roomState.find roomId = some (members.edit edit clock)) w := by
  refine (alone_withRoomWrite roomId edit).bind ?_
  rintro before w₁ ⟨clock, rfl, rfl⟩
  rw [hfind]
  exact ⟨rfl, clock, find_editRoom_self hfind edit clock⟩

theorem alone_handle (hfind : w.roomState.find roomId = some members) (request : ShareRequest) :
    (request.handle roomId).Alone ok (fun answer w' => answer = (members.share request).1
      ∧ w'.roomState.find roomId = some (members.share request).2) w := by
  cases request with
  | start senderId role shareType =>
    refine (alone_runShare hfind _ _ _).mono ?_
    rintro answer w' ⟨rfl, clock, hfind'⟩
    exact ⟨rfl, hfind'⟩
  | stop peerId target role shareType =>
    simp only [ShareRequest.handle, handleStopShare, share]
    split_ifs
    · exact ⟨rfl, hfind⟩
    · refine (alone_runShare hfind _ _ _).mono ?_
      rintro answer w' ⟨rfl, clock, hfind'⟩
      exact ⟨rfl, hfind'⟩
  | stopAll role =>
    simp only [ShareRequest.handle, handleStopAllShares, share]
    split_ifs
    · exact ⟨rfl, hfind⟩
    · refine (alone_runShare hfind _ _ _).mono ?_
      rintro answer w' ⟨rfl, clock, hfind'⟩
      exact ⟨rfl, hfind'⟩
  | cleanup peerId =>
    have hcleanup : (cleanupShareOnDisconnect roomId peerId).Alone ok (fun signals w' =>
        signals = (members.info.cleanupShare peerId).1 ∧ w'.roomState.find roomId
          = some (members.withInfo (members.info.cleanupShare peerId).2)) w := by
      refine (alone_withRoomWrite roomId (.cleanupShare peerId)).bind ?_
      rintro before w₁ ⟨clock, rfl, rfl⟩
      rw [hfind]
      refine ⟨rfl, ?_⟩
      change (w.roomState.editRoom roomId (.cleanupShare peerId) clock).find roomId = _
      rw [find_editRoom, if_pos rfl, hfind]
      rfl
    refine hcleanup.bind ?_
    rintro signals w' ⟨rfl, hfind'⟩
    exact ⟨rfl, hfind'⟩

end

structure RoomInfo.SameShares (info info' : RoomInfo) : Prop where
  rest : info' = { info with activeShareTypes := info'.activeShareTypes }
  types : ∀ participantId,
    info'.activeShareTypes.lookup participantId = info.activeShareTypes.lookup participantId

namespace RoomInfo.SameShares

variable {info info' : RoomInfo} {peerId : String}

theorem refl (info : RoomInfo) : info.SameShares info := ⟨rfl, fun _ => rfl⟩

theorem shareTypes (h : info.SameShares info') (peerId : String) :
    info'.shareTypes peerId = info.shareTypes peerId := by
  rw [RoomInfo.shareTypes, h.types, RoomInfo.shareTypes]

theorem setShareTypes (h : info.SameShares info') (types : HashSet WireShareType) :
    (info.setShareTypes peerId types).SameShares
      (info'.setShareTypes peerId types) := by
  refine ⟨?_, fun other => ?_⟩
  · rw [h.rest]
    rfl
  · by_cases hother : other = peerId
    · subst hother
      simp [setShareTypes]
    · simp only [RoomInfo.setShareTypes, AList.lookup_insert_ne hother]
      exact h.types other

theorem clearShares (h : info.SameShares info') :
    (info.clearShares peerId).SameShares (info'.clearShares peerId) := by
  refine ⟨?_, fun other => ?_⟩
  · rw [h.rest]
    rfl
  · by_cases hother : other = peerId
    · subst hother
      simp [clearShares]
    · simp only [RoomInfo.clearShares, AList.lookup_erase_ne hother]
      exact h.types other

theorem of_setShareTypes {types : HashSet WireShareType}
    (h : info.activeShareTypes.lookup peerId = some types) :
    info.SameShares (info.setShareTypes peerId types) := by
  refine ⟨rfl, fun other => ?_⟩
  by_cases hother : other = peerId
  · subst hother
    simp [RoomInfo.setShareTypes, h]
  · simp [RoomInfo.setShareTypes, hother]

section

variable (h : info.SameShares info')
include h

theorem activeSharePayloads : info'.activeSharePayloads = info.activeSharePayloads := by
  have hshares : info'.activeShares = info.activeShares := by rw [h.rest]
  unfold RoomInfo.activeSharePayloads
  simp only [hshares, h.types]

theorem exists_types : ∃ types, info' = { info with activeShareTypes := types } :=
  ⟨_, h.rest⟩

theorem startShare (peers : List PeerId) (senderId : PeerId) (role : ParticipantRole)
    (shareType : Option WireShareType) :
    (info'.startShare peers senderId role shareType).1
        = (info.startShare peers senderId role shareType).1
      ∧ (info.startShare peers senderId role shareType).2.SameShares
        (info'.startShare peers senderId role shareType).2 := by
  have htypes := h.shareTypes senderId
  obtain ⟨types, rfl⟩ := h.exists_types
  have hstarted : RoomInfo.SameShares
      { info with activeShares := info.activeShares.insert senderId () }
      { info with
        activeShares := info.activeShares.insert senderId (), activeShareTypes := types } :=
    ⟨rfl, h.types⟩
  unfold startShare
  rw [htypes]
  cases shareType with
  | some kind =>
    dsimp only
    rw [hstarted.shareTypes senderId]
    split_ifs <;> first
      | exact ⟨rfl, h⟩
      | exact ⟨rfl, h.setShareTypes _⟩
      | exact ⟨rfl, hstarted.setShareTypes _⟩
  | none =>
    dsimp only
    split_ifs <;> first
      | exact ⟨rfl, h⟩
      | exact ⟨rfl, h.setShareTypes _⟩
      | exact ⟨rfl, hstarted⟩

theorem stopShare (peers : List PeerId) (target : PeerId) (shareType : Option WireShareType) :
    (info'.stopShare peers target shareType).1 = (info.stopShare peers target shareType).1
      ∧ (info.stopShare peers target shareType).2.SameShares
        (info'.stopShare peers target shareType).2 := by
  have hlookup := h.types target
  obtain ⟨types, rfl⟩ := h.exists_types
  unfold stopShare
  rw [hlookup]
  cases shareType <;> cases info.activeShareTypes.lookup target <;>
    · dsimp only
      split_ifs <;> first
        | exact ⟨rfl, h⟩
        | exact ⟨rfl, h.clearShares⟩
        | exact ⟨rfl, h.setShareTypes _⟩

theorem stopAllShares :
    info'.stopAllShares.1 = info.stopAllShares.1
      ∧ info.stopAllShares.2.SameShares info'.stopAllShares.2 := by
  obtain ⟨types, rfl⟩ := h.exists_types
  unfold stopAllShares
  split_ifs
  · exact ⟨rfl, h⟩
  · exact ⟨rfl, h⟩
  · exact ⟨rfl, .refl _⟩

theorem cleanupShare (peerId : PeerId) :
    (info'.cleanupShare peerId).1 = (info.cleanupShare peerId).1
      ∧ (info.cleanupShare peerId).2.SameShares (info'.cleanupShare peerId).2 := by
  obtain ⟨types, rfl⟩ := h.exists_types
  unfold cleanupShare
  split_ifs
  · exact ⟨rfl, h.clearShares⟩
  · exact ⟨rfl, h⟩

end

end RoomInfo.SameShares

/-- The rooms have the same peers and answer share requests alike. -/
def RoomMembers.SameShares (members members' : RoomMembers) : Prop :=
  members'.peers = members.peers ∧ members.info.SameShares members'.info

namespace RoomMembers.SameShares

variable {members members' : RoomMembers}

theorem share (h : members.SameShares members') (request : ShareRequest) :
    (members'.share request).1 = (members.share request).1
      ∧ (members.share request).2.SameShares (members'.share request).2 := by
  obtain ⟨hpeers, hinfo⟩ := h
  cases request with
  | start senderId role shareType =>
    obtain ⟨hresult, hnext⟩ := hinfo.startShare members.peers senderId role shareType
    simp only [RoomMembers.share, hpeers]
    exact ⟨hresult, hpeers, hnext⟩
  | stop peerId target role shareType =>
    obtain ⟨hresult, hnext⟩ := hinfo.stopShare members.peers (target.getD peerId) shareType
    simp only [RoomMembers.share, hpeers]
    split_ifs
    · exact ⟨rfl, hpeers, hinfo⟩
    · exact ⟨hresult, hpeers, hnext⟩
  | stopAll role =>
    obtain ⟨hresult, hnext⟩ := hinfo.stopAllShares
    simp only [RoomMembers.share]
    split_ifs
    · exact ⟨rfl, hpeers, hinfo⟩
    · exact ⟨hresult, hpeers, hnext⟩
  | cleanup peerId =>
    obtain ⟨hresult, hnext⟩ := hinfo.cleanupShare peerId
    simp only [RoomMembers.share, hresult]
    exact ⟨trivial, hpeers, hnext⟩

theorem shareAll (h : members.SameShares members') (requests : List ShareRequest) :
    (members'.shareAll requests).1 = (members.shareAll requests).1
      ∧ (members.shareAll requests).2.SameShares (members'.shareAll requests).2 := by
  induction requests generalizing members members' with
  | nil => exact ⟨rfl, h⟩
  | cons request rest ih =>
    obtain ⟨hresult, hnext⟩ := h.share request
    obtain ⟨hresults, hlast⟩ := ih hnext
    simp only [shareAll, hresult, hresults]
    exact ⟨trivial, hlast⟩

end RoomMembers.SameShares

/-- A second start without a type makes an entry for a sharer that has none. -/
def RoomMembers.MakesBlankEntry (members : RoomMembers) : ShareRequest → Prop
  | .start senderId role none =>
    members.info.roomType = .sfu
      ∧ (members.info.sharePermission = .hostOnly → role = .host)
      ∧ senderId ∈ members.peers
      ∧ (members.info.subRoomState.any fun subRooms =>
        (subRooms.participantAssignments.lookup senderId).isNone) = false
      ∧ members.info.activeShares.contains senderId = true
      ∧ members.info.activeShareTypes.lookup senderId = none
  | _ => False

variable {shareType : Option WireShareType} {info : RoomInfo} {peers : List PeerId}

theorem RoomInfo.startShare_noop {senderId : PeerId} {role : ParticipantRole}
    (hblank : ¬ (⟨peers, info⟩ : RoomMembers).MakesBlankEntry (.start senderId role shareType))
    (h : ∀ signals, (info.startShare peers senderId role shareType).1 ≠ .ok signals) :
    info.SameShares (info.startShare peers senderId role shareType).2 := by
  have hwritten : ∀ types, info.activeShareTypes.lookup senderId = some types →
      info.SameShares (info.setShareTypes senderId (info.shareTypes senderId)) := by
    intro types hlookup
    have hexisting : info.shareTypes senderId = types := by
      simp [shareTypes, hlookup]
    exact hexisting ▸ .of_setShareTypes hlookup
  unfold startShare at h ⊢
  cases shareType with
  | some kind =>
    dsimp only at h ⊢
    split_ifs at h ⊢ with htype hrole hpeer hseat hsharing hrunning
    · exact .refl info
    · exact .refl info
    · exact .refl info
    · cases hlookup : info.activeShareTypes.lookup senderId with
      | some types => exact hwritten types hlookup
      | none => simp [shareTypes, hlookup, HashSet.contains] at hrunning
    · exact absurd rfl (h _)
    · exact absurd rfl (h _)
    · exact .refl info
  | none =>
    dsimp only at h ⊢
    split_ifs at h ⊢ with htype hrole hpeer hseat hsharing hempty
    · exact .refl info
    · exact .refl info
    · exact .refl info
    · cases hlookup : info.activeShareTypes.lookup senderId with
      | some types => exact hwritten types hlookup
      | none =>
        refine absurd ⟨not_not.mp htype, fun hhost => ?_, hpeer, by simpa using hseat, hsharing,
          hlookup⟩ hblank
        by_contra hguest
        exact hrole ⟨hhost, hguest⟩
    · exact absurd rfl (h _)
    · exact absurd rfl (h _)
    · exact .refl info

theorem RoomInfo.stopShare_noop {target : PeerId}
    (h : ∀ signals, (info.stopShare peers target shareType).1 ≠ .ok signals) :
    (info.stopShare peers target shareType).2 = info := by
  unfold stopShare at h ⊢
  cases shareType <;> cases hlookup : info.activeShareTypes.lookup target <;>
    · simp only [hlookup] at h ⊢
      split_ifs at h ⊢ <;> first
        | rfl
        | exact absurd rfl (h _)

theorem RoomInfo.stopAllShares_noop (h : ∀ signals, info.stopAllShares.1 ≠ .ok signals) :
    info.stopAllShares.2 = info := by
  unfold stopAllShares at h ⊢
  split_ifs at h ⊢
  · rfl
  · rfl
  · exact absurd rfl (h _)

theorem RoomInfo.cleanupShare_noop {peerId : PeerId} (h : (info.cleanupShare peerId).1 = none) :
    (info.cleanupShare peerId).2 = info := by
  unfold cleanupShare at h ⊢
  split_ifs at h ⊢
  rfl

theorem RoomMembers.share_noop {members : RoomMembers} {request : ShareRequest}
    (hblank : ¬ members.MakesBlankEntry request)
    (h : ∀ signals, (members.share request).1 ≠ .ok signals) :
    members.SameShares (members.share request).2 := by
  cases request with
  | start senderId role shareType => exact ⟨rfl, startShare_noop hblank h⟩
  | stop peerId target role shareType =>
    simp only [share] at h ⊢
    split_ifs at h ⊢
    · exact ⟨rfl, .refl _⟩
    · refine ⟨rfl, ?_⟩
      simp only [withInfo, stopShare_noop h]
      exact .refl _
  | stopAll role =>
    simp only [share] at h ⊢
    split_ifs at h ⊢
    · exact ⟨rfl, .refl _⟩
    · refine ⟨rfl, ?_⟩
      simp only [withInfo, stopAllShares_noop h]
      exact .refl _
  | cleanup peerId =>
    have hnone : (members.info.cleanupShare peerId).1 = none := by
      cases hsignals : (members.info.cleanupShare peerId).1 with
      | none => rfl
      | some signals =>
        refine absurd ?_ (h signals)
        simp [share, hsignals]
    refine ⟨rfl, ?_⟩
    simp only [share, withInfo, cleanupShare_noop hnone]
    exact .refl _

/-- After the empty entry was made, a stop that names a type ends the share no longer. -/
theorem RoomMembers.MakesBlankEntry.noticed {members : RoomMembers} {request : ShareRequest}
    (h : members.MakesBlankEntry request) :
    ∃ stop, ((members.share request).2.share stop).1 ≠ (members.share stop).1 := by
  rcases request with ⟨senderId, role, _ | _⟩ | _ | _ | _
  case start.none =>
    obtain ⟨htype, hrole, hpeer, hseat, hsharing, hlookup⟩ := h
    have hguest : ¬ (members.info.sharePermission = .hostOnly ∧ role ≠ .host) :=
      fun hguest => hguest.2 (hrole hguest.1)
    have hblank : members.share (.start senderId role none)
        = (.noop, members.withInfo (members.info.setShareTypes senderId ∅)) := by
      simp [-ne_eq, share, startShare, htype, hpeer, hsharing, hlookup, hseat, hguest, shareTypes]
    refine ⟨.stop senderId none role (some .window), ?_⟩
    rw [hblank]
    simp_all [share, stopShare, withInfo, setShareTypes, HashSet.contains]
  all_goals exact absurd h id

/-- **A share request that does nothing is not noticed by any later requests**, unless it makes an
empty entry. -/
theorem share_noop_unnoticed (members : RoomMembers) (request : ShareRequest)
    (hnoop : ∀ signals, (members.share request).1 ≠ .ok signals) :
    (∀ later,
      let inserted := (members.share request).2.shareAll later
      let plain := members.shareAll later
      inserted.1 = plain.1
        ∧ inserted.2.info.activeShares = plain.2.info.activeShares
        ∧ inserted.2.info.activeSharePayloads = plain.2.info.activeSharePayloads)
      ↔ ¬ members.MakesBlankEntry request := by
  refine ⟨fun hsame hblank => ?_, fun hblank later => ?_⟩
  · obtain ⟨stop, hne⟩ := hblank.noticed
    exact hne (List.head_eq_of_cons_eq (hsame [stop]).1)
  · obtain ⟨hanswers, -, hlast⟩ := (share_noop hblank hnoop).shareAll later
    refine ⟨hanswers, ?_, hlast.activeSharePayloads⟩
    rw [hlast.rest]

/-- The room shares nothing, and nothing is left of earlier shares. -/
def RoomInfo.NoShares (info : RoomInfo) : Prop :=
  info.activeShares = ∅ ∧ info.activeShareTypes = ∅

def soloRoom : RoomMembers := ⟨["peer-1"], .newSfu 6 "room"⟩

/-- The sharer of a window starts the same window again. -/
theorem share_noop_unnoticed_window :
    let sharing := (soloRoom.share (.start "peer-1" .host (some .window))).2
    ((sharing.share (.start "peer-1" .host (some .window))).2.shareAll
        [.stop "peer-1" none .host (some .window)]).1
      = (sharing.shareAll [.stop "peer-1" none .host (some .window)]).1 := by
  intro sharing
  refine ((share_noop_unnoticed sharing (.start "peer-1" .host (some .window)) ?_).mpr id _).1
  intro signals
  have hnoop : (sharing.share (.start "peer-1" .host (some .window))).1 = .noop := by rfl
  rw [hnoop]
  exact nofun

/-- A peer starts to share without a type, twice, and a stop that names a type does nothing. -/
theorem not_share_noop_unnoticed :
    ¬ ∀ (members : RoomMembers) (requests : List ShareRequest) (request : ShareRequest)
      (later : List ShareRequest), members.info.NoShares →
      let reached := (members.shareAll requests).2
      (∀ signals, (reached.share request).1 ≠ .ok signals) →
      let inserted := (reached.share request).2.shareAll later
      let plain := reached.shareAll later
      inserted.1 = plain.1
        ∧ inserted.2.info.activeShares = plain.2.info.activeShares
        ∧ inserted.2.info.activeSharePayloads = plain.2.info.activeSharePayloads := by
  intro h
  have hsame := h soloRoom [.start "peer-1" .host none] (.start "peer-1" .host none)
    [.stop "peer-1" none .host (some .window)] ⟨rfl, rfl⟩ (by
      intro signals
      have hnoop : ((soloRoom.shareAll [.start "peer-1" .host none]).2.share
          (.start "peer-1" .host none)).1 = .noop := by rfl
      rw [hnoop]
      exact nofun)
  have hignored : (((soloRoom.shareAll [.start "peer-1" .host none]).2.share
      (.start "peer-1" .host none)).2.shareAll
      [.stop "peer-1" none .host (some .window)]).1 = [.noop] := by rfl
  have hstopped : ((soloRoom.shareAll [.start "peer-1" .host none]).2.shareAll
      [.stop "peer-1" none .host (some .window)]).1
      = [.ok [.broadcastAll (.shareStopped "peer-1" "peer-1" none)]] := by rfl
  have hanswers := hsame.1
  rw [hignored, hstopped] at hanswers
  cases hanswers

end Wavis
