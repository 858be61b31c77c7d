import Wavis.Proof.ShareView
import Wavis.Proof.ShareNoops

/-! As long as every start names a type, the shares of a room are a table that gives every
participant a slot for video and a slot for audio. -/

namespace Wavis

open RoomInfo RoomMembers HashSet

inductive VideoShare where
  | screenAudio
  | window
  | browser
  deriving DecidableEq

@[ext] structure ShareSlots where
  video : Option VideoShare
  audio : Bool
  deriving DecidableEq

namespace ShareSlots

def empty : ShareSlots := ⟨none, false⟩

def holds (slots : ShareSlots) : WireShareType → Bool
  | .screenAudio => slots.video == some .screenAudio
  | .window => slots.video == some .window
  | .browser => slots.video == some .browser
  | .audioOnly => slots.audio

def fill (slots : ShareSlots) : WireShareType → ShareSlots
  | .screenAudio => { slots with video := some .screenAudio }
  | .window => { slots with video := some .window }
  | .browser => { slots with video := some .browser }
  | .audioOnly => { slots with audio := true }

def drop (slots : ShareSlots) (kind : WireShareType) : ShareSlots :=
  if slots.holds kind then
    if kind.isAudioOnly then { slots with audio := false } else { slots with video := none }
  else slots

end ShareSlots

open ShareSlots

abbrev SlotTable := PeerId → ShareSlots

inductive ShareOutcome where
  | done
  | noop
  | refused
  deriving DecidableEq

def ShareResult.outcome : ShareResult → ShareOutcome
  | ok _ => .done
  | noop => .noop
  | error _ => .refused

def SlotTable.request (table : SlotTable) : ShareRequest → SlotTable
  | .start senderId _ (some kind) => Function.update table senderId ((table senderId).fill kind)
  | .start _ _ none => table
  | .stop peerId target _ (some kind) =>
    let target := target.getD peerId
    Function.update table target ((table target).drop kind)
  | .stop peerId target _ none => Function.update table (target.getD peerId) .empty
  | .stopAll _ => fun _ => .empty
  | .cleanup peerId => Function.update table peerId .empty

/-- Whether the request names a type, if it starts a share. -/
def ShareRequest.isTyped : ShareRequest → Bool
  | start _ _ none => false
  | _ => true

/-- Only members may share, only hosts where the room says so, and only hosts stop others. -/
def RoomMembers.grants (members : RoomMembers) : ShareRequest → Bool
  | .start senderId role _ =>
    (members.info.sharePermission != .hostOnly || decide (role = .host))
      && decide (senderId ∈ members.peers)
      && !(members.info.subRoomState.any fun subRooms =>
        (subRooms.participantAssignments.lookup senderId).isNone)
  | .stop peerId target role _ => decide (target.getD peerId = peerId ∨ role = .host)
  | .stopAll role => decide (role = .host)
  | .cleanup _ => true

/-- The outcome of a request and the table it leaves: refused, or done if the table changes. -/
noncomputable def SlotTable.step (grants : ShareRequest → Bool) (table : SlotTable)
    (request : ShareRequest) : ShareOutcome × SlotTable :=
  open Classical in
  if grants request = false then (.refused, table)
  else if table.request request = table then (.noop, table)
  else (.done, table.request request)

noncomputable def SlotTable.run (grants : ShareRequest → Bool) (table : SlotTable) :
    List ShareRequest → List ShareOutcome × SlotTable
  | [] => ([], table)
  | request :: rest =>
    let (outcome, next) := table.step grants request
    let (outcomes, last) := next.run grants rest
    (outcome :: outcomes, last)

namespace ShareSlots

variable {slots slots' : ShareSlots} {kind kind' : WireShareType}

@[simp] theorem holds_empty : empty.holds kind = false := by cases kind <;> rfl

theorem ext_holds (h : ∀ kind, slots.holds kind = slots'.holds kind) : slots = slots' := by
  have hscreen := h .screenAudio
  have hwindow := h .window
  have hbrowser := h .browser
  refine ShareSlots.ext ?_ (h .audioOnly)
  simp only [holds] at hscreen hwindow hbrowser
  rcases hvideo : slots.video with _ | _ | _ | _ <;>
    rcases hvideo' : slots'.video with _ | _ | _ | _ <;> simp_all

theorem holds_fill : (slots.fill kind).holds kind'
    = (decide (kind' = kind) || (slots.holds kind' && kind'.isAudioOnly != kind.isAudioOnly)) := by
  cases kind <;> cases kind' <;> simp [fill, holds, WireShareType.isAudioOnly]

theorem fill_of_holds (h : slots.holds kind = true) : slots.fill kind = slots := by
  cases kind <;> simp_all [holds, fill, ShareSlots.ext_iff]

theorem holds_drop :
    (slots.drop kind).holds kind' = (slots.holds kind' && decide (kind' ≠ kind)) := by
  unfold drop
  by_cases hholds : slots.holds kind = true
  · cases kind <;> cases kind' <;>
      simp_all [holds, WireShareType.isAudioOnly]
  · rw [if_neg hholds]
    by_cases hkind : kind' = kind
    · subst hkind
      simp [Bool.not_eq_true _ ▸ hholds]
    · simp [hkind]

theorem eq_empty_iff : slots = empty ↔ ∀ kind, slots.holds kind = false :=
  ⟨fun h _ => h ▸ holds_empty, fun h => ext_holds fun kind => (h kind).trans holds_empty.symm⟩

theorem ne_empty (h : slots.holds kind = true) : slots ≠ empty := by
  rintro rfl
  rw [holds_empty] at h
  cases h

theorem exists_holds (h : slots ≠ empty) : ∃ kind, slots.holds kind = true := by
  by_contra hnone
  push Not at hnone
  exact h (eq_empty_iff.mpr fun kind => by simpa using hnone kind)

theorem holds_inj (h : slots.holds kind = true) (h' : slots.holds kind' = true)
    (hsame : kind.isAudioOnly = kind'.isAudioOnly) : kind = kind' := by
  cases kind <;> cases kind' <;> simp_all [holds, WireShareType.isAudioOnly]

end ShareSlots

structure RoomMembers.Stores (members : RoomMembers) (table : SlotTable) : Prop where
  sfu : members.info.roomType = .sfu
  slots : ∀ peerId kind, members.info.view.slots peerId kind = (table peerId).holds kind
  sharing : ∀ peerId, members.info.view.sharing peerId = decide (table peerId ≠ .empty)
  member : ∀ peerId, table peerId ≠ .empty → peerId ∈ members.peers

namespace RoomMembers.Stores

variable {role : ParticipantRole} {request : ShareRequest} {members : RoomMembers}
  {table : SlotTable} {peerId : PeerId} {kind : WireShareType} {slots : ShareSlots}

section

variable (h : members.Stores table) {info : RoomInfo}
include h

theorem tidy : members.info.view.Tidy where
  sharer {peerId kind} hslot := by
    rw [h.slots] at hslot
    rw [h.sharing]
    exact decide_eq_true (ne_empty hslot)
  single {peerId kind kind'} hslot hslot' hsame := by
    rw [h.slots] at hslot hslot'
    exact holds_inj hslot hslot' hsame

theorem update (hsfu : info.roomType = members.info.roomType)
    (hslots : info.view.slots
      = Function.update members.info.view.slots peerId fun kind => slots.holds kind)
    (hsharing : info.view.sharing
      = Function.update members.info.view.sharing peerId (decide (slots ≠ .empty)))
    (hmember : slots ≠ .empty → peerId ∈ members.peers) :
    (members.withInfo info).Stores (Function.update table peerId slots) where
  sfu := hsfu.trans h.sfu
  slots peerId' kind := by
    change info.view.slots peerId' kind = _
    rw [hslots]
    by_cases hpeer : peerId' = peerId
    · subst hpeer
      simp
    · simp [hpeer, h.slots]
  sharing peerId' := by
    change info.view.sharing peerId' = _
    rw [hsharing]
    by_cases hpeer : peerId' = peerId
    · subst hpeer
      simp
    · simp [hpeer, h.sharing]
  member peerId' := by
    change _ → peerId' ∈ members.peers
    by_cases hpeer : peerId' = peerId
    · subst hpeer
      simpa using hmember
    · simpa [hpeer] using h.member peerId'

theorem congr (hsfu : info.roomType = members.info.roomType)
    (hview : info.view = members.info.view) : (members.withInfo info).Stores table where
  sfu := hsfu.trans h.sfu
  slots peerId kind := (congrArg (·.slots peerId kind) hview).trans (h.slots peerId kind)
  sharing peerId := (congrArg (·.sharing peerId) hview).trans (h.sharing peerId)
  member := h.member

theorem clear (peerId : PeerId) :
    (members.withInfo (members.info.clearShares peerId)).Stores
      (Function.update table peerId .empty) := by
  have hview := members.info.view_clearShares peerId
  refine h.update rfl ?_ ?_ fun hne => absurd rfl hne
  · rw [hview]
    simp [ShareView.clear]
  · rw [hview]
    simp [ShareView.clear]

theorem sharing_eq_false (hempty : table peerId = .empty) :
    members.info.activeShares.contains peerId = false := by
  change members.info.view.sharing peerId = false
  rw [h.sharing, hempty]
  exact decide_eq_false fun hne => hne rfl

theorem sharing_eq_true (hfilled : table peerId ≠ .empty) :
    members.info.activeShares.contains peerId = true := by
  have hsharing := h.sharing peerId
  rwa [decide_eq_true hfilled] at hsharing

theorem contains_shareTypes (peerId : PeerId) (kind : WireShareType) :
    (members.info.shareTypes peerId).contains kind = (table peerId).holds kind :=
  h.slots peerId kind

theorem exists_types (hfilled : table peerId ≠ .empty) :
    ∃ types, members.info.activeShareTypes.lookup peerId = some types
      ∧ ∀ kind, types.contains kind = (table peerId).holds kind := by
  cases hlookup : members.info.activeShareTypes.lookup peerId with
  | some types =>
    refine ⟨types, rfl, fun kind => ?_⟩
    rw [← h.contains_shareTypes, shareTypes, hlookup]
    rfl
  | none =>
    obtain ⟨kind, hkind⟩ := exists_holds hfilled
    rw [← h.contains_shareTypes, shareTypes, hlookup] at hkind
    cases hkind

theorem sharing_ne (peerId : PeerId) :
    members.info.activeShares.contains peerId = true ↔ table peerId ≠ .empty := by
  by_cases hempty : table peerId = .empty
  · simp [h.sharing_eq_false hempty, hempty]
  · simp [h.sharing_eq_true hempty, hempty]

end

def Serves (members : RoomMembers) (table : SlotTable) (request : ShareRequest) : Prop :=
  (members.share request).2.Stores (table.request request)
    ∧ ((members.share request).1 = .noop ∧ table.request request = table
      ∨ (∃ signals, (members.share request).1 = .ok signals) ∧ table.request request ≠ table)

theorem update_ne (hne : slots ≠ table peerId) : Function.update table peerId slots ≠ table := by
  intro heq
  exact hne (by rw [← heq, Function.update_self])

section

variable (h : members.Stores table) (target : PeerId)
include h

section

variable (hgrants : members.grants (.start peerId role (some kind)) = true)
include hgrants

theorem startShare_eq_noop
    (hnot : ∀ signals, (members.info.startShare members.peers peerId role (some kind)).1
      ≠ .ok signals) :
    (members.info.startShare members.peers peerId role (some kind)).1 = .noop
      ∧ (table peerId).holds kind = true := by
  simp only [grants, Bool.and_eq_true, decide_eq_true_eq, Bool.not_eq_true'] at hgrants
  obtain ⟨⟨hrole, hpeer⟩, hseat⟩ := hgrants
  unfold startShare at hnot ⊢
  dsimp only at hnot ⊢
  rw [h.contains_shareTypes] at hnot ⊢
  split_ifs at hnot ⊢ with htype hguest hopen hsharing hrunning
  · exact absurd h.sfu htype
  · simp [hguest.1, hguest.2] at hrole
  · rw [hseat] at hopen
    cases hopen
  · exact ⟨rfl, hrunning⟩
  · exact absurd rfl (hnot _)
  · exact absurd rfl (hnot _)

theorem start_serves : Serves members table (.start peerId role (some kind)) := by
  have hrest : (members.info.startShare members.peers peerId role (some kind)).2.roomType
      = members.info.roomType :=
    (InfoEdit.startShare peerId role (some kind)).apply_roomType 0 members.peers members.info
  have hpeer : peerId ∈ members.peers := by
    simp only [grants, Bool.and_eq_true, decide_eq_true_eq] at hgrants
    exact hgrants.1.2
  rcases members.info.startShare_view h.tidy (Prod.eta _).symm with
    ⟨displayName, hresult, hfree, hview⟩ | ⟨hnot, hview⟩
  · have hnew : (table peerId).holds kind = false :=
      (h.slots peerId kind).symm.trans (hfree kind rfl)
    have hheld : ((table peerId).fill kind).holds kind = true := by
      rw [holds_fill]
      simp
    have hstores : (members.withInfo (members.info.startShare members.peers peerId role
        (some kind)).2).Stores (Function.update table peerId ((table peerId).fill kind)) := by
      refine h.update hrest ?_ ?_ fun _ => hpeer
      · rw [hview]
        simp only [ShareView.start, holds_fill, h.slots]
      · rw [hview, decide_eq_true (ne_empty hheld)]
        rfl
    refine ⟨hstores, .inr ⟨⟨_, hresult⟩, update_ne fun heq => ?_⟩⟩
    rw [heq, hnew] at hheld
    cases hheld
  · obtain ⟨hnoop, hholds⟩ := h.startShare_eq_noop hgrants hnot
    have hsame : table.request (.start peerId role (some kind)) = table := by
      simp only [SlotTable.request, fill_of_holds hholds, Function.update_eq_self]
    refine ⟨?_, .inl ⟨hnoop, hsame⟩⟩
    rw [hsame]
    exact h.congr hrest hview

end

theorem stopShare_of_empty (hempty : table peerId = .empty) (shareType : Option WireShareType) :
    members.info.stopShare members.peers peerId shareType = (.noop, members.info) := by
  unfold stopShare
  rw [if_neg (not_not.mpr h.sfu), h.sharing_eq_false hempty, Bool.not_false, if_pos rfl, ite_self]

theorem stopShare_of_filled (hfilled : table peerId ≠ .empty) {types : HashSet WireShareType}
    (hlookup : members.info.activeShareTypes.lookup peerId = some types) :
    members.info.stopShare members.peers peerId (some kind)
      = if !types.contains kind then (.noop, members.info)
        else if (types.erase kind).entries.isEmpty then
          (.ok [members.info.shareStopped peerId none], members.info.clearShares peerId)
        else (.ok [members.info.shareStopped peerId (some kind)],
          members.info.setShareTypes peerId (types.erase kind)) := by
  unfold stopShare
  rw [if_neg (not_not.mpr h.sfu), if_neg (not_not.mpr (h.member peerId hfilled)),
    h.sharing_eq_true hfilled, if_neg (by simp), hlookup]

theorem stop_typed (kind : WireShareType) :
    (members.withInfo (members.info.stopShare members.peers target (some kind)).2).Stores
        (Function.update table target ((table target).drop kind))
      ∧ ((members.info.stopShare members.peers target (some kind)).1 = .noop
          ∧ (table target).holds kind = false
        ∨ (∃ signals, (members.info.stopShare members.peers target (some kind)).1 = .ok signals)
          ∧ (table target).holds kind = true) := by
  by_cases hempty : table target = .empty
  · have hholds : (table target).holds kind = false := by simp [hempty]
    rw [h.stopShare_of_empty hempty, drop, hholds, if_neg (by simp),
      Function.update_eq_self]
    exact ⟨h.congr rfl rfl, .inl ⟨rfl, rfl⟩⟩
  obtain ⟨types, hlookup, htypes⟩ := h.exists_types hempty
  rw [h.stopShare_of_filled hempty hlookup]
  have hleft : ∀ other, contains (types.erase kind) other
      = ((table target).drop kind).holds other := by
    intro other
    rw [contains_erase, htypes, holds_drop]
  split_ifs with hrunning hlast
  · have hholds : (table target).holds kind = false := by
      rw [← htypes]
      simpa using hrunning
    rw [drop, hholds, if_neg (by simp), Function.update_eq_self]
    exact ⟨h.congr rfl rfl, .inl ⟨rfl, rfl⟩⟩
  · have hdropped : (table target).drop kind = .empty := by
      refine eq_empty_iff.mpr fun other => ?_
      rw [← hleft]
      exact contains_of_isEmpty hlast other
    rw [hdropped]
    refine ⟨h.clear target, .inr ⟨⟨_, rfl⟩, ?_⟩⟩
    rw [← htypes]
    simpa using hrunning
  · obtain ⟨other, hother⟩ := exists_contains hlast
    rw [hleft] at hother
    refine ⟨h.update rfl ?_ ?_ fun _ => h.member target hempty, .inr ⟨⟨_, rfl⟩, ?_⟩⟩
    · rw [members.info.view_setShareTypes]
      simp only [hleft]
    · rw [members.info.view_setShareTypes, decide_eq_true (ne_empty hother)]
      refine (Function.update_eq_self_iff.mpr ?_).symm
      exact (h.sharing_eq_true hempty).symm
    · rw [← htypes]
      simpa using hrunning

theorem stop_untyped :
    (members.withInfo (members.info.stopShare members.peers target none).2).Stores
        (Function.update table target .empty)
      ∧ ((members.info.stopShare members.peers target none).1 = .noop ∧ table target = .empty
        ∨ (∃ signals, (members.info.stopShare members.peers target none).1 = .ok signals)
          ∧ table target ≠ .empty) := by
  by_cases hempty : table target = .empty
  · rw [h.stopShare_of_empty hempty, ← hempty, Function.update_eq_self]
    exact ⟨h.congr rfl rfl, .inl ⟨rfl, rfl⟩⟩
  · have hstop : members.info.stopShare members.peers target none
        = (.ok [members.info.shareStopped target none], members.info.clearShares target) := by
      unfold stopShare
      rw [if_neg (not_not.mpr h.sfu), if_neg (not_not.mpr (h.member target hempty)),
        h.sharing_eq_true hempty, if_neg (by simp)]
    rw [hstop]
    exact ⟨h.clear target, .inr ⟨⟨_, rfl⟩, hempty⟩⟩

end

theorem drop_ne (hholds : (table peerId).holds kind = true) :
    (table peerId).drop kind ≠ table peerId := by
  intro heq
  have hdropped : ((table peerId).drop kind).holds kind = false := by
    rw [holds_drop]
    simp
  rw [heq, hholds] at hdropped
  cases hdropped

section

variable (h : members.Stores table)
include h

theorem stop_serves {target : Option PeerId} {shareType : Option WireShareType}
    (hgrants : members.grants (.stop peerId target role shareType) = true) :
    Serves members table (.stop peerId target role shareType) := by
  have hallowed : ¬ (target.getD peerId ≠ peerId ∧ role ≠ .host) := by
    rintro ⟨hother, hguest⟩
    simp only [grants, decide_eq_true_eq] at hgrants
    exact hgrants.elim hother hguest
  unfold Serves
  simp only [share, if_neg hallowed]
  cases shareType with
  | some kind =>
    obtain ⟨hstores, hresult⟩ := h.stop_typed (target.getD peerId) kind
    refine ⟨hstores, hresult.imp (fun hnoop => ⟨hnoop.1, ?_⟩) fun hdone => ⟨hdone.1, ?_⟩⟩
    · simp only [SlotTable.request, drop, hnoop.2, Bool.false_eq_true, if_false,
        Function.update_eq_self]
    · exact update_ne (drop_ne hdone.2)
  | none =>
    obtain ⟨hstores, hresult⟩ := h.stop_untyped (target.getD peerId)
    refine ⟨hstores, hresult.imp (fun hnoop => ⟨hnoop.1, ?_⟩) fun hdone => ⟨hdone.1, ?_⟩⟩
    · simp only [SlotTable.request, ← hnoop.2, Function.update_eq_self]
    · exact update_ne hdone.2.symm

theorem stopAll_serves (hgrants : members.grants (.stopAll role) = true) :
    Serves members table (.stopAll role) := by
  have hhost : ¬ role ≠ .host := not_not.mpr (of_decide_eq_true hgrants)
  unfold Serves
  simp only [share, if_neg hhost, stopAllShares, if_neg (not_not.mpr h.sfu),
    SlotTable.request]
  split_ifs with hnone
  · have hempty : table = fun _ => .empty := by
      funext peerId
      by_contra hfilled
      have hsharing := h.sharing_eq_true hfilled
      rw [contains_of_isEmpty hnone] at hsharing
      cases hsharing
    exact ⟨hempty ▸ h.congr rfl rfl, .inl ⟨rfl, hempty.symm⟩⟩
  · obtain ⟨peerId, hsharing⟩ := exists_contains hnone
    refine ⟨⟨h.sfu, fun _ _ => ?_, fun _ => ?_, fun _ hne => absurd rfl hne⟩,
      .inr ⟨⟨_, rfl⟩, fun heq => ?_⟩⟩
    · simp [withInfo, view, shareTypes, contains]
    · simp [withInfo, view, contains]
    · exact (h.sharing_ne peerId).mp hsharing (congrFun heq peerId).symm

theorem cleanup_serves (peerId : PeerId) : Serves members table (.cleanup peerId) := by
  unfold Serves
  by_cases hempty : table peerId = .empty
  · have hcleanup : members.info.cleanupShare peerId = (none, members.info) := by
      simp [cleanupShare, h.sharing_eq_false hempty]
    simp only [share, hcleanup, SlotTable.request, ← hempty, Function.update_eq_self]
    exact ⟨h.congr rfl rfl, .inl ⟨rfl, trivial⟩⟩
  · have hcleanup : members.info.cleanupShare peerId
        = (some [members.info.shareStopped peerId none], members.info.clearShares peerId) := by
      simp [cleanupShare, h.sharing_eq_true hempty]
    simp only [share, hcleanup, SlotTable.request]
    exact ⟨h.clear peerId, .inr ⟨⟨_, rfl⟩, update_ne (.symm hempty)⟩⟩

theorem serves (htyped : request.isTyped = true) (hgrants : members.grants request = true) :
    Serves members table request := by
  cases request with
  | start peerId role shareType =>
    cases shareType with
    | some kind => exact h.start_serves hgrants
    | none => cases htyped
  | stop peerId target role shareType => exact h.stop_serves hgrants
  | stopAll role => exact h.stopAll_serves hgrants
  | cleanup peerId => exact h.cleanup_serves peerId

theorem refuses (hgrants : members.grants request = false) :
    (∃ msg, (members.share request).1 = .error msg) ∧ (members.share request).2 = members := by
  cases request with
  | start peerId role shareType =>
    have hrefused : ∃ msg, members.info.startShare members.peers peerId role shareType
        = (.error msg, members.info) := by
      unfold startShare
      rw [if_neg (not_not.mpr h.sfu)]
      split_ifs with hguest hpeer hseat hsharing
      · exact ⟨_, rfl⟩
      · exact ⟨_, rfl⟩
      · simp_all [grants]
      · simp_all [grants]
      · exact ⟨_, rfl⟩
    obtain ⟨msg, hrefused⟩ := hrefused
    simp only [share, hrefused]
    exact ⟨⟨msg, rfl⟩, rfl⟩
  | stop peerId target role shareType =>
    have hdenied : target.getD peerId ≠ peerId ∧ role ≠ .host := by
      simpa [grants, not_or] using hgrants
    simp only [share, if_pos hdenied]
    exact ⟨⟨_, rfl⟩, trivial⟩
  | stopAll role =>
    have hdenied : role ≠ .host := by simpa [grants] using hgrants
    simp only [share, if_pos hdenied]
    exact ⟨⟨_, rfl⟩, trivial⟩
  | cleanup peerId => cases hgrants

end

theorem grants_share (members : RoomMembers) (request : ShareRequest) :
    (members.share request).2.grants = members.grants := by
  have hcongr : ∀ info : RoomInfo, info.sharePermission = members.info.sharePermission →
      info.subRoomState = members.info.subRoomState →
      (members.withInfo info).grants = members.grants := by
    intro info hpermission hseats
    funext request'
    cases request' with
    | start senderId role shareType =>
      simp only [grants, withInfo, hpermission, hseats]
      rfl
    | _ => rfl
  cases request with
  | start peerId role shareType =>
    have hsame : ∀ info', (members.info.startShare members.peers peerId role shareType).2 = info' →
        info'.sharePermission = members.info.sharePermission
          ∧ info'.subRoomState = members.info.subRoomState := by
      rintro _ rfl
      unfold startShare
      cases shareType <;> (dsimp only; split_ifs <;> exact ⟨rfl, rfl⟩)
    exact hcongr _ (hsame _ rfl).1 (hsame _ rfl).2
  | stop peerId target role shareType =>
    have hsame : ∀ info', (members.info.stopShare members.peers (target.getD peerId)
        shareType).2 = info' → info'.sharePermission = members.info.sharePermission
          ∧ info'.subRoomState = members.info.subRoomState := by
      rintro _ rfl
      unfold stopShare
      cases shareType <;> cases members.info.activeShareTypes.lookup (target.getD peerId) <;>
        (dsimp only; split_ifs <;> exact ⟨rfl, rfl⟩)
    simp only [share]
    split_ifs
    · rfl
    · exact hcongr _ (hsame _ rfl).1 (hsame _ rfl).2
  | stopAll role =>
    simp only [share, stopAllShares]
    split_ifs <;> rfl
  | cleanup peerId =>
    simp only [share, cleanupShare]
    split_ifs <;> exact hcongr _ rfl rfl

theorem step (h : members.Stores table) (htyped : request.isTyped = true) :
    (members.share request).1.outcome = (table.step members.grants request).1
      ∧ (members.share request).2.Stores (table.step members.grants request).2 := by
  unfold SlotTable.step
  by_cases hgrants : members.grants request = true
  · obtain ⟨hstores, hresult⟩ := h.serves htyped hgrants
    rw [if_neg (by simp [hgrants])]
    rcases hresult with ⟨hnoop, hsame⟩ | ⟨⟨signals, hok⟩, hchanged⟩
    · rw [if_pos hsame, hnoop]
      exact ⟨rfl, hsame ▸ hstores⟩
    · rw [if_neg hchanged, hok]
      exact ⟨rfl, hstores⟩
  · rw [Bool.not_eq_true] at hgrants
    obtain ⟨⟨msg, herror⟩, hsame⟩ := h.refuses hgrants
    rw [if_pos hgrants, herror, hsame]
    exact ⟨rfl, h⟩

theorem run (h : members.Stores table) {requests : List ShareRequest}
    (htyped : ∀ request ∈ requests, request.isTyped = true) :
    (members.shareAll requests).1.map (·.outcome) = (table.run members.grants requests).1
      ∧ (members.shareAll requests).2.Stores (table.run members.grants requests).2 := by
  induction requests generalizing members table with
  | nil => exact ⟨rfl, h⟩
  | cons request rest ih =>
    obtain ⟨houtcome, hnext⟩ := h.step (htyped request List.mem_cons_self)
    obtain ⟨houtcomes, hlast⟩ := ih hnext fun request' hmem =>
      htyped request' (List.mem_cons_of_mem _ hmem)
    rw [grants_share] at houtcomes hlast
    refine ⟨?_, hlast⟩
    simp only [shareAll, SlotTable.run, List.map_cons, houtcome, houtcomes]

theorem mem_activeSharePayloads (h : members.Stores table) (payload : ActiveSharePayload) :
    payload ∈ members.info.activeSharePayloads ↔
      ∃ kind, payload.shareType = some kind ∧ (table payload.participantId).holds kind = true := by
  unfold activeSharePayloads
  rw [List.mem_flatMap]
  constructor
  · rintro ⟨peerId, hpeer, hpayload⟩
    have hfilled := (h.sharing_ne peerId).mp (mem_keys_iff_contains.mp hpeer)
    obtain ⟨types, hlookup, htypes⟩ := h.exists_types hfilled
    obtain ⟨kind, hkind⟩ := exists_holds hfilled
    rw [hlookup] at hpayload
    dsimp only at hpayload
    split_ifs at hpayload with hnone
    · rw [← htypes, contains_of_isEmpty hnone] at hkind
      cases hkind
    · obtain ⟨kind', hkind', rfl⟩ := List.mem_map.mp hpayload
      refine ⟨kind', rfl, ?_⟩
      rw [← htypes]
      exact mem_keys_iff_contains.mp hkind'
  · rintro ⟨kind, hkind, hholds⟩
    have hfilled := ne_empty hholds
    obtain ⟨types, hlookup, htypes⟩ := h.exists_types hfilled
    rw [← htypes] at hholds
    refine ⟨payload.participantId,
      mem_keys_iff_contains.mpr (h.sharing_eq_true hfilled), ?_⟩
    rw [hlookup]
    dsimp only
    split_ifs with hnone
    · rw [contains_of_isEmpty hnone] at hholds
      cases hholds
    · exact List.mem_map.mpr ⟨kind, mem_keys_iff_contains.mpr hholds, by rw [← hkind]⟩

end RoomMembers.Stores

theorem RoomInfo.activeSharePayloads_nodup (info : RoomInfo) : info.activeSharePayloads.Nodup := by
  refine List.nodup_flatMap.mpr ⟨fun peerId _ => ?_, ?_⟩
  · split
    · split_ifs
      · exact List.nodup_singleton _
      · exact (AList.keys_nodup _).map fun _ _ heq => by simpa using heq
    · exact List.nodup_singleton _
  · have hdisjoint : ∀ {payloads : PeerId → List ActiveSharePayload} {keys : List PeerId},
        keys.Nodup → (∀ peerId, ∀ payload ∈ payloads peerId, payload.participantId = peerId) →
        keys.Pairwise (Function.onFun List.Disjoint payloads) := by
      intro payloads keys hkeys howner
      refine hkeys.imp fun hne payload hfirst hsecond => hne ?_
      exact (howner _ _ hfirst).symm.trans (howner _ _ hsecond)
    refine hdisjoint (AList.keys_nodup _) fun peerId payload hpayload => ?_
    split at hpayload
    · split_ifs at hpayload
      · rw [List.mem_singleton.mp hpayload]
      · obtain ⟨kind, -, rfl⟩ := List.mem_map.mp hpayload
        rfl
    · rw [List.mem_singleton.mp hpayload]

/-- **Typed shares are two slots.** -/
theorem typed_shares_are_slots (members : RoomMembers) (hsfu : members.info.roomType = .sfu)
    (hnone : members.info.NoShares) (requests : List ShareRequest)
    (htyped : ∀ request ∈ requests, request.isTyped = true) :
    let table := SlotTable.run members.grants (fun _ => .empty) requests
    let served := members.shareAll requests
    served.1.map (·.outcome) = table.1
      ∧ (∀ peerId, served.2.info.activeShares.contains peerId = true ↔ table.2 peerId ≠ .empty)
      ∧ (∀ peerId kind, (served.2.info.shareTypes peerId).contains kind
        = (table.2 peerId).holds kind)
      ∧ served.2.info.activeSharePayloads.Nodup
      ∧ ∀ payload, payload ∈ served.2.info.activeSharePayloads ↔
        ∃ kind, payload.shareType = some kind
          ∧ (table.2 payload.participantId).holds kind = true := by
  have hfirst : members.Stores fun _ => .empty := by
    refine ⟨hsfu, fun _ _ => ?_, fun _ => ?_, fun _ hne => absurd rfl hne⟩
    · simp [view, shareTypes, hnone.2, contains]
    · simp [view, hnone.1, contains]
  obtain ⟨houtcomes, hlast⟩ := hfirst.run htyped
  exact ⟨houtcomes, hlast.sharing_ne, hlast.contains_shareTypes,
    activeSharePayloads_nodup _, hlast.mem_activeSharePayloads⟩

theorem typed_shares_are_slots_solo :
    let requests : List ShareRequest := [.start "peer-1" .host (some .window),
      .start "peer-1" .host (some .audioOnly), .stop "peer-1" none .host (some .window)]
    (soloRoom.shareAll requests).2.info.activeShares.contains "peer-1" = true
      ∧ (SlotTable.run soloRoom.grants (fun _ => .empty) requests).2 "peer-1" ≠ .empty := by
  intro requests
  have hslots := typed_shares_are_slots soloRoom rfl ⟨rfl, rfl⟩ requests (by decide)
  have hsharing : (soloRoom.shareAll requests).2.info.activeShares.contains "peer-1" = true := by
    rfl
  exact ⟨hsharing, (hslots.2.1 "peer-1").mp hsharing⟩

end Wavis
