import Wavis.Proof.RoomEdit
import Wavis.SfuRelay

namespace Wavis

open Function

@[ext] structure ShareView where
  sharing : PeerId → Bool
  slots : PeerId → WireShareType → Bool

namespace ShareView

variable (v : ShareView) (peerId : PeerId)

def clear : ShareView :=
  { v with
    sharing := Function.update v.sharing peerId false
    slots := Function.update v.slots peerId fun _ => false }

/-- A share takes the slot of its category; one without a type takes no slot. -/
def start : Option WireShareType → ShareView
  | none =>
    { v with
      sharing := Function.update v.sharing peerId true
      slots := Function.update v.slots peerId fun _ => false }
  | some kind =>
    { v with
      sharing := Function.update v.sharing peerId true
      slots := Function.update v.slots peerId fun other =>
        decide (other = kind)
          || (v.slots peerId other && other.isAudioOnly != kind.isAudioOnly) }

/-- Slots belong to sharers, and each participant has at most one in each category. -/
structure Tidy : Prop where
  sharer : ∀ {peerId kind}, v.slots peerId kind = true → v.sharing peerId = true
  single : ∀ {peerId kind kind'}, v.slots peerId kind = true → v.slots peerId kind' = true →
    kind.isAudioOnly = kind'.isAudioOnly → kind = kind'

end ShareView

namespace HashSet

variable {K : Type} [DecidableEq K] {s : HashSet K}

theorem contains_insert (s : HashSet K) (key key' : K) :
    contains (s.insert key ()) key' = (decide (key' = key) || s.contains key') := by
  unfold contains
  by_cases hkey : key' = key
  · subst hkey
    simp
  · simp [hkey]

theorem contains_erase (s : HashSet K) (key key' : K) :
    contains (s.erase key) key' = (s.contains key' && decide (key' ≠ key)) := by
  unfold contains
  by_cases hkey : key' = key
  · subst hkey
    simp
  · simp [hkey]

theorem contains_retain (s : HashSet K) (keep : K → Bool) (key : K) :
    contains (HashMap.retain (fun other _ => keep other) s) key
      = (s.contains key && keep key) := by
  unfold contains
  rw [HashMap.lookup_retain]
  cases s.lookup key with
  | none => rfl
  | some _ => cases keep key <;> simp [Option.filter_some]

theorem contains_of_isEmpty (h : s.entries.isEmpty = true) (key : K) : s.contains key = false := by
  have hnone : s.lookup key = none := by
    rw [AList.lookup_eq_none, AList.mem_keys, AList.keys, List.isEmpty_iff.mp h]
    exact List.not_mem_nil
  rw [contains, hnone]
  rfl

theorem mem_keys_iff_contains {key : K} : key ∈ s.keys ↔ s.contains key = true := by
  rw [← AList.mem_keys, ← AList.lookup_isSome]
  rfl

theorem exists_contains (h : ¬ s.entries.isEmpty = true) : ∃ key, s.contains key = true := by
  rw [List.isEmpty_iff] at h
  obtain ⟨entry, hentry⟩ := List.exists_mem_of_ne_nil _ h
  exact ⟨entry.1, mem_keys_iff_contains.mp (List.mem_map_of_mem hentry)⟩

end HashSet

open HashSet

namespace RoomInfo

def view (info : RoomInfo) : ShareView where
  sharing peerId := info.activeShares.contains peerId
  slots peerId kind := (info.shareTypes peerId).contains kind

variable (info : RoomInfo) {info' : RoomInfo} {peerId : PeerId}

theorem view_setShares (sharing : Bool) (peerId : PeerId) (types : HashSet WireShareType)
    (hshares : ∀ peerId', info'.activeShares.contains peerId'
      = if peerId' = peerId then sharing else info.activeShares.contains peerId')
    (htypes : ∀ peerId', info'.shareTypes peerId'
      = if peerId' = peerId then types else info.shareTypes peerId') :
    info'.view = { info.view with
      sharing := update info.view.sharing peerId sharing
      slots := update info.view.slots peerId fun kind => types.contains kind } := by
  refine ShareView.ext (funext fun peerId' => ?_) (funext fun peerId' => ?_)
  · simp only [view, hshares, update_apply]
  · simp only [view, htypes, update_apply]
    split_ifs <;> rfl

theorem shareTypes_setShareTypes (peerId peerId' : PeerId) (types : HashSet WireShareType) :
    (info.setShareTypes peerId types).shareTypes peerId'
      = if peerId' = peerId then types else info.shareTypes peerId' := by
  unfold shareTypes setShareTypes
  split_ifs with hpeer
  · subst hpeer
    simp
  · simp [hpeer]

theorem view_setShareTypes (peerId : PeerId) (types : HashSet WireShareType) :
    (info.setShareTypes peerId types).view = { info.view with
      slots := update info.view.slots peerId fun kind => types.contains kind } := by
  have hshares : ∀ peerId', (info.setShareTypes peerId types).activeShares.contains peerId'
      = if peerId' = peerId then info.view.sharing peerId
        else info.activeShares.contains peerId' := by
    intro peerId'
    split_ifs with hpeer
    · subst hpeer
      rfl
    · rfl
  refine (info.view_setShares (info.view.sharing peerId) peerId types hshares
    (info.shareTypes_setShareTypes peerId · types)).trans ?_
  rw [update_eq_self]

theorem view_setShareTypes_self (peerId : PeerId) :
    (info.setShareTypes peerId (info.shareTypes peerId)).view = info.view := by
  have hslots : (fun kind => (info.shareTypes peerId).contains kind) = info.view.slots peerId :=
    rfl
  rw [view_setShareTypes, hslots, update_eq_self]

theorem view_clearShares (peerId : PeerId) :
    (info.clearShares peerId).view = info.view.clear peerId := by
  refine info.view_setShares false peerId ∅ (fun peerId' => ?_) fun peerId' => ?_
  · rw [clearShares, contains_erase]
    split_ifs with hpeer <;> simp [hpeer]
  · unfold clearShares shareTypes
    split_ifs with hpeer
    · subst hpeer
      simp
    · simp [hpeer]

theorem view_startShare_new (htidy : info.view.Tidy) (hnot : info.view.sharing peerId = false)
    (shareType : Option WireShareType) :
    (match shareType with
      | some kind => { info with activeShares := info.activeShares.insert peerId () }.setShareTypes
          peerId ((info.shareTypes peerId).insert kind ())
      | none => { info with activeShares := info.activeShares.insert peerId () }).view
      = info.view.start peerId shareType := by
  have hslots : ∀ kind, info.view.slots peerId kind = false := by
    intro kind
    cases hkind : info.view.slots peerId kind with
    | false => rfl
    | true =>
      rw [htidy.sharer hkind] at hnot
      cases hnot
  have hshares : ∀ peerId', HashSet.contains (info.activeShares.insert peerId ()) peerId'
      = if peerId' = peerId then true else info.activeShares.contains peerId' := by
    intro peerId'
    rw [contains_insert]
    split_ifs with hpeer <;> simp [hpeer]
  cases shareType with
  | none =>
    have htypes : ∀ peerId', { info with
        activeShares := info.activeShares.insert peerId () : RoomInfo }.shareTypes peerId'
        = if peerId' = peerId then info.shareTypes peerId else info.shareTypes peerId' := by
      intro peerId'
      split_ifs with hpeer
      · subst hpeer
        rfl
      · rfl
    rw [info.view_setShares true peerId (info.shareTypes peerId) hshares htypes]
    simp only [ShareView.start]
    congr 2
    funext kind
    exact hslots kind
  | some kind =>
    have htypes := shareTypes_setShareTypes
      { info with activeShares := info.activeShares.insert peerId () } peerId
    rw [info.view_setShares true peerId ((info.shareTypes peerId).insert kind ())
      hshares fun peerId' => htypes peerId' _]
    simp only [ShareView.start, hslots, Bool.false_and, Bool.or_false]
    congr 2
    funext other
    have hother : (info.shareTypes peerId).contains other = false := hslots other
    rw [contains_insert, hother, Bool.or_false]

/-- What starting a share announces is what has changed. -/
theorem startShare_view {peers : List PeerId} {role : ParticipantRole}
    {shareType : Option WireShareType} (htidy : info.view.Tidy) {result : ShareResult}
    (h : info.startShare peers peerId role shareType = (result, info')) :
    (∃ displayName, result = .ok [.broadcastAll (.shareStarted peerId displayName shareType)]
        ∧ (∀ kind, shareType = some kind → info.view.slots peerId kind = false)
        ∧ info'.view = info.view.start peerId shareType)
      ∨ (∀ signals, result ≠ .ok signals) ∧ info'.view = info.view := by
  unfold startShare at h
  split_ifs at h with htype hrole hpeer hseat hsharing
  · exact .inr (by cases h; simp)
  · exact .inr (by cases h; simp)
  · exact .inr (by cases h; simp)
  · cases shareType with
    | none =>
      dsimp only at h
      split_ifs at h with hempty
      · cases h
        exact .inr ⟨by simp, info.view_setShareTypes_self peerId⟩
      · cases h
        refine .inl ⟨_, rfl, by simp, ?_⟩
        rw [view_setShareTypes]
        have hkept : update info.view.sharing peerId true = info.view.sharing :=
          update_eq_self_iff.mpr hsharing.symm
        simp only [ShareView.start, hkept]
        rfl
    | some kind =>
      dsimp only at h
      split_ifs at h with hrunning
      · cases h
        exact .inr ⟨by simp, info.view_setShareTypes_self peerId⟩
      · cases h
        refine .inl ⟨_, rfl, ?_, ?_⟩
        · rintro _ ⟨rfl⟩
          simpa [view] using hrunning
        · rw [view_setShareTypes]
          have hkept : update info.view.sharing peerId true = info.view.sharing :=
            update_eq_self_iff.mpr hsharing.symm
          simp only [ShareView.start, hkept]
          congr 2
          funext other
          rw [contains_insert, contains_retain]
          rfl
  · have hnot : info.view.sharing peerId = false := by
      simpa [view] using hsharing
    refine .inl ?_
    have hview := info.view_startShare_new htidy hnot shareType
    have hkind : ∀ kind, shareType = some kind → info.view.slots peerId kind = false := by
      intro kind _
      cases hslot : info.view.slots peerId kind with
      | false => rfl
      | true =>
        rw [htidy.sharer hslot] at hnot
        cases hnot
    cases shareType <;> cases h <;> exact ⟨_, rfl, hkind, hview⟩
  · exact .inr (by cases h; simp)

end RoomInfo

end Wavis
