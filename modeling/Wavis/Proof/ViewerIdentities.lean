import Mathlib.Data.List.Dedup
import Wavis.Concurrency.Machine
import Wavis.Proof.Alone

namespace Wavis

open Concurrency RoomInfo List

structure ViewerRun where
  info : RoomInfo
  issued : List String

/-- Requests for viewer tokens, as far as the window id decides about them. -/
def viewerRequests (peerId : PeerId) (userId : Option String) : Machine ViewerRun String where
  next run windowId :=
    if !isViewerWindowId windowId then none
    else
      let identity := viewerIdentity peerId userId windowId
      match validateIdentifier identity "viewer_identity" with
      | .error _ => some run
      | .ok _ =>
        let (recorded, info) := run.info.recordViewerIdentity peerId identity
        some ⟨info, if recorded then windowId :: run.issued else run.issued⟩

def strikes (identity other : String) : Bool :=
  (rfindSuffix "-vw-" identity).any fun suffix => suffix.toList.isSuffixOf other.toList

/-- The identity of the window strikes that of no other window that has got a token. -/
def EndsApart (peerId : PeerId) (userId : Option String) (run : ViewerRun) (windowId : String) :
    Prop :=
  ∀ other ∈ run.issued, other ≠ windowId →
    strikes (viewerIdentity peerId userId windowId) (viewerIdentity peerId userId other) = false

instance (peerId : PeerId) (userId : Option String) (run : ViewerRun) (windowId : String) :
    Decidable (EndsApart peerId userId run windowId) := by
  unfold EndsApart
  infer_instance

/-- What is recorded is what was issued, one identity for each window. -/
structure Reclaimable (peerId : PeerId) (userId : Option String) (run : ViewerRun) : Prop where
  recorded : (run.info.takeViewerIdentities peerId).1.Perm
    (run.issued.dedup.map (viewerIdentity peerId userId))
  bounded : (run.info.takeViewerIdentities peerId).1.length ≤ maxViewerIdentitiesPerPeer

section

variable {peerId : PeerId} {userId : Option String} {windowId : String} {info : RoomInfo}
  {run run' : ViewerRun}

theorem viewerIdentity_toList : (viewerIdentity peerId userId windowId).toList
    = (livekitIdentity peerId userId).toList ++ ("-vw-".toList ++ windowId.toList) := by
  change (livekitIdentity peerId userId ++ "-vw-" ++ windowId).toList = _
  rw [String.toList_append, String.toList_append, append_assoc]

theorem viewerIdentity_injective : Function.Injective (viewerIdentity peerId userId) := by
  intro windowId windowId' h
  have hlist := congrArg String.toList h
  rw [viewerIdentity_toList, viewerIdentity_toList] at hlist
  exact String.toList_inj.mp (append_cancel_left (append_cancel_left hlist))

theorem strikes_self : strikes (viewerIdentity peerId userId windowId)
    (viewerIdentity peerId userId windowId) = true := by
  generalize htext : (viewerIdentity peerId userId windowId).toList = text
  have hmem : "-vw-".toList ++ windowId.toList ∈ text.tails.reverse := by
    rw [mem_reverse, mem_tails, ← htext, viewerIdentity_toList]
    exact suffix_append _ _
  have hfound :
      (text.tails.reverse.find? fun tail => "-vw-".toList.isPrefixOf tail).isSome = true :=
    find?_isSome.mpr ⟨_, hmem, isPrefixOf_iff_prefix.mpr (prefix_append _ _)⟩
  obtain ⟨tail, htail⟩ := Option.isSome_iff_exists.mp hfound
  have hsuffix := (mem_tails _ _).mp (mem_reverse.mp (mem_of_find?_eq_some htail))
  rw [strikes, rfindSuffix, htext, htail]
  simpa using hsuffix

theorem takeViewerIdentities_eq : (info.takeViewerIdentities peerId).1
    = ((info.viewerIdentities.lookup peerId).getD ∅).keys := by
  unfold RoomInfo.takeViewerIdentities
  cases info.viewerIdentities.lookup peerId <;> rfl

/-- Recording an identity strikes others off and adds it to those that are kept if there is room. -/
theorem recordViewerIdentity_spec (info : RoomInfo) (peerId : PeerId) (identity : String) :
    ∃ kept : HashSet String,
      (∀ other, other ∈ kept.keys ↔
        other ∈ (info.takeViewerIdentities peerId).1 ∧ strikes identity other = false)
      ∧ info.recordViewerIdentity peerId identity
        = if kept.keys.length ≥ maxViewerIdentitiesPerPeer then
            (false, { info with viewerIdentities := info.viewerIdentities.insert peerId kept })
          else
            (true, { info with
              viewerIdentities :=
                info.viewerIdentities.insert peerId (kept.insert identity ()) }) := by
  rw [takeViewerIdentities_eq]
  unfold strikes
  cases hsuffix : rfindSuffix "-vw-" identity with
  | none =>
    refine ⟨(info.viewerIdentities.lookup peerId).getD ∅, fun other => ?_, ?_⟩
    · simp
    · simp only [recordViewerIdentity, hsuffix]
  | some suffix =>
    refine ⟨((info.viewerIdentities.lookup peerId).getD ∅).retain
      fun existing _ => !suffix.toList.isSuffixOf existing.toList, fun other => ?_, ?_⟩
    · rw [← AList.mem_keys, ← AList.mem_keys, ← AList.lookup_isSome, ← AList.lookup_isSome,
        HashMap.lookup_retain]
      cases AList.lookup other _ <;> simp
    · simp only [recordViewerIdentity, hsuffix]

/-- If no two windows end alike, recording the identity of a window keeps those of the others. -/
theorem Reclaimable.mem_kept (h : Reclaimable peerId userId run)
    (hapart : EndsApart peerId userId run windowId) (identity : String) :
    (identity ∈ (run.info.takeViewerIdentities peerId).1
        ∧ strikes (viewerIdentity peerId userId windowId) identity = false)
      ↔ ∃ other ∈ run.issued, other ≠ windowId ∧ viewerIdentity peerId userId other = identity := by
  rw [h.recorded.mem_iff, mem_map]
  constructor
  · rintro ⟨⟨other, hother, rfl⟩, hkept⟩
    refine ⟨other, mem_dedup.mp hother, ?_, rfl⟩
    rintro rfl
    rw [strikes_self] at hkept
    cases hkept
  · rintro ⟨other, hother, hne, rfl⟩
    exact ⟨⟨other, mem_dedup.mpr hother, rfl⟩, hapart other hother hne⟩

theorem perm_of_mem {identities windowIds : List String} (hnodup : identities.Nodup)
    (h : ∀ identity, identity ∈ identities ↔
      ∃ windowId ∈ windowIds, viewerIdentity peerId userId windowId = identity) :
    identities.Perm (windowIds.dedup.map (viewerIdentity peerId userId)) := by
  refine (perm_ext_iff_of_nodup hnodup
    (windowIds.nodup_dedup.map viewerIdentity_injective)).mpr fun identity => ?_
  rw [h, mem_map]
  simp only [mem_dedup]

section

variable (h : Reclaimable peerId userId run) (hapart : EndsApart peerId userId run windowId)
include h hapart

theorem Reclaimable.refused
    (hrefused : (run.info.recordViewerIdentity peerId
      (viewerIdentity peerId userId windowId)).1 = false) :
    (run.issued.filter (· ≠ windowId)).dedup.length = maxViewerIdentitiesPerPeer := by
  obtain ⟨kept, hkept, heq⟩ := recordViewerIdentity_spec run.info peerId
    (viewerIdentity peerId userId windowId)
  have hothers : kept.keys.Perm
      ((run.issued.filter (· ≠ windowId)).dedup.map (viewerIdentity peerId userId)) := by
    refine perm_of_mem kept.keys_nodup fun identity => ?_
    rw [hkept, h.mem_kept hapart]
    simp [and_assoc]
  have hsub := subperm_of_subset kept.keys_nodup fun other hother => ((hkept other).mp hother).1
  have hle := hsub.length_le
  have hlength := hothers.length_eq
  rw [length_map] at hlength
  rw [heq] at hrefused
  split_ifs at hrefused with hfull
  exact Nat.le_antisymm (hlength ▸ Nat.le_trans hle h.bounded) (hlength ▸ hfull)

theorem Reclaimable.next (hnext : (viewerRequests peerId userId).next run windowId = some run') :
    Reclaimable peerId userId run' := by
  obtain ⟨kept, hkept, heq⟩ := recordViewerIdentity_spec run.info peerId
    (viewerIdentity peerId userId windowId)
  cases hid : isViewerWindowId windowId with
  | false => simp [viewerRequests, hid] at hnext
  | true =>
    cases hvalid : validateIdentifier (viewerIdentity peerId userId windowId) "viewer_identity" with
    | error e =>
      obtain rfl : run = run' := by simpa [viewerRequests, hid, hvalid] using hnext
      exact h
    | ok _ =>
      simp only [viewerRequests, hid, hvalid, heq] at hnext
      cases hnext
      by_cases hfull : kept.keys.length ≥ maxViewerIdentitiesPerPeer
      · -- Nothing was struck off, since the peer has as many identities as it may have.
        have hsub := subperm_of_subset kept.keys_nodup
          fun other hother => ((hkept other).mp hother).1
        rw [if_pos hfull]
        refine ⟨?_, ?_⟩ <;> rw [takeViewerIdentities_eq, AList.lookup_insert]
        · exact (hsub.perm_of_length_le (Nat.le_trans h.bounded hfull)).trans h.recorded
        · exact Nat.le_trans hsub.length_le h.bounded
      · rw [if_neg hfull]
        refine ⟨?_, ?_⟩ <;> rw [takeViewerIdentities_eq, AList.lookup_insert, Option.getD_some]
        · refine perm_of_mem (AList.keys_nodup _) fun identity => ?_
          rw [← AList.mem_keys, AList.mem_insert, AList.mem_keys, hkept, h.mem_kept hapart]
          grind
        · have hle := kept.keys.length_erase_le (a := viewerIdentity peerId userId windowId)
          rw [AList.keys_insert, length_cons]
          omega

end

end

/-- A request for a viewer token is a request of the machine, on the record as it is when the
identity is recorded, or leaves the identities alone. -/
theorem handleViewerTokenRequest_next (config : Config) {ok : Op → Env → Prop} {w : World}
    {roomId : RoomId} {members : RoomMembers} (hfind : w.roomState.find roomId = some members)
    (peerId : PeerId) (userId : Option String) (windowId : String) (issued : List String) :
    (handleViewerTokenRequest config roomId peerId userId windowId).Alone ok (fun answer w' =>
      ∃ info members', info.viewerIdentities = members.info.viewerIdentities
        ∧ w'.roomState.find roomId = some members'
        ∧ match answer with
          | .ok _ => (viewerRequests peerId userId).next ⟨info, issued⟩ windowId
              = some ⟨members'.info, windowId :: issued⟩
          | .error _ => members'.info.viewerIdentities = members.info.viewerIdentities
              ∨ (viewerRequests peerId userId).next ⟨info, issued⟩ windowId
                = some ⟨members'.info, issued⟩) w := by
  unfold handleViewerTokenRequest
  cases hid : isViewerWindowId windowId with
  | false => exact ⟨_, members, rfl, hfind, .inl rfl⟩
  | true =>
    refine (alone_getRoomInfo roomId).bind ?_
    rintro _ _ ⟨clock₁, rfl, rfl⟩
    dsimp only
    split
    · exact ⟨_, members, rfl, hfind, .inl rfl⟩
    refine (alone_isParticipantRevoked roomId peerId _).bind ?_
    rintro revoked _ ⟨clock₂, rfl⟩
    let members₂ := members.edit (.isParticipantRevoked peerId config.tokenMode.ttlWindow) clock₂
    have hfind₂ : ((w.later clock₁).roomState.editRoom roomId (.isParticipantRevoked peerId
        config.tokenMode.ttlWindow) clock₂).find roomId = some members₂ :=
      InMemoryRoomState.find_editRoom_self hfind _ _
    cases revoked with
    | true => exact ⟨_, members₂, rfl, hfind₂, .inl rfl⟩
    | false =>
      cases hvalid :
          validateIdentifier (viewerIdentity peerId userId windowId) "viewer_identity" with
      | error e => exact ⟨_, members₂, rfl, hfind₂, .inl rfl⟩
      | ok _ =>
        refine (alone_signViewer _ _ _ _).bind fun signed w₃ hsigned => ?_
        have hfind₃ : w₃.roomState.find roomId = some members₂ := by
          obtain ⟨clock₃, history, rfl⟩ := hsigned
          exact hfind₂
        cases signed with
        | error e => exact ⟨_, members₂, rfl, hfind₃, .inl rfl⟩
        | ok token =>
          refine (alone_updateRoomInfo roomId _).bind ?_
          rintro _ _ ⟨clock₄, rfl, rfl⟩
          have hfind₄ := InMemoryRoomState.find_editRoom_self hfind₃ (.recordViewerIdentity peerId
            (viewerIdentity peerId userId windowId)) clock₄
          rw [hfind₃]
          dsimp only [Option.map_some, Option.any_some]
          split <;> rename_i hrecorded <;>
            exact ⟨members₂.info, _, rfl, hfind₄, by
              simp [viewerRequests, hid, hvalid, hrecorded, RoomMembers.edit, InfoEdit.apply]⟩

/-- **Every viewer can be reclaimed**, if no two windows of a peer have identities that end alike:
what is recorded for the peer is one identity for each window that has got a token, there are never
more than the maximum, and a request is refused only if that many other windows have tokens. -/
theorem viewers_reclaimable {peerId : PeerId} {userId : Option String} {info : RoomInfo}
    {run : ViewerRun} (hinfo : info.viewerIdentities.lookup peerId = none)
    (h : (viewerRequests peerId userId).Reach (EndsApart peerId userId) ⟨info, []⟩ run) :
    Reclaimable peerId userId run ∧ ∀ windowId, EndsApart peerId userId run windowId →
      (run.info.recordViewerIdentity peerId (viewerIdentity peerId userId windowId)).1 = false →
      (run.issued.filter (· ≠ windowId)).dedup.length = maxViewerIdentitiesPerPeer := by
  have hfirst : Reclaimable peerId userId ⟨info, []⟩ := by
    refine ⟨?_, ?_⟩ <;> rw [takeViewerIdentities_eq, hinfo]
    · exact .nil
    · exact Nat.zero_le _
  have hrun : Reclaimable peerId userId run :=
    h.invariant hfirst fun _ _ _ hrun hapart hnext => hrun.next hapart hnext
  exact ⟨hrun, fun windowId => hrun.refused⟩

/-- Two windows, one of which asks again. -/
theorem viewers_reclaimable_two : ∃ run, run.issued = ["b", "a", "b"]
    ∧ Reclaimable "peer-1" none run := by
  obtain ⟨run, hreach, htest⟩ := Machine.exists_reach_of_replay (viewerRequests "peer-1" none)
    (EndsApart "peer-1" none) ⟨.newSfu 6 "room", []⟩ ["b", "a", "b"]
    (fun run => run.issued == ["b", "a", "b"]) (by decide +kernel)
  exact ⟨run, eq_of_beq htest, (viewers_reclaimable rfl hreach).1⟩

/-- The identity of the second window strikes that of the first one off. -/
theorem not_viewers_reclaimable : ¬ ∀ run,
    (viewerRequests "peer-1" none).Reach (fun _ _ => True) ⟨.newSfu 6 "room", []⟩ run →
    Reclaimable "peer-1" none run := by
  intro h
  obtain ⟨run, hreach, htest⟩ := Machine.exists_reach_of_replay (viewerRequests "peer-1" none)
    (fun _ _ => True) ⟨.newSfu 6 "room", []⟩ ["vw-a", "a"]
    (fun run => run.issued.dedup.length != (run.info.takeViewerIdentities "peer-1").1.length)
    (by decide +kernel)
  have hlength := (h run hreach).recorded.length_eq
  simp [hlength] at htest

end Wavis
