import Wavis.Proof.VoicePrograms

namespace Wavis

open Concurrency Prog InMemoryRoomState

/-- Where a ban request is. -/
inductive BanPhase where
  | idle
  | committed (channelId userId : Uuid)
  | looking (channelId userId : Uuid) (roomId : RoomId)
  | found (roomId : RoomId) (peerId : PeerId)
  | kicking (roomId : RoomId) (peerId : PeerId)

def RoomInfo.lists (info : RoomInfo) (peerId : PeerId) : Bool :=
  info.participants.any (·.participantId = peerId)

namespace BanPhase

def next : BanPhase → (o : Op) → o.Resp → BanPhase
  | _, .commitBan channelId userId _, .ok _ => committed channelId userId
  | committed channelId userId, .readActiveRoom _, some roomId => looking channelId userId roomId
  | committed _ _, .readActiveRoom _, none => idle
  | looking _ userId roomId, .room (.readRoom _), members =>
    match members.bind (·.info.findUser userId) with
    | some peerId => found roomId peerId
    | none => idle
  | found roomId peerId, .room (.readRoom _), members =>
    if members.any (·.info.lists peerId) then kicking roomId peerId else idle
  | kicking _ _, .room (.updateInfo _ (.kick _)), _ => idle
  | φ, _, _ => φ

def May (φ : BanPhase) : Op → Prop
  | .commitBan _ _ _ => φ = idle
  | .readActiveRoom channelId =>
    match φ with
    | committed channelId' _ => channelId' = channelId
    | _ => True
  | .room (.readRoom roomId) =>
    match φ with
    | looking _ _ roomId' => roomId' = roomId
    | found roomId' _ => roomId' = roomId
    | _ => True
  | .room (.updateInfo roomId (.kick peerId)) =>
    match φ with
    | kicking roomId' peerId' => roomId' = roomId ∧ peerId' = peerId
    | _ => True
  | .room (.createRoom _ info) => info.participants = []
  | .room (.updateObject _ edit) => edit.adds = none
  | _ => True

end BanPhase

def banProtocol : Protocol Op.Resp BackendCall.Ret BanPhase where
  init _ := .idle
  next := BanPhase.next
  may _ := BanPhase.May
  post _ φ _ := φ = .idle

abbrev banPhase (thread : BackendThread) : BanPhase := banProtocol.phase thread

section

open BanPhase

variable {α β : Type} {φ : BanPhase} {program : BackendProg α} {call : BackendCall} {o : Op}
  (channelId : Uuid) (roomId : RoomId)

abbrev BackendProg.KeepsBan (program : BackendProg α) (post : BanPhase → α → Prop)
    (φ : BanPhase) : Prop :=
  program.Obeys BanPhase.next BanPhase.May post φ

/-- The step makes no difference to a request that does not look. -/
def Op.steady : Op → Prop
  | .commitBan _ _ _ => False
  | .room (.createRoom _ info) => info.participants = []
  | .room (.updateInfo _ (.kick _)) => False
  | .room (.updateObject _ edit) => edit.adds = none
  | _ => True

theorem Op.steady_of_passive (h : o.passive = true) : o.steady := by
  cases o with
  | room ro =>
    cases ro with
    | updateInfo roomId edit => cases edit <;> trivial
    | updateObject arc edit => exact InfoEdit.adds_of_passive h
    | _ => trivial
  | _ => trivial

def BanPhase.quiet : BanPhase → Bool
  | idle => true
  | kicking _ _ => true
  | _ => false

theorem BanPhase.next_of_steady (hφ : φ.quiet = true) (ho : o.steady) :
    May φ o ∧ ∀ answer, next φ o answer = φ := by
  cases φ with
  | idle =>
    cases o with
    | room ro =>
      cases ro with
      | updateInfo roomId edit =>
        refine ⟨by cases edit <;> trivial, fun answer => ?_⟩
        cases edit <;> rfl
      | _ => exact ⟨by trivial, fun _ => rfl⟩
    | commitBan channelId userId bannedAt => exact ho.elim
    | _ => exact ⟨trivial, fun _ => rfl⟩
  | kicking roomId peerId =>
    cases o with
    | room ro =>
      cases ro with
      | updateInfo roomId' edit =>
        cases edit with
        | kick peerId' => exact ho.elim
        | _ => exact ⟨trivial, fun _ => rfl⟩
      | _ => exact ⟨by trivial, fun _ => rfl⟩
    | commitBan channelId userId bannedAt => exact ho.elim
    | _ => exact ⟨trivial, fun _ => rfl⟩
  | committed channelId userId | looking channelId userId roomId | found roomId peerId => cases hφ

variable (peerId : PeerId) (requesterUserId targetUserId : Uuid)

theorem keepsBan_of_steady (h : program.Within Op.steady) (hφ : φ.quiet = true) :
    program.KeepsBan (fun φ' _ => φ' = φ) φ := by
  refine h.obeys rfl ?_
  rintro _ o rfl ho
  exact next_of_steady hφ ho

theorem keepsBan_bind {f : α → BackendProg β} {post : BanPhase → β → Prop}
    (h : program.Within Op.steady) (hφ : φ.quiet = true) (hf : ∀ a, (f a).KeepsBan post φ) :
    (program >>= f).KeepsBan post φ := by
  refine (keepsBan_of_steady h hφ).bind ?_
  rintro _ a rfl
  exact hf a

theorem BackendProg.Passive.steady (h : program.Passive) : program.Within Op.steady :=
  h.mono fun _ => Op.steady_of_passive

theorem kickParticipant_keepsBan :
    (kickParticipant roomId peerId).KeepsBan (fun φ _ => φ = .idle) (.kicking roomId peerId) := by
  refine keepsBan_bind (within_getRoomInfo trivial) rfl fun info => ?_
  refine keepsBan_bind (sfuRemoveAll_inert _ _).passive.steady rfl fun _ => ?_
  refine keepsBan_bind (takeViewerIdentities_inert _ _).passive.steady rfl fun viewerIds => ?_
  refine keepsBan_bind (sfuRemoveAll_inert _ _).passive.steady rfl fun _ => ?_
  refine keepsBan_bind (within_removePeerInternal trivial (fun _ => trivial) (fun _ => trivial)
    fun _ => trivial) rfl fun _ => ?_
  exact ⟨⟨rfl, rfl⟩, fun _ => ⟨trivial, fun _ => rfl⟩⟩

theorem participantInRoom_keepsBan :
    (participantInRoom roomId peerId).KeepsBan
      (fun φ listed => φ = if listed then .kicking roomId peerId else .idle)
      (.found roomId peerId) := by
  refine ⟨rfl, fun members => ?_⟩
  cases members <;> rfl

theorem handleKick_keepsBan :
    (handleKick roomId .host peerId).KeepsBan (fun φ _ => φ = .idle) (.found roomId peerId) := by
  refine (participantInRoom_keepsBan roomId peerId).bind ?_
  rintro _ listed rfl
  cases listed with
  | false => exact rfl
  | true => exact (kickParticipant_keepsBan roomId peerId).bind fun φ _ hφ => hφ

theorem ejectBannedUser_keepsBan (channelId : Uuid) :
    (ejectBannedUser roomId peerId channelId).KeepsBan (fun φ _ => φ = .idle)
      (.found roomId peerId) := by
  refine (handleKick_keepsBan roomId peerId).bind ?_
  rintro _ kicked rfl
  cases kicked with
  | error e => exact rfl
  | ok signals =>
    refine keepsBan_of_steady (.bind (within_peerCount trivial) fun remaining => ?_) rfl
    split_ifs
    · exact .map (within_releaseVoiceRoom trivial (fun _ => trivial)
        (within_rollbackRoom trivial trivial trivial))
    · exact .pure

theorem findUserInVoice_keepsBan (userId : Uuid) :
    (findUserInVoice channelId userId).KeepsBan
      (fun φ place => φ = match place with
        | some (roomId, peerId) => .found roomId peerId
        | none => .idle)
      (.committed channelId userId) := by
  refine ⟨rfl, fun active => ?_⟩
  cases active with
  | none => exact rfl
  | some roomId =>
    refine ⟨rfl, fun members => ?_⟩
    cases members with
    | none => exact rfl
    | some members =>
      show BanPhase.next (.looking channelId userId roomId) (.room (.readRoom roomId))
        (some members) = _
      cases hfind : members.info.findUser userId <;>
        simp [BanPhase.next, hfind]

theorem banMember_keepsBan :
    (banMember channelId requesterUserId targetUserId).KeepsBan
      (fun φ answer => φ = match answer with
        | .ok _ => .committed channelId targetUserId
        | .error _ => .idle) .idle := by
  unfold banMember
  split_ifs
  · exact rfl
  refine keepsBan_bind (within_perform trivial) rfl fun now => ?_
  refine keepsBan_bind (within_perform trivial) rfl fun requester => ?_
  rcases requester with e | _ | requester
  · exact rfl
  · exact rfl
  dsimp only
  split_ifs
  · exact rfl
  refine keepsBan_bind (within_perform trivial) rfl fun target => ?_
  rcases target with e | _ | target
  · exact rfl
  · exact rfl
  dsimp only
  split
  · exact rfl
  refine keepsBan_bind (within_perform trivial) rfl fun updated => ?_
  cases updated with
  | error e => exact rfl
  | ok _ =>
    refine ⟨rfl, fun committed => ?_⟩
    cases committed <;> exact rfl

theorem banMemberRoute_keepsBan :
    (banMemberRoute channelId requesterUserId targetUserId).KeepsBan (fun φ _ => φ = .idle)
      .idle := by
  refine keepsBan_bind (within_perform trivial) rfl fun allowed => ?_
  cases allowed with
  | false => exact rfl
  | true =>
    refine (banMember_keepsBan _ _ _).bind ?_
    rintro _ banned rfl
    cases banned with
    | error e => exact rfl
    | ok _ =>
      refine (findUserInVoice_keepsBan _ _).bind ?_
      rintro _ place rfl
      cases place with
      | none => exact rfl
      | some place =>
        obtain ⟨roomId, peerId⟩ := place
        refine (ejectBannedUser_keepsBan roomId peerId channelId).bind ?_
        rintro _ ejected rfl
        cases ejected with
        | error e => exact rfl
        | ok signals =>
          refine keepsBan_of_steady ?_ rfl
          refine .bind (removeParticipantFromSubRoom_inert _ _).passive.steady fun _ => ?_
          refine .bind (dispatchSignals_passive _ _).steady fun _ => ?_
          exact .bind (scheduleSubRoomExpiry_inert _ _).passive.steady fun _ =>
            .pure

theorem idle_of_may {φ : VoicePhase} (hban : call.isBan = false) (h : VoicePhase.May call φ o) :
    May .idle o ∧ ∀ answer, next .idle o answer = .idle := by
  cases o with
  | room ro =>
    cases ro with
    | updateInfo roomId edit => cases edit <;> exact ⟨trivial, fun _ => rfl⟩
    | createRoom roomId info => exact ⟨h.2, fun _ => rfl⟩
    | updateObject arc edit => exact ⟨h, fun _ => rfl⟩
    | _ => exact ⟨trivial, fun _ => rfl⟩
  | commitBan channelId userId bannedAt =>
    rw [show call.isBan = true from h] at hban
    cases hban
  | _ => exact ⟨trivial, fun _ => rfl⟩

theorem voiceCall_holds_ban (config : Config) (hvoice : call.isVoice = true) :
    banProtocol.Holds ((backend config).spawn call) := by
  cases hban : call.isBan with
  | true =>
    cases call with
    | banMember channelId requesterUserId targetUserId => exact banMemberRoute_keepsBan _ _ _
    | _ => cases hban
  | false =>
    have hwithin : (call.body config).Within fun o => ∃ φ, VoicePhase.May call φ o :=
      Obeys.within (voiceCall_holds config hvoice) fun φ o h => ⟨φ, h⟩
    refine hwithin.obeys rfl ?_
    rintro _ o rfl ⟨φ, h⟩
    exact idle_of_may hban h

end

end Wavis
