import Wavis.WsTicket

namespace Wavis

open List

def TicketRecord.live (record : TicketRecord) (now : Instant) : Bool :=
  !record.consumed && decide (record.expiresAt > now)

variable {H : Type} [DecidableEq H] {hashTicket : String → H} {rawTicket : String}
  {user : Uuid × Uuid} {now : Instant}

/-- What a call does to the record of a hash. -/
def TicketCall.act (hashTicket : String → H) (hash : H) (record : Option TicketRecord) :
    TicketCall → Option TicketRecord
  | issue raw userId deviceId now =>
    if hash = hashTicket raw then
      some ⟨userId, deviceId, now + Duration.fromSecs ticketTtlSecs, false⟩
    else record
  | validateAndConsume rawTicket now =>
    if hash = hashTicket rawTicket then
      record.map fun record => if record.live now then { record with consumed := true } else record
    else record
  | pruneExpired now => record.filter (·.live now)

namespace WsTicketStore

theorem validateAndConsume_cases (hashTicket : String → H) (tickets : WsTicketStore H)
    (rawTicket : String) (now : Instant) :
    ((∀ record, tickets.lookup (hashTicket rawTicket) = some record → record.live now = false)
      ∧ ∃ error, tickets.validateAndConsume hashTicket rawTicket now = (.error error, tickets))
    ∨ ∃ record, tickets.lookup (hashTicket rawTicket) = some record ∧ record.live now = true
      ∧ tickets.validateAndConsume hashTicket rawTicket now = (.ok (record.userId, record.deviceId),
        tickets.insert (hashTicket rawTicket) { record with consumed := true }) := by
  unfold validateAndConsume
  cases tickets.lookup (hashTicket rawTicket) with
  | none => exact .inl ⟨nofun, _, rfl⟩
  | some record =>
    dsimp only
    split_ifs with hconsumed hexpired
    · refine .inl ⟨?_, _, rfl⟩
      rintro _ ⟨⟩
      simp [TicketRecord.live, hconsumed]
    · refine .inl ⟨?_, _, rfl⟩
      rintro _ ⟨⟩
      simp [TicketRecord.live, hexpired]
    · exact .inr ⟨record, rfl, by simp_all [TicketRecord.live], rfl⟩

theorem validateAndConsume_eq_ok {tickets : WsTicketStore H} :
    (tickets.validateAndConsume hashTicket rawTicket now).1 = .ok user
      ↔ ∃ record, tickets.lookup (hashTicket rawTicket) = some record ∧ record.live now = true
        ∧ (record.userId, record.deviceId) = user := by
  rcases tickets.validateAndConsume_cases hashTicket rawTicket now with
    ⟨hdead, _, heq⟩ | ⟨record, hlookup, hlive, heq⟩
  · rw [heq]
    refine ⟨nofun, ?_⟩
    rintro ⟨record, hlookup, hlive, -⟩
    cases (hdead record hlookup).symm.trans hlive
  · simp [heq, hlookup, hlive]

variable (tickets : WsTicketStore H) (calls : List TicketCall) (hash : H)

theorem lookup_serve (call : TicketCall) (hash : H) :
    (tickets.serve hashTicket call).lookup hash
      = call.act hashTicket hash (tickets.lookup hash) := by
  cases call with
  | issue raw userId deviceId now =>
    simp only [serve, issue, TicketCall.act]
    split_ifs with hhash
    · rw [hhash, AList.lookup_insert]
    · rw [AList.lookup_insert_ne hhash]
  | validateAndConsume rawTicket now =>
    simp only [serve, TicketCall.act]
    rcases tickets.validateAndConsume_cases hashTicket rawTicket now with
      ⟨hdead, _, heq⟩ | ⟨record, hlookup, hlive, heq⟩
    · rw [heq]
      split_ifs with hhash
      · rw [hhash]
        cases hlookup : tickets.lookup (hashTicket rawTicket) with
        | none => rfl
        | some record => simp [hdead record hlookup]
      · rfl
    · rw [heq]
      split_ifs with hhash
      · rw [hhash, AList.lookup_insert, hlookup, Option.map_some, if_pos hlive]
      · rw [AList.lookup_insert_ne hhash]
  | pruneExpired now => exact HashMap.lookup_retain _ _ _

theorem lookup_after :
    (after hashTicket calls).lookup hash = calls.foldl (TicketCall.act hashTicket hash) none :=
  (foldl_hom (fun tickets : WsTicketStore H => tickets.lookup hash)
    fun tickets call => (lookup_serve tickets call hash).symm).symm

end WsTicketStore

namespace TicketCall

variable {calls : List TicketCall} {hash : H} {record : TicketRecord} {r r' : Option TicketRecord}

/-- A record is that of a ticket that was issued. -/
theorem issued_of_foldl (h : calls.foldl (act hashTicket hash) none = some record) :
    ∃ raw now, hash = hashTicket raw ∧ .issue raw record.userId record.deviceId now ∈ calls
      ∧ record.expiresAt = now + Duration.fromSecs ticketTtlSecs := by
  induction calls using reverseRecOn generalizing record with
  | nil => cases h
  | append_singleton calls call ih =>
    have hold : ∀ before, calls.foldl (act hashTicket hash) none = some before →
        before.userId = record.userId → before.deviceId = record.deviceId →
        before.expiresAt = record.expiresAt → ∃ raw now, hash = hashTicket raw
          ∧ .issue raw record.userId record.deviceId now ∈ calls ++ [call]
          ∧ record.expiresAt = now + Duration.fromSecs ticketTtlSecs := by
      intro before hbefore huser hdevice hexpires
      obtain ⟨raw, now, hhash, hissued, heq⟩ := ih hbefore
      rw [huser, hdevice] at hissued
      exact ⟨raw, now, hhash, mem_append_left _ hissued, hexpires ▸ heq⟩
    rw [foldl_append, foldl_cons, foldl_nil] at h
    generalize calls.foldl (act hashTicket hash) none = before at h hold
    cases call with
    | issue raw userId deviceId now =>
      simp only [act] at h
      split_ifs at h with hhash
      · cases h
        exact ⟨raw, now, hhash, by simp, rfl⟩
      · exact hold record h rfl rfl rfl
    | validateAndConsume rawTicket now =>
      simp only [act] at h
      split_ifs at h with hhash
      · obtain ⟨record', rfl, rfl⟩ := Option.map_eq_some_iff.mp h
        refine hold record' rfl ?_ ?_ ?_ <;> split_ifs <;> rfl
      · exact hold record h rfl rfl rfl
    | pruneExpired now =>
      exact hold record (Option.filter_eq_some_iff.mp h).1 rfl rfl rfl

def Spent (r : Option TicketRecord) : Prop := ∀ record, r = some record → record.consumed = true

theorem Spent.foldl (h : Spent r)
    (hcalls : ∀ call ∈ calls, ∀ raw ∈ call.draws, hash ≠ hashTicket raw) :
    Spent (calls.foldl (act hashTicket hash) r) := by
  induction calls generalizing r with
  | nil => exact h
  | cons call calls ih =>
    rw [forall_mem_cons] at hcalls
    refine ih ?_ hcalls.2
    intro record hrecord
    cases call with
    | issue raw userId deviceId now =>
      rw [act, if_neg (hcalls.1 raw rfl)] at hrecord
      exact h record hrecord
    | validateAndConsume rawTicket now =>
      simp only [act] at hrecord
      split_ifs at hrecord
      · obtain ⟨before, hbefore, rfl⟩ := Option.map_eq_some_iff.mp hrecord
        split_ifs
        · rfl
        · exact h before hbefore
      · exact h record hrecord
    | pruneExpired now => exact h record (Option.filter_eq_some_iff.mp hrecord).1

/-- With a record that is stored, calls go as without it until it is gone. -/
theorem under_foldl (h : ∀ record, r = some record → r' = some record)
    (hrecord : calls.foldl (act hashTicket hash) r = some record) :
    calls.foldl (act hashTicket hash) r' = some record := by
  induction calls generalizing r r' with
  | nil => exact h record hrecord
  | cons call calls ih =>
    refine ih ?_ hrecord
    intro before hbefore
    cases r with
    | some old =>
      rw [h old rfl]
      exact hbefore
    | none =>
      cases call with
      | issue raw userId deviceId now =>
        simp only [act] at hbefore ⊢
        split_ifs at hbefore ⊢
        exact hbefore
      | validateAndConsume rawTicket now =>
        simp only [act, Option.map_none, ite_self] at hbefore
        cases hbefore
      | pruneExpired now => cases hbefore

end TicketCall

namespace WsTicketStore

open TicketCall

variable {earlier later : List TicketCall} {now' : Instant}

/-- Of the calls that show a ticket, none before one that is accepted was accepted. -/
theorem ne_ok_of_ok {user' : Uuid × Uuid} (hinj : Function.Injective hashTicket)
    (hdraws : ((earlier ++ .validateAndConsume rawTicket now' :: later).filterMap draws).Nodup)
    (hok : ((after hashTicket (earlier ++ .validateAndConsume rawTicket now' :: later))
      |>.validateAndConsume hashTicket rawTicket now).1 = .ok user) :
    ((after hashTicket earlier).validateAndConsume hashTicket rawTicket now').1 ≠ .ok user' := by
  intro hfirst
  obtain ⟨record, hlookup, hlive, -⟩ := validateAndConsume_eq_ok.mp hfirst
  obtain ⟨record', hlookup', hlive', -⟩ := validateAndConsume_eq_ok.mp hok
  rw [lookup_after] at hlookup hlookup'
  obtain ⟨raw, issuedAt, hhash, hissued, -⟩ := issued_of_foldl hlookup
  cases hinj hhash
  -- the ticket was drawn before, so no later call draws it
  have hlater : ∀ call ∈ later, ∀ raw ∈ call.draws, hashTicket rawTicket ≠ hashTicket raw := by
    intro call hcall raw hraw heq
    rw [filterMap_append, nodup_append] at hdraws
    refine hdraws.2.2 rawTicket (mem_filterMap.mpr ⟨_, hissued, rfl⟩) raw ?_ (hinj heq)
    exact mem_filterMap.mpr ⟨call, mem_cons_of_mem _ hcall, hraw⟩
  rw [foldl_append, foldl_cons, hlookup, act, if_pos rfl, Option.map_some,
    if_pos hlive] at hlookup'
  have hspent : Spent (some { record with consumed := true }) := by
    rintro _ ⟨⟩
    rfl
  simp [TicketRecord.live, hspent.foldl hlater record' hlookup'] at hlive'

theorem ok_of_pruned
    (hok : ((after hashTicket (earlier ++ .pruneExpired now' :: later))
      |>.validateAndConsume hashTicket rawTicket now).1 = .ok user) :
    ((after hashTicket (earlier ++ later)).validateAndConsume hashTicket rawTicket now).1
      = .ok user := by
  obtain ⟨record, hlookup, hlive, huser⟩ := validateAndConsume_eq_ok.mp hok
  refine validateAndConsume_eq_ok.mpr ⟨record, ?_, hlive, huser⟩
  rw [lookup_after, foldl_append] at hlookup ⊢
  exact under_foldl (fun _ h => (Option.filter_eq_some_iff.mp h).1) hlookup

theorem ticket_opens_one_connection (hashTicket : String → H)
    (hinj : Function.Injective hashTicket) (calls : List TicketCall)
    (hdraws : (calls.filterMap draws).Nodup) :
    (∀ rawTicket now user,
      ((after hashTicket calls).validateAndConsume hashTicket rawTicket now).1 = .ok user →
      (∃ issuedAt, .issue rawTicket user.1 user.2 issuedAt ∈ calls
        ∧ now < issuedAt + Duration.fromSecs ticketTtlSecs)
      ∧ (∀ earlier now' later, calls = earlier ++ .validateAndConsume rawTicket now' :: later →
        ∀ user', ((after hashTicket earlier).validateAndConsume hashTicket rawTicket now').1
          ≠ .ok user')
      ∧ ∀ earlier now' later, calls = earlier ++ .pruneExpired now' :: later →
        ((after hashTicket (earlier ++ later)).validateAndConsume hashTicket rawTicket now).1
          = .ok user)
    ∧ ∀ hash record now, (after hashTicket calls).lookup hash = some record →
      record.consumed = false → now < record.expiresAt →
      ((after hashTicket calls).pruneExpired now).2.lookup hash = some record := by
  refine ⟨fun rawTicket now user hok => ⟨?_, ?_, ?_⟩, ?_⟩
  · obtain ⟨record, hlookup, hlive, rfl⟩ := validateAndConsume_eq_ok.mp hok
    rw [lookup_after] at hlookup
    obtain ⟨raw, issuedAt, hhash, hissued, hexpires⟩ := issued_of_foldl hlookup
    cases hinj hhash
    rw [TicketRecord.live, Bool.and_eq_true, decide_eq_true_iff, hexpires] at hlive
    exact ⟨issuedAt, hissued, hlive.2⟩
  · rintro earlier now' later rfl user'
    exact ne_ok_of_ok hinj hdraws hok
  · rintro earlier now' later rfl
    exact ok_of_pruned hok
  · intro hash record now hlookup hconsumed hexpires
    rw [← serve.eq_3 hashTicket, lookup_serve, hlookup]
    simp [act, TicketRecord.live, hconsumed, hexpires]

theorem ticket_opens_one_connection_issued :
    ((after id [.issue "t" nilUuid nilUuid 0, .pruneExpired 1]).validateAndConsume id "t" 2).1
      = .ok (nilUuid, nilUuid)
    ∧ ((after id [.issue "t" nilUuid nilUuid 0]).validateAndConsume id "t" 2).1
      = .ok (nilUuid, nilUuid) := by
  have hok : ((after id [.issue "t" nilUuid nilUuid 0, .pruneExpired 1])
      |>.validateAndConsume id "t" 2).1 = .ok (nilUuid, nilUuid) := by rfl
  have hone := ticket_opens_one_connection id Function.injective_id
    [.issue "t" nilUuid nilUuid 0, .pruneExpired 1] (by decide)
  exact ⟨hok, (hone.1 "t" 2 _ hok).2.2 [.issue "t" nilUuid nilUuid 0] 1 [] rfl⟩

end WsTicketStore

end Wavis
