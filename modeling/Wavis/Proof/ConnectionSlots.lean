import Wavis.WsUpgrade

namespace Wavis

open Concurrency

namespace IpConnectionTracker

variable (tracker : IpConnectionTracker) (ip ip' : IpAddr)

theorem count_insert (count : Nat) :
    ({ tracker with connections := tracker.connections.insert ip count }).count ip'
      = if ip' = ip then count else tracker.count ip' := by
  unfold IpConnectionTracker.count
  split_ifs with hip
  · rw [hip, AList.lookup_insert, Option.getD_some]
  · rw [AList.lookup_insert_ne hip]

theorem count_remove :
    (tracker.remove ip).count ip'
      = if ip' = ip then tracker.count ip - 1 else tracker.count ip' := by
  unfold remove
  cases hlookup : tracker.connections.lookup ip with
  | none =>
    have hzero : tracker.count ip = 0 := by simp [count, hlookup]
    split_ifs with hip
    · rw [hip, hzero]
    · rfl
  | some count =>
    have hcount : tracker.count ip = count := by simp [IpConnectionTracker.count, hlookup]
    simp only
    split_ifs with hlast hip hip
    · rw [hip, hcount]
      simp only [IpConnectionTracker.count, AList.lookup_erase, Option.getD_none]
      omega
    · simp only [IpConnectionTracker.count, AList.lookup_erase_ne hip]
    · rw [count_insert, if_pos hip, hcount]
    · rw [count_insert, if_neg hip]

@[simp] theorem maxPerIp_remove : (tracker.remove ip).maxPerIp = tracker.maxPerIp := by
  unfold remove
  split
  · rfl
  · split_ifs <;> rfl

@[simp] theorem maxPerIp_tryAdd : (tracker.tryAdd ip).2.maxPerIp = tracker.maxPerIp := by
  unfold tryAdd
  split_ifs <;> rfl

theorem tryAdd_cases :
    (tracker.tryAdd ip).1 = false
        ∧ (∀ ip', (tracker.tryAdd ip).2.count ip' = tracker.count ip')
      ∨ (tracker.tryAdd ip).1 = true ∧ tracker.count ip < tracker.maxPerIp
        ∧ ∀ ip', (tracker.tryAdd ip).2.count ip'
            = tracker.count ip' + if ip' = ip then 1 else 0 := by
  unfold tryAdd
  split_ifs with hmax
  · refine .inr ⟨rfl, hmax, fun ip' => ?_⟩
    rw [count_insert]
    split_ifs with hip
    · rw [hip]
    · rfl
  · refine .inl ⟨rfl, fun ip' => ?_⟩
    rw [count_insert]
    split_ifs with hip
    · rw [hip]
    · rfl

end IpConnectionTracker

def WsConnection.holds (connection : WsConnection) (ip : IpAddr) : Bool :=
  connection.ip = ip && (connection.stage = .upgrading || connection.stage = .live)

namespace WsServer

def held (s : WsServer) (ip : IpAddr) : Nat := s.connections.countP fun c => c.holds ip

structure Counted (maxPerIp : Nat) (s : WsServer) : Prop where
  limit : s.tracker.maxPerIp = maxPerIp
  count : ∀ ip, s.tracker.count ip = s.held ip
  bounded : ∀ ip, s.tracker.count ip ≤ maxPerIp

variable {maxPerIp i : Nat} {requireTls : Bool} {s s' : WsServer}

theorem move_spec {stage stage' : ConnectionStage} (h : s.move i stage stage' = some s') :
    ∃ connection, s.connections[i]? = some connection ∧ connection.stage = stage
      ∧ s'.tracker = s.tracker ∧ s'.connections[i]? = some { connection with stage := stage' }
      ∧ ∀ ip, s'.held ip + (if connection.holds ip then 1 else 0)
          = s.held ip + if { connection with stage := stage' }.holds ip then 1 else 0 := by
  unfold move at h
  split at h
  · rename_i connection hget
    split_ifs at h with hstage
    cases h
    obtain ⟨hlt, heq⟩ := List.getElem?_eq_some_iff.mp hget
    refine ⟨connection, hget, hstage, rfl, List.getElem?_set_self hlt, fun ip => ?_⟩
    unfold held
    rw [List.countP_set hlt, heq]
    have hpos : connection.holds ip = true → 0 < s.connections.countP fun c => c.holds ip :=
      fun hholds => List.countP_pos_iff.mpr ⟨connection, List.mem_of_getElem? hget, hholds⟩
    by_cases hholds : connection.holds ip = true
    · have := hpos hholds
      simp only [if_pos hholds]
      omega
    · simp only [if_neg hholds]
      omega
  · cases h

section

variable (h : s.Counted maxPerIp)
include h

theorem Counted.upgraded (hmove : s.move i .upgrading .live = some s') : s'.Counted maxPerIp := by
  obtain ⟨connection, -, hstage, htracker, -, hheld⟩ := move_spec hmove
  refine ⟨htracker ▸ h.limit, fun ip => ?_, fun ip => htracker ▸ h.bounded ip⟩
  have hsame := hheld ip
  simp only [WsConnection.holds, hstage] at hsame
  rw [htracker, h.count ip]
  simpa using hsame.symm

theorem Counted.socketEnded (hmove : s.move i .live .ended = some s') :
    (s'.drop i).Counted maxPerIp := by
  obtain ⟨connection, hget, hstage, htracker, hget', hheld⟩ := move_spec hmove
  have hdrop : s'.drop i = { s' with tracker := s.tracker.remove connection.ip } := by
    simp only [drop, hget', htracker]
  rw [hdrop]
  have hheld' : ∀ ip, s'.held ip + (if ip = connection.ip then 1 else 0) = s.held ip := by
    intro ip
    have hlost := hheld ip
    simp only [WsConnection.holds, hstage] at hlost
    simpa [eq_comm] using hlost
  have hcount : ∀ ip, (s.tracker.remove connection.ip).count ip = s'.held ip := by
    intro ip
    have hlost := hheld' ip
    rw [IpConnectionTracker.count_remove]
    split_ifs with hip
    · rw [if_pos hip] at hlost
      have := h.count ip
      rw [← hip]
      omega
    · rw [if_neg hip] at hlost
      rw [h.count ip]
      omega
  refine ⟨(s.tracker.maxPerIp_remove _).trans h.limit, hcount, fun ip => ?_⟩
  calc (s.tracker.remove connection.ip).count ip
      = s'.held ip := hcount ip
    _ ≤ s.held ip := Nat.le.intro (hheld' ip)
    _ = s.tracker.count ip := (h.count ip).symm
    _ ≤ maxPerIp := h.bounded ip

theorem Counted.agreed {ip : IpAddr} {tracker : IpConnectionTracker}
    (hlimit : tracker.maxPerIp = maxPerIp) (hfree : s.tracker.count ip < maxPerIp)
    (hadded : ∀ ip', tracker.count ip' = s.tracker.count ip' + if ip' = ip then 1 else 0) :
    Counted maxPerIp ⟨tracker, s.connections ++ [⟨ip, .upgrading⟩]⟩ := by
  refine ⟨hlimit, fun ip' => ?_, fun ip' => ?_⟩
  · have hnew : (⟨ip, .upgrading⟩ : WsConnection).holds ip' = decide (ip' = ip) := by
      simp [WsConnection.holds, eq_comm]
    rw [hadded ip', h.count ip']
    simp [held, List.countP_append, List.countP_singleton, hnew]
  · rw [hadded ip']
    split_ifs with hip
    · rw [hip]
      exact hfree
    · exact h.bounded ip'

theorem Counted.request (request : UpgradeRequest) :
    (s.request requireTls request).Counted maxPerIp := by
  unfold WsServer.request wsHandler
  split_ifs
  · exact h
  · exact h
  · exact h
  cases request.ticket with
  | none => exact h
  | some known =>
    cases known with
    | false => exact h
    | true =>
      have hlimit := (s.tracker.maxPerIp_tryAdd request.ip).trans h.limit
      rcases s.tracker.tryAdd_cases request.ip with ⟨hrefused, hsame⟩ | ⟨hadd, hfree, hadded⟩
      · rw [show s.tracker.tryAdd request.ip = (false, (s.tracker.tryAdd request.ip).2) from
          Prod.ext hrefused rfl]
        exact ⟨hlimit, fun ip => (hsame ip).trans (h.count ip),
          fun ip => hsame ip ▸ h.bounded ip⟩
      · rw [show s.tracker.tryAdd request.ip = (true, (s.tracker.tryAdd request.ip).2) from
          Prod.ext hadd rfl]
        exact h.agreed hlimit (h.limit ▸ hfree) hadded

end

/-- Every upgrade that the handler has agreed to becomes a socket. -/
def Completes (_ : WsServer) : WsEvent → Prop
  | .upgradeFailed _ => False
  | _ => True

instance (s : WsServer) (event : WsEvent) : Decidable (s.Completes event) := by
  unfold Completes
  cases event <;> infer_instance

theorem counted_next {event : WsEvent} (h : s.Counted maxPerIp) (hcompletes : s.Completes event)
    (hnext : s.next requireTls event = some s') : s'.Counted maxPerIp := by
  cases event with
  | request request =>
    cases hnext
    exact h.request request
  | upgraded i => exact h.upgraded hnext
  | upgradeFailed i => exact hcompletes.elim
  | socketEnded i =>
    obtain ⟨moved, hmove, rfl⟩ := Option.map_eq_some_iff.mp hnext
    exact h.socketEnded hmove

/-- **No slot is leaked.** -/
theorem slots_held (hreach : (wsMachine requireTls).Reach Completes (initial maxPerIp) s)
    (ip : IpAddr) :
    s.tracker.count ip = s.held ip ∧ s.tracker.count ip ≤ maxPerIp
      ∧ ((∀ c ∈ s.connections, c.ip = ip → c.stage = .ended ∨ c.stage = .failed) →
          s.tracker.count ip = 0) := by
  have hcounted : s.Counted maxPerIp :=
    hreach.invariant ⟨rfl, fun _ => rfl, fun _ => Nat.zero_le _⟩
      fun _ _ _ h hcompletes hnext => counted_next h hcompletes hnext
  refine ⟨hcounted.count ip, hcounted.bounded ip, fun hover => ?_⟩
  rw [hcounted.count ip]
  refine List.countP_eq_zero.mpr fun c hmem hholds => ?_
  simp only [WsConnection.holds, Bool.and_eq_true, decide_eq_true_eq, Bool.or_eq_true] at hholds
  rcases hover c hmem hholds.1 with hstage | hstage <;> simp [hstage] at hholds

def welcome : UpgradeRequest := ⟨"a", true, true, false, some true⟩

theorem slots_held_closed : ∃ s, (wsMachine true).Reach Completes (initial 1) s
    ∧ s.connections = [⟨"a", .ended⟩, ⟨"a", .live⟩] ∧ s.tracker.count "a" = s.held "a" := by
  obtain ⟨s, hreach, htest⟩ := Machine.exists_reach_of_replay (wsMachine true) Completes (initial 1)
    [.request welcome, .upgraded 0, .request welcome, .socketEnded 0, .request welcome, .upgraded 1]
    (fun s => s.connections = [⟨"a", .ended⟩, ⟨"a", .live⟩]) (by decide)
  exact ⟨s, hreach, by simpa using htest, (slots_held hreach "a").1⟩

/-- The only connection of an address fails before its socket is there. -/
theorem not_slots_held : ¬ ∀ requireTls maxPerIp s,
    (wsMachine requireTls).Reach (fun _ _ => True) (initial maxPerIp) s → ∀ ip,
    s.tracker.count ip = s.held ip ∧ s.tracker.count ip ≤ maxPerIp
      ∧ ((∀ c ∈ s.connections, c.ip = ip → c.stage = .ended ∨ c.stage = .failed) →
          s.tracker.count ip = 0) := by
  intro h
  obtain ⟨s, hreach, htest⟩ := Machine.exists_reach_of_replay (wsMachine true) (fun _ _ => True)
    (initial 1) [.request welcome, .upgradeFailed 0]
    (fun s => s.tracker.count "a" ≠ s.held "a") (by decide)
  exact htest (h true 1 s hreach "a").1

/-- The server as its tracker sees it: a failed upgrade goes on for ever. -/
def counting (s : WsServer) : WsServer :=
  { s with connections := s.connections.map fun c =>
      if c.stage = .failed then { c with stage := .upgrading } else c }

theorem counting_move {stage stage' : ConnectionStage} (hstage : stage ≠ .failed)
    (h : s.move i stage stage' = some s') :
    s.counting.move i stage (if stage' = .failed then .upgrading else stage')
      = some s'.counting := by
  unfold move at h
  split at h
  · rename_i c hget
    split_ifs at h with hc
    cases h
    by_cases hfailed : stage' = .failed <;>
      simp [move, counting, hget, hc, hstage, hfailed, List.map_set]
  · cases h

theorem Counted.counting_next {event : WsEvent} (h : s.counting.Counted maxPerIp)
    (hnext : s.next requireTls event = some s') : s'.counting.Counted maxPerIp := by
  cases event with
  | request request =>
    cases hnext
    have hrequest : (s.request requireTls request).counting
        = s.counting.request requireTls request := by
      simp only [WsServer.request, counting]
      split <;> simp_all
    exact hrequest ▸ h.request request
  | upgraded i => exact h.upgraded (counting_move (by decide) hnext)
  | upgradeFailed i =>
    obtain ⟨c, -, hstage, htracker, -, hheld⟩ := move_spec (counting_move (by decide) hnext)
    refine ⟨htracker ▸ h.limit, fun ip => ?_, htracker ▸ h.bounded⟩
    have hsame := hheld ip
    rw [if_pos rfl, ← hstage] at hsame
    rw [htracker, h.count ip]
    exact (Nat.add_right_cancel hsame).symm
  | socketEnded i =>
    obtain ⟨moved, hmove, rfl⟩ := Option.map_eq_some_iff.mp hnext
    have hdrop : (moved.drop i).counting = moved.counting.drop i := by
      unfold drop counting
      simp only [List.getElem?_map]
      cases moved.connections[i]? with
      | none => rfl
      | some c => by_cases hfailed : c.stage = .failed <;> simp [hfailed]
    exact hdrop ▸ h.socketEnded (counting_move (by decide) hmove)

/-- **No address has more connections than its limit**, whichever upgrades fail. -/
theorem held_le_maxPerIp
    (hreach : (wsMachine requireTls).Reach (fun _ _ => True) (initial maxPerIp) s) (ip : IpAddr) :
    s.held ip ≤ maxPerIp := by
  have hcounted := hreach.invariant (I := fun s => s.counting.Counted maxPerIp)
    ⟨rfl, fun _ => rfl, fun _ => Nat.zero_le _⟩ fun _ _ _ h _ hnext => h.counting_next hnext
  calc s.held ip ≤ s.counting.held ip := by
        rw [held, held, counting, List.countP_map]
        refine List.countP_mono_left fun c _ hholds => ?_
        by_cases hfailed : c.stage = .failed <;> simp_all [WsConnection.holds]
    _ = s.tracker.count ip := (hcounted.count ip).symm
    _ ≤ maxPerIp := hcounted.bounded ip

/-- One upgrade fails, and the next one is the last that the address gets. -/
theorem held_le_maxPerIp_failed : ∃ s : WsServer, s.held "a" = 1 ∧ s.held "a" ≤ 2 := by
  obtain ⟨s, hreach, hheld⟩ := Machine.exists_reach_of_replay (wsMachine true) (fun _ _ => True)
    (initial 2) [.request welcome, .upgradeFailed 0, .request welcome, .request welcome]
    (fun s => s.held "a" = 1) (by decide)
  exact ⟨s, hheld, held_le_maxPerIp hreach "a"⟩

end WsServer

end Wavis
