import Wavis.Client.ViewerConnection
import Mathlib.Data.List.Basic

/-! Every room that is not ended is the one the connection holds, and an attempt under way holds its
own room or none. -/

namespace Wavis

open Concurrency Function ViewerRoomConnection

namespace ViewerRoomConnection

variable {c c' : ViewerRoomConnection} {a : ConnectAttempt} {generation room : Nat}

/-- The room was connected and has not reported its terminal disconnect. -/
def Up (c : ViewerRoomConnection) (room : Nat) : Prop :=
  c.rooms room = .connected ∨ c.rooms room = .reconnecting

/-- A window that watches something and has no attempt under way has a room or a timer. -/
def Trying (c : ViewerRoomConnection) : Prop :=
  c.disposed = false → c.watches ≠ [] → c.connectPromise = none →
    (∃ room, c.room = some room ∧ c.Up room) ∨ c.reconnectTimer.isSome

/-- The window keeps trying until it is disposed, and then lets go of everything. -/
structure KeepsTrying (c : ViewerRoomConnection) : Prop where
  trying : c.Trying
  released : c.disposed = true → c.connectPromise = none →
    (∀ room, (c.rooms room).live = false) ∧ c.reconnectTimer = none

def isReconnecting (c : ViewerRoomConnection) : Bool := c.room.map c.rooms = some .reconnecting

/-- No reconnect is forced during an attempt while something is watched, nothing is watched anew
during an attempt that was overtaken, and nobody asks for a connection while the room reconnects by
itself. -/
def undisturbed (c : ViewerRoomConnection) : ViewerEvent → Bool
  | .watch _ _ => !c.isReconnecting
    && c.connectPromise.all fun a => c.disposed || a.generation = c.generation
  | .refreshIdentity | .reconnectTimer => !c.isReconnecting
  | .forceReconnect => c.disposed || c.connectPromise.isNone || c.watches.isEmpty
  | _ => true

/-- What is known of the attempt under way. -/
structure Expects (c : ViewerRoomConnection) (a : ConnectAttempt) : Prop where
  bound : a.generation ≤ c.generation
  current : c.disposed = false → c.watches ≠ [] → a.generation = c.generation
  holds : (c.room = none ∧ ∀ room, a.stage = .connect room → c.isCurrent a.generation = true →
      c.rooms room = .lost)
    ∨ ∃ room, a.stage = .connect room ∧ c.room = some room ∧ c.isCurrent a.generation = true

structure Sound (c : ViewerRoomConnection) : Prop where
  live : ∀ {room}, (c.rooms room).live = true → c.room = some room
  held : ∀ {room}, c.room = some room → c.connectPromise = none → c.Up room
  disposed : c.disposed = true → c.room = none ∧ c.reconnectTimer = none
  expects : ∀ {a}, c.connectPromise = some a → c.Expects a

abbrev Steady (c : ViewerRoomConnection) : Prop := c.Sound ∧ c.Trying

attribute [grind =] Up ViewerRoomState.live isCurrent isReconnecting

attribute [grind →] Sound.live Sound.held Sound.disposed Expects.bound Expects.current

@[grind =]
theorem live_disconnect (state : ViewerRoomState) : state.disconnect.live = false := by
  cases state <;> rfl

@[grind =]
theorem rooms_setRoom (room' : Nat) (state : ViewerRoomState) :
    (c.setRoom room state).rooms room' = if room' = room then state else c.rooms room' :=
  update_apply _ _ _ _

section

variable (h : c.Sound)
include h

/-- A teardown ends the room that is held, so it ends them all. -/
theorem Sound.live_tearDown (room : Nat) : (c.tearDown.rooms room).live = false := by
  unfold tearDown
  cases hheld : c.room with
  | none => grind
  | some held =>
    dsimp only
    rw [update_apply]
    grind

theorem Sound.expects_tearDown (hpast : c.watches = [] ∨ c.connectPromise = none)
    (hpromise : c.connectPromise = some a) :
    ({ c.tearDown with attempt := 0 } : ViewerRoomConnection).Expects a := by
  have hbound := (h.expects hpromise).bound
  refine ⟨Nat.le_succ_of_le hbound, ?_, .inl ⟨rfl, ?_⟩⟩
  · grind [tearDown]
  · grind [tearDown]

theorem Sound.schedule : c.scheduleReconnect.Steady := by
  unfold scheduleReconnect
  split_ifs with hstay
  · exact ⟨h, by grind [Trying]⟩
  · refine ⟨⟨h.live, h.held, by grind, fun hpromise => ?_⟩, fun _ _ _ => .inr rfl⟩
    obtain ⟨hbound, hcurrent, hholds⟩ := h.expects hpromise
    exact ⟨hbound, hcurrent, hholds⟩

theorem Sound.ensureConnected (hroom : c.isReconnecting = false) : c.ensureConnected.Steady := by
  unfold ViewerRoomConnection.ensureConnected
  split_ifs with hstay
  · exact ⟨h, by cases hheld : c.room <;> grind [Trying]⟩
  · simp only [Bool.or_eq_true, not_or, decide_eq_true_eq, Option.not_isSome_iff_eq_none] at hstay
    -- The room is neither connected nor reconnecting, and no attempt has one.
    have hnone : c.room = none := by cases hheld : c.room <;> grind
    refine ⟨⟨h.live, by grind [connectOnce], h.disposed, fun hpromise => ?_⟩, ?_⟩
    · cases hpromise
      exact ⟨Nat.le_refl _, fun _ _ => rfl, .inl ⟨hnone, by grind⟩⟩
    · rintro - - ⟨⟩

theorem Sound.watch (ht : c.Trying) (identity : String) (callback : Nat)
    (hallowed : c.undisturbed (.watch identity callback) = true) :
    (c.watch identity callback).Steady := by
  unfold ViewerRoomConnection.watch
  split_ifs with hdisposed
  · exact ⟨h, ht⟩
  · refine Sound.ensureConnected ⟨h.live, h.held, h.disposed, fun {a} hpromise => ?_⟩ ?_
    · obtain ⟨hbound, -, hholds⟩ := h.expects hpromise
      exact ⟨hbound, by grind [undisturbed], hholds⟩
    · grind [undisturbed]

theorem Sound.forceReconnect (ht : c.Trying) (hallowed : c.undisturbed .forceReconnect = true) :
    c.forceReconnect.Steady := by
  unfold ViewerRoomConnection.forceReconnect
  split_ifs with hdisposed
  · exact ⟨h, ht⟩
  · refine Sound.ensureConnected ⟨fun {room} hlive => ?_, ?_, fun _ => ⟨rfl, rfl⟩,
      h.expects_tearDown ?_⟩ rfl
    · cases (h.live_tearDown room).symm.trans hlive
    · grind [tearDown]
    · grind [undisturbed, Option.isNone_iff_eq_none]

theorem Sound.dispose : c.dispose.Steady := by
  unfold ViewerRoomConnection.dispose
  split_ifs with hdisposed
  · exact ⟨h, by grind [Trying]⟩
  · refine ⟨⟨?_, ?_, fun _ => ⟨rfl, rfl⟩, fun hpromise => ?_⟩, by grind [Trying]⟩
    · grind [h.live_tearDown]
    · grind [tearDown]
    · have hbound := (h.expects hpromise).bound
      exact ⟨Nat.le_succ_of_le hbound, by grind, .inl ⟨rfl, by grind⟩⟩

theorem Sound.tokenArrived (hpromise : c.connectPromise = some ⟨generation, .requestToken⟩) :
    (c.tokenArrived generation).Steady := by
  obtain ⟨hbound, hfresh, hholds⟩ := h.expects hpromise
  have hnone : c.room = none := by grind
  unfold ViewerRoomConnection.tokenArrived
  split_ifs with hcurrent
  · refine ⟨⟨by grind, by grind, by grind [setRoom], ?_⟩, ?_⟩
    · rintro _ ⟨⟩
      exact ⟨hbound, hfresh, .inr ⟨c.nextRoom, rfl, rfl, hcurrent⟩⟩
    · rintro - - ⟨⟩
  · exact ⟨⟨h.live, by grind, h.disposed, by grind⟩, by grind [Trying]⟩

theorem Sound.connectSucceeded (hpromise : c.connectPromise = some ⟨generation, .connect room⟩)
    (hlost : c.rooms room ≠ .lost) : (c.connectSucceeded generation room).Steady := by
  obtain ⟨hbound, hfresh, hholds⟩ := h.expects hpromise
  unfold ViewerRoomConnection.connectSucceeded
  split_ifs with hcurrent
  · have hheld : c.room = some room := by grind
    refine ⟨⟨?_, ?_, ?_, ?_⟩, ?_⟩ <;> grind [setRoom, Trying]
  · have hnone : c.room = none := by grind
    refine ⟨⟨?_, ?_, ?_, ?_⟩, ?_⟩ <;> grind [setRoom, Trying]

/-- A failed attempt leaves no room behind, whether it is still current or was overtaken. -/
theorem Sound.attemptFailed (hpromise : c.connectPromise = some a)
    (hdead : ∀ room, (c.rooms room).live = false) : (c.attemptFailed a.generation).Steady := by
  obtain ⟨hbound, hfresh, hholds⟩ := h.expects hpromise
  unfold ViewerRoomConnection.attemptFailed
  split_ifs with hcurrent
  · refine Sound.schedule ⟨?_, ?_, ?_, ?_⟩ <;> grind
  · have hnone : c.room = none := by grind
    refine ⟨⟨?_, ?_, ?_, ?_⟩, ?_⟩ <;> grind [Trying]

theorem Sound.roomUp (ht : c.Trying) {state : ViewerRoomState} (hup : c.Up room)
    (hstate : state = .connected ∨ state = .reconnecting) : (c.setRoom room state).Steady := by
  refine ⟨⟨?_, ?_, h.disposed, fun hpromise => ?_⟩, ?_⟩
  · grind [setRoom]
  · grind [setRoom]
  · obtain ⟨hbound, hcurrent, hholds⟩ := h.expects hpromise
    exact ⟨hbound, hcurrent, by grind [setRoom]⟩
  · grind [setRoom, Trying]

theorem Sound.roomLost (hroom : c.room = some room → c.connectPromise ≠ none) :
    (c.setRoom room .lost).Sound := by
  refine ⟨?_, ?_, h.disposed, fun hpromise => ?_⟩
  · grind [setRoom]
  · grind [setRoom]
  · obtain ⟨hbound, hcurrent, hholds⟩ := h.expects hpromise
    exact ⟨hbound, hcurrent, by grind [setRoom]⟩

theorem Sound.roomDisconnected (ht : c.Trying) (room : Nat) : (c.roomDisconnected room).Steady := by
  unfold ViewerRoomConnection.roomDisconnected
  split_ifs with hstay
  · have hne : c.room ≠ some room := by grind
    exact ⟨h.roomLost (absurd · hne), by grind [setRoom, Trying]⟩
  · refine Sound.schedule ⟨?_, ?_, ?_, fun hpromise => ?_⟩
    · grind [setRoom]
    · grind [setRoom]
    · grind [setRoom]
    · obtain ⟨hbound, hcurrent, hholds⟩ := h.expects hpromise
      exact ⟨hbound, hcurrent, by grind [setRoom]⟩

theorem Sound.step (ht : c.Trying) {e : ViewerEvent} (hallowed : c.undisturbed e = true)
    (hnext : c.next e = some c') : c'.Steady := by
  cases e with
  | watch identity callback =>
    cases hnext
    exact h.watch ht identity callback hallowed
  | unwatch identity callback =>
    cases hnext
    have hwatches : c.watches.erase (identity, callback) ≠ [] → c.watches ≠ [] := by
      rintro hne hempty
      exact hne (by simp [hempty])
    refine ⟨⟨h.live, h.held, h.disposed, fun hpromise => ?_⟩, fun hd hne => ht hd (hwatches hne)⟩
    obtain ⟨hbound, hcurrent, hholds⟩ := h.expects hpromise
    exact ⟨hbound, fun hd hne => hcurrent hd (hwatches hne), hholds⟩
  | refreshIdentity =>
    cases hnext
    exact h.ensureConnected (by grind [undisturbed])
  | forceReconnect =>
    cases hnext
    exact h.forceReconnect ht hallowed
  | dispose =>
    cases hnext
    exact h.dispose
  | token arrived =>
    simp only [next] at hnext
    split at hnext
    · rename_i generation hpromise
      cases hnext
      split_ifs
      · exact h.tokenArrived hpromise
      · have hnone : c.room = none := by grind [(h.expects hpromise).holds]
        exact h.attemptFailed hpromise (by grind)
    · cases hnext
  | connect succeeded =>
    simp only [next] at hnext
    split at hnext
    · rename_i generation room hpromise
      split_ifs at hnext with hyes hlost
      · cases hnext
        exact h.connectSucceeded hpromise hlost
      · cases hnext
        have hholds := (h.expects hpromise).holds
        refine (h.roomLost (by simp [hpromise])).attemptFailed hpromise ?_
        grind [setRoom]
    · cases hnext
  | roomReconnecting room =>
    simp only [next] at hnext
    split_ifs at hnext with hroom
    cases hnext
    exact h.roomUp ht (.inl hroom) (.inr rfl)
  | roomReconnected room =>
    simp only [next] at hnext
    split_ifs at hnext with hroom
    cases hnext
    exact h.roomUp ht (.inr hroom) (.inl rfl)
  | roomDisconnected room =>
    simp only [next] at hnext
    split_ifs at hnext
    cases hnext
    exact h.roomDisconnected ht room
  | reconnectTimer =>
    simp only [next] at hnext
    split_ifs at hnext
    cases hnext
    refine Sound.ensureConnected ⟨h.live, h.held, fun hd => ⟨(h.disposed hd).1, rfl⟩, ?_⟩
      (by grind [undisturbed])
    intro a hpromise
    obtain ⟨hbound, hcurrent, hholds⟩ := h.expects hpromise
    exact ⟨hbound, hcurrent, hholds⟩

end

/-- **A viewer window keeps trying.** In every run in which no reconnect is forced during an attempt
and nobody asks for a connection while the room reconnects by itself, a window that watches
something has an attempt under way, a room or a timer; once it is disposed it has none of them. -/
theorem viewer_keeps_trying
    (hreach : viewerMachine.Reach (fun c e => c.undisturbed e = true) initial c) :
    c.KeepsTrying := by
  have hfirst : initial.Steady :=
    ⟨⟨by grind [initial], by grind [initial], by grind [initial], by grind [initial]⟩,
      by grind [initial, Trying]⟩
  obtain ⟨h, ht⟩ := hreach.invariant (I := Steady) hfirst
    fun c e c' h hallowed hnext => h.1.step h.2 hallowed hnext
  refine ⟨ht, fun hd _ => ⟨fun room => ?_, (h.disposed hd).2⟩⟩
  grind

/-- The share of somebody is watched, and the room of the window is lost after a while. -/
theorem viewer_keeps_trying_lost :
    ∃ c : ViewerRoomConnection, c.watches ≠ [] ∧ c.connectPromise = none ∧ c.KeepsTrying := by
  obtain ⟨c, hreach, hwatches, hpromise⟩ := Machine.exists_reach_of_replay viewerMachine
    (fun c e => c.undisturbed e = true) initial
    [.watch "sharer" 0, .token true, .connect true, .roomDisconnected 0]
    (fun c => c.watches ≠ [] ∧ c.connectPromise = none) (by decide)
  exact ⟨c, hwatches, hpromise, viewer_keeps_trying hreach⟩

/-- A reconnect that is forced while the window waits for its token overtakes the attempt, and
nothing starts another one. -/
theorem not_viewer_keeps_trying :
    ¬ ∀ c : ViewerRoomConnection, viewerMachine.Reach (fun _ _ => True) initial c →
      c.KeepsTrying := by
  intro h
  obtain ⟨c, hreach, hd, hwatches, hpromise, hroom, htimer⟩ :=
    Machine.exists_reach_of_replay viewerMachine (fun _ _ => True)
    initial [.watch "sharer" 0, .forceReconnect, .token true]
    (fun c => c.disposed = false ∧ c.watches ≠ [] ∧ c.connectPromise = none
      ∧ c.room = none ∧ c.reconnectTimer = none) (by decide)
  rcases (h c hreach).trying hd hwatches hpromise with ⟨room, hheld, -⟩ | hpending
  · cases hroom.symm.trans hheld
  · simp [htimer] at hpending

-- A room that reconnects by itself is forgotten when something else is watched meanwhile.
example : (viewerMachine.replay (fun _ _ => True) initial
    [.watch "sharer" 0, .token true, .connect true, .roomReconnecting 0, .watch "other" 1,
      .token true, .roomReconnected 0, .dispose, .connect false]).any
    (fun c => c.disposed && c.connectPromise.isNone && c.rooms 0 = .connected) = true := by decide

/-- Nothing has begun since, and no room that had ended is connected again. -/
structure Idle (c c' : ViewerRoomConnection) : Prop where
  disposed : c'.disposed = true
  rooms : c'.nextRoom = c.nextRoom
  attempts : ∀ a, c'.connectPromise = some a → c.connectPromise = some a
  live : ∀ room, (c'.rooms room).live = true → (c.rooms room).live = true

theorem idle_next {e : ViewerEvent} (h : c.disposed = true) (hnext : c.next e = some c') :
    Idle c c' := by
  obtain ⟨held, promise, generation, attempt, timer, disposed, watches, nextRoom, rooms⟩ := c
  obtain rfl : disposed = true := h
  cases e with
  | token arrived =>
    simp only [next, tokenArrived, attemptFailed, isCurrent] at hnext
    split at hnext
    · simp only [Bool.not_true, Bool.false_and, Bool.false_eq_true, if_false, ite_self] at hnext
      cases hnext
      exact ⟨rfl, rfl, by rintro _ ⟨⟩, fun _ => id⟩
    · cases hnext
  | connect succeeded =>
    simp only [next, connectSucceeded, attemptFailed, setRoom, isCurrent] at hnext
    split at hnext
    · simp only [Bool.not_true, Bool.false_and, Bool.false_eq_true, if_false] at hnext
      split_ifs at hnext <;> cases hnext <;>
        exact ⟨rfl, rfl, by rintro _ ⟨⟩, by grind⟩
    · cases hnext
  | roomReconnecting room | roomReconnected room | roomDisconnected room =>
    simp only [next, roomDisconnected, setRoom, Bool.true_or, if_true] at hnext
    split_ifs at hnext
    cases hnext
    exact ⟨rfl, rfl, fun _ => id, by grind⟩
  | reconnectTimer =>
    simp only [next] at hnext
    split_ifs at hnext
    cases hnext
    exact ⟨rfl, rfl, fun _ => id, fun _ => id⟩
  | _ =>
    cases hnext
    exact ⟨rfl, rfl, fun _ => id, fun _ => id⟩

/-- **Disposal is final.** Whatever happens to a disposed window, it makes no room, begins no
attempt, and connects no room that was not live. -/
theorem viewer_disposal_final (h : c.disposed = true)
    (hreach : viewerMachine.Reach (fun _ _ => True) c c') : Idle c c' := by
  refine hreach.invariant ⟨h, rfl, fun _ => id, fun _ => id⟩ fun c₁ e c₂ hidle _ hnext => ?_
  obtain ⟨hd, hrooms, hattempts, hlive⟩ := idle_next hidle.disposed hnext
  exact ⟨hd, hrooms.trans hidle.rooms, fun a h' => hidle.attempts a (hattempts a h'),
    fun room h' => hidle.live room (hlive room h')⟩

/-- The window is disposed while it waits for its token, which then comes. -/
theorem viewer_disposal_final_waiting :
    ∃ c c' : ViewerRoomConnection, viewerMachine.Reach (fun _ _ => True) initial c
      ∧ c.connectPromise.isSome ∧ c'.connectPromise = none ∧ Idle c c' := by
  obtain ⟨c, hreach, hdisposed, hwaits, hends⟩ := Machine.exists_reach_of_replay viewerMachine
    (fun _ _ => True) initial [.watch "sharer" 0, .dispose]
    (fun c => c.disposed = true ∧ c.connectPromise.isSome
      ∧ (viewerMachine.replay (fun _ _ => True) c [.token true]).any
        (fun c' => c'.connectPromise = none) = true) (by decide)
  obtain ⟨c', hlater, hnone⟩ := Machine.exists_reach_of_replay _ _ _ _ _ hends
  exact ⟨c, c', hreach, hwaits, hnone, viewer_disposal_final hdisposed hlater⟩

end ViewerRoomConnection

end Wavis
