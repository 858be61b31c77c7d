import Wavis.Proof.BackendOps

namespace Wavis

open Concurrency

def Connection.channelId (connection : Connection) : Option Uuid :=
  connection.session.bind fun session => session.channelId

def World.channelOf (w : World) (peerId : PeerId) : Option Uuid :=
  (w.connections.lookup peerId).bind Connection.channelId

def KeepsConnection (w w' : World) (peerId : PeerId) : Prop :=
  w'.connections.lookup peerId = w.connections.lookup peerId
    ∨ w.connections.lookup peerId = none ∧ w'.channelOf peerId = none

namespace KeepsConnection

variable {w w' : World} {peerId : PeerId}

theorem of_eq (h : w'.connections = w.connections) : KeepsConnection w w' peerId :=
  .inl (by rw [h])

theorem channelOf (h : KeepsConnection w w' peerId) :
    w'.channelOf peerId = w.channelOf peerId := by
  rcases h with hsame | ⟨hnone, hnew⟩
  · unfold World.channelOf
    rw [hsame]
  · rw [hnew, World.channelOf, hnone]
    rfl

theorem lookup {connection : Connection} (h : KeepsConnection w w' peerId)
    (hlookup : w.connections.lookup peerId = some connection) :
    w'.connections.lookup peerId = some connection := by
  rcases h with hsame | ⟨hnone, -⟩
  · rw [hsame, hlookup]
  · rw [hnone] at hlookup
    cases hlookup

end KeepsConnection

/-- Every connection has an id that was given out before. -/
def World.IdsGivenOut (w : World) : Prop :=
  ∀ peerId connection, w.connections.lookup peerId = some connection →
    ∃ n < w.nextPeerId, peerId = s!"peer-{n}"

theorem numbered_injective {head : String} {n m : Nat}
    (h : toString head ++ toString n = toString head ++ toString m) : n = m := by
  have hlist := congrArg String.toList h
  simp only [String.toList_append] at hlist
  have hdigits : Nat.toDigits 10 n = Nat.toDigits 10 m := by simpa using hlist
  calc
    n = Nat.ofDigitChars 10 (Nat.toDigits 10 n) 0 := Nat.ofDigitChars_ten_toDigits.symm
    _ = Nat.ofDigitChars 10 (Nat.toDigits 10 m) 0 := by rw [hdigits]
    _ = m := Nat.ofDigitChars_ten_toDigits

theorem peerId_injective {n m : Nat} (h : s!"peer-{n}" = s!"peer-{m}") : n = m :=
  numbered_injective h

variable {w w' : World} {env : Env}

theorem World.IdsGivenOut.lookup_next (h : w.IdsGivenOut) :
    w.connections.lookup s!"peer-{w.nextPeerId}" = none := by
  cases hlookup : w.connections.lookup s!"peer-{w.nextPeerId}" with
  | none => rfl
  | some connection =>
    obtain ⟨n, hlt, heq⟩ := h _ connection hlookup
    exact absurd (peerId_injective heq) (Nat.ne_of_gt hlt)

@[simp] theorem World.setConnection_roomState (w : World) (peerId : PeerId)
    (change : Connection → Connection) :
    (w.setConnection peerId change).roomState = w.roomState := by
  unfold setConnection
  split <;> rfl

@[simp] theorem World.setConnection_activeRoomMap (w : World) (peerId : PeerId)
    (change : Connection → Connection) :
    (w.setConnection peerId change).activeRoomMap = w.activeRoomMap := by
  unfold setConnection
  split <;> rfl

theorem World.lookup_setConnection {peerId : PeerId} {change : Connection → Connection}
    (peerId' : PeerId) :
    (w.setConnection peerId change).connections.lookup peerId'
      = if peerId' = peerId then (w.connections.lookup peerId).map change
        else w.connections.lookup peerId' := by
  unfold setConnection
  cases hlookup : w.connections.lookup peerId with
  | none =>
    split_ifs with hpeer
    · rw [hpeer, hlookup]
      rfl
    · rfl
  | some connection =>
    split_ifs with hpeer
    · rw [hpeer]
      exact AList.lookup_insert _
    · exact AList.lookup_insert_ne hpeer

theorem World.IdsGivenOut.keepsConnection_accept {userId : Option Uuid} {answer : PeerId}
    (h : w.IdsGivenOut) (hexec : (Op.accept userId).exec env w = some (answer, w'))
    (peerId : PeerId) : KeepsConnection w w' peerId := by
  cases hexec
  by_cases hpeer : peerId = s!"peer-{w.nextPeerId}"
  · subst hpeer
    refine .inr ⟨h.lookup_next, ?_⟩
    have hnew : (w.connections.insert s!"peer-{w.nextPeerId}" ⟨env.text, userId, none⟩).lookup
        s!"peer-{w.nextPeerId}" = some ⟨env.text, userId, none⟩ := AList.lookup_insert _
    exact congrArg (Option.bind · Connection.channelId) hnew
  · exact Or.inl (AList.lookup_insert_ne hpeer)

theorem World.IdsGivenOut.setConnection (h : w.IdsGivenOut) (peerId : PeerId)
    (change : Connection → Connection) : (w.setConnection peerId change).IdsGivenOut := by
  have hnext : (w.setConnection peerId change).nextPeerId = w.nextPeerId := by
    unfold World.setConnection
    split <;> rfl
  intro peerId' connection hlookup
  rw [World.lookup_setConnection] at hlookup
  rw [hnext]
  split_ifs at hlookup with hpeer
  · obtain ⟨old, hold, -⟩ := Option.map_eq_some_iff.mp hlookup
    exact h peerId' old (hpeer ▸ hold)
  · exact h peerId' connection hlookup

theorem World.IdsGivenOut.exec {o : Op} {answer : o.Resp} (h : w.IdsGivenOut)
    (hexec : o.exec env w = some (answer, w')) : w'.IdsGivenOut := by
  have htick : (w.tick env.elapsed).IdsGivenOut := h
  cases o with
  | accept userId =>
    cases hexec
    intro peerId connection hlookup
    by_cases hpeer : peerId = s!"peer-{w.nextPeerId}"
    · exact ⟨w.nextPeerId, Nat.lt_succ_self _, hpeer⟩
    · obtain ⟨n, hlt, heq⟩ := h peerId connection
        ((AList.lookup_insert_ne hpeer).symm.trans hlookup)
      exact ⟨n, Nat.lt_succ_of_lt hlt, heq⟩
  | setUser peerId userId | setSession peerId session =>
    cases hexec
    exact htick.setConnection peerId _
  | closeConnection peerId =>
    cases hexec
    intro peerId' connection hlookup
    by_cases hpeer : peerId' = peerId
    · subst hpeer
      have hnone : (w.connections.erase peerId').lookup peerId' = none := AList.lookup_erase _ _
      exact absurd (hnone.symm.trans hlookup) (by simp)
    · exact h peerId' connection ((AList.lookup_erase_ne hpeer).symm.trans hlookup)
  | _ =>
    obtain ⟨hconnections, hnext⟩ := Op.exec_connections hexec rfl
    unfold World.IdsGivenOut
    rw [hconnections, hnext]
    exact h

variable {allowed : BackendPool → BackendAct → Prop} {pool : BackendPool} {config : Config}
  {db : ChannelDb}

theorem idsGivenOut_of_reach
    (hreach : (backend config).Reach allowed (BackendPool.initial config db) pool) :
    pool.shared.IdsGivenOut := by
  refine hreach.shared_invariant (I := World.IdsGivenOut) ?_ ?_
  · intro peerId connection hlookup
    cases hlookup
  · intro pool i env o answer shared h _ _ hexec
    exact h.exec hexec

theorem exclusive_peer_of_reach
    (husage : ∀ pool act, allowed pool act → BackendPool.Usage pool act)
    (hreach : (backend config).Reach allowed (BackendPool.initial config db) pool) :
    Exclusive (Thread.task BackendCall.peer) pool.threads := by
  refine hreach.exclusive_task rfl ?_
  intro pool call hallowed thread hthread hactive peerId hpeer hpeer'
  have hsame := (husage pool _ hallowed).1 thread hthread hactive
  simp [BackendCall.sameTask, hpeer, hpeer'] at hsame

end Wavis
