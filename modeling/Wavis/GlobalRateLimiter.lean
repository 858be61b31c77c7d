import Wavis.Concurrency.Machine

/-! One word holds the second it counts for and the admissions that are left in it. A caller loads
the word and exchanges what it has loaded, until an exchange succeeds. Its second is the one it read
before the call, so the word may have moved on to the next second by then. -/

namespace Wavis

open Concurrency

def pack (epoch tokens : UInt32) : UInt64 := (epoch.toUInt64 <<< 32) ||| tokens.toUInt64

def unpack (state : UInt64) : UInt32 × UInt32 := ((state >>> 32).toUInt32, state.toUInt32)

structure GlobalRateLimiter where
  state : UInt64
  maxPerSec : UInt32
  deriving DecidableEq

inductive AllowStage where
  | loading
  | exchanging (current newState : UInt64)
  | returned (allowed : Bool)
  deriving DecidableEq

structure AllowCall where
  nowUnix : Nat
  stage : AllowStage
  deriving DecidableEq

namespace GlobalRateLimiter

def new (maxPerSec : UInt32) : GlobalRateLimiter := ⟨pack 0 maxPerSec, maxPerSec⟩

/-- `max_per_sec.saturating_sub(1)` -/
def refill (limiter : GlobalRateLimiter) : UInt32 :=
  if limiter.maxPerSec = 0 then 0 else limiter.maxPerSec - 1

def load (limiter : GlobalRateLimiter) (nowUnix : Nat) : AllowStage :=
  let nowEpoch := UInt32.ofNat nowUnix
  let current := limiter.state
  let (epoch, tokens) := unpack current
  if epoch ≠ nowEpoch then .exchanging current (pack nowEpoch limiter.refill)
  else if tokens = 0 then .returned false
  else .exchanging current (pack epoch (tokens - 1))

end GlobalRateLimiter

/-- The limiter, the clock and the calls made so far. -/
structure LimiterRun where
  limiter : GlobalRateLimiter
  clock : Nat
  calls : List AllowCall
  /-- The second of the call that wrote the word last. No code reads it. -/
  writtenFor : Nat
  deriving DecidableEq

inductive LimiterEvent where
  | tick
  | call
  /-- The next load or exchange of a call; a weak exchange may fail for no reason. -/
  | step (i : Nat) (spurious : Bool)

namespace LimiterRun

def initial (maxPerSec : UInt32) (clock : Nat) : LimiterRun := ⟨.new maxPerSec, clock, [], 0⟩

def next (r : LimiterRun) : LimiterEvent → Option LimiterRun
  | .tick => some { r with clock := r.clock + 1 }
  | .call => some { r with calls := r.calls ++ [⟨r.clock, .loading⟩] }
  | .step i spurious =>
    match r.calls[i]? with
    | none => none
    | some call =>
      match call.stage with
      | .loading =>
        let stage := r.limiter.load call.nowUnix
        some { r with calls := r.calls.set i { call with stage } }
      | .exchanging current newState =>
        if r.limiter.state = current ∧ spurious = false then
          some { r with
            limiter := { r.limiter with state := newState }
            calls := r.calls.set i { call with stage := .returned true }
            writtenFor := call.nowUnix }
        else some { r with calls := r.calls.set i { call with stage := .loading } }
      | .returned _ => none

def admitted (r : LimiterRun) (second : Nat) : Nat :=
  r.calls.countP fun call => call.nowUnix = second ∧ call.stage = .returned true

end LimiterRun

def limiterMachine : Machine LimiterRun LimiterEvent := ⟨LimiterRun.next⟩

end Wavis
