import Wavis.RoomInfo

namespace Wavis

abbrev IpAddr := String

structure IpConnectionTracker where
  connections : HashMap IpAddr Nat
  maxPerIp : Nat

namespace IpConnectionTracker

def new (maxPerIp : Nat) : IpConnectionTracker := ⟨∅, maxPerIp⟩

def count (tracker : IpConnectionTracker) (ip : IpAddr) : Nat :=
  (tracker.connections.lookup ip).getD 0

def tryAdd (tracker : IpConnectionTracker) (ip : IpAddr) : Bool × IpConnectionTracker :=
  -- `or_insert(0)` makes an entry in both cases
  if tracker.count ip < tracker.maxPerIp then
    (true, { tracker with
      connections := tracker.connections.insert ip (tracker.count ip + 1) })
  else
    (false, { tracker with connections := tracker.connections.insert ip (tracker.count ip) })

def remove (tracker : IpConnectionTracker) (ip : IpAddr) : IpConnectionTracker :=
  match tracker.connections.lookup ip with
  | none => tracker
  | some count =>
    if count ≤ 1 then { tracker with connections := tracker.connections.erase ip }
    else { tracker with connections := tracker.connections.insert ip (count - 1) }

end IpConnectionTracker

structure SlidingWindow where
  timestamps : List Instant
  window : Duration

namespace SlidingWindow

def new (window : Duration) : SlidingWindow := ⟨[], window⟩

def add (w : SlidingWindow) (now : Instant) : SlidingWindow :=
  { w with timestamps := w.timestamps ++ [now] }

def prune (w : SlidingWindow) (now : Instant) : SlidingWindow :=
  { w with timestamps := w.timestamps.dropWhile fun timestamp => now - timestamp > w.window }

def count (w : SlidingWindow) (now : Instant) : Nat × SlidingWindow :=
  ((w.prune now).timestamps.length, w.prune now)

def inWindow (w : SlidingWindow) (now : Instant) : List Instant :=
  w.timestamps.filter fun timestamp => now - timestamp ≤ w.window

/-- The seconds until the oldest timestamp in the window expires, if there are `max` of them. -/
def secondsUntilRetry (w : SlidingWindow) (max : Nat) (now : Instant) : Option Nat :=
  if (w.inWindow now).length < max then none
  else
    (w.inWindow now).head?.map fun oldest =>
      Nat.max 1 (Duration.asSecs (w.window - (now - oldest)))

end SlidingWindow

end Wavis
