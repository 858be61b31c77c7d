import Mathlib.Data.Rat.Cast.Order
import Wavis.RoomInfo

/-! The delay follows the measured jitter upwards at once and downwards at a limited rate. Delays
are exact milliseconds. -/

namespace Wavis

def minJitterDelayMs : ℚ := 20

def maxJitterDelayMs : ℚ := 200

def maxDelayShrinkPerSecMs : ℚ := 5

def secsBetween (earlier now : Instant) : ℚ := ((now - earlier : ℕ) : ℚ) / 1000000000

def computeRawTarget (avgJitterMs jitterStddevMs : ℚ) : ℚ :=
  max minJitterDelayMs (min maxJitterDelayMs (avgJitterMs + 2 * jitterStddevMs))

/-- A call of `update_stats`, and when it is made. -/
structure JitterStats where
  avgJitterMs : ℚ
  jitterStddevMs : ℚ
  now : Instant

def JitterStats.rawTarget (stats : JitterStats) : ℚ :=
  computeRawTarget stats.avgJitterMs stats.jitterStddevMs

/-- The fields of the jitter buffer that `update_stats` reads and writes. -/
structure TargetDelay where
  currentTargetDelayMs : ℚ := minJitterDelayMs
  rawTargetDelayMs : ℚ := minJitterDelayMs
  lastDelayUpdate : Instant

namespace TargetDelay

def applyShrinkLimit (d : TargetDelay) (newRaw : ℚ) (now : Instant) : ℚ :=
  if newRaw ≥ d.currentTargetDelayMs then newRaw
  else
    max newRaw
      (d.currentTargetDelayMs - maxDelayShrinkPerSecMs * secsBetween d.lastDelayUpdate now)

def updateStats (d : TargetDelay) (stats : JitterStats) : TargetDelay :=
  ⟨d.applyShrinkLimit stats.rawTarget stats.now, stats.rawTarget, stats.now⟩

/-- The target after a list of calls on a buffer that was created at `created`. -/
def after (created : Instant) (calls : List JitterStats) : TargetDelay :=
  calls.foldl updateStats { lastDelayUpdate := created }

end TargetDelay

end Wavis
