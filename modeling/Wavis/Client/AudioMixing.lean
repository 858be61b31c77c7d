import Mathlib.Algebra.Order.Floor.Div
import Mathlib.Data.Rat.Floor

/-! Interleaved samples are averaged over their channels and brought to 48 kHz. Samples and
positions are exact. -/

namespace Wavis

/-- The averages of the complete frames of `channels` samples. -/
def downmix (channels : Nat) (samples : List ℚ) : List ℚ :=
  if channels ≤ 1 then samples
  else (List.range (samples.length / channels)).map fun k =>
    ((samples.drop (k * channels)).take channels).sum / channels

/-- One output sample, or `none` where an index is out of bounds. -/
def resampleAt (mono : List ℚ) (sampleRate i : Nat) : Option ℚ := do
  let t : ℚ := i * sampleRate / 48000
  let lo := ⌊t⌋₊
  let hi := min (lo + 1) (mono.length - 1)
  let low ← mono[lo]?
  let high ← mono[hi]?
  return low + (t - lo) * (high - low)

def resample (mono : List ℚ) (sampleRate : Nat) : List (Option ℚ) :=
  if sampleRate = 48000 then mono.map some
  else if mono.isEmpty then []
  else (List.range (mono.length * 48000 ⌈/⌉ sampleRate)).map (resampleAt mono sampleRate)

/-- A sample that is not finite is `none` and counts as zero. -/
def convertAudioFrame (samples : List (Option ℚ)) (sampleRate channels : Nat) :
    List (Option ℚ) :=
  if sampleRate = 0 then []
  else resample (downmix channels (samples.map (·.getD 0))) sampleRate

end Wavis
