import Wavis.Client.AudioMixing

namespace Wavis

open List

/-- `x` is the value at `t` of the line through the samples, which holds the last one. -/
def LinearAt (mono : List ℚ) (t x : ℚ) : Prop :=
  ∃ (lo : Nat) (low : ℚ), mono[lo]? = some low ∧ lo ≤ t ∧ t < lo + 1
    ∧ x = low + (t - lo) * (mono[lo + 1]?.getD low - low)

variable {mono : List ℚ} {t x : ℚ} {sampleRate i : Nat}

theorem LinearAt.between (h : LinearAt mono t x) : ∃ a ∈ mono, ∃ b ∈ mono, a ≤ x ∧ x ≤ b := by
  obtain ⟨lo, low, hlow, hle, hlt, rfl⟩ := h
  have hmem := mem_of_getElem? hlow
  cases hnext : mono[lo + 1]? with
  | none => exact ⟨low, hmem, low, hmem, by simp⟩
  | some high =>
    have hmem' := mem_of_getElem? hnext
    rw [Option.getD_some]
    rcases le_total low high with horder | horder
    · exact ⟨low, hmem, high, hmem', by nlinarith, by nlinarith⟩
    · exact ⟨high, hmem', low, hmem, by nlinarith, by nlinarith⟩

theorem resampleAt_linear (h : i * sampleRate < mono.length * 48000) :
    ∃ x, resampleAt mono sampleRate i = some x ∧ LinearAt mono (i * sampleRate / 48000) x := by
  have hpos : (0 : ℚ) ≤ i * sampleRate / 48000 := by positivity
  have hlo : ⌊(i * sampleRate / 48000 : ℚ)⌋₊ < mono.length := by
    rw [Nat.floor_lt hpos, div_lt_iff₀ (by norm_num)]
    exact_mod_cast h
  have hlow := getElem?_eq_getElem hlo
  generalize hfloor : ⌊(i * sampleRate / 48000 : ℚ)⌋₊ = lo at hlo hlow
  have hhigh : mono[min (lo + 1) (mono.length - 1)]? = some (mono[lo + 1]?.getD mono[lo]) := by
    rcases Nat.lt_or_ge (lo + 1) mono.length with hlt | hge
    · rw [Nat.min_eq_left (by omega), getElem?_eq_getElem hlt]
      rfl
    · rw [Nat.min_eq_right (by omega), getElem?_eq_none hge,
        show mono.length - 1 = lo by omega, hlow]
      rfl
  refine ⟨_, ?_, lo, mono[lo], hlow, hfloor ▸ Nat.floor_le hpos,
    hfloor ▸ Nat.lt_floor_add_one _, rfl⟩
  simp [resampleAt, hfloor, hlow, hhigh]

theorem length_resample :
    (resample mono sampleRate).length = mono.length * 48000 ⌈/⌉ sampleRate := by
  unfold resample
  split_ifs with hrate hempty
  · rw [hrate, length_map, Nat.ceilDiv_eq_add_pred_div]
    omega
  · simp [isEmpty_iff.mp hempty]
  · rw [length_map, length_range]

theorem resample_linear (hpos : 0 < sampleRate) {entry : Option ℚ}
    (hget : (resample mono sampleRate)[i]? = some entry) :
    ∃ x, entry = some x ∧ LinearAt mono (i * sampleRate / 48000) x := by
  unfold resample at hget
  split_ifs at hget with hrate hempty
  · rw [getElem?_map, Option.map_eq_some_iff] at hget
    obtain ⟨x, hget, rfl⟩ := hget
    exact ⟨x, rfl, i, x, hget, by simp [hrate]⟩
  · cases hget
  · rw [getElem?_map, Option.map_eq_some_iff] at hget
    obtain ⟨i', hget, rfl⟩ := hget
    obtain ⟨hlt, rfl⟩ := List.getElem?_eq_some_iff.mp hget
    rw [length_range] at hlt
    rw [getElem_range]
    refine resampleAt_linear ?_
    rw [mul_comm]
    exact (lt_iff_lt_of_le_iff_le (ceilDiv_le_iff_le_mul hpos)).mp hlt

/-- The channel averages: sample `k` is the mean of what the channels hold at the time `k`. -/
def averages (samples : List (Option ℚ)) (channels : Nat) : List ℚ :=
  let n := max channels 1
  (range (samples.length / n)).map fun k =>
    ((range n).map fun c => samples[k * n + c]?.join.getD 0).sum / n

theorem take_drop_eq_map (samples : List (Option ℚ)) {k n : Nat} (h : k + n ≤ samples.length) :
    ((samples.map (·.getD 0)).drop k).take n
      = (range n).map fun c => samples[k + c]?.join.getD 0 := by
  refine ext_getElem (by simp; omega) fun c hc hc' => ?_
  rw [length_map, length_range] at hc'
  simp [getElem?_eq_getElem (show k + c < samples.length by omega)]

theorem downmix_eq_averages (samples : List (Option ℚ)) (channels : Nat) :
    downmix channels (samples.map (·.getD 0)) = averages samples channels := by
  have hframes : ∀ n, 0 < n → ((range (samples.length / n)).map fun k =>
        (((samples.map (·.getD 0)).drop (k * n)).take n).sum / (n : ℚ))
      = (range (samples.length / n)).map fun k =>
        ((range n).map fun c => samples[k * n + c]?.join.getD 0).sum / n := by
    intro n hn
    refine map_congr_left fun k hk => ?_
    have hend := (Nat.le_div_iff_mul_le hn).mp (Nat.succ_le_of_lt (mem_range.mp hk))
    rw [Nat.succ_mul] at hend
    rw [take_drop_eq_map samples hend]
  unfold downmix averages
  split_ifs with hmono
  · -- a frame of one channel is its only sample
    rw [Nat.max_eq_right hmono, ← hframes 1 Nat.one_pos]
    refine ext_getElem (by simp) fun i hi _ => ?_
    simp at hi
    simp [hi]
  · rw [Nat.max_eq_left (by omega), length_map]
    exact hframes channels (by omega)

/-- **Frames are converted faithfully.** No index is out of bounds, the output has the length the
rates give, each of its samples lies on the line through the channel averages and so between two of
them, and 48 kHz is left as it is. -/
theorem convert_audio_frame_faithful (samples : List (Option ℚ)) (sampleRate channels : Nat) :
    (0 < sampleRate → (convertAudioFrame samples sampleRate channels).length
        = 48000 * (samples.length / max channels 1) ⌈/⌉ sampleRate)
      ∧ (∀ (i : Nat) entry, (convertAudioFrame samples sampleRate channels)[i]? = some entry →
        ∃ x, entry = some x ∧ LinearAt (averages samples channels) (i * sampleRate / 48000) x
          ∧ ∃ a ∈ averages samples channels, ∃ b ∈ averages samples channels, a ≤ x ∧ x ≤ b)
      ∧ (sampleRate = 48000 →
        convertAudioFrame samples sampleRate channels = (averages samples channels).map some) := by
  rcases Nat.eq_zero_or_pos sampleRate with rfl | hpos
  · exact ⟨by omega, by simp [convertAudioFrame], by omega⟩
  have hout : convertAudioFrame samples sampleRate channels
      = resample (averages samples channels) sampleRate := by
    rw [convertAudioFrame, if_neg hpos.ne', downmix_eq_averages]
  rw [hout]
  refine ⟨fun _ => ?_, fun i entry hget => ?_, fun hrate => if_pos hrate⟩
  · rw [length_resample, averages, length_map, length_range, mul_comm]
  · obtain ⟨x, rfl, hlinear⟩ := resample_linear hpos hget
    exact ⟨x, rfl, hlinear, hlinear.between⟩

end Wavis
