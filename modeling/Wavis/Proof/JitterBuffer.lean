import Mathlib.Data.List.Induction
import Wavis.Client.JitterBuffer

namespace Wavis

open AList Nat

namespace AdaptiveJitterBuffer

variable {b : AdaptiveJitterBuffer} {seq first : UInt16} {data : List UInt8} {now origin : Instant}
  {i : Nat}

/-- The packet is put into the buffer if its first packet has arrived. -/
structure Accepts (b : AdaptiveJitterBuffer) (seq : UInt16) (data : List UInt8) : Prop where
  size : data.length ≤ maxPacketSize
  first : ∀ first ∈ b.firstSeq, seq - first ≤ 0x7FFF
  next : ∀ next ∈ b.nextSeq, seq - next ≤ 0x7FFF
  capacity : b.buffer.keys.length < maxBufferedPackets

theorem push_cases (hinit : b.initialized = true) (seq : UInt16) (data : List UInt8)
    (now : Instant) :
    (b.Accepts seq data ∧ ∃ late, b.push seq data now
      = { b with latePackets := late, buffer := b.buffer.insert seq data })
    ∨ ¬ b.Accepts seq data ∧ ∃ late oversize overcap, b.push seq data now = { b with
      latePackets := late, droppedOversize := oversize, droppedOvercap := overcap } := by
  have hlate : ∃ late, b.countLate seq now = { b with latePackets := late } := by
    unfold countLate
    split
    · split_ifs <;> exact ⟨_, rfl⟩
    · exact ⟨_, rfl⟩
  obtain ⟨late, hlate⟩ := hlate
  have hclose : ∀ {start : Option UInt16},
      (¬ ∃ at' ∈ start, seq - at' > 0x7FFF) ↔ ∀ at' ∈ start, seq - at' ≤ 0x7FFF := by
    simp
  simp only [push, started, if_pos hinit, hlate, Option.any_eq_true, decide_eq_true_eq]
  split_ifs with hsize hfirst hnext hcap
  · exact .inr ⟨fun haccepts => not_le.mpr hsize haccepts.size, _, _, _, rfl⟩
  · exact .inr ⟨fun haccepts => hclose.mpr haccepts.first hfirst, _, _, _, rfl⟩
  · exact .inr ⟨fun haccepts => hclose.mpr haccepts.next hnext, _, _, _, rfl⟩
  · exact .inr ⟨fun haccepts => not_lt.mpr hcap haccepts.capacity, _, _, _, rfl⟩
  · exact .inl ⟨⟨not_lt.mp hsize, hclose.mp hfirst, hclose.mp hnext, not_le.mp hcap⟩,
      _, rfl⟩

theorem push_of_new (hnew : b.initialized = false) (hsize : data.length ≤ maxPacketSize) :
    b.push seq data now = (b.started seq now).push seq data now := by
  have hstarted : (b.started seq now).started seq now = b.started seq now := by
    simp [started, hnew]
  simp only [push, if_neg (not_lt.mpr hsize), hstarted]

theorem push_of_initialized (hinit : b.initialized = true) (seq : UInt16) (data : List UInt8)
    (now : Instant) :
    (b.push seq data now).initialized = true ∧ (b.push seq data now).firstSeq = b.firstSeq
      ∧ (b.push seq data now).nextSeq = b.nextSeq
      ∧ ∀ key ∈ (b.push seq data now).buffer.keys, key = seq ∨ key ∈ b.buffer.keys := by
  rcases push_cases hinit seq data now with
    ⟨-, late, heq⟩ | ⟨-, late, oversize, overcap, heq⟩ <;> rw [heq]
  · refine ⟨hinit, rfl, rfl, fun key hkey => ?_⟩
    rw [keys_insert, List.mem_cons] at hkey
    exact hkey.imp_right List.mem_of_mem_erase
  · exact ⟨hinit, rfl, rfl, fun _ => .inr⟩

theorem play_cases (b : AdaptiveJitterBuffer) (next : UInt16) :
    (∃ data, b.buffer.lookup next = some data ∧ b.play next
      = (.packet data, { b with buffer := b.buffer.erase next, nextSeq := some (next + 1) }))
    ∨ (b.buffer.lookup next = none
      ∧ (∃ key ∈ b.buffer.keys, 0 < key - next ∧ key - next ≤ 0x7FFF)
      ∧ ∃ plc, b.play next = (.missing, { b with nextSeq := some (next + 1), plcFrames := plc }))
    ∨ b.buffer.lookup next = none
      ∧ (∀ key ∈ b.buffer.keys.min?, ¬ (0 < key - next ∧ key - next ≤ 0x7FFF))
      ∧ b.play next = b.notReady := by
  unfold play
  split
  · rename_i data hlookup
    exact .inl ⟨data, hlookup, rfl⟩
  · rename_i hlookup
    split
    · rename_i key hmin
      split_ifs with hahead
      · exact .inr (.inl ⟨hlookup, ⟨key, List.min?_mem hmin, hahead⟩, _, rfl⟩)
      · refine .inr (.inr ⟨hlookup, fun key' hmin' => ?_, rfl⟩)
        cases hmin.symm.trans hmin'
        exact hahead
    · rename_i hnone
      exact .inr (.inr ⟨hlookup, fun key hmin => by simp [hnone] at hmin, rfl⟩)

theorem pop_cases (b : AdaptiveJitterBuffer) (now : Instant) :
    (∃ count, b.pop now = (.notReady, { b with notReadyCount := count }))
    ∨ (∃ count, b.pop now = (.notReady, { b with inPrefetch := false, notReadyCount := count }))
    ∨ ∃ next, b.nextSeq = some next ∧ b.pop now = { b with inPrefetch := false }.play next := by
  unfold pop
  split
  · exact .inl ⟨_, rfl⟩
  · split_ifs
    · exact .inl ⟨_, rfl⟩
    · dsimp only
      split
      · rename_i first next hfirst hnext
        split_ifs
        · exact .inr (.inl ⟨_, rfl⟩)
        · exact .inr (.inl ⟨_, rfl⟩)
        · exact .inr (.inr ⟨next, hnext, rfl⟩)
      · exact .inr (.inl ⟨_, rfl⟩)

theorem pop_ready {next : UInt16} (hnext : b.nextSeq = some next)
    (hready : (b.pop now).1 ≠ .notReady) :
    (∃ key ∈ b.buffer.keys, key - next ≤ 0x7FFF) ∧ (b.pop now).2.nextSeq = some (next + 1)
      ∧ (b.pop now).2.buffer.keys ⊆ b.buffer.keys := by
  rcases pop_cases b now with ⟨_, heq⟩ | ⟨_, heq⟩ | ⟨next', hnext', heq⟩
  · exact absurd (congrArg Prod.fst heq) hready
  · exact absurd (congrArg Prod.fst heq) hready
  cases hnext.symm.trans hnext'
  rw [heq] at hready ⊢
  rcases play_cases { b with inPrefetch := false } next with
    ⟨data, hlookup, hplay⟩ | ⟨-, ⟨key, hkey, hahead⟩, _, hplay⟩ | ⟨-, -, hplay⟩
  · rw [hplay]
    refine ⟨⟨next, ?_, by simp⟩, rfl, by simpa using List.erase_subset⟩
    exact mem_keys.mp (lookup_isSome.mp (Option.isSome_of_eq_some hlookup))
  · rw [hplay]
    exact ⟨⟨key, hkey, hahead.2⟩, rfl, List.Subset.refl _⟩
  · exact absurd (congrArg Prod.fst hplay) hready

/-- Nothing is buffered before the first packet, and what is buffered is yet to be played. -/
structure Ahead (b : AdaptiveJitterBuffer) : Prop where
  empty : b.initialized = false → b.buffer = ∅
  forward : ∀ key ∈ b.buffer.keys, ∀ next ∈ b.nextSeq, key - next ≤ 0x7FFF

theorem Ahead.push_of_initialized (h : b.Ahead) (hinit : b.initialized = true) (seq : UInt16)
    (data : List UInt8) (now : Instant) : (b.push seq data now).Ahead := by
  rcases push_cases hinit seq data now with
    ⟨haccepts, late, heq⟩ | ⟨-, late, oversize, overcap, heq⟩
  · rw [heq]
    refine ⟨fun hnew => absurd hinit (by simp [show b.initialized = false from hnew]), ?_⟩
    intro key hkey
    rw [keys_insert, List.mem_cons] at hkey
    rcases hkey with rfl | hkey
    · exact haccepts.next
    · exact h.forward key (List.mem_of_mem_erase hkey)
  · rw [heq]
    exact ⟨h.empty, h.forward⟩

theorem Ahead.push (h : b.Ahead) (seq : UInt16) (data : List UInt8) (now : Instant) :
    (b.push seq data now).Ahead := by
  cases hinit : b.initialized with
  | true => exact h.push_of_initialized hinit seq data now
  | false =>
    by_cases hsize : data.length ≤ maxPacketSize
    · rw [push_of_new hinit hsize]
      refine .push_of_initialized ⟨?_, ?_⟩ ?_ seq data now <;>
        simp [started, hinit, h.empty hinit]
    · rw [AdaptiveJitterBuffer.push, if_pos (not_le.mp hsize)]
      exact ⟨h.empty, h.forward⟩

theorem Ahead.pop (h : b.Ahead) (now : Instant) : (b.pop now).2.Ahead := by
  rcases b.pop_cases now with ⟨count, heq⟩ | ⟨count, heq⟩ | ⟨next, hnext, heq⟩
  · rw [heq]
    exact ⟨h.empty, h.forward⟩
  · rw [heq]
    exact ⟨h.empty, h.forward⟩
  rw [heq]
  rcases play_cases { b with inPrefetch := false } next with
    ⟨data, -, heq⟩ | ⟨hlookup, -, plc, heq⟩ | ⟨-, -, heq⟩
  · rw [heq]
    refine ⟨fun hnew => ?_, fun key hkey next' hnext' => ?_⟩
    · rw [h.empty hnew]
      rfl
    rw [keys_erase, List.Nodup.mem_erase_iff b.buffer.keys_nodup] at hkey
    have hdist := h.forward key hkey.2 next hnext
    cases hnext'
    grind
  · rw [heq]
    refine ⟨h.empty, fun key hkey next' hnext' => ?_⟩
    have hne : key ≠ next := by
      rintro rfl
      exact lookup_eq_none.mp hlookup (mem_keys.mpr hkey)
    have hdist := h.forward key hkey next hnext
    cases hnext'
    grind
  · rw [heq]
    exact ⟨h.empty, h.forward⟩

theorem ahead_foldl (calls : List JitterCall) : (calls.foldl serve {}).Ahead := by
  induction calls using List.reverseRecOn with
  | nil => exact ⟨fun _ => rfl, nofun⟩
  | append_singleton calls call ih =>
    rw [List.foldl_append]
    cases call with
    | push seq data now => exact ih.push seq data now
    | pop now => exact ih.pop now
    | updateStats delay => exact ⟨ih.empty, ih.forward⟩

theorem max_def (a b : UInt16) : max a b = if a ≤ b then b else a := rfl

instance : Std.LawfulOrderMax UInt16 where
  max_le_iff a b c := by grind [max_def]
  max_eq_or a b := by grind [max_def]

/-- **Reported time is right** as long as the buffered numbers lie on one side of the wrap. -/
theorem buffered_ms_right (calls : List JitterCall) {b : AdaptiveJitterBuffer}
    (hb : b = calls.foldl serve {})
    (hside : ∀ next, b.nextSeq = some next →
      (∀ key ∈ b.buffer.keys, next ≤ key) ∨ ∀ key ∈ b.buffer.keys, key < next) :
    (b.buffer.keys = [] → b.currentBufferedMs = 0)
    ∧ ∀ next latest, b.nextSeq = some next → latest ∈ b.buffer.keys →
      (∀ key ∈ b.buffer.keys, key - next ≤ latest - next) →
      b.currentBufferedMs = (latest - next).toNat * (frameDuration / 1000000) := by
  refine ⟨fun hempty => ?_, fun next latest hnext hlatest hlast => ?_⟩
  · unfold currentBufferedMs
    rw [hempty]
    split <;> first | rfl | contradiction
  obtain ⟨highest, hmax⟩ : ∃ highest, b.buffer.keys.max? = some highest :=
    Option.ne_none_iff_exists'.mp fun hnone => by simp_all [List.max?_eq_none_iff]
  obtain ⟨hmem, hhighest⟩ := List.max?_eq_some_iff.mp hmax
  have hsame : highest - next = latest - next := by
    have hle := hhighest latest hlatest
    have hge := hlast highest hmem
    rcases hside next hnext with hafter | hbefore
    · have := hafter latest hlatest
      grind
    · have := hbefore highest hmem
      grind
  have hforward : latest - next ≤ 0x7FFF :=
    Ahead.forward (hb ▸ ahead_foldl calls) latest hlatest next hnext
  unfold currentBufferedMs
  rw [hnext, hmax]
  dsimp only
  rw [hsame, if_pos hforward]

/-- The packet between the two that have arrived is missing. -/
theorem buffered_ms_right_two :
    (([.push 7 [] 0, .push 9 [] 0] : List JitterCall).foldl serve {}).currentBufferedMs = 40 := by
  refine (buffered_ms_right [.push 7 [] 0, .push 9 [] 0] rfl ?_).2 7 9 rfl (by decide) ?_
  · rintro _ ⟨⟩
    exact .inl (show ∀ key ∈ [9, 7], (7 : UInt16) ≤ key by simp)
  · exact show ∀ key ∈ [9, 7], key - 7 ≤ (9 - 7 : UInt16) by simp

/-- The buffered packets are the last before the wrap and the first after it. -/
theorem not_buffered_ms_right :
    ¬ ∀ (calls : List JitterCall) (b : AdaptiveJitterBuffer), b = calls.foldl serve {} →
      ∀ next latest, b.nextSeq = some next → latest ∈ b.buffer.keys →
        (∀ key ∈ b.buffer.keys, key - next ≤ latest - next) →
        b.currentBufferedMs = (latest - next).toNat * (frameDuration / 1000000) := by
  intro h
  have hms := h [.push 65535 [] 0, .push 0 [] 0] _ rfl 65535 0 rfl (by decide)
    (show ∀ key ∈ [0, 65535], key - 65535 ≤ (0 - 65535 : UInt16) by simp)
  exact absurd hms (by decide)

/-- The numbers up to the distance `i` from the first have been played. -/
structure Playing (b : AdaptiveJitterBuffer) (first : UInt16) (origin : Instant) (i : Nat) :
    Prop where
  initialized : b.initialized = true
  nextSeq : b.nextSeq = some (first + .ofNat i)
  firstSeq : b.firstSeq = some first
  playoutOrigin : b.playoutOrigin = some origin
  delay : b.currentTargetDelay = minJitterDelay

theorem dist_add (first : UInt16) (hi : i ≤ 0x7FFF) : (first + .ofNat i - first).toNat = i := by
  rw [UInt16.add_comm, UInt16.add_sub_cancel, UInt16.toNat_ofNat_of_lt']
  exact lt_of_le_of_lt hi (by decide)

theorem add_ofNat_succ (first : UInt16) (i : Nat) :
    first + .ofNat (i + 1) = first + .ofNat i + 1 := by
  rw [UInt16.ofNat_add, ← UInt16.add_assoc]
  rfl

section

theorem Playing.pop_eq_play (h : b.Playing first origin i) (hi : i ≤ 0x7FFF)
    (hprefetch : b.inPrefetch = true → origin + minPrefetch ≤ now)
    (hdue : origin + frameDuration * i + minJitterDelay ≤ now) :
    b.pop now = { b with inPrefetch := false }.play (first + UInt16.ofNat i) := by
  obtain ⟨buffer, nextSeq, delay, initialized, playoutOrigin, firstSeq, inPrefetch⟩ := b
  obtain ⟨-, hnext, hfirst, horigin, hdelay⟩ := h
  subst hnext hfirst horigin hdelay
  have hdist : ¬ first + .ofNat i - first > 0x7FFF := by
    rw [gt_iff_lt, UInt16.not_lt, UInt16.le_iff_toNat_le, dist_add first hi]
    exact hi
  have hout : ¬ (inPrefetch && decide (now < origin + max minJitterDelay minPrefetch)) = true := by
    rw [show max minJitterDelay minPrefetch = minPrefetch from rfl]
    simpa using hprefetch
  simp only [pop, if_neg hout, if_neg hdist, deadline, dist_add first hi]
  exact if_neg (not_lt.mpr hdue)

end

theorem pop_of_wrapped {next : UInt16} (hfirst : b.firstSeq = some first)
    (hnext : b.nextSeq = some next) (hdist : 0x7FFF < next - first) :
    (b.pop now).1 = .notReady := by
  obtain ⟨buffer, nextSeq, delay, initialized, playoutOrigin, firstSeq, inPrefetch⟩ := b
  cases hfirst
  cases hnext
  simp only [pop, if_pos hdist]
  split
  · rfl
  · split_ifs <;> rfl

/-- A payload, when it is pushed, and when `pop` is called after that. -/
structure Arrival where
  data : List UInt8
  pushed : Instant
  popped : Instant

/-- The results when packets with consecutive numbers are pushed, each followed by a pop. -/
def stream (b : AdaptiveJitterBuffer) (seq : UInt16) : List Arrival → List JitterResult
  | [] => []
  | arrival :: rest =>
    let answer := (b.push seq arrival.data arrival.pushed).pop arrival.popped
    answer.1 :: answer.2.stream (seq + 1) rest

theorem Playing.round (h : b.Playing first origin i) (hempty : b.buffer.keys = [])
    (hi : i ≤ 0x7FFF) {a : Arrival} (hsize : a.data.length ≤ maxPacketSize)
    (hprefetch : b.inPrefetch = true → origin + minPrefetch ≤ a.popped)
    (hdue : origin + frameDuration * i + minJitterDelay ≤ a.popped) :
    ∃ b', (b.push (first + .ofNat i) a.data a.pushed).pop a.popped = (.packet a.data, b')
      ∧ b'.Playing first origin (i + 1) ∧ b'.buffer.keys = [] ∧ b'.inPrefetch = false := by
  have haccepts : b.Accepts (first + .ofNat i) a.data := by
    refine ⟨hsize, ?_, ?_, by rw [hempty]; decide⟩
    · rw [h.firstSeq]
      rintro _ ⟨⟩
      rw [UInt16.le_iff_toNat_le, dist_add first hi]
      exact hi
    · rw [h.nextSeq]
      rintro _ ⟨⟩
      rw [UInt16.sub_self]
      decide
  rcases push_cases h.initialized (first + .ofNat i) a.data a.pushed with
    ⟨-, late, heq⟩ | ⟨hnot, -⟩
  · obtain ⟨hinit, hnext, hfirst, horigin, hdelay⟩ := h
    have hpushed : Playing { b with
        latePackets := late, buffer := b.buffer.insert (first + .ofNat i) a.data } first origin i :=
      ⟨hinit, hnext, hfirst, horigin, hdelay⟩
    rw [heq, hpushed.pop_eq_play hi hprefetch hdue]
    simp only [play, lookup_insert]
    refine ⟨_, rfl, ⟨hinit, ?_, hfirst, horigin, hdelay⟩, ?_, rfl⟩
    · rw [add_ofNat_succ]
    · rw [keys_erase, keys_insert, hempty]
      simp
  · exact absurd haccepts hnot

theorem Playing.stream_eq_iff {arrivals : List Arrival} (h : b.Playing first origin i)
    (hempty : b.buffer.keys = []) (hi : i ≤ 0x8000)
    (hsize : ∀ a ∈ arrivals, a.data.length ≤ maxPacketSize)
    (hprefetch : b.inPrefetch = true → ∀ a ∈ arrivals.head?, origin + minPrefetch ≤ a.popped)
    (hdue : ∀ (j : Nat) a, arrivals[j]? = some a →
      origin + frameDuration * (i + j) + minJitterDelay ≤ a.popped) :
    (b.stream (first + .ofNat i) arrivals = arrivals.map fun a => .packet a.data)
      ↔ i + arrivals.length ≤ 0x8000 := by
  induction arrivals generalizing b i with
  | nil => exact ⟨fun _ => hi, fun _ => rfl⟩
  | cons a rest ih =>
    rw [List.forall_mem_cons] at hsize
    rw [stream, List.map_cons, List.cons.injEq, List.length_cons]
    by_cases hlast : i = 0x8000
    · subst hlast
      have hwrapped : 0x7FFF < first + .ofNat 0x8000 - first := by
        rw [UInt16.add_comm, UInt16.add_sub_cancel]
        decide
      obtain ⟨-, hfirst, hnext, -⟩ :=
        push_of_initialized h.initialized (first + .ofNat 0x8000) a.data a.pushed
      rw [pop_of_wrapped (hfirst.trans h.firstSeq) (hnext.trans h.nextSeq) hwrapped]
      simp
    · obtain ⟨b', hround, hplaying, hempty', hout⟩ := h.round hempty (by omega) hsize.1
        (fun hin => hprefetch hin a rfl) (hdue 0 a rfl)
      rw [hround, ← add_ofNat_succ, ← Nat.add_assoc, Nat.add_right_comm]
      refine (and_iff_right rfl).trans (ih hplaying hempty' (by omega) hsize.2 ?_ ?_)
      · exact fun hin => by cases hout.symm.trans hin
      · intro j a hget
        rw [Nat.add_right_comm i 1 j]
        exact hdue (j + 1) a hget

theorem stream_new_eq_iff {start : Arrival} {rest : List Arrival}
    (hsize : ∀ a ∈ start :: rest, a.data.length ≤ maxPacketSize)
    (hdue : ∀ (i : Nat) a, (start :: rest)[i]? = some a →
      start.pushed + frameDuration * i + minJitterDelay ≤ a.popped)
    (hprefetch : start.pushed + minPrefetch ≤ start.popped) :
    (stream {} first (start :: rest) = (start :: rest).map fun a => .packet a.data)
      ↔ (start :: rest).length ≤ 0x8000 := by
  have hbegin : stream {} first (start :: rest)
      = (started {} first start.pushed).stream (first + .ofNat 0) (start :: rest) := by
    rw [stream, stream, push_of_new rfl (hsize start List.mem_cons_self)]
    simp
  have hplaying : (started {} first start.pushed).Playing first start.pushed 0 :=
    ⟨rfl, by simp [started], rfl, rfl, rfl⟩
  rw [hbegin, hplaying.stream_eq_iff rfl (Nat.zero_le _) hsize ?_ ?_, Nat.zero_add]
  · rintro _ _ ⟨⟩
    exact hprefetch
  · simpa using hdue

/-- **A stream of half the numbers is played without loss**, if the first pop comes after the
prefetch. -/
theorem stream_played (first : UInt16) (arrivals : List Arrival)
    (hsize : ∀ a ∈ arrivals, a.data.length ≤ maxPacketSize)
    (hdue : ∀ start ∈ arrivals.head?, ∀ (i : Nat) a, arrivals[i]? = some a →
      start.pushed + frameDuration * i + minJitterDelay ≤ a.popped)
    (hprefetch : ∀ start ∈ arrivals.head?, start.pushed + minPrefetch ≤ start.popped)
    (hlen : arrivals.length ≤ 0x8000) :
    stream {} first arrivals = arrivals.map fun a => .packet a.data := by
  cases arrivals with
  | nil => rfl
  | cons start rest =>
    exact (stream_new_eq_iff hsize (hdue start rfl) (hprefetch start rfl)).mpr hlen

theorem stream_played_wrapped :
    stream {} 65535 [⟨[1], 0, minPrefetch⟩, ⟨[2], frameDuration, minPrefetch⟩]
      = [.packet [1], .packet [2]] := by
  refine stream_played 65535 [⟨[1], 0, minPrefetch⟩, ⟨[2], frameDuration, minPrefetch⟩] (by decide)
    ?_ ?_ (by decide)
  · rintro _ ⟨⟩ (_ | _ | i) a hget
    all_goals cases hget <;> decide
  · rintro _ ⟨⟩
    decide

/-- The packets of a stream, each popped 60 ms after it was pushed. -/
def every (i : Nat) : Arrival := ⟨[], frameDuration * i, frameDuration * i + minPrefetch⟩

/-- The packet after half of the numbers is taken for an old one. -/
theorem not_stream_played :
    ¬ ∀ (first : UInt16) (arrivals : List Arrival),
      (∀ a ∈ arrivals, a.data.length ≤ maxPacketSize) →
      (∀ start ∈ arrivals.head?, ∀ (i : Nat) a, arrivals[i]? = some a →
        a.pushed = start.pushed + frameDuration * i
          ∧ start.pushed + frameDuration * i + minJitterDelay ≤ a.popped) →
      (∀ start ∈ arrivals.head?, start.pushed + minPrefetch ≤ start.popped) →
      stream {} first arrivals = arrivals.map fun a => .packet a.data := by
  intro h
  have hsize : ∀ a ∈ (List.range 0x8001).map every, a.data.length ≤ maxPacketSize := by
    intro a hmem
    obtain ⟨i, -, rfl⟩ := List.mem_map.mp hmem
    exact zero_le _
  have hdue : ∀ (i : Nat) a, ((List.range 0x8001).map every)[i]? = some a →
      a.pushed = 0 + frameDuration * i ∧ 0 + frameDuration * i + minJitterDelay ≤ a.popped := by
    intro i a hget
    rw [List.getElem?_map, Option.map_eq_some_iff] at hget
    obtain ⟨j, hj, rfl⟩ := hget
    obtain ⟨-, rfl⟩ := List.getElem?_eq_some_iff.mp hj
    rw [List.getElem_range, Nat.zero_add]
    exact ⟨rfl, Nat.add_le_add_left (by decide) _⟩
  have hplayed := h 0 ((List.range 0x8001).map every) hsize
  rw [List.range_succ_eq_map, List.map_cons] at hsize hdue hplayed
  have hlen := (stream_new_eq_iff hsize (fun i a hget => (hdue i a hget).2) (by decide)).mp
    (hplayed ?_ ?_)
  · simp at hlen
  · rintro _ ⟨⟩
    exact hdue
  · rintro _ ⟨⟩
    decide

structure Packet where
  seq : UInt16
  data : List UInt8
  arrived : Instant

def payload (packets : List Packet) (seq : UInt16) : Option (List UInt8) :=
  (packets.find? (·.seq = seq)).map (·.data)

def load (b : AdaptiveJitterBuffer) (packets : List Packet) : AdaptiveJitterBuffer :=
  packets.foldl (fun b packet => b.push packet.seq packet.data packet.arrived) b

def popAll (b : AdaptiveJitterBuffer) : List Instant → List JitterResult
  | [] => []
  | now :: rest => (b.pop now).1 :: (b.pop now).2.popAll rest

theorem payload_eq_none {packets : List Packet} :
    payload packets seq = none ↔ seq ∉ packets.map (·.seq) := by
  simp [payload]

section

variable {packets : List Packet}

theorem Playing.load (h : b.Playing first origin 0)
    (hmany : b.buffer.keys.length + packets.length ≤ maxBufferedPackets)
    (hnodup : (packets.map (·.seq)).Nodup)
    (hpackets : ∀ p ∈ packets, p.data.length ≤ maxPacketSize ∧ p.seq - first ≤ 0x7FFF) :
    (b.load packets).Playing first origin 0
      ∧ ∀ seq, (b.load packets).buffer.lookup seq
        = (payload packets seq).or (b.buffer.lookup seq) := by
  induction packets generalizing b with
  | nil => exact ⟨h, fun _ => rfl⟩
  | cons p packets ih =>
    rw [List.map_cons, List.nodup_cons] at hnodup
    rw [List.forall_mem_cons] at hpackets
    rw [List.length_cons] at hmany
    have haccepts : b.Accepts p.seq p.data := by
      refine ⟨hpackets.1.1, ?_, ?_, by omega⟩
      · rw [h.firstSeq]
        rintro _ ⟨⟩
        exact hpackets.1.2
      · rw [h.nextSeq]
        rintro _ ⟨⟩
        simpa using hpackets.1.2
    rcases push_cases h.initialized p.seq p.data p.arrived with ⟨-, late, heq⟩ | ⟨hnot, -⟩
    · have hpushed : (b.push p.seq p.data p.arrived).Playing first origin 0 := by
        rw [heq]
        exact ⟨h.initialized, h.nextSeq, h.firstSeq, h.playoutOrigin, h.delay⟩
      have hcount : (b.push p.seq p.data p.arrived).buffer.keys.length
          ≤ b.buffer.keys.length + 1 := by
        rw [heq, keys_insert, List.length_cons]
        exact succ_le_succ List.length_erase_le
      obtain ⟨hplaying, hlookup⟩ := ih hpushed (by omega) hnodup.2 hpackets.2
      refine ⟨hplaying, fun seq => (hlookup seq).trans ?_⟩
      rw [heq]
      by_cases hseq : seq = p.seq
      · subst hseq
        rw [payload_eq_none.mpr hnodup.1, lookup_insert]
        simp [payload]
      · rw [lookup_insert_ne hseq]
        simp [payload, Ne.symm hseq]
    · exact absurd haccepts hnot

theorem ahead_of_before {key n : UInt16} (hle : key - first ≤ 0x7FFF) (hlt : n < key - first) :
    0 < key - (first + n) ∧ key - (first + n) ≤ 0x7FFF := by
  rw [show key - (first + n) = key - first - n by grind]
  rw [UInt16.lt_iff_toNat_lt] at hlt
  rw [UInt16.le_iff_toNat_le] at hle
  rw [UInt16.lt_iff_toNat_lt, UInt16.le_iff_toNat_le,
    UInt16.toNat_sub_of_le _ _ (UInt16.le_iff_toNat_le.mpr (le_of_lt hlt))]
  exact ⟨Nat.sub_pos_of_lt hlt, Nat.le_trans (Nat.sub_le ..) hle⟩

/-- What is due at the distance `i`. -/
def due (packets : List Packet) (first : UInt16) (i : Nat) : JitterResult :=
  (payload packets (first + .ofNat i)).elim .missing .packet

theorem Playing.popAll_eq {last : Packet} {times : List Instant} (h : b.Playing first origin i)
    (hlookup : ∀ seq, b.buffer.lookup seq
      = if i ≤ (seq - first).toNat then payload packets seq else none)
    (hpackets : ∀ p ∈ packets, p.seq - first ≤ 0x7FFF) (hlast : last ∈ packets)
    (hlen : i + times.length ≤ (last.seq - first).toNat + 1)
    (htimes : ∀ now ∈ times, origin + minPrefetch ≤ now
      ∧ origin + frameDuration * (last.seq - first).toNat + minJitterDelay ≤ now) :
    b.popAll times = (List.range' i times.length).map (due packets first) := by
  induction times generalizing b i with
  | nil => rfl
  | cons now times ih =>
    rw [List.forall_mem_cons] at htimes
    rw [List.length_cons] at hlen ⊢
    have hspan : (last.seq - first).toNat ≤ 0x7FFF :=
      UInt16.le_iff_toNat_le.mp (hpackets last hlast)
    have hi : i ≤ 0x7FFF := by omega
    have hdist := dist_add first hi
    have hlater : ∀ seq, seq ≠ first + .ofNat i → b.buffer.lookup seq
        = if i + 1 ≤ (seq - first).toNat then payload packets seq else none := by
      intro seq hne
      have hdiff : (seq - first).toNat ≠ i := by
        rintro rfl
        exact hne (by rw [UInt16.ofNat_toNat, UInt16.add_comm, UInt16.sub_add_cancel])
      rw [hlookup]
      exact if_congr (by omega) rfl rfl
    have hpayload : b.buffer.lookup (first + .ofNat i) = payload packets (first + .ofNat i) := by
      rw [hlookup, hdist, if_pos le_rfl]
    have hpop := h.pop_eq_play hi (fun _ => htimes.1.1) (Nat.le_trans (Nat.add_le_add_right
      (Nat.add_le_add_left (Nat.mul_le_mul_left _ (by omega)) _) _) htimes.1.2)
    obtain ⟨hinit, -, hfirst, horigin, hdelay⟩ := h
    rw [popAll, hpop, List.range'_succ, List.map_cons, due]
    rcases play_cases { b with inPrefetch := false } (first + .ofNat i) with
      ⟨data, hdata, heq⟩ | ⟨hnone, -, plc, heq⟩ | ⟨hnone, hmin, -⟩
    · rw [heq, ← hpayload, show b.buffer.lookup _ = _ from hdata]
      refine congrArg _ (ih ⟨hinit, by rw [add_ofNat_succ], hfirst, horigin, hdelay⟩ (fun seq => ?_)
        (by omega) htimes.2)
      by_cases hseq : seq = first + .ofNat i
      · rw [hseq, lookup_erase, hdist, if_neg (not_succ_le_self i)]
      · rw [lookup_erase_ne hseq]
        exact hlater seq hseq
    · rw [heq, ← hpayload, show b.buffer.lookup _ = _ from hnone]
      refine congrArg _ (ih ⟨hinit, by rw [add_ofNat_succ], hfirst, horigin, hdelay⟩ (fun seq => ?_)
        (by omega) htimes.2)
      by_cases hseq : seq = first + .ofNat i
      · rw [hseq, hdist, if_neg (not_succ_le_self i)]
        exact hnone
      · exact hlater seq hseq
    · -- the last packet is still there, so the smallest number lies ahead
      have hkeys : last.seq ∈ b.buffer.keys := by
        rw [← mem_keys, ← lookup_isSome, hlookup, if_pos (by omega),
          Option.isSome_iff_ne_none, Ne, payload_eq_none, not_not]
        exact List.mem_map_of_mem hlast
      obtain ⟨key, hkey⟩ : ∃ key, b.buffer.keys.min? = some key :=
        Option.ne_none_iff_exists'.mp fun hnil => by simp_all [List.min?_eq_none_iff]
      have hsome := List.min?_mem hkey
      rw [← mem_keys, ← lookup_isSome, Option.isSome_iff_ne_none] at hsome
      have hne : key ≠ first + .ofNat i := fun heq => hsome (heq ▸ hnone)
      rw [hlater key hne] at hsome
      split_ifs at hsome with hafter
      · rw [Ne, payload_eq_none, not_not] at hsome
        obtain ⟨p, hp, rfl⟩ := List.mem_map.mp hsome
        have hlt : .ofNat i < p.seq - first := by
          rw [UInt16.lt_iff_toNat_lt, UInt16.toNat_ofNat_of_lt' (lt_of_le_of_lt hi (by decide))]
          exact hafter
        exact absurd (ahead_of_before (hpackets p hp) hlt) (hmin _ hkey)
      · exact absurd rfl hsome

end

/-- What is loaded into a started buffer lies ahead of the first packet. -/
theorem load_initialized (hinit : b.initialized = true) (packets : List Packet) :
    (b.load packets).nextSeq = b.nextSeq
      ∧ ∀ key ∈ (b.load packets).buffer.keys, key ∈ b.buffer.keys ∨ ∃ p ∈ packets, p.seq = key := by
  induction packets generalizing b with
  | nil => exact ⟨rfl, fun _ => .inl⟩
  | cons p packets ih =>
    obtain ⟨hinit', -, hnext, hkeys⟩ := push_of_initialized hinit p.seq p.data p.arrived
    obtain ⟨hnext', hkeys'⟩ := ih hinit'
    refine ⟨hnext'.trans hnext, fun key hkey => ?_⟩
    rcases hkeys' key hkey with hkey | ⟨q, hq, rfl⟩
    · rcases hkeys key hkey with rfl | hkey
      · exact .inr ⟨p, List.mem_cons_self, rfl⟩
      · exact .inl hkey
    · exact .inr ⟨q, List.mem_cons_of_mem p hq, rfl⟩

/-- A run of pops none of which waits moves on with each pop, and needs a packet for the last. -/
theorem exists_key_of_popAll {times : List Instant} {next : UInt16} (hnext : b.nextSeq = some next)
    (hready : .notReady ∉ b.popAll times) (hlen : times.length = i + 1) :
    ∃ key ∈ b.buffer.keys, key - (next + .ofNat i) ≤ 0x7FFF := by
  induction times generalizing b next i with
  | nil => cases hlen
  | cons now times ih =>
    rw [popAll, List.mem_cons, not_or] at hready
    obtain ⟨⟨key, hkey, hahead⟩, hnext', hkeys⟩ := pop_ready hnext (Ne.symm hready.1)
    cases i with
    | zero => exact ⟨key, hkey, by simpa using hahead⟩
    | succ i =>
      obtain ⟨key, hkey, hahead⟩ := ih hnext' hready.2 (Nat.succ.inj hlen)
      refine ⟨key, hkeys hkey, ?_⟩
      rwa [UInt16.ofNat_add, UInt16.add_comm (.ofNat i), ← UInt16.add_assoc]

theorem sub_sub_far {a d s : UInt16} (ha : a ≤ s) (hd : d ≤ s) (hs : s ≤ 0x7FFF) (hne : d ≠ 0)
    (hforward : a - d ≤ 0x7FFF) : 0x7FFF < a - d - s := by
  rw [Ne, ← UInt16.toNat_inj] at hne
  simp only [UInt16.le_iff_toNat_le, UInt16.lt_iff_toNat_lt, UInt16.toNat_sub,
    UInt16.reduceToNat] at *
  omega

/-- **Prefetch absorbs reordering** exactly if the packet with the lowest number arrives first. -/
theorem prefetch_absorbs_reordering {packets : List Packet} {start first last : Packet}
    {times : List Instant} (hstart : packets.head? = some start) (hfirst : first ∈ packets)
    (hlast : last ∈ packets) (hmany : packets.length ≤ maxBufferedPackets)
    (hnodup : (packets.map (·.seq)).Nodup) (hsize : ∀ p ∈ packets, p.data.length ≤ maxPacketSize)
    (hspan : ∀ p ∈ packets, p.seq - first.seq ≤ last.seq - first.seq)
    (hnear : last.seq - first.seq ≤ 0x7FFF)
    (hlen : times.length = (last.seq - first.seq).toNat + 1)
    (htimes : ∀ now ∈ times, start.arrived + minPrefetch ≤ now
      ∧ start.arrived + frameDuration * (last.seq - first.seq).toNat + minJitterDelay ≤ now) :
    (load {} packets).popAll times = (List.range times.length).map (due packets first.seq)
      ↔ start.seq = first.seq := by
  obtain ⟨rest, rfl⟩ := List.head?_eq_some_iff.mp hstart
  have hbegin : load {} (start :: rest)
      = load (started {} start.seq start.arrived) (start :: rest) := by
    unfold load
    rw [List.foldl_cons, List.foldl_cons, push_of_new rfl (hsize start List.mem_cons_self)]
  refine ⟨fun heq => ?_, fun heq => ?_⟩
  · have hready : .notReady ∉ (load {} (start :: rest)).popAll times := by
      rw [heq]
      simp only [List.mem_map, not_exists, not_and]
      rintro i - hdue
      unfold due at hdue
      cases hpayload : payload (start :: rest) (first.seq + .ofNat i) <;> simp_all
    rw [hbegin] at hready
    obtain ⟨hnext, hkeys⟩ := load_initialized (b := started {} start.seq start.arrived) rfl
      (start :: rest)
    obtain ⟨key, hkey, hahead⟩ := exists_key_of_popAll hnext hready hlen
    have hforward : key - start.seq ≤ 0x7FFF := by
      have hload : (load {} (start :: rest)).Ahead := by
        simpa [load, List.foldl_map, serve]
          using ahead_foldl ((start :: rest).map fun p => .push p.seq p.data p.arrived)
      rw [hbegin] at hload
      exact hload.forward key hkey _ hnext
    obtain ⟨p, hp, rfl⟩ := (hkeys key hkey).resolve_left (by simp [started])
    by_contra hne
    have hfar := sub_sub_far (hspan p hp) (hspan start List.mem_cons_self) hnear (by grind)
      (by rwa [show p.seq - first.seq - (start.seq - first.seq) = p.seq - start.seq by grind])
    rw [UInt16.ofNat_toNat, show p.seq - (start.seq + (last.seq - first.seq))
      = p.seq - first.seq - (start.seq - first.seq) - (last.seq - first.seq) by grind] at hahead
    exact absurd hahead (UInt16.not_le.mpr hfar)
  · rw [← heq] at hspan hnear hlen htimes ⊢
    have hclose := fun p hp => UInt16.le_trans (hspan p hp) hnear
    have hplaying : (started {} start.seq start.arrived).Playing start.seq start.arrived 0 :=
      ⟨rfl, by simp [started], rfl, rfl, rfl⟩
    obtain ⟨hloaded, hlookup⟩ := hplaying.load (by simpa [started] using hmany) hnodup
      fun p hp => ⟨hsize p hp, hclose p hp⟩
    rw [hbegin, List.range_eq_range']
    refine hloaded.popAll_eq (fun seq => ?_) hclose hlast (by omega) htimes
    rw [hlookup]
    simp [started]

/-- The second of three numbers around the wrap arrives last. -/
theorem prefetch_absorbs_reordering_wrapped :
    (load {} [⟨65535, [1], 0⟩, ⟨1, [3], 0⟩, ⟨0, [2], 0⟩]).popAll
        [100000000, 100000000, 100000000]
      = [.packet [1], .packet [2], .packet [3]] :=
  (prefetch_absorbs_reordering rfl
    List.mem_cons_self (List.mem_cons_of_mem _ List.mem_cons_self) (by decide) (by decide)
    (by decide) (by decide) (by decide) (by decide) (by decide)).mpr rfl

/-- The packet with the lowest number comes second, and is discarded. -/
theorem not_prefetch_absorbs_reordering :
    ¬ ∀ (packets : List Packet) (start first last : Packet) (times : List Instant),
      packets.head? = some start → first ∈ packets → last ∈ packets →
      packets.length ≤ maxBufferedPackets → (packets.map (·.seq)).Nodup →
      (∀ p ∈ packets, p.data.length ≤ maxPacketSize ∧ p.arrived ≤ start.arrived + minPrefetch) →
      (∀ p ∈ packets, p.seq - first.seq ≤ last.seq - first.seq) → last.seq - first.seq ≤ 0x7FFF →
      times.length = (last.seq - first.seq).toNat + 1 →
      (∀ now ∈ times, start.arrived + minPrefetch ≤ now
        ∧ start.arrived + frameDuration * (last.seq - first.seq).toNat + minJitterDelay ≤ now) →
      (load {} packets).popAll times = (List.range times.length).map (due packets first.seq) := by
  intro h
  have heq := h [⟨1, [2], 0⟩, ⟨0, [1], 0⟩] ⟨1, [2], 0⟩ ⟨0, [1], 0⟩ ⟨1, [2], 0⟩
    [100000000, 100000000] rfl (by simp) (by simp) (by decide) (by decide) (by decide) (by decide)
    (by decide) (by decide) (by decide)
  exact absurd heq (by decide)

end AdaptiveJitterBuffer

end Wavis
