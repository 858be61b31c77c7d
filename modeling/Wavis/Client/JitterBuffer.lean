import Wavis.RoomInfo

/-! Packets are numbered by a 16-bit counter that wraps, and are played in the order of their
numbers, each at its deadline. Distances up to `0x7FFF` count as forward. The target delay is a
duration that `updateStats` may set to any value. -/

namespace Wavis

def frameDuration : Duration := 20000000

def minJitterDelay : Duration := 20000000

def minPrefetch : Duration := 60000000

def maxPacketSize : Nat := 1500

def maxBufferedPackets : Nat := 500

inductive JitterResult where
  | packet (data : List UInt8)
  | missing
  | notReady
  deriving DecidableEq

structure AdaptiveJitterBuffer where
  buffer : HashMap UInt16 (List UInt8) := ∅
  nextSeq : Option UInt16 := none
  currentTargetDelay : Duration := minJitterDelay
  initialized : Bool := false
  playoutOrigin : Option Instant := none
  firstSeq : Option UInt16 := none
  inPrefetch : Bool := false
  latePackets : Nat := 0
  plcFrames : Nat := 0
  notReadyCount : Nat := 0
  droppedOversize : Nat := 0
  droppedOvercap : Nat := 0

namespace AdaptiveJitterBuffer

def deadline (b : AdaptiveJitterBuffer) (origin : Instant) (dist : UInt16) : Instant :=
  origin + frameDuration * dist.toNat + b.currentTargetDelay

/-- The first packet sets the position and the clock of the playback. -/
def started (b : AdaptiveJitterBuffer) (seq : UInt16) (now : Instant) : AdaptiveJitterBuffer :=
  if b.initialized then b
  else { b with
    nextSeq := some seq, initialized := true, playoutOrigin := some now, firstSeq := some seq,
    inPrefetch := true }

def countLate (b : AdaptiveJitterBuffer) (seq : UInt16) (now : Instant) : AdaptiveJitterBuffer :=
  match b.playoutOrigin, b.firstSeq with
  | some origin, some first =>
    if !b.inPrefetch && decide (now > b.deadline origin (seq - first)) then
      { b with latePackets := b.latePackets + 1 }
    else b
  | _, _ => b

def push (b : AdaptiveJitterBuffer) (seq : UInt16) (data : List UInt8) (now : Instant) :
    AdaptiveJitterBuffer :=
  if data.length > maxPacketSize then { b with droppedOversize := b.droppedOversize + 1 }
  else
    let b := b.started seq now
    if b.firstSeq.any fun first => seq - first > 0x7FFF then b
    else if b.nextSeq.any fun next => seq - next > 0x7FFF then b
    else
      let b := b.countLate seq now
      if b.buffer.keys.length ≥ maxBufferedPackets then
        { b with droppedOvercap := b.droppedOvercap + 1 }
      else { b with buffer := b.buffer.insert seq data }

def notReady (b : AdaptiveJitterBuffer) : JitterResult × AdaptiveJitterBuffer :=
  (.notReady, { b with notReadyCount := b.notReadyCount + 1 })

/-- What is played at the deadline of the next number. -/
def play (b : AdaptiveJitterBuffer) (next : UInt16) : JitterResult × AdaptiveJitterBuffer :=
  match b.buffer.lookup next with
  | some data =>
    (.packet data, { b with buffer := b.buffer.erase next, nextSeq := some (next + 1) })
  | none =>
    match b.buffer.keys.min? with
    | some firstBuffered =>
      if 0 < firstBuffered - next ∧ firstBuffered - next ≤ 0x7FFF then
        (.missing, { b with nextSeq := some (next + 1), plcFrames := b.plcFrames + 1 })
      else b.notReady
    | none => b.notReady

def pop (b : AdaptiveJitterBuffer) (now : Instant) : JitterResult × AdaptiveJitterBuffer :=
  match b.playoutOrigin with
  | none => b.notReady
  | some origin =>
    if b.inPrefetch && decide (now < origin + max b.currentTargetDelay minPrefetch) then b.notReady
    else
      let b := { b with inPrefetch := false }
      match b.firstSeq, b.nextSeq with
      | some first, some next =>
        if next - first > 0x7FFF then b.notReady
        else if now < b.deadline origin (next - first) then b.notReady
        else b.play next
      | _, _ => b.notReady

def updateStats (b : AdaptiveJitterBuffer) (delay : Duration) : AdaptiveJitterBuffer :=
  { b with currentTargetDelay := delay }

/-- `stats`, of which only this field is more than a field of the buffer. -/
def currentBufferedMs (b : AdaptiveJitterBuffer) : Nat :=
  match b.nextSeq, b.buffer.keys.max? with
  | some next, some highest => if highest - next ≤ 0x7FFF then
      (highest - next).toNat * (frameDuration / 1000000) else 0
  | _, _ => 0

end AdaptiveJitterBuffer

inductive JitterCall where
  | push (seq : UInt16) (data : List UInt8) (now : Instant)
  | pop (now : Instant)
  | updateStats (delay : Duration)

def AdaptiveJitterBuffer.serve (b : AdaptiveJitterBuffer) : JitterCall → AdaptiveJitterBuffer
  | .push seq data now => b.push seq data now
  | .pop now => (b.pop now).2
  | .updateStats delay => b.updateStats delay

end Wavis
