import Sensing.Binary.Basic
import Sensing.Error
import Sensing.Stream.PixelFormat
import Sensing.Text.Record

/-!
# Rolling clocks

A device embeds a 32-bit tick counter, little endian, in every raw frame, and the counter wraps. A
rolling clock adds up the differences between consecutive counters, each read as the signed number
of least magnitude that is congruent to it, so the total follows the device through any number of
wraps. The first counter seen is the origin. A frame too short to hold the counter adds nothing.

A raw frame is valid if it holds a whole image and not all of that image is zero: some devices send
blank images just after they start.
-/

namespace Sensing

/-- Where the tick counter sits in a frame, and how many ticks make a unit of time. -/
structure ClockLayout where
  offset : Nat := 0
  ticksPerUnit : Int := 100000
  deriving DecidableEq, Repr, Inhabited

namespace ClockLayout

/-- The greatest accepted offset: no frame comes close to it. -/
def maxOffset : Nat := 64 * 1024 * 1024

/-- What is wrong with a layout, if anything. -/
def problem? (l : ClockLayout) : Option Cause :=
  if l.ticksPerUnit ≤ 0 then
    some ⟨"rolling_timestamp.ticks_per_unit must be greater than zero", []⟩
  else if maxOffset < l.offset then
    some ⟨s!"rolling_timestamp.counter_offset {l.offset} exceeds {maxOffset}", []⟩
  else none

theorem problem?_eq_none_iff (l : ClockLayout) :
    l.problem? = none ↔ 0 < l.ticksPerUnit ∧ l.offset ≤ maxOffset := by
  unfold problem?
  split
  · simp; omega
  · split <;> simp <;> omega

/-- The layout's diagnostic text. -/
def text (l : ClockLayout) : String :=
  Text.record "RollingCounterLayout"
    [("counter_offset", toString l.offset), ("ticks_per_unit", toString l.ticksPerUnit)]

/-- The layout with a scale that can be divided by: one tick a unit where the given scale is not
positive. -/
def scaled (l : ClockLayout) : ClockLayout :=
  if l.ticksPerUnit ≤ 0 then { l with ticksPerUnit := 1 } else l

end ClockLayout

/-- The number of least magnitude congruent to `n` modulo the width of the counter; of the two
farthest ones the negative. -/
def signed32 (n : Int) : Int := Int.bmod n 4294967296

/-- The state of a clock: the ticks passed since the first counter, the last counter, and the
number of frames counted. -/
structure RollingClock where
  layout : ClockLayout
  started : Bool := false
  total : Int := 0
  last : UInt32 := 0
  count : Nat := 0
  deriving DecidableEq, Repr

namespace RollingClock

/-- A clock that has seen nothing. Any layout is usable: one without a positive scale counts raw
ticks, and an offset past the end of every frame reads no counter. -/
def start (l : ClockLayout) : RollingClock := { layout := l.scaled }

/-- The four bytes, least significant first, as a number. -/
def word (a b c d : UInt8) : UInt32 :=
  a.toUInt32 ||| b.toUInt32 <<< 8 ||| c.toUInt32 <<< 16 ||| d.toUInt32 <<< 24

/-- The counter at an offset of a frame, unless the frame ends before it does. -/
def counterAt? (offset : Nat) (frame : Bytes) : Option UInt32 :=
  match frame.drop offset with
  | a :: b :: c :: d :: _ => some (word a b c d)
  | _ => none

/-- Takes in the counter of a frame. -/
def advance (k : RollingClock) (frame : Bytes) : RollingClock :=
  match counterAt? k.layout.offset frame with
  | none => k
  | some now =>
    let last := if k.started then k.last else now
    { k with
      started := true
      total := k.total + signed32 ((now.toNat : Int) - last.toNat)
      last := now }

/-- The units passed since the first counter, toward zero. -/
def units (k : RollingClock) : Int := k.total.tdiv k.layout.ticksPerUnit

/-- Takes in a frame and gives its time. -/
def stamp (k : RollingClock) (frame : Bytes) : Double × RollingClock :=
  let k := k.advance frame
  (.ofInt .double k.units, k)

/-- Gives a frame its number; the first is one. -/
def number (k : RollingClock) : Nat × RollingClock :=
  (k.count + 1, { k with count := k.count + 1 })

/-- The clock's diagnostic text. -/
def text (k : RollingClock) : String :=
  Text.record "RollingTimestampReader"
    [("layout", k.layout.text), ("started", toString k.started), ("total", toString k.total),
      ("last_timestamp", toString (signed32 k.last.toNat)), ("counter", toString k.count)]

end RollingClock

/-- Whether a raw frame holds a whole image of the given size that is not all zero. -/
def validImage (imageSize : Nat) (frame : Bytes) : Bool :=
  imageSize ≤ frame.length && (frame.take imageSize).any (· ≠ 0)

end Sensing
