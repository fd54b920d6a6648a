import Sensing.Device.Motion
import Sensing.Device.Video

/-!
# Images and samples a device makes on its own

An automatic video device makes one image for each armed mode in each round. An image starts with a
32-bit tick counter, little endian, which advances by the ticks of one image; the bytes after it
are a pattern without zeros that moves by one byte from round to round. An automatic motion device
makes a sample of three axes, two of which swing.
-/

namespace Sensing

namespace NativeMode

/-- The rate at which an automatic device makes images of a mode. -/
def ownRate (m : NativeMode) : Nat := if m.fps = 0 then 30 else m.fps.toNat

/-- Ticks from one image to the next; there are a hundred million in a second. -/
def ticksPerImage (m : NativeMode) : Nat := 100000000 / m.ownRate

/-- Bytes of a pixel in an image made by an automatic device. -/
def ownBytesPerPixel (m : NativeMode) : Nat :=
  if m.format = .grey then 1 else if m.format = .rgb3 ∨ m.format = .bgr3 then 3 else 2

end NativeMode

/-- The bytes of a word, least significant first. -/
def wordBytes (w : UInt32) : Bytes :=
  [w.toUInt8, (w >>> 8).toUInt8, (w >>> 16).toUInt8, (w >>> 24).toUInt8]

/-- The pattern of `n` bytes in a round. -/
def pattern (round n : Nat) : Bytes :=
  (List.range n).map fun i => UInt8.ofNat ((i + round) % 251 + 1)

/-- The image of a mode in a round; one of fewer than four bytes has no room for the counter. -/
def ownImage (m : NativeMode) (counter : UInt32) (round : Nat) : Bytes :=
  let size := m.width.toNat * m.height.toNat * m.ownBytesPerPixel
  let image := pattern round size
  if 4 ≤ size then wordBytes counter ++ image.drop 4 else image

namespace VideoDevice

/-- The images of the next round, one for each armed stream, in order. -/
def ownImages (d : VideoDevice) : List (NativeMode × Bytes) :=
  (d.armed.map (·.1)).mapIdx fun i m =>
    (m, ownImage m ((d.counters[i]?).getD 0) d.rounds)

/-- The device after a round: every counter has advanced. -/
def nextRound (d : VideoDevice) : VideoDevice :=
  { d with
    rounds := d.rounds + 1
    counters := (d.armed.map (·.1)).mapIdx fun i m =>
      (d.counters[i]?).getD 0 + UInt32.ofNat m.ticksPerImage }

end VideoDevice

/-- The bits of a 32-bit number, least significant byte first. -/
def axisBytes (x : Float32) : Bytes := wordBytes x.toBits

/-- The sample of a sensor in a round. -/
def ownSample (s : Sensor) (round : UInt32) : Bytes :=
  let phase := round.toFloat32 * 0.01 + s.iio.toFloat32
  axisBytes phase.sin ++ axisBytes phase.cos ++ axisBytes 9.81

end Sensing
