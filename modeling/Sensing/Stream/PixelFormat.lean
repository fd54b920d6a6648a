import Sensing.Stream.Mode

/-!
# Pixel formats

A pixel format says what the raw data of one four-character code holds: how large an image is, and
which *unpackers* turn one raw image into frames. An unpacker has one output for each frame it
makes, and a decoder that fills their planes. A decoder writes into planes that are already there,
so it keeps their number and their lengths; its type says so.
-/

namespace Sensing

/-- Raw or decoded data. -/
abbrev Bytes := List UInt8

/-- A function that fills planes from raw data of an image of the given width and height. -/
structure Decoder where
  run : List Bytes → Bytes → UInt32 → UInt32 → List Bytes
  /-- Every plane keeps its length. -/
  keepsShape : ∀ planes source width height,
    (run planes source width height).map List.length = planes.map List.length

/-- The plane with its front replaced by the source, as far as both reach. -/
def overwrite (plane source : Bytes) : Bytes :=
  source.take plane.length ++ plane.drop source.length

@[simp] theorem length_overwrite (plane source : Bytes) :
    (overwrite plane source).length = plane.length := by
  simp only [overwrite, List.length_append, List.length_take, List.length_drop]
  omega

namespace Decoder

/-- Copies the raw bytes into every plane. -/
def copy : Decoder where
  run planes source _ _ := planes.map fun plane => overwrite plane source
  keepsShape planes source _ _ := by simp [Function.comp_def]

/-- Leaves every plane as it is. -/
def idle : Decoder where
  run planes _ _ _ := planes
  keepsShape _ _ _ _ := rfl

/-- Each plane takes as many bytes as it has room for, after those taken by the planes before. -/
def share : List Bytes → Bytes → List Bytes
  | [], _ => []
  | plane :: planes, source => overwrite plane source :: share planes (source.drop plane.length)

/-- Deals the raw bytes out to the planes one after another. -/
def split : Decoder where
  run planes source _ _ := share planes source
  keepsShape planes source _ _ := by
    induction planes generalizing source with
    | nil => rfl
    | cons plane planes ih => simp [share, ih]

/-- Writes the low bytes of width and height at the front of every plane. -/
def dimensions : Decoder where
  run planes _ width height :=
    planes.map fun plane => overwrite plane [width.toUInt8, height.toUInt8]
  keepsShape planes _ _ _ := by simp [Function.comp_def]

end Decoder

/-- One way to turn a raw image into frames, one for each output. -/
structure Unpacker where
  needsProcessing : Bool := false
  decoder : Decoder
  outputs : List (Channel × Encoding)

namespace Unpacker

/-- An unpacker without outputs. -/
def silent : Unpacker := ⟨false, .idle, []⟩

/-- The encoding of the first output of a channel. -/
def encodingOf (u : Unpacker) (c : Channel) : Option Encoding :=
  (u.outputs.find? fun output => output.1 = c).map (·.2)

/-- Whether one of the unpacker's outputs is what a request asks for. -/
def serves (u : Unpacker) (r : StreamRequest) : Bool :=
  match u.encodingOf r.channel with
  | some encoding => r.encoding = .any || r.encoding = encoding
  | none => false

theorem serves_iff {u : Unpacker} {r : StreamRequest} :
    u.serves r = true ↔
      ∃ e, u.encodingOf r.channel = some e ∧ (r.encoding = .any ∨ r.encoding = e) := by
  unfold serves
  cases u.encodingOf r.channel <;> simp

end Unpacker

/-- What the raw data of a four-character code holds. -/
structure PixelFormat where
  format : FourCC
  planes : Nat
  bytesPerPixel : Nat
  unpackers : List Unpacker

namespace PixelFormat

/-- The bytes of a raw image, which may be more than a word of 64 bits can count. -/
def imageSize (pf : PixelFormat) (width height : UInt32) : Nat :=
  width.toNat * height.toNat * pf.planes * pf.bytesPerPixel

/-- A format of one plane that is copied to one output. -/
def single (format : FourCC) (bytesPerPixel : Nat) (c : Channel) (e : Encoding) : PixelFormat :=
  ⟨format, 1, bytesPerPixel, [⟨false, .copy, [(c, e)]⟩]⟩

/-- Color in pairs of pixels. -/
def yuy2 : PixelFormat := single .yuy2 2 .color .yuyv

/-- Depth in 16 bits. -/
def z16 : PixelFormat := single .z16 2 .depth .z16

/-- Infrared in 8 bits. -/
def y8 : PixelFormat := single .grey 1 .infrared .y8

/-- The axes of an accelerometer. -/
def accel : PixelFormat := single .accl 1 .accel .motionData

/-- The axes of a gyroscope. -/
def gyro : PixelFormat := single .gyro 1 .gyro .motionData

/-- The place of the first format with a mode's four-character code. -/
def indexFor? (formats : List PixelFormat) (m : NativeMode) : Option Nat :=
  formats.findIdx? fun pf => pf.format = m.format

end PixelFormat

namespace NativeMode

/-- Whether a mode carries a pixel format's data in the size and at the rate of a request. -/
def fits (m : NativeMode) (pf : PixelFormat) (r : StreamRequest) : Bool :=
  m.format = pf.format && (r.width = 0 || r.width = m.width)
    && (r.height = 0 || r.height = m.height) && (r.fps = 0 || r.fps = m.fps)

theorem fits_iff {m : NativeMode} {pf : PixelFormat} {r : StreamRequest} :
    m.fits pf r = true ↔
      m.format = pf.format ∧ (r.width = 0 ∨ r.width = m.width) ∧
        (r.height = 0 ∨ r.height = m.height) ∧ (r.fps = 0 ∨ r.fps = m.fps) := by
  simp [fits, and_assoc]

end NativeMode

end Sensing
