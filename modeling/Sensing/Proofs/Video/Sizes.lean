import Sensing.Proofs.Clock.Traps
import Sensing.Proofs.Video.Verbatim

/-!
# Sizes that fit into a word

The sizes of images and frames are products of unbounded numbers here. A machine of 64 bits
multiplies one factor after another and *traps* at the first product that does not fit, even where a
factor of zero is still to come. So there is a second way to compute both sizes, factor by factor as
the machine does it.

The image's width and height fit into 32 bits each, so only what they are multiplied with can make
a product too large; and a frame's pixels have at most four bytes. Both sizes come out as they are
stated here if and only if they fit (`imageSizeChecked_eq`, `outputSizeChecked_eq`).

Main result: `sizes_without_traps`. Where an image of a built-in format has fewer than `2 ^ 64`
bytes, the machine finds its size, and the size of the frame that is made of it, to be the same.
-/

namespace Sensing

-- `^` is the power of core, also beside a library that brings a more general one.
attribute [local instance (2000)] instPowNat

/-- A product of sizes. -/
def Checked.mul (a b : Nat) : Except Trap Nat :=
  if a * b < 2 ^ 64 then .ok (a * b) else .error .overflow

theorem Checked.mul_eq_ok {a b : Nat} (h : a * b < 2 ^ 64) : mul a b = .ok (a * b) := if_pos h

/-- Two dimensions never make too large a product. -/
theorem dimensions_fit (width height : UInt32) : width.toNat * height.toNat < 2 ^ 64 := by
  have wide := width.toNat_lt
  have high := height.toNat_lt
  have product := Nat.mul_lt_mul'' wide high
  rwa [← Nat.pow_add] at product

namespace PixelFormat

/-- The bytes of a raw image, as the machine computes them. -/
def imageSizeChecked (pf : PixelFormat) (width height : UInt32) : Except Trap Nat := do
  let pixels ← Checked.mul width.toNat height.toNat
  let samples ← Checked.mul pixels pf.planes
  Checked.mul samples pf.bytesPerPixel

/-- A factor of zero does not help where the product before it is too large. -/
theorem imageSizeChecked_eq (pf : PixelFormat) (width height : UInt32) :
    pf.imageSizeChecked width height =
      if width.toNat * height.toNat * pf.planes < 2 ^ 64 ∧ pf.imageSize width height < 2 ^ 64 then
        .ok (pf.imageSize width height)
      else .error .overflow := by
  unfold imageSizeChecked
  rw [Checked.mul_eq_ok (dimensions_fit width height)]
  show (Checked.mul _ _ >>= _) = _
  by_cases samples : width.toNat * height.toNat * pf.planes < 2 ^ 64
  · rw [Checked.mul_eq_ok samples]
    show (if pf.imageSize width height < 2 ^ 64 then Except.ok (pf.imageSize width height)
      else Except.error Trap.overflow) = _
    by_cases size : pf.imageSize width height < 2 ^ 64
    · rw [if_pos size, if_pos ⟨samples, size⟩]
    · rw [if_neg size, if_neg fun both => size both.2]
  · unfold Checked.mul
    rw [if_neg samples, if_neg fun both => samples both.1]
    rfl

end PixelFormat

namespace Source

/-- The bytes of a frame, as the machine computes them. -/
def outputSizeChecked (s : Source) (e : Encoding) (rawLength : Nat) : Except Trap Nat :=
  if e.bytesPerPixel = 0 then .ok rawLength
  else do
    let row ← Checked.mul e.bytesPerPixel s.mode.width.toNat
    Checked.mul row s.mode.height.toNat

theorem bytesPerPixel_le (e : Encoding) : e.bytesPerPixel ≤ 4 := by
  cases e <;> decide

/-- Where a frame is as long as the raw data, nothing is computed. -/
theorem outputSizeChecked_eq (s : Source) (e : Encoding) {rawLength : Nat}
    (addressable : rawLength < 2 ^ 64) : s.outputSizeChecked e rawLength =
      if s.outputSize e rawLength < 2 ^ 64 then .ok (s.outputSize e rawLength)
      else .error .overflow := by
  unfold outputSizeChecked outputSize
  by_cases raw : e.bytesPerPixel = 0
  · rw [if_pos raw, if_pos raw, if_pos addressable]
  · have row : e.bytesPerPixel * s.mode.width.toNat < 2 ^ 64 := by
      have bytes := bytesPerPixel_le e
      have wide := s.mode.width.toNat_lt
      have least := Nat.mul_le_mul bytes (Nat.le_of_lt wide)
      omega
    rw [if_neg raw, if_neg raw, Checked.mul_eq_ok row]
    rfl

end Source

namespace VideoRig

variable {capacity limit : Nat} {layout : ClockLayout} {offered : List NativeMode}
  {automatic : Bool} {c : Crowd VideoRig}

/-- Whatever is configured for a built-in format, the machine finds the sizes of its images and of
their frames, and finds them to be the same, if they fit into a word. -/
theorem sizes_without_traps (h : Crowd.Reaches VideoOp.SparesModes
      (unattended capacity limit layout { offered, automatic } .sound) c) {route : Route}
    (configured : route ∈ c.rig.own.configuration)
    (builtIn : route.source.format ∈ PixelFormat.builtIn)
    (fits : route.source.imageSize < 2 ^ 64) :
    route.source.format.imageSizeChecked route.source.mode.width route.source.mode.height =
        .ok route.source.imageSize ∧
      ∀ output ∈ route.source.unpacker.outputs, ∀ rawLength < 2 ^ 64,
        route.source.outputSizeChecked output.2 rawLength = .ok route.source.imageSize := by
  have taps := h.of_admitted fun _ spares =>
    armsTaps_of_spares (sparesStreams_of_sparesModes spares)
  obtain ⟨_, listed⟩ := (sourced_of_reaches rfl taps).configuration.listed
  have source := listed _ (List.mem_map_of_mem configured)
  obtain ⟨output, unpacker, size⟩ := Source.output_of_builtIn source builtIn
  refine ⟨?_, ?_⟩
  · -- A built-in format has one plane, so the size is the last of the products.
    have one : route.source.format.planes = 1 := by
      obtain ⟨_, _, _, format, _⟩ := PixelFormat.single_of_builtIn builtIn
      rw [format]
      rfl
    rw [PixelFormat.imageSizeChecked_eq, one, Nat.mul_one]
    exact if_pos ⟨dimensions_fit _ _, fits⟩
  · rw [unpacker]
    intro output' only rawLength addressable
    obtain rfl := List.mem_singleton.1 only
    rw [Source.outputSizeChecked_eq _ _ addressable, size]
    exact if_pos fits

end VideoRig

end Sensing
