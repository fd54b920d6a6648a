import Mathlib.Data.List.Range
import Sensing.Proofs.Clock.Unwrapping
import Sensing.Proofs.Video.Sessions

/-!
# Images that a device makes on its own can be read

An automatic device and the endpoint's clocks were not made from one definition: the one has a table
of pixel sizes and a counter that wraps, the other the sizes of the registered formats and a total
that does not. Here they are brought together, for one mode and without an endpoint in between.

An image made on its own has the size that the built-in format of its mode expects
(`imageSize_of_builtIn`); it shows the device's ticks (`shows_ownImage`) and is never blank, as the
byte behind the counter belongs to the pattern, which has no zeros (`validImage_ownImage`). The
ticks of neighbouring images are at most a second apart, which is less than half a turn of the
counter, so a clock that takes in all of them loses none.

Main result: `Lane.count_ownImage`, the number and the time that a lane gives such an image.
-/

namespace Sensing

/-! ## Sizes -/

namespace NativeMode

/-- The bytes of an image that a device makes on its own. -/
def ownSize (m : NativeMode) : Nat := m.width.toNat * m.height.toNat * m.ownBytesPerPixel

/-- The image of a mode that a device makes in a round, counted from zero, where it has made one in
every round before. -/
def ownImageAt (m : NativeMode) (n : Nat) : Bytes :=
  ownImage m (UInt32.ofNat (n * m.ticksPerImage)) n

theorem ticksPerImage_le (m : NativeMode) : m.ticksPerImage ≤ 100000000 := Nat.div_le_self ..

end NativeMode

namespace PixelFormat

/-- The formats of video that come with every endpoint. -/
def builtIn : List PixelFormat := [.yuy2, .z16, .y8]

/-- A format that lays images out as a built-in one of its code does, whatever its unpackers make
of them. -/
def BuiltIn (pf : PixelFormat) : Prop :=
  ∃ b ∈ builtIn, pf.format = b.format ∧ pf.planes = b.planes ∧ pf.bytesPerPixel = b.bytesPerPixel

instance (pf : PixelFormat) : Decidable pf.BuiltIn :=
  inferInstanceAs (Decidable (∃ b ∈ builtIn, pf.format = b.format ∧ pf.planes = b.planes ∧
    pf.bytesPerPixel = b.bytesPerPixel))

end PixelFormat

/-- A device and the built-in formats agree on the size of an image. -/
theorem imageSize_of_builtIn {pf : PixelFormat} {m : NativeMode} (h : pf.BuiltIn)
    (code : m.format = pf.format) : pf.imageSize m.width m.height = m.ownSize := by
  obtain ⟨b, hb, format, planes, pixel⟩ := h
  have agree : ∀ b ∈ PixelFormat.builtIn, b.planes = 1 ∧
      b.bytesPerPixel = NativeMode.ownBytesPerPixel { m with format := b.format } := by
    simp only [PixelFormat.builtIn, List.forall_mem_cons]
    exact ⟨⟨rfl, rfl⟩, ⟨rfl, rfl⟩, ⟨rfl, rfl⟩, List.forall_mem_nil _⟩
  obtain ⟨one, same⟩ := agree b hb
  rw [one] at planes
  rw [same, ← format, ← code] at pixel
  unfold PixelFormat.imageSize NativeMode.ownSize
  rw [planes, pixel, Nat.mul_one]

theorem length_pattern (round n : Nat) : (pattern round n).length = n := by simp [pattern]

/-- The counter takes the first four bytes, and the pattern has the rest. -/
theorem ownImage_of_room {m : NativeMode} (room : 4 ≤ m.ownSize) (counter : UInt32) (round : Nat) :
    ownImage m counter round = wordBytes counter ++ (pattern round m.ownSize).drop 4 := if_pos room

theorem length_ownImage (m : NativeMode) (counter : UInt32) (round : Nat) :
    (ownImage m counter round).length = m.ownSize := by
  have length := length_pattern round m.ownSize
  by_cases room : 4 ≤ m.ownSize
  · rw [ownImage_of_room room, List.length_append, List.length_drop, length]
    exact Nat.add_sub_cancel' room
  · have image : ownImage m counter round = pattern round m.ownSize := if_neg room
    rw [image, length]

/-! ## Counters -/

/-- The bytes of a word make up the word. -/
theorem wordBytes_toNat (w : UInt32) :
    w.toUInt8.toNat + (w >>> 8).toUInt8.toNat * 2 ^ 8 + (w >>> 16).toUInt8.toNat * 2 ^ 16 +
      (w >>> 24).toUInt8.toNat * 2 ^ 24 = w.toNat := by
  have bound := w.toNat_lt
  simp only [UInt32.toNat_toUInt8, UInt32.toNat_shiftRight, Nat.shiftRight_eq_div_pow,
    show UInt32.toNat 8 = 8 from rfl, show UInt32.toNat 16 = 16 from rfl,
    show UInt32.toNat 24 = 24 from rfl, Nat.reduceMod, Nat.reducePow]
  omega

/-- An image shows the ticks that its counter stands for. -/
theorem shows_ownImage {m : NativeMode} (room : 4 ≤ m.ownSize) (tick round : Nat) :
    RollingClock.Shows 0 (some tick) (ownImage m (UInt32.ofNat tick) round) := by
  rw [ownImage_of_room room]
  show RollingClock.Shows 0 (some tick) ([] ++ _ :: _ :: _ :: _ :: _)
  refine .counter rfl ?_
  rw [wordBytes_toNat, UInt32.toNat_ofNat']
  omega

/-- An image with room for more than the counter is not blank. -/
theorem validImage_ownImage {m : NativeMode} (room : 5 ≤ m.ownSize) (counter : UInt32)
    (round : Nat) : validImage m.ownSize (ownImage m counter round) = true := by
  have length := length_ownImage m counter round
  -- The first byte behind the counter.
  have fifth : (ownImage m counter round)[4]? = some (UInt8.ofNat ((4 + round) % 251 + 1)) := by
    rw [ownImage_of_room (by omega), List.getElem?_append_right (Nat.le_refl 4), List.getElem?_drop]
    simp [pattern, show 4 < m.ownSize by omega, wordBytes]
  have nonzero : UInt8.ofNat ((4 + round) % 251 + 1) ≠ 0 := by
    intro zero
    have := congrArg UInt8.toNat zero
    rw [UInt8.toNat_ofNat'] at this
    simp at this
    omega
  unfold validImage
  rw [Bool.and_eq_true_iff]
  refine ⟨by simp [length], ?_⟩
  rw [List.take_of_length_le (Nat.le_of_eq length), List.any_eq_true]
  exact ⟨_, List.mem_of_getElem? fifth, by simpa using nonzero⟩

/-! ## A run of images -/

namespace NativeMode

variable (m : NativeMode)

/-- The images of a mode in the first rounds. -/
def ownImages (n : Nat) : List Bytes := (List.range n).map m.ownImageAt

/-- These images with the ticks that they show. -/
def ownFeed (n : Nat) : List (Option Int × Bytes) :=
  (List.range n).map fun k => (some ((k * m.ticksPerImage : Nat) : Int), m.ownImageAt k)

/-- The feed grows by the image of the next round. -/
theorem ownFeed_succ (n : Nat) : m.ownFeed (n + 1) =
    m.ownFeed n ++ [(some ((n * m.ticksPerImage : Nat) : Int), m.ownImageAt n)] := by
  unfold ownFeed
  rw [List.range_succ, List.map_append]
  rfl

theorem ownFeed_images (n : Nat) : (m.ownFeed n).map (·.2) = m.ownImages n := by
  unfold ownFeed ownImages
  rw [List.map_map]
  rfl

/-- The ticks are the multiples of those for one image. -/
theorem ticks_ownFeed (n : Nat) : RollingClock.ticks (m.ownFeed n) =
    (List.range n).map fun k => ((k * m.ticksPerImage : Nat) : Int) := by
  unfold RollingClock.ticks ownFeed
  rw [List.filterMap_map]
  show List.filterMap (some ∘ fun k : Nat => ((k * m.ticksPerImage : Nat) : Int)) _ = _
  rw [List.filterMap_eq_map]

/-- Neighbouring images are a second apart at most. -/
theorem near_ownFeed (n : Nat) :
    (RollingClock.ticks (m.ownFeed n)).IsChain RollingClock.Near := by
  rw [ticks_ownFeed, List.isChain_map, List.isChain_range]
  intro k _
  have apart := m.ticksPerImage_le
  rw [Nat.succ_mul]
  unfold RollingClock.Near
  omega

/-- Up to the image made in a round, the ticks of as many images have passed. -/
theorem passed_ownFeed (n : Nat) :
    RollingClock.passed (RollingClock.ticks (m.ownFeed (n + 1))) =
      ((n * m.ticksPerImage : Nat) : Int) := by
  have first : (RollingClock.ticks (m.ownFeed (n + 1))).headD 0 = 0 := by
    rw [ticks_ownFeed, List.range_succ_eq_map]
    simp
  have last : (RollingClock.ticks (m.ownFeed (n + 1))).getLastD 0 =
      ((n * m.ticksPerImage : Nat) : Int) := by
    rw [ticks_ownFeed, List.range_succ, List.map_append]
    simp [List.getLastD_eq_getLast?]
  unfold RollingClock.passed
  rw [first, last, Int.sub_zero]

end NativeMode

/-- Numbering images does not change what a clock knows of the ticks. -/
theorem RollingClock.Tracks.number {l : ClockLayout} {feed : List (Option Int × Bytes)}
    {k : RollingClock} (h : Tracks l feed k) : Tracks l feed k.number.2 :=
  ⟨h.layout, h.started, h.total, h.last⟩

namespace Lane

open RollingClock (Tracks Shows Near ticks passed)

variable {layout : ClockLayout} {s : Source} {feed : List (Option Int × Bytes)} {m : NativeMode}

theorem pass_of_valid {l : Lane} {data : Bytes}
    (valid : validImage l.source.imageSize data = true) :
    l.pass data = (l.count data).2.2 := if_pos valid

/-- A lane that was shown valid images only has a clock that has taken in all of them. -/
theorem tracks_after (shows : ∀ x ∈ feed, Shows layout.offset x.1 x.2)
    (valid : ∀ x ∈ feed, validImage s.imageSize x.2 = true) (near : (ticks feed).IsChain Near) :
    Tracks layout feed (after layout s (feed.map (·.2))).clock := by
  induction feed using List.reverseRecOn with
  | nil => exact RollingClock.tracks_start layout
  | append_singleton feed x ih =>
    obtain ⟨shows, last⟩ := List.forall_mem_append.1 shows
    obtain ⟨valid, lastValid⟩ := List.forall_mem_append.1 valid
    have before : (ticks feed).IsChain Near := by
      unfold ticks at near ⊢
      rw [List.filterMap_append] at near
      exact near.left_of_append
    have accepted : validImage (after layout s (feed.map (·.2))).source.imageSize x.2 = true := by
      rw [after_source]
      exact lastValid x (List.mem_singleton_self x)
    rw [List.map_append, List.map_singleton, after_concat, pass_of_valid accepted]
    exact ((ih shows valid before).stamp (last x (List.mem_singleton_self x)) near).number

/-- What a lane makes of the images that a device makes of a mode on its own, after those of all
rounds before. -/
theorem count_ownImage (size : s.imageSize = m.ownSize) (room : 5 ≤ m.ownSize)
    (origin : layout.offset = 0) (scale : 0 < layout.ticksPerUnit) (n : Nat) :
    ((after layout s (m.ownImages n)).count (m.ownImageAt n)).1 =
        .ofInt .double (((n * m.ticksPerImage : Nat) : Int).tdiv layout.ticksPerUnit) ∧
      ((after layout s (m.ownImages n)).count (m.ownImageAt n)).2.1 = n + 1 ∧
      ((after layout s (m.ownImages n)).pass (m.ownImageAt n)).clock.total =
        ((n * m.ticksPerImage : Nat) : Int) := by
  have shows (k : Nat) : Shows layout.offset (some ((k * m.ticksPerImage : Nat) : Int))
      (m.ownImageAt k) := by
    rw [origin]
    exact shows_ownImage (Nat.le_of_succ_le room) _ k
  have showsFeed : ∀ x ∈ m.ownFeed n, Shows layout.offset x.1 x.2 := by
    intro x hx
    obtain ⟨k, -, rfl⟩ := List.mem_map.1 hx
    exact shows k
  have valid (k : Nat) : validImage s.imageSize (m.ownImageAt k) = true := by
    rw [size]
    exact validImage_ownImage room _ k
  have validFeed : ∀ x ∈ m.ownFeed n, validImage s.imageSize x.2 = true := by
    intro x hx
    obtain ⟨k, -, rfl⟩ := List.mem_map.1 hx
    exact valid k
  have accepted : validImage (after layout s (m.ownImages n)).source.imageSize
      (m.ownImageAt n) = true := by
    rw [after_source]
    exact valid n
  -- The clock has kept up with all rounds before, and the next image is near enough to the last.
  have upto := tracks_after showsFeed validFeed (m.near_ownFeed n)
  have near := m.near_ownFeed (n + 1)
  rw [m.ownFeed_succ] at near
  have tracks := upto.stamp (shows n) near
  have total := tracks.total
  have scaled : layout.scaled = layout := if_neg (Int.not_le.2 scale)
  rw [← m.ownFeed_succ, m.passed_ownFeed, m.ownFeed_images] at total
  have counted : (after layout s (m.ownImages n)).clock.count = n := by
    rw [after_count, List.countP_eq_length.2, NativeMode.ownImages, List.length_map,
      List.length_range]
    intro data hdata
    obtain ⟨k, -, rfl⟩ := List.mem_map.1 hdata
    exact valid k
  refine ⟨?_, ?_, ?_⟩
  · have layout' := tracks.layout
    rw [m.ownFeed_images] at layout'
    show ((after layout s (m.ownImages n)).clock.stamp (m.ownImageAt n)).1 = _
    rw [RollingClock.stamp_time, RollingClock.units, total, layout', scaled]
  · rw [count_number, ← pass_of_valid accepted, pass_count, counted]
    exact congrArg (n + ·) (if_pos accepted)
  · rw [pass_of_valid accepted]
    exact total

end Lane

end Sensing
