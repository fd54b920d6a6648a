import Sensing.Stream.Channel

/-!
# Native modes and stream requests

A *native mode* is one thing a device says it can produce: an image size, a rate and the
four-character code of its raw data. A *stream request* is what an application asks for; a zero
size or rate, and the encoding `any`, leave the choice open. Both are ordered field by field.
-/

namespace Sensing

/-- A four-character code, its first character in the most significant byte. -/
structure FourCC where
  code : UInt32
  deriving DecidableEq, Repr, Inhabited

namespace FourCC

/-- The code of four bytes. -/
def ofBytes (a b c d : UInt8) : FourCC :=
  ⟨a.toUInt32 <<< 24 ||| b.toUInt32 <<< 16 ||| c.toUInt32 <<< 8 ||| d.toUInt32⟩

/-- The code of four characters below 256. -/
def ofChars (a b c d : Char) : FourCC :=
  ofBytes a.toNat.toUInt8 b.toNat.toUInt8 c.toNat.toUInt8 d.toNat.toUInt8

/-- The four bytes of a code. -/
def bytes (f : FourCC) : List UInt8 :=
  [(f.code >>> 24).toUInt8, (f.code >>> 16).toUInt8, (f.code >>> 8).toUInt8, f.code.toUInt8]

/-- A byte as a character if it is a space or a visible ASCII character, else a question mark. -/
def byteChar (b : UInt8) : Char :=
  if 0x20 ≤ b ∧ b ≤ 0x7E then Char.ofNat b.toNat else '?'

/-- The four characters of a code. -/
def text (f : FourCC) : String := String.ofList (f.bytes.map byteChar)

def yuy2 : FourCC := ofChars 'Y' 'U' 'Y' '2'
def z16 : FourCC := ofChars 'Z' '1' '6' ' '
def grey : FourCC := ofChars 'G' 'R' 'E' 'Y'
def accl : FourCC := ofChars 'A' 'C' 'C' 'L'
def gyro : FourCC := ofChars 'G' 'Y' 'R' 'O'
def rgb3 : FourCC := ofChars 'R' 'G' 'B' '3'
def bgr3 : FourCC := ofChars 'B' 'G' 'R' '3'

end FourCC

/-- What a device can produce. -/
structure NativeMode where
  width : UInt32
  height : UInt32
  fps : UInt32
  format : FourCC
  deriving DecidableEq, Repr, Inhabited

namespace NativeMode

def text (m : NativeMode) : String :=
  let code := m.format.text
  s!"{code} {m.width}x{m.height} @{m.fps}fps"

/-- The fields in order of significance. -/
def key (m : NativeMode) : List Nat :=
  [m.width.toNat, m.height.toNat, m.fps.toNat, m.format.code.toNat]

theorem key_injective {m n : NativeMode} (h : m.key = n.key) : m = n := by
  obtain ⟨w, h', f, ⟨c⟩⟩ := m
  obtain ⟨w', h'', f', ⟨c'⟩⟩ := n
  simp only [key, List.cons.injEq, UInt32.toNat_inj, and_true] at h
  obtain ⟨rfl, rfl, rfl, rfl⟩ := h
  rfl

end NativeMode

/-- What an application asks for. -/
structure StreamRequest where
  channel : Channel
  width : UInt32 := 0
  height : UInt32 := 0
  fps : UInt32 := 0
  encoding : Encoding := .any
  deriving DecidableEq, Repr, Inhabited

namespace StreamRequest

def text (r : StreamRequest) : String :=
  let channel := r.channel.label
  let encoding := r.encoding.label
  s!"{channel} {r.width}x{r.height} @{r.fps}fps {encoding}"

/-- The fields in order of significance. -/
def key (r : StreamRequest) : List Nat :=
  [r.channel.position, r.width.toNat, r.height.toNat, r.fps.toNat, r.encoding.position]

theorem key_injective {r s : StreamRequest} (h : r.key = s.key) : r = s := by
  obtain ⟨c, w, h', f, e⟩ := r
  obtain ⟨c', w', h'', f', e'⟩ := s
  simp only [key, List.cons.injEq, UInt32.toNat_inj, and_true] at h
  obtain ⟨hc, rfl, rfl, rfl, he⟩ := h
  rw [Channel.position_injective hc, Encoding.position_injective he]

end StreamRequest

end Sensing
