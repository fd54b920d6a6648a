import Sensing.Binary.Shortest

/-!
# Numbers as text

A number is written with its shortest digits. A `NumberStyle` decides the rest: from which decimal
exponents on the digits are written with a power of ten, and whether a whole number keeps a
fraction of `.0`.
-/

namespace Sensing

/-- How the digits of a number are laid out. -/
structure NumberStyle where
  /-- Whether a number whose first digit stands for `10 ^ k` is written without a power of ten. -/
  positional : Int → Bool
  /-- Whether a whole number is written with a fraction of one zero. -/
  keepsPoint : Bool

namespace NumberStyle

/-- Never a power of ten, no fraction on whole numbers. -/
def plain : NumberStyle := ⟨fun _ => true, false⟩

/-- A power of ten below a ten-thousandth and from `10 ^ 16` on; otherwise a fraction is always
written. -/
def diagnostic : NumberStyle := ⟨fun k => decide (-4 ≤ k ∧ k < 16), true⟩

end NumberStyle

namespace Decimal

/-- The decimal exponent of the first digit. -/
def leading (d : Decimal) : Int := d.exponent + (decimalLength d.digits : Int) - 1

/-- Digits and point only. -/
def positional (keepsPoint : Bool) (d : Decimal) : List Char :=
  let digits := Nat.toDigits 10 d.digits
  if 0 ≤ d.exponent then
    digits ++ List.replicate d.exponent.toNat '0' ++ (if keepsPoint then ['.', '0'] else [])
  else
    let places := (-d.exponent).toNat
    let padded := List.replicate (places + 1 - digits.length) '0' ++ digits
    padded.take (padded.length - places) ++ '.' :: padded.drop (padded.length - places)

/-- One digit before the point, and the power of ten. -/
def scientific (d : Decimal) : List Char :=
  let exponent := (toString d.leading).toList
  match Nat.toDigits 10 d.digits with
  | first :: second :: rest => first :: '.' :: second :: rest ++ 'e' :: exponent
  | digits => digits ++ 'e' :: exponent

end Decimal

namespace Binary

variable {p : Precision}

/-- The text of a number in a style. -/
def text (style : NumberStyle) : Binary p → String
  | .nan => "NaN"
  | .infinite negative => if negative then "-inf" else "inf"
  | .finite negative units _ =>
    let d := p.shortest units
    let body :=
      if units = 0 ∨ style.positional d.leading then d.positional style.keepsPoint
      else d.scientific
    String.ofList (if negative then '-' :: body else body)

/-- The plain text of a number: digits and point only. -/
def plain (x : Binary p) : String := x.text .plain

/-- The text of a number in diagnostics. -/
def diagnostic (x : Binary p) : String := x.text .diagnostic

end Binary

end Sensing
