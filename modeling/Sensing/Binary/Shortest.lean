import Sensing.Binary.Basic

/-!
# The shortest decimal that reads back

The digits written for a binary number are the fewest that identify it: of all decimals within the
interval of values that round to the number, one with the fewest digits, and of those the nearest.
The interval includes its ends exactly when the number's significand is even, because a tie rounds
to the even one.

For one, two, three … digits the search tests the value's two neighbours on the grid of decimals
with that many digits; the first grid with a hit wins.
-/

namespace Sensing

-- `^` is the power of core, also beside a library that brings a more general one.
attribute [local instance (2000)] instPowNat

/-- The decimal `digits * 10 ^ exponent`. -/
structure Decimal where
  digits : Nat
  exponent : Int
  deriving DecidableEq, Repr

namespace Decimal

/-- Numerator and denominator of a decimal. -/
def ratio (d : Decimal) : Nat × Nat :=
  if 0 ≤ d.exponent then (d.digits * 10 ^ d.exponent.toNat, 1)
  else (d.digits, 10 ^ (-d.exponent).toNat)

/-- The decimal without trailing zeros in its digits; `fuel` bounds how many are removed. -/
def trimZeros : Nat → Decimal → Decimal
  | 0, d => d
  | fuel + 1, d =>
    if d.digits % 10 = 0 ∧ d.digits ≠ 0 then trimZeros fuel ⟨d.digits / 10, d.exponent + 1⟩ else d

end Decimal

/-- How many decimal digits a natural number has; zero has one. -/
def decimalLength (n : Nat) : Nat := (Nat.toDigits 10 n).length

/-- The exponent `k` with `10 ^ k ≤ num / den < 10 ^ (k + 1)`, for a positive ratio. -/
def decimalExponent (num den : Nat) : Int :=
  if den ≤ num then (decimalLength (num / den) : Int) - 1
  else
    let d := decimalLength (den / num)
    if den ≤ num * 10 ^ (d - 1) then 1 - (d : Int) else -(d : Int)

namespace Precision

/-- The values that round to `units`, in quarters of the smallest number: both ends, and whether
the ends belong to them. -/
def interval (p : Precision) (units : Nat) : Nat × Nat × Bool :=
  let gap := p.gap units
  let step := 2 ^ gap
  let below := if 0 < gap ∧ units = 2 ^ units.log2 then step else 2 * step
  (4 * units - below, 4 * units + 2 * step, units / step % 2 = 0)

/-- Whether a decimal rounds to `units`. -/
def reads (p : Precision) (units : Nat) (d : Decimal) : Bool :=
  let (num, den) := d.ratio
  let quarters := num * 4 * 2 ^ p.scale
  let (lower, upper, closed) := p.interval units
  if closed then lower * den ≤ quarters && quarters ≤ upper * den
  else lower * den < quarters && quarters < upper * den

/-- The decimal with `count` digits that reads back as `units` and is nearest to it, if there is
one; an exact tie goes up. -/
def onGrid (p : Precision) (units : Nat) (count : Nat) : Option Decimal :=
  let den := 2 ^ p.scale
  let exponent := decimalExponent units den - (count : Int) + 1
  let (num, den) :=
    if 0 ≤ exponent then (units, den * 10 ^ exponent.toNat)
    else (units * 10 ^ (-exponent).toNat, den)
  let low : Decimal := ⟨num / den, exponent⟩
  let high : Decimal := ⟨num / den + 1, exponent⟩
  match p.reads units low, p.reads units high with
  | true, true => some (if 2 * (num % den) < den then low else high)
  | true, false => some low
  | false, true => some high
  | false, false => none

/-- The shortest decimal that reads back as `units`, without trailing zeros. Seventeen digits
always identify a number of the formats here. -/
def shortest (p : Precision) (units : Nat) : Decimal :=
  if units = 0 then ⟨0, 0⟩
  else
    let found := (List.range 17).findSome? fun n => p.onGrid units (n + 1)
    (found.getD ⟨0, 0⟩).trimZeros 17

end Precision

end Sensing
