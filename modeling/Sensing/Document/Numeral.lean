import Sensing.Binary.Basic
import Sensing.Text.Integer

/-!
# Written numbers

A number as it stands in a document: its sign, its digits before and after the point, and its power
of ten. Without a fraction and a power of ten it may be an integer of 64 bits.

A numeral is read as a 64-bit floating-point number in few steps: as many leading digits as fit
into 64 bits, converted, and then multiplied or divided by one power of ten. Each step rounds, so
that a numeral with many digits may be read as a neighbour of the nearest number.
-/

namespace Sensing

-- `^` is the power of core, also beside a library that brings a more general one.
attribute [local instance (2000)] instPowNat

/-- A power of ten. -/
structure PowerOfTen where
  negative : Bool
  digits : List Nat
  deriving DecidableEq, Repr

/-- A written number; the digits before the point are one zero or start with another digit. -/
structure Numeral where
  negative : Bool
  whole : List Nat
  fraction : List Nat := []
  power : Option PowerOfTen := none
  deriving DecidableEq, Repr

namespace Numeral

/-- The number that decimal digits spell. -/
def spelled (digits : List Nat) : Nat := digits.foldl (fun n d => 10 * n + d) 0

/-- The numeral as an integer of 64 bits, with or without a sign; a negative zero is none. -/
def integer? (n : Numeral) : Option Int :=
  if n.fraction ≠ [] ∨ n.power ≠ none then none
  else if n.negative then
    let value := spelled n.whole
    if value = 0 ∨ 9223372036854775808 < value then none else some (-value)
  else
    let value := spelled n.whole
    if value < UInt64.size then some value else none

/-! ## Floating-point numbers -/

/-- The first digits as long as their number fits into 64 bits, after a number read before, and how
many digits were left out. -/
def accumulate (start : Nat) : List Nat → Nat × Nat
  | [] => (start, 0)
  | d :: ds =>
    if 10 * start + d < UInt64.size then accumulate (10 * start + d) ds
    else (start, ds.length + 1)

/-- The leading digits and the power of ten that they are to be multiplied by, without the written
power: digits left out before the point raise it, digits taken after the point lower it. -/
def leading (n : Numeral) : Nat × Int :=
  let (whole, left) := accumulate 0 n.whole
  let (digits, dropped) := accumulate whole n.fraction
  (digits, (left : Int) - ((n.fraction.length : Int) - dropped))

/-- The greatest power of ten that is used in one step. -/
def maxPower : Nat := 308

/-- A power of ten as a floating-point number. -/
def tenTo (k : Nat) : Double := .ofInt .double (10 ^ k : Nat)

/-- Multiplies by a power of ten. Small powers are reached in steps that each divide once, at most
`fuel` of them; the result is `none` where it would be infinite. -/
def scale (x : Double) (power : Int) : Nat → Option Double
  | 0 => some 0
  | fuel + 1 =>
    if power.natAbs ≤ maxPower then
      if 0 ≤ power then
        match x.mulFinite (tenTo power.toNat) with
        | .infinite _ => none
        | y => some y
      else some (x.divFinite (tenTo power.natAbs))
    else if x.same 0 then some x
    else if 0 ≤ power then none
    else scale (x.divFinite (tenTo maxPower)) (power + maxPower) fuel

/-- The greatest written power of ten that is looked at. -/
def maxWritten : Nat := 2147483647

/-- The numeral as a 64-bit floating-point number, unless it is too great. -/
def double? (n : Numeral) : Option Double :=
  let (digits, shift) := n.leading
  let signed (x : Double) : Double := if n.negative then x.neg else x
  let start : Double := .ofInt .double digits
  match n.power with
  | none => (scale start shift 8).map signed
  | some p =>
    let written := spelled p.digits
    if maxWritten < written then
      if digits ≠ 0 ∧ !p.negative then none else some (signed 0)
    else
      let power := if p.negative then shift - written else shift + written
      (scale start power 8).map signed

/-- The numeral as a 32-bit floating-point number: an integer of 64 bits directly, any other by way
of 64 bits. -/
def single? (n : Numeral) : Option Single :=
  match n.integer? with
  | some i => some (.ofInt .single i)
  | none => n.double?.map (Binary.convert .single)

end Numeral

end Sensing
