/-!
# Binary floating-point numbers, exactly

Every finite number of a binary format is a whole multiple of the format's smallest positive
number. A `Binary` stores that multiple, so the order of two numbers is the order of two integers,
and no operation here leaves exact arithmetic: a result is computed as a ratio of naturals and
rounded once, to the nearest number of the format, a tie going to the even significand.

There is one `nan`; signs of zero and of infinity are kept.
-/

namespace Sensing

-- `^` is the power of core, also beside a library that brings a more general one.
attribute [local instance (2000)] instPowNat

/-- A binary format: `digits` significand bits, the smallest positive number `2 ^ (-scale)`, and
all magnitudes below `2 ^ reach` times that number. -/
structure Precision where
  digits : Nat
  scale : Nat
  reach : Nat
  deriving DecidableEq, Repr

namespace Precision

/-- The 32-bit interchange format. -/
def single : Precision := ⟨24, 149, 277⟩

/-- The 64-bit interchange format. -/
def double : Precision := ⟨53, 1074, 2098⟩

/-- The distance, as a power of two, between neighbouring numbers at a magnitude of `units`. -/
def gap (p : Precision) (units : Nat) : Nat := units.log2 + 1 - p.digits

/-- Whether a multiple of the smallest number is a number of the format. -/
def Holds (p : Precision) (units : Nat) : Prop :=
  units < 2 ^ p.reach ∧ units % 2 ^ p.gap units = 0

instance (p : Precision) (units : Nat) : Decidable (p.Holds units) :=
  inferInstanceAs (Decidable (_ ∧ _))

end Precision

/-- The quotient rounded to the nearest natural number, a tie to the even one. -/
def roundHalfEven (num den : Nat) : Nat :=
  let q := num / den
  let twice := 2 * (num % den)
  if twice < den then q
  else if den < twice then q + 1
  else q + q % 2

/-- A number of a binary format, an infinity, or not a number. -/
inductive Binary (p : Precision) where
  | nan
  | infinite (negative : Bool)
  | finite (negative : Bool) (units : Nat) (holds : p.Holds units)
  deriving DecidableEq

/-- A 32-bit floating-point number. -/
abbrev Single := Binary .single

/-- A 64-bit floating-point number. -/
abbrev Double := Binary .double

namespace Binary

variable {p : Precision}

/-- The number with the given sign and multiple of the smallest number, which is an infinity where
the format has no such number. -/
def ofUnits (p : Precision) (negative : Bool) (units : Nat) : Binary p :=
  if h : p.Holds units then .finite negative units h else .infinite negative

/-- The number nearest to the ratio `num / den`. -/
def ofRatio (p : Precision) (negative : Bool) (num den : Nat) : Binary p :=
  let scaled := num * 2 ^ p.scale
  let step := 2 ^ p.gap (scaled / den)
  ofUnits p negative (roundHalfEven scaled (den * step) * step)

/-- The number nearest to an integer. -/
def ofInt (p : Precision) (n : Int) : Binary p := ofRatio p (n < 0) n.natAbs 1

instance (n : Nat) : OfNat (Binary p) n := ⟨ofInt p n⟩

instance : Inhabited (Binary p) := ⟨0⟩

/-- The number of another format nearest to this one. -/
def convert (q : Precision) : Binary p → Binary q
  | .nan => .nan
  | .infinite negative => .infinite negative
  | .finite negative units _ => ofRatio q negative units (2 ^ p.scale)

def neg : Binary p → Binary p
  | .nan => .nan
  | .infinite negative => .infinite (!negative)
  | .finite negative units h => .finite (!negative) units h

/-- The product of two finite numbers, rounded once; whatever is not finite gives `nan`. -/
def mulFinite : Binary p → Binary p → Binary p
  | .finite s u _, .finite t v _ => ofRatio p (s != t) (u * v) (2 ^ (2 * p.scale))
  | _, _ => .nan

/-- The quotient of two finite numbers, rounded once; whatever is not finite gives `nan`, and so
does a divisor of zero. -/
def divFinite : Binary p → Binary p → Binary p
  | .finite s u _, .finite t v _ => if v = 0 then .nan else ofRatio p (s != t) u v
  | _, _ => .nan

/-- The signed multiple of the smallest number that a finite number is. -/
def signedUnits (negative : Bool) (units : Nat) : Int := if negative then -units else units

/-- The order of numbers: `nan` is beside every number, and the two zeros are equal. -/
def le : Binary p → Binary p → Bool
  | .nan, _ | _, .nan => false
  | .infinite true, _ | _, .infinite false => true
  | .infinite false, _ | _, .infinite true => false
  | .finite s u _, .finite t v _ => signedUnits s u ≤ signedUnits t v

/-- Equality as numbers: `nan` equals nothing, the two zeros are equal. -/
def same (a b : Binary p) : Bool := a.le b && b.le a

/-- The integer nearest to a finite number, a half going away from zero. -/
def roundAway (negative : Bool) (units : Nat) (p : Precision) : Int :=
  let n := (2 * units + 2 ^ p.scale) / 2 ^ (p.scale + 1)
  if negative then -(n : Int) else n

/-- The integer nearest to a number, a half going away from zero, kept within bounds; `nan` gives
zero and an infinity the bound on its side. -/
def toIntClamped (least greatest : Int) : Binary p → Int
  | .nan => 0
  | .infinite negative => if negative then least else greatest
  | .finite negative units _ => max least (min greatest (roundAway negative units p))

end Binary

end Sensing
