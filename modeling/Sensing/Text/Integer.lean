/-!
# Integers in decimal text

Reading a whole number from text that holds nothing else. A reader says which signs it admits and
which values fit; there must be at least one digit, leading zeros are fine, and no grouping mark is.
-/

namespace Sensing.Text

/-- The value of a decimal digit. -/
def digit? (c : Char) : Option Nat :=
  if '0' ≤ c ∧ c ≤ '9' then some (c.toNat - '0'.toNat) else none

/-- The number that a list of decimal digits continues, most significant first. -/
def digitsFrom (acc : Nat) : List Char → Option Nat
  | [] => some acc
  | c :: cs => (digit? c).bind fun d => digitsFrom (acc * 10 + d) cs

/-- The number spelled by a non-empty list of decimal digits. -/
def natural? : List Char → Option Nat
  | [] => none
  | cs => digitsFrom 0 cs

/-- The least and the greatest value that an integer field holds. -/
structure IntegerRange where
  least : Int
  greatest : Int
  deriving DecidableEq, Repr

namespace IntegerRange

def unsigned32 : IntegerRange := ⟨0, 4294967295⟩
def unsigned64 : IntegerRange := ⟨0, 18446744073709551615⟩
def signed64 : IntegerRange := ⟨-9223372036854775808, 9223372036854775807⟩

/-- `n` itself if the range holds it. -/
def fit? (range : IntegerRange) (n : Int) : Option Int :=
  if range.least ≤ n ∧ n ≤ range.greatest then some n else none

/-- Reads an integer of the range: a plus sign is always admitted, a minus sign only where the
range has negative values, even before zero. -/
def read? (range : IntegerRange) : List Char → Option Int
  | '+' :: cs => (natural? cs).bind fun n => range.fit? n
  | '-' :: cs =>
    if range.least < 0 then (natural? cs).bind fun n => range.fit? (-(n : Int)) else none
  | cs => (natural? cs).bind fun n => range.fit? n

end IntegerRange

end Sensing.Text
