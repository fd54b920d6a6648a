import Sensing.Document.Basic
import Sensing.Document.Json.Reader

/-!
# Numbers and dates in TOML

Digits may be set apart by single underscores. Integers have 64 bits with a sign and may be written
in base 2, 8 or 16 without one; a floating-point number has a fraction or a power of ten, or is an
infinity or none; one that is too great is refused unless it is negative. A date is a day, a time of
day, or a day with a time and perhaps an offset; days must exist.
-/

namespace Sensing.Toml

-- `^` is the power of core, also beside a library that brings a more general one.
attribute [local instance (2000)] instPowNat

/-! ## Digits -/

/-- Reads digits after a first one, set apart by single underscores. -/
def moreDigits (digit? : Char → Option Nat) : List Char → Option (List Nat × List Char)
  | [] => some ([], [])
  | '_' :: c :: cs => do
    let d ← digit? c
    let (ds, cs) ← moreDigits digit? cs
    return (d :: ds, cs)
  | c :: cs =>
    match digit? c with
    | some d => do
      let (ds, cs) ← moreDigits digit? cs
      return (d :: ds, cs)
    | none => if c = '_' then none else some ([], c :: cs)

/-- Reads one or more digits. -/
def digits1 (digit? : Char → Option Nat) : List Char → Option (List Nat × List Char)
  | [] => none
  | c :: cs => do
    let d ← digit? c
    let (ds, cs) ← moreDigits digit? cs
    return (d :: ds, cs)

/-- The value of a digit below a base. -/
def digitBelow? (base : Nat) (c : Char) : Option Nat :=
  (Json.hexDigit? c).bind fun d => if d < base then some d else none

/-- Reads the digits of a decimal integer: one zero, or digits that do not start with one. -/
def decimalDigits : List Char → Option (List Nat × List Char)
  | '0' :: cs => some ([0], cs)
  | cs => digits1 Text.digit? cs

/-! ## Numbers -/

/-- An integer of 64 bits with a sign. -/
def integerDocument? (n : Int) : Option Document :=
  (Text.IntegerRange.signed64.fit? n).map .ofInt

/-- Reads an integer in base 2, 8 or 16, whose first two characters have been read. -/
def basedInteger (base : Nat) (cs : List Char) : Option (Document × List Char) := do
  let (ds, cs) ← digits1 (digitBelow? base) cs
  let d ← integerDocument? (ds.foldl (fun n d => base * n + d) 0 : Nat)
  return (d, cs)

/-- Whether a numeral is so great that it is read as an infinity: half the last step above the
greatest 64-bit floating-point number, or more. -/
def isTooGreat (n : Numeral) : Bool :=
  let digits := Numeral.spelled (n.whole ++ n.fraction)
  let power : Int :=
    match n.power with
    | none => 0
    | some p => if p.negative then -(Numeral.spelled p.digits : Int) else Numeral.spelled p.digits
  let shift := power - n.fraction.length
  let bound := 2 ^ (1024 : Nat) - 2 ^ (970 : Nat)
  if digits = 0 then false
  else if shift < 0 then
    decide (bound ≤ digits / 10 ^ min (-shift).toNat (n.whole.length + n.fraction.length))
  else if 400 < shift then true
  else decide (bound ≤ digits * 10 ^ shift.toNat)

/-- Reads the power of ten after its letter. -/
def powerAfterLetter (cs : List Char) : Option (PowerOfTen × List Char) := do
  let (negative, cs) := Json.sign cs
  let (ds, cs) ← digits1 Text.digit? cs
  return (⟨negative, ds⟩, cs)

/-- Reads a power of ten, if there is one. -/
def powerPart : List Char → Option (Option PowerOfTen × List Char)
  | 'e' :: cs | 'E' :: cs => (powerAfterLetter cs).map fun (p, cs) => (some p, cs)
  | cs => some (none, cs)

/-- Reads a decimal number whose sign has been read. -/
def decimal (negative : Bool) (cs : List Char) : Option (Document × List Char) := do
  let (whole, cs) ← decimalDigits cs
  let (fraction, cs) ←
    match cs with
    | '.' :: cs => digits1 Text.digit? cs
    | cs => some ([], cs)
  let (power, cs) ← powerPart cs
  let n : Numeral := ⟨negative, whole, fraction, power⟩
  if fraction = [] ∧ power = none then
    let value := Numeral.spelled whole
    let d ← integerDocument? (if negative then -(value : Int) else value)
    return (d, cs)
  else if !negative ∧ isTooGreat n then none
  else return (.number n, cs)

/-- Reads a number. -/
def number? (cs : List Char) : Option (Document × List Char) :=
  match cs with
  | '0' :: 'x' :: cs => basedInteger 16 cs
  | '0' :: 'o' :: cs => basedInteger 8 cs
  | '0' :: 'b' :: cs => basedInteger 2 cs
  | cs =>
    let (negative, cs) := Json.sign cs
    match cs with
    | 'i' :: 'n' :: 'f' :: cs => some (.unbounded, cs)
    | 'n' :: 'a' :: 'n' :: cs => some (.unbounded, cs)
    | cs => decimal negative cs

/-! ## Dates -/

/-- Reads a number of exactly two digits within bounds. -/
def twoDigits (least greatest : Nat) : List Char → Option (Nat × List Char)
  | a :: b :: cs => do
    let a ← Text.digit? a
    let b ← Text.digit? b
    let n := 10 * a + b
    if least ≤ n ∧ n ≤ greatest then return (n, cs) else none
  | _ => none

/-- How many days a month has. -/
def daysIn (year month : Nat) : Nat :=
  if month = 2 then
    if year % 4 = 0 ∧ (year % 100 ≠ 0 ∨ year % 400 = 0) then 29 else 28
  else if month = 4 ∨ month = 6 ∨ month = 9 ∨ month = 11 then 30
  else 31

/-- Reads a day. -/
def day? : List Char → Option (List Char)
  | a :: b :: c :: d :: '-' :: cs => do
    let ds ← [a, b, c, d].mapM Text.digit?
    let year := Numeral.spelled ds
    let (month, cs) ← twoDigits 1 12 cs
    match cs with
    | '-' :: cs =>
      let (_, cs) ← twoDigits 1 (daysIn year month) cs
      return cs
    | _ => none
  | _ => none

/-- Drops a fraction of a second, if there is one. -/
def dropSecondFraction : List Char → List Char
  | '.' :: cs => if (Json.digits cs).1.isEmpty then '.' :: cs else (Json.digits cs).2
  | cs => cs

/-- Reads a time of day. -/
def time? (cs : List Char) : Option (List Char) := do
  let (_, cs) ← twoDigits 0 23 cs
  match cs with
  | ':' :: cs =>
    let (_, cs) ← twoDigits 0 59 cs
    match cs with
    | ':' :: cs =>
      let (_, cs) ← twoDigits 0 60 cs
      return dropSecondFraction cs
    | _ => none
  | _ => none

/-- Reads an offset from universal time, if there is one. -/
def offset? : List Char → Option (List Char)
  | 'Z' :: cs | 'z' :: cs => some cs
  | '+' :: cs | '-' :: cs => do
    let (_, cs) ← twoDigits 0 23 cs
    match cs with
    | ':' :: cs =>
      let (_, cs) ← twoDigits 0 59 cs
      return cs
    | _ => none
  | cs => some cs

/-- Whether text starts as a day does, so that it can be nothing else. -/
def startsDay : List Char → Bool
  | a :: b :: c :: d :: '-' :: _ => [a, b, c, d].all fun x => (Text.digit? x).isSome
  | _ => false

/-- Whether text starts as a time of day does, so that it can be nothing else. -/
def startsTime (cs : List Char) : Bool :=
  match twoDigits 0 23 cs with
  | some (_, ':' :: _) => true
  | _ => false

/-- Reads the time after a day, if there is one. -/
def timeAfterDay? : List Char → Option (List Char)
  | [] => some []
  | c :: cs =>
    if (c = 'T' ∨ c = 't' ∨ c = ' ') ∧ startsTime cs then (time? cs).bind offset?
    else some (c :: cs)

/-- Reads a number or a date. -/
def numberOrDate? (cs : List Char) : Option (Document × List Char) :=
  if startsDay cs then ((day? cs).bind timeAfterDay?).map fun cs => (.date, cs)
  else if startsTime cs then (time? cs).map fun cs => (.date, cs)
  else number? cs

end Sensing.Toml
