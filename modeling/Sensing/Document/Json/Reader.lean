import Sensing.Document.Basic

/-!
# Reading JSON

A reader takes a value from the front of a list of characters and gives the rest. Blank characters
are the space, the tab and the two line ends. Texts are read in two passes: first into pieces, which
are characters and escaped 16-bit units, and then into characters, where two units of a surrogate
pair make one. An unpaired unit spoils the text but not the document.
-/

namespace Sensing.Json

def isBlank (c : Char) : Bool := c = ' ' || c = '\t' || c = '\n' || c = '\r'

def skipBlank (cs : List Char) : List Char := cs.dropWhile isBlank

/-! ## Texts -/

/-- A piece of a text: a character, or a 16-bit unit given by its number. -/
inductive Piece where
  | char (c : Char)
  | unit (n : Nat)
  deriving DecidableEq

/-- The value of a hexadecimal digit. -/
def hexDigit? (c : Char) : Option Nat :=
  if '0' ≤ c ∧ c ≤ '9' then some (c.toNat - '0'.toNat)
  else if 'a' ≤ c ∧ c ≤ 'f' then some (c.toNat - 'a'.toNat + 10)
  else if 'A' ≤ c ∧ c ≤ 'F' then some (c.toNat - 'A'.toNat + 10)
  else none

/-- The number of four hexadecimal digits. -/
def hex4? (a b c d : Char) : Option Nat := do
  let a ← hexDigit? a
  let b ← hexDigit? b
  let c ← hexDigit? c
  let d ← hexDigit? d
  return ((a * 16 + b) * 16 + c) * 16 + d

/-- The character that a letter stands for after a backslash. -/
def escaped? : Char → Option Char
  | '"' => some '"'
  | '\\' => some '\\'
  | '/' => some '/'
  | 'b' => some '\x08'
  | 'f' => some '\x0c'
  | 'n' => some '\n'
  | 'r' => some '\r'
  | 't' => some '\t'
  | _ => none

/-- Reads the pieces of a text up to its closing quotation mark. -/
def pieces : List Char → Option (List Piece × List Char)
  | [] => none
  | '"' :: cs => some ([], cs)
  | '\\' :: 'u' :: a :: b :: c :: d :: cs => do
    let n ← hex4? a b c d
    let (rest, cs) ← pieces cs
    return (.unit n :: rest, cs)
  | '\\' :: e :: cs => do
    let c ← escaped? e
    let (rest, cs) ← pieces cs
    return (.char c :: rest, cs)
  | c :: cs =>
    if c.toNat < 0x20 then none
    else do
      let (rest, cs) ← pieces cs
      return (.char c :: rest, cs)

/-- The characters of pieces, unless a unit is unpaired. -/
def decode : List Piece → Option (List Char)
  | [] => some []
  | .char c :: ps => (decode ps).map (c :: ·)
  | .unit n :: ps =>
    if n < 0xD800 ∨ 0xDFFF < n then (decode ps).map (Char.ofNat n :: ·)
    else
      match ps with
      | .unit m :: ps =>
        if n < 0xDC00 ∧ 0xDC00 ≤ m ∧ m ≤ 0xDFFF then
          (decode ps).map (Char.ofNat (0x10000 + (n - 0xD800) * 0x400 + (m - 0xDC00)) :: ·)
        else none
      | _ => none

/-- Reads a text whose opening quotation mark has been read. -/
def text (cs : List Char) : Option (Option String × List Char) := do
  let (ps, cs) ← pieces cs
  return ((decode ps).map String.ofList, cs)

/-! ## Numbers -/

/-- Splits the digits off the front. -/
def digits : List Char → List Nat × List Char
  | [] => ([], [])
  | c :: cs =>
    match Text.digit? c with
    | none => ([], c :: cs)
    | some d =>
      let (ds, cs) := digits cs
      (d :: ds, cs)

/-- Reads the digits before the point: one zero, or digits that do not start with one. -/
def wholePart (cs : List Char) : Option (List Nat × List Char) :=
  match digits cs with
  | ([], _) => none
  | (0 :: _ :: _, _) => none
  | (ds, cs) => some (ds, cs)

/-- Reads a point and the digits after it, if there is a point. -/
def fractionPart : List Char → Option (List Nat × List Char)
  | '.' :: cs =>
    match digits cs with
    | ([], _) => none
    | (ds, cs) => some (ds, cs)
  | cs => some ([], cs)

/-- Reads a sign, if there is one, and whether it is a minus. -/
def sign : List Char → Bool × List Char
  | '-' :: cs => (true, cs)
  | '+' :: cs => (false, cs)
  | cs => (false, cs)

/-- Reads a power of ten, if there is one. -/
def powerPart : List Char → Option (Option PowerOfTen × List Char)
  | [] => some (none, [])
  | c :: cs =>
    if c = 'e' ∨ c = 'E' then
      let (negative, cs) := sign cs
      match digits cs with
      | ([], _) => none
      | (ds, cs) => some (some ⟨negative, ds⟩, cs)
    else some (none, c :: cs)

/-- Reads a number whose sign has been read. -/
def numeral (negative : Bool) (cs : List Char) : Option (Numeral × List Char) := do
  let (whole, cs) ← wholePart cs
  let (fraction, cs) ← fractionPart cs
  let (power, cs) ← powerPart cs
  return (⟨negative, whole, fraction, power⟩, cs)

/-! ## Values -/

mutual

/-- Reads a value; `fuel` bounds the number of values within one another or after one another. -/
def value : Nat → List Char → Option (Document × List Char)
  | 0, _ => none
  | fuel + 1, cs =>
    match cs with
    | '"' :: cs => (text cs).map fun (s, cs) => (.text s, cs)
    | 'n' :: 'u' :: 'l' :: 'l' :: cs => some (.null, cs)
    | 't' :: 'r' :: 'u' :: 'e' :: cs => some (.boolean true, cs)
    | 'f' :: 'a' :: 'l' :: 's' :: 'e' :: cs => some (.boolean false, cs)
    | '-' :: cs => (numeral true cs).map fun (n, cs) => (.number n, cs)
    | '[' :: cs =>
      match skipBlank cs with
      | ']' :: cs => some (.list [], cs)
      | cs => (items fuel cs).map fun (ds, cs) => (.list ds, cs)
    | '\x7b' :: cs =>
      match skipBlank cs with
      | '\x7d' :: cs => some (.record [], cs)
      | cs => (entries fuel cs).map fun (es, cs) => (.record es, cs)
    | cs => (numeral false cs).map fun (n, cs) => (.number n, cs)

/-- Reads the values of a list up to its closing bracket. -/
def items : Nat → List Char → Option (List Document × List Char)
  | 0, _ => none
  | fuel + 1, cs => do
    let (d, cs) ← value fuel cs
    match skipBlank cs with
    | ']' :: cs => return ([d], cs)
    | ',' :: cs =>
      let (ds, cs) ← items fuel (skipBlank cs)
      return (d :: ds, cs)
    | _ => none

/-- Reads the entries of a record up to its closing brace. -/
def entries : Nat → List Char → Option (List (Option String × Document) × List Char)
  | 0, _ => none
  | fuel + 1, cs =>
    match cs with
    | '"' :: cs => do
      let (name, cs) ← text cs
      match skipBlank cs with
      | ':' :: cs =>
        let (d, cs) ← value fuel (skipBlank cs)
        match skipBlank cs with
        | '\x7d' :: cs => return ([(name, d)], cs)
        | ',' :: cs =>
          let (es, cs) ← entries fuel (skipBlank cs)
          return ((name, d) :: es, cs)
        | _ => none
      | _ => none
    | _ => none

end

/-- Reads a whole document, with nothing but blanks around it. -/
def read (cs : List Char) : Option Document := do
  let (d, rest) ← value (cs.length + 1) (skipBlank cs)
  if (skipBlank rest).isEmpty then return d else none

end Sensing.Json
