import Sensing.Document.Basic

/-!
# Writing JSON

The compact form: no blanks, and in texts an escape only where one is needed. A value without a
JSON form is written as `null`, and so is a text that has no characters to write.
-/

namespace Sensing.Json

/-- The hexadecimal digit of a number below sixteen. -/
def hexChar (n : Nat) : Char := if n < 10 then Char.ofNat (48 + n) else Char.ofNat (87 + n)

/-- A character inside a text. -/
def escape (c : Char) : List Char :=
  match c with
  | '"' => ['\\', '"']
  | '\\' => ['\\', '\\']
  | '\x08' => ['\\', 'b']
  | '\x0c' => ['\\', 'f']
  | '\n' => ['\\', 'n']
  | '\r' => ['\\', 'r']
  | '\t' => ['\\', 't']
  | c =>
    if c.toNat < 0x20 then ['\\', 'u', '0', '0', hexChar (c.toNat / 16), hexChar (c.toNat % 16)]
    else [c]

/-- A text in quotation marks. -/
def quote (s : String) : List Char := '"' :: s.toList.flatMap escape ++ ['"']

/-- Decimal digits. -/
def digitChars (ds : List Nat) : List Char := ds.map fun d => Char.ofNat (48 + d)

/-- A number as it was written. -/
def writeNumeral (n : Numeral) : List Char :=
  (if n.negative then ['-'] else []) ++ digitChars n.whole
    ++ (if n.fraction = [] then [] else '.' :: digitChars n.fraction)
    ++ match n.power with
      | none => []
      | some p => 'e' :: (if p.negative then ['-'] else []) ++ digitChars p.digits

mutual

/-- A value. -/
def write : Document → List Char
  | .null | .date | .unbounded | .text none => "null".toList
  | .boolean true => "true".toList
  | .boolean false => "false".toList
  | .number n => writeNumeral n
  | .text (some s) => quote s
  | .list items => '[' :: writeItems items ++ [']']
  | .record entries => '\x7b' :: writeEntries entries ++ ['\x7d']

/-- Values with commas between them. -/
def writeItems : List Document → List Char
  | [] => []
  | [d] => write d
  | d :: ds => write d ++ ',' :: writeItems ds

/-- Entries with commas between them. -/
def writeEntries : List (Option String × Document) → List Char
  | [] => []
  | [(name, d)] => quote (name.getD "") ++ ':' :: write d
  | (name, d) :: es => quote (name.getD "") ++ ':' :: write d ++ ',' :: writeEntries es

end

/-- The compact form of a document. -/
def render (d : Document) : String := String.ofList (write d)

end Sensing.Json
