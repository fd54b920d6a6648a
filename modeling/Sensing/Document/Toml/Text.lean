import Sensing.Document.Json.Reader

/-!
# Blanks and texts in TOML

Blanks are spaces and tabs; a line ends with a line feed, which a carriage return may precede.
Texts come in four kinds: in quotation marks with escapes or in apostrophes without, on one line or,
with three marks, on several. A text on several lines drops a line end that follows its opening
marks, reads every line end as a line feed, and may hold up to two of its marks in a row, also just
before the closing ones. Control characters other than the tab stand in no text and no comment.
-/

namespace Sensing.Toml

/-! ## Blanks, comments and line ends -/

def isBlank (c : Char) : Bool := c = ' ' || c = '\t'

def skipBlank (cs : List Char) : List Char := cs.dropWhile isBlank

/-- Whether a character may stand in a comment, or in a text as it is, its closing mark and the
escape aside: no control character but the tab. -/
def isPlain (c : Char) : Bool := c = '\t' || (0x20 ≤ c.toNat && c.toNat ≠ 0x7F)

/-- Reads a line end. -/
def lineEnd? : List Char → Option (List Char)
  | '\n' :: cs => some cs
  | '\r' :: '\n' :: cs => some cs
  | _ => none

/-- Reads what may stand between the last value of a line and the next line: blanks, a comment, and
the line end or the end of the document. -/
def endOfLine? (cs : List Char) : Option (List Char) :=
  let cs := match skipBlank cs with
    | '#' :: cs => cs.dropWhile isPlain
    | cs => cs
  if cs.isEmpty then some [] else lineEnd? cs

/-- Skips blanks, line ends, and comments that end with a line end; `fuel` bounds their number. -/
def skipLines? : Nat → List Char → Option (List Char)
  | 0, _ => none
  | fuel + 1, cs =>
    match skipBlank cs with
    | '#' :: cs => (lineEnd? (cs.dropWhile isPlain)).bind (skipLines? fuel)
    | '\n' :: cs => skipLines? fuel cs
    | '\r' :: cs => (lineEnd? ('\r' :: cs)).bind (skipLines? fuel)
    | cs => some cs

/-! ## Texts -/

/-- The character of a number, unless there is none. -/
def scalar? (n : Nat) : Option Char :=
  if n < 0xD800 ∨ (0xDFFF < n ∧ n < 0x110000) then some (Char.ofNat n) else none

/-- The character of hexadecimal digits. -/
def hexScalar? (digits : List Char) : Option Char := do
  let ds ← digits.mapM Json.hexDigit?
  scalar? (ds.foldl (fun n d => 16 * n + d) 0)

/-- Reads the rest of an escape, whose backslash has been read. -/
def escape? : List Char → Option (Char × List Char)
  | 'b' :: cs => some ('\x08', cs)
  | 'f' :: cs => some ('\x0c', cs)
  | 'n' :: cs => some ('\n', cs)
  | 'r' :: cs => some ('\r', cs)
  | 't' :: cs => some ('\t', cs)
  | '"' :: cs => some ('"', cs)
  | '\\' :: cs => some ('\\', cs)
  | 'u' :: a :: b :: c :: d :: cs => (hexScalar? [a, b, c, d]).map fun x => (x, cs)
  | 'U' :: a :: b :: c :: d :: e :: f :: g :: h :: cs =>
    (hexScalar? [a, b, c, d, e, f, g, h]).map fun x => (x, cs)
  | _ => none

/-- Reads a text in quotation marks, on one line, up to its closing mark. -/
def basicLine : Nat → List Char → Option (List Char × List Char)
  | 0, _ => none
  | fuel + 1, cs =>
    match cs with
    | '"' :: cs => some ([], cs)
    | '\\' :: cs => do
      let (c, cs) ← escape? cs
      let (rest, cs) ← basicLine fuel cs
      return (c :: rest, cs)
    | c :: cs =>
      if isPlain c then do
        let (rest, cs) ← basicLine fuel cs
        return (c :: rest, cs)
      else none
    | [] => none

/-- Reads a text in apostrophes, on one line, up to its closing mark. -/
def literalLine : List Char → Option (List Char × List Char)
  | [] => none
  | '\'' :: cs => some ([], cs)
  | c :: cs =>
    if isPlain c then do
      let (rest, cs) ← literalLine cs
      return (c :: rest, cs)
    else none

/-- Skips a line end and all blanks and line ends after it; `fuel` bounds their number. -/
def skipBreaks : Nat → List Char → List Char
  | 0, cs => cs
  | fuel + 1, cs =>
    match lineEnd? (skipBlank cs) with
    | some cs => skipBreaks fuel cs
    | none => skipBlank cs

/-- Reads a text on several lines up to its closing marks. `mark` is the mark; with `escapes`, a
backslash starts an escape or, at the end of a line, joins the next text to it. -/
def manyLines (mark : Char) (escapes : Bool) : Nat → List Char → Option (List Char × List Char)
  | 0, _ => none
  | fuel + 1, cs =>
    match cs with
    | [] => none
    | c :: rest =>
      if c = mark then
        let run := (cs.takeWhile (· = mark)).length
        if run < 3 then do
          let (text, cs) ← manyLines mark escapes fuel (cs.drop run)
          return (List.replicate run mark ++ text, cs)
        else
          let kept := min (run - 3) 2
          some (List.replicate kept mark, cs.drop (kept + 3))
      else if c = '\\' ∧ escapes then
        match lineEnd? (skipBlank rest) with
        | some after => manyLines mark escapes fuel (skipBreaks fuel after)
        | none => do
          let (x, cs) ← escape? rest
          let (text, cs) ← manyLines mark escapes fuel cs
          return (x :: text, cs)
      else
        match lineEnd? cs with
        | some cs => do
          let (text, cs) ← manyLines mark escapes fuel cs
          return ('\n' :: text, cs)
        | none =>
          if isPlain c then do
            let (text, cs) ← manyLines mark escapes fuel rest
            return (c :: text, cs)
          else none

/-- Drops one line end from the front, if there is one. -/
def dropLineEnd (cs : List Char) : List Char := (lineEnd? cs).getD cs

/-- Reads a text of any kind. -/
def text? (cs : List Char) : Option (String × List Char) :=
  let fuel := cs.length + 1
  let asString (r : List Char × List Char) : String × List Char := (String.ofList r.1, r.2)
  match cs with
  | '"' :: '"' :: '"' :: cs => (manyLines '"' true fuel (dropLineEnd cs)).map asString
  | '\'' :: '\'' :: '\'' :: cs => (manyLines '\'' false fuel (dropLineEnd cs)).map asString
  | '"' :: cs => (basicLine fuel cs).map asString
  | '\'' :: cs => (literalLine cs).map asString
  | _ => none

/-! ## Keys -/

/-- Whether a character may stand in a key without marks. -/
def inBareKey (c : Char) : Bool :=
  ('A' ≤ c && c ≤ 'Z') || ('a' ≤ c && c ≤ 'z') || ('0' ≤ c && c ≤ '9') || c = '-' || c = '_'

/-- Reads one part of a key. -/
def keyPart? (cs : List Char) : Option (String × List Char) :=
  match cs with
  | '"' :: cs => (basicLine (cs.length + 1) cs).map fun r => (String.ofList r.1, r.2)
  | '\'' :: cs => (literalLine cs).map fun r => (String.ofList r.1, r.2)
  | cs =>
    match cs.takeWhile inBareKey with
    | [] => none
    | name => some (String.ofList name, cs.dropWhile inBareKey)

/-- Reads a key of parts with points between them, and the blanks around them. -/
def keyParts? : Nat → List Char → Option (List String × List Char)
  | 0, _ => none
  | fuel + 1, cs => do
    let (part, cs) ← keyPart? (skipBlank cs)
    match skipBlank cs with
    | '.' :: cs =>
      let (parts, cs) ← keyParts? fuel cs
      return (part :: parts, cs)
    | cs => return ([part], cs)

/-- As deep as this no value may be nested, and as long as this no key may be. -/
def depthLimit : Nat := 80

/-- Reads a key: the parts before the last one, and the last one. -/
def key? (cs : List Char) : Option ((List String × String) × List Char) := do
  let (parts, cs) ← keyParts? (cs.length + 1) cs
  let last ← parts.getLast?
  if parts.length < depthLimit then return ((parts.dropLast, last), cs) else none

end Sensing.Toml
