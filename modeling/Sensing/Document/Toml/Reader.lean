import Sensing.Document.Toml.Number
import Sensing.Document.Toml.Table
import Sensing.Document.Toml.Text

/-!
# Reading TOML

A document is a sequence of lines: blank ones, comments, headers, and keys with their values. The
values of an array may stand on several lines; a table in braces stands on one, its values aside.
-/

namespace Sensing.Toml

mutual

/-- Reads a value at a depth of nesting. -/
def value : Nat → Nat → List Char → Option (Document × List Char)
  | 0, _, _ => none
  | fuel + 1, depth, cs =>
    match cs with
    | '"' :: _ | '\'' :: _ => (text? cs).map fun (s, cs) => (.ofString s, cs)
    | 't' :: 'r' :: 'u' :: 'e' :: cs => some (.boolean true, cs)
    | 'f' :: 'a' :: 'l' :: 's' :: 'e' :: cs => some (.boolean false, cs)
    | '[' :: cs =>
      if depth + 1 < depthLimit then
        (items fuel (depth + 1) cs).map fun (ds, cs) => (.list ds, cs)
      else none
    | '\x7b' :: cs =>
      if depth + 1 < depthLimit then
        match skipBlank cs with
        | '\x7d' :: cs => some (.record [], cs)
        | cs => do
          let (es, cs) ← pairs fuel (depth + 1) [] cs
          return (.record (entriesToDocument es), cs)
      else none
    | cs => numberOrDate? cs

/-- Reads the values of an array up to its closing bracket. -/
def items : Nat → Nat → List Char → Option (List Document × List Char)
  | 0, _, _ => none
  | fuel + 1, depth, cs => do
    match ← skipLines? (cs.length + 1) cs with
    | ']' :: cs => return ([], cs)
    | cs =>
      let (d, cs) ← value fuel depth cs
      match ← skipLines? (cs.length + 1) cs with
      | ']' :: cs => return ([d], cs)
      | ',' :: cs =>
        let (ds, cs) ← items fuel depth cs
        return (d :: ds, cs)
      | _ => none

/-- Reads the keys and values of a table in braces up to the closing one. -/
def pairs : Nat → Nat → Entries → List Char → Option (Entries × List Char)
  | 0, _, _, _ => none
  | fuel + 1, depth, es, cs => do
    match ← key? cs with
    | (key, '=' :: cs) =>
      let (d, cs) ← value fuel depth (skipBlank cs)
      let es ← Entries.insertValue es key d
      match skipBlank cs with
      | '\x7d' :: cs => return (es, cs)
      | ',' :: cs => pairs fuel depth es cs
      | _ => none
    | _ => none

end

/-- Reads a header after its opening brackets. -/
def header? (closing : List Char) (cs : List Char) :
    Option ((List String × String) × List Char) := do
  let (key, cs) ← key? cs
  if closing.isPrefixOf cs then
    let cs ← endOfLine? (cs.drop closing.length)
    return (key, cs)
  else none

/-- Reads a line with a key and its value. -/
def valueLine? (cs : List Char) : Option (Statement × List Char) := do
  match ← key? cs with
  | (key, '=' :: cs) =>
    let (d, cs) ← value (cs.length + 1) 0 (skipBlank cs)
    let cs ← endOfLine? cs
    return (.value key d, cs)
  | _ => none

/-- Reads the lines of a document; `fuel` bounds their number. -/
def statements : Nat → List Char → Option (List Statement)
  | 0, _ => none
  | fuel + 1, cs =>
    match skipBlank cs with
    | [] => some []
    | '#' :: cs => (endOfLine? ('#' :: cs)).bind (statements fuel)
    | '\n' :: cs => statements fuel cs
    | '\r' :: cs => (lineEnd? ('\r' :: cs)).bind (statements fuel)
    | '[' :: '[' :: cs => do
      let (path, cs) ← header? [']', ']'] cs
      let rest ← statements fuel cs
      return .arrayHeader path :: rest
    | '[' :: cs => do
      let (path, cs) ← header? [']'] cs
      let rest ← statements fuel cs
      return .header path :: rest
    | cs => do
      let (s, cs) ← valueLine? cs
      let rest ← statements fuel cs
      return s :: rest

/-- Reads a whole document; a byte order mark in front of it is passed over. -/
def read (cs : List Char) : Option Document := do
  let cs := match cs with
    | '\uFEFF' :: cs => cs
    | cs => cs
  assemble (← statements (cs.length + 1) cs)

end Sensing.Toml
