import Sensing.Document.Basic

/-!
# Building TOML tables

A TOML document spreads its tables over headers and dotted keys. While it is read, a table remembers
how it came about: by a header of its own, as the parent of a header, or by dotted keys. Only the
parent of a header may get a header of its own later, and dotted keys extend only what dotted keys
made.
-/

namespace Sensing.Toml

/-- How a table came about. -/
inductive Origin where
  | header
  | parent
  | dotted
  deriving DecidableEq, Repr

/-- An item of a table: a value, a table, or an array of tables. -/
inductive Node where
  | value (d : Document)
  | table (origin : Origin) (entries : List (String × Node))
  /-- The tables of an array, the latest first. -/
  | tables (elements : List (List (String × Node)))

/-- The entries of a table. -/
abbrev Entries : Type := List (String × Node)

namespace Entries

/-- The item of a name. -/
def get? (es : Entries) (name : String) : Option Node :=
  (es.find? fun e => e.1 = name).map (·.2)

/-- Puts an item under a name, in the place of the one before or at the end. -/
def put (es : Entries) (name : String) (n : Node) : Entries :=
  if es.any fun e => e.1 = name then es.map fun e => if e.1 = name then (name, n) else e
  else es ++ [(name, n)]

/-- Removes the item of a name. -/
def erase (es : Entries) (name : String) : Entries := es.filter fun e => e.1 ≠ name

/-- Changes the table at the end of a path and makes the tables that are missing on the way. In an
array of tables the way leads through the latest one. `made` is the origin of tables made; dotted
keys do not lead into a table with a header. -/
def alter (made : Origin) (f : Origin → Entries → Option Entries) :
    List String → Origin → Entries → Option Entries
  | [], origin, es => f origin es
  | name :: path, _, es =>
    match get? es name with
    | none => do
      let inner ← alter made f path made []
      return put es name (.table made inner)
    | some (.table origin inner) =>
      if made = .dotted ∧ origin = .header then none
      else do
        let inner ← alter made f path origin inner
        return put es name (.table origin inner)
    | some (.tables (inner :: others)) => do
      let inner ← alter made f path .header inner
      return put es name (.tables (inner :: others))
    | some (.tables []) | some (.value _) => none

/-- Puts a value under a key that may be dotted. -/
def insertValue (es : Entries) (key : List String × String) (d : Document) : Option Entries :=
  let add (origin : Origin) (es : Entries) : Option Entries :=
    if (origin = .dotted ↔ key.1 = []) ∨ (get? es key.2).isSome then none
    else some (es ++ [(key.2, .value d)])
  alter .dotted add key.1 .header es

end Entries

mutual

/-- The finished value of an item. -/
def Node.toDocument : Node → Document
  | .value d => d
  | .table _ es => .record (entriesToDocument es)
  | .tables ts => .list (elementsToDocuments ts).reverse

/-- The finished values of a table's items. -/
def entriesToDocument : List (String × Node) → List (Option String × Document)
  | [] => []
  | (name, n) :: es => (some name, n.toDocument) :: entriesToDocument es

/-- The finished tables of an array. -/
def elementsToDocuments : List (List (String × Node)) → List Document
  | [] => []
  | es :: ts => .record (entriesToDocument es) :: elementsToDocuments ts

end

/-! ## Statements -/

/-- What a line of a TOML document says. -/
inductive Statement where
  | value (key : List String × String) (d : Document)
  | header (path : List String × String)
  | arrayHeader (path : List String × String)

/-- A document under construction: the finished tables, and the table that values go to, with its
path and whether it is an element of an array. -/
structure Draft where
  root : Entries := []
  current : Entries := []
  path : Option (List String × String) := none
  isElement : Bool := false

namespace Draft

/-- Puts the current table in its place. -/
def finish (d : Draft) : Option Entries :=
  match d.path with
  | none => some d.current
  | some (path, name) =>
    let place (_ : Origin) (es : Entries) : Option Entries :=
      if d.isElement then
        match es.get? name with
        | none => some (es ++ [(name, .tables [d.current])])
        | some (.tables ts) => some (es.put name (.tables (d.current :: ts)))
        | some _ => none
      else some (es.put name (.table .header d.current))
    Entries.alter .parent place path .header d.root

/-- The items of the table that a header names: those it has as the parent of another header. -/
def reopened? (name : String) (es : Entries) : Option Entries :=
  match es.get? name with
  | none => some []
  | some (.table .parent inner) => some inner
  | some _ => none

/-- The table at the end of a path; tables that are missing on the way are empty. -/
def tableAt? : List String → Entries → Option Entries
  | [], es => some es
  | name :: path, es =>
    match es.get? name with
    | none => tableAt? path []
    | some (.table _ inner) => tableAt? path inner
    | some (.tables (inner :: _)) => tableAt? path inner
    | some (.tables []) | some (.value _) => none

/-- Carries out what a line says. -/
def obey (d : Draft) : Statement → Option Draft
  | .value key v => do
    let current ← Entries.insertValue d.current key v
    return { d with current }
  | .header (path, name) => do
    let root ← d.finish
    let parent ← tableAt? path root
    let current ← reopened? name parent
    let remove (_ : Origin) (es : Entries) : Option Entries := some (es.erase name)
    let root ← Entries.alter .parent remove path .header root
    return { root, current, path := some (path, name), isElement := false }
  | .arrayHeader (path, name) => do
    let root ← d.finish
    let makeRoom (_ : Origin) (es : Entries) : Option Entries :=
      match es.get? name with
      | none => some (es ++ [(name, .tables [])])
      | some (.tables _) => some es
      | some _ => none
    let root ← Entries.alter .parent makeRoom path .header root
    return { root, current := [], path := some (path, name), isElement := true }

end Draft

/-- The document that statements make up, unless they contradict each other. -/
def assemble (ss : List Statement) : Option Document := do
  let draft ← ss.foldlM Draft.obey {}
  let root ← draft.finish
  return .record (entriesToDocument root)

end Sensing.Toml
