import Sensing.Document.Basic
import Sensing.Text.Integer

/-!
# Reading values out of documents

A structure stands in a document either as a record, where its fields have names, or as a list,
where they have places. In a record the order is free, names that are no field's are passed over,
and a field that occurs twice is refused. A choice among names stands as a text, or as a record
whose only entry has the name and says nothing more.

Two notations differ in small ways; a `Dialect` says how.
-/

namespace Sensing

/-- How a notation deviates. -/
structure Dialect where
  /-- Whether a list may hold more values than the structure has fields. -/
  allowsSurplus : Bool
  /-- Whether a value says nothing. -/
  saysNothing : Document → Bool

namespace Dialect

/-- JSON: nothing surplus, and `null` says nothing. -/
def json : Dialect where
  allowsSurplus := false
  saysNothing
    | .null => true
    | _ => false

/-- TOML: surplus values are passed over, and an empty record or list says nothing. -/
def toml : Dialect where
  allowsSurplus := true
  saysNothing
    | .record [] | .list [] => true
    | _ => false

end Dialect

/-- A field of a structure. -/
structure FieldForm where
  name : String
  /-- Whether a list may end before the field. -/
  mayBeCut : Bool := false
  deriving DecidableEq, Repr

namespace Document

/-- The entries of a record with their names, unless a name is spoilt. -/
def named? : List (Option String × Document) → Option (List (String × Document))
  | [] => some []
  | (none, _) :: _ => none
  | (some name, d) :: es => (named? es).map ((name, d) :: ·)

/-- The value of a field in a record; `none` if the field occurs twice. -/
def fieldIn? (entries : List (String × Document)) (name : String) : Option (Option Document) :=
  match entries.filter fun e => e.1 = name with
  | [] => some none
  | [e] => some (some e.2)
  | _ => none

/-- The fields of a structure by place in a list. -/
def fieldsByPlace? (dialect : Dialect) : List FieldForm → List Document →
    Option (List (Option Document))
  | [], [] => some []
  | [], _ :: _ => if dialect.allowsSurplus then some [] else none
  | f :: fs, [] => if f.mayBeCut then (fieldsByPlace? dialect fs []).map (none :: ·) else none
  | _ :: fs, d :: ds => (fieldsByPlace? dialect fs ds).map (some d :: ·)

/-- The fields of a structure, one for each form. -/
def fields? (dialect : Dialect) (forms : List FieldForm) :
    Document → Option (List (Option Document))
  | .record entries =>
    (named? entries).bind fun entries => forms.mapM fun f => fieldIn? entries f.name
  | .list items => fieldsByPlace? dialect forms items
  -- A date is a record of parts that are no structure's fields.
  | .date => some (forms.map fun _ => none)
  | _ => none

/-- An integer of a range. -/
def integer? (range : Text.IntegerRange) : Document → Option Int
  | .number n => n.integer?.bind range.fit?
  | _ => none

/-- A 32-bit word. -/
def word? (d : Document) : Option UInt32 :=
  (d.integer? .unsigned32).map fun n => UInt32.ofNat n.toNat

/-- A number of 32 bits. -/
def single? : Document → Option Single
  | .number n => n.single?
  | _ => none

/-- A choice among names. -/
def choice? {α : Type} (dialect : Dialect) (ofName? : String → Option α) : Document → Option α
  | .text (some s) => ofName? s
  | .record [(some s, d)] => if dialect.saysNothing d then ofName? s else none
  | _ => none

/-- The items of a list, read one by one. -/
def listOf? {α : Type} (item? : Document → Option α) : Document → Option (List α)
  | .list items => items.mapM item?
  | _ => none

/-- A field that must be there. -/
def required? {α : Type} (read? : Document → Option α) (field : Option Document) : Option α :=
  field.bind read?

/-- A field with a value for when it is not there. -/
def orDefault? {α : Type} (read? : Document → Option α) (default : α) :
    Option Document → Option α
  | none => some default
  | some d => read? d

/-- A field that may be absent or null. -/
def nullable? {α : Type} (read? : Document → Option α) : Option Document → Option (Option α)
  | none | some .null => some none
  | some d => (read? d).map some

end Document

end Sensing
