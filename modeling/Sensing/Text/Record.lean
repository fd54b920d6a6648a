/-!
# Diagnostic text of structured values

A structure is written as its name and its fields in braces, an optional value as `Some(…)` or
`None`, a list in brackets.
-/

namespace Sensing.Text

/-- A structure with at least one field. -/
def record (name : String) (fields : List (String × String)) : String :=
  name ++ " \x7b " ++ ", ".intercalate (fields.map fun f => f.1 ++ ": " ++ f.2) ++ " \x7d"

/-- An optional value. -/
def optional {α : Type} (show1 : α → String) : Option α → String
  | none => "None"
  | some a => "Some(" ++ show1 a ++ ")"

/-- A list of values. -/
def listing {α : Type} (show1 : α → String) (as : List α) : String :=
  "[" ++ ", ".intercalate (as.map show1) ++ "]"

end Sensing.Text
