import Sensing.Document.Numeral

/-!
# Documents

The values that a settings file can hold, whichever notation it is written in. A text is `none`
where it was written with escapes that stand for no character; such a text does no harm as long as
nobody asks for it. The entries of a record stay in order, and a name may occur twice.
-/

namespace Sensing

/-- A value in a document. -/
inductive Document where
  | null
  | boolean (b : Bool)
  | number (n : Numeral)
  | text (s : Option String)
  | list (items : List Document)
  | record (entries : List (Option String × Document))
  /-- A date, a time, or both. -/
  | date
  /-- A floating-point number without digits: an infinity or none at all. -/
  | unbounded

namespace Document

/-- A text without unpaired escapes. -/
def ofString (s : String) : Document := .text (some s)

/-- An integer. -/
def ofInt (n : Int) : Document :=
  .number ⟨n < 0, (Nat.toDigits 10 n.natAbs).map fun c => c.toNat - '0'.toNat, [], none⟩

/-- A record without repeated names. -/
def ofFields (fields : List (String × Document)) : Document :=
  .record (fields.map fun f => (some f.1, f.2))

end Document

end Sensing
