import Sensing.Document.Json.Reader
import Sensing.Proofs.Text.Numerals

/-!
# JSON texts and what they say

`Spells` and `Says` tell which texts are a JSON value, and which value it is: with blanks between
all parts, any escapes in texts, any form of numbers and any order of entries. They say nothing of
how a text is read; that a reader reads just so is proved beside them.

Texts in quotation marks are spelled in two steps, as pieces and as characters, since two escaped
units may be one character and a unit without its partner none.
-/

namespace Sensing.Json

/-! ## Blanks -/

/-- Nothing but blanks. -/
def Blank (cs : List Char) : Prop := ∀ c ∈ cs, isBlank c = true

theorem blank_nil : Blank [] := nofun

theorem blank_singleton {c : Char} (h : isBlank c = true) : Blank [c] :=
  List.forall_mem_singleton.2 h

/-! ## Texts -/

/-- Characters that spell the pieces of a text. -/
inductive Chars : List Piece → List Char → Prop where
  | nil : Chars [] []
  | plain {c : Char} {ps : List Piece} {cs : List Char} (visible : ¬ c.toNat < 0x20)
      (quote : c ≠ '"') (backslash : c ≠ '\\') (rest : Chars ps cs) :
      Chars (.char c :: ps) (c :: cs)
  | escape {e c : Char} {ps : List Piece} {cs : List Char} (letter : escaped? e = some c)
      (rest : Chars ps cs) : Chars (.char c :: ps) ('\\' :: e :: cs)
  | unit {a b c d : Char} {n : Nat} {ps : List Piece} {cs : List Char}
      (hex : hex4? a b c d = some n) (rest : Chars ps cs) :
      Chars (.unit n :: ps) ('\\' :: 'u' :: a :: b :: c :: d :: cs)

/-- A text in quotation marks; one with an unpaired unit has no characters. -/
inductive Quoted : Option String → List Char → Prop where
  | mk {ps : List Piece} {cs : List Char} (chars : Chars ps cs) :
    Quoted ((decode ps).map String.ofList) ('"' :: cs ++ ['"'])

/-! ## Numbers -/

/-- Digits that may stand before a point: one zero, or digits that do not start with one. -/
structure Canonical (ds : List Nat) : Prop where
  digits : ∀ d ∈ ds, d < 10
  some : ds ≠ []
  first : ds.head? = .some 0 → ds = [0]

/-- Digits before the point. -/
structure Whole (ds : List Nat) (cs : List Char) : Prop where
  canonical : Canonical ds
  characters : cs = ds.map Text.digitChar

/-- A point and digits after it, or nothing. -/
inductive Fraction : List Nat → List Char → Prop where
  | none : Fraction [] []
  | some {ds : List Nat} {cs : List Char} (decimal : Text.Decimal ds cs) (some : ds ≠ []) :
    Fraction ds ('.' :: cs)

/-- A sign, or nothing. -/
inductive Signed : Bool → List Char → Prop where
  | none : Signed false []
  | plus : Signed false ['+']
  | minus : Signed true ['-']

/-- A power of ten, or nothing. -/
inductive Power : Option PowerOfTen → List Char → Prop where
  | none : Power none []
  | some {e : Char} {negative : Bool} {ds : List Nat} {cs cs' : List Char}
      (letter : e = 'e' ∨ e = 'E') (sign : Signed negative cs) (decimal : Text.Decimal ds cs')
      (some : ds ≠ []) : Power (.some ⟨negative, ds⟩) (e :: (cs ++ cs'))

/-- A number whose sign has been read. -/
inductive Unsigned (negative : Bool) : Numeral → List Char → Prop where
  | mk {whole fraction : List Nat} {power : Option PowerOfTen} {cs cs' cs'' : List Char}
      (isWhole : Whole whole cs) (isFraction : Fraction fraction cs') (isPower : Power power cs'') :
      Unsigned negative ⟨negative, whole, fraction, power⟩ (cs ++ (cs' ++ cs''))

/-! ## Values -/

mutual

/-- A text is a value. -/
inductive Spells : Document → List Char → Prop where
  | null : Spells .null ['n', 'u', 'l', 'l']
  | true : Spells (.boolean true) ['t', 'r', 'u', 'e']
  | false : Spells (.boolean false) ['f', 'a', 'l', 's', 'e']
  | number {n : Numeral} {cs : List Char} (h : Unsigned false n cs) : Spells (.number n) cs
  | negative {n : Numeral} {cs : List Char} (h : Unsigned true n cs) :
    Spells (.number n) ('-' :: cs)
  | text {s : Option String} {cs : List Char} (h : Quoted s cs) : Spells (.text s) cs
  | noItems {b : List Char} (blank : Blank b) : Spells (.list []) ('[' :: (b ++ [']']))
  | list {ds : List Document} {b cs b' : List Char} (before : Blank b) (h : Items ds cs)
      (after : Blank b') : Spells (.list ds) ('[' :: (b ++ (cs ++ (b' ++ [']']))))
  | noEntries {b : List Char} (blank : Blank b) :
    Spells (.record []) ('\x7b' :: (b ++ ['\x7d']))
  | record {es : List (Option String × Document)} {b cs b' : List Char} (before : Blank b)
      (h : Entries es cs) (after : Blank b') :
      Spells (.record es) ('\x7b' :: (b ++ (cs ++ (b' ++ ['\x7d']))))

/-- A text is values with commas between them. -/
inductive Items : List Document → List Char → Prop where
  | one {d : Document} {cs : List Char} (h : Spells d cs) : Items [d] cs
  | more {d : Document} {ds : List Document} {cs b b' cs' : List Char} (h : Spells d cs)
      (before : Blank b) (after : Blank b') (rest : Items ds cs') :
      Items (d :: ds) (cs ++ (b ++ ',' :: (b' ++ cs')))

/-- A text is entries with commas between them. -/
inductive Entries : List (Option String × Document) → List Char → Prop where
  | one {name : Option String} {d : Document} {cs b b' cs' : List Char} (hasName : Quoted name cs)
      (before : Blank b) (after : Blank b') (h : Spells d cs') :
      Entries [(name, d)] (cs ++ (b ++ ':' :: (b' ++ cs')))
  | more {name : Option String} {d : Document} {es : List (Option String × Document)}
      {cs b b' cs' a a' cs'' : List Char} (hasName : Quoted name cs)
      (before : Blank b) (after : Blank b') (h : Spells d cs') (beforeComma : Blank a)
      (afterComma : Blank a') (rest : Entries es cs'') :
      Entries ((name, d) :: es)
        (cs ++ (b ++ ':' :: (b' ++ (cs' ++ (a ++ ',' :: (a' ++ cs''))))))

end

/-- A text spells a document, with blanks around it or none. -/
def Says (text : String) (d : Document) : Prop :=
  ∃ before cs after, Blank before ∧ Spells d cs ∧ Blank after ∧
    text.toList = before ++ (cs ++ after)

end Sensing.Json
