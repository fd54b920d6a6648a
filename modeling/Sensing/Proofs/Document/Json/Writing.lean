import Mathlib.Data.List.Basic
import Sensing.Document.Json.Printer
import Sensing.Proofs.Document.Json.Reading

/-!
# Whatever is written is read back

A document has a JSON form if its numbers have digits as they have to be and its texts and names
have characters (`Writable`); there are no dates in JSON and no numbers without digits. Its compact
form spells it, so that it is read as the same document.

Main results: `read_render`, and `writable_ofInt`, integers have a JSON form.
-/

namespace Sensing

/-! ## Digits -/

namespace Numeral

/-- Digits are digits, and there are some where there have to be. -/
structure WellFormed (n : Numeral) : Prop where
  whole : Json.Canonical n.whole
  fraction : ∀ d ∈ n.fraction, d < 10
  power : ∀ p ∈ n.power, (∀ d ∈ p.digits, d < 10) ∧ p.digits ≠ []

/-- The digits of a number. -/
def digitsOf (n : Nat) : List Nat := (Nat.toDigits 10 n).map fun c => c.toNat - '0'.toNat

/-- A digit is read off its character. -/
theorem digit_digitChar {d : Nat} (small : d < 10) : d.digitChar.toNat - '0'.toNat = d := by
  revert d
  decide

/-- A number below ten is one digit. -/
theorem digitsOf_of_lt {n : Nat} (small : n < 10) : digitsOf n = [n] := by
  unfold digitsOf
  rw [Nat.toDigits_of_lt_base small, List.map_singleton, digit_digitChar small]

/-- A greater one ends in its last digit. -/
theorem digitsOf_of_le {n : Nat} (large : 10 ≤ n) :
    digitsOf n = digitsOf (n / 10) ++ [n % 10] := by
  unfold digitsOf
  rw [Nat.toDigits_of_base_le (by decide) large, List.map_append, List.map_singleton,
    digit_digitChar (Nat.mod_lt _ (by decide))]

/-- Every number has a digit. -/
theorem digitsOf_ne_nil (n : Nat) : digitsOf n ≠ [] := by
  unfold digitsOf
  rw [Ne, List.map_eq_nil_iff]
  exact Nat.toDigits_ne_nil

/-- The digits of a number are one digit, or come from those of a tenth of it. -/
theorem digitsOf_induction {motive : Nat → List Nat → Prop} (one : ∀ d < 10, motive d [d])
    (more : ∀ n, 10 ≤ n → motive (n / 10) (digitsOf (n / 10)) →
      motive n (digitsOf (n / 10) ++ [n % 10])) (n : Nat) : motive n (digitsOf n) := by
  induction n using Nat.strongRecOn with
  | ind n ih =>
    rcases Nat.lt_or_ge n 10 with small | large
    · rw [digitsOf_of_lt small]
      exact one n small
    · rw [digitsOf_of_le large]
      exact more n large (ih (n / 10) (by omega))

/-- The digits of a number spell it. -/
theorem spelled_digitsOf (n : Nat) : spelled (digitsOf n) = n := by
  induction n using digitsOf_induction with
  | one d small => exact Nat.zero_add d
  | more n large ih =>
    unfold spelled at ih ⊢
    rw [List.foldl_append, ih]
    exact Nat.div_add_mod n 10

/-- The digits of a number are digits. -/
theorem digitsOf_lt (n : Nat) : ∀ d ∈ digitsOf n, d < 10 := by
  induction n using digitsOf_induction with
  | one d small => exact List.forall_mem_singleton.2 small
  | more n large ih =>
    intro d mem
    rcases List.mem_append.1 mem with mem | mem
    · exact ih d mem
    · obtain rfl := List.mem_singleton.1 mem
      exact Nat.mod_lt _ (by decide)

/-- Only zero starts with a zero. -/
theorem digitsOf_head_zero (n : Nat) : (digitsOf n).head? = some 0 → n = 0 := by
  induction n using digitsOf_induction with
  | one d small => exact Option.some.inj
  | more n large ih =>
    intro zero
    rw [List.head?_append_of_ne_nil _ (digitsOf_ne_nil _)] at zero
    have none := ih zero
    omega

/-- So the digits of a number may stand before a point. -/
theorem canonical_digitsOf (n : Nat) : Json.Canonical (digitsOf n) where
  digits := digitsOf_lt n
  some := digitsOf_ne_nil n
  first zero := by
    obtain rfl := digitsOf_head_zero n zero
    rfl

end Numeral

namespace Json

/-! ## Documents with a JSON form -/

/-- A document has a JSON form. -/
inductive Writable : Document → Prop where
  | null : Writable .null
  | boolean (b : Bool) : Writable (.boolean b)
  | number {n : Numeral} (h : n.WellFormed) : Writable (.number n)
  | text (s : String) : Writable (.ofString s)
  | list {ds : List Document} (all : ∀ d ∈ ds, Writable d) : Writable (.list ds)
  | record {fields : List (String × Document)} (all : ∀ f ∈ fields, Writable f.2) :
    Writable (.ofFields fields)

/-- Integers have a JSON form. -/
theorem writable_ofInt (n : Int) : Writable (.ofInt n) :=
  .number ⟨Numeral.canonical_digitsOf n.natAbs, nofun, nofun⟩

/-! ## What is written spells the document -/

/-- A control character is written by its number. -/
theorem hex4?_hexChar {n : Nat} (control : n < 32) :
    hex4? '0' '0' (hexChar (n / 16)) (hexChar (n % 16)) = some n := by
  revert n
  decide

/-- Whatever characters are escaped spell pieces that are decoded as those characters. -/
theorem exists_pieces_escape (cs : List Char) :
    ∃ ps, Chars ps (cs.flatMap escape) ∧ decode ps = some cs := by
  induction cs with
  | nil => exact ⟨[], .nil, rfl⟩
  | cons c cs ih =>
    obtain ⟨ps, chars, decodes⟩ := ih
    have decodesChar : decode (.char c :: ps) = some (c :: cs) := by
      rw [decode, decodes]
      rfl
    rw [List.flatMap_cons]
    unfold escape
    split
    case h_8 quote backslash _ _ _ _ _ =>
      split
      next control =>
        refine ⟨.unit c.toNat :: ps, .unit (hex4?_hexChar control) chars, ?_⟩
        unfold decode
        rw [if_pos (.inl (by omega)), decodes, Char.ofNat_toNat]
        rfl
      next visible => exact ⟨_, .plain visible quote backslash chars, decodesChar⟩
    all_goals exact ⟨_, .escape rfl chars, decodesChar⟩

/-- A text is spelled by its quotation. -/
theorem quoted_quote (s : String) : Quoted (some s) (quote s) := by
  obtain ⟨ps, chars, decodes⟩ := exists_pieces_escape s.toList
  have quoted := Quoted.mk chars
  rw [decodes, Option.map_some, String.ofList_toList] at quoted
  exact quoted

theorem signed_minus (negative : Bool) : Signed negative (if negative then ['-'] else []) := by
  cases negative with
  | false => exact .none
  | true => exact .minus

/-- A well-formed number is spelled by what is written of it. -/
theorem spells_writeNumeral {n : Numeral} (h : n.WellFormed) :
    Spells (.number n) (writeNumeral n) := by
  obtain ⟨negative, whole, fraction, power⟩ := n
  have isWhole : Whole whole (digitChars whole) := ⟨h.whole, rfl⟩
  have isFraction :
      Fraction fraction (if fraction = [] then [] else '.' :: digitChars fraction) := by
    split
    next none =>
      rw [none]
      exact .none
    next some => exact .some ⟨h.fraction, rfl⟩ some
  -- The sign is written first but is not part of the number's own grammar.
  have written {cs : List Char} (isPower : Power power cs) :
      Spells (.number ⟨negative, whole, fraction, power⟩) ((if negative then ['-'] else []) ++
        (digitChars whole ++
          ((if fraction = [] then [] else '.' :: digitChars fraction) ++ cs))) := by
    cases negative with
    | false => exact (Spells.number (.mk isWhole isFraction isPower) :)
    | true => exact (Spells.negative (.mk isWhole isFraction isPower) :)
  unfold writeNumeral
  rw [List.append_assoc, List.append_assoc]
  cases power with
  | none => exact written .none
  | some p =>
    obtain ⟨digits, some⟩ := h.power p rfl
    exact written (.some (.inl rfl) (signed_minus p.negative) ⟨digits, rfl⟩ some)

/-- Values with commas between them are items. -/
theorem items_write {ds : List Document} (some : ds ≠ []) (all : ∀ d ∈ ds, Spells d (write d)) :
    Items ds (writeItems ds) := by
  induction ds with
  | nil => exact absurd rfl some
  | cons d ds ih =>
    obtain ⟨first, others⟩ := List.forall_mem_cons.1 all
    cases ds with
    | nil => exact .one first
    | cons d' ds => exact .more first blank_nil blank_nil (ih nofun others)

/-- Names and values with commas between them are entries. -/
theorem entries_write {fields : List (String × Document)} (some : fields ≠ [])
    (all : ∀ f ∈ fields, Spells f.2 (write f.2)) :
    Entries (fields.map fun f => (.some f.1, f.2))
      (writeEntries (fields.map fun f => (.some f.1, f.2))) := by
  induction fields with
  | nil => exact absurd rfl some
  | cons f fields ih =>
    obtain ⟨first, others⟩ := List.forall_mem_cons.1 all
    cases fields with
    | nil => exact .one (quoted_quote f.1) blank_nil blank_nil first
    | cons f' fields =>
      have more := Entries.more (quoted_quote f.1) blank_nil blank_nil first blank_nil blank_nil
        (ih nofun others)
      change Entries _ ((quote f.1 ++ ':' :: write f.2) ++ ',' :: _)
      rw [List.append_assoc]
      exact more

/-- The compact form of a document spells it. -/
theorem spells_write {d : Document} (h : Writable d) : Spells d (write d) := by
  induction h with
  | null => exact .null
  | boolean b => cases b with
    | true => exact .true
    | false => exact .false
  | number h => exact spells_writeNumeral h
  | text s => exact .text (quoted_quote s)
  | @list ds _ ih =>
    cases ds with
    | nil => exact .noItems blank_nil
    | cons d ds =>
      have items := items_write (List.cons_ne_nil d ds) ih
      exact .list blank_nil items blank_nil
  | @record fields _ ih =>
    cases fields with
    | nil => exact .noEntries blank_nil
    | cons f fields =>
      have entries := entries_write (List.cons_ne_nil f fields) ih
      exact .record blank_nil entries blank_nil

/-- What is written says the document. -/
theorem says_render {d : Document} (h : Writable d) : Says (render d) d := by
  refine ⟨[], write d, [], blank_nil, spells_write h, blank_nil, ?_⟩
  unfold render
  rw [String.toList_ofList, List.append_nil, List.nil_append]

/-- What is written is read back. -/
theorem read_render {d : Document} (h : Writable d) : read (render d).toList = some d :=
  (says_render h).read_eq

end Json

end Sensing
