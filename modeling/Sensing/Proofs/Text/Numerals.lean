import Mathlib.Data.Nat.Digits.Defs
import Sensing.Text.Integer

/-!
# What spells an integer

`Decimal` says which characters are decimal digits, most significant first, and `Spells` which ones
are an integer of a range: an optional sign, as far as the range has it, at least one digit, and
nothing else, with a value in the range.

Main result: `IntegerRange.read?_eq_some_iff`, the reader of integers accepts just that.
-/

namespace Sensing.Text

variable {c : Char} {cs : List Char} {d n : Nat} {ds : List Nat}

/-- The character of a decimal digit. -/
def digitChar (d : Nat) : Char := Char.ofNat (48 + d)

/-- Decimal digits, as numbers and as the characters for them. -/
structure Decimal (ds : List Nat) (cs : List Char) : Prop where
  digits : ∀ d ∈ ds, d < 10
  characters : cs = ds.map digitChar

/-- The number that decimal digits are, the most significant first. -/
def decimalValue (ds : List Nat) : Nat := Nat.ofDigits 10 ds.reverse

/-- A digit is read off its character, -/
theorem digit?_digitChar (h : d < 10) : digit? (digitChar d) = some d := by
  revert d
  decide

/-- and nothing else is read as a digit. -/
theorem digit?_eq_some_iff : digit? c = some d ↔ d < 10 ∧ c = digitChar d := by
  constructor
  · intro h
    unfold digit? at h
    split at h
    next between =>
      cases h
      simp only [Char.le_def, UInt32.le_iff_toNat_le] at between
      change 48 ≤ c.toNat ∧ c.toNat ≤ 57 at between
      change c.toNat - 48 < 10 ∧ c = Char.ofNat (48 + (c.toNat - 48))
      rw [Nat.add_sub_cancel' between.1, Char.ofNat_toNat]
      exact ⟨by omega, rfl⟩
    next => cases h
  · rintro ⟨h, rfl⟩
    exact digit?_digitChar h

/-- Digits are read from the left, each making what was read before ten times as much. -/
theorem digitsFrom_eq_some_iff (acc : Nat) : digitsFrom acc cs = some n ↔
    ∃ ds, Decimal ds cs ∧ n = ds.foldl (fun n d => n * 10 + d) acc := by
  -- Induction on the characters: the first digit is taken in before the others are read.
  induction cs generalizing acc with
  | nil =>
    constructor
    · intro h
      cases h
      exact ⟨[], ⟨by simp, rfl⟩, rfl⟩
    · rintro ⟨ds, ⟨-, characters⟩, rfl⟩
      obtain rfl : ds = [] := List.map_eq_nil_iff.1 characters.symm
      rfl
  | cons c cs ih =>
    unfold digitsFrom
    rw [Option.bind_eq_some_iff]
    constructor
    · rintro ⟨d, digit, rest⟩
      obtain ⟨small, rfl⟩ := digit?_eq_some_iff.1 digit
      obtain ⟨ds, ⟨digits, rfl⟩, rfl⟩ := (ih _).1 rest
      exact ⟨d :: ds, ⟨List.forall_mem_cons.2 ⟨small, digits⟩, rfl⟩, rfl⟩
    · rintro ⟨ds, ⟨digits, characters⟩, rfl⟩
      cases ds with
      | nil => cases characters
      | cons d ds =>
        obtain ⟨rfl, rfl⟩ := List.cons.inj characters
        obtain ⟨small, digits⟩ := List.forall_mem_cons.1 digits
        exact ⟨d, digit?_digitChar small, (ih _).2 ⟨ds, ⟨digits, rfl⟩, rfl⟩⟩

/-- Reading from the left comes to the number that the digits are. -/
theorem decimalValue_eq_foldl (ds : List Nat) :
    decimalValue ds = ds.foldl (fun n d => n * 10 + d) 0 := by
  unfold decimalValue
  rw [Nat.ofDigits_eq_foldr, List.foldr_reverse]
  congr 1
  funext n d
  simp only [Nat.cast_id]
  omega

/-- A natural number is read from some digits and nothing else. -/
theorem natural?_eq_some_iff : natural? cs = some n ↔
    ∃ ds, ds ≠ [] ∧ Decimal ds cs ∧ n = decimalValue ds := by
  have read (cs : List Char) : digitsFrom 0 cs = some n ↔
      ∃ ds, Decimal ds cs ∧ n = decimalValue ds := by
    simp only [digitsFrom_eq_some_iff, decimalValue_eq_foldl]
  cases cs with
  | nil =>
    refine ⟨fun h => (nomatch h), ?_⟩
    rintro ⟨ds, some, ⟨-, characters⟩, -⟩
    exact absurd (List.map_eq_nil_iff.1 characters.symm) some
  | cons c cs =>
    refine (read (c :: cs)).trans (exists_congr fun ds => ?_)
    refine ⟨fun h => And.intro ?_ h, fun h => h.2⟩
    rintro rfl
    exact nomatch h.1.characters

/-- A sign is no digit. -/
theorem not_decimal_sign (sign : c = '+' ∨ c = '-') : ¬ Decimal ds (c :: cs) := by
  rintro ⟨digits, characters⟩
  cases ds with
  | nil => cases characters
  | cons d ds =>
    obtain ⟨first, -⟩ := List.cons.inj characters
    have digit := digit?_digitChar (List.forall_mem_cons.1 digits).1
    rw [← first] at digit
    rcases sign with rfl | rfl <;> cases digit

namespace IntegerRange

variable {range : IntegerRange} {x y : Int}

/-- The range holds an integer. -/
def Holds (range : IntegerRange) (x : Int) : Prop := range.least ≤ x ∧ x ≤ range.greatest

/-- Characters spell an integer of the range. -/
inductive Spells (range : IntegerRange) : List Char → Int → Prop where
  | plain {ds : List Nat} {cs : List Char} (digits : Decimal ds cs) (some : ds ≠ [])
      (holds : range.Holds (decimalValue ds)) : Spells range cs (decimalValue ds)
  | plus {ds : List Nat} {cs : List Char} (digits : Decimal ds cs) (some : ds ≠ [])
      (holds : range.Holds (decimalValue ds)) : Spells range ('+' :: cs) (decimalValue ds)
  | minus {ds : List Nat} {cs : List Char} (signed : range.least < 0) (digits : Decimal ds cs)
      (some : ds ≠ []) (holds : range.Holds (-decimalValue ds)) :
      Spells range ('-' :: cs) (-decimalValue ds)

/-- What is spelled is in the range. -/
theorem Spells.holds (h : range.Spells cs x) : range.Holds x := by
  cases h <;> assumption

/-- An integer fits just if the range holds it. -/
theorem fit?_eq_some_iff : range.fit? x = some y ↔ range.Holds x ∧ y = x := by
  unfold fit? Holds
  split
  next inside => simp [inside, eq_comm]
  next outside => simp [outside]

/-- Digits whose value, with whatever sign, the range holds. -/
theorem natural?_fit?_eq_some_iff (signed : Nat → Int) :
    ((natural? cs).bind fun n => range.fit? (signed n)) = some x ↔
      ∃ ds, Decimal ds cs ∧ ds ≠ [] ∧ range.Holds (signed (decimalValue ds)) ∧
        x = signed (decimalValue ds) := by
  rw [Option.bind_eq_some_iff]
  constructor
  · rintro ⟨n, natural, fits⟩
    obtain ⟨ds, some, decimal, rfl⟩ := natural?_eq_some_iff.1 natural
    exact ⟨ds, decimal, some, fit?_eq_some_iff.1 fits⟩
  · rintro ⟨ds, decimal, some, fits⟩
    exact ⟨_, natural?_eq_some_iff.2 ⟨ds, some, decimal, rfl⟩, fit?_eq_some_iff.2 fits⟩

/-- What is read is what is spelled. -/
theorem read?_eq_some_iff : range.read? cs = some x ↔ range.Spells cs x := by
  constructor
  · intro h
    -- The first character decides whether there is a sign; a minus sign is one only where the range
    -- goes below zero.
    unfold read? at h
    split at h
    next =>
      obtain ⟨ds, decimal, some, holds, rfl⟩ := (natural?_fit?_eq_some_iff _).1 h
      exact .plus decimal some holds
    next =>
      split at h
      next signed =>
        obtain ⟨ds, decimal, some, holds, rfl⟩ := (natural?_fit?_eq_some_iff _).1 h
        exact .minus signed decimal some holds
      next => cases h
    next =>
      obtain ⟨ds, decimal, some, holds, rfl⟩ := (natural?_fit?_eq_some_iff _).1 h
      exact .plain decimal some holds
  · intro h
    cases h with
    | plus decimal some holds =>
      exact (natural?_fit?_eq_some_iff _).2 ⟨_, decimal, some, holds, rfl⟩
    | minus signed decimal some holds =>
      refine (if_pos signed).trans ?_
      exact (natural?_fit?_eq_some_iff _).2 ⟨_, decimal, some, holds, rfl⟩
    | plain decimal some holds =>
      unfold read?
      split
      next => exact absurd decimal (not_decimal_sign (.inl rfl))
      next => exact absurd decimal (not_decimal_sign (.inr rfl))
      next => exact (natural?_fit?_eq_some_iff _).2 ⟨_, decimal, some, holds, rfl⟩

end IntegerRange

end Sensing.Text
