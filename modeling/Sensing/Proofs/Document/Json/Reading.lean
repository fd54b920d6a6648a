import Mathlib.Tactic.IntervalCases
import Sensing.Proofs.Document.Json.Grammar

/-!
# Whatever spells a document is read

A reader takes a value from the front of a longer text. It stops at the end of the value wherever
what comes next cannot continue a number (`Ends`); commas, brackets and blanks cannot. And it has
enough fuel if it has more than the value has characters (`Reads`).

Main result: `Says.read_eq`, every text that spells a document is read as that document.
-/

namespace Sensing.Json

open Text (digit? digitChar)

variable {rest : List Char}

/-! ## Blanks -/

/-- Blanks are skipped up to the first other character. -/
theorem skipBlank_append {b cs : List Char} {c : Char} (h : Blank b) (visible : isBlank c = false) :
    skipBlank (b ++ c :: cs) = c :: cs := by
  unfold skipBlank
  rw [List.dropWhile_append_of_pos h, List.dropWhile_cons_of_neg (Bool.eq_false_iff.1 visible)]

/-- Of nothing but blanks nothing is left. -/
theorem skipBlank_blank {b : List Char} (h : Blank b) : skipBlank b = [] := by
  unfold skipBlank
  rw [← List.append_nil b, List.dropWhile_append_of_pos h]
  rfl

/-! ## Texts -/

/-- Characters are read as the pieces that they spell, up to the quotation mark. -/
theorem pieces_of_chars {ps : List Piece} {cs : List Char} (h : Chars ps cs) (rest : List Char) :
    pieces (cs ++ '"' :: rest) = some (ps, rest) := by
  induction h with
  | nil => rfl
  | @plain c ps cs visible quote backslash _ ih =>
    rw [List.cons_append]
    -- A plain character is none of those that the reader looks for first.
    unfold pieces
    split
    next h => cases h
    next h => exact absurd (List.cons.inj h).1 quote
    next h => exact absurd (List.cons.inj h).1 backslash
    next h => exact absurd (List.cons.inj h).1 backslash
    next h =>
      obtain ⟨rfl, rfl⟩ := List.cons.inj h
      rw [if_neg visible, ih]
      rfl
  | @escape e c ps cs letter _ ih =>
    -- A letter that stands for a character is not the one that begins a unit.
    have other : e ≠ 'u' := by
      rintro rfl
      cases letter
    rw [List.cons_append, List.cons_append]
    unfold pieces
    split
    next h => cases h
    next h => cases h
    next h => exact absurd (List.cons.inj (List.cons.inj h).2).1 other
    next h =>
      cases h
      rw [letter, ih]
      rfl
    next lone h =>
      obtain ⟨first, others⟩ := List.cons.inj h
      exact (lone _ _ first.symm others.symm).elim
  | unit hex _ ih =>
    simp only [List.cons_append, pieces, hex, ih]
    rfl

/-- A text in quotation marks is read up to the closing one. -/
theorem text_of_quoted {s : Option String} {cs : List Char} (h : Quoted s cs) (rest : List Char) :
    ∃ inner, cs ++ rest = '"' :: inner ∧ text inner = some (s, rest) := by
  obtain ⟨chars⟩ := h
  refine ⟨_ ++ '"' :: rest, by rw [List.append_assoc]; rfl, ?_⟩
  unfold text
  rw [pieces_of_chars chars]
  rfl

/-! ## Numbers -/

/-- What comes next does not continue digits. -/
def EndsDigits (rest : List Char) : Prop := ∀ c ∈ rest.head?, digit? c = none

/-- Nor is it a point. -/
def EndsFraction (rest : List Char) : Prop := ∀ c ∈ rest.head?, digit? c = none ∧ c ≠ '.'

/-- What comes next does not continue a number. -/
def Ends (rest : List Char) : Prop :=
  ∀ c ∈ rest.head?, digit? c = none ∧ c ≠ '.' ∧ c ≠ 'e' ∧ c ≠ 'E'

/-- What ends a fraction ends digits, -/
theorem EndsFraction.endsDigits (h : EndsFraction rest) : EndsDigits rest :=
  fun c first => (h c first).1

/-- and what ends a number ends a fraction. -/
theorem Ends.endsFraction (h : Ends rest) : EndsFraction rest :=
  fun c first => ⟨(h c first).1, (h c first).2.1⟩

/-- A number ends before blanks and whatever else ends it. -/
theorem Ends.append {b : List Char} (h : Blank b) (ends : Ends rest) : Ends (b ++ rest) := by
  cases b with
  | nil => exact ends
  | cons c b =>
    intro _ first
    cases first
    have blank := h c List.mem_cons_self
    unfold isBlank at blank
    simp only [Bool.or_eq_true, decide_eq_true_eq] at blank
    rcases blank with ((rfl | rfl) | rfl) | rfl <;> decide

/-- Digits are read to their end. -/
theorem digits_append {ds : List Nat} {cs : List Char} (h : Text.Decimal ds cs)
    (ends : EndsDigits rest) : digits (cs ++ rest) = (ds, rest) := by
  obtain ⟨small, rfl⟩ := h
  induction ds with
  | nil =>
    cases rest with
    | nil => rfl
    | cons c rest =>
      change digits (c :: rest) = _
      unfold digits
      rw [ends c rfl]
  | cons d ds ih =>
    obtain ⟨smallFirst, small⟩ := List.forall_mem_cons.1 small
    rw [List.map_cons, List.cons_append, digits, Text.digit?_digitChar smallFirst]
    dsimp only
    rw [ih small]

/-- Digits before the point are digits. -/
theorem Whole.decimal {ds : List Nat} {cs : List Char} (h : Whole ds cs) : Text.Decimal ds cs :=
  ⟨h.canonical.digits, h.characters⟩

/-- They are read to their end, one zero alone or digits that do not start with one. -/
theorem wholePart_append {ds : List Nat} {cs : List Char} (h : Whole ds cs)
    (ends : EndsDigits rest) : wholePart (cs ++ rest) = some (ds, rest) := by
  unfold wholePart
  rw [digits_append h.decimal ends]
  split
  next none => exact absurd (Prod.mk.inj none).1 h.canonical.some
  next longer =>
    obtain ⟨rfl, -⟩ := Prod.mk.inj longer
    cases h.canonical.first rfl
  next same =>
    cases same
    rfl

/-- A point and the digits after it are read, or nothing. -/
theorem fractionPart_append {ds : List Nat} {cs : List Char} (h : Fraction ds cs)
    (ends : EndsFraction rest) : fractionPart (cs ++ rest) = some (ds, rest) := by
  cases h with
  | none =>
    change fractionPart rest = _
    unfold fractionPart
    split
    next => exact absurd rfl (ends _ rfl).2
    next => rfl
  | some decimal some =>
    rw [List.cons_append, fractionPart, digits_append decimal ends.endsDigits]
    split
    next none => exact absurd (Prod.mk.inj none).1 some
    next same =>
      cases same
      rfl

/-- Where a fraction follows, or none, the digits before it end. -/
theorem endsDigits_fraction {ds : List Nat} {cs : List Char} (h : Fraction ds cs)
    (ends : EndsDigits rest) : EndsDigits (cs ++ rest) := by
  cases h with
  | none => exact ends
  | some =>
    rintro _ ⟨⟩
    rfl

/-- A sign is read before digits, or none. -/
theorem sign_append {negative : Bool} {ds : List Nat} {cs cs' : List Char}
    (h : Signed negative cs) (decimal : Text.Decimal ds cs') (some : ds ≠ []) :
    sign (cs ++ (cs' ++ rest)) = (negative, cs' ++ rest) := by
  cases h with
  | plus => rfl
  | minus => rfl
  | none =>
    -- Without a sign comes a digit, and that is no sign.
    cases cs' with
    | nil => exact absurd (List.map_eq_nil_iff.1 decimal.characters.symm) some
    | cons c cs' =>
      change sign (c :: (cs' ++ rest)) = _
      unfold sign
      split
      next first => exact absurd decimal (Text.not_decimal_sign (.inr (List.cons.inj first).1))
      next first => exact absurd decimal (Text.not_decimal_sign (.inl (List.cons.inj first).1))
      next => rfl

/-- A power of ten is read, or none. -/
theorem powerPart_append {power : Option PowerOfTen} {cs : List Char} (h : Power power cs)
    (ends : Ends rest) : powerPart (cs ++ rest) = some (power, rest) := by
  cases h with
  | none =>
    cases rest with
    | nil => rfl
    | cons c rest => exact if_neg (not_or.2 (ends c rfl).2.2)
  | some letter sign decimal some =>
    rw [List.cons_append, List.append_assoc, powerPart, if_pos letter,
      sign_append sign decimal some]
    dsimp only
    rw [digits_append decimal ends.endsFraction.endsDigits]
    split
    next none => exact absurd (Prod.mk.inj none).1 some
    next same =>
      cases same
      rfl

/-- Where a power follows, or none, a fraction ends. -/
theorem endsFraction_power {power : Option PowerOfTen} {cs : List Char} (h : Power power cs)
    (ends : Ends rest) : EndsFraction (cs ++ rest) := by
  cases h with
  | none => exact ends.endsFraction
  | some letter =>
    rintro _ ⟨⟩
    rcases letter with rfl | rfl <;> decide

/-- A number is read to its end, part by part. -/
theorem numeral_append {negative : Bool} {n : Numeral} {cs : List Char}
    (h : Unsigned negative n cs) (ends : Ends rest) :
    numeral negative (cs ++ rest) = some (n, rest) := by
  obtain ⟨whole, fraction, power⟩ := h
  have endsFraction := endsFraction_power power ends
  rw [List.append_assoc, List.append_assoc]
  unfold numeral
  rw [wholePart_append whole (endsDigits_fraction fraction endsFraction.endsDigits),
    Option.bind_eq_bind, Option.bind_some]
  dsimp only
  rw [fractionPart_append fraction endsFraction, Option.bind_eq_bind, Option.bind_some]
  dsimp only
  rw [powerPart_append power ends]
  rfl

/-! ## Values -/

/-- How a value starts: with no blank, and not as the end of a list. -/
def Starts (cs : List Char) : Prop := ∃ c ∈ cs.head?, isBlank c = false ∧ c ≠ ']'

/-- A digit starts a value. -/
theorem digitChar_starts {d : Nat} (small : d < 10) :
    isBlank (digitChar d) = false ∧ digitChar d ≠ ']' := by
  revert d
  decide

/-- Digits start with a digit, -/
theorem exists_cons_of_decimal {ds : List Nat} {cs : List Char} (h : Text.Decimal ds cs)
    (some : ds ≠ []) : ∃ d < 10, ∃ cs', cs = digitChar d :: cs' := by
  obtain ⟨small, rfl⟩ := h
  cases ds with
  | nil => exact absurd rfl some
  | cons d ds => exact ⟨d, (List.forall_mem_cons.1 small).1, _, rfl⟩

/-- and so does a number without a sign. -/
theorem Unsigned.exists_cons {negative : Bool} {n : Numeral} {cs : List Char}
    (h : Unsigned negative n cs) : ∃ d < 10, ∃ cs', cs = digitChar d :: cs' := by
  obtain ⟨whole⟩ := h
  obtain ⟨d, small, cs', rfl⟩ := exists_cons_of_decimal whole.decimal whole.canonical.some
  exact ⟨d, small, _, rfl⟩

/-- No value starts with a blank or closes a list. -/
theorem Spells.starts {d : Document} {cs : List Char} (h : Spells d cs) : Starts cs := by
  cases h with
  | number h =>
    obtain ⟨d, small, cs', rfl⟩ := h.exists_cons
    exact ⟨_, rfl, digitChar_starts small⟩
  | text h =>
    obtain ⟨chars⟩ := h
    exact ⟨_, rfl, by decide⟩
  | _ => exact ⟨_, rfl, by decide⟩

theorem Starts.append {cs : List Char} (h : Starts cs) (rest : List Char) :
    Starts (cs ++ rest) := by
  obtain ⟨c, first, visible⟩ := h
  exact ⟨c, by rw [List.head?_append, first]; rfl, visible⟩

/-- Items start as the first of them does. -/
theorem Items.starts {ds : List Document} {cs : List Char} (h : Items ds cs) : Starts cs := by
  cases h with
  | one h => exact h.starts
  | more h => exact h.starts.append _

/-- An entry starts with the quotation mark of its name. -/
theorem Entries.exists_cons {es : List (Option String × Document)} {cs : List Char}
    (h : Entries es cs) : ∃ cs', cs = '"' :: cs' := by
  cases h with
  | one hasName =>
    obtain ⟨⟩ := hasName
    exact ⟨_, rfl⟩
  | more hasName =>
    obtain ⟨⟩ := hasName
    exact ⟨_, rfl⟩

theorem Entries.starts {es : List (Option String × Document)} {cs : List Char}
    (h : Entries es cs) : Starts cs := by
  obtain ⟨cs', rfl⟩ := h.exists_cons
  exact ⟨_, rfl, by decide⟩

/-- Blanks before a value are skipped, and no more. -/
theorem skipBlank_of_starts {b cs : List Char} (h : Blank b) (starts : Starts cs) :
    skipBlank (b ++ cs) = cs := by
  obtain ⟨c, first, visible, -⟩ := starts
  obtain ⟨cs', rfl⟩ : ∃ cs', cs = c :: cs' := by
    cases cs with
    | nil => cases first
    | cons _ cs' => exact ⟨cs', by cases first; rfl⟩
  exact skipBlank_append h visible

/-- A digit starts a number without a sign. -/
theorem value_of_digit (fuel : Nat) {d : Nat} (small : d < 10) (cs : List Char) :
    value (fuel + 1) (digitChar d :: cs) =
      (numeral false (digitChar d :: cs)).map fun (n, cs) => (.number n, cs) := by
  interval_cases d <;> rfl

-- How the readers of lists and records put together what they read.
section Parts

variable {fuel : Nat} {d : Document} {ds : List Document} {name : Option String}
  {es : List (Option String × Document)} {cs afterName afterColon afterValue next : List Char}

/-- One item, and the bracket that closes the list. -/
theorem items_one (first : value fuel cs = some (d, afterValue))
    (close : skipBlank afterValue = ']' :: rest) : items (fuel + 1) cs = some ([d], rest) := by
  simp [items, first, close]

/-- One item, a comma and all others. -/
theorem items_more (first : value fuel cs = some (d, afterValue))
    (comma : skipBlank afterValue = ',' :: next)
    (others : items fuel (skipBlank next) = some (ds, rest)) :
    items (fuel + 1) cs = some (d :: ds, rest) := by
  simp [items, first, comma, others]

/-- One entry, and the brace that closes the record. -/
theorem entries_one (title : text cs = some (name, afterName))
    (colon : skipBlank afterName = ':' :: afterColon)
    (first : value fuel (skipBlank afterColon) = some (d, afterValue))
    (close : skipBlank afterValue = '\x7d' :: rest) :
    entries (fuel + 1) ('"' :: cs) = some ([(name, d)], rest) := by
  simp [entries, title, colon, first, close]

/-- One entry, a comma and all others. -/
theorem entries_more (title : text cs = some (name, afterName))
    (colon : skipBlank afterName = ':' :: afterColon)
    (first : value fuel (skipBlank afterColon) = some (d, afterValue))
    (comma : skipBlank afterValue = ',' :: next)
    (others : entries fuel (skipBlank next) = some (es, rest)) :
    entries (fuel + 1) ('"' :: cs) = some ((name, d) :: es, rest) := by
  simp [entries, title, colon, first, comma, others]

end Parts

/-- With as much fuel everything is read to its end. -/
structure Reads (fuel : Nat) : Prop where
  value {d : Document} {cs : List Char} (h : Spells d cs) (enough : cs.length < fuel)
    {rest : List Char} (ends : Ends rest) : value fuel (cs ++ rest) = some (d, rest)
  -- One item alone has as many characters as all items, so they need one unit of fuel more.
  items {ds : List Document} {cs : List Char} (h : Items ds cs) (enough : cs.length + 1 < fuel)
    {b : List Char} (blank : Blank b) (rest : List Char) :
    items fuel (cs ++ (b ++ ']' :: rest)) = some (ds, rest)
  entries {es : List (Option String × Document)} {cs : List Char} (h : Entries es cs)
    (enough : cs.length < fuel) {b : List Char} (blank : Blank b) (rest : List Char) :
    entries fuel (cs ++ (b ++ '\x7d' :: rest)) = some (es, rest)

/-- A comma, a closing bracket or a closing brace ends a number. -/
theorem ends_cons {c : Char} (h : c = ',' ∨ c = ']' ∨ c = '\x7d') (rest : List Char) :
    Ends (c :: rest) := by
  rintro _ ⟨⟩
  rcases h with rfl | rfl | rfl <;> decide

namespace Reads

variable {fuel : Nat}

/-- With one unit of fuel more a value is read whose parts can be read. -/
theorem value_succ (ih : Reads fuel) {d : Document} {cs : List Char} (h : Spells d cs)
    (enough : cs.length < fuel + 1) (ends : Ends rest) :
    Json.value (fuel + 1) (cs ++ rest) = some (d, rest) := by
  cases h with
  | null => rfl
  | true => rfl
  | false => rfl
  | number h =>
    obtain ⟨d, small, cs', rfl⟩ := h.exists_cons
    rw [List.cons_append, value_of_digit fuel small, ← List.cons_append, numeral_append h ends]
    rfl
  | negative h =>
    change (numeral _ (_ ++ rest)).map _ = _
    rw [numeral_append h ends]
    rfl
  | text h =>
    obtain ⟨inner, split, read⟩ := text_of_quoted h rest
    rw [split]
    change (Json.text inner).map _ = _
    rw [read]
    rfl
  | noItems blank =>
    rw [List.cons_append, Json.value, List.append_assoc, List.singleton_append,
      skipBlank_append blank (by decide)]
    rfl
  | @list ds b cs b' before h after =>
    have length : cs.length + 1 < fuel := by
      simp only [List.length_cons, List.length_append] at enough
      omega
    have read := ih.items h length after rest
    -- The first item does not close the list, so the reader does not take it for an empty one.
    obtain ⟨c, first, -, open_⟩ := h.starts.append (b' ++ ']' :: rest)
    rw [List.cons_append, Json.value]
    simp only [List.append_assoc, List.singleton_append]
    rw [skipBlank_of_starts before (h.starts.append _)]
    split
    next closed =>
      rw [closed] at first
      cases first
      exact absurd rfl open_
    next =>
      rw [read]
      rfl
  | noEntries blank =>
    rw [List.cons_append, Json.value, List.append_assoc, List.singleton_append,
      skipBlank_append blank (by decide)]
    rfl
  | @record es b cs b' before h after =>
    have length : cs.length < fuel := by
      simp only [List.length_cons, List.length_append] at enough
      omega
    have read := ih.entries h length after rest
    obtain ⟨cs', rfl⟩ := h.exists_cons
    rw [List.cons_append, Json.value]
    simp only [List.append_assoc, List.cons_append, List.nil_append] at read ⊢
    rw [skipBlank_append before (by decide)]
    change (Json.entries fuel ('"' :: _)).map _ = _
    rw [read]
    rfl

/-- The same for items, -/
theorem items_succ (ih : Reads fuel) {ds : List Document} {cs : List Char} (h : Items ds cs)
    (enough : cs.length + 1 < fuel + 1) {b : List Char} (blank : Blank b) (rest : List Char) :
    Json.items (fuel + 1) (cs ++ (b ++ ']' :: rest)) = some (ds, rest) := by
  cases h with
  | one h =>
    exact items_one (ih.value h (by omega) ((ends_cons (by decide) rest).append blank))
      (skipBlank_append blank (by decide))
  | @more d ds cs a a' cs' h before after others =>
    have length : cs.length < fuel ∧ cs'.length + 1 < fuel := by
      simp only [List.length_cons, List.length_append] at enough
      omega
    simp only [List.append_assoc, List.cons_append]
    refine items_more (ih.value h length.1 ((ends_cons (by decide) _).append before))
      (skipBlank_append before (by decide)) ?_
    rw [skipBlank_of_starts after (others.starts.append _)]
    exact ih.items others length.2 blank rest

/-- and for entries. -/
theorem entries_succ (ih : Reads fuel) {es : List (Option String × Document)} {cs : List Char}
    (h : Entries es cs) (enough : cs.length < fuel + 1) {b : List Char} (blank : Blank b)
    (rest : List Char) :
    Json.entries (fuel + 1) (cs ++ (b ++ '\x7d' :: rest)) = some (es, rest) := by
  cases h with
  | @one name d cs a a' cs' hasName before after h =>
    -- What is left to be read gets shorter, so the fuel is enough for it.
    have length : cs'.length < fuel := by
      simp only [List.length_cons, List.length_append] at enough
      omega
    simp only [List.append_assoc, List.cons_append]
    obtain ⟨inner, split, title⟩ :=
      text_of_quoted hasName (a ++ ':' :: (a' ++ (cs' ++ (b ++ '\x7d' :: rest))))
    rw [split]
    refine entries_one title (skipBlank_append before (by decide)) ?_
      (skipBlank_append blank (by decide))
    rw [skipBlank_of_starts after (h.starts.append _)]
    exact ih.value h length ((ends_cons (by decide) _).append blank)
  | @more name d es cs a a' cs' c c' cs'' hasName before after h beforeComma afterComma others =>
    have length : cs'.length < fuel ∧ cs''.length < fuel := by
      simp only [List.length_cons, List.length_append] at enough
      omega
    simp only [List.append_assoc, List.cons_append]
    obtain ⟨inner, split, title⟩ := text_of_quoted hasName
      (a ++ ':' :: (a' ++ (cs' ++ (c ++ ',' :: (c' ++ (cs'' ++ (b ++ '\x7d' :: rest)))))))
    -- A value ends where a comma or the closing brace follows, with blanks in between.
    have first := ih.value h length.1
      ((ends_cons (.inl rfl) (c' ++ (cs'' ++ (b ++ '\x7d' :: rest)))).append beforeComma)
    rw [← skipBlank_of_starts after (h.starts.append _)] at first
    rw [split]
    refine entries_more title (skipBlank_append before (by decide)) first
      (skipBlank_append beforeComma (by decide)) ?_
    rw [skipBlank_of_starts afterComma (others.starts.append _)]
    exact ih.entries others length.2 blank rest

end Reads

-- Whatever a value holds is shorter than the value, so that one unit of fuel less is enough for it.
/-- By induction on the fuel, everything that spells something is read. -/
theorem reads (fuel : Nat) : Reads fuel := by
  induction fuel with
  | zero => exact ⟨fun _ none => absurd none (Nat.not_lt_zero _),
      fun _ none => absurd none (Nat.not_lt_zero _), fun _ none => absurd none (Nat.not_lt_zero _)⟩
  | succ fuel ih => exact ⟨fun h enough _ => ih.value_succ h enough, ih.items_succ, ih.entries_succ⟩

/-- Every text that spells a document is read as that document. -/
theorem Says.read_eq {text : String} {d : Document} (h : Says text d) :
    read text.toList = some d := by
  obtain ⟨before, cs, after, blankBefore, spells, blankAfter, split⟩ := h
  have enough : cs.length < text.toList.length + 1 := by
    rw [split, List.length_append, List.length_append]
    omega
  have ends : Ends after := by
    rw [← List.append_nil after]
    exact Ends.append blankAfter nofun
  have first := (reads _).value spells enough ends
  unfold read
  rw [split] at first ⊢
  rw [skipBlank_of_starts blankBefore (spells.starts.append _), first, Option.bind_eq_bind,
    Option.bind_some]
  dsimp only
  rw [skipBlank_blank blankAfter]
  rfl

end Sensing.Json
