import Mathlib.Data.List.Forall2
import Sensing.Document.Schema

/-!
# The fields of a record

What a record says under a name does not depend on the order of its entries, nor on what it says
under other names (`Holds`). From it a field is read in one of three ways: as something that has to
be there, as something with a default, or as something that may be absent or null.

Main result: `fields?_ofFields_eq_some_iff`, the fields of a structure are found just where the
record holds something once, or nothing, under each of their names; and what each of the three ways
of reading makes of that.
-/

namespace Sensing.Document

variable {α : Type} {entries : List (String × Document)} {name : String} {held : Option Document}
  {read? : Document → Option α} {means : Document → α → Prop}

/-- What a record says under a name: nothing, or one thing once. -/
inductive Holds (name : String) : List (String × Document) → Option Document → Prop where
  | nothing {entries : List (String × Document)} (absent : ∀ e ∈ entries, e.1 ≠ name) :
    Holds name entries none
  | once {before after : List (String × Document)} {d : Document}
      (earlier : ∀ e ∈ before, e.1 ≠ name) (later : ∀ e ∈ after, e.1 ≠ name) :
    Holds name (before ++ (name, d) :: after) (some d)

/-- No other entry has the name. -/
theorem filter_name_eq_nil_iff :
    (entries.filter fun e => e.1 = name) = [] ↔ ∀ e ∈ entries, e.1 ≠ name := by
  simp

/-- A field is found just where the record says something once, or nothing, under its name. -/
theorem fieldIn?_eq_some_iff : fieldIn? entries name = some held ↔ Holds name entries held := by
  constructor
  · intro h
    unfold fieldIn? at h
    split at h
    next none =>
      cases h
      exact .nothing (filter_name_eq_nil_iff.1 none)
    next e single =>
      -- A single entry of the name splits the record into what comes before it and what comes
      -- after.
      cases h
      obtain ⟨before, after, rfl, earlier, same, later⟩ := List.filter_eq_cons_iff.1 single
      obtain rfl : e.1 = name := of_decide_eq_true same
      exact .once (by simpa using earlier) (filter_name_eq_nil_iff.1 later)
    next => cases h
  · intro h
    unfold fieldIn?
    cases h with
    | nothing absent => rw [filter_name_eq_nil_iff.2 absent]
    | @once before after d earlier later =>
      have single : ((before ++ (name, d) :: after).filter fun e => e.1 = name) = [(name, d)] := by
        rw [List.filter_append, filter_name_eq_nil_iff.2 earlier, List.nil_append,
          List.filter_cons_of_pos (by simp), filter_name_eq_nil_iff.2 later]
      rw [single]

/-- A name that occurs twice is refused. -/
theorem fieldIn?_of_repeated (name : String) (before between after : List (String × Document))
    (d d' : Document) :
    fieldIn? (before ++ (name, d) :: between ++ (name, d') :: after) name = none := by
  have long : 2 ≤ ((before ++ (name, d) :: between ++ (name, d') :: after).filter
      fun e => e.1 = name).length := by
    simp [List.filter_append]
    omega
  unfold fieldIn?
  split
  next none => rw [none] at long; exact absurd long (by decide)
  next single => rw [single] at long; exact absurd long (Nat.not_succ_le_self 1)
  next => rfl

/-- No name of a record that is given by its fields is spoilt. -/
theorem fields?_ofFields (dialect : Dialect) (forms : List FieldForm)
    (entries : List (String × Document)) :
    (ofFields entries).fields? dialect forms = forms.mapM fun f => fieldIn? entries f.name := by
  have named (entries : List (String × Document)) :
      named? (entries.map fun e => (some e.1, e.2)) = some entries := by
    induction entries with
    | nil => rfl
    | cons e entries ih =>
      rw [List.map_cons, named?, ih]
      rfl
  exact congrArg (Option.bind · _) (named entries)

/-- The fields of a structure are found just where each of them is. -/
theorem fields?_ofFields_eq_some_iff {dialect : Dialect} {forms : List FieldForm}
    {helds : List (Option Document)} :
    (ofFields entries).fields? dialect forms = some helds ↔
      List.Forall₂ (fun form held => Holds form.name entries held) forms helds := by
  rw [fields?_ofFields]
  induction forms generalizing helds with
  | nil => simp [eq_comm]
  | cons form forms ih =>
    rw [List.mapM_cons]
    simp only [Option.bind_eq_bind, Option.bind_eq_some_iff, ih, List.forall₂_cons_left_iff,
      fieldIn?_eq_some_iff, Option.pure_def, Option.some.injEq]
    constructor
    · rintro ⟨held, holds, rest, all, rfl⟩
      exact ⟨held, rest, holds, all, rfl⟩
    · rintro ⟨held, rest, holds, all, rfl⟩
      exact ⟨held, holds, rest, all, rfl⟩

/-- So is a record in which the name of a field does. -/
theorem fields?_of_repeated (dialect : Dialect) {forms : List FieldForm} {form : FieldForm}
    (isField : form ∈ forms) (before between after : List (String × Document))
    (d d' : Document) :
    (ofFields (before ++ (form.name, d) :: between ++ (form.name, d') :: after)).fields? dialect
      forms = none := by
  rw [fields?_ofFields]
  induction forms with
  | nil => cases isField
  | cons f forms ih =>
    rw [List.mapM_cons]
    rcases List.mem_cons.1 isField with rfl | others
    · rw [fieldIn?_of_repeated]
      rfl
    · rw [ih others]
      exact Option.bind_eq_none_iff.2 fun _ _ => rfl

/-! ## Ways of reading a field -/

/-- A field that is there. -/
def Gives (name : String) (means : Document → α → Prop) (entries : List (String × Document))
    (a : α) : Prop :=
  ∃ d, Holds name entries (some d) ∧ means d a

/-- A field that is there or has its default. -/
def GivesOr (name : String) (means : Document → α → Prop) (default : α)
    (entries : List (String × Document)) (a : α) : Prop :=
  Holds name entries none ∧ a = default ∨ Gives name means entries a

/-- A field that may be absent or null. -/
inductive MayGive (name : String) (means : Document → α → Prop)
    (entries : List (String × Document)) : Option α → Prop where
  | absent (holds : Holds name entries none) : MayGive name means entries none
  | null (holds : Holds name entries (some .null)) : MayGive name means entries none
  | value {d : Document} {a : α} (holds : Holds name entries (some d)) (other : d ≠ .null)
      (is : means d a) : MayGive name means entries (some a)

section Ways

variable (spec : ∀ d a, read? d = some a ↔ means d a)

include spec

/-- A field that is required has to be there. -/
theorem required?_iff {a : α} :
    (∃ held, Holds name entries held ∧ required? read? held = some a) ↔
      Gives name means entries a := by
  constructor
  · rintro ⟨held, holds, reads⟩
    obtain ⟨d, rfl, reads⟩ := Option.bind_eq_some_iff.1 reads
    exact ⟨d, holds, (spec d a).1 reads⟩
  · rintro ⟨d, holds, is⟩
    exact ⟨some d, holds, (spec d a).2 is⟩

/-- A field with a default may be missing, but what is there has to be understood. -/
theorem orDefault?_iff {default a : α} :
    (∃ held, Holds name entries held ∧ orDefault? read? default held = some a) ↔
      GivesOr name means default entries a := by
  constructor
  · rintro ⟨held, holds, reads⟩
    cases held with
    | none => exact .inl ⟨holds, (Option.some.inj reads).symm⟩
    | some d => exact .inr ⟨d, holds, (spec d a).1 reads⟩
  · rintro (⟨holds, rfl⟩ | ⟨d, holds, is⟩)
    · exact ⟨none, holds, rfl⟩
    · exact ⟨some d, holds, (spec d a).2 is⟩

end Ways

/-- A field may be missing, or null, and is nothing in both cases. -/
theorem nullable?_iff {o : Option α} :
    (∃ held, Holds name entries held ∧ nullable? read? held = some o) ↔
      MayGive name (read? · = some ·) entries o := by
  constructor
  · rintro ⟨held, holds, reads⟩
    unfold nullable? at reads
    split at reads
    next =>
      cases reads
      exact .absent holds
    next =>
      cases reads
      exact .null holds
    next d other =>
      obtain ⟨a, read, rfl⟩ := Option.map_eq_some_iff.1 reads
      exact .value holds other read
  · intro h
    cases h with
    | absent holds => exact ⟨none, holds, rfl⟩
    | null holds => exact ⟨some .null, holds, rfl⟩
    | @value d a holds other is =>
      refine ⟨some d, holds, ?_⟩
      -- A value that is null would be read as nothing, which the third case excludes.
      cases d with
      | null => exact absurd rfl other
      | _ => exact Option.map_eq_some_iff.2 ⟨a, is, rfl⟩

end Sensing.Document
