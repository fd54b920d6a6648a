import Sensing.Proofs.Settings.Surroundings
import Sensing.Proofs.Text.Numerals

/-!
# Variables that override settings

Each of four variables overrides one setting, and has to spell a number of its range for that
(`Override.Gives`); one that is not set says nothing, and anything else is a fault
(`Override.Malformed`). A setting is what its variable gives, or else what the file says, or else
what it is by default (`Override.Prevails`). Of several faults the first one is answered (`First`).

Main results: where no variable is malformed the settings are merged, and there is one way to merge
them (`Settings.overridden_merges`, `Merges.unique`); where one is, the first of these is named
(`Settings.overridden_of_first`).
-/

namespace Sensing

/-- The first member of a list that fails. -/
inductive First {α : Type} (fails : α → Prop) : List α → α → Prop where
  | here {a : α} {as : List α} (failed : fails a) : First fails (a :: as) a
  | later {a b : α} {as : List α} (passed : ¬ fails a) (rest : First fails as b) :
    First fails (a :: as) b

/-- Where some member fails, there is a first one. -/
theorem First.exists_of_mem {α : Type} {fails : α → Prop} {as : List α} {a : α} (mem : a ∈ as)
    (failed : fails a) : ∃ b, First fails as b := by
  induction mem with
  | head as => exact ⟨a, .here failed⟩
  | tail c _ ih =>
    by_cases earlier : fails c
    · exact ⟨c, .here earlier⟩
    · obtain ⟨b, first⟩ := ih
      exact ⟨b, .later earlier first⟩

/-- A variable that overrides a setting. -/
inductive Override where
  | publish
  | pool
  | ticks
  | frequency

namespace Override

/-- The overrides, in the order in which they are looked at. -/
def all : List Override := [.publish, .pool, .ticks, .frequency]

theorem mem_all (o : Override) : o ∈ all := by cases o <;> simp [all]

def name : Override → String
  | .publish => Settings.limitVariable
  | .pool => Settings.capacityVariable
  | .ticks => Settings.ticksVariable
  | .frequency => Settings.frequencyVariable

/-- The values of the setting. -/
def range : Override → Text.IntegerRange
  | .publish | .frequency => .unsigned32
  | .pool => .unsigned64
  | .ticks => .signed64

variable {around : Surroundings} {o : Override} {n m : Int}

/-- The variable spells a value of the setting, up to blanks around it. -/
def Gives (around : Surroundings) (o : Override) (n : Int) : Prop :=
  ∃ value, around.Sets o.name value ∧ o.range.Spells (Text.trim value.toList) n

/-- The variable is set, and does not. -/
def Malformed (around : Surroundings) (o : Override) : Prop :=
  ∃ value, around.Sets o.name value ∧ ∀ n, ¬ o.range.Spells (Text.trim value.toList) n

/-- The variable is unset, or as good as that. -/
def Silent (around : Surroundings) (o : Override) : Prop := ∀ value, ¬ around.Sets o.name value

/-- What a variable gives is in its range. -/
theorem Gives.holds (h : o.Gives around n) : o.range.Holds n := by
  obtain ⟨value, -, spells⟩ := h
  exact spells.holds

/-- Both are the value that the variable spells. -/
theorem Gives.unique (h : o.Gives around n) (h' : o.Gives around m) : n = m := by
  obtain ⟨value, sets, spells⟩ := h
  obtain ⟨value', sets', spells'⟩ := h'
  obtain rfl : value = value' := sets.unique sets'
  have same := Text.IntegerRange.read?_eq_some_iff.2 spells
  rw [Text.IntegerRange.read?_eq_some_iff.2 spells'] at same
  exact (Option.some.inj same).symm

/-- A variable that gives something is set. -/
theorem Gives.not_silent (h : o.Gives around n) : ¬ o.Silent around := by
  obtain ⟨value, sets, -⟩ := h
  exact fun silent => silent value sets

/-- What a variable gives, if anything. -/
def Given (around : Surroundings) (o : Override) : Option Int → Prop
  | some n => o.Gives around n
  | none => o.Silent around

/-- A variable is malformed, or it gives something or nothing. -/
theorem read_cases (around : Surroundings) (o : Override) :
    (o.Malformed around ∧
        Settings.override? around o.name o.range = .error (.invalidVariable o.name)) ∨
      ∃ given, o.Given around given ∧ Settings.override? around o.name o.range = .ok given := by
  unfold Settings.override?
  cases hset : around.setting? o.name with
  | none => exact .inr ⟨none, Surroundings.setting?_eq_none_iff.1 hset, rfl⟩
  | some value =>
    have sets := Surroundings.setting?_eq_some_iff.1 hset
    dsimp only
    cases hread : o.range.read? (Text.trim value.toList) with
    | some n =>
      exact .inr ⟨some n, ⟨value, sets, Text.IntegerRange.read?_eq_some_iff.1 hread⟩, rfl⟩
    | none =>
      refine .inl ⟨⟨value, sets, fun n spells => ?_⟩, rfl⟩
      rw [Text.IntegerRange.read?_eq_some_iff.2 spells] at hread
      cases hread

/-- A malformed variable gives neither something nor nothing. -/
theorem Malformed.not_given (h : o.Malformed around) {given : Option Int} :
    ¬ o.Given around given := by
  obtain ⟨value, sets, malformed⟩ := h
  cases given with
  | none => exact fun silent => silent value sets
  | some n =>
    rintro ⟨value', sets', spells⟩
    rw [sets.unique sets'] at malformed
    exact malformed n spells

/-- A malformed variable is answered by its name, -/
theorem Malformed.read (h : o.Malformed around) :
    Settings.override? around o.name o.range = .error (.invalidVariable o.name) := by
  rcases o.read_cases around with ⟨-, read⟩ | ⟨given, gives, -⟩
  · exact read
  · exact absurd gives h.not_given

/-- and any other is read. -/
theorem read_of_wellformed (h : ¬ o.Malformed around) :
    ∃ given, o.Given around given ∧ Settings.override? around o.name o.range = .ok given := by
  rcases o.read_cases around with ⟨malformed, -⟩ | read
  · exact absurd malformed h
  · exact read

/-- A setting is what its variable gives, or else what the file says, or else its default. -/
def Prevails (around : Surroundings) (o : Override) (filed : Option Int) (default n : Int) : Prop :=
  o.Gives around n ∨ o.Silent around ∧ n = filed.getD default

/-- At most one value prevails. -/
theorem Prevails.unique {filed : Option Int} {default : Int}
    (h : o.Prevails around filed default n) (h' : o.Prevails around filed default m) : n = m := by
  rcases h with gives | ⟨silent, rfl⟩
  · rcases h' with gives' | ⟨silent, -⟩
    · exact gives.unique gives'
    · exact absurd silent gives.not_silent
  · rcases h' with gives | ⟨-, rfl⟩
    · exact absurd silent gives.not_silent
    · rfl

/-- What is given prevails, and where nothing is, what the file says or the default. -/
theorem Given.prevails {given : Option Int} (h : o.Given around given) (filed : Option Int)
    (default : Int) : o.Prevails around filed default (given.getD (filed.getD default)) := by
  cases given with
  | none => exact .inr ⟨h, rfl⟩
  | some n => exact .inl h

/-- The same for a setting that is kept as something else than an integer. -/
theorem Given.prevails_as {α : Type} {given : Option Int} (h : o.Given around given)
    (toInt : α → Int) {ofInt : Int → α} (back : ∀ n, o.range.Holds n → toInt (ofInt n) = n)
    (filed : Option α) (default : α) :
    o.Prevails around (filed.map toInt) (toInt default)
      (toInt ((given.map ofInt).getD (filed.getD default))) := by
  cases given with
  | none =>
    refine .inr ⟨h, ?_⟩
    cases filed <;> rfl
  | some n =>
    have gives : o.Gives around n := h
    exact .inl ((back n gives.holds).symm ▸ gives)

end Override

/-- Settings that are merged from the environment and a file. -/
structure Merges (around : Surroundings) (file : SettingsFile) (s : Settings) : Prop where
  publishLimit :
    Override.publish.Prevails around (file.publishLimit.map Int.ofNat) 16 s.publishLimit
  poolCapacity : Override.pool.Prevails around (file.poolCapacity.map Int.ofNat) 32 s.poolCapacity
  ticksPerUnit : Override.ticks.Prevails around file.ticksPerUnit 100000 s.layout.ticksPerUnit
  frequency : Override.frequency.Prevails around
    (file.frequency.map fun n => (n.toNat : Int)) 0 s.frequency.toNat
  offset : s.layout.offset = file.offset.getD 0
  requests : s.requests = file.requests

/-- They are determined by those. -/
theorem Merges.unique {around : Surroundings} {file : SettingsFile} {s s' : Settings}
    (h : Merges around file s) (h' : Merges around file s') : s = s' := by
  have limit := Int.ofNat.inj (h.publishLimit.unique h'.publishLimit)
  have capacity := Int.ofNat.inj (h.poolCapacity.unique h'.poolCapacity)
  have ticks := h.ticksPerUnit.unique h'.ticksPerUnit
  have frequency := UInt32.toNat_inj.1 (Int.ofNat.inj (h.frequency.unique h'.frequency))
  have offset := h.offset.trans h'.offset.symm
  have requests := h.requests.trans h'.requests.symm
  obtain ⟨l, c, ⟨o, t⟩, f, q⟩ := s
  obtain ⟨l', c', ⟨o', t'⟩, f', q'⟩ := s'
  simp only at limit capacity ticks frequency offset requests
  rw [limit, capacity, ticks, frequency, offset, requests]

namespace Settings

variable {around : Surroundings} {file : SettingsFile} {s : Settings} {o : Override}

/-- Where no variable is malformed, the settings are merged. -/
theorem overridden_merges (wellformed : ∀ o : Override, ¬ o.Malformed around)
    (file : SettingsFile) :
    ∃ s, overridden around file.settings = .ok s ∧ Merges around file s := by
  obtain ⟨limit, limitGiven, readLimit⟩ := Override.read_of_wellformed (wellformed .publish)
  obtain ⟨capacity, capacityGiven, readCapacity⟩ := Override.read_of_wellformed (wellformed .pool)
  obtain ⟨ticks, ticksGiven, readTicks⟩ := Override.read_of_wellformed (wellformed .ticks)
  obtain ⟨frequency, frequencyGiven, readFrequency⟩ :=
    Override.read_of_wellformed (wellformed .frequency)
  change override? around limitVariable .unsigned32 = _ at readLimit
  change override? around capacityVariable .unsigned64 = _ at readCapacity
  change override? around ticksVariable .signed64 = _ at readTicks
  change override? around frequencyVariable .unsigned32 = _ at readFrequency
  unfold overridden
  rw [readLimit, readCapacity, readTicks, readFrequency]
  refine ⟨_, rfl, ?_, ?_, ticksGiven.prevails _ _, ?_, rfl, rfl⟩
  · exact limitGiven.prevails_as Int.ofNat (fun n holds => Int.toNat_of_nonneg holds.1)
      file.publishLimit 16
  · exact capacityGiven.prevails_as Int.ofNat (fun n holds => Int.toNat_of_nonneg holds.1)
      file.poolCapacity 32
  -- The frequency is kept as a word, so what is given has to fit one.
  · refine frequencyGiven.prevails_as (fun n : UInt32 => (n.toNat : Int)) (fun n holds => ?_)
      file.frequency 0
    obtain ⟨low, high⟩ := holds
    change 0 ≤ n at low
    change n ≤ 4294967295 at high
    have short : n.toNat < UInt32.size := by
      change n.toNat < 4294967296
      omega
    rw [UInt32.toNat_ofNat_of_lt' short, Int.toNat_of_nonneg low]

/-- The first malformed variable is complained of. -/
theorem overridden_of_first (h : First (Override.Malformed around) Override.all o) (s : Settings) :
    overridden around s = .error (.invalidVariable o.name) := by
  -- One level for each variable: it is malformed, or the next one is looked at.
  unfold overridden
  cases h with
  | here malformed =>
    rw [show override? around limitVariable .unsigned32 = _ from malformed.read]
    rfl
  | later passed h =>
    obtain ⟨_, -, read⟩ := Override.read_of_wellformed passed
    rw [show override? around limitVariable .unsigned32 = _ from read]
    cases h with
    | here malformed =>
      rw [show override? around capacityVariable .unsigned64 = _ from malformed.read]
      rfl
    | later passed h =>
      obtain ⟨_, -, read⟩ := Override.read_of_wellformed passed
      rw [show override? around capacityVariable .unsigned64 = _ from read]
      cases h with
      | here malformed =>
        rw [show override? around ticksVariable .signed64 = _ from malformed.read]
        rfl
      | later passed h =>
        obtain ⟨_, -, read⟩ := Override.read_of_wellformed passed
        rw [show override? around ticksVariable .signed64 = _ from read]
        cases h with
        | here malformed =>
          rw [show override? around frequencyVariable .unsigned32 = _ from malformed.read]
          rfl
        | later _ h => cases h

end Settings

end Sensing
