import Sensing.Proofs.Document.Fields
import Sensing.Settings

/-!
# What settings are loaded from

An environment and the content of files, without how they are read: what a variable is set to
(`Surroundings.Sets`), which file counts and whether there is one (`Surroundings.Filed`,
`Surroundings.Misfiled`), and what that file says of each setting (`SettingsFile.States`).

Main result: a document is read as a file of settings exactly where it states them
(`SettingsFile.ofDocument?_eq_some_iff`).
-/

namespace Sensing

namespace Surroundings

variable {around : Surroundings} {name path value text : String}

/-- A variable holds text that is not blank. -/
def Sets (around : Surroundings) (name value : String) : Prop :=
  ∃ bytes, around.environment? name = some bytes ∧ text? bytes = some value ∧
    ∃ c ∈ value.toList, Text.isBlank c = false

/-- A setting is had from a variable just where the variable is set. -/
theorem setting?_eq_some_iff : around.setting? name = some value ↔ around.Sets name value := by
  have blank (cs : List Char) :
      (!(Text.trim cs).isEmpty) = true ↔ ∃ c ∈ cs, Text.isBlank c = false := by
    rw [Bool.not_eq_true', Bool.eq_false_iff, Ne, List.isEmpty_iff, Text.trim_eq_nil_iff]
    simp
  unfold setting? Sets
  rw [Option.filter_eq_some_iff, Option.bind_eq_some_iff, blank]
  constructor
  · rintro ⟨⟨bytes, found, decodes⟩, visible⟩
    exact ⟨bytes, found, decodes, visible⟩
  · rintro ⟨bytes, found, decodes, visible⟩
    exact ⟨⟨bytes, found, decodes⟩, visible⟩

/-- A variable is set to one value. -/
theorem Sets.unique {value' : String} (h : around.Sets name value) (h' : around.Sets name value') :
    value = value' := by
  rw [← setting?_eq_some_iff] at h h'
  exact Option.some.inj (h.symm.trans h')

/-- Without a value the variable is not set, or as good as that. -/
theorem setting?_eq_none_iff : around.setting? name = none ↔ ∀ value, ¬ around.Sets name value := by
  rw [Option.eq_none_iff_forall_ne_some]
  exact forall_congr' fun value => not_congr setting?_eq_some_iff

/-- The file at a path can be read and is text. -/
def Stores (around : Surroundings) (path text : String) : Prop :=
  ∃ bytes, around.file? path = some bytes ∧ text? bytes = some text

/-- A text is had from a file just where the file is stored. -/
theorem stores_iff : (around.file? path).bind text? = some text ↔ around.Stores path text :=
  Option.bind_eq_some_iff

/-- What the file at a path says; without a path nothing is said. -/
def Filed (around : Surroundings) : Option String → SettingsFile → Prop
  | none, file => file = {}
  | some path, file => ∃ text, around.Stores path text ∧ SettingsFile.parse? path text = some file

/-- What is wrong with the file at a path. -/
inductive Misfiled (around : Surroundings) : Option String → SettingsError → Prop where
  | unreadable {path : String} (none : ∀ text, ¬ around.Stores path text) :
    Misfiled around (some path) (.unreadableFile path)
  | invalid {path text : String} (stores : around.Stores path text)
      (none : SettingsFile.parse? path text = none) :
    Misfiled around (some path) (.invalidFile path)

end Surroundings

/-! ## What a file says -/

namespace SettingsFile

open Document

variable {dialect : Dialect} {entries : List (String × Document)}

/-- A file says of a setting what stands under its name, unless that is null. -/
structure States (dialect : Dialect) (entries : List (String × Document)) (f : SettingsFile) :
    Prop where
  publishLimit : ∃ limit, MayGive "max_publish_list_size" (word? · = some ·) entries limit ∧
    f.publishLimit = limit.map UInt32.toNat
  poolCapacity : MayGive "frame_pool_capacity" (natural? · = some ·) entries f.poolCapacity
  clock : ∃ clock, MayGive "rolling_timestamp" (clock? dialect · = some ·) entries clock ∧
    f.offset = clock.bind (·.1) ∧ f.ticksPerUnit = clock.bind (·.2)
  frequency : MayGive "hid_sampling_frequency" (word? · = some ·) entries f.frequency
  requests : MayGive "requests" (listOf? (StreamRequest.ofDocument? dialect) · = some ·) entries
    f.requests

/-- The same for the tick counter, which is described by a record within the file. -/
structure StatesClock (entries : List (String × Document)) (clock : Option Nat × Option Int) :
    Prop where
  offset : MayGive "counter_offset" (natural? · = some ·) entries clock.1
  ticksPerUnit : MayGive "ticks_per_unit" (Document.integer? .signed64 · = some ·) entries clock.2

/-- A tick counter is read just where the record states it. -/
theorem clock?_eq_some_iff {clock : Option Nat × Option Int} :
    clock? dialect (.ofFields entries) = some clock ↔ StatesClock entries clock := by
  unfold clock?
  rw [Option.bind_eq_bind, Option.bind_eq_some_iff]
  constructor
  · rintro ⟨helds, found, reads⟩
    obtain _ | ⟨offset, _ | ⟨ticks, _ | _⟩⟩ := fields?_ofFields_eq_some_iff.1 found
    simp only [Option.bind_eq_bind, Option.bind_eq_some_iff, Option.pure_def,
      Option.some.injEq] at reads
    obtain ⟨o, readOffset, t, readTicks, rfl⟩ := reads
    exact ⟨nullable?_iff.1 ⟨_, offset, readOffset⟩, nullable?_iff.1 ⟨_, ticks, readTicks⟩⟩
  · rintro ⟨offset, ticks⟩
    obtain ⟨_, offset, readOffset⟩ := nullable?_iff.2 offset
    obtain ⟨_, ticks, readTicks⟩ := nullable?_iff.2 ticks
    refine ⟨_, fields?_ofFields_eq_some_iff.2 (.cons offset (.cons ticks .nil)), ?_⟩
    dsimp only
    rw [readOffset, readTicks]
    rfl

/-- A file of settings is read just where the record states them. -/
theorem ofDocument?_eq_some_iff {f : SettingsFile} :
    ofDocument? dialect (.ofFields entries) = some f ↔ States dialect entries f := by
  unfold ofDocument?
  rw [Option.bind_eq_bind, Option.bind_eq_some_iff]
  constructor
  -- Five settings are looked for, so five things are found, in the same order.
  · rintro ⟨helds, found, reads⟩
    obtain _ | ⟨limit, _ | ⟨pool, _ | ⟨clock, _ | ⟨frequency, _ | ⟨requests, _ | _⟩⟩⟩⟩⟩ :=
      fields?_ofFields_eq_some_iff.1 found
    simp only [Option.bind_eq_bind, Option.bind_eq_some_iff, Option.pure_def,
      Option.some.injEq] at reads
    obtain ⟨l, readLimit, c, readClock, p, readPool, q, readFrequency, r, readRequests, rfl⟩ :=
      reads
    exact ⟨⟨l, nullable?_iff.1 ⟨_, limit, readLimit⟩, rfl⟩, nullable?_iff.1 ⟨_, pool, readPool⟩,
      ⟨c, nullable?_iff.1 ⟨_, clock, readClock⟩, rfl, rfl⟩,
      nullable?_iff.1 ⟨_, frequency, readFrequency⟩, nullable?_iff.1 ⟨_, requests, readRequests⟩⟩
  · obtain ⟨l, p, o, t, q, r⟩ := f
    rintro ⟨⟨l, limit, rfl⟩, pool, ⟨c, clock, rfl, rfl⟩, frequency, requests⟩
    obtain ⟨_, limit, readLimit⟩ := nullable?_iff.2 limit
    obtain ⟨_, pool, readPool⟩ := nullable?_iff.2 pool
    obtain ⟨_, clock, readClock⟩ := nullable?_iff.2 clock
    obtain ⟨_, frequency, readFrequency⟩ := nullable?_iff.2 frequency
    obtain ⟨_, requests, readRequests⟩ := nullable?_iff.2 requests
    refine ⟨_, fields?_ofFields_eq_some_iff.2
      (.cons limit (.cons pool (.cons clock (.cons frequency (.cons requests .nil))))), ?_⟩
    dsimp only
    rw [readLimit, readClock, readPool, readFrequency, readRequests]
    rfl

end SettingsFile

end Sensing
