import Sensing.Proofs.Settings.Overrides

/-!
# Settings are merged and checked

What loading comes to is said here without saying how it is done: what each setting is once the file
and the variables are merged (`Merges`), and which limits it has to keep then (`Limit`).

The stages come one after another, and of several faults the first one is answered. So settings are
had exactly where no stage has a fault, and every other answer names the first stage that has one.

Main result: `load_merges`, for every environment and every content of files.
-/

namespace Sensing

/-! ## Limits -/

/-- A limit that merged settings have to keep. -/
inductive Limit where
  | publish
  | pool
  | ticks
  | offset
  | requests

namespace Limit

/-- The limits, in the order in which they are checked. -/
def all : List Limit := [.publish, .pool, .ticks, .offset, .requests]

theorem mem_all (l : Limit) : l ∈ all := by cases l <;> simp [all]

def Kept (s : Settings) : Limit → Prop
  | .publish => 0 < s.publishLimit
  | .pool => 0 < s.poolCapacity
  | .ticks => 0 < s.layout.ticksPerUnit
  | .offset => s.layout.offset ≤ ClockLayout.maxOffset
  | .requests => s.requests ≠ some []

/-- What is said of settings that do not keep it. -/
def complaint (s : Settings) : Limit → String
  | .publish => "max_publish_list_size must be greater than zero"
  | .pool => "frame_pool_capacity must be greater than zero"
  | .ticks => "rolling_timestamp.ticks_per_unit must be greater than zero"
  | .offset =>
    s!"rolling_timestamp.counter_offset {s.layout.offset} exceeds {ClockLayout.maxOffset}"
  | .requests => "requests must not be empty when present"

/-- The error for settings that do not keep it. -/
def error (s : Settings) (l : Limit) : SettingsError := .limit ⟨l.complaint s, []⟩

end Limit

namespace Settings

variable {s : Settings} {l : Limit}

/-- Settings that keep every limit pass. -/
theorem checked_of_kept (h : ∀ l : Limit, l.Kept s) : checked s = .ok s := by
  have clock : s.layout.problem? = none :=
    s.layout.problem?_eq_none_iff.2 ⟨h .ticks, h .offset⟩
  unfold checked problem?
  rw [if_neg (Nat.ne_of_gt (h .publish)), if_neg (Nat.ne_of_gt (h .pool)), clock]
  dsimp only
  rw [if_neg (h .requests)]

/-- The first limit that is not kept is complained of. -/
theorem checked_of_first (h : First (fun l => ¬ Limit.Kept s l) Limit.all l) :
    checked s = .error (l.error s) := by
  unfold checked problem?
  -- One level for each limit: it fails here, or the next one is looked at.
  cases h with
  | here failed => rw [if_pos (Nat.eq_zero_of_not_pos failed)]; rfl
  | later publish h =>
    rw [if_neg (Nat.ne_of_gt (not_not.1 publish))]
    cases h with
    | here failed => rw [if_pos (Nat.eq_zero_of_not_pos failed)]; rfl
    | later pool h =>
      rw [if_neg (Nat.ne_of_gt (not_not.1 pool))]
      unfold ClockLayout.problem?
      cases h with
      | here failed => rw [if_pos (Int.not_lt.1 failed)]; rfl
      | later ticks h =>
        rw [if_neg (Int.not_le.2 (not_not.1 ticks))]
        cases h with
        | here failed => rw [if_pos (Nat.not_le.1 failed)]; rfl
        | later offset h =>
          rw [if_neg (Nat.not_lt.2 (not_not.1 offset))]
          cases h with
          | here failed => rw [if_pos (not_not.1 failed)]; rfl
          | later _ h => cases h

end Settings

/-! ## Loading -/

/-- Settings that no stage of loading, from a file or without one, has anything against. -/
def Loadable (around : Surroundings) (path? : Option String) (s : Settings) : Prop :=
  ∃ file, around.Filed path? file ∧ (∀ o : Override, ¬ o.Malformed around) ∧
    Merges around file s ∧ ∀ l : Limit, l.Kept s

/-- The error for the first fault of the first stage that has one: the file, the overrides, the
limits. -/
inductive Faulty (around : Surroundings) (path? : Option String) : SettingsError → Prop where
  | file {e : SettingsError} (misfiled : around.Misfiled path? e) : Faulty around path? e
  | override {file : SettingsFile} {o : Override} (filed : around.Filed path? file)
      (first : First (Override.Malformed around) Override.all o) :
      Faulty around path? (.invalidVariable o.name)
  | limit {file : SettingsFile} {s : Settings} {l : Limit} (filed : around.Filed path? file)
      (wellformed : ∀ o : Override, ¬ o.Malformed around) (merges : Merges around file s)
      (first : First (fun l => ¬ Limit.Kept s l) Limit.all l) : Faulty around path? (l.error s)

/-- Loading has come to a result: to settings or to an error, just as it should. -/
structure Loads (around : Surroundings) (path? : Option String)
    (result : Except SettingsError Settings) : Prop where
  ok_iff : ∀ s, result = .ok s ↔ Loadable around path? s
  error_iff : ∀ e, result = .error e ↔ Faulty around path? e

namespace Settings

variable {path? : Option String} {e : SettingsError}

/-- Loads settings from a file, if there is a path to one, and from the overrides. -/
def loadFrom (around : Surroundings) (path? : Option String) : Except SettingsError Settings := do
  let file ←
    match path? with
    | none => .ok {}
    | some path => readFile around path
  checked (← overridden around file.settings)

/-- With a file that says something, it is the overrides and the limits that count. -/
theorem loadFrom_of_filed (h : around.Filed path? file) :
    loadFrom around path? = overridden around file.settings >>= checked := by
  cases path? with
  | none =>
    obtain rfl : file = {} := h
    rfl
  | some path =>
    obtain ⟨text, stores, parsed⟩ := h
    have read : readFile around path = .ok file := by
      unfold readFile
      rw [Surroundings.stores_iff.2 stores]
      dsimp only
      rw [parsed]
    unfold loadFrom
    dsimp only
    rw [read]
    rfl

/-- What is wrong with a file is answered. -/
theorem loadFrom_of_misfiled (h : around.Misfiled path? e) :
    loadFrom around path? = .error e := by
  cases h with
  | @unreadable path none =>
    have unread : (around.file? path).bind Surroundings.text? = .none :=
      Option.eq_none_iff_forall_ne_some.2 fun text found =>
        none text (Surroundings.stores_iff.1 found)
    unfold loadFrom readFile
    dsimp only
    rw [unread]
    rfl
  | @invalid path text stores none =>
    unfold loadFrom readFile
    dsimp only
    rw [Surroundings.stores_iff.2 stores]
    dsimp only
    rw [none]
    rfl

/-- What can be loaded is loaded, -/
theorem loadFrom_of_loadable (h : Loadable around path? s) : loadFrom around path? = .ok s := by
  obtain ⟨file, filed, wellformed, merges, kept⟩ := h
  obtain ⟨s', run, merges'⟩ := overridden_merges wellformed file
  obtain rfl : s = s' := merges.unique merges'
  rw [loadFrom_of_filed filed, run]
  exact checked_of_kept kept

/-- and any fault is answered. -/
theorem loadFrom_of_faulty (h : Faulty around path? e) : loadFrom around path? = .error e := by
  cases h with
  | file misfiled => exact loadFrom_of_misfiled misfiled
  | override filed first =>
    rw [loadFrom_of_filed filed, overridden_of_first first]
    rfl
  | @limit file s l filed wellformed merges first =>
    obtain ⟨s', run, merges'⟩ := overridden_merges wellformed file
    obtain rfl : s = s' := merges.unique merges'
    rw [loadFrom_of_filed filed, run]
    exact checked_of_first first

/-- A file is in order or it is not. -/
theorem filed_or_misfiled (around : Surroundings) (path? : Option String) :
    (∃ file, around.Filed path? file) ∨ ∃ e, around.Misfiled path? e := by
  cases path? with
  | none => exact .inl ⟨{}, rfl⟩
  | some path =>
    by_cases readable : ∃ text, around.Stores path text
    · obtain ⟨text, stores⟩ := readable
      cases parsed : SettingsFile.parse? path text with
      | none => exact .inr ⟨_, .invalid stores parsed⟩
      | some file => exact .inl ⟨file, text, stores, parsed⟩
    · exact .inr ⟨_, .unreadable (not_exists.1 readable)⟩

/-- No case is left out. -/
theorem loadable_or_faulty (around : Surroundings) (path? : Option String) :
    (∃ s, Loadable around path? s) ∨ ∃ e, Faulty around path? e := by
  rcases filed_or_misfiled around path? with ⟨file, filed⟩ | ⟨e, misfiled⟩
  · by_cases malformed : ∃ o : Override, o.Malformed around
    · obtain ⟨o, malformed⟩ := malformed
      obtain ⟨o, first⟩ := First.exists_of_mem o.mem_all malformed
      exact .inr ⟨_, .override filed first⟩
    · have wellformed := not_exists.1 malformed
      obtain ⟨s, -, merges⟩ := overridden_merges wellformed file
      by_cases broken : ∃ l : Limit, ¬ l.Kept s
      · obtain ⟨l, broken⟩ := broken
        obtain ⟨l, first⟩ : ∃ l, First (fun l => ¬ Limit.Kept s l) Limit.all l :=
          First.exists_of_mem l.mem_all broken
        exact .inr ⟨_, .limit filed wellformed merges first⟩
      · exact .inl ⟨s, file, filed, wellformed, merges, fun l => not_not.1 (not_exists.1 broken l)⟩
  · exact .inr ⟨e, .file misfiled⟩

/-- Since a case that can be loaded has no fault, that is all there is. -/
theorem loads_loadFrom (around : Surroundings) (path? : Option String) :
    Loads around path? (loadFrom around path?) := by
  refine ⟨fun s => ⟨fun run => ?_, loadFrom_of_loadable⟩,
    fun e => ⟨fun run => ?_, loadFrom_of_faulty⟩⟩
  · rcases loadable_or_faulty around path? with ⟨s', loadable⟩ | ⟨e, faulty⟩
    · cases run.symm.trans (loadFrom_of_loadable loadable)
      exact loadable
    · cases run.symm.trans (loadFrom_of_faulty faulty)
  · rcases loadable_or_faulty around path? with ⟨s, loadable⟩ | ⟨e', faulty⟩
    · cases run.symm.trans (loadFrom_of_loadable loadable)
    · cases run.symm.trans (loadFrom_of_faulty faulty)
      exact faulty

/-- Loading settings merges and checks what the environment and the files say.

The file that counts is the one that a variable names which is text and not blank. No other file is
looked at, and without such a variable none is. An explicit path counts as it is, and then no
variable does. What a file says of a setting is what stands under its name and is not null. -/
theorem load_merges (around : Surroundings) :
    (∃ path? : Option String, (∀ path, path? = some path ↔ around.Sets pathVariable path) ∧
      Loads around path? (load around) ∧
      ∀ files : String → Option Bytes,
        (∀ path, path? = some path → files path = around.file? path) →
          load { around with file? := files } = load around) ∧
    (∀ path, Loads { around with environment? := fun _ => none } (some path)
      (loadFile around path)) ∧
    ∀ dialect entries,
      (∀ file, SettingsFile.ofDocument? dialect (.ofFields entries) = some file ↔
        SettingsFile.States dialect entries file) ∧
      ∀ clock, SettingsFile.clock? dialect (.ofFields entries) = some clock ↔
        SettingsFile.StatesClock entries clock := by
  refine ⟨⟨around.setting? pathVariable, fun path => Surroundings.setting?_eq_some_iff,
    loads_loadFrom around _, fun files same => ?_⟩, fun path => ?_,
    fun _ _ => ⟨fun _ => SettingsFile.ofDocument?_eq_some_iff,
      fun _ => SettingsFile.clock?_eq_some_iff⟩⟩
  -- Only the file at the path that counts is ever read.
  · have read (path : String) (named : around.setting? pathVariable = some path) :
        readFile { around with file? := files } path = readFile around path := by
      unfold readFile
      dsimp only
      rw [same path named]
    change loadFrom { around with file? := files } (around.setting? pathVariable) =
      loadFrom around (around.setting? pathVariable)
    cases named : around.setting? pathVariable with
    | none => rfl
    | some path =>
      unfold loadFrom
      dsimp only
      rw [read path named]
      rfl
  · exact loads_loadFrom { around with environment? := fun _ => none } (some path)

/-- A file that sets how many frames may be handed out, and a variable that overrides it. -/
def overriding (filed limit : String) : Surroundings where
  environment? name :=
    if name = pathVariable then some "settings.json".toUTF8.data.toList
    else if name = limitVariable then some limit.toUTF8.data.toList
    else none
  file? path :=
    if path = "settings.json" then
      some ("\x7b\"max_publish_list_size\":" ++ filed ++ "\x7d").toUTF8.data.toList
    else none

/-- An override mends what the file says, or spoils it. -/
example : load (overriding "0" " 5 ") = .ok { publishLimit := 5 } ∧
    load (overriding "5" "0") =
      .error (.limit ⟨"max_publish_list_size must be greater than zero", []⟩) := by
  decide +kernel

end Settings

end Sensing
