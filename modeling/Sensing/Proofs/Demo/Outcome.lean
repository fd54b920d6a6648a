import Sensing.Proofs.Demo.Performance

/-!
# The outcome of the demonstration

A run reads its options and its settings, and plays the demonstration while the devices deliver
what they like. It succeeds if everything can be had that the settings ask for; otherwise it fails
for the first request that cannot, where the camera's come before the motion module's.

Main result: `outcome_of_requests`, of every run, however its parts and the deliveries are
interleaved; the runs that `run` carries out are among them, and none of them is ever stuck.
-/

namespace Sensing.Demo

open Procedure (Carried)

variable {args : List String} {around : Surroundings} {o : Options} {settings : Settings}

/-! ## Runs -/

/-- How a run may end. -/
inductive Ends (args : List String) (around : Surroundings) : Ending → Prop where
  | unprepared {ending : Ending} (failed : prepare args around = .error ending) :
    Ends args around ending
  | performed {s s' : Stage} {result : Except Cause Unit} (ready : prepare args around = .ok s)
    (played : performance.Carried Stage.Delivery s (.done result) s') :
    Ends args around (.of result s')

/-- The stage that is set knows what is asked of it. -/
theorem prepare_ok {s : Stage} (ready : prepare args around = .ok s) :
    ∃ o settings, s = Stage.start o settings := by
  unfold prepare at ready
  split at ready
  · cases ready
  · cases ready
  next o _ =>
    split at ready
    · cases ready
    · split at ready
      · cases ready
      next settings _ =>
        cases ready
        exact ⟨o, settings, rfl⟩

/-- Options of at least one and settings that load set the stage. -/
theorem prepare_of_loaded (reads : Options.read args = .ok o)
    (width : 1 ≤ o.width) (height : 1 ≤ o.height) (fps : 1 ≤ o.fps)
    (loads : Settings.load around = .ok settings) :
    prepare args around = .ok (Stage.start o settings) := by
  have positive {n : UInt32} (h : 1 ≤ n) : n ≠ 0 := by
    rintro rfl
    cases h
  unfold prepare
  rw [reads]
  dsimp only
  rw [if_neg (by simp [positive width, positive height, positive fps]), loads]

/-- At the start the camera is closed and there is no motion module. -/
theorem plays_start (o : Options) (settings : Settings) :
    Plays o settings .closed none (Stage.start o settings) := by
  have unclaimed : (newVideo o settings).core.Unclaimed :=
    (Core.unclaimed_create settings.poolCapacity settings.publishLimit).of_same ⟨rfl, rfl, rfl⟩
  refine ⟨rfl, rfl, ⟨⟨rfl, ⟨rfl, rfl⟩, rfl, ?_, rfl, rfl, rfl, ?_⟩, ⟨⟨rfl, rfl⟩, rfl, rfl, rfl⟩,
    unclaimed⟩, .none⟩
  · exact fun _ none => nomatch none
  · exact fun some => absurd some (Nat.lt_irrefl 0)

/-- Wherever it is, the demonstration comes to its end from there, and with the answer that its
requests deserve. -/
theorem performance_finishes {p : Procedure Stage (Except Cause Unit)} {s : Stage}
    (carried : performance.Carried Stage.Delivery (Stage.start o settings) p s) :
    p.Finishes s := by
  obtain ⟨scene, told, attains⟩ :=
    performance_attains.carried Stage.Delivery.tells (plays_start o settings) carried
  obtain ⟨result, s', -, run, -⟩ := attains.finishes told
  exact ⟨result, s', run⟩

/-- Whatever was delivered meanwhile, the answer is the one that the requests deserve. -/
theorem answer_of_carried {result : Except Cause Unit} {s : Stage}
    (carried : performance.Carried Stage.Delivery (Stage.start o settings) (.done result) s) :
    result = answer o settings := by
  obtain ⟨scene, -, attains⟩ :=
    performance_attains.carried Stage.Delivery.tells (plays_start o settings) carried
  exact attains

/-! ## Runs that are carried out -/

/-- Rounds are deliveries. -/
theorem carried_rounds {p : Procedure Stage (Except Cause Unit)} {s t : Stage}
    (before : performance.Carried Stage.Delivery s p t) (rounds : Nat) :
    performance.Carried Stage.Delivery s p (Nat.repeat Stage.nextRound rounds t) := by
  induction rounds with
  | zero => exact before
  | succ rounds ih =>
    have images := ih.aside .images
    show performance.Carried Stage.Delivery s p
      (Stage.nextRound (Nat.repeat Stage.nextRound rounds t))
    unfold Stage.nextRound
    dsimp only
    split
    · exact images
    next r there => exact images.aside (.samples there)

/-- What follows the opening comes to an end of the run. -/
theorem after_ends {opened : Except Cause Unit} {s t : Stage} (ready : prepare args around = .ok s)
    (carried : performance.Carried Stage.Delivery s (sequel opened) t) :
    Ends args around (.after opened t) := by
  obtain ⟨o, settings, rfl⟩ := prepare_ok ready
  obtain ⟨result, t', run⟩ := performance_finishes carried
  unfold Ending.after
  rw [run]
  exact .performed ready (carried.runs run)

/-- The runs that are carried out are among all those that there may be. -/
theorem run_ends (rounds : Nat) (args : List String) (around : Surroundings) :
    Ends args around (run rounds args around) := by
  unfold run launch
  cases ready : prepare args around with
  | error ending => exact .unprepared ready
  | ok s =>
    have start : performance.Carried Stage.Delivery s (opening.run >>= sequel) s := .begun
    dsimp only [bind, Except.bind]
    cases opened : opening.run.run s with
    | finished answer t =>
      have carried := start.runs_then opened
      cases answer with
      | ok _ => exact after_ends ready (carried_rounds carried rounds)
      | error cause => exact after_ends ready carried
    | waiting rest t =>
      -- The whole would wait as well.
      obtain ⟨o, settings, rfl⟩ := prepare_ok ready
      obtain ⟨result, t', run⟩ := performance_finishes start
      rw [Procedure.run_bind, opened] at run
      cases run

/-! ## The outcome -/

/-- The outcome of a run is decided by its requests.

With a size and a rate of at least one and settings that load, a run is never stuck, whatever the
devices deliver meanwhile, and it succeeds just if there are no requests or all of them can be had.
Otherwise it fails for the first of the camera's that cannot or, if there is none, of the motion
module's. -/
theorem outcome_of_requests (reads : Options.read args = .ok o)
    (width : 1 ≤ o.width) (height : 1 ≤ o.height) (fps : 1 ≤ o.fps)
    (loads : Settings.load around = .ok settings) :
    (∀ rounds, Ends args around (run rounds args around)) ∧
    (∀ p s, performance.Carried Stage.Delivery (Stage.start o settings) p s → p.Finishes s) ∧
    ∀ ending, Ends args around ending →
      (ending.exitCode = 0 ↔ ∀ rs, settings.requests = some rs → Obtainable o rs) ∧
      (ending.exitCode = 0 → ending.failure = none) ∧
      (ending.exitCode ≠ 0 → ending.exitCode = 1 ∧ ∃ rs q, settings.requests = some rs ∧
        refused? o rs = some q ∧
        ending.failure = some (EndpointError.profileNotFound q.text).toCause) := by
  have ready := prepare_of_loaded reads width height fps loads
  refine ⟨fun rounds => run_ends rounds args around, fun p s => performance_finishes, ?_⟩
  intro ending ends
  -- A run that is prepared can only be performed, and its answer is determined by the requests.
  cases ends with
  | unprepared failed =>
    rw [ready] at failed
    cases failed
  | performed ready' played =>
    cases ready.symm.trans ready'
    obtain rfl := answer_of_carried played
    unfold answer
    cases asked : settings.requests.bind (refused? o) with
    | none =>
      have obtainable (rs : List StreamRequest) (found : settings.requests = some rs) :
          Obtainable o rs := refused?_eq_none_iff.1 (Option.bind_eq_none_iff.1 asked rs found)
      exact ⟨⟨fun _ => obtainable, fun _ => rfl⟩, fun _ => rfl, fun failed => absurd rfl failed⟩
    | some q =>
      obtain ⟨rs, found, first⟩ := Option.bind_eq_some_iff.1 asked
      have refused : ¬ Obtainable o rs := fun obtainable => by
        rw [refused?_eq_none_iff.2 obtainable] at first
        cases first
      exact ⟨⟨nofun, fun obtainable => absurd (obtainable rs found) refused⟩, nofun,
        fun _ => ⟨rfl, rs, q, found, first, rfl⟩⟩

/-- Surroundings that name a file in which these are the requests. -/
def asking (requests : String) : Surroundings where
  environment? name :=
    if name = Settings.pathVariable then some "settings.json".toUTF8.data.toList else none
  file? path :=
    if path = "settings.json" then
      some ("\x7b\"requests\":" ++ requests ++ "\x7d").toUTF8.data.toList
    else none

/-- Two requests that cannot be had: the gyroscope's has a rate, the camera's the wrong format. -/
def twoFaults : List StreamRequest :=
  [{ channel := .gyro, fps := 200 }, { channel := .depth, encoding := .y8 }]

/-- What asks for them. -/
def faulty : Surroundings :=
  asking ("[\x7b\"stream\":\"gyro\",\"fps\":200\x7d," ++
    "\x7b\"stream\":\"depth\",\"format\":\"y8\"\x7d]")

/-- The camera's is the one that counts, though it is asked for last. -/
theorem depth_refused_before_gyro :
    Options.read ["--fps=15"] = .ok { fps := 15 } ∧
    Settings.load faulty = .ok { requests := some twoFaults } ∧
    (run 1 ["--fps=15"] faulty).exitCode = 1 ∧
    (run 1 ["--fps=15"] faulty).failure =
      some ⟨"no native profile satisfies request Depth 0x0 @0fps Y8", []⟩ := by
  have reads : Options.read ["--fps=15"] = .ok { fps := 15 } := by decide +kernel
  have loads : Settings.load faulty = .ok { requests := some twoFaults } := by decide +kernel
  obtain ⟨ends, -, outcome⟩ :=
    outcome_of_requests reads (by decide) (by decide) (by decide) loads
  obtain ⟨succeeds, -, fails⟩ := outcome _ (ends 1)
  have first : refused? { fps := 15 } twoFaults =
      some { channel := .depth, encoding := .y8 } := by decide +kernel
  have refused : (run 1 ["--fps=15"] faulty).exitCode ≠ 0 := fun zero => by
    rw [refused?_eq_none_iff.2 (succeeds.1 zero twoFaults rfl)] at first
    cases first
  obtain ⟨code, rs, q, found, named, failure⟩ := fails refused
  cases found
  cases first.symm.trans named
  exact ⟨reads, loads, code, failure⟩

end Sensing.Demo
