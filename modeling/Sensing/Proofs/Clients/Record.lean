import Sensing.Proofs.Clients.Crowd

/-!
# Keeping a record of asides

Some of what happens beside the operations matters later on: the images that a device has shown to
an endpoint since it was last idle, say. A `Recorder` says what each aside shows and when the
endpoint is idle; `Recorded` are the crowds that can be reached, each with what was shown on the
way.

A client's step that finds the endpoint idle starts the record anew. Every crowd that can be reached
has a record (`Crowd.recorded_of_reaches`).
-/

namespace Sensing

variable {σ ι : Type}

/-- The same endpoint, where nothing happens beside the operations. -/
@[reducible] def Served.undisturbed (σ : Type) [Served σ] : Served σ :=
  { (inferInstance : Served σ) with
    Aside := Empty
    aside := fun x => nomatch x }

/-- What is recorded of the asides of an endpoint. -/
structure Recorder (σ ι : Type) [Served σ] where
  /-- What an aside shows where it finds a state. -/
  shows : Served.Aside σ → σ → List ι
  /-- Where nothing shown so far matters any more. -/
  idle : σ → Bool

namespace Crowd

variable [Served σ]

/-- One step of one of the clients. -/
def Moves (admits : Served.Op σ → Prop) : Crowd σ → Crowd σ → Prop :=
  @Step σ (.undisturbed σ) admits

variable {admits : Served.Op σ → Prop} {c c' : Crowd σ}

/-- The client with the lock goes on. -/
theorem moves_held {w w' : Errand σ} {s' : σ} (holder : c.holder = some w)
    (step : w.Step c.rig w' s') : c.Moves admits { c with rig := s', holder := some w' } :=
  @Step.held σ (.undisturbed σ) _ _ _ _ _ holder step

/-- A step is that of a client, or an aside. -/
theorem Step.moves_or_aside (h : Step admits c c') :
    c.Moves admits c' ∨ ∃ x, c' = { c with rig := Served.aside x c.rig } := by
  cases h with
  | aside x => exact .inr ⟨x, rfl⟩
  | lock free transition => exact .inl (@Step.lock σ (.undisturbed σ) _ _ _ free transition)
  | held holder step => exact .inl (moves_held holder step)
  | unlock holder => exact .inl (@Step.unlock σ (.undisturbed σ) _ _ _ holder)
  | enter transition admitted =>
    exact .inl (@Step.enter σ (.undisturbed σ) _ _ _ transition admitted)
  | other others step => exact .inl (@Step.other σ (.undisturbed σ) _ _ _ _ _ _ _ others step)
  | leave others => exact .inl (@Step.leave σ (.undisturbed σ) _ _ _ _ _ others)
  | take gate taken => exact .inl (@Step.take σ (.undisturbed σ) _ _ _ gate taken)
  | refused gate refused => exact .inl (@Step.refused σ (.undisturbed σ) _ _ _ _ gate refused)
  | drop gate gates => exact .inl (@Step.drop σ (.undisturbed σ) _ _ _ _ gate gates)

/-- The step of a client is a step. -/
theorem Moves.step (h : c.Moves admits c') : Step admits c c' := by
  cases h with
  | lock free transition => exact .lock free transition
  | held holder step => exact .held holder step
  | unlock holder => exact .unlock holder
  | enter transition admitted => exact .enter transition admitted
  | other others step => exact .other others step
  | leave others => exact .leave others
  | take gate taken => exact .take gate taken
  | refused gate refused => exact .refused gate refused
  | drop gate gates => exact .drop gate gates
  | aside x => cases x

/-- What a crowd can come to, and what was shown to its endpoint since a client last found it
idle. -/
inductive Recorded (R : Recorder σ ι) (admits : Served.Op σ → Prop) (start : Crowd σ) :
    Crowd σ → List ι → Prop where
  | start : Recorded R admits start start []
  | moved {c c' : Crowd σ} {shown : List ι} (before : Recorded R admits start c shown)
      (step : c.Moves admits c') :
      Recorded R admits start c' (if R.idle c.rig then [] else shown)
  | aside {c : Crowd σ} {shown : List ι} (before : Recorded R admits start c shown)
      (x : Served.Aside σ) :
      Recorded R admits start { c with rig := Served.aside x c.rig } (shown ++ R.shows x c.rig)

/-- Every crowd that can be reached has a record. -/
theorem recorded_of_reaches (R : Recorder σ ι) {start : Crowd σ} (h : Reaches admits start c) :
    ∃ shown, Recorded R admits start c shown := by
  induction h with
  | refl => exact ⟨[], .start⟩
  | tail _ step ih =>
    obtain ⟨shown, before⟩ := ih
    rcases step.moves_or_aside with moves | ⟨x, rfl⟩
    · exact ⟨_, .moved before moves⟩
    · exact ⟨_, .aside before x⟩

variable {R : Recorder σ ι} {start : Crowd σ}

/-- A record is one of crowds that can be reached. -/
theorem Recorded.reaches {shown : List ι} (h : Recorded R admits start c shown) :
    Reaches admits start c := by
  induction h with
  | start => exact .refl
  | moved _ step ih => exact ih.tail step.step
  | aside _ x ih => exact ih.aside x

/-- From a record one can tell a record of less. -/
theorem Recorded.map {κ : Type} {R' : Recorder σ κ} {shown : List ι} (f : ι → κ)
    (shows : ∀ x s, R'.shows x s = (R.shows x s).map f) (idle : ∀ s, R'.idle s = R.idle s)
    (h : Recorded R admits start c shown) : Recorded R' admits start c (shown.map f) := by
  induction h with
  | start => exact .start
  | @moved c _ shown _ step ih =>
    have moved := ih.moved step
    rw [idle] at moved
    rwa [apply_ite (List.map f)]
  | aside _ x ih =>
    rw [List.map_append, ← shows]
    exact ih.aside x

/-! ## Operations that nobody interrupts -/

/-- Clients show nothing themselves. -/
theorem Recorded.silently (h : Recorded R admits start c []) (step : c.Moves admits c') :
    Recorded R admits start c' [] := by
  have moved := h.moved step
  rwa [ite_self] at moved

/-- An operation carried out from where nothing is on record leaves nothing on record. -/
theorem Recorded.held {w : Errand σ} {a : Except EndpointError Unit} {s' : σ}
    (h : Recorded R admits start c []) (holder : c.holder = some w)
    (run : w.run c.rig = .finished a s') :
    Recorded R admits start { c with rig := s', holder := some (.done a) } [] :=
  holds_of_run (P := fun c => Recorded R admits start c [])
    (fun h holder step => h.silently (moves_held holder step))
    h holder run

/-- A client finds the lock free and carries its operation out. -/
theorem Recorded.served {a : Except EndpointError Unit} {s' : σ}
    (h : Recorded R admits start c []) (op : Served.Op σ)
    (free : c.holder = none) (transition : (Served.transition op).isSome)
    (run : (Served.work op).run.run c.rig = .finished a s') :
    Recorded R admits start { c with rig := s' } [] := by
  have locked := h.silently (@Step.lock σ (.undisturbed σ) _ _ _ free transition)
  have unlocked := (locked.held rfl run).silently (@Step.unlock σ (.undisturbed σ) _ _ _ rfl)
  rw [← free] at unlocked
  exact unlocked

/-- Clients find the lock free one after another. -/
theorem Recorded.inTurn {ops : List (Served.Op σ)} {s' : σ} (h : Recorded R admits start c [])
    (free : c.holder = none) (run : Served.inTurn? ops c.rig = some s') :
    Recorded R admits start { c with rig := s' } [] :=
  Served.holds_of_inTurn? (P := fun s => Recorded R admits start { c with rig := s } [])
    (fun transition h run => h.served _ free transition run) h run

end Crowd

end Sensing
