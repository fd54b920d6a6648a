/-!
# Procedures: work in indivisible steps

An operation on shared state is a *procedure*: a sequence of steps, each of which changes the state
at once, and of points where it waits for a condition. Between two steps of a procedure other
clients may act. `run` is the history without other clients; it ends when the procedure is finished
or waits for something that only another client can bring about.

Main results: `Procedure` is a lawful monad, and running a sequence is running its first part and
then, if that finished, the second (`run_bind`).
-/

namespace Sensing

/-- Work on a state `σ` that gives an `α`. -/
inductive Procedure (σ α : Type) : Type 1 where
  | done (a : α)
  /-- One indivisible step, and what follows from its answer. -/
  | step {β : Type} (act : σ → β × σ) (next : β → Procedure σ α)
  /-- Nothing happens until the state is ready. -/
  | await (ready : σ → Bool) (next : Procedure σ α)

/-- How far a procedure came: it finished, or it waits. -/
inductive Outcome (σ α : Type) : Type 1 where
  | finished (a : α) (s : σ)
  | waiting (rest : Procedure σ α) (s : σ)

namespace Procedure

variable {σ α β γ : Type}

/-- One procedure after another. -/
def bind : Procedure σ α → (α → Procedure σ β) → Procedure σ β
  | .done a, f => f a
  | .step act next, f => .step act fun b => (next b).bind f
  | .await ready next, f => .await ready (next.bind f)

instance : Monad (Procedure σ) where
  pure := .done
  bind := .bind

instance : MonadLift (StateM σ) (Procedure σ) where
  monadLift act := .step act .done

/-- A step that only looks at the state. -/
def look (view : σ → α) : Procedure σ α := .step (fun s => (view s, s)) .done

/-- A step that only changes the state. -/
def change (f : σ → σ) : Procedure σ Unit := .step (fun s => ((), f s)) .done

/-- Waits until the state is ready. -/
def waitFor (ready : σ → Bool) : Procedure σ Unit := .await ready (.done ())

theorem bind_done (p : Procedure σ α) : p.bind .done = p := by
  induction p with
  | done a => rfl
  | step act next ih => exact congrArg _ (funext ih)
  | await ready next ih => exact congrArg _ ih

theorem bind_assoc (p : Procedure σ α) (f : α → Procedure σ β) (g : β → Procedure σ γ) :
    (p.bind f).bind g = p.bind fun a => (f a).bind g := by
  induction p with
  | done a => rfl
  | step act next ih => exact congrArg _ (funext ih)
  | await ready next ih => exact congrArg _ ih

instance : LawfulMonad (Procedure σ) :=
  LawfulMonad.mk' (Procedure σ) bind_done (fun _ _ => rfl) bind_assoc

/-- Carries a procedure out on a part of a larger state, which takes the part over after each
step. -/
def within {τ : Type} (part : τ → σ) (takeOver : σ → τ → τ) : Procedure σ α → Procedure τ α
  | .done a => .done a
  | .step act next =>
    .step (fun t => ((act (part t)).1, takeOver (act (part t)).2 t)) fun b =>
      (next b).within part takeOver
  | .await ready next => .await (fun t => ready (part t)) (next.within part takeOver)

/-- Carries a procedure out until it is finished or waits. -/
def run : Procedure σ α → σ → Outcome σ α
  | .done a, s => .finished a s
  | .step act next, s => (next (act s).1).run (act s).2
  | .await ready next, s => if ready s then next.run s else .waiting (.await ready next) s

/-- What becomes of an outcome when more work follows. -/
def followedBy (o : Outcome σ α) (f : α → Procedure σ β) : Outcome σ β :=
  match o with
  | .finished a s => (f a).run s
  | .waiting rest s => .waiting (rest.bind f) s

theorem run_bind (p : Procedure σ α) (f : α → Procedure σ β) (s : σ) :
    (p >>= f).run s = followedBy (p.run s) f := by
  change (p.bind f).run s = _
  induction p generalizing s with
  | done a => rfl
  | step act next ih => exact ih _ _
  | await ready next ih =>
    simp only [bind, run]
    split
    · exact ih s
    · rfl

end Procedure

end Sensing
