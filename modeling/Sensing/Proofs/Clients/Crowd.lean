import Mathlib.Logic.Relation
import Sensing.Proofs.Clients.Rules
import Sensing.Proofs.Lifecycle.Phase

/-!
# Clients who share an endpoint

A *crowd* is an endpoint with all who are busy with it: the client whose operation holds the
configuration lock, the clients amid operations that need no lock, and the power gates that clients
hold. One `Step` of a crowd is one step of one of them, whichever it happens to be, so the crowds
that can be reached are those of all interleavings of any number of clients.

Operations that lead from one phase to another hold the lock from their beginning to their end.
Taking and dropping a gate are single steps. *Asides* are single steps too: what applications do
without the endpoint's device, and what the device does on its own.
-/

namespace Sensing

/-- What a procedure comes to if nobody else does anything, unless it waits for ever. -/
def Procedure.outcome? {σ α : Type} (p : Procedure σ α) (s : σ) : Option (α × σ) :=
  match p.run s with
  | .finished a s' => some (a, s')
  | .waiting _ _ => none

/-- An outcome is what the run comes to. -/
theorem Procedure.run_of_outcome? {σ α : Type} {p : Procedure σ α} {s s' : σ} {a : α}
    (h : p.outcome? s = some (a, s')) : p.run s = .finished a s' := by
  unfold outcome? at h
  split at h
  next run =>
    cases h
    exact run
  next => cases h

/-- What work comes to that succeeds if nobody else does anything. -/
def Work.success? {σ α : Type} (w : Work σ α) (s : σ) : Option (α × σ) :=
  match w.run.outcome? s with
  | some (.ok a, s') => some (a, s')
  | _ => none

/-- A success is what the run comes to. -/
theorem Work.run_of_success? {σ α : Type} {w : Work σ α} {s s' : σ} {a : α}
    (h : w.success? s = some (a, s')) : w.run.run s = .finished (.ok a) s' := by
  unfold success? at h
  split at h
  next run =>
    cases h
    exact Procedure.run_of_outcome? run
  next => cases h

/-- The same where something is to hold of every state on the way. -/
def Procedure.outcomeWhile? {σ α : Type} (P : σ → Prop) [DecidablePred P] :
    Procedure σ α → σ → Option (α × σ)
  | .done a, s => if P s then some (a, s) else none
  | .step act next, s => if P s then (next (act s).1).outcomeWhile? P (act s).2 else none
  | .await ready next, s => if P s ∧ ready s = true then next.outcomeWhile? P s else none

/-- It holds from the beginning. -/
theorem Procedure.holds_of_outcomeWhile? {σ α : Type} {P : σ → Prop} [DecidablePred P]
    {p : Procedure σ α} {s : σ} {x : α × σ} (h : p.outcomeWhile? P s = some x) : P s := by
  cases p with
  | done | step =>
    unfold outcomeWhile? at h
    split at h
    · assumption
    · cases h
  | await =>
    unfold outcomeWhile? at h
    split at h
    next both => exact both.1
    next => cases h

/-- A reference that clients take, which may fail, and drop again. -/
structure Gate (σ : Type) where
  take : σ → Except EndpointError Unit × σ
  drop : σ → σ

/-- What clients can do with an endpoint `σ`. -/
class Served (σ : Type) where
  Op : Type 1
  work : Op → Work σ Unit
  /-- The transition that an operation is for. -/
  transition : Op → Option Transition
  Aside : Type
  aside : Aside → σ → σ
  gate : Option (Gate σ)

/-- What operations with the lock come to that are carried out one after another while nobody else
does anything. -/
def Served.inTurn? {σ : Type} [Served σ] : List (Served.Op σ) → σ → Option σ
  | [], s => some s
  | op :: ops, s =>
    if (Served.transition op).isSome then
      ((Served.work op).run.outcome? s).bind fun answered => inTurn? ops answered.2
    else none

/-- What each of them preserves holds when they have all come to their answers. -/
theorem Served.holds_of_inTurn? {σ : Type} [Served σ] {P : σ → Prop} {ops : List (Served.Op σ)}
    {s s' : σ} (onward : ∀ {op s a s'}, (Served.transition op).isSome → P s →
      (Served.work op).run.run s = .finished a s' → P s')
    (h : P s) (run : inTurn? ops s = some s') : P s' := by
  induction ops generalizing s with
  | nil =>
    cases run
    exact h
  | cons op ops ih =>
    unfold inTurn? at run
    split at run
    next transition =>
      obtain ⟨answered, first, rest⟩ := Option.bind_eq_some_iff.1 run
      exact ih (onward transition h (Procedure.run_of_outcome? first)) rest
    next => cases run

/-- An operation under way. -/
abbrev Errand (σ : Type) : Type 1 := Procedure σ (Except EndpointError Unit)

/-- An endpoint and the clients who are busy with it. -/
structure Crowd (σ : Type) where
  rig : σ
  /-- The operation that holds the configuration lock. -/
  holder : Option (Errand σ) := none
  /-- The operations that run without the lock. -/
  others : List (Errand σ) := []
  /-- How many gates are held. -/
  gates : Nat := 0

namespace Crowd

variable {σ : Type} [Served σ]

/-- One step of somebody in the crowd. Operations without a transition are only begun if they are
admitted. -/
inductive Step (admits : Served.Op σ → Prop) : Crowd σ → Crowd σ → Prop where
  /-- A client gets the lock, and its operation begins. -/
  | lock {c : Crowd σ} {op : Served.Op σ} (free : c.holder = none)
      (transition : (Served.transition op).isSome) :
    Step admits c { c with holder := some (Served.work op).run }
  | held {c : Crowd σ} {w w' : Errand σ} {s' : σ} (holder : c.holder = some w)
      (step : w.Step c.rig w' s') :
    Step admits c { c with rig := s', holder := some w' }
  | unlock {c : Crowd σ} {a : Except EndpointError Unit} (holder : c.holder = some (.done a)) :
    Step admits c { c with holder := none }
  | enter {c : Crowd σ} {op : Served.Op σ} (transition : Served.transition op = none)
      (admitted : admits op) :
    Step admits c { c with others := (Served.work op).run :: c.others }
  | other {c : Crowd σ} {before after : List (Errand σ)} {w w' : Errand σ} {s' : σ}
      (others : c.others = before ++ w :: after) (step : w.Step c.rig w' s') :
    Step admits c { c with rig := s', others := before ++ w' :: after }
  | leave {c : Crowd σ} {before after : List (Errand σ)} {a : Except EndpointError Unit}
      (others : c.others = before ++ .done a :: after) :
    Step admits c { c with others := before ++ after }
  | take {c : Crowd σ} {g : Gate σ} (gate : Served.gate = some g)
      (taken : (g.take c.rig).1 = .ok ()) :
    Step admits c { c with rig := (g.take c.rig).2, gates := c.gates + 1 }
  | refused {c : Crowd σ} {g : Gate σ} {e : EndpointError} (gate : Served.gate = some g)
      (refused : (g.take c.rig).1 = .error e) :
    Step admits c { c with rig := (g.take c.rig).2 }
  | drop {c : Crowd σ} {g : Gate σ} {n : Nat} (gate : Served.gate = some g)
      (gates : c.gates = n + 1) :
    Step admits c { c with rig := g.drop c.rig, gates := n }
  | aside {c : Crowd σ} (x : Served.Aside σ) :
    Step admits c { c with rig := Served.aside x c.rig }

/-- The operation that holds the lock goes one step on. -/
def HolderMoves (c c' : Crowd σ) : Prop :=
  ∃ w w', c.holder = some w ∧ c'.holder = some w' ∧ w.Step c.rig w' c'.rig

/-- What a crowd can come to, in any number of steps. -/
def Reaches (admits : Served.Op σ → Prop) : Crowd σ → Crowd σ → Prop :=
  Relation.ReflTransGen (Step admits)

/-- What a crowd can come to while a property holds of all crowds on the way. -/
def ReachesWhile (P : Crowd σ → Prop) (admits : Served.Op σ → Prop) : Crowd σ → Crowd σ → Prop :=
  Relation.ReflTransGen fun c c' => Step admits c c' ∧ P c ∧ P c'

/-- The first steps of a run, so many of them, are steps of somebody. -/
def Run (admits : Served.Op σ → Prop) (run : Nat → Crowd σ) (steps : Nat) : Prop :=
  ∀ i < steps, Step admits (run i) (run (i + 1))

/-- A client finds the lock free, and its operation is carried out, among whatever the others do
meanwhile, until it answers; the lock is its own for the whole time. -/
structure Serves (admits : Served.Op σ → Prop) (op : Served.Op σ) (c : Crowd σ)
    (a : Except EndpointError Unit) (c' : Crowd σ) : Prop where
  free : c.holder = none
  run : ReachesWhile (fun c => c.holder ≠ none) admits
    { c with holder := some (Served.work op).run } c'
  answer : c'.holder = some (.done a)

/-- No property is asked of the crowds on the way. -/
theorem Reaches.reachesWhile {admits : Served.Op σ → Prop} {c c' : Crowd σ}
    (h : Reaches admits c c') : ReachesWhile (fun _ => True) admits c c' :=
  Relation.ReflTransGen.mono (fun _ _ h => ⟨h, trivial, trivial⟩) _ _ h

/-- What can be reached while something holds can be reached. -/
theorem ReachesWhile.reaches {P : Crowd σ → Prop} {admits : Served.Op σ → Prop} {c c' : Crowd σ}
    (h : ReachesWhile P admits c c') : Reaches admits c c' :=
  Relation.ReflTransGen.mono (fun _ _ h => h.1) _ _ h

/-- What can be reached by some operations can be reached by more. -/
theorem Reaches.of_admitted {admits admits' : Served.Op σ → Prop} {c c' : Crowd σ}
    (h : Reaches admits c c') (more : ∀ op, admits op → admits' op) : Reaches admits' c c' := by
  refine Relation.ReflTransGen.mono (fun c c' step => ?_) _ _ h
  cases step with
  | lock free transition => exact .lock free transition
  | held holder step => exact .held holder step
  | unlock holder => exact .unlock holder
  | enter transition admitted => exact .enter transition (more _ admitted)
  | other others step => exact .other others step
  | leave others => exact .leave others
  | take gate taken => exact .take gate taken
  | refused gate refused => exact .refused gate refused
  | drop gate gates => exact .drop gate gates
  | aside x => exact .aside x

/-! ## Operations that nobody interrupts -/

variable {admits : Served.Op σ → Prop} {start c : Crowd σ}

omit [Served σ] in
/-- What the steps of the operation with the lock preserve holds when it has come to its answer. -/
theorem holds_of_run {P : Crowd σ → Prop} {w : Errand σ} {a : Except EndpointError Unit} {s' : σ}
    (onward : ∀ {c w w' s'}, P c → c.holder = some w → w.Step c.rig w' s' →
      P { c with rig := s', holder := some w' })
    (h : P c) (holder : c.holder = some w) (run : w.run c.rig = .finished a s') :
    P { c with rig := s', holder := some (.done a) } := by
  induction w generalizing c with
  | done b =>
    cases run
    rw [← holder]
    exact h
  | step act next ih =>
    have rest := ih _ (onward h holder (.act act next c.rig)) rfl run
    exact rest
  | await ready next ih =>
    unfold Procedure.run at run
    split at run
    next isReady =>
      have rest := ih (onward h holder (.ready next isReady)) rfl run
      exact rest
    next => cases run

section While

variable {P : σ → Prop} [DecidablePred P] {a : Except EndpointError Unit} {s' : σ}

/-- The operation with the lock comes to its answer, and what holds on the way holds of the
crowds. -/
theorem ReachesWhile.carried {w : Errand σ} (h : ReachesWhile (fun c => P c.rig) admits start c)
    (holder : c.holder = some w) (run : w.outcomeWhile? P c.rig = some (a, s')) :
    ReachesWhile (fun c => P c.rig) admits start
      { c with rig := s', holder := some (.done a) } := by
  have here := Procedure.holds_of_outcomeWhile? run
  -- Induction on the operation: each of its steps is a step of the crowd, from one state in which
  -- the property holds to another.
  induction w generalizing c with
  | done b =>
    unfold Procedure.outcomeWhile? at run
    rw [if_pos here] at run
    cases run
    rw [← holder]
    exact h
  | step act next ih =>
    unfold Procedure.outcomeWhile? at run
    rw [if_pos here] at run
    have there := Procedure.holds_of_outcomeWhile? run
    have stepped : ReachesWhile (fun c => P c.rig) admits start
        { c with rig := (act c.rig).2, holder := some (next (act c.rig).1) } :=
      h.tail ⟨.held holder (.act act next c.rig), here, there⟩
    have rest := ih _ stepped rfl run there
    exact rest
  | await ready next ih =>
    unfold Procedure.outcomeWhile? at run
    split at run
    next both =>
      have stepped : ReachesWhile (fun c => P c.rig) admits start { c with holder := some next } :=
        h.tail ⟨.held holder (.ready next both.2), here, here⟩
      have rest := ih stepped rfl run here
      exact rest
    next => cases run

/-- A client finds the lock free, and its operation comes to its answer. -/
theorem ReachesWhile.served {op : Served.Op σ}
    (h : ReachesWhile (fun c => P c.rig) admits start c) (here : P c.rig)
    (free : c.holder = none) (transition : (Served.transition op).isSome)
    (run : (Served.work op).run.outcomeWhile? P c.rig = some (a, s')) :
    ReachesWhile (fun c => P c.rig) admits start
      { c with rig := s', holder := some (.done a) } := by
  have locked : ReachesWhile (fun c => P c.rig) admits start
      { c with holder := some (Served.work op).run } :=
    h.tail ⟨.lock free transition, here, here⟩
  have carried := locked.carried rfl run
  exact carried

end While

/-- From wherever it has come, a crowd may be met by an aside. -/
theorem Reaches.aside (h : Reaches admits start c) (x : Served.Aside σ) :
    Reaches admits start { c with rig := Served.aside x c.rig } := h.tail (.aside x)

/-- A client finds the lock free and carries its operation out. -/
theorem Reaches.served {op : Served.Op σ} {a : Except EndpointError Unit} {s' : σ}
    (h : Reaches admits start c) (free : c.holder = none)
    (transition : (Served.transition op).isSome)
    (run : (Served.work op).run.run c.rig = .finished a s') :
    Reaches admits start { c with rig := s' } := by
  have locked : Reaches admits start { c with holder := some (Served.work op).run } :=
    h.tail (.lock free transition)
  have done : Reaches admits start { c with rig := s', holder := some (.done a) } :=
    holds_of_run (P := Reaches admits start) (c := { c with holder := some (Served.work op).run })
      (fun h holder step => h.tail (.held holder step)) locked rfl run
  have unlocked := done.tail (.unlock rfl)
  rw [← free] at unlocked
  exact unlocked

/-- Clients find the lock free one after another. -/
theorem Reaches.inTurn {ops : List (Served.Op σ)} {s' : σ} (h : Reaches admits start c)
    (free : c.holder = none) (run : Served.inTurn? ops c.rig = some s') :
    Reaches admits start { c with rig := s' } :=
  Served.holds_of_inTurn? (P := fun s => Reaches admits start { c with rig := s })
    (fun transition h run => h.served free transition run) h run

/-! ## Histories -/

/-- What every step can continue is continued along every run. -/
theorem Run.exists_history {α : Type} {I : α → Crowd σ → Prop}
    {S : Crowd σ → Crowd σ → α → α → Prop}
    (next : ∀ {c c' a}, I a c → Step admits c c' → ∃ a', S c c' a a' ∧ I a' c')
    {run : Nat → Crowd σ} {steps : Nat} (h : Run admits run steps) {a : α}
    (initially : I a (run 0)) :
    ∃ history : Nat → α, history 0 = a ∧
      (∀ i < steps, S (run i) (run (i + 1)) (history i) (history (i + 1))) ∧
      ∀ i ≤ steps, I (history i) (run i) := by
  induction steps with
  | zero =>
    refine ⟨fun _ => a, rfl, fun _ h => absurd h (Nat.not_lt_zero _), fun i hi => ?_⟩
    obtain rfl := Nat.le_zero.1 hi
    exact initially
  | succ n ih =>
    obtain ⟨history, begins, continues, holds⟩ := ih fun i hi => h i (Nat.lt_succ_of_lt hi)
    obtain ⟨a', last, holds'⟩ := next (holds n (Nat.le_refl n)) (h n (Nat.lt_succ_self n))
    refine ⟨fun i => if i ≤ n then history i else a', by simpa using begins, ?_, ?_⟩
    · intro i hi
      rcases Nat.lt_succ_iff_lt_or_eq.1 hi with earlier | rfl
      · simpa [Nat.le_of_lt earlier, Nat.succ_le_of_lt earlier] using continues i earlier
      · simpa [Nat.not_succ_le_self] using last
    · intro i hi
      rcases Nat.le_succ_iff.1 hi with earlier | rfl
      · simpa [earlier] using holds i earlier
      · simpa [Nat.not_succ_le_self] using holds'

end Crowd

end Sensing
