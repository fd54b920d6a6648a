import Sensing.Endpoint.Core

/-!
# The phases of an endpoint

An endpoint is closed, opened or streaming, and four operations lead from one phase to another.
`Phase.after` and `Phase.refuses` are that machine in full: where an operation leads, which depends
on its success for opening and starting only, and where it is refused.

Main results: every combination of flags that belongs to a phase belongs to one phase only
(`InPhase.unique`), and the checks of opening, closing and starting refuse exactly where the machine
does (`checkOpen_guards`, `checkClose_guards`, `checkStart_guards`).
-/

namespace Sensing

/-- What an endpoint is doing. -/
inductive Phase where
  | closed
  | opened
  | streaming
  deriving DecidableEq, Repr

/-- The operations that lead from one phase to another. -/
inductive Transition where
  | openStreams
  | close
  | start
  | stop
  deriving DecidableEq, Repr

/-- An answer that blames its caller. -/
def IsMisuse {α : Type} (a : Except EndpointError α) : Prop :=
  ∃ detail, a = .error (.precondition detail)

theorem not_isMisuse_ok {α : Type} (a : α) : ¬ IsMisuse (.ok a) := fun ⟨_, h⟩ => nomatch h

/-- What goes on after a success blames nobody if neither part does. -/
theorem not_isMisuse_bind {α β : Type} {x : Except EndpointError α}
    {f : α → Except EndpointError β} (hx : ¬ IsMisuse x) (hf : ∀ a, ¬ IsMisuse (f a)) :
    ¬ IsMisuse (x >>= f) := by
  cases x with
  | ok a => exact hf a
  | error e =>
    intro misuse
    obtain ⟨detail, h⟩ := misuse
    cases h
    exact hx ⟨detail, rfl⟩

/-- The same for many parts, one after another. -/
theorem not_isMisuse_mapM {α β : Type} {f : α → Except EndpointError β}
    (hf : ∀ a, ¬ IsMisuse (f a)) (as : List α) : ¬ IsMisuse (as.mapM f) := by
  induction as with
  | nil => exact not_isMisuse_ok []
  | cons a as ih =>
    rw [List.mapM_cons]
    exact not_isMisuse_bind (hf a) fun _ => not_isMisuse_bind ih fun _ => not_isMisuse_ok _

/-- The failure of a device is nobody's misuse. -/
theorem not_isMisuse_ofCause {α : Type} (cause : Cause) :
    ¬ IsMisuse (.error (.ofCause cause) : Except EndpointError α) := fun ⟨_, h⟩ => nomatch h

namespace Phase

def isOpened : Phase → Bool
  | .closed => false
  | .opened | .streaming => true

def isStreaming : Phase → Bool
  | .closed | .opened => false
  | .streaming => true

/-- The power references that the endpoint itself keeps: one while it is opened, one more while it
streams. -/
def refs : Phase → Nat
  | .closed => 0
  | .opened => 1
  | .streaming => 2

/-- Where an operation leads, by whether it succeeded. -/
def after : Phase → Transition → Bool → Phase
  | .closed, .openStreams, true => .opened
  | .opened, .close, _ => .closed
  | .opened, .start, true => .streaming
  | .streaming, .stop, _ => .opened
  | p, _, _ => p

/-- Whether an operation is a misuse in a phase. -/
def refuses : Phase → Transition → Bool
  | .closed, .openStreams | .opened, .close | .opened, .start | _, .stop => false
  | _, _ => true

/-- Each flag of a phase stands for one reference. -/
theorem refs_eq (p : Phase) :
    p.refs = (if p.isOpened then 1 else 0) + (if p.isStreaming then 1 else 0) := by
  cases p <;> rfl

/-- What streams is open. -/
theorem isOpened_of_isStreaming {p : Phase} (h : p.isStreaming = true) : p.isOpened = true := by
  cases p with
  | closed | opened => cases h
  | streaming => rfl

/-- Only one phase is that of streaming. -/
theorem isStreaming_eq_false {p : Phase} (h : p ≠ .streaming) : p.isStreaming = false := by
  cases p with
  | closed | opened => rfl
  | streaming => exact absurd rfl h

/-- The flags tell the phases apart. -/
theorem eq_of_flags {p q : Phase} (opened : p.isOpened = q.isOpened)
    (streaming : p.isStreaming = q.isStreaming) : p = q := by
  cases p <;> cases q <;> simp_all [isOpened, isStreaming]

/-- What is refused leads nowhere. -/
theorem after_of_refuses {p : Phase} {t : Transition} (h : p.refuses t = true) (success : Bool) :
    p.after t success = p := by
  cases p <;> cases t <;> simp_all [refuses, after]

/-- The answers that an operation gives when it was called in a phase: it blames its caller exactly
where the machine refuses it, and stopping what does not stream is a success. -/
structure Answers (p : Phase) (t : Transition) (a : Except EndpointError Unit) : Prop where
  misuse : IsMisuse a ↔ p.refuses t = true
  idle : t = .stop → p ≠ .streaming → a = .ok ()

/-- What the check before an operation finds. -/
def Guards (p : Phase) (t : Transition) (a : Except EndpointError Unit) : Prop :=
  (p.refuses t = true ∧ IsMisuse a) ∨ (p.refuses t = false ∧ a = .ok ())

end Phase

namespace Core

/-- The flags of a phase. -/
structure InPhase (c : Core) (p : Phase) : Prop where
  opened : c.opened = p.isOpened
  streaming : c.streaming = p.isStreaming

/-- The flags belong to one phase at most. -/
theorem InPhase.unique {c : Core} {p q : Phase} (hp : c.InPhase p) (hq : c.InPhase q) : p = q :=
  Phase.eq_of_flags (hp.opened.symm.trans hq.opened) (hp.streaming.symm.trans hq.streaming)

variable {c : Core} {p : Phase} (who : String)

/-- Opening is refused unless the endpoint is closed, -/
theorem checkOpen_guards (h : c.InPhase p) : p.Guards .openStreams (c.checkOpen who) := by
  unfold checkOpen
  rw [h.opened, h.streaming]
  cases p with
  | closed => exact .inr ⟨rfl, rfl⟩
  | opened | streaming => exact .inl ⟨rfl, _, rfl⟩

/-- closing unless it is open and does not stream, -/
theorem checkClose_guards (h : c.InPhase p) : p.Guards .close (c.checkClose who) := by
  unfold checkClose
  rw [h.opened, h.streaming]
  cases p with
  | opened => exact .inr ⟨rfl, rfl⟩
  | closed | streaming => exact .inl ⟨rfl, _, rfl⟩

/-- and starting likewise. -/
theorem checkStart_guards (h : c.InPhase p) : p.Guards .start (c.checkStart who) := by
  unfold checkStart
  rw [h.opened, h.streaming]
  cases p with
  | opened => exact .inr ⟨rfl, rfl⟩
  | closed | streaming => exact .inl ⟨rfl, _, rfl⟩

end Core

end Sensing
