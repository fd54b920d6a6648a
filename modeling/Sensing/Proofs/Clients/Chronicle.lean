import Sensing.Proofs.Clients.Custody
import Sensing.Proofs.Clients.Session

/-!
# Histories that keep a record

A history of tasks and sessions (`Dispatch.Traced`) and a record of what was shown to an endpoint
(`Crowd.Recorded`) are about the same steps. `Dispatch.Chronicled` keeps both at once, so that one
can say what was shown in a session. An application that drops its endpoint sees it off as the
client with the lock, so the custody that the lock gives must cover that too (`Custody.Escorts`).

Every history has a record (`Dispatch.chronicled_of_traced`), and what is within the custody holds
along it (`Custody.invariant_of_chronicled`).
-/

namespace Sensing

variable {σ η ι : Type} [Served σ]

/-- What is left of a record where a client takes its step. -/
def Recorder.since (R : Recorder σ ι) (s : σ) (shown : List ι) : List ι :=
  if R.idle s then [] else shown

namespace Dispatch

/-- What a crowd can come to, with the task under way, the endpoint as that task found it, the
session, and what was shown since a client last found the endpoint idle. -/
inductive Chronicled (D : Dispatch σ) (R : Recorder σ ι) (admits : Served.Op σ → Prop)
    (start : Crowd σ) :
    Crowd σ → Option (Task σ × σ) → Option (Beginning σ) → List ι → Prop where
  | start : Chronicled D R admits start start none none []
  | begun {c : Crowd σ} {session : Option (Beginning σ)} {shown : List ι}
      (before : Chronicled D R admits start c none session shown) (free : c.holder = none)
      (t : Task σ) :
    Chronicled D R admits start { c with holder := some (D.errand t) } (some (t, c.rig)) session
      (R.since c.rig shown)
  /-- A client does anything but take the lock or let go of it. -/
  | moved {c c' : Crowd σ} {task : Option (Task σ × σ)} {session : Option (Beginning σ)}
      {shown : List ι} (before : Chronicled D R admits start c task session shown)
      (step : c.Moves admits c') (same : c.holder = none ↔ c'.holder = none) :
    Chronicled D R admits start c' task session (R.since c.rig shown)
  | aside {c : Crowd σ} {task : Option (Task σ × σ)} {session : Option (Beginning σ)}
      {shown : List ι} (before : Chronicled D R admits start c task session shown)
      (x : Served.Aside σ) :
    Chronicled D R admits start { c with rig := Served.aside x c.rig } task session
      (shown ++ R.shows x c.rig)
  | answered {c : Crowd σ} {t : Task σ} {found : σ} {session : Option (Beginning σ)}
      {shown : List ι} {a : Except EndpointError Unit}
      (before : Chronicled D R admits start c (some (t, found)) session shown)
      (answer : c.holder = some (.done a)) :
    Chronicled D R admits start { c with holder := none } none (D.after t found a session)
      (R.since c.rig shown)

variable {D : Dispatch σ} {R : Recorder σ ι} {admits : Served.Op σ → Prop} {start c : Crowd σ}
  {task : Option (Task σ × σ)} {session : Option (Beginning σ)} {shown : List ι}

/-- A chronicle without its record is a history. -/
theorem Chronicled.traced (h : D.Chronicled R admits start c task session shown) :
    D.Traced admits start c task session := by
  induction h with
  | start => exact .start
  | begun _ free t ih => exact ih.begun free t
  | moved _ step same ih => exact ih.step step.step same
  | aside _ x ih => exact ih.step (.aside x) Iff.rfl
  | answered _ answer ih => exact ih.answered answer

/-- Every history has a record. -/
theorem chronicled_of_traced (R : Recorder σ ι) (h : D.Traced admits start c task session) :
    ∃ shown, D.Chronicled R admits start c task session shown := by
  induction h with
  | start => exact ⟨_, .start⟩
  | begun _ free t ih =>
    obtain ⟨_, before⟩ := ih
    exact ⟨_, before.begun free t⟩
  | step _ step same ih =>
    obtain ⟨_, before⟩ := ih
    rcases step.moves_or_aside with moves | ⟨x, rfl⟩
    · exact ⟨_, before.moved moves same⟩
    · exact ⟨_, before.aside x⟩
  | answered _ answer ih =>
    obtain ⟨_, before⟩ := ih
    exact ⟨_, before.answered answer⟩

/-- A client carries a task out while nobody else does anything. -/
theorem Chronicled.carried {a : Except EndpointError Unit} {s' : σ}
    (h : D.Chronicled R admits start c none session []) (free : c.holder = none) (t : Task σ)
    (run : (D.errand t).run c.rig = .finished a s') :
    D.Chronicled R admits start { c with rig := s' } none (D.after t c.rig a session) [] := by
  have blank (s : σ) : R.since s [] = [] := ite_self _
  have begun := h.begun free t
  rw [blank] at begun
  have done := Crowd.holds_of_run
    (P := fun c' => D.Chronicled R admits start c' (some (t, c.rig)) session [])
    (fun h holder step => by
      have moved := h.moved (Crowd.moves_held holder step) (by simp [holder])
      rwa [blank] at moved)
    begun rfl run
  have answered := done.answered rfl
  rw [blank] at answered
  rw [← free] at answered
  exact answered

end Dispatch

namespace Custody

variable {C : Custody σ η} {D : Dispatch σ} {R : Recorder σ ι} {admits : Served.Op σ → Prop}
  {start c : Crowd σ} {task : Option (Task σ × σ)} {session : Option (Beginning σ)}
  {shown : List ι}

/-- All that clients do is within the custody, and so is seeing the endpoint off. -/
structure Escorts (C : Custody σ η) (D : Dispatch σ) (admits : Served.Op σ → Prop) : Prop
    extends Fits C admits where
  retires : (Work.ofProcedure D.retire).Follows C.holding (fun _ h => C.Rests h) C.rest

/-- Whatever the task, its errand is within the custody. -/
theorem Escorts.errand (escorts : C.Escorts D admits) (t : Task σ) :
    Work.Follows C.holding (fun _ h => C.Rests h) (D.errand t) C.rest := by
  cases t with
  | serve op locks => exact escorts.locking locks
  | retire => exact escorts.retires

/-- A client gets the lock, for whatever task, where nobody has it. -/
theorem Kept.begun (h : C.Kept c) (escorts : C.Escorts D admits) (free : c.holder = none)
    (t : Task σ) : C.Kept { c with holder := some (D.errand t) } :=
  ⟨⟨C.rest, h.at_rest free, escorts.errand t⟩, h.others⟩

omit [Served σ] in
/-- A client that has answered has come to rest, so it may let go of the lock. -/
theorem Kept.answered {a : Except EndpointError Unit} (h : C.Kept c)
    (answer : c.holder = some (.done a)) : C.Kept { c with holder := none } := by
  obtain ⟨⟨k, sees, held⟩, binds⟩ := h
  rw [answer] at held
  exact ⟨⟨k, sees, held⟩, binds⟩

/-- What the clients' steps and the asides preserve holds along every history, and of what was
recorded on the way. -/
theorem invariant_of_chronicled (escorts : C.Escorts D admits) {I : List ι → σ → Prop}
    (move : ∀ {s s' is}, C.may s s' → I is s → I (R.since s is) s')
    (aside : ∀ {s is} x, I is s → I (is ++ R.shows x s) (Served.aside x s))
    (kept : C.Kept start) (initially : I [] start.rig)
    (h : D.Chronicled R admits start c task session shown) : C.Kept c ∧ I shown c.rig := by
  have still (s : σ) : C.may s s := C.may_of_beside (C.beside_refl s)
  induction h with
  | start => exact ⟨kept, initially⟩
  | begun _ free t ih => exact ⟨ih.1.begun escorts free t, move (still _) ih.2⟩
  | moved _ step _ ih =>
    obtain ⟨kept, may⟩ := ih.1.moves escorts.toFits step
    exact ⟨kept, move may ih.2⟩
  | aside _ x ih => exact ⟨ih.1.aside escorts.toFits x, aside x ih.2⟩
  | answered _ answer ih => exact ⟨ih.1.answered answer, move (still _) ih.2⟩

end Custody

end Sensing
