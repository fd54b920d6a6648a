import Sensing.Proofs.Clients.Knowledge
import Sensing.Proofs.Clients.Session

/-!
# All sessions that there were

What a device records grows with every session, so to say what it has recorded takes all sessions
since the beginning, those that are over included. `Dispatch.Annals` are the crowds that can be
reached, each with the starts that have succeeded so far, the first one first.

What is known at rest may then depend on the annals. If every task leads from what is known of the
sessions before it to what is to be known of those after it, that is known of every crowd
(`Dispatch.Annals.known`).
-/

namespace Sensing

namespace Dispatch

variable {σ V : Type} [Served σ] (D : Dispatch σ)

/-- What a task adds to the annals once it is answered. -/
def adds (t : Task σ) (found : σ) (a : Except EndpointError Unit) : List (Beginning σ) :=
  if a.isOk then (D.begins found t).toList else []

/-- What a crowd can come to, with the task under way, the endpoint as that task found it, and all
sessions that have begun. -/
inductive Annals (admits : Served.Op σ → Prop) (start : Crowd σ) :
    Crowd σ → Option (Task σ × σ) → List (Beginning σ) → Prop where
  | start : Annals admits start start none []
  | begun {c : Crowd σ} {sessions : List (Beginning σ)}
      (before : Annals admits start c none sessions) (free : c.holder = none) (t : Task σ) :
    Annals admits start { c with holder := some (D.errand t) } (some (t, c.rig)) sessions
  /-- Anything but taking the lock or letting go of it. -/
  | step {c c' : Crowd σ} {task : Option (Task σ × σ)} {sessions : List (Beginning σ)}
      (before : Annals admits start c task sessions) (step : Crowd.Step admits c c')
      (same : c.holder = none ↔ c'.holder = none) :
    Annals admits start c' task sessions
  | answered {c : Crowd σ} {t : Task σ} {found : σ} {sessions : List (Beginning σ)}
      {a : Except EndpointError Unit} (before : Annals admits start c (some (t, found)) sessions)
      (answer : c.holder = some (.done a)) :
    Annals admits start { c with holder := none } none (sessions ++ D.adds t found a)

variable {D} {admits : Served.Op σ → Prop} {start c : Crowd σ} {task : Option (Task σ × σ)}
  {session : Option (Beginning σ)} {sessions : List (Beginning σ)}

/-- Every history has its annals. -/
theorem annals_of_traced (h : D.Traced admits start c task session) :
    ∃ sessions, D.Annals admits start c task sessions := by
  induction h with
  | start => exact ⟨[], .start⟩
  | begun _ free t ih =>
    obtain ⟨sessions, before⟩ := ih
    exact ⟨sessions, before.begun free t⟩
  | step _ step same ih =>
    obtain ⟨sessions, before⟩ := ih
    exact ⟨sessions, before.step step same⟩
  | answered _ answer ih =>
    obtain ⟨sessions, before⟩ := ih
    exact ⟨_, before.answered answer⟩

/-- Every crowd that can be reached has annals. -/
theorem annals_of_reaches (D : Dispatch σ) (free : start.holder = none)
    (h : Crowd.Reaches admits start c) : ∃ task sessions, D.Annals admits start c task sessions ∧
      (task = none ↔ c.holder = none) := by
  obtain ⟨task, session, traced, same⟩ := traced_of_reaches D free h
  obtain ⟨sessions, annals⟩ := annals_of_traced traced
  exact ⟨task, sessions, annals, same⟩

/-- A client carries a task out while nobody else does anything. -/
theorem Annals.carried {a : Except EndpointError Unit} {s' : σ}
    (h : D.Annals admits start c none sessions) (free : c.holder = none) (t : Task σ)
    (run : (D.errand t).run c.rig = .finished a s') :
    D.Annals admits start { c with rig := s' } none (sessions ++ D.adds t c.rig a) := by
  have carried : D.Annals admits start { c with rig := s', holder := some (.done a) }
      (some (t, c.rig)) sessions :=
    Crowd.holds_of_run (P := fun c' => D.Annals admits start c' (some (t, c.rig)) sessions)
      (c := { c with holder := some (D.errand t) })
      (fun h holder step => h.step (.held holder step) (by simp [holder])) (h.begun free t) rfl run
  have answered := carried.answered rfl
  rw [← free] at answered
  exact answered

/-! ## What is known of the sessions -/

variable {K : Knowledge σ V} {I : List (Beginning σ) → V → Prop}

/-- Every task leads from what is known of the sessions before it to what is known of those after
it. -/
def Continues (D : Dispatch σ) (K : Knowledge σ V) (I : List (Beginning σ) → V → Prop) : Prop :=
  ∀ {t : Task σ} {found : σ} {v : V} {sessions : List (Beginning σ)}, K.tells v found →
    I sessions v → Work.Follows K.holding (Sure fun a v' => I (sessions ++ D.adds t found a) v')
      (D.errand t) (some v)

/-- Everybody in a crowd follows the rules, and the task under way leads to what is to be known. -/
def Documents (D : Dispatch σ) (K : Knowledge σ V) (I : List (Beginning σ) → V → Prop)
    (c : Crowd σ) (sessions : List (Beginning σ)) : Option (Task σ × σ) → Prop
  | none => c.holder = none ∧ K.Kept (I sessions) (fun _ _ => True) (fun _ => True) c
  | some (t, found) => c.holder ≠ none ∧
    K.Kept (fun _ => True) (fun a v => I (sessions ++ D.adds t found a) v) (fun _ => True) c

/-- Along all annals everybody follows the rules, and each task under way leads to what is to be
known of the sessions by then. -/
theorem Annals.documents (holds : ∀ s, K.holds s) (unspoilt : K.Unspoilt admits fun _ => True)
    (continues : D.Continues K I) {v : V} (known : K.tells v start.rig) (initially : I [] v)
    (free : start.holder = none) (alone : start.others = [])
    (h : D.Annals admits start c task sessions) : D.Documents K I c sessions task := by
  -- Between tasks everything is known at rest; a task keeps in mind what it is to come to.
  induction h with
  | start => exact ⟨free, Knowledge.kept_of_rest known initially free alone⟩
  | begun _ free t ih =>
    obtain ⟨-, kept⟩ := ih
    obtain ⟨v, known, resting⟩ := kept.at_rest free
    exact ⟨nofun, ⟨v, known, continues known resting⟩, kept.others⟩
  | @step _ _ task _ _ step same ih =>
    cases task with
    | none => exact ⟨same.1 ih.1, ih.2.goesOn unspoilt (holds _) (holds _) step same⟩
    | some task => exact ⟨mt same.2 ih.1, ih.2.goesOn unspoilt (holds _) (holds _) step same⟩
  | answered _ answer ih =>
    obtain ⟨-, ⟨v, known, held⟩, binds⟩ := ih
    rw [answer] at held
    exact ⟨rfl, ⟨v, known, held v rfl⟩, binds⟩

/-- What is known between tasks. -/
theorem Annals.known (holds : ∀ s, K.holds s) (unspoilt : K.Unspoilt admits fun _ => True)
    (continues : D.Continues K I) {v : V} (known : K.tells v start.rig) (initially : I [] v)
    (free : start.holder = none) (alone : start.others = [])
    (h : D.Annals admits start c none sessions) : ∃ v, K.tells v c.rig ∧ I sessions v := by
  obtain ⟨free, kept⟩ := h.documents holds unspoilt continues known initially free alone
  exact kept.at_rest free

end Dispatch

end Sensing
