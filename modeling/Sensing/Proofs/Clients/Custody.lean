import Sensing.Proofs.Clients.Bystanders

/-!
# What the lock protects

Some of an endpoint's state is changed only by the client who holds the configuration lock, so what
that client has seen of it, or made of it, stays true until its next step. A `Custody` says what the
client knows, by where it stands, what it may do to the state, and how little everybody else may do
beside it: nothing that could make untrue what the client knows.

Each operation follows `Custody.holding` or `Custody.waiting`, whatever the other clients do. Then
every step of a crowd is one that the custody allows (`Kept.moves`), so that between operations what
is true is what is known at rest (`Kept.at_rest`), and what such steps preserve holds at all times,
a record of the asides included (`invariant_of_recorded`).
-/

namespace Sensing

/-- The part of a state `σ` that the client with the lock has in its hands, where it stands
somewhere in `η`. -/
structure Custody (σ η : Type) where
  /-- What the client knows where it stands. -/
  sees : η → σ → Prop
  /-- Where it stands before its first step. -/
  rest : η
  /-- What it may do in one step. -/
  may : σ → σ → Prop
  /-- What everybody else may do. -/
  beside : σ → σ → Prop
  beside_refl : ∀ s, beside s s
  may_of_beside : ∀ {s s'}, beside s s' → may s s'
  /-- What the client knows stays true whatever the others do. -/
  unaffected : ∀ {h s s'}, sees h s → beside s s' → sees h s'

namespace Custody

variable {σ η : Type} (C : Custody σ η)

/-- The rules for the client with the lock. -/
def holding : Rules σ η where
  sees := C.sees
  may h s s' h' := C.may s s' ∧ (C.sees h s → C.sees h' s')
  idle _ := ⟨C.may_of_beside (C.beside_refl _), id⟩

/-- The rules for everybody else: they know only that somebody has custody of the state. -/
def waiting : Rules σ Unit where
  sees _ s := ∃ h, C.sees h s
  may _ s s' _ := C.beside s s'
  idle _ := C.beside_refl _

/-- The client knows at least what is true while nobody has the lock. -/
def Rests (h : η) : Prop := ∀ s, C.sees h s → C.sees C.rest s

/-- All that clients do is within the custody. -/
structure Fits [Served σ] (admits : Served.Op σ → Prop) : Prop where
  locking : ∀ {op}, (Served.transition op).isSome →
    (Served.work op).Follows C.holding (fun _ h => C.Rests h) C.rest
  free : ∀ {op}, Served.transition op = none → admits op →
    (Served.work op).Follows C.waiting (fun _ _ => True) ()
  take : ∀ {g : Gate σ} {s}, Served.gate = some g → C.beside s (g.take s).2
  drop : ∀ {g : Gate σ} {s}, Served.gate = some g → C.beside s (g.drop s)
  aside : ∀ {h s} (x : Served.Aside σ), C.sees h s → C.sees h (Served.aside x s)

/-- Where the client with the lock stands: it follows the rules until it comes to rest again. -/
def Held : Option (Errand σ) → η → Prop
  | none, h => C.Rests h
  | some w, h => Work.Follows C.holding (fun _ h => C.Rests h) w h

/-- Everybody in the crowd follows the rules. -/
structure Kept (c : Crowd σ) : Prop where
  holder : ∃ h, C.sees h c.rig ∧ C.Held c.holder h
  others : C.waiting.Binds c

variable {C} {c c' : Crowd σ}

/-- Whoever knows enough may go on as if that were all. -/
theorem follows_of_sees {α : Type} {p : Procedure σ α} {h : η} (h' : η)
    (enough : ∀ s, C.sees h s → C.sees h' s)
    (hp : p.Follows C.holding (fun _ h => C.Rests h) h') :
    p.Follows C.holding (fun _ h => C.Rests h) h := by
  induction p with
  | done a => exact fun s sees => hp s (enough s sees)
  | step act next =>
    intro s sees
    obtain ⟨h', ⟨may, keeps⟩, rest⟩ := hp s (enough s sees)
    exact ⟨h', ⟨may, fun sees => keeps (enough s sees)⟩, rest⟩
  | await ready next ih => exact ih hp

/-- Who has come to rest may go on from there. -/
theorem follows_of_rests {α : Type} {p : Procedure σ α} {h : η} (rests : C.Rests h)
    (hp : p.Follows C.holding (fun _ h => C.Rests h) C.rest) :
    p.Follows C.holding (fun _ h => C.Rests h) h := follows_of_sees C.rest rests hp

/-- Where nobody is busy and what is known at rest is true, everybody follows the rules. -/
theorem kept_of_rest (sees : C.sees C.rest c.rig) (free : c.holder = none)
    (alone : c.others = []) : C.Kept c := by
  refine ⟨⟨C.rest, sees, ?_⟩, ?_⟩
  · rw [free]
    exact fun _ => id
  · intro w hw
    rw [alone] at hw
    cases hw

variable [Served σ] {admits : Served.Op σ → Prop}

/-- What everybody may do beside the lock is what the bystanders of the custody may do. -/
theorem Fits.bystanders (fits : C.Fits admits) : Bystanders C.waiting admits :=
  ⟨fits.free, fits.take, fits.drop⟩

/-- One step of one of the clients. -/
theorem Kept.moves (fits : C.Fits admits) (h : C.Kept c) (step : c.Moves admits c') :
    C.Kept c' ∧ C.may c.rig c'.rig := by
  have still : C.may c.rig c.rig := C.may_of_beside (C.beside_refl _)
  obtain ⟨⟨k, sees, held⟩, binds⟩ := h
  obtain ⟨binds, turn⟩ := fits.bystanders.turn ⟨k, sees⟩ binds step
  cases turn with
  | lock free transition =>
    rw [free] at held
    exact ⟨⟨⟨C.rest, held _ sees, fits.locking transition⟩, binds⟩, still⟩
  | held holder onward =>
    rw [holder] at held
    obtain ⟨k', ⟨may, keeps⟩, rest⟩ := Procedure.Follows.step held sees onward
    exact ⟨⟨⟨k', keeps sees, rest⟩, binds⟩, may⟩
  | unlock holder =>
    rw [holder] at held
    exact ⟨⟨⟨k, sees, held⟩, binds⟩, still⟩
  | beside may => exact ⟨⟨⟨k, C.unaffected sees may, held⟩, binds⟩, C.may_of_beside may⟩

/-- Asides make nothing untrue that the client with the lock knows. -/
theorem Kept.aside (fits : C.Fits admits) (h : C.Kept c) (x : Served.Aside σ) :
    C.Kept { c with rig := Served.aside x c.rig } := by
  obtain ⟨⟨k, sees, held⟩, others⟩ := h
  exact ⟨⟨k, fits.aside x sees, held⟩, others⟩

/-- So the rules are followed wherever a crowd comes. -/
theorem kept_of_reaches {start : Crowd σ} (fits : C.Fits admits) (kept : C.Kept start)
    (h : Crowd.Reaches admits start c) : C.Kept c := by
  induction h with
  | refl => exact kept
  | tail _ step ih =>
    rcases step.moves_or_aside with moves | ⟨x, rfl⟩
    · exact (ih.moves fits moves).1
    · exact ih.aside fits x

omit [Served σ] in
/-- Where nobody has the lock, what is true is what is known at rest. -/
theorem Kept.at_rest (h : C.Kept c) (free : c.holder = none) : C.sees C.rest c.rig := by
  obtain ⟨⟨k, sees, held⟩, -⟩ := h
  rw [free] at held
  exact held c.rig sees

/-- What the clients' steps and the asides preserve holds of every crowd that can be reached, and of
what was recorded on the way. -/
theorem invariant_of_recorded {ι : Type} {R : Recorder σ ι} {start : Crowd σ} {shown : List ι}
    (fits : C.Fits admits) {I : List ι → σ → Prop}
    (move : ∀ {s s' is}, C.may s s' → I is s → I (if R.idle s then [] else is) s')
    (aside : ∀ {s is} x, I is s → I (is ++ R.shows x s) (Served.aside x s))
    (kept : C.Kept start) (initially : I [] start.rig)
    (h : Crowd.Recorded R admits start c shown) : C.Kept c ∧ I shown c.rig := by
  induction h with
  | start => exact ⟨kept, initially⟩
  | moved _ step ih =>
    obtain ⟨kept, holds⟩ := ih
    obtain ⟨kept, may⟩ := kept.moves fits step
    exact ⟨kept, move may holds⟩
  | aside _ x ih =>
    obtain ⟨kept, holds⟩ := ih
    exact ⟨kept.aside fits x, aside x holds⟩

end Custody

end Sensing
