import Sensing.Proofs.Clients.Custody
import Sensing.Proofs.Clients.Upkeep
import Sensing.Proofs.Frame.Balance

/-!
# The frames of a crowd

The operations of an endpoint draw no frames. What they do with frames is to let go of the consumer
and to engage another, and for that they hold the configuration lock (`Rig.framing`). All frames
that are drawn are drawn beside the operations, by the device or by hand, so it is enough to tell a
tally of the asides (`Bookkeeping`). `Tallied` are crowds with such a tally, and their applications
give away only what they have.

Main result: whatever the clients of an endpoint do, its frames are balanced with the tally
(`Tallied.accounted_of_reaches`).
-/

namespace Sensing

/-! ## What operations do with frames -/

namespace Core

/-- What one step of an operation does with frames. -/
inductive Handles (c c' : Core) : Prop where
  | spared (same : c.SameFrames c')
  | dismissed (same : c.dismiss.SameFrames c')
  | engaged {k : Consumer} (empty : k.kept = []) (same : (c.engage k).SameFrames c')

/-- Letting go of a consumer and engaging one that keeps nothing leave the frames in balance. -/
theorem Balanced.handled {c c' : Core} {drawn high : Nat} (h : c.Balanced drawn high)
    (handles : c.Handles c') : c'.Balanced drawn high := by
  cases handles with
  | spared same => exact h.of_same same
  | dismissed same => exact h.dismiss.of_same same
  | engaged empty same => exact (h.engage empty).of_same same

/-- The frames are the same, and the endpoint streams as it did. -/
structure Stands (c c' : Core) : Prop extends SameFrames c c' where
  streaming : c'.streaming = c.streaming

theorem Stands.refl (c : Core) : c.Stands c := ⟨.refl c, rfl⟩

/-- What stands as it did serves the same callback. -/
theorem Stands.registered {c c' : Core} (h : c.Stands c') : c'.registered = c.registered := by
  unfold Core.registered
  rw [h.consumer]

end Core

namespace Work

variable {σ α β : Type} {R : Rules σ Unit}

/-- The work is within the rules, whatever it answers. -/
def Keeps (R : Rules σ Unit) (w : Work σ α) : Prop := w.Follows R (fun _ _ => True) ()

/-- Work that keeps any promise within the rules is within the rules. -/
theorem Follows.keeps {w : Work σ α} {Q : Except EndpointError α → Unit → Prop}
    (h : w.Follows R Q ()) : w.Keeps R := Follows.mono (fun _ _ _ => trivial) h

/-- A procedure within the rules stays within them as part of some work. -/
theorem keeps_ofProcedure {p : Procedure σ α} {Q : α → Unit → Prop} (h : p.Follows R Q ()) :
    (ofProcedure p).Keeps R :=
  follows_ofProcedure (Procedure.Follows.mono (fun _ _ _ => trivial) h)

theorem keeps_check {view : σ → Except EndpointError α} : (check view).Keeps R :=
  follows_check fun _ _ => trivial

theorem keeps_look {view : σ → α} : (look view).Keeps R := follows_look fun _ _ => trivial

theorem keeps_return {a : α} : (pure a : Work σ α).Keeps R := follows_pure trivial

theorem keeps_throw {e : EndpointError} : (throw e : Work σ α).Keeps R := follows_throw trivial

/-- One thing after another stays within the rules. -/
theorem Keeps.bind {w : Work σ α} {f : α → Work σ β} (hw : w.Keeps R) (hf : ∀ a, (f a).Keeps R) :
    (w >>= f).Keeps R :=
  Follows.bind hw (fun a _ _ => hf a) fun _ _ _ => trivial

/-- Work within the rules may be cleaned up after by a procedure within them. -/
theorem Keeps.onFailure {w : Work σ α} {cleanup : Procedure σ Unit} {Q : Unit → Unit → Prop}
    (hw : w.Keeps R) (hc : cleanup.Follows R Q ()) : (onFailure cleanup w).Keeps R :=
  Follows.onFailure hw (fun _ _ _ => trivial) fun _ _ _ =>
    Procedure.Follows.mono (fun _ _ _ => trivial) hc

end Work

namespace Rig

variable {ε δ κ : Type}

/-- The frames of an endpoint are in the hands of the client with the lock. Everybody else lets the
pool and the consumer alone, and turns no streaming on or off. -/
def framing : Custody (Rig ε δ κ) Unit where
  sees _ _ := True
  rest := ()
  may r r' := r.core.Handles r'.core
  beside r r' := r.core.Stands r'.core
  beside_refl r := .refl r.core
  may_of_beside h := .spared h.toSameFrames
  unaffected _ _ := trivial

/-- The client with the lock may make any change that handles the frames properly. -/
theorem follows_handling {f : Rig ε δ κ → Rig ε δ κ}
    (h : ∀ r : Rig ε δ κ, r.core.Handles (f r).core) :
    (Procedure.change f).Follows framing.holding (fun _ _ => True) () :=
  Procedure.follows_change fun r _ => ⟨(), ⟨h r, id⟩, trivial⟩

/-- The same amid work. -/
theorem keeps_handling {f : Rig ε δ κ → Rig ε δ κ}
    (h : ∀ r : Rig ε δ κ, r.core.Handles (f r).core) :
    (Work.change f).Keeps framing.holding := Work.keeps_ofProcedure (follows_handling h)

/-- Wherever an operation leaves the frames, the next one may go on from there. -/
theorem follows_framing {α : Type} {w : Work (Rig ε δ κ) α} (h : w.Keeps framing.holding) :
    w.Follows framing.holding (fun _ k => (framing : Custody (Rig ε δ κ) Unit).Rests k) () :=
  Work.Follows.mono (fun _ _ _ _ => id) h

/-- What is done by a client who has the endpoint to itself keeps the balance. -/
theorem balanced_of_run {α : Type} {Q : α → Unit → Prop} {p : Procedure (Rig ε δ κ) α}
    {r r' : Rig ε δ κ} {a : α} {drawn high : Nat} (h : p.Follows framing.holding Q ())
    (balanced : r.core.Balanced drawn high) (run : p.run r = .finished a r') :
    r'.core.Balanced drawn high := by
  induction p generalizing r with
  | done b =>
    cases run
    exact balanced
  | step act next ih =>
    obtain ⟨_, ⟨handles, -⟩, rest⟩ := h r trivial
    exact ih _ rest (balanced.handled handles) run
  | await ready next ih =>
    unfold Procedure.run at run
    split at run
    · exact ih h balanced run
    · cases run

variable [Device δ κ]

/-- Calls and what is done in passing touch no frames, so they are allowed with the lock, -/
theorem tolerates_handling :
    Rig.Tolerates (fun _ => True) (framing : Custody (Rig ε δ κ) Unit).holding where
  notes _ _ _ := ⟨.spared ⟨rfl, rfl, rfl⟩, id⟩
  calls _ _ _ := ⟨.spared ⟨rfl, rfl, rfl⟩, id⟩

/-- and without it. -/
theorem tolerates_standing :
    Rig.Tolerates (fun _ => True) (framing : Custody (Rig ε δ κ) Unit).waiting where
  notes _ _ _ := ⟨⟨rfl, rfl, rfl⟩, rfl⟩
  calls _ _ _ := ⟨⟨rfl, rfl, rfl⟩, rfl⟩

end Rig

/-! ## Tallies -/

/-- How a tally is told of what happens beside the operations. -/
structure Bookkeeping (σ : Type) [Served σ] where
  /-- The application gives away only what it has. -/
  covered : Served.Aside σ → Tally → Prop
  /-- The tally after an aside that found a state. -/
  tally : Served.Aside σ → σ → Tally → Tally

/-- An endpoint, the clients who are busy with it, and the tally of its frames. -/
structure Tallied (σ : Type) extends Crowd σ where
  tally : Tally := {}

namespace Tallied

variable {σ : Type} [Served σ]

/-- One step of somebody. -/
inductive Step (B : Bookkeeping σ) (admits : Served.Op σ → Prop) :
    Tallied σ → Tallied σ → Prop where
  | moved {a : Tallied σ} {c : Crowd σ} (step : a.toCrowd.Moves admits c) :
    Step B admits a ⟨c, a.tally⟩
  | aside {a : Tallied σ} (x : Served.Aside σ) (covered : B.covered x a.tally) :
    Step B admits a { a with rig := Served.aside x a.rig, tally := B.tally x a.rig a.tally }

/-- What can be reached, in any number of steps. -/
def Reaches (B : Bookkeeping σ) (admits : Served.Op σ → Prop) : Tallied σ → Tallied σ → Prop :=
  Relation.ReflTransGen (Step B admits)

/-- What can be reached while the operation with the lock keeps it. -/
def Onward (B : Bookkeeping σ) (admits : Served.Op σ → Prop) : Tallied σ → Tallied σ → Prop :=
  Relation.ReflTransGen fun a b => Step B admits a b ∧ b.holder ≠ none

variable {B : Bookkeeping σ} {admits : Served.Op σ → Prop} {start a b : Tallied σ}

/-- What is reached while an operation keeps the lock is reached. -/
theorem Onward.reaches (h : Onward B admits a b) : Reaches B admits a b :=
  Relation.ReflTransGen.mono (fun _ _ h => h.1) _ _ h

/-- From wherever it has come, a crowd may be met by an aside. -/
theorem Reaches.aside (h : Reaches B admits start a) (x : Served.Aside σ)
    (covered : B.covered x a.tally) :
    Reaches B admits start
      { a with rig := Served.aside x a.rig, tally := B.tally x a.rig a.tally } :=
  h.tail (.aside x covered)

/-- Taking the lock leaves the tally alone. -/
theorem Step.lock {op : Served.Op σ} (free : a.holder = none)
    (transition : (Served.transition op).isSome) :
    Step B admits a { a with holder := some (Served.work op).run } :=
  .moved (@Crowd.Step.lock σ (.undisturbed σ) _ _ _ free transition)

/-- A step of the operation with the lock leaves the tally alone. -/
theorem Step.held {w w' : Errand σ} {s' : σ} (holder : a.holder = some w)
    (step : w.Step a.rig w' s') : Step B admits a { a with rig := s', holder := some w' } :=
  .moved (Crowd.moves_held holder step)

/-- A client finds the lock free and carries its operation out. -/
theorem Reaches.served {op : Served.Op σ} {answer : Except EndpointError Unit} {s' : σ}
    (h : Reaches B admits start a) (free : a.holder = none)
    (transition : (Served.transition op).isSome)
    (run : (Served.work op).run.run a.rig = .finished answer s') :
    Reaches B admits start { a with rig := s' } := by
  let locked : Crowd σ := { a.toCrowd with holder := some (Served.work op).run }
  have done := Crowd.holds_of_run (P := fun c => Reaches B admits start ⟨c, a.tally⟩)
    (fun h holder step => h.tail (.held holder step)) (c := locked)
    (h.tail (.lock free transition)) rfl run
  -- The operation has answered and still has the lock.
  have unlocked := done.tail (.moved (@Crowd.Step.unlock σ (.undisturbed σ) _ _ _ rfl))
  rw [← free] at unlocked
  exact unlocked

/-- Clients find the lock free one after another. -/
theorem Reaches.inTurn {ops : List (Served.Op σ)} {s' : σ} (h : Reaches B admits start a)
    (free : a.holder = none) (run : Served.inTurn? ops a.rig = some s') :
    Reaches B admits start { a with rig := s' } :=
  Served.holds_of_inTurn? (P := fun s => Reaches B admits start { a with rig := s })
    (fun transition h run => h.served free transition run) h run

end Tallied

namespace Tallied

variable {ε δ κ : Type} {a : Tallied (Rig ε δ κ)}

/-- The frames are balanced with the tally, and everybody in the crowd follows the rules. -/
structure Accounted (a : Tallied (Rig ε δ κ)) : Prop where
  kept : Rig.framing.Kept a.toCrowd
  balanced : a.rig.core.Balanced a.tally.drawn a.tally.high

/-- Every frame has been released, and as many buffers are kept as frames were ever live at once. -/
structure Emptied (a : Tallied (Rig ε δ κ)) : Prop where
  consumer : a.rig.core.consumer = none
  held : a.rig.core.held = []
  drawn : a.tally.drawn = 0
  published : a.rig.core.pool.published = 0
  pooled : a.rig.core.pool.pooled = a.tally.high

/-- Where nobody is busy the rules are followed. -/
theorem accounted_of_fresh {r : Rig ε δ κ} (balanced : r.core.Balanced 0 0) :
    Accounted { rig := r } := ⟨Custody.kept_of_rest trivial rfl rfl, balanced⟩

/-- Without a consumer nobody has a frame where none is published. -/
theorem Accounted.emptied (h : a.Accounted) (silent : a.rig.core.consumer = none)
    (none : a.rig.core.pool.published = 0) : a.Emptied := by
  have out := h.balanced.published_of_silent silent
  have made := h.balanced.buffers
  rw [none] at out made
  exact ⟨silent, List.length_eq_zero_iff.1 (by omega), by omega, none, by omega⟩

end Tallied

section Sound

variable {ε δ κ : Type} [Served (Rig ε δ κ)]

/-- All that is done with the frames of an endpoint is in order, and the tally is told of it. -/
structure Bookkeeping.Sound (B : Bookkeeping (Rig ε δ κ))
    (admits : Served.Op (Rig ε δ κ) → Prop) : Prop where
  fits : Rig.framing.Fits admits
  asides : ∀ {x t}, B.covered x t → ∀ r : Rig ε δ κ,
    Reckoned r.core t (Served.aside x r).core (B.tally x r t)

namespace Tallied

variable {B : Bookkeeping (Rig ε δ κ)} {admits : Served.Op (Rig ε δ κ) → Prop}
  {start a b : Tallied (Rig ε δ κ)}

/-- Each step, whoever takes it, leaves the accounts in order. -/
theorem Accounted.step (sound : B.Sound admits) (h : a.Accounted) (step : Step B admits a b) :
    b.Accounted := by
  cases step with
  | moved step =>
    obtain ⟨kept, handles⟩ := h.kept.moves sound.fits step
    exact ⟨kept, h.balanced.handled handles⟩
  | aside x covered =>
    exact ⟨h.kept.aside sound.fits x, (sound.asides covered a.rig).balanced h.balanced⟩

/-- So they are in order wherever a crowd comes. -/
theorem accounted_of_reaches (sound : B.Sound admits) (fresh : start.Accounted)
    (h : Reaches B admits start a) : a.Accounted := by
  induction h with
  | refl => exact fresh
  | tail _ step ih => exact ih.step sound step

/-- In a step the application gives back no more by hand than it has, so what it has drawn grows at
most by what it draws. -/
theorem Step.draws (sound : B.Sound admits) (step : Step B admits a b) :
    b.tally.drawn + a.tally.draws ≤ a.tally.drawn + b.tally.draws := by
  cases step with
  | moved => exact Nat.le_refl _
  | aside x covered => exact (sound.asides covered a.rig).draws

/-- What the application has drawn by hand and has not given back it drew since, or had before. -/
theorem Reaches.draws (sound : B.Sound admits) (h : Reaches B admits a b) :
    b.tally.drawn + a.tally.draws ≤ a.tally.drawn + b.tally.draws := by
  induction h with
  | refl => exact Nat.le_refl _
  | tail _ step ih =>
    have last := step.draws sound
    omega

/-! ## Steps amid an operation -/

/-- A step that is not the lock holder's: the endpoint streams as before, to the same callback. -/
structure Elsewhere (a b : Tallied (Rig ε δ κ)) : Prop where
  holder : b.holder = a.holder
  streaming : b.rig.core.streaming = a.rig.core.streaming
  registered : b.rig.core.registered = a.rig.core.registered
  withheld : a.rig.core.registered = none → a.rig.core.held = [] → b.rig.core.held = []

/-- While an operation keeps the lock, a step is its own or somebody else's. -/
theorem Accounted.turn (sound : B.Sound admits) (h : a.Accounted) {w : Errand (Rig ε δ κ)}
    (holder : a.holder = some w) (step : Step B admits a b) (keeps : b.holder ≠ none) :
    a.Elsewhere b ∨
      ∃ w' r', w.Step a.rig w' r' ∧ b = { a with rig := r', holder := some w' } := by
  cases step with
  | moved step =>
    obtain ⟨-, turn⟩ := sound.fits.bystanders.turn ⟨(), trivial⟩ h.kept.others step
    cases turn with
    | lock free => cases holder.symm.trans free
    | held same onward =>
      cases holder.symm.trans same
      exact .inr ⟨_, _, onward, rfl⟩
    | unlock => exact absurd rfl keeps
    | beside stands =>
      exact .inl ⟨rfl, stands.streaming, stands.registered, fun _ none => stands.held.trans none⟩
  | aside x covered =>
    have told := sound.asides covered a.rig
    exact .inl ⟨rfl, told.streaming, told.registered, told.withheld h.balanced⟩

end Tallied

end Sound

end Sensing
