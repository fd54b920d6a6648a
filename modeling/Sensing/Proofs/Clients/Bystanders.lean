import Sensing.Proofs.Clients.Record
import Sensing.Proofs.Clients.Rules

/-!
# Who does not have the lock

While one client has the configuration lock, all others are *bystanders*: those amid operations that
need no lock, and those who take and drop gates. They all follow one set of rules, which does not
depend on how far they have come. `Crowd.Turn` is what a client's step can be then: the lock is
taken or let go of, its holder goes on, or a bystander does something that the rules allow.

Main result: that these are all the steps there are (`Bystanders.turn`).
-/

namespace Sensing

variable {σ : Type}

/-- Whoever is busy without the lock follows the rules. -/
def Rules.Binds (W : Rules σ Unit) (c : Crowd σ) : Prop :=
  ∀ w ∈ c.others, Work.Follows W (fun _ _ => True) w ()

variable [Served σ]

/-- All that clients do without the lock is within the rules. -/
structure Bystanders (W : Rules σ Unit) (admits : Served.Op σ → Prop) : Prop where
  free : ∀ {op}, Served.transition op = none → admits op →
    (Served.work op).Follows W (fun _ _ => True) ()
  take : ∀ {g : Gate σ} {s}, Served.gate = some g → W.may () s (g.take s).2 ()
  drop : ∀ {g : Gate σ} {s}, Served.gate = some g → W.may () s (g.drop s) ()

/-- What the step of a client can be where bystanders follow the rules. -/
inductive Crowd.Turn (W : Rules σ Unit) (c : Crowd σ) : Crowd σ → Prop where
  /-- A client gets the lock. -/
  | lock {op : Served.Op σ} (free : c.holder = none)
      (transition : (Served.transition op).isSome) :
    Turn W c { c with holder := some (Served.work op).run }
  /-- The client with the lock goes one step on. -/
  | held {w w' : Errand σ} {s' : σ} (holder : c.holder = some w) (step : w.Step c.rig w' s') :
    Turn W c { c with rig := s', holder := some w' }
  /-- It lets go of the lock. -/
  | unlock {a : Except EndpointError Unit} (holder : c.holder = some (.done a)) :
    Turn W c { c with holder := none }
  /-- A bystander does something. -/
  | beside {s' : σ} {others : List (Errand σ)} {gates : Nat} (may : W.may () c.rig s' ()) :
    Turn W c { rig := s', holder := c.holder, others, gates }

variable {W : Rules σ Unit} {admits : Served.Op σ → Prop} {c c' : Crowd σ}

/-- Where bystanders follow the rules, the step of any client is a turn, and they go on to follow
them. -/
theorem Bystanders.turn (bystanders : Bystanders W admits) (sees : W.sees () c.rig)
    (binds : W.Binds c) (step : c.Moves admits c') : W.Binds c' ∧ c.Turn W c' := by
  have still : W.may () c.rig c.rig () := W.idle sees
  cases step with
  | lock free transition => exact ⟨binds, .lock free transition⟩
  | held holder step => exact ⟨binds, .held holder step⟩
  | unlock holder => exact ⟨binds, .unlock holder⟩
  | enter transition admitted =>
    exact ⟨List.forall_mem_cons.2 ⟨bystanders.free transition admitted, binds⟩, .beside still⟩
  | other split step =>
    -- The one that moves stands somewhere among the bystanders, and all the others stay as they
    -- are.
    unfold Rules.Binds at binds
    rw [split] at binds
    have all := List.forall_mem_append.1 binds
    obtain ⟨follows, after⟩ := List.forall_mem_cons.1 all.2
    obtain ⟨_, moved, onward⟩ := Procedure.Follows.step follows sees step
    exact ⟨List.forall_mem_append.2 ⟨all.1, List.forall_mem_cons.2 ⟨onward, after⟩⟩,
      .beside moved⟩
  | leave split =>
    unfold Rules.Binds at binds
    rw [split] at binds
    have all := List.forall_mem_append.1 binds
    exact ⟨List.forall_mem_append.2 ⟨all.1, (List.forall_mem_cons.1 all.2).2⟩, .beside still⟩
  | take gate | refused gate => exact ⟨binds, .beside (bystanders.take gate)⟩
  | drop gate => exact ⟨binds, .beside (bystanders.drop gate)⟩
  | aside x => cases x

end Sensing
