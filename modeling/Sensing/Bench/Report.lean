import Sensing.Bench.Basic

/-!
# Reports

After every command the client learns its answer, the device's events and the frames delivered
since the last report, the lines logged, and the state of endpoint and device.

The frames of an automatic device come whenever they come, so the client learns of them only when
it waits for them, and it does not learn the state of the pool.
-/

namespace Sensing

/-- The endpoint's flags, as long as there is an endpoint. -/
structure LifecycleStatus where
  opened : Bool
  streaming : Bool
  deriving DecidableEq, Repr

/-- The frames handed out, and the buffers kept for reuse. -/
structure PoolStatus where
  published : Nat
  pooled : Nat
  deriving DecidableEq, Repr

/-- What a client learns after a command. `η` is the device's kind of event, `τ` what its taps
show and `ς` the state that endpoint and device are in. -/
structure Report (η τ ς : Type) where
  answer : Answer
  /-- Whether events and log lines are told; clients that race each other do not learn them. -/
  told : Bool
  events : List η
  frames : List Frame
  tapped : List τ
  log : List LogLine
  status : ς

namespace Bench

variable {ε δ κ : Type}

/-- The endpoint's flags. -/
def lifecycle (b : Bench ε δ κ) : Option LifecycleStatus :=
  if b.rig.core.alive then some ⟨b.rig.core.opened, b.rig.core.streaming⟩ else none

/-- The state of the frame pool, if there ever was an endpoint. -/
def poolStatus (b : Bench ε δ κ) : Option PoolStatus :=
  if b.built then some ⟨b.rig.core.pool.published, b.rig.core.pool.pooled⟩ else none

/-- Whether the client learns of frames with the answer to a command. -/
def showsFrames (automatic : Bool) : Command → Bool
  | .wait _ => true
  | _ => !automatic

/-- The frames delivered, and the bench without them. -/
def takeFrames (b : Bench ε δ κ) : List Frame × Bench ε δ κ :=
  (b.rig.core.delivered,
    { b with
      taken := b.taken + b.rig.core.delivered.length
      rig := b.rig.mapCore fun c => { c with delivered := [] } })

/-- The lines logged, and the bench without them. -/
def takeLog (b : Bench ε δ κ) : List LogLine × Bench ε δ κ :=
  (b.rig.core.log, { b with rig := b.rig.mapCore fun c => { c with log := [] } })

end Bench

end Sensing
