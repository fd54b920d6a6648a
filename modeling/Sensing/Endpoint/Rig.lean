import Sensing.Device.Machine
import Sensing.Endpoint.Core
import Sensing.Procedure

/-!
# Endpoints on their devices

A *rig* is an endpoint together with the device it drives: the state shared by all endpoints, the
state of its own kind, and the device with its faults. The operations of an endpoint are procedures
on rigs, since other clients may act between their steps; those here are the same for every kind.
-/

namespace Sensing

/-- An endpoint with state `ε` of its own kind on a device `δ` with calls `κ`. -/
structure Rig (ε δ κ : Type) where
  core : Core
  own : ε
  machine : Machine δ κ

/-- A procedure of an endpoint, which may fail. -/
abbrev Work (ρ α : Type) : Type 1 := ExceptT EndpointError (Procedure ρ) α

namespace Work

variable {ρ α : Type}

/-- A procedure that cannot fail. -/
def ofProcedure (p : Procedure ρ α) : Work ρ α := ExceptT.lift p

/-- One step, whose answer tells whether the work fails. -/
def step (act : ρ → Except EndpointError α × ρ) : Work ρ α := ExceptT.mk (.step act .done)

/-- A look at the state, which tells whether the work fails. -/
def check (view : ρ → Except EndpointError α) : Work ρ α := ExceptT.mk (.look view)

/-- A look at the state. -/
def look (view : ρ → α) : Work ρ α := .ofProcedure (.look view)

/-- A change of the state. -/
def change (f : ρ → ρ) : Work ρ Unit := .ofProcedure (.change f)

/-- Work that is followed by something more when it fails. -/
def onFailure (cleanup : Procedure ρ Unit) (work : Work ρ α) : Work ρ α :=
  ExceptT.mk do
    match ← work.run with
    | .ok a => return .ok a
    | .error e =>
      cleanup
      return .error e

/-- Work that is followed by something more whether or not it fails. -/
def always (cleanup : Procedure ρ Unit) (work : Work ρ α) : Work ρ α :=
  ExceptT.mk do
    let result ← work.run
    cleanup
    return result

end Work

namespace Rig

variable {ε δ κ : Type}

/-- Changes the shared state. -/
def onCore {α : Type} (f : Core → α × Core) (r : Rig ε δ κ) : α × Rig ε δ κ :=
  let (a, core) := f r.core
  (a, { r with core })

/-- Changes the shared state and answers nothing. -/
def mapCore (f : Core → Core) (r : Rig ε δ κ) : Rig ε δ κ := { r with core := f r.core }

/-- Adds a line to the log. -/
def note (level : LogLevel) (message : String) : Rig ε δ κ → Rig ε δ κ :=
  mapCore (·.note level message)

/-- Makes a call of the device. -/
def call [Device δ κ] (c : κ) (r : Rig ε δ κ) : Except Cause (Device.Reply δ c) × Rig ε δ κ :=
  let (reply, machine) := r.machine.call c
  (reply, { r with machine })

/-- Makes a call of the device as a step of its own; its failure is left to the caller. -/
def attempt [Device δ κ] (c : κ) : Procedure (Rig ε δ κ) (Except Cause (Device.Reply δ c)) :=
  .step (call c) .done

/-- Makes a call of the device as a step of its own. -/
def request [Device δ κ] (c : κ) : Work (Rig ε δ κ) (Device.Reply δ c) :=
  ExceptT.mk do return (← attempt c).mapError .ofCause

/-- Adds a line to the log as a step of its own. -/
def report (level : LogLevel) (message : String) : Procedure (Rig ε δ κ) Unit :=
  .change (note level message)

/-- The native modes: the cached ones, or those that `enumerate` finds, which are cached then. The
cache has a lock of its own, of which nothing shows here: it only keeps clients out who would look
the modes up at the same time, and where one does so nevertheless, what was cached first is kept. -/
def modesBy (enumerate : Work (Rig ε δ κ) (List NativeMode)) :
    Work (Rig ε δ κ) (List NativeMode) := do
  match ← Work.look fun r => r.core.modes.value with
  | some modes => return modes
  | none =>
    let modes ← enumerate
    Work.step <| onCore fun c =>
      let (kept, cache) := c.modes.fill modes
      (.ok kept, { c with modes := cache })

/-- Routes requests over the registered formats and the native modes. -/
def resolveBy (enumerate : Work (Rig ε δ κ) (List NativeMode)) (requests : List StreamRequest) :
    Work (Rig ε δ κ) (List Route) := do
  let modes ← modesBy enumerate
  Work.check fun r => Route.resolve requests r.core.formats modes

/-- Waits until every frame has been released. -/
def flush : Procedure (Rig ε δ κ) Unit := .waitFor fun r => r.core.pool.published = 0

/-- Carries out what nobody is left to be answered about; that it failed is only logged. -/
def attempting (what : String) (work : Work (Rig ε δ κ) Unit) : Procedure (Rig ε δ κ) Unit := do
  match ← work.run with
  | .ok _ => pure ()
  | .error e =>
    let message := e.message
    report .warn s!"{what} failed: {message}"

/-- What every kind of endpoint has to do once the application has dropped it. -/
def retireBy (title : String) (stop close : Work (Rig ε δ κ) Unit) :
    Procedure (Rig ε δ κ) Unit := do
  Procedure.change fun r => { r with core := { r.core with alive := false } }
  attempting s!"{title}: stop on drop" stop
  if ← Procedure.look fun r : Rig ε δ κ => r.core.opened then
    attempting s!"{title}: close on drop" close

end Rig

end Sensing
