import Sensing.Bench.Command
import Sensing.Endpoint.Rig
import Sensing.Slots

/-!
# The bench

A bench is an endpoint on a simulated device together with one client, who issues commands and
keeps frames, gates and controls in slots. Where an operation of the endpoint has to wait for the
client's frames, the client releases all of them and the operation goes on.

The commands here are those for every kind of endpoint; what differs between the kinds is the class
`Endpoint`.
-/

namespace Sensing

/-- A kind of endpoint: what all kinds can be told to do. -/
class Endpoint (ε δ : Type) (κ : outParam Type) [Device δ κ] where
  name : String
  site : κ → CallSite
  modes : Work (Rig ε δ κ) (List NativeMode)
  principal : Work (Rig ε δ κ) (List StreamRequest)
  resolve : List StreamRequest → Work (Rig ε δ κ) (List Route)
  openStreams : List StreamRequest → Work (Rig ε δ κ) Unit
  close : Work (Rig ε δ κ) Unit
  start : Consumer → Work (Rig ε δ κ) Unit
  stop : Work (Rig ε δ κ) Unit
  retire : Procedure (Rig ε δ κ) Unit
  configuration : Rig ε δ κ → List Route
  /-- Calls a control of the device's processing unit. -/
  callProcessing :
    ControlId → ControlCall → Procedure (Rig ε δ κ) (Except Cause ControlAnswer)
  /-- The device makes a round of images or samples on its own. -/
  nextRound : Rig ε δ κ → Rig ε δ κ

/-- An endpoint on a device, with its client. -/
structure Bench (ε δ κ : Type) where
  rig : Rig ε δ κ
  /-- Whether there ever was an endpoint: its construction may have failed. -/
  built : Bool := false
  rules : List FaultRule := []
  slots : Slots Frame := {}
  gates : Slots Unit := {}
  handles : Slots ControlId := {}
  /-- How many of the device's events were reported. -/
  reported : Nat := 0
  /-- How many frames the client has seen since the endpoint last started. -/
  taken : Nat := 0

namespace Bench

variable {ε δ κ : Type} [Device δ κ] [Endpoint ε δ κ]

omit [Device δ κ] [Endpoint ε δ κ] in
/-- Changes the endpoint's shared state. -/
def mapCore (f : Core → Core) (b : Bench ε δ κ) : Bench ε δ κ :=
  { b with rig := b.rig.mapCore f }

omit [Device δ κ] [Endpoint ε δ κ] in
/-- The client releases all of its frames. -/
def letGo (b : Bench ε δ κ) : Bench ε δ κ :=
  let core := b.rig.core
  let pool := (core.pool.releaseAll core.held).releaseAll b.slots.contents
  { b with rig := { b.rig with core := { core with pool, held := [] } }, slots := {} }

omit [Device δ κ] [Endpoint ε δ κ] in
/-- Carries a procedure out. Where it has to wait, the client lets go of its frames. -/
def carryOut {α : Type} (ofValue : α → Answer) (p : Procedure (Rig ε δ κ) α)
    (b : Bench ε δ κ) : Answer × Bench ε δ κ :=
  match p.run b.rig with
  | .finished a rig => (ofValue a, { b with rig })
  | .waiting rest rig =>
    let b := { b with rig }.letGo
    match rest.run b.rig with
    | .finished a rig => (.afterRelease (ofValue a), { b with rig })
    | .waiting _ rig => (.obstacle .wouldDeadlock, { b with rig })

omit [Device δ κ] [Endpoint ε δ κ] in
/-- Carries work out. -/
def doWork {α : Type} (ofValue : α → Answer) (work : Work (Rig ε δ κ) α) (b : Bench ε δ κ) :
    Answer × Bench ε δ κ := carryOut (Answer.ofWork ofValue) work.run b

/-- Carries work out as many times as there are clients that ask for it at once; they are served
one after another. -/
def race {α : Type} (threads : Nat) (ofValue : α → String) (work : Work (Rig ε δ κ) α)
    (b : Bench ε δ κ) : Answer × Bench ε δ κ :=
  let once : Procedure (Rig ε δ κ) String := do
    match ← work.run with
    | .ok a => return ofValue a
    | .error e => return e.kind
  carryOut Answer.ofResults ((List.replicate threads ()).mapM fun _ => once) b

/-- Calls a registered control. -/
def callControl (id : ControlId) (call : ControlCall) (b : Bench ε δ κ) :
    Answer × Bench ε δ κ :=
  match b.rig.core.control? id with
  | .error e => (.error e, b)
  | .ok (.stored c) =>
    let (answer, c) := c.call call
    let update (core : Core) : Core :=
      { core with controls := core.controls.update id fun _ => .stored c }
    (.ofControl answer, b.mapCore update)
  | .ok (.processing id) => carryOut Answer.ofControl (Endpoint.callProcessing id call) b

/-- Lets the device make rounds, at most `fuel` of them, until the client has seen enough frames. -/
def awaitFrames (wanted : Nat) : Nat → Bench ε δ κ → Bench ε δ κ
  | 0, b => b
  | fuel + 1, b =>
    if wanted ≤ b.taken + b.rig.core.delivered.length then b
    else awaitFrames wanted fuel { b with rig := Endpoint.nextRound b.rig }

/-- Whether a command needs the endpoint itself, and not only what the client has of it. -/
def needsEndpoint : Command → Bool
  | .wait _ | .held | .release _ | .dropSlot _ | .takenControl _ _ | .fault _ _ => false
  | _ => true

/-- Carries a command out, where nothing makes it pointless. -/
def obey (b : Bench ε δ κ) : Command → Answer × Bench ε δ κ
  | .openStreams (.requests rs) =>
    doWork (fun _ => .done) (Endpoint.openStreams rs : Work (Rig ε δ κ) Unit) b
  | .openStreams .principal =>
    let work : Work (Rig ε δ κ) Unit := do Endpoint.openStreams (← Endpoint.principal)
    doWork (fun _ => .done) work b
  | .close => doWork (fun _ => .done) (Endpoint.close : Work (Rig ε δ κ) Unit) b
  | .start handling take =>
    let consumer : Consumer := { policy := handling.policy take }
    doWork (fun _ => .done) (Endpoint.start consumer : Work (Rig ε δ κ) Unit) { b with taken := 0 }
  | .stop => doWork (fun _ => .done) (Endpoint.stop : Work (Rig ε δ κ) Unit) b
  | .drop => carryOut (fun _ => .done) (Endpoint.retire : Procedure (Rig ε δ κ) Unit) b
  | .flush =>
    if b.rig.core.consumer.any fun k => !k.kept.isEmpty then (.obstacle .wouldDeadlock, b)
    else carryOut (fun _ => .done) Rig.flush b
  | .wait frames =>
    let b := awaitFrames frames (2 * frames + 16) b
    (.count (b.taken + b.rig.core.delivered.length), b)
  | .held => (.frames b.rig.core.held, b)
  | .release frames =>
    let n := min (frames.getD b.rig.core.held.length) b.rig.core.held.length
    (.count n, b.mapCore (·.releaseHeld n))
  | .allocate slot size info =>
    match b.rig.core.allocate ⟨size, info⟩ with
    | (none, core) => (.flag false, { b with rig := { b.rig with core } })
    | (some frame, core) =>
      let core := match b.slots.get? slot with
        | none => core
        | some old => core.release old
      (.flag true, { b with rig := { b.rig with core }, slots := b.slots.put slot frame })
  | .invoke slot =>
    match b.slots.get? slot with
    | none => (.obstacle .noFrame, b)
    | some frame =>
      (.done, mapCore (·.offer frame) { b with slots := b.slots.clear slot })
  | .dropSlot slot =>
    match b.slots.get? slot with
    | none => (.flag false, b)
    | some frame => (.flag true, mapCore (·.release frame) { b with slots := b.slots.clear slot })
  | .setLimit frames =>
    (.done, b.mapCore fun c => { c with pool := { c.pool with limit := frames } })
  | .name => (.identity (Endpoint.name ε δ), b)
  | .principal => doWork Answer.requests (Endpoint.principal : Work (Rig ε δ κ) _) b
  | .modes => doWork Answer.modes (Endpoint.modes : Work (Rig ε δ κ) _) b
  | .resolve rs => doWork Answer.routes (Endpoint.resolve rs : Work (Rig ε δ κ) _) b
  | .configuration => (.routes (Endpoint.configuration b.rig), b)
  | .formats => (.formats b.rig.core.formats, b)
  | .registerFormat pf =>
    let b := b.mapCore (·.registerFormat pf)
    (.count b.rig.core.formats.length, b)
  | .registerControl id range description =>
    let entry := ControlEntry.stored (.create range description)
    let (free, core) := b.rig.core.registerControl id entry
    (.flag free, { b with rig := { b.rig with core } })
  | .control id call => callControl id call b
  | .takeControl id slot =>
    match b.rig.core.control? id with
    | .error e => (.error e, b)
    | .ok _ => (.done, { b with handles := b.handles.put slot id })
  | .takenControl slot call =>
    match b.handles.get? slot with
    | none => (.obstacle .noHandle, b)
    | some id => callControl id call b
  | .supportsControl id => (.flag (b.rig.core.controls.contains id), b)
  | .controls => (.controls b.rig.core.controls.keys, b)
  | .registerInfo f value =>
    let (free, core) := b.rig.core.registerInfo f value
    (.flag free, { b with rig := { b.rig with core } })
  | .info f => (Answer.ofWork .text (b.rig.core.info? f), b)
  | .supportsInfo f => (.flag (b.rig.core.info.contains f), b)
  | .setPose p =>
    match b.rig.core.setPose p with
    | .ok core => (.done, { b with rig := { b.rig with core } })
    | .error e => (.error e, b)
  | .pose => (.pose (b.rig.core.pose.getD .identity), b)
  | .raceOpen threads rs =>
    race threads (fun _ => "ok") (Endpoint.openStreams rs : Work (Rig ε δ κ) Unit) b
  | .raceModes threads =>
    race threads (fun ms => ",".intercalate (ms.map NativeMode.text))
      (Endpoint.modes : Work (Rig ε δ κ) _) b
  | .fault name rule =>
    let rules := FaultRule.revise name rule b.rules
    let machine := { b.rig.machine with plan := FaultRule.plan (Endpoint.site ε δ) rules }
    (.done, { b with rules, rig := { b.rig with machine } })

/-- Carries a command out. -/
def perform (c : Command) (b : Bench ε δ κ) : Answer × Bench ε δ κ :=
  if needsEndpoint c && !b.rig.core.alive then (.obstacle .noEndpoint, b) else obey b c

end Bench

end Sensing
