import Sensing.Bench.Report
import Sensing.Endpoint.Video

/-!
# Video endpoints on the bench

The commands for video endpoints and for their simulated devices. A client may hold power gates; a
gate is a power reference, released when the client drops the gate. Commands for the device reach
it directly, past the fault rules.
-/

namespace Sensing

instance : Endpoint VideoState VideoDevice VideoCall where
  name := "video"
  site := VideoCall.site
  modes := VideoRig.modes
  principal := VideoRig.principal
  resolve := VideoRig.resolve
  openStreams := VideoRig.openStreams
  close := VideoRig.close
  start := VideoRig.start
  stop := VideoRig.stop
  retire := VideoRig.retire
  configuration r := r.own.configuration
  callProcessing := VideoRig.callProcessing
  nextRound := VideoRig.nextRound

/-- A video endpoint with its client. -/
abbrev VideoBench := Bench VideoState VideoDevice VideoCall

/-- What to do with the powered device. -/
inductive PoweredAction where
  | powerState
  | users
  | readControl (id : ControlId)
  deriving DecidableEq

/-- A command for a video endpoint or its device. -/
inductive VideoCommand where
  | shared (c : Command)
  | deliver (m : NativeMode) (data : Bytes)
  | gate (slot : Nat)
  | dropGate (slot : Nat)
  | describeGate (slot : Nat)
  | registerUnit (u : ExtensionUnit)
  | registerProcessing (id : ControlId)
  | powered (action : PoweredAction)
  | raceGates (threads : Nat)
  | racePowered (threads : Nat)
  | refusePowerOn (refuse : Bool)
  | refuseCommit (m : Option NativeMode)
  | tap (ms : List NativeMode)
  | callDevice (c : VideoCall)
  | committed
  | countEvents

/-- The state that a video endpoint and its device are in. -/
structure VideoStatus where
  lifecycle : Option LifecycleStatus
  /-- The number of power references, as long as there is an endpoint. -/
  users : Option Nat
  power : PowerState
  committed : Nat
  armed : Bool
  pool : Option PoolStatus

/-- What a client of a video endpoint learns after a command. -/
abbrev VideoReport := Report VideoEvent (NativeMode × Bytes) VideoStatus

namespace VideoBench

/-- The answer of a call. -/
def answerOf : (c : VideoCall) → c.Reply → Answer
  | .enumerate, ms => .modes ms
  | .readControl _, v => .number v
  | .controlRange _, r => .range r
  | .setPower _, _ | .initUnit _, _ | .commit _, _ | .streamOn _, _ | .streamOff, _ | .close _, _
  | .writeControl _ _, _ => .done

/-- Calls the device directly. -/
def callDevice (c : VideoCall) (b : VideoBench) : Answer × VideoBench :=
  let (reply, device) := VideoDevice.perform c b.rig.machine.device
  (Answer.ofCall (answerOf c) reply, { b with rig := b.rig |> VideoRig.mapDevice fun _ => device })

/-- Does something with the powered device. -/
def poweredAction (action : PoweredAction) : Work VideoRig Answer :=
  VideoRig.powered <|
    match action with
    | .powerState => Work.look fun r => .text r.machine.device.power.label
    | .users => Work.look fun r => .count r.own.users
    | .readControl id => Work.ofProcedure do
      let result ← Rig.attempt (VideoCall.readControl id)
      return Answer.ofCall .number result

/-- Acquires a gate for each client, then asks each of those that have one for the number of users,
then drops their gates. -/
def raceGates (threads : Nat) : Procedure VideoRig (List String) := do
  let results ← (List.replicate threads ()).mapM fun _ =>
    (Work.step VideoRig.acquire : Work VideoRig Unit).run
  let users ← Procedure.look fun r : VideoRig => toString r.own.users
  for result in results do
    match result with
    | .ok _ => Procedure.change VideoRig.release
    | .error _ => pure ()
  return results.map fun
    | .ok _ => users
    | .error e => e.kind

/-- Whether a command needs the endpoint itself. -/
def needsEndpoint : VideoCommand → Bool
  | .shared c => Bench.needsEndpoint c
  | .gate _ | .registerUnit _ | .registerProcessing _ | .powered _ | .raceGates _
  | .racePowered _ => true
  | _ => false

/-- Carries a command out, where nothing makes it pointless. -/
def obey (b : VideoBench) : VideoCommand → Answer × VideoBench
  | .shared c => Bench.perform c b
  | .deliver m data =>
    let (armed, rig) := VideoRig.deliver m data b.rig
    (.flag armed, { b with rig })
  | .gate slot =>
    match VideoRig.acquire b.rig with
    | (.error e, rig) => (.error e, { b with rig })
    | (.ok _, rig) =>
      let rig := if (b.gates.get? slot).isSome then VideoRig.release rig else rig
      (.done, { b with rig, gates := b.gates.put slot () })
  | .dropGate slot =>
    if (b.gates.get? slot).isSome then
      (.flag true, { b with rig := VideoRig.release b.rig, gates := b.gates.clear slot })
    else (.flag false, b)
  | .describeGate slot =>
    let alive := b.rig.core.alive
    if (b.gates.get? slot).isSome then (.text s!"PowerGate \x7b alive: {alive} \x7d", b)
    else (.nothing, b)
  | .registerUnit u =>
    let rig := VideoRig.registerUnit u b.rig
    (.units rig.own.units, { b with rig })
  | .registerProcessing id =>
    let (free, rig) := VideoRig.registerProcessing id b.rig
    (.processing free rig.own.processing, { b with rig })
  | .powered action => Bench.doWork (fun a => a) (poweredAction action) b
  | .raceGates threads => Bench.carryOut Answer.ofResults (raceGates threads) b
  | .racePowered threads =>
    Bench.race threads (fun s => s)
      (VideoRig.powered (Work.look fun r => r.machine.device.power.label)) b
  | .refusePowerOn refuse =>
    let refusing (d : VideoDevice) : VideoDevice := { d with refusesPowerOn := refuse }
    (.done, { b with rig := VideoRig.mapDevice refusing b.rig })
  | .refuseCommit m =>
    (.done, { b with rig := b.rig |> VideoRig.mapDevice fun d => { d with refusesCommit := m } })
  | .tap ms => callDevice (.streamOn (ms.map fun m => (m, .tap))) b
  | .callDevice c => callDevice c b
  | .committed => (.modes b.rig.machine.device.committed, b)
  | .countEvents =>
    let d := b.rig.machine.device
    let on := (d.events.filter fun e => e = .powerOn).length
    let off := (d.events.filter fun e => e = .powerOff).length
    (.counts [on, off, d.enumerations], b)

/-- Carries a command out. -/
def perform (c : VideoCommand) (b : VideoBench) : Answer × VideoBench :=
  if needsEndpoint c && !b.rig.core.alive then (.obstacle .noEndpoint, b) else obey b c

/-- The state of endpoint and device. -/
def status (b : VideoBench) : VideoStatus :=
  let d := b.rig.machine.device
  { lifecycle := b.lifecycle
    users := b.lifecycle.map fun _ => b.rig.own.users
    power := d.power
    committed := d.committed.length
    armed := !d.armed.isEmpty
    pool := if d.automatic then none else b.poolStatus }

/-- What there is to report with an answer. -/
def report (told shows : Bool) (answer : Answer) (b : VideoBench) : VideoReport × VideoBench :=
  let d := b.rig.machine.device
  let (frames, b) := if shows then b.takeFrames else ([], b)
  let (log, b) := b.takeLog
  ({ answer, told, events := d.events.drop b.reported, frames, tapped := d.tapped, log,
     status := status b },
    { b with
      reported := d.events.length
      rig := b.rig |> VideoRig.mapDevice fun d => { d with tapped := [] } })

/-- A new endpoint, and its first report. The formats are registered when it is there. -/
def create (core : Core) (layout : ClockLayout) (formats : List PixelFormat)
    (device : VideoDevice) (rules : List FaultRule) : VideoReport × VideoBench :=
  let core := formats.foldl (fun c pf => c.registerFormat pf) core
  let rig := VideoRig.create core layout device (FaultRule.plan VideoCall.site rules)
  report true (!device.automatic) .done { rig, built := true, rules }

/-- Whether a client learns of events and log lines with the answer to a command. -/
def tells : VideoCommand → Bool
  | .racePowered _ => false
  | _ => true

/-- Whether a client learns of frames with the answer to a command. -/
def shows (automatic : Bool) : VideoCommand → Bool
  | .shared c => Bench.showsFrames automatic c
  | _ => !automatic

/-- Carries a command out and reports. -/
def step (c : VideoCommand) (b : VideoBench) : VideoReport × VideoBench :=
  let (answer, b) := perform c b
  report (tells c) (shows b.rig.machine.device.automatic c) answer b

end VideoBench

end Sensing
