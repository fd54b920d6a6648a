import Sensing.Bench.Report
import Sensing.Endpoint.Motion

/-!
# Motion endpoints on the bench

The commands for motion endpoints and for their simulated devices. Commands for the device reach it
directly, past the fault rules.
-/

namespace Sensing

instance : Endpoint MotionState MotionDevice MotionCall where
  name := "hid"
  site := MotionCall.site
  modes := MotionRig.modes
  principal := MotionRig.principal
  resolve := MotionRig.resolve
  openStreams := MotionRig.openStreams
  close := MotionRig.close
  start := MotionRig.start
  stop := MotionRig.stop
  retire := MotionRig.retire
  configuration r := r.own.configuration
  -- A motion device has no processing unit.
  callProcessing id _ :=
    let control := id.label
    return .error ⟨s!"no device control {control}", []⟩
  nextRound := MotionRig.nextRound

/-- A motion endpoint with its client. -/
abbrev MotionBench := Bench MotionState MotionDevice MotionCall

/-- A command for a motion endpoint or its device. -/
inductive MotionCommand where
  | shared (c : Command)
  | deliver (sensor : String) (data : Bytes)
  | sensors
  | configured
  | callDevice (c : MotionCall)

/-- The state that a motion endpoint and its device are in. -/
structure MotionStatus where
  lifecycle : Option LifecycleStatus
  opened : Bool
  capturing : Bool
  pool : Option PoolStatus

/-- What a client of a motion endpoint learns after a command. -/
abbrev MotionReport := Report MotionEvent (Sensor × Bytes) MotionStatus

namespace MotionBench

/-- The answer of a call. -/
def answerOf : (c : MotionCall) → c.Reply → Answer
  | .listSensors, ss => .sensors ss
  | .openDevice, _ | .closeDevice, _ | .startCapture _ _, _ | .stopCapture, _ => .done

/-- Calls the device directly. -/
def callDevice (c : MotionCall) (b : MotionBench) : Answer × MotionBench :=
  let (reply, device) := MotionDevice.perform c b.rig.machine.device
  (Answer.ofCall (answerOf c) reply, { b with rig := b.rig |> MotionRig.mapDevice fun _ => device })

/-- Whether a command needs the endpoint itself. -/
def needsEndpoint : MotionCommand → Bool
  | .shared c => Bench.needsEndpoint c
  | .sensors | .configured => true
  | .deliver _ _ | .callDevice _ => false

/-- Carries a command out, where nothing makes it pointless. -/
def obey (b : MotionBench) : MotionCommand → Answer × MotionBench
  | .shared c => Bench.perform c b
  | .deliver sensor data =>
    let (captured, rig) := MotionRig.deliver sensor data b.rig
    (.flag captured, { b with rig })
  | .sensors => (.sensors b.rig.own.sensors, b)
  | .configured => (.rates b.rig.own.configured, b)
  | .callDevice c => callDevice c b

/-- Carries a command out. -/
def perform (c : MotionCommand) (b : MotionBench) : Answer × MotionBench :=
  if needsEndpoint c && !b.rig.core.alive then (.obstacle .noEndpoint, b) else obey b c

/-- The state of endpoint and device. -/
def status (b : MotionBench) : MotionStatus :=
  let d := b.rig.machine.device
  { lifecycle := b.lifecycle, opened := d.opened, capturing := d.capture.isSome,
    pool := if d.automatic then none else b.poolStatus }

/-- What there is to report with an answer. -/
def report (shows : Bool) (answer : Answer) (b : MotionBench) : MotionReport × MotionBench :=
  let d := b.rig.machine.device
  let (frames, b) := if shows then b.takeFrames else ([], b)
  let (log, b) := b.takeLog
  ({ answer, told := true, events := d.events.drop b.reported, frames, tapped := d.tapped, log,
     status := status b },
    { b with
      reported := d.events.length
      rig := b.rig |> MotionRig.mapDevice fun d => { d with tapped := [] } })

/-- A new endpoint, unless its construction fails, and the first report, which answers whether it
did. The formats are registered when the endpoint is there. -/
def create (core : Core) (frequency : UInt32) (formats : List PixelFormat)
    (device : MotionDevice) (rules : List FaultRule) : MotionReport × MotionBench :=
  let rig := MotionRig.create core frequency device (FaultRule.plan MotionCall.site rules)
  let (answer, b) := Bench.doWork (fun _ => .done) MotionRig.construct { rig, rules }
  let b : MotionBench :=
    match answer with
    | .done =>
      Bench.mapCore (fun c => formats.foldl (fun c pf => c.registerFormat pf) c)
        { b with built := true }
    | _ => b.mapCore fun c => { c with alive := false }
  report (!device.automatic) answer b

/-- Whether a client learns of frames with the answer to a command. -/
def shows (automatic : Bool) : MotionCommand → Bool
  | .shared c => Bench.showsFrames automatic c
  | _ => !automatic

/-- Carries a command out and reports. -/
def step (c : MotionCommand) (b : MotionBench) : MotionReport × MotionBench :=
  let (answer, b) := perform c b
  report (shows b.rig.machine.device.automatic c) answer b

end MotionBench

end Sensing
