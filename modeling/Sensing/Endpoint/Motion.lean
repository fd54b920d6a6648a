import Sensing.Device.Generator
import Sensing.Endpoint.Rig
import Sensing.Sorted

/-!
# Motion endpoints

A motion endpoint knows its device's sensors from its construction, when the device is opened for
the length of one question. A table says which channel a sensor of a given name feeds; a sensor
outside the table feeds none. The device is open only while the endpoint streams.

A sample becomes one frame with the sample's bytes and the host's time; the samples of each sensor
are numbered on their own, and a sample lost to backpressure keeps its number.
-/

namespace Sensing

/-- A row of the sensor table. -/
structure SensorFeed where
  name : String
  channel : Channel
  encoding : Encoding
  deriving DecidableEq, Repr

namespace SensorFeed

/-- The sensor table. -/
def table : List SensorFeed :=
  [⟨"gyro_3d", .gyro, .motionData⟩, ⟨"accel_3d", .accel, .motionData⟩]

/-- What a sensor of a name feeds. -/
def ofName? (name : String) : Option SensorFeed := table.find? fun f => f.name == name

/-- What feeds a channel. -/
def ofChannel? (c : Channel) : Option SensorFeed := table.find? fun f => f.channel = c

/-- The four-character code of a channel that sensors feed. -/
def code? : Channel → Option FourCC
  | .gyro => some .gyro
  | .accel => some .accl
  | _ => none

end SensorFeed

/-- The state of a motion endpoint beside what all endpoints keep. -/
structure MotionState where
  sensors : List Sensor
  /-- The sampling rate asked of the sensors; zero keeps the device's own. -/
  frequency : UInt32
  configuration : List Route := []
  /-- The sensors selected by the last successful opening. -/
  configured : List SensorRate := []

/-- A motion endpoint on its device. -/
abbrev MotionRig := Rig MotionState MotionDevice MotionCall

namespace MotionRig

/-- An endpoint on a device before its construction. -/
def create (core : Core) (frequency : UInt32) (device : MotionDevice)
    (plan : FaultPlan MotionCall := .sound) : MotionRig :=
  { core, own := { sensors := [], frequency }, machine := { device, plan } }

/-- The endpoint's name in messages. -/
def title : String := "HidEndpoint"

/-! ## Construction -/

/-- Adds a line to the log of a rig whose endpoint does not exist yet, or does. -/
def say (level : LogLevel) (message : String) : Work MotionRig Unit :=
  Work.change (Rig.note level message)

/-- Asks the device for its sensors, with the device open meanwhile, and registers the formats of
motion data. -/
def construct : Work MotionRig Unit := do
  let _ ← Rig.request MotionCall.openDevice
  let sensors ← Work.ofProcedure (Rig.attempt MotionCall.listSensors)
  match ← Work.ofProcedure (Rig.attempt MotionCall.closeDevice) with
  | .ok _ => pure ()
  | .error cause =>
    let chain := cause.text
    say .warn s!"{title}: close after sensor query failed: {chain}"
  match sensors with
  | .error cause => throw (.ofCause cause)
  | .ok sensors =>
    let count := sensors.length
    say .info s!"{title}: found {count} sensor(s)"
    Work.change fun r =>
      { r with
        own := { r.own with sensors }
        core := (r.core.registerFormat .gyro).registerFormat .accel }

/-! ## Modes and requests -/

/-- The native mode of a sensor, if it feeds a channel. -/
def modeOf? (s : Sensor) : Option NativeMode := do
  let feed ← SensorFeed.ofName? s.name
  let code ← SensorFeed.code? feed.channel
  return ⟨0, 0, 0, code⟩

/-- The request for all samples of a sensor, if it feeds a channel. -/
def requestOf? (s : Sensor) : Option StreamRequest := do
  let feed ← SensorFeed.ofName? s.name
  return { channel := feed.channel, encoding := feed.encoding }

/-- The native modes of the sensors. -/
def enumerate : Work MotionRig (List NativeMode) :=
  Work.look fun r => distinct (r.own.sensors.filterMap modeOf?)

/-- The native modes of the device. -/
def modes : Work MotionRig (List NativeMode) := Rig.modesBy enumerate

/-- Routes requests over the native modes. -/
def resolve (requests : List StreamRequest) : Work MotionRig (List Route) :=
  Rig.resolveBy enumerate requests

/-- The requests a caller without wishes of its own should open. -/
def principal : Work MotionRig (List StreamRequest) := do
  let sensors ← Work.look fun r => r.own.sensors
  for s in sensors do
    if (SensorFeed.ofName? s.name).isNone then
      let name := s.name
      say .debug s!"{title}: sensor {name} has no stream mapping"
  return distinct (sensors.filterMap requestOf?)

/-! ## Opening and closing -/

/-- The index of the first sensor that feeds a channel. -/
def iioFor (sensors : List Sensor) (c : Channel) : Except EndpointError UInt32 :=
  match SensorFeed.ofChannel? c with
  | none =>
    let channel := c.label
    .error (.invalidArgument s!"no HID sensor produces {channel}")
  | some feed =>
    match sensors.find? fun s => s.name = feed.name with
    | some s => .ok s.iio
    | none =>
      let name := feed.name
      .error (.invalidArgument s!"sensor {name} not present on device")

/-- The channels of the outputs of a list of routes. -/
def routedChannels (routes : List Route) : List Channel :=
  routes.flatMap fun route => route.source.unpacker.outputs.map (·.1)

/-- The sensors to be captured for a list of routes. -/
def ratesFor (sensors : List Sensor) (frequency : UInt32) (routes : List Route) :
    Except EndpointError (List SensorRate) := do
  let iios ← (routedChannels routes).mapM (iioFor sensors)
  return distinct (iios.map fun iio => ⟨iio, frequency⟩)

/-- Opens streams for requests. -/
def openStreams (requests : List StreamRequest) : Work MotionRig Unit := do
  Work.check fun r => r.core.checkOpen title
  let routes ← resolve requests
  let rates ← Work.check fun r => ratesFor r.own.sensors r.own.frequency routes
  let count := rates.length
  say .info s!"{title}: opened {count} sensor(s)"
  Work.change fun r =>
    { r with
      own := { r.own with configuration := routes, configured := rates }
      core := { r.core with opened := true } }

/-- Closes the endpoint. -/
def close : Work MotionRig Unit := do
  Work.check fun r => r.core.checkClose title
  Work.change fun r =>
    { r with
      own := { r.own with configuration := [], configured := [] }
      core := { r.core with opened := false } }
  say .info s!"{title}: closed"

/-! ## Streaming -/

/-- Lets go of the consumer and closes the device after a capture that did not start. -/
def abandonCapture : Procedure MotionRig Unit := do
  Procedure.change (Rig.mapCore (·.dismiss))
  match ← Rig.attempt MotionCall.closeDevice with
  | .ok _ => pure ()
  | .error cause =>
    let chain := cause.text
    Rig.report .warn s!"{title}: close after failed capture start: {chain}"

/-- Starts to stream to a consumer. -/
def start (k : Consumer) : Work MotionRig Unit := do
  Work.check fun r => r.core.checkStart title
  let _ ← Rig.request MotionCall.openDevice
  Work.change (Rig.mapCore (·.engage k))
  let own ← Work.look fun r => r.own
  let _ ← Work.onFailure abandonCapture
    (Rig.request (MotionCall.startCapture own.configured (.counting own.frequency [])))
  Work.change fun r => { r with core := { r.core with streaming := true } }
  say .info s!"{title}: streaming started"

/-- Stops to stream; nothing happens where the endpoint does not. -/
def stop : Work MotionRig Unit := do
  if ← Work.look fun r => r.core.streaming then
    let stopped ← Work.ofProcedure (Rig.attempt MotionCall.stopCapture)
    let closed ← Work.ofProcedure (Rig.attempt MotionCall.closeDevice)
    Work.change fun r => { r with core := { r.core with streaming := false } }
    Work.change (Rig.mapCore (·.dismiss))
    Work.ofProcedure Rig.flush
    say .info s!"{title}: streaming stopped"
    match stopped, closed with
    | .error cause, _ | .ok _, .error cause => throw (.ofCause cause)
    | .ok _, .ok _ => return

/-- What is left to do once the application has dropped the endpoint. -/
def retire : Procedure MotionRig Unit := Rig.retireBy title stop close

/-! ## Delivery -/

/-- How many samples of an index were counted. -/
def countOf (iio : UInt32) (counts : List (UInt32 × Nat)) : Nat :=
  ((counts.find? fun c => c.1 = iio).map (·.2)).getD 0

/-- The counts with one of them set. -/
def setCount (iio : UInt32) (n : Nat) (counts : List (UInt32 × Nat)) : List (UInt32 × Nat) :=
  (iio, n) :: counts.filter fun c => c.1 ≠ iio

/-- Makes a frame of a sample and hands it to the consumer. -/
def deliverSample (frequency : UInt32) (s : Sensor) (data : Bytes)
    (counts : List (UInt32 × Nat)) (c : Core) : List (UInt32 × Nat) × Core :=
  let name := s.name
  match SensorFeed.ofName? name with
  | none => (counts, c.note .debug s!"{title}: sample from unmapped sensor {name} dropped")
  | some feed =>
    let number := countOf s.iio counts + 1
    let counts := setCount s.iio number counts
    let draft : FrameDraft :=
      { size := data.length
        info :=
          { timestamp := c.hostTime, number, systemTime := c.hostTime, fps := frequency,
            channel := feed.channel, encoding := feed.encoding } }
    match c.allocate draft with
    | (none, c) =>
      (counts, c.note .debug s!"{title}: {name} sample {number} dropped under backpressure")
    | (some frame, c) => (counts, c.offer (frame.write data))

/-- Changes the device outside of any call. -/
def mapDevice (f : MotionDevice → MotionDevice) (r : MotionRig) : MotionRig :=
  { r with machine := { r.machine with device := f r.machine.device } }

/-- A captured sensor gives a sample. -/
def sample (s : Sensor) (data : Bytes) (r : MotionRig) : MotionRig :=
  match r.machine.device.capture with
  | none => r
  | some (_, .tap) => mapDevice (fun d => { d with tapped := d.tapped ++ [(s, data)] }) r
  | some (selected, .counting frequency counts) =>
    let (counts, core) := deliverSample frequency s data counts r.core
    mapDevice (fun d => { d with capture := some (selected, .counting frequency counts) })
      { r with core }

/-- The device delivers a sample of the first captured sensor of a name; whether there is one. -/
def deliver (name : String) (data : Bytes) (r : MotionRig) : Bool × MotionRig :=
  match r.machine.device.capture with
  | none => (false, r)
  | some (selected, _) =>
    match selected.find? fun s => s.name = name with
    | none => (false, r)
    | some s => (true, sample s data r)

/-- An automatic device makes and delivers its next round of samples. -/
def nextRound (r : MotionRig) : MotionRig :=
  if !r.machine.device.automatic then r
  else
    let round := r.machine.device.rounds
    let selected := (r.machine.device.capture.map (·.1)).getD []
    mapDevice (fun d => { d with rounds := d.rounds + 1 })
      (selected.foldl (fun r s => sample s (ownSample s round) r) r)

end MotionRig

end Sensing
