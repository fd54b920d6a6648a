import Sensing.Control
import Sensing.Device.Machine
import Sensing.Stream.Lane

/-!
# Simulated video devices

A video device offers native modes, is fully powered or suspended, and delivers raw images of the
modes that were armed. Most calls need it fully powered. It records every change as an event, the
oldest first.

A mode has to be committed before it is armed. What is armed for a mode receives its raw images:
the lanes of an endpoint, or a tap that only shows them. The controls of its processing unit keep
whole numbers.
-/

namespace Sensing

/-- Fully powered, or suspended. -/
inductive PowerState where
  | d0
  | d3
  deriving DecidableEq, Repr, Inhabited

/-- The name of a power state. -/
def PowerState.label : PowerState → String
  | .d0 => "D0"
  | .d3 => "D3"

/-- A vendor's extension unit, which is initialised after each power-up. -/
structure ExtensionUnit where
  subdevice : UInt8
  unit : UInt8
  node : UInt8
  /-- Sixteen bytes. -/
  id : Bytes
  deriving DecidableEq, Repr

/-- A change that a video device went through. -/
inductive VideoEvent where
  | powerOn
  | powerOff
  | unitReady (u : ExtensionUnit)
  | committed (m : NativeMode)
  | closed (m : NativeMode)
  | streamOn
  | streamOff
  deriving DecidableEq

/-- What receives the raw images of an armed mode. -/
inductive VideoSink where
  | lanes (ls : List Lane)
  | tap

/-- A video device. -/
structure VideoDevice where
  offered : List NativeMode
  /-- Whether the device makes images on its own while it streams. -/
  automatic : Bool := false
  power : PowerState := .d3
  events : List VideoEvent := []
  /-- How often the modes were asked for. -/
  enumerations : Nat := 0
  refusesPowerOn : Bool := false
  refusesCommit : Option NativeMode := none
  committed : List NativeMode := []
  controls : List (ControlId × Int) := []
  armed : List (NativeMode × VideoSink) := []
  /-- The raw images that taps have shown, oldest first. -/
  tapped : List (NativeMode × Bytes) := []
  /-- The tick counters of the images made on its own, one for each armed mode. -/
  counters : List UInt32 := []
  /-- How many rounds of images were made on its own. -/
  rounds : Nat := 0

/-- A call of a video device. -/
inductive VideoCall where
  | enumerate
  | setPower (p : PowerState)
  | initUnit (u : ExtensionUnit)
  | commit (m : NativeMode)
  | streamOn (streams : List (NativeMode × VideoSink))
  | streamOff
  | close (m : NativeMode)
  | readControl (id : ControlId)
  | writeControl (id : ControlId) (value : Int)
  | controlRange (id : ControlId)

namespace VideoCall

/-- What a call answers. -/
@[reducible] def Reply : VideoCall → Type
  | .enumerate => List NativeMode
  | .readControl _ => Int
  | .controlRange _ => ControlRange
  | _ => Unit

end VideoCall

/-- The bounds of a processing unit's control, and its value before it is set. -/
structure ControlBounds where
  least : Int
  greatest : Int
  default : Int
  deriving DecidableEq

namespace ControlBounds

/-- The bounds of each control. -/
def of : ControlId → ControlBounds
  | .brightness => ⟨-64, 64, 0⟩
  | .contrast => ⟨0, 100, 50⟩
  | .exposure => ⟨1, 10000, 166⟩
  | .gain => ⟨0, 128, 64⟩
  | .gamma => ⟨100, 500, 300⟩
  | .hue => ⟨-180, 180, 0⟩
  | .whiteBalance => ⟨2800, 6500, 4600⟩
  | .enableAutoExposure | .enableAutoWhiteBalance => ⟨0, 1, 1⟩
  | _ => ⟨0, 255, 128⟩

/-- The bounds as a range with a step of one. -/
def range (b : ControlBounds) : ControlRange :=
  ⟨.ofInt .single b.least, .ofInt .single b.greatest, 1, .ofInt .single b.default⟩

end ControlBounds

namespace VideoDevice

def record (e : VideoEvent) (d : VideoDevice) : VideoDevice := { d with events := d.events ++ [e] }

/-- Does something that needs the device fully powered. -/
def powered {α : Type} (what : String) (d : VideoDevice)
    (act : VideoDevice → Except Cause α × VideoDevice) : Except Cause α × VideoDevice :=
  if d.power = .d0 then act d else (.error ⟨s!"{what} requires the device powered", []⟩, d)

/-- The value of a control. -/
def control (d : VideoDevice) (id : ControlId) : Int :=
  ((d.controls.find? fun c => c.1 = id).map (·.2)).getD (ControlBounds.of id).default

def setPower (p : PowerState) (d : VideoDevice) : Except Cause Unit × VideoDevice :=
  match p with
  | .d0 =>
    if d.refusesPowerOn then (.error ⟨"synthetic power-on failure", []⟩, d)
    else (.ok (), { d with power := .d0 }.record .powerOn)
  | .d3 => (.ok (), { d with power := .d3 }.record .powerOff)

def commit (m : NativeMode) (d : VideoDevice) : Except Cause Unit × VideoDevice :=
  let mode := m.text
  if d.refusesCommit = some m then (.error ⟨s!"synthetic commit failure for {mode}", []⟩, d)
  else if m ∉ d.offered then (.error ⟨s!"profile {mode} not offered by device", []⟩, d)
  else (.ok (), { d with committed := d.committed ++ [m] }.record (.committed m))

/-- Arms streams, after those armed before. The device starts to count its own images anew. -/
def arm (streams : List (NativeMode × VideoSink)) (d : VideoDevice) :
    Except Cause Unit × VideoDevice :=
  match streams.find? fun s => s.1 ∉ d.committed with
  | some (m, _) =>
    let mode := m.text
    (.error ⟨s!"profile {mode} was not committed", []⟩, d)
  | none =>
    (.ok (), { d with armed := d.armed ++ streams, counters := [], rounds := 0 }.record .streamOn)

/-- Closes a committed mode. -/
def close (m : NativeMode) (d : VideoDevice) : Except Cause Unit × VideoDevice :=
  if m ∈ d.committed then
    (.ok (), { d with committed := d.committed.erase m }.record (.closed m))
  else
    let mode := m.text
    (.error ⟨s!"profile {mode} is not committed", []⟩, d)

def writeControl (id : ControlId) (value : Int) (d : VideoDevice) :
    Except Cause Unit × VideoDevice :=
  let bounds := ControlBounds.of id
  if bounds.least ≤ value ∧ value ≤ bounds.greatest then
    (.ok (), { d with controls := (id, value) :: d.controls.filter fun c => c.1 ≠ id })
  else
    let control := id.label
    (.error ⟨s!"{control} value {value} out of range", []⟩, d)

/-- What a call does when nothing goes wrong around it. -/
def perform : (c : VideoCall) → VideoDevice → Except Cause c.Reply × VideoDevice
  | .enumerate, d =>
    { d with enumerations := d.enumerations + 1 }.powered "profile enumeration"
      fun d => (.ok d.offered, d)
  | .setPower p, d => d.setPower p
  | .initUnit u, d =>
    d.powered "extension unit init" fun d => (.ok (), d.record (.unitReady u))
  | .commit m, d => d.powered "probe and commit" (commit m)
  | .streamOn streams, d => d.powered "stream on" (arm streams)
  | .streamOff, d => (.ok (), { d with armed := [] }.record .streamOff)
  | .close m, d => d.close m
  | .readControl id, d => d.powered "processing unit read" fun d => (.ok (d.control id), d)
  | .writeControl id value, d => d.powered "processing unit write" (writeControl id value)
  | .controlRange id, d =>
    d.powered "processing unit range" fun d => (.ok (ControlBounds.of id).range, d)

instance : Device VideoDevice VideoCall where
  Reply := VideoCall.Reply
  perform := perform

/-- What the first armed stream of a mode delivers to. -/
def sink? (d : VideoDevice) (m : NativeMode) : Option VideoSink :=
  (d.armed.find? fun s => s.1 = m).map (·.2)

end VideoDevice

end Sensing
