import Sensing.Device.Machine
import Sensing.Stream.PixelFormat

/-!
# Simulated motion devices

A motion device has sensors, each with a name and an index, and captures samples of those selected
by index while it is open. It records every change as an event, the oldest first.

What receives the samples is an endpoint's counters, one for each sensor index, or a tap that only
shows them.
-/

namespace Sensing

/-- A sensor of a motion device. -/
structure Sensor where
  name : String
  iio : UInt32
  deriving DecidableEq, Repr, Inhabited

/-- A selected sensor and its sampling rate; a rate of zero keeps the device's own. -/
structure SensorRate where
  iio : UInt32
  frequency : UInt32
  deriving DecidableEq, Repr, Inhabited

/-- A change that a motion device went through. -/
inductive MotionEvent where
  | opened
  | captureOn (iios : List UInt32)
  | captureOff
  | closed
  deriving DecidableEq

/-- What receives the samples of a capture. -/
inductive MotionSink where
  /-- An endpoint, which gives frames this rate and counts the samples of each sensor index. -/
  | counting (frequency : UInt32) (counts : List (UInt32 × Nat))
  | tap
  deriving DecidableEq

/-- A motion device. -/
structure MotionDevice where
  sensors : List Sensor
  /-- Whether the device makes samples on its own while it captures. -/
  automatic : Bool := false
  opened : Bool := false
  events : List MotionEvent := []
  /-- The selected sensors and what receives their samples. -/
  capture : Option (List Sensor × MotionSink) := none
  /-- The samples that taps have shown, oldest first. -/
  tapped : List (Sensor × Bytes) := []
  /-- How many rounds of samples were made on its own. -/
  rounds : UInt32 := 0

/-- A call of a motion device. -/
inductive MotionCall where
  | openDevice
  | closeDevice
  | listSensors
  | startCapture (rates : List SensorRate) (sink : MotionSink)
  | stopCapture

/-- What a call answers. -/
@[reducible] def MotionCall.Reply : MotionCall → Type
  | .listSensors => List Sensor
  | _ => Unit

namespace MotionDevice

def record (e : MotionEvent) (d : MotionDevice) : MotionDevice :=
  { d with events := d.events ++ [e] }

/-- Does something that needs the device open. -/
def whileOpen {α : Type} (what : String) (d : MotionDevice)
    (act : MotionDevice → Except Cause α × MotionDevice) : Except Cause α × MotionDevice :=
  if d.opened then act d else (.error ⟨s!"{what} requires the device open", []⟩, d)

/-- The first sensor of an index. -/
def sensorAt (d : MotionDevice) (iio : UInt32) : Except Cause Sensor :=
  match d.sensors.find? fun s => s.iio = iio with
  | some s => .ok s
  | none => .error ⟨s!"no sensor at iio {iio}", []⟩

/-- The sensors selected by index, one for each rate. -/
def selection (d : MotionDevice) (rates : List SensorRate) : Except Cause (List Sensor) :=
  rates.mapM fun r => d.sensorAt r.iio

/-- Starts to capture the sensors selected by index, in place of any capture before. -/
def startCapture (rates : List SensorRate) (sink : MotionSink) (d : MotionDevice) :
    Except Cause Unit × MotionDevice :=
  match d.selection rates with
  | .error cause => (.error cause, d)
  | .ok selected =>
    (.ok (),
      { d with capture := some (selected, sink), rounds := 0 }.record
        (.captureOn (selected.map Sensor.iio)))

/-- What a call does when nothing goes wrong around it. -/
def perform : (c : MotionCall) → MotionDevice → Except Cause c.Reply × MotionDevice
  | .openDevice, d => (.ok (), { d with opened := true }.record .opened)
  | .closeDevice, d => (.ok (), { d with opened := false }.record .closed)
  | .listSensors, d => d.whileOpen "sensor enumeration" fun d => (.ok d.sensors, d)
  | .startCapture rates sink, d => d.whileOpen "start capture" (startCapture rates sink)
  | .stopCapture, d => (.ok (), { d with capture := none }.record .captureOff)

instance : Device MotionDevice MotionCall where
  Reply := MotionCall.Reply
  perform := perform

/-- The sensors of a motion module: a gyroscope and an accelerometer. -/
def motionModule : List Sensor := [⟨"gyro_3d", 0⟩, ⟨"accel_3d", 1⟩]

end MotionDevice

end Sensing
