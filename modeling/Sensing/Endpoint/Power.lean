import Sensing.Device.Video
import Sensing.Endpoint.Rig

/-!
# Counted power

The power of a video device is counted. Whoever needs the device powered acquires a reference and
releases it afterwards: the first reference powers the device up and initialises the registered
extension units, in order; the last one powers it down. Acquiring and releasing are single steps.
An acquisition that fails leaves the count as it was.

Once the application has dropped the endpoint, releasing does nothing: the endpoint powers the
device down itself.
-/

namespace Sensing

/-- The state of a video endpoint beside what all endpoints keep. -/
structure VideoState where
  layout : ClockLayout
  /-- The number of power references. -/
  users : Nat := 0
  units : List ExtensionUnit := []
  /-- The processing unit's controls that were registered. -/
  processing : List ControlId := []
  /-- The routes of the last successful opening. -/
  configuration : List Route := []

/-- A video endpoint on its device. -/
abbrev VideoRig := Rig VideoState VideoDevice VideoCall

namespace VideoRig

/-- A new endpoint on a device. -/
def create (core : Core) (layout : ClockLayout) (device : VideoDevice)
    (plan : FaultPlan VideoCall := .sound) : VideoRig :=
  { core, own := { layout }, machine := { device, plan } }

/-- The endpoint's name in messages. -/
def title : String := "UvcEndpoint"

/-- Powers the device down after a power-up that came to nothing. -/
def abandonPower (r : VideoRig) : VideoRig :=
  match r.call (.setPower .d3) with
  | (.ok _, r) => r
  | (.error cause, r) =>
    let chain := cause.text
    r.note .warn s!"{title}: power off after failed XU init: {chain}"

/-- Initialises extension units; the first failure powers the device down. -/
def initUnits : List ExtensionUnit → VideoRig → Except EndpointError Unit × VideoRig
  | [], r => (.ok (), r)
  | u :: us, r =>
    match r.call (.initUnit u) with
    | (.ok _, r) => initUnits us r
    | (.error cause, r) =>
      let chain := cause.text
      (.error (.power s!"extension unit {u.unit} init failed: {chain}"), abandonPower r)

/-- Powers the device up. -/
def powerUp (r : VideoRig) : Except EndpointError Unit × VideoRig :=
  match r.call (.setPower .d0) with
  | (.error cause, r) =>
    let chain := cause.text
    (.error (.power s!"power on failed: {chain}"), r)
  | (.ok _, r) =>
    match initUnits r.own.units r with
    | (.error e, r) => (.error e, r)
    | (.ok _, r) => (.ok (), r.note .info s!"{title}: device powered on")

/-- Counts one more user. -/
def addUser (r : VideoRig) : VideoRig := { r with own := { r.own with users := r.own.users + 1 } }

/-- Takes a power reference. -/
def acquire (r : VideoRig) : Except EndpointError Unit × VideoRig :=
  if r.own.users = 0 then
    match powerUp r with
    | (.error e, r) => (.error e, r)
    | (.ok _, r) => (.ok (), addUser r)
  else (.ok (), addUser r)

/-- Powers the device down and says so. -/
def powerDown (r : VideoRig) : VideoRig :=
  match r.call (.setPower .d3) with
  | (.ok _, r) => r.note .info s!"{title}: device powered off"
  | (.error cause, r) =>
    let chain := cause.text
    r.note .warn s!"{title}: power off failed: {chain}"

/-- Gives a power reference back. -/
def release (r : VideoRig) : VideoRig :=
  if !r.core.alive then r
  else if r.own.users = 0 then r.note .warn s!"{title}: power released with no users"
  else
    let r := { r with own := { r.own with users := r.own.users - 1 } }
    if r.own.users = 0 then powerDown r else r

/-- Does work that needs the device powered. -/
def powered {α : Type} (work : Work VideoRig α) : Work VideoRig α := do
  Work.step acquire
  Work.always (.change release) work

/-- The extension unit registered after those before. -/
def registerUnit (u : ExtensionUnit) (r : VideoRig) : VideoRig :=
  { r with own := { r.own with units := r.own.units ++ [u] } }

end VideoRig

end Sensing
