import Sensing.Device.Motion
import Sensing.Device.Video

/-!
# Faults by name

On a bench, faults are given by the name of a call: while a rule stands, the calls of its name fail
with its cause. A rule may be limited to one extension unit, and the cause of a call that concerns
a mode ends with the mode's text.
-/

namespace Sensing

/-- What identifies a call for fault rules. -/
structure CallSite where
  name : String
  /-- The extension unit that the call concerns. -/
  unit : Option UInt8 := none
  /-- The mode that the call concerns. -/
  mode : Option NativeMode := none
  deriving DecidableEq

/-- Makes the calls of a name fail. -/
structure FaultRule where
  name : String
  fault : Fault
  /-- Limits the rule to calls that concern this extension unit, of all that concern one. -/
  unit : Option UInt8 := none
  deriving DecidableEq

namespace FaultRule

/-- Whether a rule applies to a call. -/
def applies (rule : FaultRule) (site : CallSite) : Bool :=
  rule.name = site.name &&
    match rule.unit, site.unit with
    | some u, some v => u = v
    | _, _ => true

/-- The fault of a rule at a call. -/
def faultAt (rule : FaultRule) (site : CallSite) : Fault :=
  match site.mode with
  | none => rule.fault
  | some m => { rule.fault with cause := rule.fault.cause.noted (" " ++ m.text) }

/-- The fault plan of a list of rules. -/
def plan {κ : Type} (site : κ → CallSite) (rules : List FaultRule) : FaultPlan κ := fun _ c =>
  (rules.find? fun rule => rule.applies (site c)).map fun rule => rule.faultAt (site c)

/-- Puts a rule in the place of the one for the same name, or only removes that. -/
def revise (name : String) (rule : Option FaultRule) (rules : List FaultRule) : List FaultRule :=
  (rules.filter fun r => r.name ≠ name) ++ rule.toList

end FaultRule

/-- The names of a video device's calls. -/
def VideoCall.site : VideoCall → CallSite
  | .enumerate => { name := "profiles" }
  | .setPower .d0 => { name := "power_on" }
  | .setPower .d3 => { name := "power_off" }
  | .initUnit u => { name := "init_xu", unit := some u.unit }
  | .commit m => { name := "commit", mode := some m }
  | .streamOn _ => { name := "stream_on" }
  | .streamOff => { name := "stream_off" }
  | .close m => { name := "close", mode := some m }
  | .readControl _ => { name := "get_pu" }
  | .writeControl _ _ => { name := "set_pu" }
  | .controlRange _ => { name := "get_pu_range" }

/-- The names of a motion device's calls. -/
def MotionCall.site : MotionCall → CallSite
  | .openDevice => { name := "open" }
  | .closeDevice => { name := "close" }
  | .listSensors => { name := "sensors" }
  | .startCapture _ _ => { name := "start_capture" }
  | .stopCapture => { name := "stop_capture" }

end Sensing
