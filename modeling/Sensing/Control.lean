import Sensing.Binary.Text
import Sensing.Error

/-!
# Controls

A control is a value that an application can read and set: gain, exposure … Each has an identifier
and a range. A *stored* control keeps its value itself and refuses values outside its range.
-/

namespace Sensing

/-- Which control; the constructors are in sorting order. -/
inductive ControlId where
  | backlightCompensation
  | brightness
  | contrast
  | exposure
  | gain
  | gamma
  | hue
  | saturation
  | sharpness
  | whiteBalance
  | enableAutoExposure
  | enableAutoWhiteBalance
  | powerLineFrequency
  | laserPower
  | framesQueueSize
  deriving DecidableEq, Repr, Inhabited

namespace ControlId

def all : List ControlId :=
  [.backlightCompensation, .brightness, .contrast, .exposure, .gain, .gamma, .hue, .saturation,
    .sharpness, .whiteBalance, .enableAutoExposure, .enableAutoWhiteBalance, .powerLineFrequency,
    .laserPower, .framesQueueSize]

/-- The control's place in the sorting order. -/
def position (id : ControlId) : Nat := all.idxOf id

def label : ControlId → String
  | .backlightCompensation => "BacklightCompensation"
  | .brightness => "Brightness"
  | .contrast => "Contrast"
  | .exposure => "Exposure"
  | .gain => "Gain"
  | .gamma => "Gamma"
  | .hue => "Hue"
  | .saturation => "Saturation"
  | .sharpness => "Sharpness"
  | .whiteBalance => "WhiteBalance"
  | .enableAutoExposure => "EnableAutoExposure"
  | .enableAutoWhiteBalance => "EnableAutoWhiteBalance"
  | .powerLineFrequency => "PowerLineFrequency"
  | .laserPower => "LaserPower"
  | .framesQueueSize => "FramesQueueSize"

/-- The control of a label. -/
def ofLabel? (s : String) : Option ControlId := all.find? fun id => id.label == s

end ControlId

/-- The values a control takes. -/
structure ControlRange where
  least : Single
  greatest : Single
  step : Single
  default : Single
  deriving DecidableEq, Inhabited

namespace ControlRange

/-- Whether a value lies between the bounds, both included; `nan` never does. -/
def contains (r : ControlRange) (v : Single) : Bool := r.least.le v && v.le r.greatest

/-- The diagnostic text. -/
def text (r : ControlRange) : String :=
  let least := r.least.diagnostic
  let greatest := r.greatest.diagnostic
  let step := r.step.diagnostic
  let default := r.default.diagnostic
  s!"OptionRange \x7b min: {least}, max: {greatest}, step: {step}, default: {default} \x7d"

end ControlRange

/-- A control that keeps its value itself. -/
structure StoredControl where
  range : ControlRange
  value : Single
  description : String
  deriving DecidableEq

namespace StoredControl

/-- A control at its default value, whether or not that is within its range. -/
def create (range : ControlRange) (description : String) : StoredControl :=
  ⟨range, range.default, description⟩

/-- Sets the value, unless it lies outside the range. -/
def set (c : StoredControl) (v : Single) : Except Cause StoredControl :=
  if c.range.contains v then .ok { c with value := v }
  else
    let value := v.plain
    let least := c.range.least.plain
    let greatest := c.range.greatest.plain
    .error ⟨s!"value {value} outside range [{least}, {greatest}]", []⟩

end StoredControl

/-- Something asked of a control. -/
inductive ControlCall where
  | query
  | set (value : Single)
  | range
  | enabled
  | description
  deriving DecidableEq

/-- What a control answers. -/
inductive ControlAnswer where
  | value (v : Single)
  | done
  | range (r : ControlRange)
  | enabled (b : Bool)
  | description (s : String)
  deriving DecidableEq

/-- One call of a stored control. -/
def StoredControl.call (c : StoredControl) :
    ControlCall → Except Cause ControlAnswer × StoredControl
  | .query => (.ok (.value c.value), c)
  | .set v =>
    match c.set v with
    | .ok c => (.ok .done, c)
    | .error cause => (.error cause, c)
  | .range => (.ok (.range c.range), c)
  | .enabled => (.ok (.enabled true), c)
  | .description => (.ok (.description c.description), c)

end Sensing
