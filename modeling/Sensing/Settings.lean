import Sensing.Clock
import Sensing.Document.Forms
import Sensing.Document.Json.Reader
import Sensing.Document.Toml.Reader
import Sensing.Text.Blank

/-!
# Settings

Settings come from three places. A file, in JSON or TOML, may set any of them; four of them may be
overridden by environment variables; and what nobody sets has a default. The merged values have to
lie within limits, so that an override can mend or spoil what a file says.

Of several faults the first one counts: in the file, in the overrides in their order, in the limits
in their order. A variable that is not text, or blank, is as good as unset.
-/

namespace Sensing

/-- How endpoints are tuned. -/
structure Settings where
  /-- The greatest number of frames handed out and not yet released. -/
  publishLimit : Nat := 16
  poolCapacity : Nat := 32
  layout : ClockLayout := {}
  /-- The sampling rate of motion sensors; zero keeps the device's own. -/
  frequency : UInt32 := 0
  /-- What to open instead of what the endpoints recommend. -/
  requests : Option (List StreamRequest) := none
  deriving DecidableEq

namespace Settings

/-- The diagnostic text of a request. -/
def requestText (r : StreamRequest) : String :=
  Text.record "StreamProfile"
    [("stream", r.channel.label), ("width", toString r.width), ("height", toString r.height),
      ("fps", toString r.fps), ("format", r.encoding.label)]

/-- The diagnostic text. -/
def text (s : Settings) : String :=
  Text.record "EndpointConfig"
    [("max_publish_list_size", toString s.publishLimit),
      ("frame_pool_capacity", toString s.poolCapacity),
      ("rolling_timestamp", s.layout.text), ("hid_sampling_frequency", toString s.frequency),
      ("requests", Text.optional (Text.listing requestText) s.requests)]

/-- What is wrong with settings, if anything. -/
def problem? (s : Settings) : Option Cause :=
  if s.publishLimit = 0 then some ⟨"max_publish_list_size must be greater than zero", []⟩
  else if s.poolCapacity = 0 then some ⟨"frame_pool_capacity must be greater than zero", []⟩
  else
    match s.layout.problem? with
    | some cause => some cause
    | none =>
      if s.requests = some [] then some ⟨"requests must not be empty when present", []⟩ else none

end Settings

/-! ## Files -/

/-- What a settings file says; what it leaves out is `none`. -/
structure SettingsFile where
  publishLimit : Option Nat := none
  poolCapacity : Option Nat := none
  offset : Option Nat := none
  ticksPerUnit : Option Int := none
  frequency : Option UInt32 := none
  requests : Option (List StreamRequest) := none
  deriving DecidableEq

namespace SettingsFile

/-- The fields of a file. -/
def forms : List FieldForm :=
  [{ name := "max_publish_list_size" }, { name := "frame_pool_capacity" },
    { name := "rolling_timestamp" }, { name := "hid_sampling_frequency" }, { name := "requests" }]

/-- The fields that describe the tick counter. -/
def clockForms : List FieldForm := [{ name := "counter_offset" }, { name := "ticks_per_unit" }]

/-- A natural number of 64 bits. -/
def natural? (d : Document) : Option Nat := (d.integer? .unsigned64).map Int.toNat

/-- The offset and the scale of the tick counter. -/
def clock? (dialect : Dialect) (d : Document) : Option (Option Nat × Option Int) := do
  match ← d.fields? dialect clockForms with
  | [offset, ticks] =>
    return (← Document.nullable? natural? offset,
      ← Document.nullable? (Document.integer? .signed64) ticks)
  | _ => none

def ofDocument? (dialect : Dialect) (d : Document) : Option SettingsFile := do
  match ← d.fields? dialect forms with
  | [limit, capacity, clock, frequency, requests] =>
    let limit ← Document.nullable? Document.word? limit
    let clock ← Document.nullable? (clock? dialect) clock
    return {
      publishLimit := limit.map UInt32.toNat
      poolCapacity := ← Document.nullable? natural? capacity
      offset := clock.bind (·.1)
      ticksPerUnit := clock.bind (·.2)
      frequency := ← Document.nullable? Document.word? frequency
      requests := ← Document.nullable?
        (Document.listOf? (StreamRequest.ofDocument? dialect)) requests }
  | _ => none

/-- The settings of a file, with defaults for what it leaves out. -/
def settings (f : SettingsFile) : Settings :=
  { publishLimit := f.publishLimit.getD 16
    poolCapacity := f.poolCapacity.getD 32
    layout := { offset := f.offset.getD 0, ticksPerUnit := f.ticksPerUnit.getD 100000 }
    frequency := f.frequency.getD 0
    requests := f.requests }

/-- Whether a path names a TOML file: its last component ends in a point and `toml`, in letters of
either case, with something in front. -/
def isToml (path : String) : Bool :=
  let name := (path.toList.reverse.takeWhile (· ≠ '/')).reverse
  let extension := (name.reverse.takeWhile (· ≠ '.')).reverse
  extension.map Char.toLower = "toml".toList && extension.length + 1 < name.length

/-- Reads the text of the file at a path. -/
def parse? (path : String) (text : String) : Option SettingsFile :=
  if isToml path then (Toml.read text.toList).bind (ofDocument? .toml)
  else (Json.read text.toList).bind (ofDocument? .json)

end SettingsFile

/-! ## Loading -/

/-- What a program finds around it: the bytes of environment variables and of files. -/
structure Surroundings where
  environment? : String → Option Bytes
  file? : String → Option Bytes

namespace Surroundings

/-- The text that bytes spell. -/
def text? (bytes : Bytes) : Option String := String.fromUTF8? ⟨bytes.toArray⟩

/-- The text of a variable, unless it is unset, not text, or blank. -/
def setting? (s : Surroundings) (name : String) : Option String :=
  ((s.environment? name).bind text?).filter fun value => !(Text.trim value.toList).isEmpty

end Surroundings

/-- Why settings could not be loaded. -/
inductive SettingsError where
  | unreadableFile (path : String)
  | invalidFile (path : String)
  | invalidVariable (name : String)
  | limit (cause : Cause)
  deriving DecidableEq

namespace SettingsError

/-- The text shown to a user, up to details about the file. -/
def message : SettingsError → String
  | .unreadableFile _ => "failed to read config file"
  | .invalidFile _ => "invalid config file"
  | .invalidVariable name => s!"{name} must be a non-negative integer"
  | .limit cause => cause.text

end SettingsError

namespace Settings

/-- The names of the environment variables. -/
def pathVariable : String := "SENSOR_ENDPOINT_CONFIG"
def limitVariable : String := "SENSOR_ENDPOINT_MAX_PUBLISH"
def capacityVariable : String := "SENSOR_ENDPOINT_POOL_CAPACITY"
def ticksVariable : String := "SENSOR_ENDPOINT_TICKS_PER_UNIT"
def frequencyVariable : String := "SENSOR_ENDPOINT_HID_FREQUENCY"

/-- Reads the file at a path. -/
def readFile (around : Surroundings) (path : String) : Except SettingsError SettingsFile :=
  match (around.file? path).bind Surroundings.text? with
  | none => .error (.unreadableFile path)
  | some text =>
    match SettingsFile.parse? path text with
    | none => .error (.invalidFile path)
    | some file => .ok file

/-- The integer that a variable overrides a setting with, if it does. -/
def override? (around : Surroundings) (name : String) (range : Text.IntegerRange) :
    Except SettingsError (Option Int) :=
  match around.setting? name with
  | none => .ok none
  | some value =>
    match range.read? (Text.trim value.toList) with
    | none => .error (.invalidVariable name)
    | some n => .ok (some n)

/-- The settings with those overridden that variables override. -/
def overridden (around : Surroundings) (s : Settings) : Except SettingsError Settings := do
  let limit ← override? around limitVariable .unsigned32
  let capacity ← override? around capacityVariable .unsigned64
  let ticks ← override? around ticksVariable .signed64
  let frequency ← override? around frequencyVariable .unsigned32
  return { s with
    publishLimit := (limit.map Int.toNat).getD s.publishLimit
    poolCapacity := (capacity.map Int.toNat).getD s.poolCapacity
    layout := { s.layout with ticksPerUnit := ticks.getD s.layout.ticksPerUnit }
    frequency := (frequency.map fun n => UInt32.ofNat n.toNat).getD s.frequency }

/-- The settings themselves, if they lie within the limits. -/
def checked (s : Settings) : Except SettingsError Settings :=
  match s.problem? with
  | none => .ok s
  | some cause => .error (.limit cause)

/-- Loads settings from the file that the environment names, if it names one, and from the
overrides. -/
def load (around : Surroundings) : Except SettingsError Settings := do
  let file ←
    match around.setting? pathVariable with
    | none => .ok {}
    | some path => readFile around path
  checked (← overridden around file.settings)

/-- Loads settings from the file at a path, without overrides. -/
def loadFile (around : Surroundings) (path : String) : Except SettingsError Settings := do
  checked (← readFile around path).settings

end Settings

end Sensing
