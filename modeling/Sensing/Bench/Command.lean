import Sensing.Device.Motion
import Sensing.Device.Video
import Sensing.Bench.Fault
import Sensing.Endpoint.Core

/-!
# Commands and answers

What a client on a bench can tell an endpoint to do, for every kind of endpoint, and what it gets
to see of the outcome.
-/

namespace Sensing

/-- What to open. -/
inductive Wish where
  | requests (rs : List StreamRequest)
  /-- What the endpoint itself recommends. -/
  | principal

/-- A command for an endpoint of any kind. Frames, gates and controls in the client's hands are kept
in numbered slots. -/
inductive Command where
  | openStreams (wish : Wish)
  | close
  | start (handling : Handling) (take : Option Nat)
  | stop
  | drop
  | flush
  | wait (frames : Nat)
  | held
  | release (frames : Option Nat)
  | allocate (slot size : Nat) (info : FrameMeta)
  | invoke (slot : Nat)
  | dropSlot (slot : Nat)
  | setLimit (frames : Nat)
  | name
  | principal
  | modes
  | resolve (rs : List StreamRequest)
  | configuration
  | formats
  | registerFormat (pf : PixelFormat)
  | registerControl (id : ControlId) (range : ControlRange) (description : String)
  | control (id : ControlId) (call : ControlCall)
  | takeControl (id : ControlId) (slot : Nat)
  | takenControl (slot : Nat) (call : ControlCall)
  | supportsControl (id : ControlId)
  | controls
  | registerInfo (f : InfoField) (value : String)
  | info (f : InfoField)
  | supportsInfo (f : InfoField)
  | setPose (p : Pose)
  | pose
  | raceOpen (threads : Nat) (rs : List StreamRequest)
  | raceModes (threads : Nat)
  | fault (name : String) (rule : Option FaultRule)

/-- What makes a command pointless. -/
inductive Obstacle where
  | noFrame
  | noHandle
  | noEndpoint
  | wouldDeadlock
  deriving DecidableEq, Repr

/-- What a command answers. -/
inductive Answer where
  | done
  | error (e : EndpointError)
  | complaint (c : Cause)
  | obstacle (o : Obstacle)
  /-- The answer came only after the client had released all of its frames. -/
  | afterRelease (a : Answer)
  | flag (b : Bool)
  | count (n : Nat)
  | counts (ns : List Nat)
  | number (n : Int)
  | text (s : String)
  | nothing
  | value (v : Single)
  | range (r : ControlRange)
  | requests (rs : List StreamRequest)
  | modes (ms : List NativeMode)
  | routes (rs : List Route)
  | formats (pfs : List PixelFormat)
  | identity (name : String)
  | frames (fs : List Frame)
  | sensors (ss : List Sensor)
  | rates (rs : List SensorRate)
  | controls (ids : List ControlId)
  | pose (p : Pose)
  | units (us : List ExtensionUnit)
  /-- Whether an identifier was free, and all controls of the processing unit. -/
  | processing (free : Bool) (ids : List ControlId)
  /-- How many clients got which result. -/
  | tally (results : List (String × Nat))

namespace Answer

/-- The answer of a control. -/
def ofControl : Except Cause ControlAnswer → Answer
  | .error c => .complaint c
  | .ok (.value v) => .value v
  | .ok .done => .done
  | .ok (.range r) => .range r
  | .ok (.enabled b) => .flag b
  | .ok (.description s) => .text s

/-- The answer of work that may fail. -/
def ofWork {α : Type} (ofValue : α → Answer) : Except EndpointError α → Answer
  | .ok a => ofValue a
  | .error e => .error e

/-- The answer of a device's call. -/
def ofCall {α : Type} (ofValue : α → Answer) : Except Cause α → Answer
  | .ok a => ofValue a
  | .error c => .complaint c

/-- How often each result occurs, in order of first occurrence. -/
def ofResults (results : List String) : Answer :=
  let count (seen : List (String × Nat)) (result : String) : List (String × Nat) :=
    if seen.any fun s => s.1 = result then
      seen.map fun s => if s.1 = result then (s.1, s.2 + 1) else s
    else seen ++ [(result, 1)]
  .tally (results.foldl count [])

end Answer

namespace Handling

/-- The policy of a consumer that handles its first frames in one way and takes no notice of
further ones. -/
def policy (handling : Handling) (take : Option Nat) : Nat → Handling := fun n =>
  match take with
  | none => handling
  | some limit => if n < limit then handling else .ignore

end Handling

end Sensing
