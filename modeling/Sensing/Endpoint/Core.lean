import Sensing.Control
import Sensing.Frame.Pool
import Sensing.Info
import Sensing.Log
import Sensing.Pose
import Sensing.Registry
import Sensing.Stream.Lane

/-!
# What every endpoint keeps

The part of an endpoint's state that does not depend on its kind of device: the flags of its
lifecycle, the frame pool and the consumer its frames go to, the registered pixel formats, the
cached native modes, and the registries of controls and information fields.

A *consumer* is what an application hands over when it starts to stream: for each frame it decides
to release it at once, to take it into the application's hands, or to keep it to itself until the
endpoint lets go of the consumer. A frame that finds no consumer is released at once.
-/

namespace Sensing

/-- What a consumer does with a frame. -/
inductive Handling where
  | release
  /-- The application takes the frame. -/
  | hold
  /-- The consumer keeps the frame for as long as the endpoint has the consumer. -/
  | keep
  /-- The frame is released unseen. -/
  | ignore
  deriving DecidableEq, Repr

/-- Where the frames of an endpoint go. -/
structure Consumer where
  /-- What happens to a frame, by the number of frames received before it. -/
  policy : Nat → Handling
  received : Nat := 0
  /-- The frames kept, oldest first. -/
  kept : List Frame := []

/-- A registered control: one that keeps its value, or one of the device's processing unit. -/
inductive ControlEntry where
  | stored (c : StoredControl)
  | processing (id : ControlId)

/-- The state that endpoints of all kinds share. -/
structure Core where
  opened : Bool := false
  streaming : Bool := false
  /-- Whether the application still has the endpoint. -/
  alive : Bool := true
  pool : FramePool
  consumer : Option Consumer := none
  /-- The frames that consumers handed to the application, oldest first. -/
  held : List Frame := []
  /-- Every frame that a consumer has seen, oldest first. -/
  delivered : List Frame := []
  formats : List PixelFormat := []
  modes : Once (List NativeMode) := {}
  controls : Registry ControlId ControlEntry := {}
  info : Registry InfoField String := {}
  pose : Option Pose := none
  /-- The host's clock. -/
  hostTime : Double := 0
  log : List LogLine := []

namespace Core

/-- The shared state of a new endpoint, by the bounds of its pool. -/
def create (capacity limit : Nat) : Core := { pool := { capacity, limit } }

/-- Adds a line to the log. -/
def note (level : LogLevel) (message : String) (c : Core) : Core :=
  { c with log := c.log ++ [⟨level, message⟩] }

/-! ## Frames -/

/-- Draws a frame from the pool; a refusal goes to the log. -/
def allocate (d : FrameDraft) (c : Core) : Option Frame × Core :=
  match c.pool.allocate d.size d.info with
  | .ok (frame, pool) => (some frame, { c with pool })
  | .error refusal => (none, c.note .debug refusal.message)

/-- Draws all frames or, if one is refused, none. -/
def allocateAll : List FrameDraft → Core → Option (List Frame) × Core
  | [], c => (some [], c)
  | d :: ds, c =>
    match c.allocate d with
    | (none, c) => (none, c)
    | (some frame, c) =>
      match allocateAll ds c with
      | (some frames, c) => (some (frame :: frames), c)
      | (none, c) => (none, { c with pool := c.pool.release frame })

/-- Takes a frame back. -/
def release (f : Frame) (c : Core) : Core := { c with pool := c.pool.release f }

/-- Hands a frame to the consumer. -/
def offer (f : Frame) (c : Core) : Core :=
  match c.consumer with
  | none =>
    let message := s!"no callback registered, frame {f.info.number} dropped"
    (c.note .trace message).release f
  | some k =>
    let next := { k with received := k.received + 1 }
    match k.policy k.received with
    | .ignore => { c with consumer := some next }.release f
    | .release =>
      { c with consumer := some next, delivered := c.delivered ++ [f] }.release f
    | .hold =>
      { c with
        consumer := some next
        delivered := c.delivered ++ [f]
        held := c.held ++ [f] }
    | .keep =>
      { c with
        consumer := some { next with kept := k.kept ++ [f] }
        delivered := c.delivered ++ [f] }

/-- Lets go of the consumer, which releases the frames it kept. -/
def dismiss (c : Core) : Core :=
  match c.consumer with
  | none => c
  | some k => { c with consumer := none, pool := c.pool.releaseAll k.kept }

/-- Puts a consumer in the place of any before it. -/
def engage (k : Consumer) (c : Core) : Core := { c.dismiss with consumer := some k }

/-- Releases the application's first frames, at most `n` of them. -/
def releaseHeld (n : Nat) (c : Core) : Core :=
  { c with held := c.held.drop n, pool := c.pool.releaseAll (c.held.take n) }

/-! ## Lifecycle -/

/-- Whether the endpoint may be opened. -/
def checkOpen (who : String) (c : Core) : Except EndpointError Unit :=
  if c.streaming then .error (.precondition s!"open(...) failed. {who} is streaming")
  else if c.opened then .error (.precondition s!"open(...) failed. {who} is already opened")
  else .ok ()

/-- Whether the endpoint may be closed. -/
def checkClose (who : String) (c : Core) : Except EndpointError Unit :=
  if c.streaming then .error (.precondition s!"close() failed. {who} is streaming")
  else if !c.opened then .error (.precondition s!"close() failed. {who} was not opened")
  else .ok ()

/-- Whether the endpoint may start to stream. -/
def checkStart (who : String) (c : Core) : Except EndpointError Unit :=
  if c.streaming then
    .error (.precondition s!"start_streaming(...) failed. {who} is already streaming")
  else if !c.opened then
    .error (.precondition s!"start_streaming(...) failed. {who} was not opened")
  else .ok ()

/-! ## Registries -/

/-- Registers a control, unless its identifier is taken, and says whether it was free. -/
def registerControl (id : ControlId) (entry : ControlEntry) (c : Core) : Bool × Core :=
  let (free, controls) := c.controls.register (fun id => id.position) id entry
  (free, { c with controls })

/-- The control of an identifier. -/
def control? (id : ControlId) (c : Core) : Except EndpointError ControlEntry :=
  match c.controls.get? id with
  | some entry => .ok entry
  | none =>
    let control := id.label
    .error (.notSupported s!"option {control}")

/-- Registers an information field, unless it is known, and says whether it was not. -/
def registerInfo (f : InfoField) (value : String) (c : Core) : Bool × Core :=
  let (free, info) := c.info.register (fun f => f.position) f value
  (free, { c with info })

/-- The value of an information field. -/
def info? (f : InfoField) (c : Core) : Except EndpointError String :=
  match c.info.get? f with
  | some value => .ok value
  | none =>
    let field := f.label
    .error (.notSupported s!"camera info {field}")

/-- Sets the pose, which is done once. -/
def setPose (p : Pose) (c : Core) : Except EndpointError Core :=
  match c.pose with
  | some _ => .error (.precondition "pose is already set")
  | none => .ok { c with pose := some p }

/-- Registers a pixel format after those registered before. -/
def registerFormat (pf : PixelFormat) (c : Core) : Core := { c with formats := c.formats ++ [pf] }

end Core

end Sensing
