import Sensing.Demo.Options
import Sensing.Endpoint.Motion
import Sensing.Endpoint.Video
import Sensing.Settings

/-!
# The demonstration

The demonstration opens a simulated depth camera and a simulated motion module, streams from both
for a while, counts the frames, and closes them again. What the settings ask for is split between
the two by channel; a device that nothing is asked of stays closed, with a warning.

It runs in two parts, between which the devices deliver rounds of images and samples; they may
deliver at any other time as well, so a part is a procedure on both endpoints. However it ends, both
endpoints are dropped in the end, the camera first.
-/

namespace Sensing.Demo

/-- How often frames of each sort came. -/
structure Tally where
  color : Nat := 0
  depth : Nat := 0
  infrared : Nat := 0
  motion : Nat := 0
  deriving DecidableEq, Repr

/-- Counts a frame. -/
def Tally.count (t : Tally) (f : Frame) : Tally :=
  match f.info.channel with
  | .color => { t with color := t.color + 1 }
  | .depth => { t with depth := t.depth + 1 }
  | .infrared | .infrared2 => { t with infrared := t.infrared + 1 }
  | .gyro | .accel => { t with motion := t.motion + 1 }
  | .any | .fisheye => t

/-- Both endpoints, the frames counted, and the log. -/
structure Stage where
  options : Options
  settings : Settings
  video : VideoRig
  motion : Option MotionRig := none
  tally : Tally := {}
  log : List LogLine := []

/-- A part of the demonstration. Its failure is a cause to be shown. -/
abbrev Part (α : Type) : Type 1 := ExceptT Cause (Procedure Stage) α

namespace Stage

/-- Adds a line to the log. -/
def note (level : LogLevel) (message : String) (s : Stage) : Stage :=
  { s with log := s.log ++ [⟨level, s!"endpoint_demo: {message}"⟩] }

/-- Takes over what the camera's endpoint logged and delivered. -/
def collectVideo (r : VideoRig) (s : Stage) : Stage :=
  { s with
    video := r.mapCore fun c => { c with log := [], delivered := [] }
    tally := r.core.delivered.foldl Tally.count s.tally
    log := s.log ++ r.core.log }

/-- Takes over what the motion module's endpoint logged and delivered. -/
def collectMotion (r : MotionRig) (s : Stage) : Stage :=
  { s with
    motion := some (r.mapCore fun c => { c with log := [], delivered := [] })
    tally := r.core.delivered.foldl Tally.count s.tally
    log := s.log ++ r.core.log }

end Stage

/-- A look at the stage. -/
def look {α : Type} (view : Stage → α) : Part α := ExceptT.lift (.look view)

/-- A change of the stage. -/
def change (f : Stage → Stage) : Part Unit := ExceptT.lift (.change f)

/-- Adds a line to the log. -/
def say (level : LogLevel) (message : String) : Part Unit := change (Stage.note level message)

/-- Carries out a procedure of the camera's endpoint. -/
def onVideo {α : Type} (p : Procedure VideoRig α) : Procedure Stage α :=
  p.within Stage.video Stage.collectVideo

/-- Carries out a procedure of the motion module's endpoint, if there is one. -/
def onMotion {α : Type} (p : Procedure MotionRig α) : Procedure Stage (Option α) := do
  match ← Procedure.look Stage.motion with
  | none => return none
  | some r =>
    let a ← p.within (fun s => s.motion.getD r) Stage.collectMotion
    return some a

/-- Carries out work of the camera's endpoint. -/
def videoWork {α : Type} (work : Work VideoRig α) : Part α :=
  ExceptT.mk do return (← onVideo work.run).mapError EndpointError.toCause

/-- Carries out work of the motion module's endpoint, if there is one. -/
def motionWork {α : Type} (work : Work MotionRig α) : Part (Option α) :=
  ExceptT.mk do
    match ← onMotion work.run with
    | none => return .ok none
    | some answer => return (answer.map some).mapError EndpointError.toCause

/-! ## Setting the stage -/

/-- The shared state of a new endpoint. -/
def newCore (s : Settings) : Core := .create s.poolCapacity s.publishLimit

/-- The three modes of the camera. -/
def cameraModes (o : Options) : List NativeMode :=
  [.yuy2, .z16, .grey].map fun format => ⟨o.width, o.height, o.fps, format⟩

/-- The camera's endpoint. -/
def newVideo (o : Options) (s : Settings) : VideoRig :=
  let core := ((newCore s).registerFormat .yuy2 |>.registerFormat .z16).registerFormat .y8
  let core := (core.registerInfo .name "Synthetic Depth Camera").2
  let core := (core.registerInfo .serialNumber "000000000001").2
  let rig := VideoRig.create core s.layout { offered := cameraModes o, automatic := true }
  let rig := (VideoRig.registerProcessing .gain rig).2
  (VideoRig.registerProcessing .exposure rig).2

/-- The motion module before its endpoint is constructed. -/
def newMotion (s : Settings) : MotionRig :=
  .create (newCore s) s.frequency { sensors := MotionDevice.motionModule, automatic := true }

/-- The stage before anything has happened on it. -/
def Stage.start (o : Options) (s : Settings) : Stage :=
  { options := o, settings := s, video := newVideo o s }

/-! ## The parts -/

/-- Whether a channel belongs to motion sensors. -/
def isMotion (c : Channel) : Bool := c = .gyro || c = .accel

/-- The consumer of the demonstration: every frame is counted and released. -/
def consumer : Consumer := { policy := fun _ => .release }

/-- Says that an endpoint is about to be opened, or that it stays closed. -/
def announce (name : String) (requests : List StreamRequest) : Part Unit :=
  if requests.isEmpty then say .warn s!"no requests for {name} endpoint"
  else do
    let count := requests.length
    say .info s!"opening {name} endpoint with {count} request(s)"

/-- Opens the camera for requests, if there are any, and starts to stream from it. -/
def streamVideo (requests : List StreamRequest) : Part Unit := do
  announce "video" requests
  if !requests.isEmpty then
    videoWork (VideoRig.openStreams requests)
    videoWork (VideoRig.start consumer)

/-- Streams what is asked of the camera, or what it proposes. -/
def startVideo : Part Unit := do
  match (← look Stage.settings).requests with
  | some rs => streamVideo (rs.filter fun r => !isMotion r.channel)
  | none => streamVideo (← videoWork VideoRig.principal)

/-- Opens the motion module for requests, if there are any, and starts to stream from it. -/
def streamMotion (requests : List StreamRequest) : Part Unit := do
  announce "hid" requests
  if !requests.isEmpty then
    let _ ← motionWork (MotionRig.openStreams requests)
    let _ ← motionWork (MotionRig.start consumer)

/-- Streams what is asked of the motion module, if there is one, or what it proposes. -/
def startMotion : Part Unit := do
  if (← look Stage.motion).isSome then
    match (← look Stage.settings).requests with
    | some rs => streamMotion (rs.filter fun r => isMotion r.channel)
    | none => streamMotion ((← motionWork MotionRig.principal).getD [])

/-- Calls a control of the camera. -/
def cameraControl (id : ControlId) (call : ControlCall) : Part ControlAnswer :=
  ExceptT.mk (onVideo (VideoRig.callProcessing id call))

/-- Asks the camera for its gain, and for the range of that. -/
def showGain : Part Unit := do
  let gain ← cameraControl .gain .query
  let range ← cameraControl .gain .range
  match gain, range with
  | .value gain, .range range =>
    let gain := gain.plain
    let range := range.text
    say .info s!"gain = {gain} (range {range})"
  | _, _ => return

/-- Constructs the motion module's endpoint, unless there is to be none. -/
def setUpMotion : Part Unit := do
  if !(← look Stage.options).withoutMotion then
    change fun s => { s with motion := some (newMotion s.settings) }
    let _ ← motionWork MotionRig.construct

/-- Everything up to the point where streaming goes on by itself. -/
def opening : Part Unit := do
  let settings := (← look Stage.settings).text
  say .info s!"config {settings}"
  setUpMotion
  startVideo
  startMotion
  showGain
  let seconds := (← look Stage.options).seconds
  say .info s!"streaming for {seconds}s (Ctrl-C to stop)"

/-- Does something if the stage asks for it. -/
def whenever {α : Type} (due : Stage → Bool) (part : Part α) : Part Unit := do
  if ← look due then let _ ← part

/-- Stops and closes the camera's endpoint, as far as it streams and is open. -/
def stopVideo : Part Unit := do
  whenever (·.video.core.streaming) (videoWork VideoRig.stop)
  whenever (·.video.core.opened) (videoWork VideoRig.close)

/-- Stops and closes the motion module's endpoint, if there is one. -/
def stopMotion : Part Unit := do
  whenever (·.motion.any (·.core.streaming)) (motionWork MotionRig.stop)
  whenever (·.motion.any (·.core.opened)) (motionWork MotionRig.close)

/-- Stops and closes whatever is open, and tells the number of frames. -/
def closing : Part Unit := do
  stopVideo
  stopMotion
  let t ← look Stage.tally
  say .info s!"frames color={t.color} depth={t.depth} infrared={t.infrared} motion={t.motion}"

/-- Drops both endpoints. -/
def leave : Procedure Stage Unit := do
  onVideo VideoRig.retire
  let _ ← onMotion MotionRig.retire
  return

/-- What follows the opening: the rest, unless that failed, and leaving in any case. -/
def sequel : Except Cause Unit → Procedure Stage (Except Cause Unit)
  | .ok _ => do
    let result ← closing.run
    leave
    return result
  | .error cause => do
    leave
    return .error cause

/-- The whole demonstration on a stage that is set. -/
def performance : Procedure Stage (Except Cause Unit) := do
  let opened ← opening.run
  sequel opened

/-- A round of images and samples. -/
def Stage.nextRound (s : Stage) : Stage :=
  let s := s.collectVideo (VideoRig.nextRound s.video)
  match s.motion with
  | none => s
  | some r => s.collectMotion (MotionRig.nextRound r)

/-! ## The whole -/

/-- How a run ended: its exit code, what it says on failure, and its log. -/
structure Ending where
  exitCode : Nat
  failure : Option Cause := none
  log : List LogLine := []
  deriving DecidableEq

/-- The lines of a log that are meant for everybody. -/
def generalLines (log : List LogLine) : List LogLine := log.filter fun l => l.level.isGeneral

/-- Why a part does not come to its end: somebody else still has frames. -/
def stuck : Cause := ⟨"frames are still held", []⟩

/-- How a run ends on a stage that is left. -/
def Ending.of (result : Except Cause Unit) (s : Stage) : Ending :=
  match result with
  | .ok _ => { exitCode := 0, log := generalLines s.log }
  | .error cause => { exitCode := 1, failure := some cause, log := generalLines s.log }

/-- Reads options and settings and sets the stage. -/
def prepare (args : List String) (around : Surroundings) : Except Ending Stage :=
  match Options.read args with
  | .error .misuse => .error { exitCode := 2 }
  | .error .information => .error { exitCode := 0 }
  | .ok o =>
    if o.fps = 0 ∨ o.width = 0 ∨ o.height = 0 then
      .error { exitCode := 1, failure := some ⟨"width, height and fps must be >= 1", []⟩ }
    else
      match Settings.load around with
      | .error e =>
        .error { exitCode := 1, failure := some ⟨"load endpoint config", [e.message]⟩ }
      | .ok settings => .ok (Stage.start o settings)

/-- Ends a run whose opening came to this. -/
def Ending.after (opened : Except Cause Unit) (s : Stage) : Ending :=
  match (sequel opened).run s with
  | .finished result s => .of result s
  | .waiting _ s => .of (.error stuck) s

/-- Sets the stage and carries out the opening. -/
def launch (args : List String) (around : Surroundings) : Except Ending Stage := do
  let s ← prepare args around
  match opening.run.run s with
  | .finished (.ok _) s => .ok s
  | .finished (.error cause) s => .error (.after (.error cause) s)
  | .waiting _ s => .error (.of (.error stuck) s)

/-- Carries out the rest. -/
def finish (s : Stage) : Ending := .after (.ok ()) s

/-- A whole run, with a number of rounds between its parts. -/
def run (rounds : Nat) (args : List String) (around : Surroundings) : Ending :=
  match launch args around with
  | .error ending => ending
  | .ok s => finish (Nat.repeat Stage.nextRound rounds s)

namespace Ending

/-- What a failure says: the outermost message, and below it the reasons, numbered if there are
several. -/
def failureText (c : Cause) : String :=
  let reasons := match c.inner with
    | [] => ""
    | [reason] => "\n\nCaused by:\n    " ++ reason
    | reasons => "\n\nCaused by:" ++ String.join
        (reasons.mapIdx fun i reason => "\n    " ++ toString i ++ ": " ++ reason)
  "Error: " ++ c.outermost ++ reasons

end Ending

end Sensing.Demo
