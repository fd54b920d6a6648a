import Sensing.Device.Generator
import Sensing.Endpoint.Power
import Sensing.Sorted

/-!
# Video endpoints

A video endpoint is closed, opened or streaming. Opening commits every native mode that the
requests are routed to, or, if one cannot be committed, closes those that were; closing closes all
of them, whether or not the device complains; streaming arms one stream for each mode. Opening and
streaming hold a power reference each.

Stopping lets go of the consumer, which releases the frames it kept, and then waits until the
application has released its own.
-/

namespace Sensing

namespace VideoRig

/-! ## Modes and requests -/

/-- Asks the device for its modes. -/
def enumerate : Work VideoRig (List NativeMode) :=
  powered do
    let reported ← Rig.request VideoCall.enumerate
    let modes := distinct reported
    let count := modes.length
    Work.change (Rig.note .info s!"{title}: enumerated {count} native profiles")
    return modes

/-- The native modes of the device. -/
def modes : Work VideoRig (List NativeMode) := Rig.modesBy enumerate

/-- Routes requests over the native modes. -/
def resolve (requests : List StreamRequest) : Work VideoRig (List Route) :=
  Rig.resolveBy enumerate requests

/-- What the registered formats make of a mode: one request for each output of the mode's format. -/
def offers (formats : List PixelFormat) (m : NativeMode) : List StreamRequest :=
  match formats.find? fun pf => pf.format = m.format with
  | none => []
  | some pf =>
    pf.unpackers.flatMap fun u => u.outputs.map fun (channel, encoding) =>
      { channel, width := m.width, height := m.height, fps := m.fps, encoding }

/-- All that can be asked for, the greatest request first. -/
def principalRequests (formats : List PixelFormat) (ms : List NativeMode) : List StreamRequest :=
  (sortByKey StreamRequest.key (ms.flatMap (offers formats))).reverse

/-- The codes of modes without a registered format, in increasing order. -/
def unusedCodes (formats : List PixelFormat) (ms : List NativeMode) : List FourCC :=
  let unused := ms.filter fun m => (formats.find? fun pf => pf.format = m.format).isNone
  sortByKey (fun f => [f.code.toNat]) (unused.map (·.format))

/-- The requests a caller without wishes of its own should open. -/
def principal : Work VideoRig (List StreamRequest) := do
  let ms ← modes
  let formats ← Work.look fun r => r.core.formats
  for code in unusedCodes formats ms do
    let text := code.text
    Work.change (Rig.note .warn s!"{title}: unutilized native format {text}")
  return principalRequests formats ms

/-! ## Opening and closing -/

/-- The modes of a list of routes, in order of first occurrence. -/
def routedModes (routes : List Route) : List NativeMode := distinct (routes.map (·.source.mode))

/-- Closes modes again, going on when the device complains. -/
def rollBack : List NativeMode → Procedure VideoRig Unit
  | [] => return
  | m :: ms => do
    match ← Rig.attempt (VideoCall.close m) with
    | .ok _ => pure ()
    | .error cause =>
      let mode := m.text
      let chain := cause.text
      Rig.report .warn s!"{title}: rollback close of {mode} failed: {chain}"
    rollBack ms

/-- Commits modes in order. A failure closes those committed before, the last one first; `done`
lists them in that order. -/
def commitAll (done : List NativeMode) : List NativeMode → Work VideoRig Unit
  | [] => return
  | m :: ms => do
    Work.onFailure (rollBack done) (Rig.request (VideoCall.commit m))
    commitAll (m :: done) ms

/-- Opens streams for requests. -/
def openStreams (requests : List StreamRequest) : Work VideoRig Unit := do
  Work.check fun r => r.core.checkOpen title
  Work.step acquire
  Work.onFailure (.change release) do
    let routes ← resolve requests
    let ms := routedModes routes
    commitAll [] ms
    let asked := requests.length
    let count := ms.length
    Work.change (Rig.note .info
      s!"{title}: opened {asked} request(s) on {count} native profile(s)")
    Work.change fun r =>
      { r with
        own := { r.own with configuration := routes }
        core := { r.core with opened := true } }

/-- Closes modes, going on when the device complains, and gives its first complaint. -/
def closeAll : List NativeMode → Procedure VideoRig (Option Cause)
  | [] => return none
  | m :: ms => do
    match ← Rig.attempt (VideoCall.close m) with
    | .ok _ => closeAll ms
    | .error cause =>
      let mode := m.text
      let chain := cause.text
      Rig.report .warn s!"{title}: close of {mode} failed: {chain}"
      let _ ← closeAll ms
      return some cause

/-- Closes the endpoint, which it is afterwards even if the device complains. -/
def close : Work VideoRig Unit := do
  Work.check fun r => r.core.checkClose title
  let routes ← Work.look fun r => r.own.configuration
  let complaint ← Work.ofProcedure (closeAll (routedModes routes))
  Work.change fun r =>
    { r with
      own := { r.own with configuration := [] }
      core := { r.core with opened := false } }
  Work.change release
  Work.change (Rig.note .info s!"{title}: closed")
  match complaint with
  | none => return
  | some cause => throw (.ofCause cause)

/-! ## Streaming -/

/-- A fresh lane for each route of a mode. -/
def lanesFor (layout : ClockLayout) (routes : List Route) (m : NativeMode) : List Lane :=
  (routes.filter fun route => route.source.mode = m).map fun route =>
    Lane.start layout route.source

/-- One stream for each mode of a configuration. -/
def streamsFor (layout : ClockLayout) (routes : List Route) : List (NativeMode × VideoSink) :=
  (routedModes routes).map fun m => (m, .lanes (lanesFor layout routes m))

/-- Says, once for each route, what is wrong with the layout of the clocks. -/
def warnOfLayout (r : VideoRig) : VideoRig :=
  match r.own.layout.problem? with
  | none => r
  | some cause =>
    let chain := cause.text
    r.own.configuration.foldl
      (fun r _ => r.note .warn s!"RollingTimestampReader: {chain}") r

/-- Starts to stream to a consumer. -/
def start (k : Consumer) : Work VideoRig Unit := do
  Work.check fun r => r.core.checkStart title
  Work.step acquire
  Work.onFailure (.change release) do
    Work.change (Rig.mapCore (·.engage k))
    Work.change warnOfLayout
    let streams ← Work.look fun r => streamsFor r.own.layout r.own.configuration
    Work.onFailure (.change (Rig.mapCore (·.dismiss))) (Rig.request (VideoCall.streamOn streams))
    Work.change fun r => { r with core := { r.core with streaming := true } }
    Work.change (Rig.note .info s!"{title}: streaming started")

/-- Stops to stream; nothing happens where the endpoint does not. -/
def stop : Work VideoRig Unit := do
  if ← Work.look fun r => r.core.streaming then
    let result ← Work.ofProcedure (Rig.attempt VideoCall.streamOff)
    Work.change fun r => { r with core := { r.core with streaming := false } }
    Work.change (Rig.mapCore (·.dismiss))
    Work.ofProcedure Rig.flush
    Work.change release
    Work.change (Rig.note .info s!"{title}: streaming stopped")
    match result with
    | .ok _ => return
    | .error cause => throw (.ofCause cause)

/-- Powers the device down if anybody still has a reference. -/
def cutPower (r : VideoRig) : VideoRig :=
  if r.own.users = 0 then r
  else
    match Rig.call (VideoCall.setPower .d3) { r with own := { r.own with users := 0 } } with
    | (.ok _, r) => r.note .info s!"{title}: device powered off on drop"
    | (.error cause, r) =>
      let chain := cause.text
      r.note .warn s!"{title}: power off on drop failed: {chain}"

/-- What is left to do once the application has dropped the endpoint. -/
def retire : Procedure VideoRig Unit := do
  Rig.retireBy title stop close
  Procedure.change cutPower

/-! ## Delivery -/

/-- Passes a raw image along one lane. -/
def deliverLane (m : NativeMode) (data : Bytes) (l : Lane) (c : Core) : Lane × Core :=
  let mode := m.text
  if !l.accepts data then (l, c.note .debug s!"{title}: invalid frame on {mode} dropped")
  else
    let (time, number, l) := l.count data
    match c.allocateAll (Lane.drafts l.source time c.hostTime number data.length) with
    | (none, c) =>
      (l, c.note .debug s!"{title}: frame {number} on {mode} dropped under backpressure")
    | (some frames, c) =>
      let stamp := time.plain
      let c := c.note .trace s!"{title}: frame {number} ts {stamp} on {mode}"
      (l, (Lane.decode l.source data frames).foldl (fun c f => c.offer f) c)

/-- Passes a raw image along lanes in order. -/
def deliverLanes (m : NativeMode) (data : Bytes) : List Lane → Core → List Lane × Core
  | [], c => ([], c)
  | l :: ls, c =>
    let (l, c) := deliverLane m data l c
    let (ls, c) := deliverLanes m data ls c
    (l :: ls, c)

/-- Changes the device outside of any call. -/
def mapDevice (f : VideoDevice → VideoDevice) (r : VideoRig) : VideoRig :=
  { r with machine := { r.machine with device := f r.machine.device } }

/-- The armed stream at a place takes in a raw image of its mode. -/
def deliverTo (place : Nat) (data : Bytes) (r : VideoRig) : VideoRig :=
  match r.machine.device.armed[place]? with
  | none => r
  | some (m, .tap) => mapDevice (fun d => { d with tapped := d.tapped ++ [(m, data)] }) r
  | some (m, .lanes ls) =>
    let (ls, core) := deliverLanes m data ls r.core
    mapDevice (fun d => { d with armed := d.armed.set place (m, .lanes ls) }) { r with core }

/-- The device delivers a raw image of a mode to the first stream that is armed for it; whether
there is one. -/
def deliver (m : NativeMode) (data : Bytes) (r : VideoRig) : Bool × VideoRig :=
  match r.machine.device.armed.findIdx? fun s => s.1 = m with
  | none => (false, r)
  | some place => (true, deliverTo place data r)

/-- The armed streams from a place on take in a raw image each. -/
def deliverFrom (place : Nat) (images : List (NativeMode × Bytes)) (r : VideoRig) : VideoRig :=
  (images.zipIdx place).foldl (fun r (image, place) => deliverTo place image.2 r) r

/-- An automatic device makes its next round of images. Each armed stream takes in its own, also
where another one is armed for the same mode. -/
def nextRound (r : VideoRig) : VideoRig :=
  if !r.machine.device.automatic then r
  else mapDevice (·.nextRound) (deliverFrom 0 r.machine.device.ownImages r)

/-! ## Controls of the processing unit -/

/-- Registers a control of the processing unit and says whether its identifier was free. -/
def registerProcessing (id : ControlId) (r : VideoRig) : Bool × VideoRig :=
  let r := { r with own := { r.own with processing := r.own.processing ++ [id] } }
  r.onCore (·.registerControl id (.processing id))

/-- Does something with the powered device on behalf of a control. -/
def forControl {α : Type} (id : ControlId) (work : Procedure VideoRig (Except Cause α)) :
    Procedure VideoRig (Except Cause α) := do
  if ← Procedure.look fun r : VideoRig => r.core.alive then
    match ← (powered (Work.ofProcedure work)).run with
    | .ok result => return result
    | .error e => return .error e.toCause
  else
    let control := id.label
    return .error ⟨s!"endpoint owning {control} was dropped", []⟩

/-- One call of a control of the processing unit. Values are whole numbers of 32 bits. -/
def callProcessing (id : ControlId) :
    ControlCall → Procedure VideoRig (Except Cause ControlAnswer)
  | .query => do
    let result ← forControl id (Rig.attempt (VideoCall.readControl id))
    return result.map fun v => .value (.ofInt .single v)
  | .set v => do
    let raw := v.toIntClamped (-2147483648) 2147483647
    let result ← forControl id (Rig.attempt (VideoCall.writeControl id raw))
    return result.map fun _ => .done
  | .range => do
    let result ← forControl id (Rig.attempt (VideoCall.controlRange id))
    return result.map .range
  | .enabled => return .ok (.enabled true)
  | .description => return .ok (.description "UVC processing unit control")

end VideoRig

end Sensing
