import Sensing.Proofs.Clients.Annals
import Sensing.Proofs.Motion.Turns

/-!
# What a motion device records

A motion device records when it is opened and closed, and when its capture is turned on and off.
After the question for its sensors, what it has recorded is a sequence of blocks, each from an
opening to the closing that belongs to it; while the endpoint streams, the last block is still
without its end. A `CaptureHistory` keeps these blocks apart: those in which sensors were captured,
and openings that came to nothing because the capture did not start.

Main result: the device keeps to this along every run of a motion endpoint, the end of the endpoint
included, and each block has captured what was configured when its session began
(`MotionRig.sessions_recorded_in_blocks`).
-/

namespace Sensing

/-! ## Blocks -/

/-- An opening of the device with the closing that belongs to it. -/
inductive CaptureBlock where
  /-- These sensors were captured. -/
  | captured (iios : List UInt32)
  /-- The capture did not start. -/
  | abandoned

namespace CaptureBlock

def events : CaptureBlock → List MotionEvent
  | captured iios => [.opened, .captureOn iios, .captureOff, .closed]
  | abandoned => [.opened, .closed]

/-- The sensors of the session that the block was. -/
def session? : CaptureBlock → Option (List UInt32)
  | captured iios => some iios
  | abandoned => none

end CaptureBlock

/-- The blocks of a run so far. -/
structure CaptureHistory where
  past : List CaptureBlock := []
  /-- The sensors that are captured, while there are any. -/
  current : Option (List UInt32) := none

namespace CaptureHistory

/-- All that is recorded since the device was asked for its sensors, and what was recorded then. -/
def events (h : CaptureHistory) : List MotionEvent :=
  [.opened, .closed] ++ h.past.flatMap (·.events) ++
    (h.current.map fun iios => [.opened, .captureOn iios]).getD []

/-- The sensors of each session. -/
def sessions (h : CaptureHistory) : List (List UInt32) :=
  h.past.filterMap (·.session?) ++ h.current.toList

/-- A block that begins adds its first two events, -/
@[simp] theorem events_open (past : List CaptureBlock) (iios : List UInt32) :
    (CaptureHistory.mk past (some iios)).events =
      (CaptureHistory.mk past none).events ++ [.opened, .captureOn iios] := by
  simp [events]

/-- and one that is complete adds all of its own. -/
@[simp] theorem events_close (past : List CaptureBlock) (b : CaptureBlock) :
    (CaptureHistory.mk (past ++ [b]) none).events =
      (CaptureHistory.mk past none).events ++ b.events := by
  simp [events]

/-- A session counts from its beginning, -/
@[simp] theorem sessions_open (past : List CaptureBlock) (iios : List UInt32) :
    (CaptureHistory.mk past (some iios)).sessions =
      (CaptureHistory.mk past none).sessions ++ [iios] := by
  simp [sessions]

/-- and when it has ended, -/
@[simp] theorem sessions_captured (past : List CaptureBlock) (iios : List UInt32) :
    (CaptureHistory.mk (past ++ [.captured iios]) none).sessions =
      (CaptureHistory.mk past none).sessions ++ [iios] := by
  simp [sessions, CaptureBlock.session?]

/-- but an opening that came to nothing is none. -/
@[simp] theorem sessions_abandoned (past : List CaptureBlock) :
    (CaptureHistory.mk (past ++ [.abandoned]) none).sessions =
      (CaptureHistory.mk past none).sessions := by
  simp [sessions, CaptureBlock.session?]

end CaptureHistory

/-! ## What operations add -/

namespace MotionStanding

/-- All that the device has recorded are blocks, of sessions with these sensors. -/
structure Recounts (sensors : List Sensor) (sessions : List (List UInt32)) (v : MotionStanding) :
    Prop where
  rests : v.Rests sensors
  history : ∃ h : CaptureHistory, h.current.isSome = v.phase.isStreaming ∧ v.events = h.events ∧
    h.sessions = sessions

/-- The sensors of the session that an operation begins if it succeeds. -/
def begins (v : MotionStanding) : Transition → Except EndpointError Unit → List (List UInt32)
  | .start, .ok _ => [v.configured.map SensorRate.iio]
  | _, _ => []

variable {plan : FaultPlan MotionCall} {sensors : List Sensor} {sessions : List (List UInt32)}
  {v v' : MotionStanding} {t : Transition} {a : Except EndpointError Unit}

/-- What was just constructed has recorded no block. -/
theorem recounts_fresh (sensors : List Sensor) : (fresh sensors).Recounts sensors [] :=
  ⟨rests_fresh sensors, {}, rfl, rfl, rfl⟩

/-- While the endpoint does not stream, all blocks have their end. -/
theorem Recounts.past (h : v.Recounts sensors sessions) (idle : v.phase.isStreaming = false) :
    ∃ past, v.events = (CaptureHistory.mk past none).events ∧
      (CaptureHistory.mk past none).sessions = sessions := by
  obtain ⟨-, ⟨past, current⟩, streaming, recorded, all⟩ := h
  cases current with
  | none => exact ⟨past, recorded, all⟩
  | some iios => cases streaming.trans idle

/-- A stop ends the last block. -/
theorem Recounts.stopped (h : v.Recounts sensors sessions) :
    v.stopped.Recounts sensors sessions := by
  refine ⟨h.rests.stopped, ?_⟩
  obtain ⟨-, ⟨past, current⟩, streaming, recorded, rfl⟩ := h
  unfold MotionStanding.stopped
  split
  next isStreaming =>
    rw [isStreaming] at streaming
    obtain ⟨iios, rfl⟩ := Option.isSome_iff_exists.1 streaming
    exact ⟨⟨past ++ [.captured iios], none⟩, rfl, by simp [recorded, CaptureBlock.events], by simp⟩
  next => exact ⟨⟨past, current⟩, streaming, recorded, rfl⟩

/-- An endpoint that is dropped ends its last block. -/
theorem Recounts.seenOff (h : v.Recounts sensors sessions) :
    v.seenOff.Recounts sensors sessions := by
  obtain ⟨past, recorded, all⟩ := h.stopped.past (Phase.isStreaming_eq_false v.stopped_phase)
  exact ⟨h.rests.seenOff, ⟨past, none⟩, rfl, recorded, all⟩

/-- Every operation adds a block, or begins or ends one, or adds nothing. -/
theorem Recounts.turn (h : v.Recounts sensors sessions) (turn : v.Turn plan sensors t a v') :
    v'.Recounts sensors (sessions ++ v.begins t a) := by
  have rests := turn.rests h.rests
  have error (t : Transition) (e : EndpointError) :
      sessions ++ v.begins t (.error e) = sessions := by
    cases t <;> exact List.append_nil _
  -- A block can be begun or added only while none is under way.
  cases turn with
  | refused | unopened =>
    rw [error]
    exact h
  | opened closed =>
    obtain ⟨past, recorded, all⟩ := h.past (closed ▸ rfl)
    refine ⟨rests, ⟨past, none⟩, rfl, recorded, ?_⟩
    rw [all]
    exact (List.append_nil _).symm
  | closed opened =>
    obtain ⟨past, recorded, all⟩ := h.past (opened ▸ rfl)
    refine ⟨rests, ⟨past, none⟩, rfl, recorded, ?_⟩
    rw [all]
    exact (List.append_nil _).symm
  | abandoned opened =>
    obtain ⟨past, recorded, all⟩ := h.past (opened ▸ rfl)
    refine ⟨rests, ⟨past ++ [.abandoned], none⟩, ?_, ?_, ?_⟩
    · show false = v.phase.isStreaming
      rw [opened]
      rfl
    · simp [MotionStanding.abandoned, recorded, CaptureBlock.events]
    · rw [error, CaptureHistory.sessions_abandoned, all]
  | started opened =>
    obtain ⟨past, recorded, all⟩ := h.past (opened ▸ rfl)
    refine ⟨rests, ⟨past, some (v.configured.map SensorRate.iio)⟩, rfl, ?_, ?_⟩
    · simp [MotionStanding.started, recorded]
    · rw [CaptureHistory.sessions_open, all]
      rfl
  | stopped =>
    have nothing : sessions ++ v.begins .stop (.ok ()) = sessions := List.append_nil _
    rw [nothing]
    exact h.stopped

end MotionStanding

namespace MotionRig

variable {plan : FaultPlan MotionCall} {sensors : List Sensor}

/-- The sensors that a start has found configured. -/
def configuredIios (b : Beginning MotionRig) : List UInt32 :=
  b.found.own.configured.map SensorRate.iio

/-- Every task adds to what the device has recorded what its session adds. -/
theorem continues (amenable : Amenable plan) : dispatch.Continues (standing plan sensors)
    fun sessions v => v.Recounts sensors (sessions.map configuredIios) := by
  intro t found v sessions known recounts
  cases t with
  | serve op locks =>
    obtain ⟨t, transition⟩ := Option.isSome_iff_exists.1 locks
    refine Work.Follows.mono (fun a _ h => h.mono fun a v' turn => ?_)
      (serves_turn amenable recounts.rests transition)
    -- Only a start begins a session, with the sensors that are configured as it finds the endpoint.
    have adds : (dispatch.adds (.serve op locks) found a).map configuredIios = v.begins t a := by
      have configured : found.own.configured = v.configured := known.configured
      cases op with
      | start =>
        cases transition
        cases a <;> simp [Dispatch.adds, Dispatch.begins, dispatch, Rig.dispatch, configuredIios,
          MotionStanding.begins, Except.isOk, Except.toBool, configured]
      | openStreams | close | stop =>
        cases transition
        cases a <;> rfl
      | modes | principal | resolve | flush => cases transition
    show v'.Recounts sensors ((sessions ++ _).map configuredIios)
    rw [List.map_append, adds]
    exact recounts.turn turn
  | retire =>
    refine Work.follows_last (retire_turns amenable recounts.rests) ?_
    have nothing : sessions ++ dispatch.adds .retire found (.ok ()) = sessions := List.append_nil _
    rw [nothing]
    exact recounts.seenOff

/-- The device of a constructed endpoint is open, and captures, exactly while the endpoint streams,
and what it has recorded are blocks, one for each session and each start that came to nothing. Each
session has captured the sensors that were configured when it began. This holds whatever any number
of clients do, whatever else happens and after the endpoint's end, where opening and starting to
capture may fail without effect at any time. -/
theorem sessions_recorded_in_blocks {capacity limit : Nat} {frequency : UInt32} {automatic : Bool}
    (amenable : Amenable plan) {r : MotionRig}
    (constructed : construct.run.run (.create (.create capacity limit) frequency
      { sensors, automatic } plan) = .finished (.ok ()) r) :
    -- However a state between two operations was reached, it has its sessions.
    (∀ c : Crowd MotionRig, Crowd.Reaches (fun _ => True) { rig := r } c → c.holder = none →
      ∃ sessions, dispatch.Annals (fun _ => True) { rig := r } c none sessions) ∧
    ∀ (c : Crowd MotionRig) (sessions : List (Beginning MotionRig)),
      dispatch.Annals (fun _ => True) { rig := r } c none sessions →
      c.rig.machine.device.opened = c.rig.core.streaming ∧
        c.rig.machine.device.capture.isSome = c.rig.core.streaming ∧
        ∃ history : CaptureHistory, history.current.isSome = c.rig.core.streaming ∧
          c.rig.machine.device.events = history.events ∧
          history.sessions = sessions.map configuredIios := by
  refine ⟨fun c reached free => ?_, fun c sessions h => ?_⟩
  · obtain ⟨task, sessions, annals, same⟩ := Dispatch.annals_of_reaches dispatch rfl reached
    obtain rfl := same.2 free
    exact ⟨sessions, annals⟩
  -- The standing of the endpoint and its history are kept up together, session by session.
  · obtain ⟨v, known, rests, history, streaming, recorded, all⟩ := h.known
      (I := fun sessions v => v.Recounts sensors (sessions.map configuredIios))
      (fun _ => trivial) (unspoilt fun _ _ => trivial) (continues amenable)
      (describes_constructed amenable constructed) (MotionStanding.recounts_fresh sensors) rfl rfl
    have phase := known.phase.streaming
    refine ⟨?_, ?_, history, ?_, known.events.trans recorded, all⟩
    · rw [known.opened, rests.opened, phase]
    · rw [known.capturing, rests.capturing, phase]
    · rw [streaming, phase]

/-- A fault schedule under which the first capture does not start and the next opening fails. -/
def faltering : FaultPlan MotionCall := fun n c =>
  match c with
  | .startCapture .. => if n = 4 then some { cause := ⟨"device is busy", []⟩ } else none
  | .openDevice => if n = 6 then some { cause := ⟨"device is busy", []⟩ } else none
  | _ => none

/-- Neither failure takes effect, and nothing else fails. -/
theorem amenable_faltering : Amenable faltering := by
  have early (call n : Nat) (fault : Fault)
      (h : (if n = call then some { cause := ⟨"device is busy", []⟩ } else none) = some fault) :
      fault.late = false := by
    split at h <;> cases h
    rfl
  exact ⟨early 6, fun _ _ => early 4, fun _ => rfl, fun _ => rfl⟩

/-- Two starts that come to nothing, a session with the one sensor, and one under way with the
other. -/
theorem faltering_recorded_in_blocks :
    ∃ (r : MotionRig) (c : Crowd MotionRig) (sessions : List (Beginning MotionRig)),
      Amenable faltering ∧
      construct.run.run (.create (.create 4 4) 0 { sensors := MotionDevice.motionModule }
        faltering) = .finished (.ok ()) r ∧
      dispatch.Annals (fun _ => True) { rig := r } c none sessions ∧
      c.rig.core.streaming = true ∧ c.rig.machine.device.opened = true ∧
      c.rig.machine.device.events = [.opened, .closed, .opened, .closed,
        .opened, .captureOn [1], .captureOff, .closed, .opened, .captureOn [0]] ∧
      ∃ history : CaptureHistory, history.current.isSome = true ∧
        history.sessions = sessions.map configuredIios := by
  -- The eight tasks of the run, computed once; the general theorem is applied to the annals that
  -- they make.
  let opening (channel : Channel) : Task MotionRig :=
    .serve (.openStreams [{ channel }] : MotionOp) rfl
  let starting : Task MotionRig := .serve (.start fun _ => .hold : MotionOp) rfl
  let stopping : Task MotionRig := .serve MotionOp.stop rfl
  let closing : Task MotionRig := .serve MotionOp.close rfl
  have computed : (do
      let (_, r) ← construct.success? (.create (.create 4 4) 0
        { sensors := MotionDevice.motionModule } faltering)
      let (_, r) ← (dispatch.errand (opening .accel)).outcome? r
      let (_, r) ← (dispatch.errand starting).outcome? r
      let (_, r) ← (dispatch.errand starting).outcome? r
      let (_, r) ← (dispatch.errand starting).outcome? r
      let (_, r) ← (dispatch.errand stopping).outcome? r
      let (_, r) ← (dispatch.errand closing).outcome? r
      let (_, r) ← (dispatch.errand (opening .gyro)).outcome? r
      let (_, r) ← (dispatch.errand starting).outcome? r
      return r.core.streaming && r.machine.device.events = [.opened, .closed, .opened,
        .closed, .opened, .captureOn [1], .captureOff, .closed, .opened, .captureOn [0]]) =
          some true := by
    decide +kernel
  simp only [Option.bind_eq_bind, Option.bind_eq_some_iff, Prod.exists, Option.pure_def,
    Option.some.injEq, Bool.and_eq_true, decide_eq_true_eq] at computed
  obtain ⟨_, r, construction, _, _, opened, _, _, busy, _, _, shut, _, _, started, _, _,
    stopped, _, _, closed, _, _, reopened, _, _, restarted, streaming, events⟩ := computed
  have constructed := Work.run_of_success? construction
  have annals : dispatch.Annals (fun _ => True) { rig := r } { rig := r } none [] := .start
  have annals := annals.carried rfl (opening .accel) (Procedure.run_of_outcome? opened)
  have annals := annals.carried rfl starting (Procedure.run_of_outcome? busy)
  have annals := annals.carried rfl starting (Procedure.run_of_outcome? shut)
  have annals := annals.carried rfl starting (Procedure.run_of_outcome? started)
  have annals := annals.carried rfl stopping (Procedure.run_of_outcome? stopped)
  have annals := annals.carried rfl closing (Procedure.run_of_outcome? closed)
  have annals := annals.carried rfl (opening .gyro) (Procedure.run_of_outcome? reopened)
  have annals := annals.carried rfl starting (Procedure.run_of_outcome? restarted)
  obtain ⟨isOpen, -, history, current, -, sessions⟩ :=
    (sessions_recorded_in_blocks amenable_faltering constructed).2 _ _ annals
  exact ⟨r, _, _, amenable_faltering, constructed, annals, streaming, isOpen.trans streaming,
    events, history, current.trans streaming, sessions⟩

end MotionRig

end Sensing
