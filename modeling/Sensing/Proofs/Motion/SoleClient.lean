import Sensing.Proofs.Clients.Attainment
import Sensing.Proofs.Lifecycle.Departure
import Sensing.Proofs.Motion.Opening
import Sensing.Proofs.Motion.Turns

/-!
# The only client of a motion endpoint

Whoever has a motion endpoint to itself, from before its construction, on a device whose calls are
not made to fail, knows where both stand (`MotionPosition`), and that is as true after every sample
that the device delivers (`MotionRig.deliver_stands`). If the client's consumer keeps no frames
either, no operation that it makes in order fails or waits, but for an opening that asks for what no
sensor feeds.

Main results: one theorem for each operation, of what it comes to whatever the device delivers
meanwhile. An opening is decided by what its requests ask of the sensors
(`MotionRig.openStreams_attains`).
-/

namespace Sensing

/-- Where the only client of a motion endpoint stands, and which formats are registered. -/
structure MotionPosition where
  standing : MotionStanding
  formats : List PixelFormat

namespace MotionPosition

/-- This is where the client stands, and no frame is out that was offered. -/
structure Describes (sensors : List Sensor) (v : MotionPosition) (r : MotionRig) : Prop where
  standing : v.standing.Describes .sound sensors r
  formats : r.core.formats = v.formats
  cached : ∀ modes, r.core.modes.value = some modes → modes = MotionRig.sensedModes sensors
  frames : r.core.Unclaimed

/-- Between operations, in this phase. -/
structure Rests (sensors : List Sensor) (p : Phase) (v : MotionPosition) : Prop where
  resting : v.standing.Rests sensors
  phase : v.standing.phase = p
  formats : v.formats = PixelFormat.motion

end MotionPosition

namespace MotionRig

open Procedure (Attains Succeeds)
open MotionPosition (Describes Rests)

variable {sensors : List Sensor} {v : MotionPosition} {u : MotionStanding}
  {formats : List PixelFormat} {r r' : MotionRig}

/-! ## Steps -/

/-- A step that is about neither the lifecycle nor the device. -/
theorem stands_unmoved (known : Describes sensors v r) (unmoved : r.Unmoved r')
    (transit : r.core.Transit r'.core) (frames : r'.core.Unclaimed) : Describes sensors v r' := by
  refine ⟨unmoved.spares v.standing known.standing, transit.formats.trans known.formats, ?_,
    frames⟩
  rw [transit.modes]
  exact known.cached

/-- A step of the endpoint itself. -/
theorem stands_turned {p : Phase} {found : List Sensor} {configured : List SensorRate}
    (known : Describes sensors v r) (machine : r'.machine = r.machine)
    (core : r'.core = { r.core with
      opened := r'.core.opened
      streaming := r'.core.streaming
      formats := r'.core.formats })
    (phase : r'.core.InPhase p) (finds : r'.own.sensors = found)
    (configures : r'.own.configured = configured) (registers : r'.core.formats = formats) :
    Describes sensors ⟨{ v.standing with phase := p, known := found, configured }, formats⟩ r' := by
  obtain ⟨⟨plan, hsensors, granted, -, -, -, opened, capturing, events⟩, -, cached, frames⟩ := known
  rw [← machine] at plan hsensors granted opened capturing events
  refine ⟨⟨plan, hsensors, granted, phase, finds, configures, opened, capturing, events⟩, registers,
    ?_, frames.of_same ?_⟩
  · rw [core]
    exact cached
  · rw [core]
    exact ⟨rfl, rfl, rfl⟩

/-- Logging leaves the client where it stands. -/
theorem note_succeeds {level : LogLevel} {message : String} :
    (say level message).run.Succeeds (Describes sensors) (fun _ w => w = v) v := by
  refine Work.succeeds_change fun r known => stands_unmoved known ?_ ⟨rfl⟩ ?_
  · exact ⟨(fun hp => ⟨hp.opened, hp.streaming⟩), rfl, rfl, rfl, rfl, rfl, rfl, rfl⟩
  · exact known.frames.of_same ⟨rfl, rfl, rfl⟩

/-- A call that the device does not turn down. -/
theorem attempt_succeeds {c : MotionCall} {P : c.Reply → Prop} (allowed : u.Allows sensors c)
    (answers : ∀ r, u.Describes .sound sensors r →
      ∀ a, (MotionDevice.perform c r.machine.device).1 = .ok a → P a) :
    (Rig.attempt c : Procedure MotionRig _).Succeeds (Describes sensors)
      (fun a w => P a ∧ w = ⟨u.called c, formats⟩) ⟨u, formats⟩ := by
  refine Rig.attains_attempt fun r known => ?_
  obtain ⟨answer, device⟩ := Machine.call_of_sound (m := r.machine) (c := c) (by
    rw [known.standing.plan]
    rfl)
  obtain ⟨a, granted⟩ := (known.standing.granting allowed).1
  exact ⟨a, answer.trans granted, ⟨u.called c, formats⟩,
    ⟨known.standing.done allowed device, known.formats, known.cached, known.frames⟩,
    answers r known.standing a granted, rfl⟩

/-! ## Deliveries -/

/-- Wherever the client stands, a sample leaves it there. -/
theorem sample_stands (s : Sensor) (data : Bytes) (known : Describes sensors v r) :
    Describes sensors v (sample s data r) := by
  refine stands_unmoved known (sample_unmoved s data r) ?_ (sample_unclaimed s data known.frames)
  unfold sample
  split
  · exact .refl _
  · exact .refl _
  · exact deliverSample_transit ..

/-- So do a delivery, -/
theorem deliver_stands (name : String) (data : Bytes) (known : Describes sensors v r) :
    Describes sensors v (deliver name data r).2 :=
  deliver_induction (P := Describes sensors v) (fun s data _ => sample_stands s data) name data
    known

/-- and a round. -/
theorem nextRound_stands (known : Describes sensors v r) : Describes sensors v (nextRound r) := by
  refine nextRound_induction (P := Describes sensors v) (fun s data _ => sample_stands s data)
    (fun r known => stands_unmoved known ?_ ⟨rfl⟩ known.frames) known
  exact ⟨id, rfl, rfl, rfl, rfl, rfl, rfl, rfl⟩

/-! ## Construction -/

/-- The endpoint before it is constructed. -/
theorem describes_newborn (capacity limit : Nat) (frequency : UInt32) (automatic : Bool) :
    Describes sensors ⟨.unborn, []⟩
      (.create (.create capacity limit) frequency { sensors, automatic }) :=
  ⟨describes_unborn capacity limit frequency automatic, rfl, (fun _ none => nomatch none),
    Core.unclaimed_create capacity limit⟩

/-- Constructing the endpoint succeeds, and it is closed then. -/
theorem construct_succeeds : construct.run.Succeeds (Describes sensors)
    (fun _ w => w.Rests sensors .closed) ⟨.unborn, []⟩ := by
  -- What the device comes to is known step by step; the sensors are named while it is open.
  let opened : MotionStanding := .called .openDevice .unborn
  let shut : MotionStanding := .called .closeDevice opened
  have opens : (Rig.attempt MotionCall.openDevice : Procedure MotionRig _).Succeeds
      (Describes sensors) (fun _ w => True ∧ w = ⟨opened, []⟩) ⟨.unborn, []⟩ :=
    attempt_succeeds trivial fun _ _ _ _ => trivial
  have lists : (Rig.attempt MotionCall.listSensors : Procedure MotionRig _).Succeeds
      (Describes sensors) (fun found w => found = sensors ∧ w = ⟨opened, []⟩) ⟨opened, []⟩ := by
    refine attempt_succeeds rfl fun r known found answer => ?_
    have asked : MotionDevice.perform .listSensors r.machine.device =
        (.ok r.machine.device.sensors, r.machine.device) :=
      MotionDevice.whileOpen_of_open known.opened _ _
    rw [asked, known.sensors] at answer
    cases answer
    rfl
  have closes : (Rig.attempt MotionCall.closeDevice : Procedure MotionRig _).Succeeds
      (Describes sensors) (fun _ w => True ∧ w = ⟨shut, []⟩) ⟨opened, []⟩ :=
    attempt_succeeds trivial fun _ _ _ _ => trivial
  have registers : (Work.change fun r : MotionRig =>
      { r with own := { r.own with sensors },
               core := (r.core.registerFormat .gyro).registerFormat .accel }).run.Succeeds
      (Describes sensors) (fun _ w => w = ⟨.fresh sensors, PixelFormat.motion⟩) ⟨shut, []⟩ := by
    refine Work.succeeds_change fun r known => ?_
    have phase := known.standing.phase
    refine stands_turned known rfl rfl ⟨phase.opened, phase.streaming⟩ rfl
      known.standing.configured ?_
    show (r.core.formats ++ [.gyro]) ++ [.accel] = _
    rw [known.formats]
    rfl
  refine (Rig.succeeds_request opens).andThen ?_
  intro _ _ ⟨_, here⟩
  subst here
  refine (Attains.lifted lists).andThen ?_
  intro _ _ ⟨_, answered, same, here⟩
  subst answered same here
  refine (Attains.lifted closes).andThen ?_
  intro _ _ ⟨_, answered, _, here⟩
  subst answered here
  refine note_succeeds.onward fun _ => ?_
  refine registers.mono fun _ _ here => ?_
  exact here ▸ ⟨MotionStanding.rests_fresh _, rfl, rfl⟩

/-! ## Modes and requests -/

/-- What is proposed is one request for each channel of the sensors. -/
theorem principal_succeeds {p : Phase} (rests : v.Rests sensors p) :
    principal.run.Succeeds (Describes sensors)
      (fun requests w => requests = distinct (sensors.filterMap requestOf?) ∧ w = v) v := by
  have look : (Work.look fun r : MotionRig => r.own.sensors).run.Succeeds (Describes sensors)
      (fun found w => found = sensors ∧ w = v) v :=
    Work.succeeds_look fun r known => ⟨known.standing.known.trans rests.resting.known, rfl⟩
  refine look.andThen ?_
  intro found _ ⟨same, here⟩
  subst same here
  refine (Procedure.succeeds_forIn (fun s _ => ?_) _).onward fun _ =>
    Procedure.succeeds_pure ⟨rfl, rfl⟩
  split
  · exact note_succeeds.onward fun _ => Procedure.succeeds_pure rfl
  · exact Procedure.succeeds_pure rfl

/-- Requests are routed over the formats of motion data and the modes of the sensors. -/
theorem resolve_attains {p : Phase} (rests : v.Rests sensors p) (requests : List StreamRequest) :
    (resolve requests).run.Attains (Describes sensors)
      (fun a w => a = Route.resolve requests PixelFormat.motion (sensedModes sensors) ∧ w = v)
      v := by
  refine Rig.attains_resolveBy (Rig.succeeds_modesBy (fun r known => known.cached)
    (fun r known => ?_) (Work.succeeds_look fun r known => ⟨?_, rfl⟩))
    fun r known => known.formats.trans rests.formats
  · refine ⟨?_, known.formats, fun modes found => ?_, known.frames.of_same ⟨rfl, rfl, rfl⟩⟩
    · obtain ⟨plan, hsensors, granted, phase, found, configured, opened, capturing, events⟩ :=
        known.standing
      exact ⟨plan, hsensors, granted, ⟨phase.opened, phase.streaming⟩, found, configured, opened,
        capturing, events⟩
    · cases found
      rfl
  · rw [known.standing.known, rests.resting.known]
    rfl

/-! ## Opening and closing -/

/-- The endpoint is opened if the sensors can serve every request, and closed as before if the
requests cannot be routed. -/
theorem openStreams_attains {requests : List StreamRequest}
    {Q : Except EndpointError Unit → MotionPosition → Prop} (rests : v.Rests sensors .closed)
    (asked : requests ≠ [])
    (ok : ∀ w, (∀ q ∈ requests, q.Sensed sensors) → w.Rests sensors .opened → Q (.ok ()) w)
    (error : ∀ e, Route.resolve requests PixelFormat.motion (sensedModes sensors) = .error e →
      Q (.error e) v) :
    (openStreams requests).run.Attains (Describes sensors) Q v := by
  have check : (Work.check fun r : MotionRig => r.core.checkOpen title).run.Succeeds
      (Describes sensors) (fun _ w => w = v) v := by
    refine Work.succeeds_check fun r known => ⟨(), ?_, rfl⟩
    rcases Core.checkOpen_guards title (rests.phase ▸ known.standing.phase) with
      ⟨refuses, -⟩ | ⟨-, ok⟩
    · cases refuses
    · exact ok
  refine check.onward fun _ => ?_
  refine (resolve_attains rests requests).andThen ?_ fun e w refused => ?_
  · intro routes w ⟨routed, here⟩
    subst w
    -- What is routed is asked of sensors that there are, so their rates are found.
    have sensed : ∀ q ∈ requests, q.Sensed sensors := fun q mem =>
      servable_iff.1 ((Route.routable_iff asked).1 ⟨routes, routed.symm⟩ q mem)
    have select : (Work.check fun r : MotionRig =>
        ratesFor r.own.sensors r.own.frequency routes).run.Succeeds (Describes sensors)
          (fun rates w => (∀ rate ∈ rates, rate.Present sensors) ∧ w = v) v := by
      refine Work.succeeds_check fun r known => ?_
      have chosen : ratesFor sensors r.own.frequency routes = .ok _ :=
        ratesFor_resolve sensed routed.symm
      rw [known.standing.known, rests.resting.known]
      exact ⟨_, chosen, ratesFor_present chosen, rfl⟩
    refine select.andThen ?_
    intro rates w ⟨present, here⟩
    subst w
    have configure : (Work.change fun r : MotionRig =>
        { r with own := { r.own with configuration := routes, configured := rates },
                 core := { r.core with opened := true } }).run.Succeeds (Describes sensors)
        (fun _ w => w =
          ⟨{ v.standing with phase := .opened, configured := rates }, v.formats⟩) v :=
      Work.succeeds_change fun r known => stands_turned known rfl rfl
        ⟨rfl, known.standing.phase.streaming.trans (rests.phase ▸ rfl)⟩ known.standing.known rfl
        known.formats
    have turn : v.standing.Turn .sound sensors .openStreams (.ok ())
        { v.standing with phase := .opened, configured := rates } := .opened rests.phase present
    refine note_succeeds.onward fun _ => Attains.mono (fun answer w done => ?_) configure
    obtain ⟨_, answered, here⟩ := done
    subst answered here
    exact ok _ sensed ⟨turn.rests rests.resting, rfl, rests.formats⟩
  · exact refused.2 ▸ error e refused.1.symm

/-- An endpoint that is open can be closed. -/
theorem close_succeeds (rests : v.Rests sensors .opened) :
    close.run.Succeeds (Describes sensors) (fun _ w => w.Rests sensors .closed) v := by
  have check : (Work.check fun r : MotionRig => r.core.checkClose title).run.Succeeds
      (Describes sensors) (fun _ w => w = v) v := by
    refine Work.succeeds_check fun r known => ⟨(), ?_, rfl⟩
    rcases Core.checkClose_guards title (rests.phase ▸ known.standing.phase) with
      ⟨refuses, -⟩ | ⟨-, ok⟩
    · cases refuses
    · exact ok
  have forget : (Work.change fun r : MotionRig =>
      { r with own := { r.own with configuration := [], configured := [] },
               core := { r.core with opened := false } }).run.Succeeds (Describes sensors)
      (fun _ w => w = ⟨{ v.standing with phase := .closed, configured := [] }, v.formats⟩) v :=
    Work.succeeds_change fun r known => stands_turned known rfl rfl
      ⟨rfl, known.standing.phase.streaming.trans (rests.phase ▸ rfl)⟩ known.standing.known rfl
      known.formats
  have turn : v.standing.Turn .sound sensors .close (.ok ())
      { v.standing with phase := .closed, configured := [] } := .closed rests.phase
  refine check.onward fun _ => forget.onward fun _ => note_succeeds.mono fun _ _ here => ?_
  exact here ▸ ⟨turn.rests rests.resting, rfl, rests.formats⟩

/-! ## Starting and stopping -/

/-- A consumer that keeps no frames is engaged, -/
theorem engage_succeeds {k : Consumer} (passing : k.Passing) :
    (Work.change (Rig.mapCore (·.engage k))).run.Succeeds (Describes sensors)
      (fun _ w => w = v) v :=
  Work.succeeds_change fun r known => stands_unmoved known
    (unmoved_calm (fun c => Core.calm_engage c k) r) (Core.transit_engage k r.core)
    (known.frames.engage passing)

/-- and let go of. -/
theorem dismiss_succeeds : (Work.change (Rig.mapCore (·.dismiss))).run.Succeeds
    (Describes sensors) (fun _ w => w = v) v :=
  Work.succeeds_change fun r known => stands_unmoved known (unmoved_calm Core.calm_dismiss r)
    (Core.transit_dismiss r.core) known.frames.dismiss

/-- An endpoint that is open can be started for a consumer that keeps no frames. -/
theorem start_succeeds {k : Consumer} (passing : k.Passing) (rests : v.Rests sensors .opened) :
    (start k).run.Succeeds (Describes sensors) (fun _ w => w.Rests sensors .streaming) v := by
  -- The parts, each from where the one before leaves the client.
  obtain ⟨u, formats⟩ := v
  have check : (Work.check fun r : MotionRig => r.core.checkStart title).run.Succeeds
      (Describes sensors) (fun _ w => w = ⟨u, formats⟩) ⟨u, formats⟩ := by
    refine Work.succeeds_check fun r known => ⟨(), ?_, rfl⟩
    rcases Core.checkStart_guards title (rests.phase ▸ known.standing.phase) with
      ⟨refuses, -⟩ | ⟨-, ok⟩
    · cases refuses
    · exact ok
  have opens : (Rig.attempt MotionCall.openDevice : Procedure MotionRig _).Succeeds
      (Describes sensors) (fun _ w => True ∧ w = ⟨u.called .openDevice, formats⟩) ⟨u, formats⟩ :=
    attempt_succeeds trivial fun _ _ _ _ => trivial
  have look : (Work.look fun r : MotionRig => r.own).run.Succeeds (Describes sensors)
      (fun own w => own.configured = u.configured ∧ w = ⟨u.called .openDevice, formats⟩)
      ⟨u.called .openDevice, formats⟩ :=
    Work.succeeds_look fun r known => ⟨known.standing.configured, rfl⟩
  have capture {rates : List SensorRate} (configured : rates = u.configured) (sink : MotionSink) :
      (Rig.attempt (MotionCall.startCapture rates sink) : Procedure MotionRig _).Succeeds
        (Describes sensors) (fun _ w => True ∧
          w = ⟨(u.called .openDevice).called (.startCapture rates sink), formats⟩)
        ⟨u.called .openDevice, formats⟩ :=
    attempt_succeeds ⟨rfl, configured ▸ rests.resting.present⟩ fun _ _ _ _ => trivial
  have awaken (sink : MotionSink) : (Work.change fun r : MotionRig =>
      { r with core := { r.core with streaming := true } }).run.Succeeds (Describes sensors)
      (fun _ w => w = ⟨u.started, formats⟩)
      ⟨(u.called .openDevice).called (.startCapture u.configured sink), formats⟩ := by
    refine Work.succeeds_change fun r known => ?_
    have isOpened : r.core.opened = true := known.standing.phase.opened.trans (rests.phase ▸ rfl)
    rw [← MotionStanding.started_eq u sink]
    exact stands_turned known rfl rfl ⟨isOpened, rfl⟩ known.standing.known
      known.standing.configured known.formats
  refine check.onward fun _ => ?_
  refine (Rig.succeeds_request opens).andThen ?_
  intro _ _ ⟨_, here⟩
  subst here
  refine (engage_succeeds passing).onward fun _ => ?_
  refine look.andThen ?_
  intro own _ ⟨configured, here⟩
  subst here
  refine (Work.succeeds_onFailure (Rig.succeeds_request (capture configured _))).andThen ?_
  intro _ _ ⟨_, here⟩
  subst here
  rw [configured]
  refine (awaken _).onward fun _ => note_succeeds.mono fun _ _ here => ?_
  have turn : u.Turn .sound sensors .start (.ok ()) u.started := .started rests.phase
  exact here ▸ ⟨turn.rests rests.resting, rfl, rests.formats⟩

/-- And it can be stopped again, without waiting. -/
theorem stop_succeeds (rests : v.Rests sensors .streaming) :
    stop.run.Succeeds (Describes sensors) (fun _ w => w.Rests sensors .opened) v := by
  obtain ⟨u, formats⟩ := v
  let halted : MotionStanding := (u.called .stopCapture).called .closeDevice
  have look : (Work.look fun r : MotionRig => r.core.streaming).run.Succeeds (Describes sensors)
      (fun streaming w => streaming = true ∧ w = ⟨u, formats⟩) ⟨u, formats⟩ :=
    Work.succeeds_look fun r known =>
      ⟨known.standing.phase.streaming.trans (rests.phase ▸ rfl), rfl⟩
  have stops : (Rig.attempt MotionCall.stopCapture : Procedure MotionRig _).Succeeds
      (Describes sensors) (fun _ w => True ∧ w = ⟨u.called .stopCapture, formats⟩)
      ⟨u, formats⟩ :=
    attempt_succeeds trivial fun _ _ _ _ => trivial
  have closes : (Rig.attempt MotionCall.closeDevice : Procedure MotionRig _).Succeeds
      (Describes sensors) (fun _ w => True ∧ w = ⟨halted, formats⟩)
      ⟨u.called .stopCapture, formats⟩ :=
    attempt_succeeds trivial fun _ _ _ _ => trivial
  have halt : (Work.change fun r : MotionRig =>
      { r with core := { r.core with streaming := false } }).run.Succeeds (Describes sensors)
      (fun _ w => w = ⟨u.stopped, formats⟩) ⟨halted, formats⟩ := by
    refine Work.succeeds_change fun r known => ?_
    have isOpened : r.core.opened = true := known.standing.phase.opened.trans (rests.phase ▸ rfl)
    rw [← MotionStanding.stopped_eq rests.phase]
    exact stands_turned known rfl rfl ⟨isOpened, rfl⟩ known.standing.known
      known.standing.configured known.formats
  have flush : (Work.ofProcedure Rig.flush : Work MotionRig Unit).run.Succeeds
      (Describes sensors) (fun _ w => w = ⟨u.stopped, formats⟩) ⟨u.stopped, formats⟩ :=
    -- No frame is out, so there is nothing to wait for.
    Attains.lifted (Procedure.attains_waitFor
      (fun r known => decide_eq_true known.frames.published) rfl)
  refine look.andThen ?_
  intro _ _ ⟨streaming, here⟩
  subst streaming here
  refine (Attains.lifted stops).andThen ?_
  intro _ _ ⟨_, stopped, _, here⟩
  subst stopped here
  refine (Attains.lifted closes).andThen ?_
  intro _ _ ⟨_, closed, _, here⟩
  subst closed here
  refine halt.onward fun _ => dismiss_succeeds.onward fun _ => flush.onward fun _ => ?_
  refine note_succeeds.onward fun _ => Procedure.succeeds_pure ?_
  refine ⟨rests.resting.stopped, ?_, rests.formats⟩
  show u.stopped.phase = .opened
  rw [← MotionStanding.stopped_eq rests.phase]

end MotionRig

end Sensing
