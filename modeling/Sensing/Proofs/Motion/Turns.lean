import Sensing.Proofs.Distinct
import Sensing.Proofs.Motion.Standing

/-!
# What each operation of a motion endpoint comes to

`MotionStanding.Turn` lists the outcomes of the four operations that hold the configuration lock,
each with its answer, what the endpoint and its device have come to, and what the device has
recorded. Starting is the one operation with several ways to fail: the device may not open, which
leaves everything as it was, or not capture, which leaves it opened and closed once more than
before.

The device itself has no say in this, since it is asked for nothing that it would turn down: a
sensor to be captured is one of those that the endpoint found when it was constructed
(`MotionRig.describes_constructed`), and they are the device's. Main results:
`MotionRig.serves_turn`, `MotionRig.retire_turns`, and `MotionRig.unspoilt`, what clients do without
the lock.
-/

namespace Sensing

/-- Opening is admitted in one phase, -/
theorem Phase.closed_of_admitted {p : Phase} (h : p.refuses .openStreams = false) :
    p = .closed := by
  cases p with
  | closed => rfl
  | opened | streaming => cases h

/-- and so are closing and starting. -/
theorem Phase.opened_of_admitted {p : Phase} {t : Transition} (h : p.refuses t = false)
    (which : t = .close ∨ t = .start) : p = .opened := by
  rcases which with rfl | rfl <;> cases p <;> first | rfl | cases h

namespace MotionStanding

/-- An endpoint that has not found its sensors yet. -/
def unborn : MotionStanding := ⟨.closed, [], [], false, false, []⟩

/-- An endpoint that was just constructed. -/
def fresh (sensors : List Sensor) : MotionStanding :=
  ⟨.closed, sensors, [], false, false, [.opened, .closed]⟩

/-- What is known between operations: the device is open and captures while the endpoint streams,
and the sensors configured, none where the endpoint is closed, are the device's. -/
structure Rests (sensors : List Sensor) (v : MotionStanding) : Prop where
  known : v.known = sensors
  closed : v.phase = .closed → v.configured = []
  present : ∀ rate ∈ v.configured, rate.Present sensors
  opened : v.opened = v.phase.isStreaming
  capturing : v.capturing = v.phase.isStreaming

/-- What was just constructed is at rest. -/
theorem rests_fresh (sensors : List Sensor) : (fresh sensors).Rests sensors :=
  ⟨rfl, (fun _ => rfl), (fun _ h => nomatch h), rfl, rfl⟩

/-- What comes of a start: the device is opened, and captures what is configured. -/
def started (v : MotionStanding) : MotionStanding :=
  { v with
    phase := .streaming
    opened := true
    capturing := true
    events := v.events ++ [.opened, .captureOn (v.configured.map SensorRate.iio)] }

/-- What comes of a start for which the device does not capture. -/
def abandoned (v : MotionStanding) : MotionStanding :=
  { v with events := v.events ++ [.opened, .closed] }

/-- What comes of a stop. -/
def stopped (v : MotionStanding) : MotionStanding :=
  if v.phase = .streaming then
    { v with
      phase := .opened
      opened := false
      capturing := false
      events := v.events ++ [.captureOff, .closed] }
  else v

/-- What is left of an endpoint that was dropped. -/
def seenOff (v : MotionStanding) : MotionStanding :=
  { v.stopped with phase := .closed, configured := [] }

/-- The calls of a start come to what is said of one. -/
theorem started_eq (v : MotionStanding) (sink : MotionSink) :
    { (v.called .openDevice).called (.startCapture v.configured sink) with phase := .streaming } =
      v.started := by
  simp [called, started]

/-- So do those of a start that is abandoned, -/
theorem abandoned_eq {v : MotionStanding} (shut : v.opened = false) :
    (v.called .openDevice).called .closeDevice = v.abandoned := by
  simp [called, abandoned, ← shut]

/-- and those of a stop. -/
theorem stopped_eq {v : MotionStanding} (streaming : v.phase = .streaming) :
    { (v.called .stopCapture).called .closeDevice with phase := .opened } = v.stopped := by
  simp [called, stopped, streaming]

/-- After a stop nothing streams. -/
theorem stopped_phase (v : MotionStanding) : v.stopped.phase ≠ .streaming := by
  unfold stopped
  split
  · exact nofun
  · assumption

/-- Where nothing streams a stop changes nothing. -/
theorem stopped_idle {v : MotionStanding} (idle : v.phase ≠ .streaming) : v.stopped = v :=
  if_neg idle

/-- What an operation can come to, with its answer. -/
inductive Turn (plan : FaultPlan MotionCall) (sensors : List Sensor) (v : MotionStanding) :
    Transition → Except EndpointError Unit → MotionStanding → Prop where
  | refused {t : Transition} {e : EndpointError} (caller : e.isOfCaller = true)
      (why : t = .openStreams ∨ v.phase.refuses t = true) :
    Turn plan sensors v t (.error e) v
  | opened (closed : v.phase = .closed) {rates : List SensorRate}
      (present : ∀ rate ∈ rates, rate.Present sensors) :
    Turn plan sensors v .openStreams (.ok ()) { v with phase := .opened, configured := rates }
  | closed (opened : v.phase = .opened) :
    Turn plan sensors v .close (.ok ()) { v with phase := .closed, configured := [] }
  | unopened (faulty : plan ≠ .sound) {e : EndpointError} :
    Turn plan sensors v .start (.error e) v
  | abandoned (opened : v.phase = .opened) (faulty : plan ≠ .sound) {e : EndpointError} :
    Turn plan sensors v .start (.error e) v.abandoned
  | started (opened : v.phase = .opened) : Turn plan sensors v .start (.ok ()) v.started
  | stopped : Turn plan sensors v .stop (.ok ()) v.stopped

variable {plan : FaultPlan MotionCall} {sensors : List Sensor} {v v' : MotionStanding}
  {t : Transition} {a : Except EndpointError Unit}

/-- A stop leads to rest, -/
theorem Rests.stopped (h : v.Rests sensors) : v.stopped.Rests sensors := by
  unfold MotionStanding.stopped
  split
  · exact ⟨h.known, (fun shut => nomatch shut), h.present, rfl, rfl⟩
  · exact h

/-- and so does the end of the endpoint. -/
theorem Rests.seenOff (h : v.Rests sensors) : v.seenOff.Rests sensors := by
  have shut := Phase.isStreaming_eq_false v.stopped_phase
  obtain ⟨known, -, -, opened, capturing⟩ := h.stopped
  exact ⟨known, (fun _ => rfl), (fun _ h => nomatch h), opened.trans shut, capturing.trans shut⟩

/-- Every operation leads from rest to rest. -/
theorem Turn.rests (h : v.Turn plan sensors t a v') (resting : v.Rests sensors) :
    v'.Rests sensors := by
  have same := resting
  obtain ⟨known, shut, present, isOpen, capturing⟩ := resting
  cases h with
  | refused | unopened => exact same
  | abandoned => exact ⟨known, shut, present, isOpen, capturing⟩
  | opened closed rates =>
    rw [closed] at isOpen capturing
    exact ⟨known, (fun shut => nomatch shut), rates, isOpen, capturing⟩
  | closed opened =>
    rw [opened] at isOpen capturing
    exact ⟨known, (fun _ => rfl), (fun _ h => nomatch h), isOpen, capturing⟩
  | started => exact ⟨known, (fun shut => nomatch shut), present, rfl, rfl⟩
  | stopped => exact same.stopped

/-- Where nothing is made to fail, an operation fails only for its caller. -/
theorem Turn.earned (h : v.Turn .sound sensors t a v') : Earned a := by
  cases h with
  | refused caller => exact earned_error caller
  | unopened faulty | abandoned _ faulty => exact absurd rfl faulty
  | opened | closed | started | stopped => exact earned_ok

end MotionStanding

namespace MotionRig

open MotionStanding (Turn)

variable {plan : FaultPlan MotionCall} {sensors : List Sensor} {v : MotionStanding}

/-! ## Sensors for routes -/

/-- That there is no such sensor is the caller's own fault. -/
theorem iioFor_earned (sensors : List Sensor) (c : Channel) : Earned (iioFor sensors c) := by
  unfold iioFor
  split
  · exact earned_error rfl
  · split
    · exact earned_ok
    · exact earned_error rfl

/-- So it is with several. -/
theorem ratesFor_earned (sensors : List Sensor) (frequency : UInt32) (routes : List Route) :
    Earned (ratesFor sensors frequency routes) :=
  (earned_mapM (iioFor_earned sensors) _).bind fun _ => earned_ok

/-- The index that is found is that of a sensor. -/
theorem iioFor_present {c : Channel} {iio : UInt32} (h : iioFor sensors c = .ok iio) :
    ∃ s ∈ sensors, s.iio = iio := by
  unfold iioFor at h
  split at h
  · cases h
  · split at h
    next s found =>
      cases h
      exact ⟨s, List.mem_of_find?_eq_some found, rfl⟩
    next => cases h

/-- The sensors to be captured are there. -/
theorem ratesFor_present {frequency : UInt32} {routes : List Route} {rates : List SensorRate}
    (h : ratesFor sensors frequency routes = .ok rates) :
    ∀ rate ∈ rates, rate.Present sensors := by
  -- Induction on the channels: each index that was found is one of a sensor that is there.
  have each {channels : List Channel} {iios : List UInt32}
      (h : channels.mapM (iioFor sensors) = .ok iios) :
      ∀ iio ∈ iios, ∃ s ∈ sensors, s.iio = iio := by
    induction channels generalizing iios with
    | nil =>
      cases h
      exact fun _ h => nomatch h
    | cons c channels ih =>
      rw [List.mapM_cons] at h
      cases first : iioFor sensors c with
      | error e =>
        rw [first] at h
        cases h
      | ok iio =>
        rw [first] at h
        cases rest : channels.mapM (iioFor sensors) with
        | error e =>
          rw [rest] at h
          cases h
        | ok others =>
          rw [rest] at h
          cases h
          exact List.forall_mem_cons.2 ⟨iioFor_present first, ih rest⟩
  unfold ratesFor at h
  cases found : (routedChannels routes).mapM (iioFor sensors) with
  | error e =>
    rw [found] at h
    cases h
  | ok iios =>
    rw [found] at h
    cases h
    intro rate hrate
    obtain ⟨iio, isFound, rfl⟩ := List.mem_map.1 (mem_distinct.1 hrate)
    exact each found iio isFound

/-! ## What all clients do -/

section Guides

variable {β : Type} {R : Rules MotionRig (Option β)} (guides : (standing plan sensors).Guides R)
  {u : β}
include guides

/-- The modes are had from the sensors, without asking the device. -/
theorem enumerates : enumerate.Follows R
    (Sure fun a w => w = u ∧ ∃ modes, a = .ok modes ∧ True) (some u) := by
  refine Work.follows_ofProcedure (Procedure.Follows.mono (fun modes k hk => ?_)
    (guides.look (P := fun _ => True) fun _ _ _ => trivial))
  intro w hw
  exact ⟨(hk w hw).1, modes, rfl, trivial⟩

/-- Routing fails for its caller only. -/
theorem resolves (requests : List StreamRequest) : (resolve requests).Follows R
    (Sure fun a w => w = u ∧ Earned a) (some u) :=
  Work.Follows.mono (fun _ _ h => h.mono fun _ _ h => ⟨h.1, h.2.1⟩)
    (guides.resolveBy standing_reads (enumerates guides) requests)

/-- Requests are proposed without fail. -/
theorem principal_answers : principal.Follows R (Sure fun a w => w = u ∧ a.isOk = true)
    (some u) := by
  refine Work.follows_looking fun found => ?_
  refine guides.onwardWork (guides.forIn (fun s _ => ?_) _) (fun _ _ => ?_) fun e h => nomatch h
  · split
    · exact guides.saying standing_reads (Work.follows_pure (sure_some ⟨rfl, rfl⟩))
    · exact Work.follows_pure (sure_some ⟨rfl, rfl⟩)
  · exact Work.follows_pure (sure_some ⟨rfl, rfl⟩)

/-- An operation without the lock leaves all as it is, and fails only for its caller. -/
theorem free_answers {op : MotionOp} (transition : op.transition = none) :
    op.work.Follows R (Sure fun a _ => Earned a) (some u) := by
  have fine {α : Type} {w : Work MotionRig α} {P : Except EndpointError α → Prop}
      (hw : w.Follows R (Sure fun a w => w = u ∧ P a) (some u)) (earned : ∀ a, P a → Earned a) :
      (do let _ ← w : Work MotionRig Unit).Follows R (Sure fun a _ => Earned a) (some u) :=
    guides.onwardWork hw (fun _ _ => Work.follows_pure (sure_some earned_ok))
      fun e h => (earned _ h).error
  cases op with
  | openStreams | close | start | stop => cases transition
  | modes =>
    refine fine (guides.modesBy standing_reads (enumerates guides)) ?_
    rintro _ ⟨_, rfl, -⟩
    exact earned_ok
  | principal =>
    refine fine (principal_answers guides) fun a ok => ?_
    cases a with
    | ok => exact earned_ok
    | error => cases ok
  | resolve requests => exact fine (resolves guides requests) fun _ h => h
  | flush => exact Work.follows_ofProcedure (Procedure.follows_waitFor (sure_some earned_ok))

end Guides

/-! ## Opening and closing -/

/-- A step of the endpoint that turns it, which does not stream. -/
theorem turns_idle {f : MotionRig → MotionRig} {p : Phase} {configured : List SensorRate}
    (machine : ∀ r, (f r).machine = r.machine)
    (core : ∀ r, (f r).core = { r.core with opened := p.isOpened })
    (own : ∀ r, (f r).own.sensors = r.own.sensors ∧ (f r).own.configured = configured)
    (stopped : v.phase.isStreaming = p.isStreaming) :
    (Procedure.change f).Follows (standing plan sensors).holding
      (Sure fun _ w => w = { v with phase := p, configured }) (some v) := by
  refine turns_own machine (fun r hp => ?_) fun r known => ?_
  · rw [core]
    exact ⟨rfl, hp.streaming.trans stopped⟩
  · exact ⟨(own r).1.trans known.known, (own r).2⟩

/-- Opening configures sensors that are there, or is refused. -/
theorem openStreams_turns (resting : v.Rests sensors) (requests : List StreamRequest) :
    (openStreams requests).Follows (standing plan sensors).holding
      (Sure (v.Turn plan sensors .openStreams)) (some v) := by
  have guides := (standing plan sensors).holding_guides
  refine Knowledge.turns_guarded (Core.checkOpen_guards title) (fun r known => known.phase)
    (fun e refuses caller => .refused caller (.inr refuses)) fun admitted => ?_
  have closed := Phase.closed_of_admitted admitted
  have selects (routes : List Route) :
      (Work.check fun r : MotionRig => ratesFor r.own.sensors r.own.frequency routes).Follows
        (standing plan sensors).holding (Sure fun a w => w = v ∧ Earned a ∧
          ∀ rates, a = .ok rates → ∀ rate ∈ rates, rate.Present sensors) (some v) := by
    refine Knowledge.turns fun r _ known _ => ⟨v, known, rfl, ratesFor_earned _ _ routes, ?_⟩
    intro rates selected
    change ratesFor r.own.sensors r.own.frequency routes = .ok rates at selected
    rw [known.known, resting.known] at selected
    exact ratesFor_present selected
  -- It may fail to resolve, or a sensor may be missing; both are for the caller to answer for.
  refine guides.onwardWork (resolves guides requests) (fun routes _ => ?_)
    fun e earned => .refused (earned e rfl) (.inl rfl)
  refine guides.onwardWork (selects routes) (fun rates selected => ?_)
    fun e failed => .refused (failed.1 e rfl) (.inl rfl)
  refine guides.saying standing_reads (Work.follows_last (turns_idle (fun _ => rfl) (fun _ => rfl)
    (fun _ => ⟨rfl, rfl⟩) ?_) (.opened closed (selected.2 rates rfl)))
  rw [closed]
  rfl

/-- Closing configures none, or is refused. -/
theorem close_turns : close.Follows (standing plan sensors).holding
    (Sure (v.Turn plan sensors .close)) (some v) := by
  have guides := (standing plan sensors).holding_guides
  refine Knowledge.turns_guarded (Core.checkClose_guards title) (fun r known => known.phase)
    (fun e refuses caller => .refused caller (.inr refuses)) fun admitted => ?_
  have opened := Phase.opened_of_admitted admitted (.inl rfl)
  refine guides.changing (turns_idle (p := .closed) (fun _ => rfl) (fun _ => rfl)
    (fun _ => ⟨rfl, rfl⟩) ?_) (Work.follows_last (guides.report standing_reads) (.closed opened))
  rw [opened]
  rfl

/-! ## Starting and stopping -/

/-- A calm change of the shared state leaves all where it stands. -/
theorem calms {f : Core → Core} (calm : ∀ c : Core, c.Calm (f c)) {u : MotionStanding} :
    (Procedure.change (Rig.mapCore f) : Procedure MotionRig Unit).Follows
      (standing plan sensors).holding (Sure fun _ w => w = u) (some u) :=
  (standing plan sensors).holding_guides.change fun r _ => (unmoved_calm calm r).spares

/-- The endpoint begins to stream, or ends it. -/
theorem turns_streaming {p : Phase} (streaming : Bool) (now : streaming = p.isStreaming)
    (opened : v.phase.isOpened = p.isOpened) :
    (Procedure.change fun r : MotionRig =>
      { r with core := { r.core with streaming } }).Follows (standing plan sensors).holding
      (Sure fun _ w => w = { v with phase := p }) (some v) :=
  turns_own (fun _ => rfl) (fun _ hp => ⟨hp.opened.trans opened, now⟩)
    fun _ known => ⟨known.known, known.configured⟩

variable (amenable : Amenable plan)
include amenable

/-- What is done where a capture does not start closes the device. -/
theorem abandonCapture_closes {u : MotionStanding} :
    abandonCapture.Follows (standing plan sensors).holding
      (Sure fun _ w => w = u.called .closeDevice) (some u) := by
  have guides := (standing plan sensors).holding_guides
  refine guides.bind (calms Core.calm_dismiss) ?_
  rintro _ _ rfl
  refine guides.bind (attempts (c := .closeDevice) trivial amenable.closeDevice) ?_
  rintro _ _ ⟨⟨_, rfl⟩, rfl⟩
  exact Procedure.follows_pure (sure_some rfl)

/-- The device captures what is configured, or is closed again. -/
theorem captures {u : MotionStanding} (isOpen : u.opened = true)
    (present : ∀ rate ∈ u.configured, rate.Present sensors) {rates : List SensorRate}
    (configured : rates = u.configured) (sink : MotionSink) :
    (Work.onFailure abandonCapture (Rig.request (MotionCall.startCapture rates sink)) :
      Work MotionRig _).Follows (standing plan sensors).holding
      (Sure fun a w => (∃ b, a = .ok b) ∧ w = u.called (.startCapture u.configured sink) ∨
        plan ≠ .sound ∧ (∃ e, a = .error e) ∧ w = u.called .closeDevice) (some u) := by
  subst configured
  refine (standing plan sensors).holding_guides.onFailure
    (requests ⟨isOpen, present⟩ (amenable.startCapture _ sink)) ?_ ?_
  · rintro a w (granted | ⟨-, ⟨_, failed⟩, -⟩)
    · exact .inl granted
    · cases failed
  · rintro e w (⟨⟨_, ok⟩, -⟩ | ⟨faulty, -, rfl⟩)
    · cases ok
    · exact Procedure.Follows.mono (fun _ _ h => h.mono fun _ _ h => .inr ⟨faulty, ⟨e, rfl⟩, h⟩)
        (abandonCapture_closes amenable)

/-- Starting captures what is configured, or fails in one of two ways, or is refused. -/
theorem start_turns (resting : v.Rests sensors) (k : Consumer) :
    (start k).Follows (standing plan sensors).holding (Sure (v.Turn plan sensors .start))
      (some v) := by
  have guides := (standing plan sensors).holding_guides
  refine Knowledge.turns_guarded (Core.checkStart_guards title) (fun r known => known.phase)
    (fun e refuses caller => .refused caller (.inr refuses)) fun admitted => ?_
  have opened := Phase.opened_of_admitted admitted (.inr rfl)
  refine guides.andThen (requests (c := .openDevice) trivial amenable.openDevice) ?_ ?_
  · rintro _ w (⟨-, rfl⟩ | ⟨-, ⟨_, failed⟩, -⟩)
    · refine guides.changing (calms fun c => Core.calm_engage c k) ?_
      have look : (Procedure.look fun r : MotionRig => r.own).Follows
          (standing plan sensors).holding
          (Sure fun own w => own.configured = v.configured ∧ w = v.called .openDevice)
          (some (v.called .openDevice)) :=
        Knowledge.turns fun r _ known _ => ⟨_, known, known.configured, rfl⟩
      refine guides.lift look ?_
      rintro own _ ⟨configured, rfl⟩
      refine guides.andThen (captures amenable (u := v.called .openDevice) rfl resting.present
        configured _) ?_ ?_
      · rintro _ w (⟨-, rfl⟩ | ⟨-, ⟨_, failed⟩, -⟩)
        -- The device is open and captures.
        · refine guides.changing (turns_streaming (p := .streaming) true rfl ?_)
            (Work.follows_last (guides.report standing_reads) ?_)
          · show v.phase.isOpened = true
            rw [opened]
            rfl
          · exact MotionStanding.started_eq v _ ▸ .started opened
        · cases failed
      · rintro e w (⟨⟨_, ok⟩, -⟩ | ⟨faulty, -, rfl⟩)
        · cases ok
        -- It does not capture, and was closed again.
        · have shut : v.opened = false := by
            rw [resting.opened, opened]
            rfl
          exact MotionStanding.abandoned_eq shut ▸ .abandoned opened faulty
    · cases failed
  · rintro e w (⟨⟨_, ok⟩, -⟩ | ⟨faulty, -, rfl⟩)
    · cases ok
    -- It was not even opened.
    · exact .unopened faulty

/-- Stopping ends the capture and closes the device, if the endpoint streams. -/
theorem stop_stops : stop.Follows (standing plan sensors).holding
    (Sure fun a w => a = .ok () ∧ w = v.stopped) (some v) := by
  have guides := (standing plan sensors).holding_guides
  refine Work.follows_knowing (fun r sees => (Knowledge.tells_of_sees sees).phase.streaming) ?_
  cases phase : v.phase with
  | closed | opened =>
    have idle : v.stopped = v := MotionStanding.stopped_idle (by simp [phase])
    exact Work.follows_pure (sure_some ⟨rfl, idle.symm⟩)
  | streaming =>
    refine guides.lift (attempts (c := .stopCapture) trivial amenable.stopCapture) ?_
    rintro _ _ ⟨⟨_, rfl⟩, rfl⟩
    refine guides.lift (attempts (c := .closeDevice) trivial amenable.closeDevice) ?_
    rintro _ _ ⟨⟨_, rfl⟩, rfl⟩
    refine guides.changing (turns_streaming (p := .opened) false rfl ?_) ?_
    · show v.phase.isOpened = true
      rw [phase]
      rfl
    rw [MotionStanding.stopped_eq phase]
    refine guides.changing (calms Core.calm_dismiss) ?_
    refine Work.follows_then Rig.follows_flush fun _ => ?_
    exact guides.saying standing_reads (Work.follows_pure (sure_some ⟨rfl, rfl⟩))

/-! ## The whole -/

/-- Every operation with the lock comes to one of its outcomes. -/
theorem serves_turn (resting : v.Rests sensors) {op : MotionOp} {t : Transition}
    (transition : op.transition = some t) :
    op.work.Follows (standing plan sensors).holding (Sure (v.Turn plan sensors t)) (some v) := by
  cases op with
  | openStreams requests =>
    cases transition
    exact openStreams_turns resting requests
  | close =>
    cases transition
    exact close_turns
  | start policy =>
    cases transition
    exact start_turns amenable resting _
  | stop =>
    cases transition
    refine Work.Follows.mono (fun _ _ h => h.mono ?_) (stop_stops amenable)
    rintro _ _ ⟨rfl, rfl⟩
    exact .stopped
  | modes | principal | resolve | flush => cases transition

/-- An endpoint that is dropped is stopped and closed. -/
theorem retire_turns (resting : v.Rests sensors) : retire.Follows (standing plan sensors).holding
    (Sure fun _ w => w = v.seenOff) (some v) := by
  have guides := (standing plan sensors).holding_guides
  have gone : (Procedure.change fun r : MotionRig =>
      { r with core := { r.core with alive := false } }).Follows (standing plan sensors).holding
        (Sure fun _ w => w = v) (some v) :=
    guides.change fun r _ => Unmoved.spares
      ⟨(fun hp => ⟨hp.opened, hp.streaming⟩), rfl, rfl, rfl, rfl, rfl, rfl, rfl⟩
  have look : (Procedure.look fun r : MotionRig => r.core.opened).Follows
      (standing plan sensors).holding
      (Sure fun b w => w = v.stopped ∧ b = v.stopped.phase.isOpened) (some v.stopped) :=
    Knowledge.turns fun r _ known _ => ⟨_, known, rfl, known.phase.opened⟩
  -- After the stop the endpoint is open, so closing it is not refused.
  have closes {u : MotionStanding} (opened : u.phase = .opened) : close.Follows
      (standing plan sensors).holding (Sure fun a w => a = .ok () ∧
        w = { u with phase := .closed, configured := [] }) (some u) := by
    refine Work.Follows.mono (fun _ _ h => h.mono fun a w turn => ?_) close_turns
    cases turn with
    | refused _ why =>
      rw [opened] at why
      rcases why with why | why <;> cases why
    | closed => exact ⟨rfl, rfl⟩
  refine guides.retireBy gone (stop_stops amenable) look (fun isShut => ?_) fun isOpen => ?_
  · have phase : v.stopped.phase = .closed := by
      cases phase : v.stopped.phase with
      | closed => rfl
      | opened | streaming =>
        rw [phase] at isShut
        cases isShut
    unfold MotionStanding.seenOff
    rw [← phase, ← resting.stopped.closed phase]
  · have phase : v.stopped.phase = .opened := by
      cases phase : v.stopped.phase with
      | streaming => exact absurd phase v.stopped_phase
      | closed =>
        rw [phase] at isOpen
        cases isOpen
      | opened => rfl
    exact closes phase

/-! ## Construction -/

omit amenable in
/-- An open device says which sensors it has, or is made to fail. -/
theorem lists {u : MotionStanding} (isOpen : u.opened = true) :
    (Rig.attempt MotionCall.listSensors : Procedure MotionRig _).Follows
      (standing plan sensors).holding (Sure fun a w => w = u ∧ ∀ found, a = .ok found →
        found = sensors) (some u) := by
  refine Knowledge.turns_attempt fun r _ known _ => ?_
  have asked : MotionDevice.perform .listSensors r.machine.device =
      (.ok r.machine.device.sensors, r.machine.device) :=
    MotionDevice.whileOpen_of_open (known.opened.trans isOpen) _ _
  have allowed : u.Allows sensors .listSensors := isOpen
  refine ⟨u, ?_, rfl, fun found ok => ?_⟩
  · rcases Machine.call_device r.machine MotionCall.listSensors with same | performed
    · exact known.failed allowed same
    · exact known.done allowed performed
  · have answer := (Machine.call_ok ok).1
    change (MotionDevice.perform .listSensors r.machine.device).1 = .ok found at answer
    rw [asked, known.sensors] at answer
    cases answer
    rfl

/-- An endpoint that is constructed knows the device's sensors, and the device is closed again. -/
theorem construct_turns : construct.Follows (standing plan sensors).holding
    (Sure fun a w => a = .ok () → w = .fresh sensors) (some .unborn) := by
  have guides := (standing plan sensors).holding_guides
  refine guides.andThen (requests (c := .openDevice) trivial amenable.openDevice) ?_
    fun _ _ _ ok => nomatch ok
  rintro _ w (⟨-, rfl⟩ | ⟨-, ⟨_, failed⟩, -⟩)
  · refine guides.lift (lists rfl) ?_
    rintro answer _ ⟨rfl, isAnswer⟩
    refine guides.lift (attempts (c := .closeDevice) trivial amenable.closeDevice) ?_
    rintro _ _ ⟨⟨_, rfl⟩, rfl⟩
    cases answer with
    | error cause => exact Work.follows_throw (sure_some fun ok => nomatch ok)
    | ok found =>
      obtain rfl := isAnswer found rfl
      refine guides.saying standing_reads (Work.follows_last (turns_own (p := .closed)
        (fun _ => rfl) (fun _ hp => ⟨hp.opened, hp.streaming⟩) fun _ known => ?_) fun _ => rfl)
      exact ⟨rfl, known.configured⟩
  · cases failed

omit amenable in
/-- An endpoint that was just created has not found its sensors, -/
theorem describes_unborn (capacity limit : Nat) (frequency : UInt32) (automatic : Bool) :
    MotionStanding.unborn.Describes plan sensors
      (.create (.create capacity limit) frequency { sensors, automatic } plan) :=
  ⟨rfl, rfl, (fun _ h => nomatch h), ⟨rfl, rfl⟩, rfl, rfl, rfl, rfl, rfl⟩

/-- and one that was constructed has. -/
theorem describes_constructed {capacity limit : Nat} {frequency : UInt32} {automatic : Bool}
    {r : MotionRig} (run : construct.run.run
      (.create (.create capacity limit) frequency { sensors, automatic } plan) =
        .finished (.ok ()) r) :
    (MotionStanding.fresh sensors).Describes plan sensors r := by
  have alone : construct.run.Carried (fun _ _ => False) _ (.done (.ok ())) r :=
    Procedure.carried_of_run run
  obtain ⟨v, known, constructed⟩ := Knowledge.carried_done (fun _ => trivial)
    (fun moved => moved.elim) (construct_turns amenable)
    (describes_unborn capacity limit frequency automatic) alone
  exact constructed rfl ▸ known

omit amenable in
/-- What clients do without the lock. -/
theorem unspoilt {admits : MotionOp → Prop} {fine : Except EndpointError Unit → Prop}
    (lenient : ∀ a, Earned a → fine a) : (standing plan sensors).Unspoilt admits fine where
  free transition _ :=
    Work.Follows.mono (fun _ _ h => h.mono fun _ _ h => lenient _ h)
      (free_answers (standing plan sensors).waiting_guides transition)
  take gate := nomatch gate
  drop gate := nomatch gate
  aside x := (aside_unmoved x _).spares

/-- In every run of a constructed endpoint, all clients keep to what is known, and answer as finely
as the operations with the lock do. -/
theorem kept_of_reaches {admits : MotionOp → Prop} {fine : Except EndpointError Unit → Prop}
    {r : MotionRig} {c : Crowd MotionRig} (lenient : ∀ a, Earned a → fine a)
    (answers : ∀ {v v' : MotionStanding} {t a}, v.Turn plan sensors t a v' → fine a)
    (known : (MotionStanding.fresh sensors).Describes plan sensors r)
    (h : Crowd.Reaches admits { rig := r } c) :
    (standing plan sensors).Kept (·.Rests sensors) (fun a v => v.Rests sensors ∧ fine a) fine
      c := by
  have start : (standing plan sensors).Kept (·.Rests sensors)
      (fun a v => v.Rests sensors ∧ fine a) fine { rig := r } :=
    Knowledge.kept_of_rest known (MotionStanding.rests_fresh sensors) rfl rfl
  refine Knowledge.kept_of_reachesWhile (unspoilt lenient) (fun locks resting => ?_)
    (fun _ _ => trivial) start h.reachesWhile
  obtain ⟨t, transition⟩ := Option.isSome_iff_exists.1 locks
  exact Work.Follows.mono
    (fun _ _ hk => hk.mono fun _ _ turn => ⟨turn.rests resting, answers turn⟩)
    (serves_turn amenable resting transition)

end MotionRig

end Sensing
