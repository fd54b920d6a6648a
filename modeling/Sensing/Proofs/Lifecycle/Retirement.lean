import Sensing.Proofs.Lifecycle.Draining
import Sensing.Proofs.Lifecycle.FailedOpen
import Sensing.Proofs.Motion.Turns
import Sensing.Proofs.Video.Retirement

/-!
# Seeing an endpoint off from any state

An application may drop an endpoint at any time: closed, opened or streaming, with gates that
clients still hold and with images under way. Its device is then left as if it had never been used,
but for its events; and these are the ones that the state at that time calls for, each once and in
order.

For each kind of endpoint the argument has three parts: what is known of every state between
operations, what seeing the endpoint off makes of it, amid whatever else may happen, and that it
waits for nothing but the application's frames.
-/

namespace Sensing

namespace VideoRig

/-- A video endpoint has been seen off: nothing is armed or committed any more and the device is
off. Recorded were the end of a stream, the closing of every mode that was configured, and powering
down if anybody counted on the power. Clients who still have gates or controls can do nothing with
them. -/
structure SeenOff (r r' : VideoRig) : Prop where
  unarmed : r'.machine.device.armed = []
  uncommitted : r'.machine.device.committed = []
  off : r'.machine.device.power = .d3
  events : r'.machine.device.events = r.machine.device.events ++
    ((if r.core.streaming then [.streamOff] else []) ++
      (if r.core.opened then (routedModes r.own.configuration).map .closed else []) ++
      if 0 < r.own.users then [.powerOff] else [])
  gates : release r' = r'
  controls : ∀ id call, ∃ answer, (callProcessing id call).run r' = .finished answer r' ∧
    (call ≠ .enabled → call ≠ .description → ∃ cause, answer = .error cause)

variable {capacity limit : Nat} {layout : ClockLayout} {offered : List NativeMode}
  {automatic : Bool} {plan : FaultPlan VideoCall} {c : Crowd VideoRig}

/-- Between operations what is in use mirrors the endpoint, and the device is off unless somebody
counts on it. -/
theorem farewell_of_reaches (yielding : Yielding plan)
    (h : Crowd.Reaches VideoOp.SparesModes
      (unattended capacity limit layout { offered, automatic } plan) c)
    (free : c.holder = none) :
    ∃ v : Farewell, v.Describes c.rig ∧ v.usage.Mirrored ∧ (v.users = 0 → v.power = .d3) := by
  have fresh : mirror.sees Usage.Mirrored
      (unattended capacity limit layout { offered, automatic } plan).rig :=
    ⟨yielding.toObliging, .closed, ⟨⟨rfl, rfl⟩, rfl, rfl, rfl⟩, .closed⟩
  have kept := Custody.kept_of_reaches mirror_fits (Custody.kept_of_rest fresh rfl rfl) h
  obtain ⟨obliging, u, known, mirrored⟩ := kept.at_rest free
  obtain ⟨off, -⟩ := off_of_reaches ⟨yielding.late, yielding.powerOff⟩
    (h.of_admitted fun _ _ => trivial)
  exact ⟨⟨u, c.rig.core.alive, c.rig.own.users, c.rig.machine.device.power,
      c.rig.machine.device.events⟩,
    ⟨{ obliging with powerOff := off.forgiving.powerOff }, known, rfl, rfl, rfl, rfl⟩, mirrored,
    off.power⟩

/-- What is known at the end, in terms of how the endpoint was found. -/
theorem seenOff_of_carried {r r' : VideoRig} {v : Farewell} (known : v.Describes r)
    (mirrored : v.usage.Mirrored) (off : v.users = 0 → v.power = .d3)
    (h : retire.Carried Meanwhile r (.done ()) r') : r.SeenOff r' := by
  obtain ⟨_, left, rfl⟩ := Knowledge.carried_done (fun _ => trivial) meanwhile_spares
    (retire_leaves mirrored) known h
  have orphaned : r'.core.alive = false := left.alive.trans v.gone_alive
  have usage : Usage.closed.Describes r' := v.gone_usage ▸ left.usage
  refine ⟨List.map_eq_nil_iff.1 usage.armed, usage.committed, left.power.trans (v.gone_power off),
    ?_, release_orphaned orphaned, callProcessing_orphaned orphaned⟩
  rw [left.events, v.gone_events mirrored, known.events, known.users, known.usage.phase.streaming,
    known.usage.phase.opened, known.usage.configuration]

end VideoRig

namespace MotionRig

/-- A motion endpoint has been seen off: its device neither captures nor is open, and the end of a
capture was recorded if there was one. -/
structure SeenOff (r r' : MotionRig) : Prop where
  idle : r'.machine.device.capture = none
  shut : r'.machine.device.opened = false
  events : r'.machine.device.events = r.machine.device.events ++
    if r.core.streaming then [.captureOff, .closed] else []

variable {plan : FaultPlan MotionCall} {sensors : List Sensor} {r r' : MotionRig}

/-- The same for a motion endpoint. -/
theorem seenOff_of_carried {v : MotionStanding} (amenable : Amenable plan)
    (known : v.Describes plan sensors r) (resting : v.Rests sensors)
    (h : retire.Carried (fun r r' => ∃ x : MotionAside, r' = x.apply r) r (.done ()) r') :
    r.SeenOff r' := by
  obtain ⟨_, left, rfl⟩ := Knowledge.carried_done (fun _ => trivial)
    (fun {_ _} ⟨x, same⟩ => same ▸ (aside_unmoved x _).spares) (retire_turns amenable resting)
    known h
  have rests := resting.seenOff
  refine ⟨?_, left.opened.trans rests.opened, ?_⟩
  · exact Option.isNone_iff_eq_none.1
      (Option.isSome_eq_false_iff.1 (left.capturing.trans rests.capturing))
  · rw [left.events, known.events, known.phase.streaming]
    show v.stopped.events = _
    unfold MotionStanding.stopped
    cases v.phase with
    | streaming => rfl
    | closed | opened => exact (List.append_nil _).symm

/-- Closing a motion endpoint waits for nothing. -/
theorem close_unhindered : close.run.Unhindered :=
  Work.unhindered_check fun _ _ _ => trivial

end MotionRig

/-- An endpoint is safely seen off from every state between operations, whatever its device delivers
meanwhile and whatever becomes of the gates and controls that clients still have: a video endpoint
whose clients let the modes alone, under every fault schedule under which failing calls take no
effect and neither disarming nor closing nor powering down fails, and a motion endpoint, under every
one under which opening and starting to capture take no effect where they fail, and stopping and
closing do not fail. It comes to an end where the application has released its frames. -/
theorem seen_off_from_anywhere :
    (∀ capacity limit layout offered automatic plan c, Yielding plan →
      Crowd.Reaches VideoOp.SparesModes
        (VideoRig.unattended capacity limit layout { offered, automatic } plan) c →
      c.holder = none →
      (c.rig.core.Returned → ∃ r', VideoRig.retire.run c.rig = .finished () r' ∧
        VideoRig.SeenOff c.rig r') ∧
        ∀ r', VideoRig.retire.Carried VideoRig.Meanwhile c.rig (.done ()) r' →
          VideoRig.SeenOff c.rig r') ∧
    ∀ capacity limit frequency sensors automatic plan r c, Amenable plan →
      MotionRig.construct.run.run
        (.create (.create capacity limit) frequency { sensors, automatic } plan) =
          .finished (.ok ()) r →
      Crowd.Reaches (fun _ => True) { rig := r } c → c.holder = none →
      (c.rig.core.Returned → ∃ r', MotionRig.retire.run c.rig = .finished () r' ∧
        MotionRig.SeenOff c.rig r') ∧
        ∀ r', MotionRig.retire.Carried (fun r r' => ∃ x : MotionAside, r' = x.apply r) c.rig
          (.done ()) r' → MotionRig.SeenOff c.rig r' := by
  refine ⟨?_, ?_⟩
  · intro capacity limit layout offered automatic plan c yielding h free
    obtain ⟨v, known, mirrored, off⟩ := VideoRig.farewell_of_reaches yielding h free
    have seenOff (r' : VideoRig) : VideoRig.retire.Carried VideoRig.Meanwhile c.rig (.done ()) r' →
        VideoRig.SeenOff c.rig r' := VideoRig.seenOff_of_carried known mirrored off
    refine ⟨fun returned => ?_, seenOff⟩
    -- Powering the device down waits for nothing.
    obtain ⟨_, r', run⟩ :=
      (Rig.retireBy_finishes VideoRig.stop_windsDown VideoRig.close_unhindered returned).andThen
        (f := fun _ => .change VideoRig.cutPower) fun _ _ => trivial
    exact ⟨r', run, seenOff r' (Procedure.carried_of_run run)⟩
  · intro capacity limit frequency sensors automatic plan r c amenable constructed h free
    have kept : (MotionRig.standing plan sensors).Kept (·.Rests sensors)
        (fun _ v => v.Rests sensors ∧ True) (fun _ => True) c :=
      MotionRig.kept_of_reaches amenable (fun _ _ => trivial) (fun _ => trivial)
        (MotionRig.describes_constructed amenable constructed) h
    obtain ⟨v, known, resting⟩ := kept.at_rest free
    have seenOff (r' : MotionRig) : MotionRig.retire.Carried
        (fun r r' => ∃ x : MotionAside, r' = x.apply r) c.rig (.done ()) r' →
          MotionRig.SeenOff c.rig r' := MotionRig.seenOff_of_carried amenable known resting
    refine ⟨fun returned => ?_, seenOff⟩
    obtain ⟨_, r', run⟩ :=
      Rig.retireBy_finishes MotionRig.stop_windsDown MotionRig.close_unhindered returned
    exact ⟨r', run, seenOff r' (Procedure.carried_of_run run)⟩

/-- A client has a gate of a camera that streams to a consumer who keeps what it is handed. -/
theorem VideoRig.watched_session : ∃ (c : Crowd VideoRig) (r' : VideoRig), c.gates = 1 ∧
    c.holder = none ∧ c.rig.core.pool.published = 1 ∧ c.rig.core.Returned ∧
    Crowd.Reaches VideoOp.SparesModes (unattended 4 4 {} { offered := [shared] } .sound) c ∧
    retire.run c.rig = .finished () r' ∧
    r'.machine.device.events = [.powerOn, .committed shared, .streamOn, .streamOff,
      .closed shared, .powerOff] := by
  let camera : Crowd VideoRig := unattended 4 4 {} { offered := [shared] } .sound
  let gray : VideoAside := .core (.registerFormat .y8)
  let image : VideoAside := .deliver shared [1, 2]
  let taken := acquire (gray.apply camera.rig)
  let opening : VideoOp := .openStreams [{ channel := .infrared }]
  let starting : VideoOp := .start fun _ => .keep
  have granted : taken.1 = .ok () := by decide +kernel
  have computed : (do
      let r ← Served.inTurn? [opening, starting] taken.2
      let (_, r') ← retire.outcome? (image.apply r)
      return decide ((image.apply r).core.pool.published = 1) &&
        decide (image.apply r).core.Returned &&
        r'.machine.device.events = [.powerOn, .committed shared, .streamOn, .streamOff,
          .closed shared, .powerOff]) = some true := by
    decide +kernel
  simp only [Option.bind_eq_bind, Option.bind_eq_some_iff, Prod.exists, Option.pure_def,
    Option.some.injEq, Bool.and_eq_true, decide_eq_true_eq] at computed
  obtain ⟨r, streams, _, r', retired, ⟨published, returned⟩, events⟩ := computed
  have fresh : Crowd.Reaches VideoOp.SparesModes camera camera := .refl
  have gated :
      Crowd.Reaches VideoOp.SparesModes camera { camera with rig := taken.2, gates := 1 } :=
    (fresh.aside gray).tail (.take (g := ⟨acquire, release⟩) rfl granted)
  exact ⟨_, r', rfl, rfl, published, returned, (gated.inTurn rfl streams).aside image,
    Procedure.run_of_outcome? retired, events⟩

/-- A motion module captures for a client. -/
theorem MotionRig.capturing_session : ∃ (r : MotionRig) (c : Crowd MotionRig) (r' : MotionRig),
    construct.run.run (.create (.create 4 4) 0 { sensors := MotionDevice.motionModule }) =
      .finished (.ok ()) r ∧
    Crowd.Reaches (fun _ => True) { rig := r } c ∧ c.holder = none ∧
    retire.run c.rig = .finished () r' ∧
    r'.machine.device.events =
      [.opened, .closed, .opened, .captureOn [1], .captureOff, .closed] := by
  let opening : MotionOp := .openStreams [{ channel := .accel }]
  let starting : MotionOp := .start fun _ => .hold
  have computed : (do
      let (_, r) ← construct.success?
        (.create (.create 4 4) 0 { sensors := MotionDevice.motionModule })
      let c ← Served.inTurn? [opening, starting] r
      let (_, r') ← retire.outcome? c
      return r'.machine.device.events =
        [.opened, .closed, .opened, .captureOn [1], .captureOff, .closed]) = some true := by
    decide +kernel
  simp only [Option.bind_eq_bind, Option.bind_eq_some_iff, Prod.exists, Option.pure_def,
    Option.some.injEq, decide_eq_true_eq] at computed
  obtain ⟨_, r, constructed, c, streams, _, r', retired, events⟩ := computed
  have fresh : Crowd.Reaches (fun _ => True) { rig := r } { rig := r } := .refl
  exact ⟨r, _, r', Work.run_of_success? constructed, fresh.inTurn rfl streams, rfl,
    Procedure.run_of_outcome? retired, events⟩

/-- A video endpoint is seen off amid a stream, with a gate that a client holds and a frame that the
consumer keeps, and a motion endpoint amid a capture. -/
theorem streaming_seen_off :
    (∃ (c : Crowd VideoRig) (r' : VideoRig), c.gates = 1 ∧ c.rig.core.pool.published = 1 ∧
      Crowd.Reaches VideoOp.SparesModes
        (VideoRig.unattended 4 4 {} { offered := [VideoRig.shared] } .sound) c ∧
      VideoRig.retire.run c.rig = .finished () r' ∧ VideoRig.SeenOff c.rig r' ∧
      r'.machine.device.events = [.powerOn, .committed VideoRig.shared, .streamOn, .streamOff,
        .closed VideoRig.shared, .powerOff]) ∧
    ∃ (r : MotionRig) (c : Crowd MotionRig) (r' : MotionRig),
      MotionRig.construct.run.run (.create (.create 4 4) 0
        { sensors := MotionDevice.motionModule }) = .finished (.ok ()) r ∧
      Crowd.Reaches (fun _ => True) { rig := r } c ∧
      MotionRig.retire.run c.rig = .finished () r' ∧ MotionRig.SeenOff c.rig r' ∧
      r'.machine.device.events =
        [.opened, .closed, .opened, .captureOn [1], .captureOff, .closed] := by
  refine ⟨?_, ?_⟩
  · obtain ⟨c, r', gates, free, published, returned, reached, run, events⟩ :=
      VideoRig.watched_session
    obtain ⟨finishes, -⟩ := seen_off_from_anywhere.1 4 4 {} [VideoRig.shared] false .sound _
      yielding_sound reached free
    obtain ⟨_, same, seenOff⟩ := finishes returned
    cases run.symm.trans same
    exact ⟨c, r', gates, published, reached, run, seenOff, events⟩
  · obtain ⟨r, c, r', constructed, reached, free, run, events⟩ := MotionRig.capturing_session
    obtain ⟨-, seenOff⟩ := seen_off_from_anywhere.2 4 4 0 MotionDevice.motionModule false .sound
      r _ amenable_sound constructed reached free
    exact ⟨r, c, r', constructed, reached, run, seenOff r' (Procedure.carried_of_run run), events⟩

end Sensing
