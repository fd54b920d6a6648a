import Sensing.Proofs.Clients.Attainment
import Sensing.Proofs.Lifecycle.Departure
import Sensing.Proofs.Video.Readiness

/-!
# The only client of a video endpoint

Whoever has a video endpoint to itself, on a device that grants every call, knows what is in use and
how many references are held (`VideoStanding`), and the device may deliver at any time without that
being changed (`VideoRig.deliver_stands`). If the client's consumer keeps no frames either, no
operation that it makes in order fails or waits, but for an opening that asks for what there is not.

Main results: one theorem for each operation, of what it comes to whatever the device delivers
meanwhile. An opening is decided by the routing of its requests alone
(`VideoRig.openStreams_attains`).
-/

namespace Sensing

/-- Where the only client of a video endpoint stands: what is in use, and the references held. -/
structure VideoStanding where
  usage : Usage
  users : Nat

namespace VideoStanding

def closed : VideoStanding := ⟨.closed, 0⟩

/-- An opened endpoint holds a reference. -/
def opened (routes : List Route) : VideoStanding := ⟨.opened routes, 1⟩

/-- A streaming one holds another. -/
def streaming (routes : List Route) : VideoStanding := ⟨.streaming routes, 2⟩

/-- This is where the client stands, and no frame is out that was offered. -/
structure Describes (offered : List NativeMode) (formats : List PixelFormat) (v : VideoStanding)
    (r : VideoRig) : Prop extends VideoRig.Ready offered formats v.users r where
  usage : v.usage.Describes r
  frames : r.core.Unclaimed

end VideoStanding

namespace VideoRig

open Procedure (Attains Succeeds)
open VideoStanding (Describes)

variable {offered : List NativeMode} {formats : List PixelFormat} {v : VideoStanding}
  {u u' : Usage} {n : Nat} {r r' : VideoRig}

/-! ## Steps -/

theorem Heedful.stands (h : r.Heedful r') (known : Describes offered formats v r)
    (ready : r'.Ready offered formats n) : Describes offered formats ⟨v.usage, n⟩ r' :=
  ⟨ready, h.upkeep.unmoved.describes known.usage, known.frames.of_same h.upkeep.sameFrames⟩

/-- A step of the endpoint between the phases of its lifecycle. -/
theorem stands_turned {p : Phase} {routes : List Route} (known : Describes offered formats v r)
    (machine : r'.machine = r.machine) (users : r'.own.users = r.own.users)
    (core : r'.core =
      { r.core with opened := r'.core.opened, streaming := r'.core.streaming })
    (phase : r'.core.InPhase p) (configuration : r'.own.configuration = routes) :
    Describes offered formats
      ⟨{ v.usage with phase := p, configuration := routes }, v.users⟩ r' := by
  obtain ⟨⟨plan, willing, offers, cached, registered, alive, held, on⟩, usage, frames⟩ := known
  obtain ⟨-, -, committed, armed⟩ := usage
  rw [← machine] at plan willing offers on committed armed
  refine ⟨⟨plan, willing, offers, ?_, ?_, ?_, users.trans held, on⟩,
    ⟨phase, configuration, committed, armed⟩, frames.of_same ?_⟩
  · rw [core]
    exact cached
  · rw [core]
    exact registered
  · rw [core]
    exact alive
  · rw [core]
    exact ⟨rfl, rfl, rfl⟩

/-- A step that is about the frames alone. -/
theorem stands_passed {f : Core → Core} (known : Describes offered formats v r)
    (transit : r.core.Transit (f r.core)) (calm : r.core.Calm (f r.core))
    (frames : (f r.core).Unclaimed) : Describes offered formats v (r.mapCore f) := by
  obtain ⟨ready, usage, -⟩ := known
  refine ⟨⟨ready.plan, ready.willing, ready.offers, ?_, transit.formats.trans ready.registered,
    calm.alive.trans ready.alive, ready.users, ready.on⟩,
    ⟨calm.inPhase usage.phase, usage.configuration, usage.committed, usage.armed⟩, frames⟩
  show ∀ modes, (f r.core).modes.value = some modes → _
  rw [transit.modes]
  exact ready.cached

/-! ## Deliveries -/

/-- Wherever the client stands, an image that a stream takes in leaves it there. -/
theorem deliverTo_stands (place : Nat) (data : Bytes) (known : Describes offered formats v r) :
    Describes offered formats v (deliverTo place data r) := by
  have beside := deliverTo_beside place data r
  have tame := deliverTo_tame place data r
  obtain ⟨offers, modes⟩ := deliverTo_sameModes place data r
  -- A stream that takes in an image changes lanes and frames, and neither formats nor what the
  -- device refuses.
  have rest : (deliverTo place data r).machine.device.Willing ∧
      (deliverTo place data r).core.formats = r.core.formats := by
    unfold deliverTo
    split
    · exact ⟨known.willing, rfl⟩
    · exact ⟨⟨known.willing.powerOn, known.willing.commit⟩, rfl⟩
    · exact ⟨⟨known.willing.powerOn, known.willing.commit⟩,
        (deliverLanes_transit _ data _ r.core).formats⟩
  refine ⟨⟨beside.plan.trans known.plan, rest.1, offers.trans known.offers, ?_,
    rest.2.trans known.registered, beside.core.alive.trans known.alive,
    beside.users.trans known.users, fun some => beside.power.trans (known.on some)⟩,
    ⟨beside.core.inPhase known.usage.phase, tame.configuration.trans known.usage.configuration,
      (deliverTo_committed place data r).trans known.usage.committed,
      (deliverTo_modes place data r).trans known.usage.armed⟩,
    deliverTo_unclaimed place data known.frames⟩
  rw [modes]
  exact known.cached

theorem deliver_stands (m : NativeMode) (data : Bytes) (known : Describes offered formats v r) :
    Describes offered formats v (deliver m data r).2 :=
  deliver_induction (fun place data _ => deliverTo_stands place data) m data known

theorem nextRound_stands (known : Describes offered formats v r) :
    Describes offered formats v (nextRound r) := by
  refine nextRound_induction (fun place data _ => deliverTo_stands place data) ?_ known
  rintro r ⟨ready, usage, frames⟩
  exact ⟨⟨ready.plan, ⟨ready.willing.powerOn, ready.willing.commit⟩, ready.offers, ready.cached,
    ready.registered, ready.alive, ready.users, ready.on⟩,
    ⟨usage.phase, usage.configuration, usage.committed, usage.armed⟩, frames⟩

/-! ## What operations do in passing -/

theorem acquire_succeeds : (Work.step acquire).run.Succeeds (Describes offered formats)
    (fun _ w => w = ⟨u, n + 1⟩) ⟨u, n⟩ := by
  refine Procedure.attains_step fun r known => ?_
  obtain ⟨done, ready⟩ := known.toReady.acquire
  exact ⟨_, (acquire_heedful known.plan known.willing).2.stands known ready, (), done, rfl⟩

theorem release_attains : (Procedure.change release).Attains (Describes offered formats)
    (fun _ w => w = ⟨u, n⟩) ⟨u, n + 1⟩ :=
  Procedure.attains_change
    (fun _ known => (release_heedful known.plan).stands known known.toReady.release) rfl

/-- A line in the log costs nothing. -/
theorem note_succeeds {level : LogLevel} {message : String} :
    (Work.change (Rig.note level message)).run.Succeeds (Describes offered formats)
      (fun _ w => w = v) v :=
  Work.succeeds_change fun r known =>
    (heedful_note level message r).stands known (known.toReady.note level message)

/-- A call that is granted by what is in use. -/
theorem attempt_succeeds {c : VideoCall} {P : c.Reply → Prop}
    (grants : ∀ r, Describes offered formats ⟨u, n⟩ r → ∃ a, P a ∧
      VideoDevice.perform c r.machine.device = (.ok a, r.machine.device.granted c))
    (remainder : ∀ d : VideoDevice, d.granted c = { d with
      events := (d.granted c).events
      enumerations := (d.granted c).enumerations
      committed := (d.granted c).committed
      armed := (d.granted c).armed
      counters := (d.granted c).counters
      rounds := (d.granted c).rounds })
    (uses : ∀ r, u.Describes r →
      (r.call c).2.machine.device = r.machine.device.granted c → u'.Describes (r.call c).2) :
    (Rig.attempt c : Procedure VideoRig _).Succeeds (Describes offered formats)
      (fun a w => P a ∧ w = ⟨u', n⟩) ⟨u, n⟩ := by
  refine Rig.attains_attempt fun r known => ?_
  obtain ⟨a, ha, granted⟩ := grants r known
  obtain ⟨answer, ready⟩ := known.toReady.call granted remainder
  have device := (Machine.call_of_spared (m := r.machine) (known.plan ▸ fun _ => rfl) granted).2
  exact ⟨a, answer, ⟨u', n⟩, ⟨ready, uses r known.usage device, known.frames⟩, ha, rfl⟩

/-- A question to the device. -/
theorem question_succeeds {c : VideoCall} {P : c.Reply → Prop} (asks : c.managesModes = false)
    (grants : ∀ r, Describes offered formats ⟨u, n⟩ r → ∃ a, P a ∧
      VideoDevice.perform c r.machine.device = (.ok a, r.machine.device.granted c))
    (remainder : ∀ d : VideoDevice, d.granted c = { d with
      events := (d.granted c).events
      enumerations := (d.granted c).enumerations
      committed := (d.granted c).committed
      armed := (d.granted c).armed
      counters := (d.granted c).counters
      rounds := (d.granted c).rounds }) :
    (Rig.attempt c : Procedure VideoRig _).Succeeds (Describes offered formats)
      (fun a w => P a ∧ w = ⟨u, n⟩) ⟨u, n⟩ :=
  attempt_succeeds grants remainder fun r usage _ => (unmoved_call asks r).describes usage

/-- What is done with the device powered. -/
theorem powered_succeeds {α : Type} {work : Work VideoRig α} {P : α → Prop}
    (hw : work.run.Succeeds (Describes offered formats) (fun a w => P a ∧ w = ⟨u, n + 1⟩)
      ⟨u, n + 1⟩) :
    (powered work).run.Succeeds (Describes offered formats) (fun a w => P a ∧ w = ⟨u, n⟩)
      ⟨u, n⟩ := by
  refine acquire_succeeds.onward fun _ => ?_
  refine Work.succeeds_always hw ?_
  rintro a _ ⟨ha, rfl⟩
  exact release_attains.mono fun _ _ same => ⟨ha, same⟩

/-! ## Modes and requests -/

/-- The device reports its modes in full. -/
theorem enumerate_succeeds : enumerate.run.Succeeds (Describes offered formats)
    (fun modes w => modes = distinct offered ∧ w = v) v := by
  obtain ⟨u, n⟩ := v
  refine powered_succeeds ?_
  have listed : (Rig.attempt VideoCall.enumerate : Procedure VideoRig _).Succeeds
      (Describes offered formats) (fun modes w => modes = offered ∧ w = ⟨u, n + 1⟩) ⟨u, n + 1⟩ :=
    question_succeeds rfl (fun r known => ⟨_, known.offers,
      VideoDevice.perform_enumerate_ok (known.on n.succ_pos)⟩) fun _ => rfl
  refine (Rig.succeeds_request listed).andThen ?_
  rintro reported _ ⟨rfl, rfl⟩
  refine note_succeeds.onward fun _ => ?_
  exact Procedure.succeeds_pure ⟨rfl, rfl⟩

theorem modes_succeeds : modes.run.Succeeds (Describes offered formats)
    (fun modes w => modes = distinct offered ∧ w = v) v := by
  refine Rig.succeeds_modesBy (fun r known => known.cached) (fun r known => ?_) enumerate_succeeds
  obtain ⟨ready, usage, frames⟩ := known
  refine ⟨{ ready with cached := fun modes found => ?_ }, ?_, frames.of_same ⟨rfl, rfl, rfl⟩⟩
  · cases found
    rfl
  · exact ⟨⟨usage.phase.opened, usage.phase.streaming⟩, usage.configuration, usage.committed,
      usage.armed⟩

/-- What is resolved is what the requests come to over all that is offered. -/
theorem resolve_attains (requests : List StreamRequest) :
    (resolve requests).run.Attains (Describes offered formats)
      (fun a w => a = Route.resolve requests formats (distinct offered) ∧ w = v) v :=
  Rig.attains_resolveBy modes_succeeds fun _ known => known.registered

theorem principal_succeeds : principal.run.Succeeds (Describes offered formats)
    (fun requests w => requests = principalRequests formats (distinct offered) ∧ w = v) v := by
  refine modes_succeeds.andThen ?_
  rintro modes w ⟨rfl, rfl⟩
  have look : (Work.look fun r : VideoRig => r.core.formats).run.Succeeds
      (Describes offered formats) (fun registered u => registered = formats ∧ u = w) w :=
    Work.succeeds_look fun r known => ⟨known.registered, rfl⟩
  refine look.andThen ?_
  rintro registered _ ⟨rfl, rfl⟩
  refine (Procedure.succeeds_forIn (fun code _ => ?_) _).andThen ?_
  · refine note_succeeds.onward fun _ => ?_
    exact Procedure.succeeds_pure rfl
  · rintro _ _ rfl
    exact Procedure.succeeds_pure ⟨rfl, rfl⟩

/-! ## Opening and closing -/

/-- Offered modes are committed. -/
theorem commitAll_succeeds {ms : List NativeMode} (done : List NativeMode)
    (among : ∀ m ∈ ms, m ∈ offered) (before : List NativeMode) :
    (commitAll done ms).run.Succeeds (Describes offered formats)
      (fun _ w => w = ⟨.committing (before ++ ms), n + 1⟩) ⟨.committing before, n + 1⟩ := by
  induction ms generalizing done before with
  | nil =>
    rw [List.append_nil]
    exact Procedure.succeeds_pure rfl
  | cons m ms ih =>
    obtain ⟨isOffered, among⟩ := List.forall_mem_cons.1 among
    have commit : (Rig.attempt (VideoCall.commit m) : Procedure VideoRig _).Succeeds
        (Describes offered formats) (fun _ w => True ∧ w = ⟨.committing (before ++ [m]), n + 1⟩)
        ⟨.committing before, n + 1⟩ := by
      refine attempt_succeeds (fun r known => ⟨(), trivial, ?_⟩) (fun _ => rfl)
        fun r usage done => ?_
      · exact VideoDevice.perform_commit (known.on n.succ_pos) known.willing.commit
          (known.offers.symm ▸ isOffered)
      · exact describes_of_granted usage done (congrArg (· ++ [m]) usage.committed) usage.armed
          rfl rfl
    refine (Work.succeeds_onFailure (Rig.succeeds_request commit)).andThen ?_
    rintro _ _ ⟨-, rfl⟩
    rw [List.append_cons]
    exact ih (m :: done) among (before ++ [m])

/-- The endpoint is opened if the requests can be routed, and closed as before if they cannot. -/
theorem openStreams_attains {requests : List StreamRequest}
    {Q : Except EndpointError Unit → VideoStanding → Prop}
    (ok : ∀ routes, Route.resolve requests formats (distinct offered) = .ok routes →
      Q (.ok ()) (.opened routes))
    (error : ∀ e, Route.resolve requests formats (distinct offered) = .error e →
      Q (.error e) .closed) :
    (openStreams requests).run.Attains (Describes offered formats) Q .closed := by
  have check : (Work.check fun r : VideoRig => r.core.checkOpen title).run.Succeeds
      (Describes offered formats) (fun _ w => w = .closed) .closed := by
    refine Work.succeeds_check fun r known => ⟨(), ?_, rfl⟩
    rcases Core.checkOpen_guards title known.usage.phase with ⟨refuses, -⟩ | ⟨-, ok⟩
    · cases refuses
    · exact ok
  refine check.onward fun _ => ?_
  refine acquire_succeeds.onward fun _ => ?_
  have configure (routes : List Route) : (Work.change fun r : VideoRig =>
      { r with own := { r.own with configuration := routes },
               core := { r.core with opened := true } }).run.Succeeds
      (Describes offered formats) (fun _ w => w = .opened routes)
      ⟨.committing (routedModes routes), 1⟩ :=
    Work.succeeds_change fun r known =>
      stands_turned known rfl rfl rfl ⟨rfl, known.usage.phase.streaming⟩ rfl
  -- What is left may fail in the routing alone, and then the reference is given back.
  refine Work.attains_onFailure ((resolve_attains requests).andThen ?_ fun e _ refused => ?_)
  · intro routes w ⟨routed, here⟩
    subst w
    refine (commitAll_succeeds [] (routedModes_of_resolve routed.symm) []).onward fun _ => ?_
    refine note_succeeds.onward fun _ => Attains.mono ?_ (configure routes)
    intro _ _ ⟨_, done, here⟩
    subst done here
    exact ok routes routed.symm
  · rw [refused.2]
    exact release_attains.mono fun _ _ same => same ▸ error e refused.1.symm

/-- The modes that are committed are closed. -/
theorem closeAll_attains {routes : List Route} (ms : List NativeMode) :
    (closeAll ms).Attains (Describes offered formats)
      (fun complaint w => complaint = none ∧ w = ⟨.closing routes [], n⟩)
      ⟨.closing routes ms, n⟩ := by
  induction ms with
  | nil => exact Procedure.attains_pure ⟨rfl, rfl⟩
  | cons m ms ih =>
    have first : (Rig.attempt (VideoCall.close m) : Procedure VideoRig _).Succeeds
        (Describes offered formats) (fun _ w => True ∧ w = ⟨.closing routes ms, n⟩)
        ⟨.closing routes (m :: ms), n⟩ := by
      refine attempt_succeeds (fun r known => ⟨(), trivial, ?_⟩) (fun _ => rfl)
        fun r usage done => ?_
      · refine VideoDevice.perform_close ?_
        rw [known.usage.committed]
        exact List.mem_cons_self
      · refine describes_of_granted usage done ?_ usage.armed rfl rfl
        show r.machine.device.committed.erase m = ms
        rw [usage.committed]
        exact List.erase_cons_head ..
    unfold closeAll
    refine Attains.bind first ?_
    rintro _ _ ⟨_, rfl, -, rfl⟩
    exact ih

/-- A sole client can close what it has opened. -/
theorem close_succeeds {routes : List Route} : close.run.Succeeds (Describes offered formats)
    (fun _ w => w = .closed) (.opened routes) := by
  have check : (Work.check fun r : VideoRig => r.core.checkClose title).run.Succeeds
      (Describes offered formats) (fun _ w => w = .opened routes) (.opened routes) := by
    refine Work.succeeds_check fun r known => ⟨(), ?_, rfl⟩
    rcases Core.checkClose_guards title known.usage.phase with ⟨refuses, -⟩ | ⟨-, ok⟩
    · cases refuses
    · exact ok
  have look : (Work.look fun r : VideoRig => r.own.configuration).run.Succeeds
      (Describes offered formats) (fun found w => found = routes ∧ w = .opened routes)
      (.opened routes) :=
    Work.succeeds_look fun r known => ⟨known.usage.configuration, rfl⟩
  have forget : (Work.change fun r : VideoRig =>
      { r with own := { r.own with configuration := [] },
               core := { r.core with opened := false } }).run.Succeeds (Describes offered formats)
        (fun _ w => w = ⟨.closed, 1⟩) ⟨.closing routes [], 1⟩ :=
    Work.succeeds_change fun r known =>
      stands_turned known rfl rfl rfl ⟨rfl, known.usage.phase.streaming⟩ rfl
  -- The release gives back the one reference that was left.
  refine check.onward fun _ => ?_
  refine look.andThen ?_
  rintro found _ ⟨rfl, rfl⟩
  refine (closeAll_attains (routedModes found)).lifted.andThen ?_
  rintro complaint _ ⟨rfl, rfl⟩
  refine forget.onward fun _ => ?_
  refine release_attains.lifted.onward fun _ => ?_
  refine note_succeeds.onward fun _ => ?_
  exact Procedure.succeeds_pure rfl

/-! ## Starting and stopping -/

/-- A callback that keeps no frame may be registered. -/
theorem engage_succeeds {k : Consumer} (passing : k.Passing) :
    (Work.change (Rig.mapCore (·.engage k))).run.Succeeds (Describes offered formats)
      (fun _ w => w = v) v :=
  Work.succeeds_change fun r known => stands_passed known (Core.transit_engage k r.core)
    (Core.calm_engage r.core k) (known.frames.engage passing)

theorem dismiss_succeeds : (Work.change (Rig.mapCore (·.dismiss))).run.Succeeds
    (Describes offered formats) (fun _ w => w = v) v :=
  Work.succeeds_change fun r known => stands_passed known (Core.transit_dismiss r.core)
    (Core.calm_dismiss r.core) known.frames.dismiss

/-- It can start what it has opened. -/
theorem start_succeeds {routes : List Route} {k : Consumer} (passing : k.Passing) :
    (start k).run.Succeeds (Describes offered formats) (fun _ w => w = .streaming routes)
      (.opened routes) := by
  have check : (Work.check fun r : VideoRig => r.core.checkStart title).run.Succeeds
      (Describes offered formats) (fun _ w => w = .opened routes) (.opened routes) := by
    refine Work.succeeds_check fun r known => ⟨(), ?_, rfl⟩
    rcases Core.checkStart_guards title known.usage.phase with ⟨refuses, -⟩ | ⟨-, ok⟩
    · cases refuses
    · exact ok
  have warn : (Work.change warnOfLayout).run.Succeeds (Describes offered formats)
      (fun _ w => w = ⟨.opened routes, 2⟩) ⟨.opened routes, 2⟩ := by
    refine Work.succeeds_change fun r known => ?_
    have heedful := warnOfLayout_heedful r
    have quiet := warnOfLayout_quiet r
    refine heedful.stands known (known.toReady.heedful heedful (quiet.users.trans known.users) ?_)
    rw [quiet.machine]
    exact known.on
  have make : (Work.look fun r : VideoRig =>
      streamsFor r.own.layout r.own.configuration).run.Succeeds (Describes offered formats)
        (fun made w => made.map (·.1) = routedModes routes ∧ w = ⟨.opened routes, 2⟩)
        ⟨.opened routes, 2⟩ := by
    refine Work.succeeds_look fun r known => ⟨?_, rfl⟩
    have configuration : r.own.configuration = routes := known.usage.configuration
    rw [← configuration]
    exact streamsFor_modes _ _
  have arm {made : List (NativeMode × VideoSink)} (modes : made.map (·.1) = routedModes routes) :
      (Rig.attempt (VideoCall.streamOn made) : Procedure VideoRig _).Succeeds
        (Describes offered formats) (fun _ w => True ∧ w = ⟨.waking routes, 2⟩)
        ⟨.opened routes, 2⟩ := by
    refine attempt_succeeds (fun r known => ⟨(), trivial, ?_⟩) (fun _ => rfl)
      fun r usage done => ?_
    · refine VideoDevice.perform_streamOn (known.on (Nat.succ_pos 1)) fun s hs => ?_
      have armed : s.1 ∈ routedModes routes := modes ▸ List.mem_map_of_mem hs
      rw [known.usage.committed]
      exact armed
    · have armed : (r.machine.device.armed ++ made).map (·.1) = routedModes routes := by
        rw [List.map_append, usage.armed, modes]
        rfl
      exact describes_of_granted usage done usage.committed armed rfl rfl
  have awaken : (Work.change fun r : VideoRig =>
      { r with core := { r.core with streaming := true } }).run.Succeeds
        (Describes offered formats) (fun _ w => w = .streaming routes) ⟨.waking routes, 2⟩ :=
    Work.succeeds_change fun r known =>
      stands_turned known rfl rfl rfl ⟨known.usage.phase.opened, rfl⟩ known.usage.configuration
  -- The steps are put together in the order in which a start takes them.
  refine check.onward fun _ => ?_
  refine acquire_succeeds.onward fun _ => ?_
  refine Work.succeeds_onFailure ?_
  refine (engage_succeeds passing).onward fun _ => ?_
  refine warn.onward fun _ => ?_
  refine make.andThen ?_
  rintro made _ ⟨modes, rfl⟩
  refine (Work.succeeds_onFailure (Rig.succeeds_request (arm modes))).andThen ?_
  rintro _ _ ⟨-, rfl⟩
  refine awaken.onward fun _ => ?_
  exact note_succeeds

/-- It can stop, and does not have to wait. -/
theorem stop_succeeds {routes : List Route} : stop.run.Succeeds (Describes offered formats)
    (fun _ w => w = .opened routes) (.streaming routes) := by
  have look : (Work.look fun r : VideoRig => r.core.streaming).run.Succeeds
      (Describes offered formats) (fun streaming w => streaming = true ∧ w = .streaming routes)
      (.streaming routes) :=
    Work.succeeds_look fun r known => ⟨known.usage.phase.streaming, rfl⟩
  have disarm : (Rig.attempt VideoCall.streamOff : Procedure VideoRig _).Succeeds
      (Describes offered formats) (fun _ w => True ∧ w = ⟨.silenced routes, 2⟩)
      (.streaming routes) :=
    attempt_succeeds (fun r known => ⟨(), trivial, VideoDevice.perform_streamOff⟩) (fun _ => rfl)
      fun r usage done => describes_of_granted usage done usage.committed rfl rfl rfl
  have halt : (Work.change fun r : VideoRig =>
      { r with core := { r.core with streaming := false } }).run.Succeeds
        (Describes offered formats) (fun _ w => w = ⟨.opened routes, 2⟩) ⟨.silenced routes, 2⟩ :=
    Work.succeeds_change fun r known =>
      stands_turned known rfl rfl rfl ⟨known.usage.phase.opened, rfl⟩ known.usage.configuration
  -- No frame is out, since the callback keeps none.
  have flush : (Work.ofProcedure Rig.flush : Work VideoRig Unit).run.Succeeds
      (Describes offered formats) (fun _ w => w = ⟨.opened routes, 2⟩) ⟨.opened routes, 2⟩ :=
    Attains.lifted (Procedure.attains_waitFor
      (fun r known => decide_eq_true known.frames.published) rfl)
  refine look.andThen ?_
  rintro _ _ ⟨rfl, rfl⟩
  refine (Attains.lifted disarm).andThen ?_
  rintro _ _ ⟨_, rfl, -, rfl⟩
  refine halt.onward fun _ => ?_
  refine dismiss_succeeds.onward fun _ => ?_
  refine flush.onward fun _ => ?_
  refine release_attains.lifted.onward fun _ => ?_
  refine note_succeeds.onward fun _ => ?_
  exact Procedure.succeeds_pure rfl

/-! ## Controls -/

/-- A question on behalf of a control is answered wherever the client stands. -/
theorem forControl_succeeds {id : ControlId} {c : VideoCall}
    (asks : ∀ u n, (Rig.attempt c : Procedure VideoRig _).Succeeds (Describes offered formats)
      (fun _ w => True ∧ w = ⟨u, n + 1⟩) ⟨u, n + 1⟩) :
    (forControl id (Rig.attempt c)).Succeeds (Describes offered formats) (fun _ w => w = v) v := by
  obtain ⟨u, n⟩ := v
  have alive : (Procedure.look fun r : VideoRig => r.core.alive).Attains
      (Describes offered formats) (fun found w => found = true ∧ w = ⟨u, n⟩) ⟨u, n⟩ :=
    Procedure.attains_look fun r known => ⟨known.alive, rfl⟩
  refine alive.onward ?_
  have asked : (powered (Work.ofProcedure (Rig.attempt c))).run.Succeeds
      (Describes offered formats) (fun a w => (∃ b, a = .ok b) ∧ w = ⟨u, n⟩) ⟨u, n⟩ := by
    refine powered_succeeds (Succeeds.mono (Attains.lifted (asks u n)) ?_)
    rintro _ _ ⟨b, ok, -, same⟩
    exact ⟨⟨b, ok⟩, same⟩
  refine Attains.bind asked ?_
  rintro _ _ ⟨_, rfl, ⟨b, rfl⟩, rfl⟩
  exact Procedure.attains_pure ⟨b, rfl, rfl⟩

/-- A control can be read. -/
theorem query_succeeds (id : ControlId) : (callProcessing id .query).Succeeds
    (Describes offered formats) (fun _ w => w = v) v := by
  refine Attains.bind (forControl_succeeds fun u n => ?_) ?_
  · exact question_succeeds rfl
      (fun r known => ⟨_, trivial, VideoDevice.powered_of_on _ _ (known.on n.succ_pos)⟩)
      fun _ => rfl
  · rintro _ w ⟨b, rfl, same⟩
    exact ⟨_, rfl, same⟩

/-- Its range can be had. -/
theorem range_succeeds (id : ControlId) : (callProcessing id .range).Succeeds
    (Describes offered formats) (fun _ w => w = v) v := by
  refine Attains.bind (forControl_succeeds fun u n => ?_) ?_
  · exact question_succeeds rfl
      (fun r known => ⟨_, trivial, VideoDevice.powered_of_on _ _ (known.on n.succ_pos)⟩)
      fun _ => rfl
  · rintro _ w ⟨b, rfl, same⟩
    exact ⟨_, rfl, same⟩

end VideoRig

end Sensing
