import Sensing.Proofs.Clients.Success
import Sensing.Proofs.Clients.Transcript
import Sensing.Proofs.Motion.Capturing

/-!
# Which requests a motion endpoint opens

An endpoint with no formats but those of motion data opens for requests that its sensors can serve,
all of them, and for no others. What it then captures are the sensors of the requested channels, in
the order of their first requests. In particular, every request that the endpoint itself proposes is
one that it can serve.

Opening asks nothing of the device, so none of this depends on whether its calls fail. Main result:
`opened_for_sensed_requests`.
-/

namespace Sensing

namespace MotionRig

/-- An endpoint that may be opened, with no formats but those of motion data. -/
structure Openable (sensors : List Sensor) (frequency : UInt32) (r : MotionRig) : Prop where
  fitted : r.Fitted sensors frequency
  formats : r.core.formats = PixelFormat.motion
  closed : r.core.InPhase .closed

variable {sensors : List Sensor} {frequency : UInt32} {requests : List StreamRequest}
  {r : MotionRig}

/-- A line in the log keeps nothing from being opened. -/
theorem Openable.note (h : Openable sensors frequency r) (level : LogLevel) (message : String) :
    Openable sensors frequency (r.note level message) :=
  ⟨(aloof_note r _).fitted h.fitted, h.formats, h.closed.opened, h.closed.streaming⟩

/-! ## Routing -/

/-- Requests are routed over the formats of motion data and the modes of the sensors. -/
theorem resolve_run (h : Openable sensors frequency r) (requests : List StreamRequest) :
    ∃ r', Openable sensors frequency r' ∧ (resolve requests).run.run r =
      .finished (Route.resolve requests PixelFormat.motion (sensedModes sensors)) r' := by
  have modes : (Rig.modesBy enumerate).Gives r fun modes r' =>
      modes = sensedModes sensors ∧ Openable sensors frequency r' := by
    refine Rig.gives_modesBy (fun r h => h.fitted.cached) (fun r h => ?_) (fun r h => ?_) h
    · exact ⟨(aloof_fill r).fitted h.fitted, h.formats, h.closed.opened, h.closed.streaming⟩
    · refine Work.gives_look ⟨?_, h⟩
      rw [h.fitted.known]
      rfl
  obtain ⟨_, r', run, rfl, h'⟩ := modes
  refine ⟨r', h', (Work.run_then run).trans (Work.run_check ?_)⟩
  rw [h'.formats]

/-- Nothing speaks against opening it. -/
theorem checkOpen_run (closed : r.core.InPhase .closed) :
    (Work.check fun r : MotionRig => r.core.checkOpen title).run.run r = .finished (.ok ()) r := by
  rcases Core.checkOpen_guards title closed with ⟨refuses, -⟩ | ⟨-, ok⟩
  · cases refuses
  · exact Work.run_check ok

/-! ## Opening -/

/-- Requests that the sensors can serve are opened, and their sensors are configured. -/
theorem openStreams_run_of_sensed (h : Openable sensors frequency r) (asked : requests ≠ [])
    (sensed : ∀ q ∈ requests, q.Sensed sensors) :
    ∃ r', (openStreams requests).run.run r = .finished (.ok ()) r' ∧
      Route.resolve requests PixelFormat.motion (sensedModes sensors) = .ok r'.own.configuration ∧
      r'.own.configured =
        distinct (requests.filterMap fun q => rateFor? sensors frequency q.channel) := by
  obtain ⟨routes, routed⟩ : Route.Routable requests PixelFormat.motion (sensedModes sensors) :=
    Route.routable_of_servable asked fun q mem => servable_iff.2 (sensed q mem)
  obtain ⟨r', h', resolved⟩ := resolve_run h requests
  rw [routed] at resolved
  have rates : ratesFor r'.own.sensors r'.own.frequency routes =
      .ok (distinct (requests.filterMap fun q => rateFor? sensors frequency q.channel)) := by
    rw [h'.fitted.known, h'.fitted.rate]
    exact ratesFor_resolve sensed routed
  have run : (openStreams requests).run.run r = _ :=
    (Work.run_then (checkOpen_run h.closed)).trans
      ((Work.run_then resolved).trans (Work.run_then (Work.run_check rates)))
  exact ⟨_, run, routed, rfl⟩

/-- The first request that they cannot serve is named. -/
theorem openStreams_run_of_unsensed (h : Openable sensors frequency r)
    {before after : List StreamRequest} {q : StreamRequest}
    (sensed : ∀ b ∈ before, b.Sensed sensors) (unsensed : ¬ q.Sensed sensors) :
    ∃ r', (openStreams (before ++ q :: after)).run.run r =
      .finished (.error (.profileNotFound q.text)) r' := by
  have refused : Route.resolve (before ++ q :: after) PixelFormat.motion (sensedModes sensors) =
      .error (.profileNotFound q.text) :=
    Route.resolve_of_unservable (fun b mem => servable_iff.2 (sensed b mem))
      fun servable => unsensed (servable_iff.1 servable)
  obtain ⟨r', -, resolved⟩ := resolve_run h (before ++ q :: after)
  rw [refused] at resolved
  refine ⟨r', (Work.run_then (checkOpen_run h.closed)).trans ?_⟩
  exact Work.run_stop resolved

/-- What comes of opening for these requests. -/
structure OpensFor (sensors : List Sensor) (frequency : UInt32) (requests : List StreamRequest)
    (a : Except EndpointError Unit) (r' : MotionRig) : Prop where
  admits : a = .ok () ↔ ∀ q ∈ requests, q.Sensed sensors
  /-- The first sensor of each channel is configured, in the order of the requests; equal entries
  are merged. -/
  configures : a = .ok () → r'.own.configured =
    distinct (requests.filterMap fun q => rateFor? sensors frequency q.channel)
  refuses : ∀ e, a = .error e → ∃ before q after, requests = before ++ q :: after ∧
    (∀ b ∈ before, b.Sensed sensors) ∧ ¬ q.Sensed sensors ∧ e = .profileNotFound q.text

/-- Either all requests can be served or there is a first that cannot. -/
theorem openStreams_opensFor (h : Openable sensors frequency r) (asked : requests ≠ []) :
    ∃ a r', (openStreams requests).run.run r = .finished a r' ∧
      OpensFor sensors frequency requests a r' := by
  rcases Route.servable_or_first PixelFormat.motion (sensedModes sensors) requests with
    all | ⟨before, q, after, rfl, some, unservable⟩
  · have sensed : ∀ q ∈ requests, q.Sensed sensors := fun q mem => servable_iff.1 (all q mem)
    obtain ⟨r', run, -, configured⟩ := openStreams_run_of_sensed h asked sensed
    exact ⟨_, r', run, iff_of_true rfl sensed, fun _ => configured, fun _ error => nomatch error⟩
  · have sensed : ∀ b ∈ before, b.Sensed sensors := fun b mem => servable_iff.1 (some b mem)
    have unsensed : ¬ q.Sensed sensors := fun sensed => unservable (servable_iff.2 sensed)
    obtain ⟨r', run⟩ : ∃ r', (openStreams (before ++ q :: after)).run.run r =
        .finished (.error (.profileNotFound q.text)) r' :=
      openStreams_run_of_unsensed h sensed unsensed
    refine ⟨_, r', run, iff_of_false nofun fun all => ?_, nofun, fun e error => ?_⟩
    · exact unsensed (all q (List.mem_append_right _ (List.mem_cons_self ..)))
    · cases error
      exact ⟨before, q, after, rfl, sensed, unsensed, rfl⟩

/-! ## What the endpoint proposes -/

/-- What an endpoint proposes is one request for each channel of its sensors. -/
theorem principal_gives (h : Openable sensors frequency r) : principal.Gives r fun requests r' =>
    requests = distinct (sensors.filterMap requestOf?) ∧ Openable sensors frequency r' := by
  refine Work.Gives.bind (P := fun found r' => found = sensors ∧ Openable sensors frequency r')
    (Work.gives_look ⟨h.fitted.known, h⟩) ?_
  rintro found r₁ ⟨rfl, h₁⟩
  refine Work.Gives.bind (P := fun _ => Openable found frequency)
    (Work.gives_forIn (fun s _ r h => ?_) _ h₁) fun _ _ h => Work.gives_pure ⟨rfl, h⟩
  split
  · exact (Work.gives_change (P := fun _ => Openable found frequency) (h.note _ _)).bind
      fun _ _ h => Work.gives_pure h
  · exact Work.gives_pure h

/-- The sensors can serve what is proposed for them. -/
theorem sensed_of_proposed {q : StreamRequest} (h : q ∈ sensors.filterMap requestOf?) :
    q.Sensed sensors := by
  obtain ⟨s, mem, proposed⟩ := List.mem_filterMap.1 h
  obtain ⟨c, named, rfl⟩ := requestOf?_eq_some_iff.1 proposed
  exact ⟨⟨s.name, named, s, mem, rfl⟩, .inr rfl, rfl, rfl, rfl⟩

/-! ## The whole -/

variable {capacity limit : Nat} {automatic : Bool} {plan : FaultPlan MotionCall}
  {c : Crowd MotionRig}

/-- A closed motion endpoint with no formats but its own, whatever clients have done with it, opens
for a list of requests exactly if each of them asks for all the samples of a sensor that was found,
and otherwise names the first that does not; what it proposes itself, if anything, it opens. -/
theorem opened_for_sensed_requests
    (constructed : construct.run.run
      (.create (.create capacity limit) frequency { sensors, automatic } plan) =
        .finished (.ok ()) r)
    (h : Crowd.Reaches (fun _ => True) { rig := r } c) (closed : c.rig.core.InPhase .closed)
    (builtIn : c.rig.core.formats = PixelFormat.motion) :
    c.rig.own.sensors = sensors ∧
      (∀ requests, requests ≠ [] → ∃ a r', (openStreams requests).run.run c.rig = .finished a r' ∧
        OpensFor sensors frequency requests a r') ∧
      ∃ proposed r₁, principal.run.run c.rig = .finished (.ok proposed) r₁ ∧
        (proposed ≠ [] → ∃ r₂, (openStreams proposed).run.run r₁ = .finished (.ok ()) r₂) := by
  have fitted := fitted_of_reaches (constructed_of_run constructed) h
  have openable : Openable sensors frequency c.rig := ⟨fitted, builtIn, closed⟩
  refine ⟨fitted.known, fun requests asked => openStreams_opensFor openable asked, ?_⟩
  obtain ⟨proposed, r₁, run, rfl, openable⟩ := principal_gives openable
  refine ⟨_, r₁, run, fun some => ?_⟩
  obtain ⟨r₂, run, -⟩ := openStreams_run_of_sensed openable some fun q mem =>
    sensed_of_proposed (mem_distinct.1 mem)
  exact ⟨r₂, run⟩

/-- A device with two gyroscopes, the first of which shares its index with the accelerometer. -/
def crowded : List Sensor := [⟨"temp", 9⟩, ⟨"accel_3d", 4⟩, ⟨"gyro_3d", 4⟩, ⟨"gyro_3d", 7⟩]

/-- Both channels come from one index, which is configured once; for color there is no sensor. -/
theorem crowded_opened : ∃ (r : MotionRig) (c : Crowd MotionRig),
    construct.run.run (.create (.create 4 4) 100 { sensors := crowded } .sound) =
      .finished (.ok ()) r ∧
    Crowd.Reaches (fun _ => True) { rig := r } c ∧ c.rig.core.InPhase .closed ∧
    c.rig.core.formats = PixelFormat.motion ∧
    (∃ r', (openStreams [{ channel := .gyro }, ⟨.accel, 0, 0, 0, .motionData⟩]).run.run c.rig =
      .finished (.ok ()) r' ∧ r'.own.configured = [⟨4, 100⟩]) ∧
    ∃ r', (openStreams [{ channel := .gyro }, { channel := .color }]).run.run c.rig =
      .finished (.error (.profileNotFound "Color 0x0 @0fps Any")) r' := by
  have computed : (do
      let (_, r) ← construct.success? (.create (.create 4 4) 100 { sensors := crowded })
      return !r.core.opened) = some true := by
    decide +kernel
  simp only [Option.bind_eq_bind, Option.bind_eq_some_iff, Prod.exists, Option.pure_def,
    Option.some.injEq, Bool.not_eq_true'] at computed
  -- The endpoint has just been constructed, so it is closed and has no formats but its own.
  obtain ⟨_, r, construction, shut⟩ := computed
  have run := Work.run_of_success? construction
  have constructed := constructed_of_run run
  have closed : r.core.InPhase .closed := ⟨shut, constructed.stopped⟩
  obtain ⟨-, opens, -⟩ := opened_for_sensed_requests run .refl closed constructed.formats
  refine ⟨r, _, run, .refl, closed, constructed.formats, ?_, ?_⟩
  · obtain ⟨a, r', opened, comes⟩ :=
      opens [{ channel := .gyro }, ⟨.accel, 0, 0, 0, .motionData⟩] (by decide)
    obtain rfl := comes.admits.2 (by decide)
    exact ⟨r', opened, (comes.configures rfl).trans (by decide)⟩
  · obtain ⟨a, r', refused, comes⟩ :=
      opens [{ channel := .gyro }, { channel := .color }] (by decide)
    cases a with
    | ok _ => exact absurd (comes.admits.1 rfl) (by decide)
    | error e =>
      obtain ⟨before, q, after, split, -, unsensed, rfl⟩ := comes.refuses e rfl
      have text : StreamRequest.text { channel := .color } = "Color 0x0 @0fps Any" := by
        decide +kernel
      -- The one request of the two that the sensors cannot serve is the second.
      have mem : q ∈ before ++ q :: after := List.mem_append_right _ (List.mem_cons_self ..)
      rw [← split] at mem
      rcases List.mem_pair.1 mem with rfl | rfl
      · exact absurd (by decide) unsensed
      · rw [text] at refused
        exact ⟨r', refused⟩

end MotionRig

end Sensing
