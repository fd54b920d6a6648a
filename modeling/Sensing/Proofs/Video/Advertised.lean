import Sensing.Proofs.Sorted
import Sensing.Proofs.Video.Readiness
import Sensing.Proofs.Video.SourceOperations

/-!
# What is advertised can be opened

The principal requests of an endpoint list each output of each unpacker, for every mode. Whether a
request is served is decided by the first output of its channel, though. So an unpacker with two
outputs of one channel may advertise the second one without ever serving a request for it, and then
neither that request nor the whole list is routed (`VideoRig.second_color_refused`). Where that is
not so (`Unpacker.Accessible`), every request listed is served by the very unpacker and mode that it
was listed for.

Main result: `VideoRig.advertised_opens`. What is advertised once can be had ever after, as long as
the device refuses nothing: formats may be registered meanwhile but none disappears, and the modes
stay what they are.
-/

namespace Sensing

/-! ## Outputs that can be asked for -/

/-- A request for the channel and the encoding of an output finds an output like it. -/
def Unpacker.Accessible (u : Unpacker) : Prop :=
  ∀ output ∈ u.outputs, output.2 = .any ∨ u.encodingOf output.1 = some output.2

instance (u : Unpacker) : Decidable u.Accessible :=
  inferInstanceAs
    (Decidable (∀ output ∈ u.outputs, output.2 = .any ∨ u.encodingOf output.1 = some output.2))

/-- All outputs of all unpackers can be asked for. -/
def PixelFormat.AllAccessible (formats : List PixelFormat) : Prop :=
  ∀ pf ∈ formats, ∀ u ∈ pf.unpackers, u.Accessible

instance (formats : List PixelFormat) : Decidable (PixelFormat.AllAccessible formats) :=
  inferInstanceAs (Decidable (∀ pf ∈ formats, ∀ u ∈ pf.unpackers, u.Accessible))

/-- A channel that is listed has a first output. -/
theorem Unpacker.encodingOf_isSome {u : Unpacker} {output : Channel × Encoding}
    (h : output ∈ u.outputs) : ∃ e, u.encodingOf output.1 = some e := by
  unfold encodingOf
  cases found : u.outputs.find? fun o => o.1 = output.1 with
  | none => exact absurd (List.find?_eq_none.1 found output h) (by simp)
  | some first => exact ⟨first.2, rfl⟩

/-- An output that can be asked for is served by the unpacker that lists it. -/
theorem Unpacker.Accessible.serves {u : Unpacker} (h : u.Accessible)
    {output : Channel × Encoding} (listed : output ∈ u.outputs) {request : StreamRequest}
    (channel : request.channel = output.1) (encoding : request.encoding = output.2) :
    u.serves request = true := by
  rw [Unpacker.serves_iff, channel, encoding]
  rcases h output listed with any | first
  · obtain ⟨e, first⟩ := Unpacker.encodingOf_isSome listed
    exact ⟨e, first, .inl any⟩
  · exact ⟨output.2, first, .inr rfl⟩

/-! ## The principal requests -/

namespace VideoRig

variable {formats : List PixelFormat} {ms : List NativeMode} {request : StreamRequest}

/-- What is listed for a mode is served by the unpacker that it was listed for, in that mode. -/
theorem servable_of_offers (accessible : PixelFormat.AllAccessible formats) {m : NativeMode}
    (hm : m ∈ ms) (h : request ∈ offers formats m) : request.Servable formats ms := by
  unfold offers at h
  split at h
  next => cases h
  next pf found =>
    obtain ⟨u, hu, listed⟩ := List.mem_flatMap.1 h
    obtain ⟨output, houtput, rfl⟩ := List.mem_map.1 listed
    have registered := List.mem_of_find?_eq_some found
    have code : pf.format = m.format := by simpa using List.find?_some found
    exact ⟨pf, registered, u, hu, (accessible pf registered u hu).serves houtput rfl rfl, m, hm,
      NativeMode.fits_iff.2 ⟨code.symm, .inr rfl, .inr rfl, .inr rfl⟩⟩

/-- So every principal request can be served, by the format that it was listed for. -/
theorem servable_of_principal (accessible : PixelFormat.AllAccessible formats)
    (h : request ∈ principalRequests formats ms) : request.Servable formats ms := by
  obtain ⟨m, hm, listed⟩ := List.mem_flatMap.1 (mem_sortByKey (List.mem_reverse.1 h))
  exact servable_of_offers accessible hm listed

/-! ## Opening among other clients -/

variable {offered : List NativeMode} {P : VideoRig → Prop} {requests : List StreamRequest}

/-- Where the requests can be routed whenever it looks, a closed endpoint is opened. -/
theorem openStreams_answers
    (routable : ∀ r, P r → Route.Routable requests r.core.formats (distinct offered)) :
    (openStreams requests).Follows ((obedience offered).given P).holding
      (Sure fun a _ => a = .ok ()) (some .closed) := by
  have guides := ((obedience offered).given P).holding_guides
  have obeying := guides.of_given
  refine Knowledge.turns_guarded (K := (obedience offered).given P) (Core.checkOpen_guards title)
    (fun _ known => known.describes.phase) (fun _ refuses => nomatch refuses) fun _ => ?_
  refine guides.onwardWork (acquires obeying) (fun _ _ => ?_) fun e h => nomatch h
  refine guides.onFailure (P := fun a _ => a = .ok ()) ?_ (fun _ _ h => h) fun e k h => nomatch h
  refine guides.onwardWork
    (guides.resolveBy_over obedience_reads.given (enumerates obeying) requests) ?_ ?_
  · rintro routes ⟨_, -, _, rfl, routed⟩
    refine Work.Follows.mono (fun a k ends => ?_)
      (Knowledge.holding_given (configures routes (routedModes_of_resolve routed.symm)))
    exact Sure.mono (fun _ _ h => h.2) ends
  · rintro e ⟨r, holds, _, rfl, failed⟩
    obtain ⟨routes, ok⟩ := routable r holds.2
    cases failed.trans ok

/-! ## Everything advertised -/

/-- The requests can be had: each of them is routed, and all of them are opened at once, where the
client finds the lock free and the endpoint closed. -/
structure Honors (c : Crowd VideoRig) (requests : List StreamRequest) : Prop where
  resolves : ∀ request ∈ requests, ∃ routes r,
    (resolve [request]).run.run c.rig = .finished (.ok routes) r
  opens : requests ≠ [] → c.holder = none → c.rig.core.InPhase .closed →
    ∃ r, (openStreams requests).run.run c.rig = .finished (.ok ()) r
  /-- The same among whatever other clients do meanwhile. -/
  serves : requests ≠ [] → c.holder = none → c.rig.core.InPhase .closed → ∀ c' a,
    Crowd.ReachesWhile (fun c => c.holder ≠ none ∧ c.rig.machine.device.Willing)
      VideoOp.Considerate { c with holder := some (openStreams requests).run } c' →
    c'.holder = some (.done a) → a = .ok ()

end VideoRig

theorem VideoOp.Considerate.armsTaps {op : VideoOp} (h : op.Considerate) : op.ArmsTaps :=
  h.mono fun c considerate => c.armsTaps_of_unmanaged considerate.2

namespace VideoRig

variable {offered : List NativeMode} {requests : List StreamRequest}
  {capacity limit : Nat} {layout : ClockLayout} {automatic : Bool} {c c' : Crowd VideoRig}

/-- Registered formats stay registered, in their order. -/
theorem formats_grow (reached : Crowd.Reaches VideoOp.Considerate
      (unattended capacity limit layout { offered, automatic } .sound) c)
    (onward : Crowd.Reaches VideoOp.Considerate c c') :
    c.rig.core.formats <+: c'.rig.core.formats := by
  have taps {c c' : Crowd VideoRig} (h : Crowd.Reaches VideoOp.Considerate c c') :
      Crowd.Reaches VideoOp.ArmsTaps c c' :=
    h.of_admitted fun _ considerate => considerate.armsTaps
  exact (formats_of_reaches (sourcing_kept_of_reaches rfl (taps reached)) (taps onward)).2

section Reached

variable (h : Crowd.ReachesWhile (fun c => c.rig.machine.device.Willing) VideoOp.Considerate
  (unattended capacity limit layout { offered, automatic } .sound) c)
include h

/-- Where nobody has the lock, nothing is in use at a closed endpoint. -/
theorem obeyed_closed (free : c.holder = none) (closed : c.rig.core.InPhase .closed) :
    Usage.closed.Obeyed offered c.rig := by
  obtain ⟨u, known, mirrored⟩ := (obedient_of_reaches h).2.at_rest free
  cases mirrored with
  | closed => exact known
  | opened | streaming => cases closed.opened.symm.trans known.describes.phase.opened

/-- Requests that can be served when a client gets the lock can still be served when it looks. -/
theorem served_among_others
    (servable : ∀ request ∈ requests, request.Servable c.rig.core.formats (distinct offered))
    (nonempty : requests ≠ []) (free : c.holder = none) (closed : c.rig.core.InPhase .closed)
    {a : Except EndpointError Unit}
    (run : Crowd.ReachesWhile (fun c => c.holder ≠ none ∧ c.rig.machine.device.Willing)
      VideoOp.Considerate { c with holder := some (openStreams requests).run } c')
    (answer : c'.holder = some (.done a)) : a = .ok () := by
  -- Formats only ever grow, so what could be routed at first can be routed whenever the client
  -- looks.
  have routable (r : VideoRig) (more : c.rig.core.formats <+: r.core.formats) :
      Route.Routable requests r.core.formats (distinct offered) :=
    Route.routable_of_servable nonempty fun request listed =>
      (servable request listed).mono more.subset (List.Subset.refl _)
  have locked : Crowd.Step VideoOp.Considerate c
      { c with holder := some (openStreams requests).run } :=
    @Crowd.Step.lock VideoRig _ VideoOp.Considerate c (.openStreams requests) free rfl
  have assured {c'' : Crowd VideoRig} (onward : Crowd.Reaches VideoOp.Considerate
      { c with holder := some (openStreams requests).run } c'')
      (promised : c''.holder ≠ none ∧ c''.rig.machine.device.Willing) :
      ((obedience offered).given fun r => c.rig.core.formats <+: r.core.formats).holds c''.rig ∧
        c''.holder ≠ none := by
    have onward := Relation.ReflTransGen.head locked onward
    exact ⟨⟨obedience_holds (h.reaches.trans onward) promised.2, formats_grow h.reaches onward⟩,
      promised.1⟩
  have waiting := (obedient_of_reaches h).2.others
  obtain ⟨-, -, ok⟩ := Knowledge.answered_of_reachesWhile unspoilt.given
    (obeyed_closed h free closed) (openStreams_answers routable)
    (fun w hw => Knowledge.waiting_given (waiting w hw)) assured run answer
  exact ok

/-- Requests that can be served now can be had. -/
theorem honors_of_servable
    (servable : ∀ request ∈ requests, request.Servable c.rig.core.formats (distinct offered)) :
    Honors c requests where
  resolves request listed := by
    obtain ⟨routes, routed⟩ := Route.routable_of_servable (List.cons_ne_nil request [])
      (List.forall_mem_singleton.2 (servable request listed))
    obtain ⟨_, r, run, rfl, -⟩ := resolve_gives (ready_of_reaches h) routed
    exact ⟨_, r, run⟩
  opens nonempty _ closed := by
    obtain ⟨_, r, run, -⟩ := openStreams_gives (ready_of_reaches h) closed
      (Route.routable_of_servable nonempty servable)
    exact ⟨r, run⟩
  serves nonempty free closed _ _ := served_among_others h servable nonempty free closed

end Reached

/-- On a device that refuses nothing, what is advertised at any time, whatever clients are amid, can
be had from then on: every request of the list by itself, and the whole list where it is not
empty. -/
theorem advertised_opens (h : Crowd.ReachesWhile (fun c => c.rig.machine.device.Willing)
      VideoOp.Considerate (unattended capacity limit layout { offered, automatic } .sound) c)
    (accessible : PixelFormat.AllAccessible c.rig.core.formats) :
    ∃ requests r, principal.run.run c.rig = .finished (.ok requests) r ∧
      requests = principalRequests c.rig.core.formats (distinct offered) ∧
      ∀ c', Crowd.ReachesWhile (fun c => c.rig.machine.device.Willing) VideoOp.Considerate c c' →
        Honors c' requests := by
  obtain ⟨_, r, run, rfl, -⟩ := principal_gives (ready_of_reaches h)
  refine ⟨_, r, run, rfl, fun c' onward => honors_of_servable (h.trans onward) ?_⟩
  intro request listed
  exact (servable_of_principal accessible listed).mono
    (formats_grow h.reaches onward.reaches).subset (List.Subset.refl _)

/-! ## Cameras with several outputs a channel -/

/-- Depth and infrared of one image, or depth in whatever encoding. -/
def versatile : PixelFormat :=
  ⟨.z16, 1, 2,
    [⟨false, .copy, [(.depth, .z16), (.infrared, .y8)]⟩, ⟨false, .copy, [(.depth, .any)]⟩]⟩

/-- A new endpoint whose camera has two such modes, of which one leaves its width open. -/
def versatileEndpoint : Crowd VideoRig :=
  unattended 4 4 {} { offered := [⟨640, 480, 30, .z16⟩, ⟨0, 480, 30, .z16⟩] } .sound

/-- All six requests can be had. -/
theorem versatile_opens : ∃ c requests,
    Crowd.ReachesWhile (fun c => c.rig.machine.device.Willing) VideoOp.Considerate
      versatileEndpoint c ∧
    PixelFormat.AllAccessible c.rig.core.formats ∧ requests.length = 6 ∧ Honors c requests ∧
    ∃ r, (openStreams requests).run.run c.rig = .finished (.ok ()) r := by
  let register : VideoAside := .core (.registerFormat versatile)
  let c : Crowd VideoRig :=
    { versatileEndpoint with rig := register.apply versatileEndpoint.rig }
  have registered : Crowd.Step VideoOp.Considerate versatileEndpoint c :=
    @Crowd.Step.aside VideoRig _ VideoOp.Considerate versatileEndpoint register
  have reached : Crowd.ReachesWhile (fun c => c.rig.machine.device.Willing) VideoOp.Considerate
      versatileEndpoint c := .single ⟨registered, ⟨rfl, rfl⟩, ⟨rfl, rfl⟩⟩
  have accessible : PixelFormat.AllAccessible c.rig.core.formats := by decide
  obtain ⟨requests, -, -, listed, honored⟩ := advertised_opens reached accessible
  have six : requests.length = 6 := by
    rw [listed]
    decide +kernel
  have nonempty : requests ≠ [] := List.ne_nil_of_length_eq_add_one six
  exact ⟨c, requests, reached, accessible, six, honored c .refl,
    (honored c .refl).opens nonempty rfl ⟨rfl, rfl⟩⟩

/-- Two encodings of color from one unpacker. -/
def twoColors : PixelFormat :=
  ⟨.yuy2, 1, 2, [⟨false, .copy, [(.color, .yuyv), (.color, .rgb8)]⟩]⟩

/-- The second encoding is advertised, but it is not routed, and nor is the list. -/
theorem second_color_refused :
    let camera := (unattended 4 4 {} { offered := [⟨4, 2, 30, .yuy2⟩] } .sound).rig
    let register : VideoAside := .core (.registerFormat twoColors)
    let request : StreamRequest := ⟨.color, 4, 2, 30, .rgb8⟩
    let refused : EndpointError := .profileNotFound "Color 4x2 @30fps Rgb8"
    ∃ requests r r₁ r₂,
      principal.run.run (register.apply camera) = .finished (.ok requests) r ∧
      r.core.InPhase .closed ∧ request ∈ requests ∧
      (resolve [request]).run.run r = .finished (.error refused) r₁ ∧
      (openStreams requests).run.run r = .finished (.error refused) r₂ := by
  intro camera register request refused
  -- One computation asks for the list, resolves the request, and opens the whole list.
  have computed : (do
      let (answer, r) ← principal.run.outcome? (register.apply camera)
      let requests ← answer.toOption
      let (one, _) ← (resolve [request]).run.outcome? r
      let (all, _) ← (openStreams requests).run.outcome? r
      return decide ((r.core.opened = false ∧ r.core.streaming = false) ∧ request ∈ requests ∧
        one.map (fun _ => ()) = .error refused ∧ all = .error refused)) = some true := by
    decide +kernel
  simp only [Option.bind_eq_bind, Option.bind_eq_some_iff, Prod.exists, Option.pure_def,
    Option.some.injEq, decide_eq_true_eq] at computed
  obtain ⟨answer, r, asked, requests, answered, one, r₁, resolved, all, r₂, opened,
    ⟨idle, silent⟩, listed, failed, rfl⟩ := computed
  cases answer with
  | error => cases answered
  | ok =>
    cases answered
    cases one with
    | ok => cases failed
    | error =>
      cases failed
      exact ⟨requests, r, r₁, r₂, Procedure.run_of_outcome? asked, ⟨idle, silent⟩, listed,
        Procedure.run_of_outcome? resolved, Procedure.run_of_outcome? opened⟩

end VideoRig

end Sensing
