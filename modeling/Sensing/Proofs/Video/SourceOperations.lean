import Sensing.Proofs.Video.Power
import Sensing.Proofs.Video.Sources

/-!
# The operations of a video endpoint keep track of sources

Two operations make something of the registered formats: opening configures what it has resolved,
and starting arms lanes for what it has found configured. Between the look and the deed others may
register formats, but none that were there are gone (`VideoRig.sourcing`). Whatever else an
operation does leaves configuration and lanes alone, or drops them.

Main result: `VideoRig.sourced_of_reaches`, in every crowd that can be reached all that is
configured and all lanes that are armed are of sources that a resolution over the registered formats
can have, for all faults and whatever an application does with the powered device but arm lanes.
-/

namespace Sensing

namespace VideoRig

variable {r r' : VideoRig} {known : List PixelFormat}

/-- The sources of a video endpoint, to a client who knows of formats that are registered. -/
def sourcing : Custody VideoRig (List PixelFormat) where
  sees known r := r.Sourced ∧ known <+: r.core.formats
  rest := []
  may r r' := r'.core.formats = r.core.formats
  beside r r' := r'.core.formats = r.core.formats ∧ (r.Sourced → r'.Sourced)
  beside_refl _ := ⟨rfl, id⟩
  may_of_beside h := h.1
  unaffected sees h := ⟨h.2 sees.1, by rw [h.1]; exact sees.2⟩

/-- To know fewer formats is to know less. -/
theorem rests_sourcing (known : List PixelFormat) : sourcing.Rests known :=
  fun _ sees => ⟨sees.1, List.nil_prefix⟩

/-- Upkeep knows nothing of formats. -/
theorem Upkeep.besideSources (h : r.Upkeep r') : sourcing.beside r r' := by
  have formats : r'.core.formats = r.core.formats := by rw [h.core]
  refine ⟨formats, fun sourced => sourced.frame (formats ▸ List.prefix_rfl) ?_ ?_⟩
  · rw [h.own]
  · rw [h.device]

/-- A call that arms no lanes leaves all sources alone. -/
theorem besideSources_call {c : VideoCall} (taps : c.ArmsTaps) (r : VideoRig) :
    sourcing.beside r (r.call c).2 :=
  ⟨rfl, fun sourced => sourced.call (fits_of_armsTaps taps _)⟩

theorem sourcing_tolerates : Tolerates VideoCall.ArmsTaps sourcing.holding := by
  have passes {known : List PixelFormat} {r r' : VideoRig} (h : sourcing.beside r r') :
      sourcing.holding.may known r r' known :=
    ⟨h.1, fun sees => sourcing.unaffected sees h⟩
  exact ⟨fun upkeep => passes upkeep.besideSources,
    fun r _ taps => passes (besideSources_call taps r)⟩

theorem sourcing_tolerates_bystanders : Tolerates VideoCall.ArmsTaps sourcing.waiting :=
  ⟨fun upkeep => upkeep.besideSources, fun r _ taps => besideSources_call taps r⟩

theorem armsTaps_of_committing (m : NativeMode) :
    (VideoCall.commit m).ArmsTaps ∧ (VideoCall.close m).ArmsTaps :=
  ⟨fun _ arms => (nomatch arms), fun _ arms => (nomatch arms)⟩

/-! ## Looks and deeds -/

/-- What a client finds out about the registered formats is true of more of them. -/
theorem follows_noting {α : Type} {view : VideoRig → α} {P : α → List PixelFormat → Prop}
    (finds : ∀ r : VideoRig, r.Sourced → P (view r) r.core.formats) :
    (Procedure.look view).Follows sourcing.holding P known :=
  fun r sees => ⟨r.core.formats, ⟨rfl, fun sees => ⟨sees.1, List.prefix_rfl⟩⟩, finds r sees.1⟩

/-- A step that leaves the registered formats as they are. -/
theorem follows_sourced {f : VideoRig → VideoRig}
    (formats : ∀ r : VideoRig, (f r).core.formats = r.core.formats)
    (keeps : ∀ r : VideoRig, r.Sourced → known <+: r.core.formats → (f r).Sourced) :
    (Procedure.change f).Follows sourcing.holding (fun _ k => k = known) known := by
  intro r _
  refine ⟨known, ⟨formats r, fun sees => ⟨keeps r sees.1 sees.2, ?_⟩⟩, rfl⟩
  rw [formats]
  exact sees.2

/-- A step that has nothing to do with sources. -/
theorem follows_unconcerned {f : VideoRig → VideoRig}
    (formats : ∀ r : VideoRig, (f r).core.formats = r.core.formats)
    (own : ∀ r : VideoRig, (f r).own.configuration = r.own.configuration)
    (machine : ∀ r : VideoRig, (f r).machine = r.machine) :
    (Procedure.change f).Follows sourcing.holding (fun _ k => k = known) known :=
  follows_sourced formats fun r sourced _ => sourced.frame (formats r ▸ List.prefix_rfl)
    (own r) (by rw [machine])

theorem follows_dismissing :
    (Procedure.change (Rig.mapCore (·.dismiss)) : Procedure VideoRig Unit).Follows sourcing.holding
      (fun _ k => k = known) known := by
  refine follows_unconcerned (fun r => ?_) (fun _ => rfl) fun _ => rfl
  show r.core.dismiss.formats = r.core.formats
  unfold Core.dismiss
  split <;> rfl

/-- What is resolved is resolved over registered formats. -/
theorem resolve_sources (requests : List StreamRequest) :
    (resolve requests).Follows sourcing.holding
      (fun a k => ∀ routes, a = .ok routes → Source.Assorted k (routes.map (·.source))) known := by
  refine Work.follows_after (sourcing_tolerates.modes VideoCall.armsTaps_of_unmanaged)
    (fun _ _ h => nomatch h) fun modes => ?_
  exact follows_noting fun r _ routes h => Source.assorted_of_resolve h

/-! ## Operations with the lock -/

/-- An operation may end wherever it stands. -/
abbrev Ended (_ : Except EndpointError Unit) (_ : List PixelFormat) : Prop := True

/-- An operation begins with its check. -/
theorem ends_checked {view : VideoRig → Except EndpointError Unit}
    {f : Unit → Work VideoRig Unit} (hf : (f ()).Follows sourcing.holding Ended known) :
    (Work.check view >>= f).Follows sourcing.holding Ended known := by
  have check : (Work.check view).Follows sourcing.holding (Work.Leads known known) known :=
    Work.follows_check fun r _ => by cases view r <;> rfl
  exact check.leading (fun _ => hf) fun _ => trivial

/-- What is configured was resolved over formats that are still registered. -/
theorem openStreams_sources (requests : List StreamRequest) :
    (openStreams requests).Follows sourcing.holding Ended known := by
  have tolerates := sourcing_tolerates
  have configure {known : List PixelFormat} {routes : List Route}
      (assorted : Source.Assorted known (routes.map (·.source))) :
      (Procedure.change fun r : VideoRig =>
        { r with own := { r.own with configuration := routes },
                 core := { r.core with opened := true } }).Follows sourcing.holding
          (fun _ k => k = known) known :=
    follows_sourced (fun _ => rfl) fun r sourced some => sourced.configured rfl (assorted.mono some)
  refine ends_checked (Work.follows_after tolerates.acquire (fun _ => trivial) fun _ => ?_)
  refine Work.follows_backing_out (fun _ => tolerates.release) ?_
  refine Work.Follows.bind (resolve_sources requests) (fun routes known found => ?_)
    fun _ _ _ => trivial
  refine Work.follows_after ((tolerates.permits _).commitAll armsTaps_of_committing [] _)
    (fun _ => trivial) fun _ => ?_
  refine Work.follows_then tolerates.report fun _ => ?_
  exact Work.follows_ofProcedure
    (Procedure.Follows.mono (fun _ _ _ => trivial) (configure (found routes rfl)))

/-- Closing drops the configuration. -/
theorem close_sources : close.Follows sourcing.holding Ended known := by
  have tolerates := sourcing_tolerates
  have forget : (Procedure.change fun r : VideoRig =>
      { r with own := { r.own with configuration := [] },
               core := { r.core with opened := false } }).Follows sourcing.holding
        (fun _ k => k = known) known :=
    follows_sourced (fun _ => rfl) fun r sourced _ => sourced.configured rfl Source.assorted_nil
  refine ends_checked (Work.follows_looking fun routes => ?_)
  refine Work.follows_then
    ((tolerates.permits _).closeAll (fun m => (armsTaps_of_committing m).2) _) fun complaint => ?_
  refine Work.follows_then forget fun _ => ?_
  refine Work.follows_then tolerates.release fun _ => ?_
  refine Work.follows_then tolerates.report fun _ => ?_
  cases complaint with
  | none => exact Work.follows_pure trivial
  | some cause => exact Work.follows_throw trivial

/-- The lanes to be armed are made from what is configured. -/
theorem start_sources (policy : Nat → Handling) :
    (start { policy }).Follows sourcing.holding Ended known := by
  have tolerates := sourcing_tolerates
  have engage : (Procedure.change (Rig.mapCore (·.engage { policy })) :
      Procedure VideoRig Unit).Follows sourcing.holding (fun _ k => k = known) known := by
    refine follows_unconcerned (fun r => ?_) (fun _ => rfl) fun _ => rfl
    show r.core.dismiss.formats = r.core.formats
    unfold Core.dismiss
    split <;> rfl
  have make {known : List PixelFormat} : (Procedure.look fun r : VideoRig =>
      streamsFor r.own.layout r.own.configuration).Follows sourcing.holding
        (fun made k => ∀ s ∈ made, s.2.Fits k s.1) known :=
    follows_noting fun r sourced => fits_streamsFor sourced.configuration r.own.layout
  have arm {known : List PixelFormat} {made : List (NativeMode × VideoSink)}
      (fits : ∀ s ∈ made, s.2.Fits known s.1) :
      (Work.onFailure (.change (Rig.mapCore (·.dismiss)))
        (Rig.request (VideoCall.streamOn made)) : Work VideoRig _).Follows sourcing.holding
          (Work.Leads known known) known := by
    -- Others may have registered formats since the lanes were made, so what fits then fits now.
    refine Work.Follows.clearing (Rig.follows_request fun r sees => ?_) follows_dismissing
    refine ⟨known, ⟨rfl, fun sees => ⟨sees.1.call fun streams arms s hs => ?_, sees.2⟩⟩, ?_⟩
    · cases arms
      exact VideoSink.Fits.mono (fits s hs) sees.2
    · cases (r.call (VideoCall.streamOn made)).1 <;> rfl
  have awaken {known : List PixelFormat} : (Procedure.change fun r : VideoRig =>
      { r with core := { r.core with streaming := true } }).Follows sourcing.holding
        (fun _ k => k = known) known :=
    follows_unconcerned (fun _ => rfl) (fun _ => rfl) fun _ => rfl
  refine ends_checked (Work.follows_after tolerates.acquire (fun _ => trivial) fun _ => ?_)
  refine Work.follows_backing_out (fun _ => tolerates.release) ?_
  refine Work.follows_then engage fun _ => ?_
  refine Work.follows_then (tolerates.change warnOfLayout_upkeep) fun _ => ?_
  refine Work.Follows.bind (Work.follows_ofProcedure (Q := fun a k => match a with
    | .ok made => ∀ s ∈ made, s.2.Fits k s.1
    | .error _ => True) make) (fun made known fits => ?_) fun _ _ _ => trivial
  refine (arm fits).leading (fun _ => ?_) fun _ => trivial
  refine Work.follows_then awaken fun _ => ?_
  exact Work.follows_ofProcedure (Procedure.Follows.mono (fun _ _ _ => trivial) tolerates.report)

/-- Stopping makes no lanes. -/
theorem stop_sources : stop.Follows sourcing.holding Ended known := by
  have tolerates := sourcing_tolerates
  have halt : (Procedure.change fun r : VideoRig =>
      { r with core := { r.core with streaming := false } }).Follows sourcing.holding
        (fun _ k => k = known) known :=
    follows_unconcerned (fun _ => rfl) (fun _ => rfl) fun _ => rfl
  refine Work.follows_looking fun streaming => ?_
  cases streaming with
  | false => exact Work.follows_pure trivial
  | true =>
    refine Work.follows_then (tolerates.attempt fun _ h => nomatch h) fun result => ?_
    refine Work.follows_then halt fun _ => ?_
    refine Work.follows_then follows_dismissing fun _ => ?_
    refine Work.follows_then Rig.follows_flush fun _ => ?_
    refine Work.follows_then tolerates.release fun _ => ?_
    refine Work.follows_then tolerates.report fun _ => ?_
    cases result with
    | ok _ => exact Work.follows_pure trivial
    | error cause => exact Work.follows_throw trivial

/-! ## Everything that clients do -/

theorem sourcing_fits : sourcing.Fits VideoOp.ArmsTaps where
  locking := by
    intro op transition
    refine Work.Follows.mono (P := Ended) (fun _ known _ => rests_sourcing known) ?_
    cases op with
    | openStreams requests => exact openStreams_sources requests
    | close => exact close_sources
    | start policy => exact start_sources policy
    | stop => exact stop_sources
    | modes | principal | resolve | flush | control | powered => cases transition
  free := by
    intro op transition admitted
    exact Work.Follows.mono (fun _ _ _ => trivial)
      (sourcing_tolerates_bystanders.free VideoCall.armsTaps_of_unmanaged transition admitted)
  take := by
    intro g r gate
    cases gate
    exact (acquire_upkeep r).besideSources
  drop := by
    intro g r gate
    cases gate
    exact (release_upkeep r).besideSources
  aside := by
    intro known r x sees
    obtain ⟨sourced, more⟩ := sees.1.aside x
    exact ⟨sourced, sees.2.trans more⟩

variable {capacity limit : Nat} {layout : ClockLayout} {device : VideoDevice}
  {plan : FaultPlan VideoCall} {c c' : Crowd VideoRig}

theorem sourcing_kept_of_reaches (fresh : device.armed = [])
    (h : Crowd.Reaches VideoOp.ArmsTaps (unattended capacity limit layout device plan) c) :
    sourcing.Kept c := by
  have initially : (unattended capacity limit layout device plan).rig.Sourced := by
    refine ⟨Source.assorted_nil, ?_⟩
    show ∀ s ∈ device.armed, _
    rw [fresh]
    exact fun s hs => nomatch hs
  exact Custody.kept_of_reaches sourcing_fits
    (Custody.kept_of_rest ⟨initially, List.nil_prefix⟩ rfl rfl) h

/-- At all times what is configured and what is armed comes from registered formats. -/
theorem sourced_of_reaches (fresh : device.armed = [])
    (h : Crowd.Reaches VideoOp.ArmsTaps (unattended capacity limit layout device plan) c) :
    c.rig.Sourced := by
  obtain ⟨_, sees, -⟩ := (sourcing_kept_of_reaches fresh h).holder
  exact sees.1

/-- Formats are added to those registered, and none is ever taken away. -/
theorem formats_of_reaches (kept : sourcing.Kept c) (h : Crowd.Reaches VideoOp.ArmsTaps c c') :
    sourcing.Kept c' ∧ c.rig.core.formats <+: c'.rig.core.formats := by
  induction h with
  | refl => exact ⟨kept, List.prefix_rfl⟩
  | tail _ step ih =>
    obtain ⟨kept, before⟩ := ih
    rcases step.moves_or_aside with moves | ⟨x, rfl⟩
    · obtain ⟨kept, same⟩ := kept.moves sourcing_fits moves
      exact ⟨kept, before.trans (same ▸ List.prefix_rfl)⟩
    · obtain ⟨_, sees, -⟩ := kept.holder
      exact ⟨kept.aside sourcing_fits x, before.trans (sees.1.aside x).2⟩

/-- So whatever is configured at some later time for the place of a format is of that format. -/
theorem format_of_configured {s : Source} {p : PixelFormat} (fresh : device.armed = [])
    (before : Crowd.Reaches VideoOp.ArmsTaps (unattended capacity limit layout device plan) c)
    (onward : Crowd.Reaches VideoOp.ArmsTaps c c')
    (configured : s ∈ c'.rig.own.configuration.map (·.source))
    (registered : c.rig.core.formats[s.formatIndex]? = some p) : s.format = p := by
  obtain ⟨-, rest, formats⟩ := formats_of_reaches (sourcing_kept_of_reaches fresh before) onward
  obtain ⟨_, listed⟩ := (sourced_of_reaches fresh (before.trans onward)).configuration.listed
  have format := (listed s configured).format
  obtain ⟨inside, -⟩ := List.getElem?_eq_some_iff.1 registered
  rw [← formats, List.getElem?_append_left inside, registered] at format
  exact (Option.some.inj format).symm

end VideoRig

end Sensing
