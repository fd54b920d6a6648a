import Sensing.Proofs.Video.Streams

/-!
# The operations of a video endpoint keep custody of its streams

One theorem for each operation, as for the counting of power. Most of what an operation does has
nothing to do with streams, and such steps are tolerated of every client wherever it stands
(`tolerates_holding`, `tolerates_waiting`); what is left are the steps that arm and disarm streams,
and those that change the consumer or the configuration, which find nothing armed.

Main result: `VideoRig.streams_fits`, all that clients do is within the custody of the streams.
-/

namespace Sensing

namespace VideoRig

open Work (Leads Stays)

/-! ## What has nothing to do with streams -/

theorem tolerates_holding : Tolerates (fun c => c.armsStreams = false) streams.holding := by
  have apart {k : StreamStanding} {r r' : VideoRig} (h : Apart r r') :
      streams.holding.may k r r' k :=
    ⟨streams.may_of_beside h, fun sees => streams.unaffected sees h⟩
  exact ⟨fun upkeep => apart upkeep.apart, fun r _ spares => apart (apart_call spares r)⟩

theorem tolerates_waiting : Tolerates (fun c => c.armsStreams = false) streams.waiting :=
  ⟨fun upkeep => upkeep.apart, fun r _ spares => apart_call spares r⟩

/-- Arming streams is managing modes. -/
theorem spares_of_unmanaged (c : VideoCall) (h : c.managesModes = false) :
    c.armsStreams = false := by
  cases c <;> first | rfl | cases h

/-! ## Operations with the lock -/

theorem rests_idle : streams.Rests .idle := fun _ sees => ⟨sees.1, fun _ => sees.2.2⟩

theorem rests_resting : streams.Rests .resting := fun _ => id

/-- Where an operation may end. -/
def Ends (_ : Except EndpointError Unit) (k : StreamStanding) : Prop := streams.Rests k

theorem ends_of_rests {k k' : StreamStanding} (rests : streams.Rests k)
    (a : Except EndpointError Unit) (h : k' = k) : Ends a k' := by
  rw [h]
  exact rests

variable {k : StreamStanding}

/-- An operation that is refused while the endpoint streams. -/
theorem ends_unless_streaming {view rest : Core → Except EndpointError Unit}
    {refusal : EndpointError} {f : Unit → Work VideoRig Unit}
    (refused : ∀ c, view c = if c.streaming then .error refusal else rest c)
    (hf : (f ()).Follows streams.holding Ends .idle) :
    (Work.check (fun r => view r.core) >>= f).Follows streams.holding Ends .resting := by
  have check : (Work.check fun r : VideoRig => view r.core).Follows streams.holding
      (Leads .idle .resting) .resting := by
    intro r _
    have still := streams.may_of_beside (Apart.refl r)
    -- The refusal tells whether the endpoint streams, and that tells whether anything is armed.
    cases answer : view r.core with
    | ok u =>
      have silent : streams.sees .resting r → streams.sees .idle r := by
        intro sees
        have off : r.core.streaming = false := by
          rw [refused] at answer
          split at answer
          next => cases answer
          next stopped => exact Bool.eq_false_iff.2 stopped
        exact ⟨sees.1, off, sees.2 off⟩
      have goesOn : Leads StreamStanding.idle .resting (view r.core) .idle := by
        rw [answer]
        rfl
      exact ⟨.idle, ⟨still, silent⟩, goesOn⟩
    | error e =>
      have ends : Leads StreamStanding.idle .resting (view r.core) .resting := by
        rw [answer]
        rfl
      exact ⟨.resting, ⟨still, id⟩, ends⟩
  exact check.leading (fun _ => hf) fun _ => rests_resting

/-- A step of the endpoint itself, which leaves the device alone. -/
theorem follows_own {k' : StreamStanding} {f : VideoRig → VideoRig}
    (machine : ∀ r, (f r).machine = r.machine) (layout : ∀ r, (f r).own.layout = r.own.layout)
    (move : ∀ r, k.Knows r → r.StreamMove (f r) ∧ k'.Knows (f r)) :
    (Procedure.change f).Follows streams.holding (fun _ h => h = k') k := by
  refine Procedure.follows_change fun r sees => ⟨k', ⟨⟨layout r, (move r sees.2).1⟩, ?_⟩, rfl⟩
  intro sees
  refine ⟨?_, (move r sees.2).2⟩
  rw [machine]
  exact sees.1

/-- While nothing is armed, consumer and configuration may change. -/
theorem follows_idle {f : VideoRig → VideoRig}
    (idle : ∀ r, k.Knows r → StreamStanding.idle.Knows r)
    (machine : ∀ r, (f r).machine = r.machine) (layout : ∀ r, (f r).own.layout = r.own.layout)
    (streaming : ∀ r : VideoRig, (f r).core.streaming = r.core.streaming) :
    (Procedure.change f).Follows streams.holding (fun _ h => h = .idle) k := by
  refine follows_own machine layout fun r knows => ?_
  obtain ⟨stopped, none⟩ := idle r knows
  rw [← machine] at none
  exact ⟨.silent none, (streaming r).trans stopped, none⟩

/-- Opening finds nothing armed and arms nothing. -/
theorem openStreams_keeps (requests : List StreamRequest) :
    (openStreams requests).Follows streams.holding Ends .resting := by
  have tolerates := tolerates_holding
  have configure (routes : List Route) : (Procedure.change fun r : VideoRig =>
      { r with own := { r.own with configuration := routes },
               core := { r.core with opened := true } }).Follows streams.holding
        (fun _ k => k = .idle) .idle :=
    follows_idle (fun _ => id) (fun _ => rfl) (fun _ => rfl) fun _ => rfl
  refine ends_unless_streaming (fun _ => rfl : ∀ c, Core.checkOpen title c = _) ?_
  refine Work.follows_after tolerates.acquire (fun _ => rests_idle) fun _ => ?_
  refine Work.follows_backing_out (fun _ => tolerates.release) ?_
  refine Work.follows_after (tolerates.resolve spares_of_unmanaged requests)
    (fun _ => rests_idle) fun routes => ?_
  refine Work.follows_after ((tolerates.permits _).commitAll (fun _ => ⟨rfl, rfl⟩) [] _)
    (fun _ => rests_idle) fun _ => ?_
  refine Work.follows_then tolerates.report fun _ => ?_
  refine Work.follows_ofProcedure (Procedure.Follows.mono ?_ (configure routes))
  exact fun _ _ => ends_of_rests rests_idle _

/-- So does closing. -/
theorem close_keeps : close.Follows streams.holding Ends .resting := by
  have tolerates := tolerates_holding
  have forget : (Procedure.change fun r : VideoRig =>
      { r with own := { r.own with configuration := [] },
               core := { r.core with opened := false } }).Follows streams.holding
        (fun _ k => k = .idle) .idle :=
    follows_idle (fun _ => id) (fun _ => rfl) (fun _ => rfl) fun _ => rfl
  refine ends_unless_streaming (fun _ => rfl : ∀ c, Core.checkClose title c = _) ?_
  refine Work.follows_looking fun routes => ?_
  refine Work.follows_then ((tolerates.permits _).closeAll (fun _ => rfl) _) fun complaint => ?_
  refine Work.follows_then forget fun _ => ?_
  refine Work.follows_then tolerates.release fun _ => ?_
  refine Work.follows_then tolerates.report fun _ => ?_
  cases complaint with
  | none => exact rests_idle
  | some cause => exact rests_idle

/-- Arming the streams that were made, or failing to. -/
theorem follows_streamOn (made : List (NativeMode × VideoSink)) :
    (Rig.request (VideoCall.streamOn made) : Work VideoRig _).Follows streams.holding
      (Leads .awake (.primed made)) (.primed made) := by
  refine Rig.follows_request fun r sees => ?_
  obtain ⟨prompt, -, none, consumer, heq⟩ := sees
  have plan := Machine.call_plan r.machine (.streamOn made)
  -- Arming either takes effect in full or none at all.
  rcases Machine.call_of_early (prompt.streamOn made) (fun h => nomatch h) with
    ⟨_, ok, granted⟩ | ⟨cause, failed, same⟩
  · replace ok : (r.call (.streamOn made)).1 = .ok () := ok
    have armed : (r.call (.streamOn made)).2.machine.device.armed = made := by
      rw [Rig.call_machine, granted]
      show r.machine.device.armed ++ made = made
      rw [none, List.nil_append]
    have pace : (r.call (.streamOn made)).2.machine.device.pace = ([], 0) := by
      rw [Rig.call_machine, granted]
      rfl
    refine ⟨.awake, ⟨⟨rfl, .started none (heq ▸ armed) pace consumer⟩, fun sees => ⟨?_, trivial⟩⟩,
      ?_⟩
    · rw [Rig.call_machine, plan]
      exact sees.1
    · rw [ok]
      rfl
  · -- The device is as before, so the consumer can be dismissed again.
    replace failed : (r.call (.streamOn made)).1 = .error cause := failed
    have apart : Apart r (r.call (.streamOn made)).2 :=
      ⟨rfl, rfl, rfl, rfl, plan, congrArg VideoDevice.pace same,
        .inl (congrArg VideoDevice.armed same)⟩
    have still := streams.may_of_beside apart
    refine ⟨.primed made, ⟨still, fun sees => streams.unaffected sees apart⟩, ?_⟩
    rw [failed]
    rfl

/-- Making the streams of the configuration, which nobody changes before they are armed. -/
theorem follows_making :
    (Work.look fun r : VideoRig => streamsFor r.own.layout r.own.configuration).Follows
      streams.holding (fun a k => match a with
        | .ok made => k = .primed made
        | .error _ => False) .engaged := by
  intro r _
  have still := streams.may_of_beside (Apart.refl r)
  refine ⟨.primed (streamsFor r.own.layout r.own.configuration), ⟨still, fun sees => ?_⟩, rfl⟩
  obtain ⟨prompt, stopped, none, consumer⟩ := sees
  exact ⟨prompt, stopped, none, consumer, rfl⟩

theorem follows_dismiss (idle : ∀ r, k.Knows r → StreamStanding.idle.Knows r) :
    (Procedure.change (Rig.mapCore (·.dismiss)) : Procedure VideoRig Unit).Follows streams.holding
      (fun _ h => h = .idle) k :=
  follows_idle idle (fun _ => rfl) (fun _ => rfl) fun r => (Core.calm_dismiss r.core).streaming

/-- Disarming, which a prompt device does, whatever it answers. -/
theorem follows_streamOff :
    (Rig.attempt VideoCall.streamOff : Procedure VideoRig _).Follows streams.holding
      (fun _ k => k = .silenced) .resting := by
  refine Rig.follows_attempt fun r sees => ?_
  have device := Machine.call_of_late sees.1.streamOff
  have none : (r.call .streamOff).2.machine.device.armed = [] := by
    rw [Rig.call_machine, device]
    rfl
  refine ⟨.silenced, ⟨⟨rfl, .silent none⟩, fun sees => ⟨?_, none⟩⟩, rfl⟩
  rw [Rig.call_machine, Machine.call_plan]
  exact sees.1

/-- Arming the streams that were made, after which the consumer is let go of again if that fails. -/
theorem follows_arming (made : List (NativeMode × VideoSink)) :
    (Work.onFailure (.change (Rig.mapCore (·.dismiss)))
      (Rig.request (VideoCall.streamOn made)) : Work VideoRig _).Follows streams.holding
      (Leads .awake .idle) (.primed made) := by
  exact (follows_streamOn made).clearing (follows_dismiss fun _ knows => ⟨knows.1, knows.2.1⟩)

/-- The consumer is there before the streams are, and the streams are made of the configuration. -/
theorem start_keeps (policy : Nat → Handling) :
    (start { policy }).Follows streams.holding Ends .resting := by
  have tolerates := tolerates_holding
  have engage : (Procedure.change (Rig.mapCore (·.engage { policy })) :
      Procedure VideoRig Unit).Follows streams.holding (fun _ k => k = .engaged) .idle := by
    refine follows_own (fun _ => rfl) (fun _ => rfl) fun r knows => ⟨.silent knows.2, ?_⟩
    exact ⟨(Core.calm_engage r.core _).streaming.trans knows.1, knows.2, rfl⟩
  have awaken : (Procedure.change fun r : VideoRig =>
      { r with core := { r.core with streaming := true } }).Follows streams.holding
        (fun _ k => k = .resting) .awake :=
    follows_own (fun _ => rfl) (fun _ => rfl) fun _ _ =>
      ⟨.kept rfl rfl rfl id, fun h => nomatch h⟩
  refine ends_unless_streaming (fun _ => rfl : ∀ c, Core.checkStart title c = _) ?_
  refine Work.follows_after tolerates.acquire (fun _ => rests_idle) fun _ => ?_
  refine Work.follows_backing_out (fun _ => tolerates.release) ?_
  refine Work.follows_then engage fun _ => ?_
  refine Work.follows_then (tolerates.change warnOfLayout_upkeep) fun _ => ?_
  refine Work.Follows.bind follows_making ?_ fun _ _ hk => hk.elim
  intro made k hk
  obtain rfl : k = .primed made := hk
  refine (follows_arming made).leading (fun _ => ?_) fun _ => rests_idle
  refine Work.follows_then awaken fun _ => ?_
  refine Work.follows_ofProcedure (Procedure.Follows.mono ?_ tolerates.report)
  exact fun _ _ => ends_of_rests rests_resting _

/-- The streams are disarmed before the consumer is dismissed. -/
theorem stop_keeps : stop.Follows streams.holding Ends .resting := by
  have tolerates := tolerates_holding
  have halt : (Procedure.change fun r : VideoRig =>
      { r with core := { r.core with streaming := false } }).Follows streams.holding
        (fun _ k => k = .idle) .silenced :=
    follows_own (fun _ => rfl) (fun _ => rfl) fun _ none => ⟨.silent none, rfl, none⟩
  refine Work.follows_looking fun streaming => ?_
  cases streaming with
  | false => exact rests_resting
  | true =>
    refine Work.follows_then follows_streamOff fun result => ?_
    refine Work.follows_then halt fun _ => ?_
    refine Work.follows_then (follows_dismiss fun _ => id) fun _ => ?_
    refine Work.follows_then Rig.follows_flush fun _ => ?_
    refine Work.follows_then tolerates.release fun _ => ?_
    refine Work.follows_then tolerates.report fun _ => ?_
    cases result with
    | ok _ => exact rests_idle
    | error cause => exact rests_idle

/-- Seeing the endpoint off. -/
theorem retire_keeps : retire.Follows streams.holding (fun _ k => streams.Rests k) .resting :=
  tolerates_holding.retire
    (follows_own (fun _ => rfl) (fun _ => rfl) fun _ knows => ⟨.kept rfl rfl rfl id, knows⟩)
    stop_keeps fun rests => Custody.follows_of_rests rests close_keeps

/-! ## Everything that clients do -/

/-- Whoever does not hold the lock leaves the streams alone, or has no streams to leave. -/
theorem streams_fits : streams.Fits VideoOp.SparesStreams where
  locking := by
    intro op transition
    cases op with
    | openStreams requests => exact openStreams_keeps requests
    | close => exact close_keeps
    | start policy => exact start_keeps policy
    | stop => exact stop_keeps
    | modes | principal | resolve | flush | control | powered => cases transition
  free := by
    intro op transition admitted
    exact Work.Follows.mono (fun _ _ _ => trivial)
      (tolerates_waiting.free spares_of_unmanaged transition admitted)
  take := by
    intro g r gate
    cases gate
    exact (acquire_upkeep r).apart
  drop := by
    intro g r gate
    cases gate
    exact (release_upkeep r).apart
  aside := by
    intro k r x sees
    have tame := aside_tame x r
    refine ⟨?_, tame.knows sees.2⟩
    show Prompt (x.apply r).machine.plan
    rw [tame.plan]
    exact sees.1

end VideoRig

end Sensing
