import Sensing.Proofs.Video.Obedience

/-!
# Operations that a device obeys

Opening, closing, starting and stopping lead from one usage that mirrors the device to another, and
no call that they make is turned down: what is committed was enumerated, and what is armed or closed
was committed. So they fail only where their caller is to blame, and what an opening or a start does
on failure is never called for.

Main results: `VideoRig.serves_obeyed` for the operations with the lock, and `VideoRig.unspoilt` for
what clients do without it.
-/

namespace Sensing

namespace VideoRig

variable {r : VideoRig} {offered : List NativeMode} {u u' : Usage}

/-! ## Single steps of the client with the lock -/

/-- A call that the device grants by what is in use. -/
theorem attempts {c : VideoCall} {a : c.Reply}
    (grants : ∀ {r : VideoRig}, u.Obeyed offered r → r.machine.device.Willing →
      (c.setsPower = false → r.machine.device.power = .d0) →
      VideoDevice.perform c r.machine.device = (.ok a, r.machine.device.granted c))
    (offers : ∀ d : VideoDevice, (d.granted c).offered = d.offered)
    (describes : ∀ {r : VideoRig}, u.Describes r →
      (r.call c).2.machine.device = r.machine.device.granted c → u'.Describes (r.call c).2) :
    (Rig.attempt c : Procedure VideoRig _).Follows (obedience offered).holding
      (Sure fun reply k => reply = .ok a ∧ k = u') (some u) := by
  refine Knowledge.turns_attempt fun r holds known after => ?_
  have granted := grants known holds.1 fun needs => on_of_call needs after
  obtain ⟨answer, device⟩ := Machine.call_of_spared (m := r.machine) (known.plan ▸ fun _ => rfl)
    granted
  refine ⟨u', ⟨?_, ?_, known.cached, describes known.describes device, ?_⟩, answer, rfl⟩
  · exact (Machine.call_plan r.machine c).trans known.plan
  · rw [Rig.call_machine, device, offers, known.offers]
  · intro call made
    rw [Rig.call_machine, Machine.call_journal] at made
    rcases List.mem_cons.1 made with rfl | before
    · exact VideoCall.heeded_of_grants granted
    · exact known.heeded call before

/-- The same where its failure would be the failure of the whole. -/
theorem requests {c : VideoCall} {a : c.Reply}
    (hc : (Rig.attempt c : Procedure VideoRig _).Follows (obedience offered).holding
      (Sure fun reply k => reply = .ok a ∧ k = u') (some u)) :
    (Rig.request c : Work VideoRig _).Follows (obedience offered).holding
      (Sure fun reply k => k = u' ∧ reply = .ok a) (some u) := by
  refine (obedience offered).holding_guides.bind hc ?_
  rintro _ _ ⟨rfl, rfl⟩
  exact Procedure.follows_pure (sure_some ⟨rfl, rfl⟩)

/-- A step of the endpoint itself. -/
theorem turns_own {f : VideoRig → VideoRig} (machine : ∀ r, (f r).machine = r.machine)
    (modes : ∀ r, (f r).core.modes = r.core.modes)
    (turn : ∀ r : VideoRig, r.core.InPhase u.phase → (f r).core.InPhase u'.phase)
    (configuration : ∀ r : VideoRig, u.Describes r → (f r).own.configuration = u'.configuration)
    (committed : u'.committed = u.committed) (armed : u'.armed = u.armed) :
    (Procedure.change f).Follows (obedience offered).holding (Sure fun _ k => k = u')
      (some u) := by
  refine Knowledge.turns_change fun r _ known => ?_
  have plan := known.plan
  have offers := known.offers
  have cached := known.cached
  have heeded := known.heeded
  have inUse := known.describes
  rw [← machine] at plan offers heeded
  rw [← modes] at cached
  refine ⟨plan, offers, cached, ⟨turn r inUse.phase, configuration r inUse, ?_, ?_⟩, heeded⟩
  · rw [machine, committed]
    exact inUse.committed
  · rw [machine, armed]
    exact inUse.armed

/-- A step that is about neither the modes nor the phase. -/
theorem calms {f : Core → Core} (calm : ∀ c : Core, c.Calm (f c))
    (modes : ∀ c, (f c).modes = c.modes) :
    (Procedure.change (Rig.mapCore f) : Procedure VideoRig Unit).Follows
      (obedience offered).holding (Sure fun _ k => k = u) (some u) :=
  turns_own (fun _ => rfl) (fun r => modes r.core) (fun r hp => (calm r.core).inPhase hp)
    (fun _ known => known.configuration) rfl rfl

/-- A committed mode is closed. -/
theorem closes {m : NativeMode} (committed : m ∈ u.committed) :
    (Rig.attempt (VideoCall.close m) : Procedure VideoRig _).Follows (obedience offered).holding
      (Sure fun reply k => reply = .ok () ∧ k = { u with committed := u.committed.erase m })
      (some u) := by
  refine attempts (fun known _ _ => ?_) (fun _ => rfl) fun known device => ?_
  · exact VideoDevice.perform_close (known.describes.committed.symm ▸ committed)
  · exact describes_of_granted known device (congrArg (·.erase m) known.committed) known.armed
      rfl rfl

/-- An offered mode is committed. -/
theorem commits {m : NativeMode} (isOffered : m ∈ offered) {ms : List NativeMode} :
    (Rig.request (VideoCall.commit m) : Work VideoRig _).Follows (obedience offered).holding
      (Sure fun reply k => k = .committing (ms ++ [m]) ∧ reply = .ok ())
      (some (.committing ms)) := by
  refine requests (attempts (fun known willing on => ?_) (fun _ => rfl) fun known device => ?_)
  · exact VideoDevice.perform_commit (on rfl) willing.commit (known.offers.symm ▸ isOffered)
  · exact describes_of_granted known device (congrArg (· ++ [m]) known.committed) known.armed
      rfl rfl

/-! ## Committing and closing -/

/-- A mode that was enumerated is never turned down. -/
theorem commitAll_obeys (done ms : List NativeMode) (among : ∀ m ∈ ms, m ∈ offered)
    (before : List NativeMode) : (commitAll done ms).Follows (obedience offered).holding
      (Sure fun a k => k = .committing (before ++ ms) ∧ a = .ok ())
      (some (.committing before)) := by
  have guides := (obedience offered).holding_guides
  induction ms generalizing done before with
  | nil =>
    rw [List.append_nil]
    exact Work.follows_pure (sure_some ⟨rfl, rfl⟩)
  | cons m ms ih =>
    obtain ⟨isOffered, among⟩ := List.forall_mem_cons.1 among
    have commit : (Work.onFailure (rollBack done) (Rig.request (VideoCall.commit m)) :
        Work VideoRig _).Follows (obedience offered).holding
          (Sure fun a k => k = .committing (before ++ [m]) ∧ a = .ok ())
          (some (.committing before)) :=
      guides.onFailure (commits isOffered) (fun _ _ h => h) fun e k h => nomatch h.2
    have rest := ih (m :: done) among (before ++ [m])
    rw [List.append_assoc] at rest
    exact guides.onwardWork commit (fun _ _ => rest) fun e h => nomatch h

/-- Nor is the closing of one that was committed, so there is no complaint. -/
theorem closeAll_obeys {routes : List Route} (ms : List NativeMode) :
    (closeAll ms).Follows (obedience offered).holding
      (Sure fun complaint k => k = .closing routes [] ∧ complaint = none)
      (some (.closing routes ms)) := by
  induction ms with
  | nil => exact Procedure.follows_pure (sure_some ⟨rfl, rfl⟩)
  | cons m ms ih =>
    unfold closeAll
    refine (obedience offered).holding_guides.bind
      (closes (u := .closing routes (m :: ms)) List.mem_cons_self) ?_
    rintro _ _ ⟨rfl, rfl⟩
    rw [show (Usage.closing routes (m :: ms)).committed.erase m = ms from List.erase_cons_head ..]
    exact ih

/-! ## Operations with the lock -/

/-- Where an operation may end, and how. -/
abbrev Concludes (a : Except EndpointError Unit) (u : Usage) : Prop := u.Mirrored ∧ Earned a

/-- An operation that begins with its check goes on where it is admitted. -/
theorem obeys_guarded {t : Transition} {view : Core → Except EndpointError Unit}
    {f : Unit → Work VideoRig Unit} (mirrored : u.Mirrored)
    (guards : ∀ {c : Core} {p : Phase}, c.InPhase p → p.Guards t (view c))
    (hf : u.phase.refuses t = false →
      (f ()).Follows (obedience offered).holding (Sure Concludes) (some u)) :
    (Work.check (fun r => view r.core) >>= f).Follows (obedience offered).holding (Sure Concludes)
      (some u) :=
  Knowledge.turns_guarded guards (fun _ known => known.describes.phase)
    (fun _ _ caller => ⟨mirrored, earned_error caller⟩) hf

/-- What takes a reference and gives it back where it fails. -/
theorem obeys_keeping {body : Work VideoRig Unit}
    (hbody : body.Follows (obedience offered).holding (Sure Concludes) (some u)) :
    (do
      Work.step acquire
      Work.onFailure (.change release) body).Follows (obedience offered).holding (Sure Concludes)
        (some u) := by
  have guides := (obedience offered).holding_guides
  refine guides.onwardWork (acquires guides) (fun _ _ => ?_) fun e h => nomatch h
  refine guides.onFailure hbody (fun _ _ h => h) fun e k ends => ?_
  exact Procedure.Follows.mono (fun _ _ hk => hk.mono fun _ _ same => same ▸ ends) (releases guides)

/-- The modes that are routed to are those of the routes' sources. -/
theorem routedModes_offered {routes : List Route}
    (among : ∀ route ∈ routes, route.source.mode ∈ offered) :
    ∀ m ∈ routedModes routes, m ∈ offered := by
  intro m hm
  obtain ⟨route, hroute, rfl⟩ := List.mem_map.1 (mem_distinct.1 hm)
  exact among route hroute

/-- What was resolved over the modes that a device offers is routed to modes that it offers. -/
theorem routedModes_of_resolve {requests : List StreamRequest} {formats : List PixelFormat}
    {routes : List Route}
    (routed : Route.resolve requests formats (distinct offered) = .ok routes) :
    ∀ m ∈ routedModes routes, m ∈ offered :=
  routedModes_offered fun route hroute => mem_distinct.1 (Route.resolve_modes routed route hroute)

/-- Offered modes are committed, and what was routed to them is configured. -/
theorem configures {message : String} (routes : List Route)
    (among : ∀ m ∈ routedModes routes, m ∈ offered) :
    (do
      commitAll [] (routedModes routes)
      Work.change (Rig.note .info message)
      Work.change fun r : VideoRig =>
        { r with own := { r.own with configuration := routes },
                 core := { r.core with opened := true } } :
        Work VideoRig Unit).Follows (obedience offered).holding
      (Sure fun a k => k = .opened routes ∧ a = .ok ()) (some .closed) := by
  have guides := (obedience offered).holding_guides
  have configure : (Procedure.change fun r : VideoRig =>
      { r with own := { r.own with configuration := routes },
               core := { r.core with opened := true } }).Follows (obedience offered).holding
        (Sure fun _ k => k = .opened routes) (some (.committing (routedModes routes))) :=
    turns_own (fun _ => rfl) (fun _ => rfl) (fun _ hp => ⟨rfl, hp.streaming⟩) (fun _ _ => rfl)
      rfl rfl
  refine guides.onwardWork (commitAll_obeys [] (routedModes routes) among []) (fun _ _ => ?_)
    fun e h => nomatch h
  exact guides.saying obedience_reads (Work.follows_last configure ⟨rfl, rfl⟩)

/-- Opening fails for its requests or its phase, and for nothing else. -/
theorem openStreams_obeys (mirrored : u.Mirrored) (requests : List StreamRequest) :
    (openStreams requests).Follows (obedience offered).holding (Sure Concludes) (some u) := by
  have guides := (obedience offered).holding_guides
  refine obeys_guarded mirrored (Core.checkOpen_guards title) fun admitted => ?_
  cases mirrored with
  | opened | streaming => cases admitted
  | closed =>
    refine obeys_keeping ?_
    refine guides.onwardWork (resolves guides requests) (fun routes routed => ?_)
      fun e failed => ⟨.closed, failed.1.error⟩
    refine Work.Follows.mono (fun a k ends => ends.mono ?_)
      (configures routes (routedModes_offered (routed.2 routes rfl)))
    rintro _ _ ⟨rfl, rfl⟩
    exact ⟨.opened routes, earned_ok⟩

/-- Closing fails only where there is nothing open or the endpoint streams. -/
theorem close_obeys (mirrored : u.Mirrored) :
    close.Follows (obedience offered).holding (Sure Concludes) (some u) := by
  have guides := (obedience offered).holding_guides
  refine obeys_guarded mirrored (Core.checkClose_guards title) fun admitted => ?_
  cases mirrored with
  | closed | streaming => cases admitted
  | opened routes =>
    have forget : (Procedure.change fun r : VideoRig =>
        { r with own := { r.own with configuration := [] },
                 core := { r.core with opened := false } }).Follows (obedience offered).holding
          (Sure fun _ k => k = .closed) (some (.closing routes [])) :=
      turns_own (fun _ => rfl) (fun _ => rfl) (fun _ hp => ⟨rfl, hp.streaming⟩) (fun _ _ => rfl)
        rfl rfl
    refine Work.follows_knowing
      (fun r sees => (Knowledge.tells_of_sees sees).describes.configuration) ?_
    refine guides.lift (closeAll_obeys (routedModes routes)) ?_
    rintro _ _ ⟨rfl, rfl⟩
    refine guides.changing forget (guides.changing (releases guides) ?_)
    exact guides.saying obedience_reads (Work.follows_pure (sure_some ⟨.closed, earned_ok⟩))

/-- Starting fails only where the endpoint is closed or streams already. -/
theorem start_obeys (mirrored : u.Mirrored) (k : Consumer) :
    (start k).Follows (obedience offered).holding (Sure Concludes) (some u) := by
  have guides := (obedience offered).holding_guides
  refine obeys_guarded mirrored (Core.checkStart_guards title) fun admitted => ?_
  cases mirrored with
  | closed | streaming => cases admitted
  | opened routes =>
    have warn : (Procedure.change warnOfLayout).Follows (obedience offered).holding
        (Sure fun _ k => k = .opened routes) (some (.opened routes)) :=
      guides.change fun r _ => (warnOfLayout_heedful r).spares
    have make : (Procedure.look fun r : VideoRig =>
        streamsFor r.own.layout r.own.configuration).Follows (obedience offered).holding
          (Sure fun made k => k = .opened routes ∧ made.map (·.1) = routedModes routes)
          (some (.opened routes)) := by
      refine Knowledge.turns fun r _ known _ => ⟨.opened routes, known, rfl, ?_⟩
      have configuration : r.own.configuration = routes := known.describes.configuration
      rw [← configuration]
      exact streamsFor_modes _ _
    have arm {made : List (NativeMode × VideoSink)} (modes : made.map (·.1) = routedModes routes) :
        (Rig.attempt (VideoCall.streamOn made) : Procedure VideoRig _).Follows
          (obedience offered).holding (Sure fun reply k => reply = .ok () ∧ k = .waking routes)
          (some (.opened routes)) := by
      refine attempts (fun known _ on => ?_) (fun _ => rfl) fun {r} known device => ?_
      · refine VideoDevice.perform_streamOn (on rfl) fun s hs => ?_
        have armed : s.1 ∈ routedModes routes := modes ▸ List.mem_map_of_mem hs
        rw [known.describes.committed]
        exact armed
      · have armed : (r.machine.device.armed ++ made).map (·.1) = routedModes routes := by
          rw [List.map_append, known.armed, modes]
          rfl
        exact describes_of_granted known device known.committed armed rfl rfl
    have awaken : (Procedure.change fun r : VideoRig =>
        { r with core := { r.core with streaming := true } }).Follows (obedience offered).holding
          (Sure fun _ k => k = .streaming routes) (some (.waking routes)) :=
      turns_own (fun _ => rfl) (fun _ => rfl) (fun _ hp => ⟨hp.opened, rfl⟩)
        (fun _ known => known.configuration) rfl rfl
    refine obeys_keeping ?_
    refine guides.changing (calms (fun c => Core.calm_engage c k) Core.modes_dismiss) ?_
    refine guides.changing warn ?_
    refine guides.lift make ?_
    rintro made _ ⟨rfl, modes⟩
    -- What would undo the engagement is never called for.
    have wake : (Work.onFailure (.change (Rig.mapCore (·.dismiss)))
        (Rig.request (VideoCall.streamOn made)) : Work VideoRig _).Follows
          (obedience offered).holding (Sure fun a k => k = .waking routes ∧ a = .ok ())
          (some (.opened routes)) :=
      guides.onFailure (requests (arm modes)) (fun _ _ h => h) fun e k h => nomatch h.2
    refine guides.onwardWork wake (fun _ _ => ?_) fun e h => nomatch h
    refine guides.changing awaken ?_
    exact Work.follows_last (guides.report obedience_reads) ⟨.streaming routes, earned_ok⟩

/-- Nothing that a stop asks of the device is turned down. -/
theorem stop_obeys (mirrored : u.Mirrored) :
    stop.Follows (obedience offered).holding (Sure Concludes) (some u) := by
  have guides := (obedience offered).holding_guides
  refine Work.follows_knowing
    (fun r sees => (Knowledge.tells_of_sees sees).describes.phase.streaming) ?_
  cases mirrored with
  | closed => exact Work.follows_pure (sure_some ⟨.closed, earned_ok⟩)
  | opened routes => exact Work.follows_pure (sure_some ⟨.opened routes, earned_ok⟩)
  | streaming routes =>
    have disarm : (Rig.attempt VideoCall.streamOff : Procedure VideoRig _).Follows
        (obedience offered).holding (Sure fun reply k => reply = .ok () ∧ k = .silenced routes)
        (some (.streaming routes)) := by
      refine attempts (fun _ _ _ => VideoDevice.perform_streamOff) (fun _ => rfl)
        fun known device => ?_
      exact describes_of_granted known device known.committed rfl rfl rfl
    have halt : (Procedure.change fun r : VideoRig =>
        { r with core := { r.core with streaming := false } }).Follows (obedience offered).holding
          (Sure fun _ k => k = .opened routes) (some (.silenced routes)) :=
      turns_own (fun _ => rfl) (fun _ => rfl) (fun _ hp => ⟨hp.opened, rfl⟩)
        (fun _ known => known.configuration) rfl rfl
    refine guides.lift disarm ?_
    rintro _ _ ⟨rfl, rfl⟩
    refine guides.changing halt ?_
    refine guides.changing (calms Core.calm_dismiss Core.modes_dismiss) ?_
    refine Work.follows_then Rig.follows_flush fun _ => ?_
    refine guides.changing (releases guides) ?_
    exact guides.saying obedience_reads
      (Work.follows_pure (sure_some ⟨.opened routes, earned_ok⟩))

/-! ## Everything that clients do -/

/-- All operations with the lock, from any usage that mirrors the device. -/
theorem serves_obeyed (mirrored : u.Mirrored) {op : VideoOp} (locks : op.transition.isSome) :
    op.work.Follows (obedience offered).holding (Sure fun a k => k.Mirrored ∧ Earned a)
      (some u) := by
  cases op with
  | openStreams requests => exact openStreams_obeys mirrored requests
  | close => exact close_obeys mirrored
  | start policy => exact start_obeys mirrored _
  | stop => exact stop_obeys mirrored
  | modes | principal | resolve | flush | control | powered => cases locks

/-- What clients do without the lock. -/
theorem unspoilt : (obedience offered).Unspoilt VideoOp.Considerate Earned where
  free transition considerate :=
    free_answers (obedience offered).waiting_guides transition considerate
  take := by
    intro g r gate holds u known
    cases gate
    exact (acquire_heedful known.plan holds.1).2.spares u known
  drop := by
    intro g r gate _ u known
    cases gate
    exact (release_heedful known.plan).spares u known
  aside x := aside_spares x _

/-! ## All crowds that can be reached -/

section Reached

variable {capacity limit : Nat} {layout : ClockLayout} {automatic : Bool} {c : Crowd VideoRig}

/-- Where the device is willing, what is to be guaranteed holds: the counting of references keeps
the device powered, which no client could know on its own. -/
theorem obedience_holds (h : Crowd.Reaches VideoOp.Considerate
      (unattended capacity limit layout { offered, automatic } .sound) c)
    (willing : c.rig.machine.device.Willing) : (obedience offered).holds c.rig :=
  ⟨willing, (powered_of_reaches
    (h.of_admitted fun _ considerate => considerate.sparesPower)).journal⟩

/-- Where the device is willing all the way, everybody follows the rules. -/
theorem obedient_of_reaches (h : Crowd.ReachesWhile (fun c => c.rig.machine.device.Willing)
      VideoOp.Considerate (unattended capacity limit layout { offered, automatic } .sound) c) :
    c.rig.machine.device.Willing ∧
      (obedience offered).Kept Usage.Mirrored (fun a u => u.Mirrored ∧ Earned a) Earned c := by
  have fresh : Usage.closed.Obeyed offered
      (unattended capacity limit layout { offered, automatic } .sound).rig :=
    ⟨rfl, rfl, (fun _ none => nomatch none), ⟨⟨rfl, rfl⟩, rfl, rfl, rfl⟩, fun _ h => nomatch h⟩
  refine ⟨?_, Knowledge.kept_of_reachesWhile unspoilt
    (fun locks mirrored => serves_obeyed mirrored locks) obedience_holds
    (Knowledge.kept_of_rest fresh .closed rfl rfl) h⟩
  rcases Relation.ReflTransGen.cases_tail h with same | ⟨_, _, -, -, willing⟩
  · exact same ▸ ⟨rfl, rfl⟩
  · exact willing

end Reached

end VideoRig

end Sensing
