import Sensing.Proofs.Clients.Chronicle
import Sensing.Proofs.Video.Backpressure
import Sensing.Proofs.Video.Callbacks

/-!
# Frames belong to the current session

What a device has armed outlives a stop that the device did not carry out, and a start that it
carried out although it failed; the streams that it goes on with are then those of an earlier
session, with the earlier configuration and clocks that have run on (`stuck_stale`).

For a device that disarms its streams whenever it is told to, and arms none where arming fails
(`Prompt`), there are no such streams: whatever the other calls do, every frame that is handed to a
callback comes from the configuration that the callback's start has found, and from a clock that has
seen the images since that start and no others (`frames_of_current_session`). The argument joins two
custodies of the configuration lock, that of the callbacks and that of the streams, along one
history.
-/

namespace Sensing

/-! ## The first image of a lane -/

namespace RollingClock

variable {layout : ClockLayout} {data : Bytes}

/-- The first image of a clock is at its origin, also if it has no counter. -/
theorem stamp_start (layout : ClockLayout) (data : Bytes) :
    ((start layout).stamp data).1 = .ofInt .double 0 := by
  have origin : ((start layout).advance data).total = 0 := by
    unfold advance
    split
    · rfl
    · show (0 : Int) + signed32 _ = 0
      simp [start, signed32]
  unfold stamp units
  dsimp only
  rw [origin, Int.zero_tdiv]

end RollingClock

namespace Lane

variable {layout : ClockLayout} {s : Source} {images : List Bytes} {data : Bytes}
  {hostTime : Double} {f : Frame}

/-- A frame bears the number of its image among the valid ones, and the time of the clock. -/
theorem info_of_mem (h : f ∈ (after layout s images).frames data hostTime) :
    f.info.number = images.countP (validImage s.imageSize) + 1 ∧
      f.info.timestamp = ((after layout s images).count data).1 := by
  have infos := List.mem_map_of_mem (f := Frame.info) h
  rw [frames_info] at infos
  obtain ⟨output, -, info⟩ := List.mem_map.1 infos
  have counted (k : RollingClock) : (k.advance data).count = k.count := by
    unfold RollingClock.advance
    split <;> rfl
  rw [← info, ← after_count layout, ← counted]
  unfold infoOf
  exact ⟨rfl, by simp only⟩

/-- A lane that has seen no valid image is as it was at first. -/
theorem time_of_first (none : images.countP (validImage s.imageSize) = 0) (data : Bytes) :
    ((after layout s images).count data).1 = .ofInt .double 0 := by
  have blank : images.filter (validImage s.imageSize) = [] := by
    rwa [← List.length_eq_zero_iff, ← List.countP_eq_length_filter]
  rw [← after_filter, blank]
  exact RollingClock.stamp_start layout data

end Lane

namespace VideoRig

/-! ## The frames of an image -/

variable {m : NativeMode} {data : Bytes} {f : Frame}

/-- The frames of a raw image that lanes hand to the consumer, one lane after another. -/
def handedBy (m : NativeMode) (data : Bytes) : List Lane → Core → List Frame
  | [], _ => []
  | l :: ls, c => handed data l c ++ handedBy m data ls (deliverLane m data l c).2

/-- They are all that is heard of the image. -/
theorem deliverLanes_heard (ls : List Lane) (c : Core) :
    (deliverLanes m data ls c).2.heard =
      ((handedBy m data ls c).foldl (fun c f => c.offer f) c).heard := by
  induction ls generalizing c with
  | nil => rfl
  | cons l ls ih =>
    obtain ⟨pool, log, offered⟩ := deliverLane_offers m data l c
    have unheard : Core.heard { c with pool, log } = c.heard := rfl
    have same : (deliverLane m data l c).2.heard =
        ((handed data l c).foldl (fun c f => c.offer f) c).heard := by
      rw [offered]
      exact Core.heard_offers unheard _
    show (deliverLanes m data ls (deliverLane m data l c).2).2.heard = _
    rw [ih, handedBy, List.foldl_append]
    exact Core.heard_offers same _

/-- Each of them is one that a lane makes of the image. -/
theorem mem_handedBy {ls : List Lane} {c : Core} (h : f ∈ handedBy m data ls c) :
    ∃ l ∈ ls, f ∈ l.frames data c.hostTime := by
  induction ls generalizing c with
  | nil => cases h
  | cons l ls ih =>
    rcases List.mem_append.1 h with first | later
    · refine ⟨l, List.mem_cons_self .., ?_⟩
      rcases handed_eq m data l c with none | all
      · rw [none] at first
        cases first
      · rwa [all] at first
    · obtain ⟨l', mem, made⟩ := ih later
      obtain ⟨_, _, offered⟩ := deliverLane_offers m data l c
      rw [offered, Core.hostTime_offers] at made
      exact ⟨l', List.mem_cons_of_mem l mem, made⟩

/-! ## Histories of prompt devices -/

variable {capacity limit : Nat} {layout : ClockLayout} {device : VideoDevice}
  {plan : FaultPlan VideoCall} {c : Crowd VideoRig} {task : Option (Task VideoRig × VideoRig)}
  {session : Option (Beginning VideoRig)} {shown : List (NativeMode × Bytes)}

/-- The custody of the streams goes along with the history of the callbacks. -/
theorem streams_escorts : streams.Escorts dispatch VideoOp.SparesStreams where
  toFits := streams_fits
  retires := Work.follows_ofProcedure retire_keeps

/-- At all times the device is armed as the record says, also while the endpoint is seen off. -/
theorem streaming_of_chronicled (prompt : Prompt plan) (fresh : device.armed = [])
    (h : dispatch.Chronicled images VideoOp.SparesStreams
      (unattended capacity limit layout device plan) c task session shown) :
    streams.Kept c ∧ Streaming layout shown c.rig := by
  refine Custody.invariant_of_chronicled streams_escorts (I := Streaming layout)
    (fun may holds => holds.move may) (fun x holds => holds.aside x) ?_ ?_ h
  · exact Custody.kept_of_rest ⟨prompt, fun _ => fresh⟩ rfl rfl
  · exact ⟨rfl, .inl fresh⟩

/-- A session begins where nothing is armed. -/
theorem idle_of_current {b : Beginning VideoRig} (prompt : Prompt plan)
    (fresh : device.armed = [])
    (h : dispatch.Traced VideoOp.SparesStreams (unattended capacity limit layout device plan) c
      task session) (current : dispatch.Current task session b) :
    b.found.machine.device.armed = [] := by
  have silent : dispatch.Rests none (dispatch.registration
      (unattended capacity limit layout device plan).rig) := Dispatch.rests_none rfl rfl
  obtain ⟨c₀, traced, found⟩ := h.found_of_current orderly rfl rfl silent current
  obtain ⟨-, free, rests⟩ := Dispatch.held_of_traced orderly rfl rfl silent traced
  obtain ⟨_, chronicled⟩ := Dispatch.chronicled_of_traced images traced
  obtain ⟨kept, -⟩ := streaming_of_chronicled prompt fresh chronicled
  obtain ⟨-, silence⟩ := kept.at_rest free
  rw [← found]
  exact silence rests.streaming

/-- A consumer is that of the current session, and so is the configuration. -/
theorem current_of_consumer (prompt : Prompt plan) (fresh : device.armed = [])
    (h : dispatch.Traced VideoOp.SparesStreams (unattended capacity limit layout device plan) c
      task session) (consumer : c.rig.core.consumer.isSome) :
    ∃ b : Beginning VideoRig, dispatch.Current task session b ∧
      c.rig.core.registered = some b.callback ∧ b.found.machine.device.armed = [] ∧
      c.rig.own.configuration = b.found.own.configuration := by
  obtain ⟨callback, registered⟩ : ∃ callback, c.rig.core.registered = some callback := by
    obtain ⟨k, hk⟩ := Option.isSome_iff_exists.1 consumer
    refine ⟨k.policy, ?_⟩
    rw [Core.registered, hk]
    rfl
  obtain ⟨-, held⟩ := Dispatch.held_of_traced orderly rfl rfl (Dispatch.rests_none rfl rfl) h
  obtain ⟨b, current, rfl, setup⟩ := held.current registered
  exact ⟨b, current, registered, idle_of_current prompt fresh h current, setup⟩

/-- The frames of an image that is delivered go to the callback of the current session. They are
made by a route of the configuration that the callback's start has found, and by a clock that was
started then: it has seen the images that were delivered since, and no others. -/
theorem frames_of_current_session (prompt : Prompt plan) (fresh : device.armed = [])
    (h : dispatch.Chronicled images VideoOp.SparesStreams
      (unattended capacity limit layout device plan) c task session shown)
    (m : NativeMode) (data : Bytes) :
    ∃ frames : List Frame,
      (deliver m data c.rig).2.core.heard =
        (frames.foldl (fun core f => core.offer f) c.rig.core).heard ∧
      ∀ f ∈ frames, ∃ b : Beginning VideoRig, ∃ route ∈ b.found.own.configuration,
        dispatch.Current task session b ∧ c.rig.core.registered = some b.callback ∧
        b.found.machine.device.armed = [] ∧ route.source.mode = m ∧
        f ∈ (Lane.after layout route.source (imagesOf m shown)).frames data c.rig.core.hostTime ∧
        f.info.number = (imagesOf m shown).countP (validImage route.source.imageSize) + 1 ∧
        (f.info.number = 1 → f.info.timestamp = .ofInt .double 0) := by
  obtain ⟨-, streaming⟩ := streaming_of_chronicled prompt fresh h
  cases armed : c.rig.machine.device.sink? m with
  | none =>
    refine ⟨[], ?_, fun _ mem => absurd mem List.not_mem_nil⟩
    rw [deliver_of_unarmed armed]
    rfl
  | some sink =>
    obtain ⟨rfl, consumer, -⟩ := streaming.sink armed
    refine ⟨handedBy m data (lanesAfter layout c.rig.own.configuration shown m) c.rig.core, ?_, ?_⟩
    · rw [← deliverLanes_heard, (deliver_of_lanes armed data).1]
    · intro f made
      obtain ⟨l, lane, made⟩ := mem_handedBy made
      obtain ⟨route, routed, rfl⟩ := List.mem_map.1 lane
      obtain ⟨routed, mode⟩ := List.mem_filter.1 routed
      -- The custody of the callbacks says whose configuration it is.
      obtain ⟨b, current, registered, idle, configuration⟩ :=
        current_of_consumer prompt fresh h.traced consumer
      rw [configuration] at routed
      obtain ⟨number, time⟩ := Lane.info_of_mem made
      refine ⟨b, route, routed, current, registered, idle, of_decide_eq_true mode, made, number,
        fun first => ?_⟩
      rw [time]
      exact Lane.time_of_first (Nat.succ.inj (number.symm.trans first)) data

/-- The first image of the camera's session. -/
theorem infrared_current : ∃ (c : Crowd VideoRig) (b : Beginning VideoRig) (frames : List Frame),
    dispatch.Chronicled images VideoOp.SparesStreams infraredEndpoint c none (some b) [] ∧
    frames ≠ [] ∧
    (deliver infrared [1, 2] c.rig).2.core.heard =
      (frames.foldl (fun core f => core.offer f) c.rig.core).heard ∧
    ∀ f ∈ frames, f.info.number = 1 ∧ f.info.timestamp = .ofInt .double 0 := by
  let register : VideoAside := .core (.registerFormat .y8)
  let opening : Task VideoRig := .serve (.openStreams [{ channel := .infrared }] : VideoOp) rfl
  let starting : Task VideoRig := .serve (.start fun _ => .hold : VideoOp) rfl
  -- A callback that holds the frame shows that it was called.
  have computed : (do
      let (opened, r) ← (dispatch.errand opening).outcome? (register.apply infraredEndpoint.rig)
      let (started, r) ← (dispatch.errand starting).outcome? r
      return opened.isOk && started.isOk && r.core.delivered.isEmpty &&
        !(deliver infrared [1, 2] r).2.core.delivered.isEmpty) = some true := by
    decide +kernel
  simp only [Option.bind_eq_bind, Option.bind_eq_some_iff, Prod.exists, Option.pure_def,
    Option.some.injEq, Bool.and_eq_true, Bool.not_eq_true', List.isEmpty_iff,
    List.isEmpty_eq_false_iff] at computed
  obtain ⟨_, r, opened, _, r', started, ⟨⟨openedOk, startedOk⟩, silent⟩, heard⟩ := computed
  have fresh : dispatch.Chronicled images VideoOp.SparesStreams infraredEndpoint infraredEndpoint
      none none [] := .start
  have atOpened := (fresh.aside register).carried rfl opening (Procedure.run_of_outcome? opened)
  have atStarted := atOpened.carried rfl starting (Procedure.run_of_outcome? started)
  rw [Dispatch.after_of_ok rfl openedOk, Dispatch.after_of_ok rfl startedOk] at atStarted
  obtain ⟨frames, same, each⟩ :=
    frames_of_current_session punctual_sound.prompt rfl atStarted infrared [1, 2]
  refine ⟨_, _, frames, atStarted, ?_, same, fun f mem => ?_⟩
  · rintro rfl
    have unheard := congrArg (·.2.1) same
    exact heard (unheard.trans silent)
  · obtain ⟨_, _, _, -, -, -, -, -, number, first⟩ := each f mem
    exact ⟨number, first number⟩

/-! ## A device that does not stop -/

/-- A fault schedule under which streams are never disarmed. -/
def unstoppable : FaultPlan VideoCall := fun _ call =>
  match call with
  | .streamOff => some { cause := ⟨"device is stuck", []⟩ }
  | _ => none

/-- A new endpoint of a camera that cannot be stopped. -/
def stuckEndpoint : Crowd VideoRig := unattended 4 4 {} { offered := [infrared] } unstoppable

/-- Where the device has not stopped, its earlier streams go on: the first image after a further
start has number two, and its time is counted from the first image of the session before. -/
theorem stuck_stale : ∃ (c : Crowd VideoRig) (b : Beginning VideoRig) (f : Frame),
    dispatch.Traced VideoOp.SparesStreams stuckEndpoint c none (some b) ∧
    (start { policy := b.callback }).run.outcome? b.found = some (.ok (), c.rig) ∧
    (deliver infrared [0xe1, 0x93, 4, 0] c.rig).2.core.delivered = c.rig.core.delivered ++ [f] ∧
    f.info.number = 2 ∧ f.info.timestamp = .ofInt .double 3 := by
  let register : VideoAside := .core (.registerFormat .y8)
  let image : VideoAside := .deliver infrared [1, 0, 0, 0]
  let opening : Task VideoRig := .serve (.openStreams [{ channel := .infrared }] : VideoOp) rfl
  let starting : Task VideoRig := .serve (.start fun _ => .release : VideoOp) rfl
  let stopping : Task VideoRig := .serve VideoOp.stop rfl
  -- Opened, started, shown an image, stopped in vain, and started once more.
  have computed : (do
      let (_, r) ← (dispatch.errand opening).outcome? (register.apply stuckEndpoint.rig)
      let (_, r) ← (dispatch.errand starting).outcome? r
      let (_, r) ← (dispatch.errand stopping).outcome? (image.apply r)
      let (again, r) ← (dispatch.errand starting).outcome? r
      let after := (deliver infrared [0xe1, 0x93, 4, 0] r).2.core.delivered
      let f ← after.getLast?
      return again.isOk && (after = r.core.delivered ++ [f] && f.info.number = 2 &&
        f.info.timestamp = .ofInt .double 3)) = some true := by
    decide +kernel
  simp only [Option.bind_eq_bind, Option.bind_eq_some_iff, Prod.exists, Option.pure_def,
    Option.some.injEq, Bool.and_eq_true, decide_eq_true_eq] at computed
  obtain ⟨_, r₁, opened, _, r₂, started, _, r₃, stopped, again, r₄, restarted, f, -,
    againOk, ⟨delivered, number⟩, time⟩ := computed
  have fresh : dispatch.Traced VideoOp.SparesStreams stuckEndpoint stuckEndpoint none none := .start
  have atFormat := fresh.step (.aside register) Iff.rfl
  have atOpened := atFormat.carried rfl opening (Procedure.run_of_outcome? opened)
  have atStarted := atOpened.carried rfl starting (Procedure.run_of_outcome? started)
  have atImage := atStarted.step (.aside image) Iff.rfl
  have atStopped := atImage.carried rfl stopping (Procedure.run_of_outcome? stopped)
  have atRestarted := atStopped.carried rfl starting (Procedure.run_of_outcome? restarted)
  rw [Dispatch.after_of_ends (t := stopping) rfl, Dispatch.after_of_ok rfl againOk] at atRestarted
  cases again with
  | ok _ => exact ⟨_, _, f, atRestarted, restarted, delivered, number, time⟩
  | error _ => cases againOk

end VideoRig

end Sensing
