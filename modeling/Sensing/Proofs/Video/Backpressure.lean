import Sensing.Proofs.Video.Sessions

/-!
# Backpressure loses whole images and changes nothing else

Two theorems about the images that a device delivers while streams are armed, in every run of any
number of clients in which no failing call takes effect and disarming does not fail. What is armed
is the endpoint's: where an application is handed the powered device, it arms no streams of its own.

Each lane hands over all frames of an image or none, by whether the pool has room for all of them
when the lane is reached, and it numbers them by the valid images it has seen since streaming was
started; so the numbers missing at the consumer are those of the images that were lost
(`delivers_all_or_nothing`). And what is handed over of an image depends on nothing but the valid
images that the lane has seen (`frames_independent_of_pool`): not on the pool and its bounds, what
its buffers held before, the frames that are held, nor the images lost before.
-/

namespace Sensing

namespace VideoRig

variable {capacity limit : Nat} {layout : ClockLayout} {device : VideoDevice}
  {plan : FaultPlan VideoCall} {c : Crowd VideoRig} {shown : List (NativeMode × Bytes)}
  {m : NativeMode}

/-- What a lane does with a raw image that finds the endpoint at `c` and leaves it at `c'`, where
this is the valid image of that number, if it is valid. -/
structure Delivers (l : Lane) (data : Bytes) (number : Nat) (c c' : Core) : Prop where
  /-- Nothing comes of an image that is not valid but a line in the log. -/
  invalid : validImage l.source.imageSize data = false → c' = { c with log := c'.log }
  /-- Where there is room for the frames of all outputs, the consumer is offered these and no
  others, in the order of outputs, with one time and one number: its callback is called for each of
  them, and it goes on from there. -/
  room : validImage l.source.imageSize data = true →
    c.pool.published + l.source.unpacker.outputs.length ≤ min c.pool.limit c.pool.capacity →
    ∃ (time : Double) (frames : List Frame) (log : List LogLine),
      frames.map Frame.info =
        l.source.unpacker.outputs.map (l.infoOf time c.hostTime number) ∧
      frames.map (fun f => f.data.length) =
        l.source.unpacker.outputs.map (fun o => l.source.outputSize o.2 data.length) ∧
      c' = frames.foldl (fun c f => c.offer f)
        { c with pool := c.pool.draw l.source.unpacker.outputs.length, log } ∧
      ∀ k, c.consumer = some k → Core.Called k frames c c'
  /-- Where there is not, it is offered nothing, and as many frames are published as before. -/
  full : validImage l.source.imageSize data = true →
    min c.pool.limit c.pool.capacity < c.pool.published + l.source.unpacker.outputs.length →
    c.Spared c'

/-- A lane deals with an image in one of the three ways, and counts it if it is valid. -/
theorem deliverLane_delivers {data : Bytes} {l : Lane} {number : Nat}
    (count : (l.pass data).clock.count = number) (m : NativeMode) (c : Core) :
    Delivers l data number c (deliverLane m data l c).2 where
  invalid h := (deliverLane_of_invalid h).2
  room h room := by
    have accepted : l.accepts data = true := h
    have numbered : (l.count data).2.1 = number := by
      rw [← count, Lane.count_number, Lane.pass, if_pos accepted]
    obtain ⟨log, h⟩ := (deliverLane_of_room (m := m) h room).2
    refine ⟨(l.count data).1, l.frames data c.hostTime, log, ?_, l.frames_length data _, h, ?_⟩
    · rw [← numbered]
      exact l.frames_info data _
    · intro k registered
      rw [h]
      exact Core.called_drawn registered ..
  full h full := (deliverLane_of_no_room h full).2

/-- What is armed for a mode are lanes of the sources of its routes, in order, each after the images
of the mode that were shown. -/
theorem lanesAfter_sources (layout : ClockLayout) (routes : List Route)
    (shown : List (NativeMode × Bytes)) (m : NativeMode) :
    (lanesAfter layout routes shown m).map (·.source) =
      (routes.map (·.source)).filter (fun s => s.mode = m) := by
  unfold lanesAfter
  rw [List.map_map, List.filter_map]
  exact List.map_congr_left fun route _ => Lane.after_source _ _ _

theorem after_of_mem {routes : List Route} {l : Lane}
    (h : l ∈ lanesAfter layout routes shown m) :
    l = Lane.after layout l.source (imagesOf m shown) := by
  obtain ⟨route, -, rfl⟩ := List.mem_map.1 h
  rw [Lane.after_source]

/-- Each of them is of a route that is configured for the mode. -/
theorem source_of_mem {routes : List Route} {l : Lane} (h : l ∈ lanesAfter layout routes shown m) :
    l.source ∈ routes.map (·.source) ∧ l.source.mode = m := by
  have source := List.mem_map_of_mem (f := Lane.source) h
  rw [lanesAfter_sources] at source
  obtain ⟨configured, mode⟩ := List.mem_filter.1 source
  exact ⟨configured, of_decide_eq_true mode⟩

/-- Streams that are armed between operations are those of a streaming endpoint. -/
theorem streaming_of_armed {sink : VideoSink} (kept : streams.Kept c)
    (armed : c.rig.machine.device.sink? m = some sink) (free : c.holder = none) :
    c.rig.core.streaming = true := by
  obtain ⟨⟨k, sees, held⟩, -⟩ := kept
  rw [free] at held
  obtain ⟨-, resting⟩ := held _ sees
  by_contra stopped
  have none := resting (Bool.eq_false_iff.2 stopped)
  unfold VideoDevice.sink? at armed
  rw [none] at armed
  cases armed

/-- Every image that is delivered for an armed mode passes the lanes of the mode's routes, in the
order of the configuration. Each hands over all of its frames or none. -/
theorem delivers_all_or_nothing (punctual : Punctual plan) (fresh : device.armed = [])
    (h : Crowd.Recorded images VideoOp.SparesStreams (unattended capacity limit layout device plan)
      c shown) {sink : VideoSink} (armed : c.rig.machine.device.sink? m = some sink)
    (data : Bytes) :
    -- Something is armed only while the endpoint streams, or a client is about to change that.
    (c.holder = none → c.rig.core.streaming = true) ∧
    ∃ lanes, sink = .lanes lanes ∧
      lanes.map (·.source) =
        (c.rig.own.configuration.map (·.source)).filter (fun s => s.mode = m) ∧
      (deliver m data c.rig).2.core = (deliverLanes m data lanes c.rig.core).2 ∧
      ∀ before l after, lanes = before ++ l :: after →
        -- The endpoint as the lanes before this one have left it, and as this one leaves it.
        let reached := (deliverLanes m data before c.rig.core).2
        let left := (deliverLane m data l reached).2
        -- The valid images among those shown to the lane, with this one.
        let number := (imagesOf m (shown ++ [(m, data)])).countP (validImage l.source.imageSize)
        reached.consumer.isSome ∧
          Delivers l data number reached left ∧
          (deliverLane m data l reached).1.clock.count = number ∧
          (deliverLanes m data lanes c.rig.core).2 = (deliverLanes m data after left).2 := by
  obtain ⟨kept, streaming⟩ := streaming_of_recorded punctual fresh h
  obtain ⟨rfl, consumer, -⟩ := streaming.sink armed
  refine ⟨streaming_of_armed kept armed, _, rfl, lanesAfter_sources .., ?_, ?_⟩
  · exact (deliver_of_lanes armed data).1
  · intro before l after split
    have lane : l = Lane.after layout l.source (imagesOf m shown) :=
      after_of_mem (split ▸ List.mem_append_right before (List.mem_cons_self ..))
    have count : (l.pass data).clock.count =
        (imagesOf m (shown ++ [(m, data)])).countP (validImage l.source.imageSize) := by
      rw [imagesOf_concat, if_pos rfl, ← Lane.after_count layout, Lane.after_concat,
        ← lane]
    refine ⟨deliverLanes_consumer before consumer, deliverLane_delivers count m _, ?_, ?_⟩
    · rw [deliverLane_fst, count]
    · rw [split, deliverLanes_split]

/-! ## A session -/

/-- The mode of a small infrared camera. -/
def infrared : NativeMode := ⟨2, 1, 30, .grey⟩

/-- A new endpoint of the camera. -/
def infraredEndpoint : Crowd VideoRig := unattended 4 4 {} { offered := [infrared] } .sound

/-- The lanes that an armed mode delivers to. -/
def lanesAt (r : VideoRig) (m : NativeMode) : List Lane :=
  match r.machine.device.sink? m with
  | some (.lanes ls) => ls
  | some .tap => []
  | none => []

theorem sink?_of_lanesAt {r : VideoRig} {l : Lane} {ls : List Lane} (h : r.lanesAt m = l :: ls) :
    r.machine.device.sink? m = some (.lanes (l :: ls)) := by
  unfold lanesAt at h
  split at h
  next armed => rw [armed, h]
  next => cases h
  next => cases h

/-- A client opens the camera's stream and starts it. -/
theorem infrared_session : ∃ (c : Crowd VideoRig) (l : Lane) (ls : List Lane),
    Crowd.Recorded images VideoOp.SparesStreams infraredEndpoint c [] ∧
    c.rig.machine.device.sink? infrared = some (.lanes (l :: ls)) ∧
    l.accepts [1, 2] = true ∧
    handed [1, 2] l c.rig.core ≠ [] ∧
    handed [1, 2] l ((CoreAside.setLimit 1).apply c.rig.core) ≠ [] := by
  let register : VideoAside := .core (.registerFormat .y8)
  let opening : VideoOp := .openStreams [{ channel := .infrared }]
  let starting : VideoOp := .start fun _ => .hold
  have computed : (do
      let r ← Served.inTurn? [opening, starting] (register.apply infraredEndpoint.rig)
      let l ← (r.lanesAt infrared).head?
      return l.accepts [1, 2] && !(handed [1, 2] l r.core).isEmpty &&
        !(handed [1, 2] l ((CoreAside.setLimit 1).apply r.core)).isEmpty) = some true := by
    decide +kernel
  simp only [Option.bind_eq_bind, Option.bind_eq_some_iff] at computed
  obtain ⟨r, streams, l, first, judged⟩ := computed
  obtain ⟨ls, lanes⟩ := List.head?_eq_some_iff.1 first
  have fresh : Crowd.Recorded images VideoOp.SparesStreams infraredEndpoint infraredEndpoint [] :=
    .start
  have atStarted := (fresh.aside register).inTurn rfl streams
  simp only [Option.pure_def, Option.some.injEq, Bool.and_eq_true, Bool.not_eq_true',
    List.isEmpty_eq_false_iff] at judged
  exact ⟨_, l, ls, atStarted, sink?_of_lanesAt lanes, judged.1.1, judged.1.2, judged.2⟩

/-- The first image of a session is number one, and there is room for its frame. -/
theorem infrared_delivered : ∃ (c : Crowd VideoRig) (l : Lane) (ls : List Lane),
    c.rig.machine.device.sink? infrared = some (.lanes (l :: ls)) ∧
    l.accepts [1, 2] = true ∧
    (deliverLane infrared [1, 2] l c.rig.core).1.clock.count = 1 ∧
    Delivers l [1, 2] 1 c.rig.core (deliverLane infrared [1, 2] l c.rig.core).2 := by
  obtain ⟨c, l, ls, recorded, armed, valid, -, -⟩ := infrared_session
  obtain ⟨-, lanes, hlanes, -, -, each⟩ :=
    delivers_all_or_nothing punctual_sound rfl recorded armed [1, 2]
  cases hlanes
  obtain ⟨-, delivers, count, -⟩ := each [] l ls rfl
  have number : (imagesOf infrared ([] ++ [(infrared, [1, 2])])).countP
      (validImage l.source.imageSize) = 1 := by
    rw [imagesOf_concat, if_pos rfl]
    show List.countP _ [[1, 2]] = 1
    rw [List.countP_singleton]
    exact if_pos valid
  rw [number] at delivers count
  exact ⟨c, l, ls, armed, valid, count, delivers⟩

/-! ## What images do not depend on -/

/-- The frame as if the host had received its image at another time. -/
def receivedAt (t : Double) (f : Frame) : Frame :=
  { f with info := { f.info with systemTime := t } }

/-- What an unpacker writes into frames does not depend on when their image was received. -/
theorem decode_receivedAt {t : Double} {fs gs : List Frame}
    (h : fs.map (receivedAt t) = gs.map (receivedAt t)) (s : Source) (data : Bytes) :
    (Lane.decode s data fs).map (receivedAt t) = (Lane.decode s data gs).map (receivedAt t) := by
  have planes (fs : List Frame) : fs.map (·.data) = (fs.map (receivedAt t)).map (·.data) := by
    rw [List.map_map]
    rfl
  have filled (fs : List Frame) (planes : List Bytes) :
      (List.zipWith (fun f plane => { f with data := plane }) fs planes).map (receivedAt t) =
        List.zipWith (fun f plane => { f with data := plane }) (fs.map (receivedAt t)) planes := by
    rw [List.map_zipWith, List.zipWith_map_left]
    rfl
  unfold Lane.decode
  rw [filled, filled, planes fs, planes gs, h]

/-- Nor do the frames of an image. -/
theorem frames_receivedAt (l : Lane) (data : Bytes) (t t₁ t₂ : Double) :
    (l.frames data t₁).map (receivedAt t) = (l.frames data t₂).map (receivedAt t) := by
  refine decode_receivedAt ?_ l.source data
  unfold Lane.draftsOf Lane.drafts
  simp only [List.map_map]
  rfl

/-- A lane hands over all frames of an image or none. -/
theorem handed_eq (m : NativeMode) (data : Bytes) (l : Lane) (c : Core) :
    handed data l c = [] ∨ handed data l c = l.frames data c.hostTime := by
  cases valid : l.accepts data with
  | false => exact .inl (deliverLane_of_invalid (m := m) valid).1
  | true =>
    by_cases room : c.pool.published + l.source.unpacker.outputs.length ≤ c.pool.bound
    · exact .inr (deliverLane_of_room (m := m) valid room).1
    · exact .inl (deliverLane_of_no_room (m := m) valid (Nat.lt_of_not_le room)).1

/-- In any two sessions, of one endpoint or of two, with clocks of one layout: where a lane of one
has seen the same valid images as a lane of the other with the same source, they hand over the same
frames of a further image, if they hand over any. -/
theorem frames_independent_of_pool {capacity₁ limit₁ capacity₂ limit₂ : Nat}
    {device₁ device₂ : VideoDevice} {plan₁ plan₂ : FaultPlan VideoCall} {c₁ c₂ : Crowd VideoRig}
    {shown₁ shown₂ : List (NativeMode × Bytes)} {lanes₁ lanes₂ : List Lane} {l₁ l₂ : Lane}
    (punctual₁ : Punctual plan₁) (punctual₂ : Punctual plan₂)
    (fresh₁ : device₁.armed = []) (fresh₂ : device₂.armed = [])
    (h₁ : Crowd.Recorded images VideoOp.SparesStreams
      (unattended capacity₁ limit₁ layout device₁ plan₁) c₁ shown₁)
    (h₂ : Crowd.Recorded images VideoOp.SparesStreams
      (unattended capacity₂ limit₂ layout device₂ plan₂) c₂ shown₂)
    (armed₁ : c₁.rig.machine.device.sink? m = some (.lanes lanes₁)) (mem₁ : l₁ ∈ lanes₁)
    (armed₂ : c₂.rig.machine.device.sink? m = some (.lanes lanes₂)) (mem₂ : l₂ ∈ lanes₂)
    (source : l₁.source = l₂.source)
    (same : (imagesOf m shown₁).filter (validImage l₁.source.imageSize) =
      (imagesOf m shown₂).filter (validImage l₂.source.imageSize))
    (data : Bytes) (core₁ core₂ : Core)
    (some₁ : handed data l₁ core₁ ≠ []) (some₂ : handed data l₂ core₂ ≠ []) :
    (∃ pool log, (deliverLane m data l₁ core₁).2 =
      (handed data l₁ core₁).foldl (fun c f => c.offer f) { core₁ with pool, log }) ∧
    (∃ pool log, (deliverLane m data l₂ core₂).2 =
      (handed data l₂ core₂).foldl (fun c f => c.offer f) { core₂ with pool, log }) ∧
    ∀ t, (handed data l₁ core₁).map (receivedAt t) = (handed data l₂ core₂).map (receivedAt t) := by
  refine ⟨deliverLane_offers .., deliverLane_offers .., fun t => ?_⟩
  obtain ⟨-, streaming₁⟩ := streaming_of_recorded punctual₁ fresh₁ h₁
  obtain ⟨-, streaming₂⟩ := streaming_of_recorded punctual₂ fresh₂ h₂
  obtain ⟨hlanes₁, -⟩ := streaming₁.sink armed₁
  obtain ⟨hlanes₂, -⟩ := streaming₂.sink armed₂
  cases hlanes₁
  cases hlanes₂
  have lanes : l₁ = l₂ := by
    rw [after_of_mem mem₁, ← Lane.after_filter, same, source, Lane.after_filter,
      ← after_of_mem mem₂]
  rw [(handed_eq m data l₁ core₁).resolve_left some₁,
    (handed_eq m data l₂ core₂).resolve_left some₂, lanes]
  exact frames_receivedAt l₂ data t _ _

/-- Two images, where the pool's limit was lowered before the second. -/
theorem infrared_frames_agree : ∃ (c : Crowd VideoRig) (l : Lane),
    handed [1, 2] l c.rig.core ≠ [] ∧
    handed [1, 2] l ((CoreAside.setLimit 1).apply c.rig.core) ≠ [] ∧
    ∀ t, (handed [1, 2] l c.rig.core).map (receivedAt t) =
      (handed [1, 2] l ((CoreAside.setLimit 1).apply c.rig.core)).map (receivedAt t) := by
  obtain ⟨c, l, ls, recorded, armed, -, some₁, some₂⟩ := infrared_session
  have lowered := recorded.aside (VideoAside.core (.setLimit 1))
  have agree := frames_independent_of_pool punctual_sound punctual_sound rfl rfl recorded lowered
    armed (List.mem_cons_self ..) armed (List.mem_cons_self ..) rfl rfl [1, 2]
    c.rig.core ((CoreAside.setLimit 1).apply c.rig.core) some₁ some₂
  exact ⟨c, l, some₁, some₂, agree.2.2⟩

end VideoRig

end Sensing
