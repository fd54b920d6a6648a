import Sensing.Proofs.Video.Lockstep
import Sensing.Proofs.Video.Mirror
import Sensing.Proofs.Video.OwnImages

/-!
# Rounds of images

While streams are armed, an automatic device makes one image for each of them in each round. It
keeps a counter for each stream, by the stream's place, and the number of the round, and starts both
anew when streams are armed. So whatever else happens meanwhile, the images that it has made of an
armed mode since then are those of all rounds so far (`KeepsPace`); a record that tells them from
images that somebody else has delivered says which they are (`origins`).

Main result: `own_images_read_back`. Where a mode's images were all made by the device, the lanes of
the mode find in the image of the next round what the device has put there: the number of the image
and the time at which it was made, however often the counter has wrapped.
-/

namespace Sensing

-- `^` is the power of core, also beside a library that brings a more general one.
attribute [local instance (2000)] instPowNat

/-- A raw image that was shown to an endpoint. -/
structure ShownImage where
  mode : NativeMode
  data : Bytes
  /-- Whether the device made it on its own. -/
  own : Bool

/-- The images of a mode that the device made on its own. -/
def ownOf (m : NativeMode) (shown : List ShownImage) : List Bytes :=
  (shown.filter fun i => i.own && i.mode = m).map (·.data)

theorem ownOf_append (m : NativeMode) (shown shown' : List ShownImage) :
    ownOf m (shown ++ shown') = ownOf m shown ++ ownOf m shown' := by
  unfold ownOf
  rw [List.filter_append, List.map_append]

/-- A round has one image for each of its modes. -/
theorem ownOf_round {ms : List NativeMode} {m : NativeMode} (once : ms.Nodup) (hm : m ∈ ms)
    (image : NativeMode → Bytes) : ownOf m (ms.map fun n => ⟨n, image n, true⟩) = [image m] := by
  have others {ns : List NativeMode} (absent : m ∉ ns) :
      ownOf m (ns.map fun n => ⟨n, image n, true⟩) = [] := by
    unfold ownOf
    rw [List.map_eq_nil_iff, List.filter_eq_nil_iff]
    intro i hi
    obtain ⟨n, hn, rfl⟩ := List.mem_map.1 hi
    simp only [Bool.true_and, decide_eq_true_eq]
    exact fun same => absent (same ▸ hn)
  obtain ⟨before, after, rfl⟩ := List.append_of_mem hm
  obtain ⟨_, once, apart⟩ := List.nodup_append.1 once
  have here : ownOf m [⟨m, image m, true⟩] = [image m] := by simp [ownOf]
  rw [List.map_append, List.map_cons, List.append_cons, ownOf_append, ownOf_append, here,
    others fun old => apart m old m (List.mem_cons_self ..) rfl, others (List.nodup_cons.1 once).1]
  rfl

namespace VideoDevice

/-! ## Keeping pace -/

/-- The device has made an image of each armed mode in each round so far, and counts on from
there. -/
structure KeepsPace (shown : List ShownImage) (d : VideoDevice) : Prop where
  once : d.armedModes.Nodup
  counters : ∀ (i : Nat) (m : NativeMode), d.armedModes[i]? = some m →
    d.counters[i]?.getD 0 = UInt32.ofNat (d.rounds * m.ticksPerImage)
  images : ∀ m ∈ d.armedModes, ownOf m shown = m.ownImages d.rounds

variable {shown : List ShownImage} {d d' : VideoDevice}

/-- A device without armed streams makes no images to keep pace with. -/
theorem keepsPace_of_silent (silent : d.armed = []) : KeepsPace shown d := by
  have none : d.armedModes = [] := by
    unfold armedModes
    rw [silent, List.map_nil]
  refine ⟨?_, ?_, ?_⟩
  · rw [none]
    exact List.nodup_nil
  · intro i m hm
    rw [none] at hm
    cases hm
  · intro m hm
    rw [none] at hm
    cases hm

/-- Nothing but the armed modes and the pace matters. -/
theorem KeepsPace.congr (h : KeepsPace shown d) (modes : d'.armedModes = d.armedModes)
    (pace : d'.pace = d.pace) : KeepsPace shown d' := by
  obtain ⟨counters, rounds⟩ := Prod.mk.inj pace
  refine ⟨?_, ?_, ?_⟩
  · rw [modes]
    exact h.once
  · rw [modes, counters, rounds]
    exact h.counters
  · rw [modes, rounds]
    exact h.images

/-- Nor do images that the device did not make. -/
theorem KeepsPace.foreign (h : KeepsPace shown d) (m : NativeMode) (data : Bytes) :
    KeepsPace (shown ++ [⟨m, data, false⟩]) d := by
  refine ⟨h.once, h.counters, fun n hn => ?_⟩
  have none : ownOf n [⟨m, data, false⟩] = [] := rfl
  rw [ownOf_append, none, List.append_nil]
  exact h.images n hn

/-- The images of the next round. -/
theorem KeepsPace.ownImages (h : KeepsPace shown d) :
    d.ownImages = d.armedModes.map fun m => (m, m.ownImageAt d.rounds) := by
  refine List.ext_getElem? fun i => ?_
  unfold VideoDevice.ownImages
  show (d.armedModes.mapIdx _)[i]? = _
  rw [List.getElem?_mapIdx, List.getElem?_map]
  cases hm : d.armedModes[i]? with
  | none => rfl
  | some m =>
    show some (m, ownImage m (d.counters[i]?.getD 0) d.rounds) = _
    rw [h.counters i m hm]
    rfl

/-- An armed mode has one image in the round, and all others are of other modes. -/
theorem KeepsPace.split (h : KeepsPace shown d) {m : NativeMode} (armed : m ∈ d.armedModes) :
    ∃ before after, d.ownImages = before ++ (m, m.ownImageAt d.rounds) :: after ∧
      ∀ i ∈ before ++ after, i.1 ≠ m := by
  obtain ⟨before, after, split⟩ := List.append_of_mem armed
  have round := h.ownImages
  rw [split, List.map_append, List.map_cons] at round
  have once := h.once
  rw [split] at once
  obtain ⟨_, once, apart⟩ := List.nodup_append.1 once
  refine ⟨_, _, round, fun i hi => ?_⟩
  rcases List.mem_append.1 hi with hi | hi
  · obtain ⟨k, hk, rfl⟩ := List.mem_map.1 hi
    exact apart k hk m (List.mem_cons_self ..)
  · obtain ⟨k, hk, rfl⟩ := List.mem_map.1 hi
    exact fun same => (List.nodup_cons.1 once).1 (same ▸ hk)

/-- One more round. -/
theorem KeepsPace.nextRound (h : KeepsPace shown d) :
    KeepsPace (shown ++ d.ownImages.map fun i => ⟨i.1, i.2, true⟩) d.nextRound := by
  refine ⟨h.once, ?_, ?_⟩
  · intro i m hm
    have counter : d.nextRound.counters[i]? =
        some (d.counters[i]?.getD 0 + UInt32.ofNat m.ticksPerImage) := by
      show (d.armedModes.mapIdx _)[i]? = _
      rw [List.getElem?_mapIdx, show d.armedModes[i]? = some m from hm]
      rfl
    rw [counter, Option.getD_some, h.counters i m hm, ← UInt32.ofNat_add, ← Nat.succ_mul]
    rfl
  · intro m hm
    rw [ownOf_append, h.images m hm, h.ownImages, List.map_map]
    show m.ownImages d.rounds ++ ownOf m (d.armedModes.map fun n =>
      ⟨n, n.ownImageAt d.rounds, true⟩) = m.ownImages (d.rounds + 1)
    rw [ownOf_round h.once hm]
    unfold NativeMode.ownImages
    rw [List.range_succ, List.map_append]
    rfl

end VideoDevice

namespace VideoRig

open VideoDevice (KeepsPace)

/-! ## The record of origins -/

/-- Images are recorded from the arming of streams on, with their origins. -/
def origins : Recorder VideoRig ShownImage where
  shows x r := match x with
    | .deliver m data => [⟨m, data, false⟩]
    | .nextRound =>
      if r.machine.device.automatic then
        r.machine.device.ownImages.map fun i => ⟨i.1, i.2, true⟩
      else []
    | _ => []
  idle r := r.machine.device.armed.isEmpty

variable {capacity limit : Nat} {layout : ClockLayout} {device : VideoDevice}
  {plan : FaultPlan VideoCall} {c : Crowd VideoRig} {shown : List ShownImage} {r r' : VideoRig}
  {m : NativeMode}

/-- Without the origins it is the same record. -/
theorem images_of_origins {start : Crowd VideoRig} {admits : VideoOp → Prop}
    (h : Crowd.Recorded origins admits start c shown) :
    Crowd.Recorded images admits start c (shown.map fun i => (i.mode, i.data)) := by
  refine h.map _ (fun x r => ?_) fun _ => rfl
  cases x with
  | nextRound =>
    simp only [images, origins]
    split
    · rw [List.map_map]
      exact (List.map_id _).symm
    · rfl
  | _ => rfl

/-- Images that are taken in do not set the device forward. -/
theorem deliverTo_pace (place : Nat) (data : Bytes) (r : VideoRig) :
    (deliverTo place data r).machine.device.pace = r.machine.device.pace := by
  unfold deliverTo
  split <;> rfl

/-- Whoever has the lock may arm streams anew, and then everything starts from nothing. -/
theorem KeepsPace.move (h : KeepsPace shown r.machine.device) (may : streams.may r r') :
    KeepsPace (if origins.idle r then [] else shown) r'.machine.device := by
  obtain ⟨-, move⟩ := may
  cases move with
  | silent none => exact VideoDevice.keepsPace_of_silent none
  | kept armed pace _ _ =>
    by_cases idle : origins.idle r = true
    · exact VideoDevice.keepsPace_of_silent (armed.trans (List.isEmpty_iff.1 idle))
    · have modes : r'.machine.device.armedModes = r.machine.device.armedModes := by
        unfold VideoDevice.armedModes
        rw [armed]
      rw [if_neg idle]
      exact h.congr modes pace
  | started none armed pace _ =>
    have idle : origins.idle r = true := List.isEmpty_iff.2 none
    obtain ⟨counters, rounds⟩ := Prod.mk.inj pace
    have modes : r'.machine.device.armedModes = routedModes r'.own.configuration := by
      unfold VideoDevice.armedModes
      rw [armed, ← streamsAfter_nil, map_fst_streamsAfter]
    rw [if_pos idle]
    refine ⟨?_, ?_, ?_⟩
    · rw [modes]
      exact nodup_distinct _
    · intro i m _
      rw [counters, rounds, Nat.zero_mul]
      rfl
    · intro m _
      rw [rounds]
      rfl

/-- In a round every armed mode gets one image, and its counter moves on with it. -/
theorem KeepsPace.aside (h : KeepsPace shown r.machine.device) (x : VideoAside) :
    KeepsPace (shown ++ origins.shows x r) (x.apply r).machine.device := by
  have nothing {d : VideoDevice} (modes : d.armedModes = r.machine.device.armedModes)
      (pace : d.pace = r.machine.device.pace) : KeepsPace (shown ++ []) d := by
    rw [List.append_nil]
    exact h.congr modes pace
  have taken (place : Nat) (data : Bytes) (r' : VideoRig)
      (h : r'.machine.device.armedModes = r.machine.device.armedModes ∧
        r'.machine.device.pace = r.machine.device.pace) :
      (deliverTo place data r').machine.device.armedModes = r.machine.device.armedModes ∧
        (deliverTo place data r').machine.device.pace = r.machine.device.pace :=
    ⟨(deliverTo_modes place data r').trans h.1, (deliverTo_pace place data r').trans h.2⟩
  cases x with
  | deliver m data =>
    obtain ⟨modes, pace⟩ := deliver_induction taken m data ⟨rfl, rfl⟩
    exact (h.foreign m data).congr modes pace
  | nextRound =>
    show KeepsPace (shown ++ if r.machine.device.automatic then _ else [])
      (nextRound r).machine.device
    cases automatic : r.machine.device.automatic with
    | false =>
      rw [nextRound_of_idle automatic]
      exact nothing rfl rfl
    | true =>
      -- Deliveries do not set the device forward; the end of the round does.
      rw [nextRound_of_once automatic h.once]
      obtain ⟨modes, pace⟩ := deliveries_induction taken r.machine.device.ownImages ⟨rfl, rfl⟩
      have round := (h.congr modes pace).nextRound
      rw [(h.congr modes pace).ownImages, modes, (Prod.mk.inj pace).2, ← h.ownImages] at round
      exact round
  | core | registerUnit | registerProcessing | refusePowerOn | refuseCommit =>
    exact nothing rfl rfl

/-- So the device keeps pace whatever clients do. -/
theorem keepsPace_of_recorded (prompt : Prompt plan) (fresh : device.armed = [])
    (h : Crowd.Recorded origins VideoOp.SparesStreams (unattended capacity limit layout device plan)
      c shown) : KeepsPace shown c.rig.machine.device := by
  refine (Custody.invariant_of_recorded streams_fits
    (I := fun shown r => KeepsPace shown r.machine.device)
    (fun may holds => KeepsPace.move holds may) (fun x holds => KeepsPace.aside holds x) ?_ ?_ h).2
  · exact Custody.kept_of_rest ⟨prompt, fun _ => fresh⟩ rfl rfl
  · exact VideoDevice.keepsPace_of_silent fresh

/-! ## What lanes make of the images -/

/-- What a lane makes of the image that the device has made of the lane's mode after `n` others. -/
structure ReadsBack (layout : ClockLayout) (l : Lane) (data : Bytes) (n : Nat) : Prop where
  size : data.length = l.source.imageSize
  accepted : validImage l.source.imageSize data = true
  /-- The image is the lane's next. -/
  number : (l.count data).2.1 = n + 1
  /-- Its time is that at which the device made it. -/
  time : (l.count data).1 =
    .ofInt .double (((n * l.source.mode.ticksPerImage : Nat) : Int).tdiv layout.ticksPerUnit)
  /-- Frames of it that are handed over bear both. -/
  frames : ∀ core, ∀ f ∈ handed data l core, f.info.number = n + 1 ∧ f.info.timestamp =
    .ofInt .double (((n * l.source.mode.ticksPerImage : Nat) : Int).tdiv layout.ticksPerUnit)
  /-- The ticks counted fit into 64 bits. -/
  bounded : (l.pass data).clock.total.natAbs < 2 ^ 63

/-- The images shown of a mode, where the device made all of them. -/
theorem imagesOf_own (own : ∀ i ∈ shown, i.mode = m → i.own = true) :
    imagesOf m (shown.map fun i => (i.mode, i.data)) = ownOf m shown := by
  unfold imagesOf ownOf
  rw [List.filter_map, List.map_map]
  refine congrArg (List.map ShownImage.data) (List.filter_congr fun i hi => ?_)
  by_cases mode : i.mode = m
  · simp [mode, own i hi mode]
  · simp [mode]

/-- A lane that has seen all images before finds the number and the time in the next one. -/
theorem readsBack_of_own {l : Lane} {n : Nat}
    (lane : l = Lane.after layout l.source (l.source.mode.ownImages n))
    (code : l.source.mode.format = l.source.format.format) (format : l.source.format.BuiltIn)
    (room : 5 ≤ l.source.imageSize) (origin : layout.offset = 0) (scale : 0 < layout.ticksPerUnit)
    (range : n * 100000000 < 2 ^ 63) : ReadsBack layout l (l.source.mode.ownImageAt n) n := by
  have size : l.source.imageSize = l.source.mode.ownSize := imageSize_of_builtIn format code
  rw [size] at room
  obtain ⟨time, number, total⟩ := Lane.count_ownImage size room origin scale n
  rw [← lane] at time number total
  refine ⟨?_, ?_, number, time, fun core f hf => ?_, ?_⟩
  · rw [size]
    exact length_ownImage ..
  · rw [size]
    exact validImage_ownImage room _ n
  · obtain ⟨stamped, numbered⟩ := Lane.stamp_of_mem (mem_handed hf)
    exact ⟨numbered.trans number, stamped.trans time⟩
  · rw [total, Int.natAbs_natCast]
    exact Nat.lt_of_le_of_lt (Nat.mul_le_mul_left n l.source.mode.ticksPerImage_le) range

/-- Deliveries of other modes leave the lanes of a mode alone. -/
theorem sink?_after_others {is : List (NativeMode × Bytes)}
    {seen : List (NativeMode × Bytes)} {lanes : List Lane} (streaming : Streaming layout seen r)
    (armed : r.machine.device.sink? m = some (.lanes lanes)) (others : ∀ i ∈ is, i.1 ≠ m) :
    (is.foldl (fun r i => (deliver i.1 i.2 r).2) r).machine.device.sink? m =
      some (.lanes lanes) := by
  obtain ⟨hlanes, -, streams⟩ := streaming.sink armed
  cases hlanes
  obtain ⟨configuration, modes⟩ := deliveries_induction
    (P := fun r' => r'.own.configuration = r.own.configuration ∧
      r'.machine.device.armedModes = r.machine.device.armedModes)
    (fun place data r' h => ⟨(deliverTo_tame place data r').configuration.trans h.1,
      (deliverTo_modes place data r').trans h.2⟩) is ⟨rfl, rfl⟩
  have member : m ∈ r.machine.device.armedModes :=
    List.mem_map_of_mem (VideoDevice.mem_armed_of_sink? armed)
  rw [← modes] at member
  -- The modes that are armed are the same, so the streams are still those of the configuration.
  rcases (streaming.deliveries is).armed with none | ⟨streams', -⟩
  · unfold VideoDevice.armedModes at member
    rw [none] at member
    cases member
  · have unseen : imagesOf m is = [] := by
      unfold imagesOf
      rw [List.map_eq_nil_iff, List.filter_eq_nil_iff]
      intro i hi
      simpa using others i hi
    have lanes : lanesAfter layout r.own.configuration (seen ++ is) m =
        lanesAfter layout r.own.configuration seen m := by
      unfold lanesAfter
      rw [imagesOf_append, unseen, List.append_nil]
    have routed : m ∈ routedModes r.own.configuration := by
      unfold VideoDevice.armedModes at member
      rw [streams', streamsAfter, List.map_map, configuration] at member
      obtain ⟨n, routed, rfl⟩ := List.mem_map.1 member
      exact routed
    unfold VideoDevice.sink?
    rw [streams', streamsAfter, VideoDevice.find?_streams, configuration, if_pos routed, lanes]

/-- In the next round the device shows the lanes of each armed mode one image. If the images shown
of the mode since the streams were armed were all its own, it is the one that follows these, and
where the mode is read through a built-in format, every lane finds in it what the device has put
there. -/
theorem own_images_read_back (prompt : Prompt plan) (fresh : device.armed = [])
    (h : Crowd.Recorded origins VideoOp.SparesStreams (unattended capacity limit layout device plan)
      c shown) (automatic : c.rig.machine.device.automatic = true)
    {sink : VideoSink} (armed : c.rig.machine.device.sink? m = some sink)
    (own : ∀ i ∈ shown, i.mode = m → i.own = true)
    (origin : layout.offset = 0) (scale : 0 < layout.ticksPerUnit)
    {n : Nat} (rounds : c.rig.machine.device.rounds = n) (range : n * 100000000 < 2 ^ 63) :
    -- The device has made as many images of the mode as there were rounds.
    (shown.filter fun i => i.mode = m).map (·.data) = m.ownImages n ∧
    ∃ lanes, sink = .lanes lanes ∧
      lanes.map (·.source) =
        (c.rig.own.configuration.map (·.source)).filter (fun s => s.mode = m) ∧
      -- The next one reaches the lanes as they are.
      (∃ before after, c.rig.machine.device.ownImages = before ++ (m, m.ownImageAt n) :: after ∧
        (∀ i ∈ before ++ after, i.1 ≠ m) ∧
        let reached := before.foldl (fun r i => (deliver i.1 i.2 r).2) c.rig
        reached.machine.device.sink? m = some (.lanes lanes) ∧
        nextRound c.rig = mapDevice (·.nextRound) (after.foldl (fun r i => (deliver i.1 i.2 r).2)
          (deliver m (m.ownImageAt n) reached).2)) ∧
      ∀ l ∈ lanes, l.source.format.BuiltIn → 5 ≤ l.source.imageSize →
        ReadsBack layout l (m.ownImageAt n) n := by
  have pace := keepsPace_of_recorded prompt fresh h
  obtain ⟨-, streaming⟩ := streams_of_recorded prompt fresh (images_of_origins h)
  have sourced := sourced_of_reaches fresh (h.reaches.of_admitted fun _ => armsTaps_of_spares)
  obtain ⟨rfl, -, -⟩ := streaming.sink armed
  have place := VideoDevice.mem_armed_of_sink? armed
  have member : m ∈ c.rig.machine.device.armedModes := List.mem_map_of_mem place
  have made : imagesOf m (shown.map fun i => (i.mode, i.data)) = m.ownImages n := by
    rw [imagesOf_own own, pace.images m member, rounds]
  refine ⟨?_, _, rfl, lanesAfter_sources .., ?_, ?_⟩
  · rw [← made]
    unfold imagesOf
    rw [List.filter_map, List.map_map]
    rfl
  · obtain ⟨before, after, round, others⟩ := pace.split member
    rw [rounds] at round
    refine ⟨_, _, round, others, ?_, ?_⟩
    · exact sink?_after_others streaming armed fun i hi =>
        others i (List.mem_append_left _ hi)
    · rw [nextRound_of_once automatic pace.once, round, List.foldl_append, List.foldl_cons]
  · intro l hl format room
    obtain ⟨⟨modes, listed⟩, -⟩ := (sourced.armed _ place).1
    have mode : l.source.mode = m := (sourced.armed _ place).2 l hl
    have code := (listed l.source (List.mem_map_of_mem hl)).code
    have lane := after_of_mem hl
    rw [made, ← mode] at lane
    rw [← mode]
    exact readsBack_of_own lane code format room origin scale range

/-! ## A counter that wraps -/

/-- The mode of a slow infrared camera. -/
def slow : NativeMode := ⟨5, 1, 1, .grey⟩

/-- A new endpoint of a camera that makes images on its own. -/
def slowEndpoint : Crowd VideoRig :=
  unattended 4 4 {} { offered := [slow], automatic := true } .sound

/-- In the first 43 rounds, one a second, the counter has wrapped: it stands at 5032704. The next
image is number 44 all the same, and its time that of 43 seconds. -/
theorem slow_reads_back : ∃ (c : Crowd VideoRig) (l : Lane) (ls : List Lane),
    c.rig.machine.device.sink? slow = some (.lanes (l :: ls)) ∧
    c.rig.machine.device.counters = [5032704] ∧
    ReadsBack {} l (slow.ownImageAt 43) 43 ∧
    handed (slow.ownImageAt 43) l c.rig.core ≠ [] ∧
    ∀ f ∈ handed (slow.ownImageAt 43) l c.rig.core,
      f.info.number = 44 ∧ f.info.timestamp = .ofInt .double 43000 := by
  let register : VideoAside := .core (.registerFormat .y8)
  let opening : VideoOp := .openStreams [{ channel := .infrared }]
  let starting : VideoOp := .start fun _ => .release
  have computed : (do
      let r ← Served.inTurn? [opening, starting] (register.apply slowEndpoint.rig)
      let r := nextRound^[43] r
      let l ← (r.lanesAt slow).head?
      return decide (r.machine.device.automatic = true ∧ r.machine.device.rounds = 43 ∧
        r.machine.device.counters = [5032704] ∧ l.source.format.BuiltIn ∧
        l.source.imageSize = 5 ∧ l.source.mode = slow ∧
        (handed (slow.ownImageAt 43) l r.core).length ≠ 0)) = some true := by
    decide +kernel
  simp only [Option.bind_eq_bind, Option.bind_eq_some_iff, Option.pure_def, Option.some.injEq,
    decide_eq_true_eq, ne_eq, List.length_eq_zero_iff] at computed
  obtain ⟨r', streams, l, first, automatic, rounds, counters, format, size, mode,
    some⟩ := computed
  obtain ⟨ls, lanes⟩ := List.head?_eq_some_iff.1 first
  have armed := sink?_of_lanesAt lanes
  have fresh : Crowd.Recorded origins VideoOp.SparesStreams slowEndpoint slowEndpoint [] := .start
  have atStarted := (fresh.aside register).inTurn rfl streams
  -- Rounds show nothing but the device's own images.
  have later (k : Nat) : ∃ shown, Crowd.Recorded origins VideoOp.SparesStreams slowEndpoint
      { slowEndpoint with rig := nextRound^[k] r' } shown ∧ ∀ i ∈ shown, i.own = true := by
    induction k with
    | zero => exact ⟨[], atStarted, List.forall_mem_nil _⟩
    | succ k ih =>
      obtain ⟨shown, recorded, own⟩ := ih
      rw [Function.iterate_succ_apply']
      refine ⟨_, recorded.aside VideoAside.nextRound, List.forall_mem_append.2 ⟨own, ?_⟩⟩
      intro i hi
      simp only [origins] at hi
      split at hi
      · obtain ⟨_, -, rfl⟩ := List.mem_map.1 hi
        rfl
      · cases hi
  obtain ⟨shown, recorded, own⟩ := later 43
  generalize nextRound^[43] r' = now at *
  obtain ⟨-, lanes', same, -, -, each⟩ := own_images_read_back punctual_sound.prompt rfl recorded
    automatic armed (fun i hi _ => own i hi) rfl (by decide) rounds (by decide)
  cases same
  have back := each l (List.mem_cons_self ..) format (Nat.le_of_eq size.symm)
  have frames := back.frames now.core
  have seconds : ((43 * slow.ticksPerImage : Nat) : Int).tdiv ({} : ClockLayout).ticksPerUnit =
      43000 := by decide +kernel
  rw [mode, seconds] at frames
  exact ⟨{ slowEndpoint with rig := now }, l, ls, armed, counters, back, some, frames⟩

end VideoRig

end Sensing
