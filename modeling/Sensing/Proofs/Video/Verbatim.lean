import Sensing.Proofs.Video.Lockstep
import Sensing.Proofs.Video.Mirror
import Sensing.Proofs.Video.OwnImages

/-!
# Images in the built-in formats are passed on verbatim

Three rules decide how much of a raw image gets into a frame, and they were written apart from each
other: a lane asks whether the image has as many bytes as its format says, a frame has as many bytes
as its encoding says, and the unpacker copies as many as both the image and the frame have. For the
built-in formats the first two agree, whatever the dimensions (`outputSize_of_builtIn`). So an image
that is long enough fills its frame, and what it has beyond that is cut off; one that is too short
makes no frame, so no frame is ever padded.

Main result: `built_in_images_verbatim`, for every run of any number of clients on a device that
does not fail.
-/

namespace Sensing

/-- A raw image has as many bytes as expected, and not all of these are zero. -/
def Presentable (size : Nat) (data : Bytes) : Prop :=
  size ≤ data.length ∧ ∃ b ∈ data.take size, b ≠ 0

/-- The check of an image, spelled out. -/
theorem validImage_iff {size : Nat} {data : Bytes} :
    validImage size data = true ↔ Presentable size data := by
  unfold validImage Presentable
  simp

namespace PixelFormat

/-- A built-in format copies its one plane to one output, whose pixels are as large as its own. -/
theorem single_of_builtIn {pf : PixelFormat} (h : pf ∈ builtIn) : ∃ code channel encoding,
    pf = single code encoding.bytesPerPixel channel encoding ∧ encoding.bytesPerPixel ≠ 0 := by
  simp only [builtIn, List.mem_cons, List.not_mem_nil, or_false] at h
  rcases h with rfl | rfl | rfl
  · exact ⟨.yuy2, .color, .yuyv, rfl, by decide⟩
  · exact ⟨.z16, .depth, .z16, rfl, by decide⟩
  · exact ⟨.grey, .infrared, .y8, rfl, by decide⟩

end PixelFormat

namespace Source

variable {formats : List PixelFormat} {modes : List NativeMode} {s : Source}

/-- A source of a built-in format has one output, and a frame of it has the size of an image. -/
theorem output_of_builtIn (listed : s.Listed formats modes)
    (builtIn : s.format ∈ PixelFormat.builtIn) : ∃ output : Channel × Encoding,
    s.unpacker = ⟨false, .copy, [output]⟩ ∧
      ∀ rawLength, s.outputSize output.2 rawLength = s.imageSize := by
  obtain ⟨code, channel, encoding, format, fixed⟩ := PixelFormat.single_of_builtIn builtIn
  have unpacker := listed.unpacker
  rw [format] at unpacker
  obtain ⟨_, only⟩ := List.getElem?_eq_some_iff.1 unpacker
  refine ⟨(channel, encoding), ?_, fun rawLength => ?_⟩
  · rw [← only]
    exact List.getElem_singleton _
  · unfold outputSize imageSize PixelFormat.imageSize
    rw [if_neg fixed, format]
    simp only [PixelFormat.single]
    rw [Nat.mul_one, Nat.mul_assoc, Nat.mul_comm]

end Source

namespace Lane

variable {formats : List PixelFormat} {modes : List NativeMode} {l : Lane}

/-- What such a lane makes of an image is one frame with the front of it. -/
theorem frames_of_builtIn (listed : l.source.Listed formats modes)
    (builtIn : l.source.format ∈ PixelFormat.builtIn) {data : Bytes}
    (long : l.source.imageSize ≤ data.length) (hostTime : Double) :
    ∃ info, l.frames data hostTime = [⟨data.take l.source.imageSize, info⟩] := by
  obtain ⟨output, unpacker, size⟩ := Source.output_of_builtIn listed builtIn
  refine ⟨l.infoOf (l.count data).1 hostTime (l.count data).2.1 output, ?_⟩
  unfold frames draftsOf drafts decode
  rw [unpacker]
  simp only [List.map_cons, List.map_nil, FrameDraft.blank, Decoder.copy, List.zipWith_cons_cons,
    List.zipWith_nil_left, size, overwrite_zeros long]
  rfl

end Lane

namespace VideoRig

variable {m : NativeMode} {data : Bytes} {l : Lane} {c : Core}

/-- What a lane does with a raw image that finds the endpoint at `c` and leaves it at `c'`: if the
image is presentable it hands its front over, in one frame for which the callback is called, and
otherwise nothing. -/
structure PassesOn (l : Lane) (data : Bytes) (c c' : Core) : Prop where
  front : Presentable l.source.imageSize data → ∃ info log,
    c' = Core.offer ⟨data.take l.source.imageSize, info⟩ { c with pool := c.pool.draw 1, log } ∧
      ∀ k, c.consumer = some k → Core.Called k [⟨data.take l.source.imageSize, info⟩] c c'
  nothing : ¬ Presentable l.source.imageSize data → c' = { c with log := c'.log }

/-- There is one output in a built-in format, and its frame is as long as the image has to be. -/
theorem deliverLane_passesOn {formats : List PixelFormat} {modes : List NativeMode}
    (listed : l.source.Listed formats modes) (builtIn : l.source.format ∈ PixelFormat.builtIn)
    (room : c.pool.published < c.pool.bound) : PassesOn l data c (deliverLane m data l c).2 where
  front presentable := by
    have accepted : l.accepts data = true := validImage_iff.2 presentable
    obtain ⟨output, unpacker, -⟩ := Source.output_of_builtIn listed builtIn
    have one : l.source.unpacker.outputs.length = 1 := by rw [unpacker]; rfl
    obtain ⟨-, log, delivered⟩ := deliverLane_of_room (m := m) (c := c) accepted (by omega)
    obtain ⟨info, frames⟩ := Lane.frames_of_builtIn listed builtIn presentable.1 c.hostTime
    rw [frames, one] at delivered
    refine ⟨info, log, delivered, fun k registered => ?_⟩
    rw [delivered]
    exact Core.called_drawn registered _ _ [_]
  nothing unpresentable := by
    have refused : l.accepts data = false := by
      rw [← Bool.not_eq_true]
      exact fun accepted => unpresentable (validImage_iff.1 accepted)
    exact (deliverLane_of_invalid refused).2

/-! ## While a device streams that does not fail -/

variable {capacity limit : Nat} {layout : ClockLayout} {offered : List NativeMode}
  {automatic : Bool} {c : Crowd VideoRig}

theorem obliging_sound : Obliging .sound := ⟨punctual_sound, fun _ _ => rfl⟩

/-- Between operations every mode of the configuration is armed while the endpoint streams. -/
theorem armed_while_streaming (h : Crowd.Reaches VideoOp.SparesModes
      (unattended capacity limit layout { offered, automatic } .sound) c)
    (free : c.holder = none) (streaming : c.rig.core.streaming = true) {route : Route}
    (configured : route ∈ c.rig.own.configuration) :
    (c.rig.machine.device.sink? route.source.mode).isSome := by
  have fresh : mirror.sees Usage.Mirrored
      (unattended capacity limit layout { offered, automatic } .sound).rig :=
    ⟨obliging_sound, .closed, ⟨⟨rfl, rfl⟩, rfl, rfl, rfl⟩, .closed⟩
  have kept := Custody.kept_of_reaches mirror_fits (Custody.kept_of_rest fresh rfl rfl) h
  obtain ⟨-, u, known, mirrored⟩ := kept.at_rest free
  have routed : route.source.mode ∈ c.rig.machine.device.armed.map (·.1) := by
    have streams := known.phase.streaming.symm.trans streaming
    have configuration := known.configuration
    rw [known.armed]
    cases mirrored with
    | closed | opened => cases streams
    | streaming routes =>
      rw [configuration] at configured
      exact mem_distinct.2 (List.mem_map_of_mem configured)
  obtain ⟨s, armed, mode⟩ := List.mem_map.1 routed
  unfold VideoDevice.sink?
  rw [Option.isSome_map, List.find?_isSome]
  exact ⟨s, armed, decide_eq_true mode⟩

theorem sparesStreams_of_sparesModes {op : VideoOp} (h : op.SparesModes) : op.SparesStreams :=
  h.mono spares_of_unmanaged

/-- A raw image of a mode passes the lanes of the mode's routes, in the order of the configuration.
Each lane of a built-in format that finds room for a frame hands over the front of the image, and
does so if and only if the image is presentable. -/
theorem built_in_images_verbatim (h : Crowd.Reaches VideoOp.SparesModes
      (unattended capacity limit layout { offered, automatic } .sound) c) :
    -- While the endpoint streams there are lanes for every route.
    (c.holder = none → c.rig.core.streaming = true → ∀ route ∈ c.rig.own.configuration,
      (c.rig.machine.device.sink? route.source.mode).isSome) ∧
    ∀ m sink, c.rig.machine.device.sink? m = some sink → ∃ lanes, sink = .lanes lanes ∧
      lanes.map (·.source) =
        (c.rig.own.configuration.map (·.source)).filter (fun s => s.mode = m) ∧
      ∀ data, (deliver m data c.rig).2.core = (deliverLanes m data lanes c.rig.core).2 ∧
        ∀ before l after, lanes = before ++ l :: after →
          l.source.format ∈ PixelFormat.builtIn →
          -- The endpoint as the lanes before this one have left it, and as this one leaves it.
          let reached := (deliverLanes m data before c.rig.core).2
          let left := (deliverLane m data l reached).2
          (deliverLanes m data lanes c.rig.core).2 = (deliverLanes m data after left).2 ∧
            reached.consumer.isSome ∧
            (reached.pool.published < min reached.pool.limit reached.pool.capacity →
              PassesOn l data reached left) := by
  have spares := h.of_admitted fun _ => sparesStreams_of_sparesModes
  obtain ⟨shown, recorded⟩ := Crowd.recorded_of_reaches images spares
  obtain ⟨-, streaming⟩ := streaming_of_recorded punctual_sound rfl recorded
  obtain ⟨modes, listed⟩ :=
    (sourced_of_reaches rfl (spares.of_admitted fun _ => armsTaps_of_spares)).configuration.listed
  refine ⟨fun free streams route => armed_while_streaming h free streams, ?_⟩
  intro m sink armed
  obtain ⟨rfl, consumer, -⟩ := streaming.sink armed
  refine ⟨_, rfl, lanesAfter_sources .., fun data => ⟨?_, fun before l after split builtIn => ?_⟩⟩
  · exact (deliver_of_lanes armed data).1
  · obtain ⟨configured, -⟩ := source_of_mem (split ▸ List.mem_append_right before
      (List.mem_cons_self ..) : l ∈ lanesAfter layout c.rig.own.configuration shown m)
    refine ⟨?_, deliverLanes_consumer before consumer,
      deliverLane_passesOn (listed _ configured) builtIn⟩
    rw [split, deliverLanes_split]

/-- Opened and started, a small infrared camera has a lane of a built-in format, which finds room
for a frame. -/
theorem infrared_streams : ∃ (c : Crowd VideoRig) (l : Lane) (ls : List Lane),
    Crowd.Reaches VideoOp.SparesModes infraredEndpoint c ∧
    c.rig.machine.device.sink? infrared = some (.lanes (l :: ls)) ∧
    l.source.format ∈ PixelFormat.builtIn ∧ l.source.imageSize = 2 ∧
    c.rig.core.pool.published < min c.rig.core.pool.limit c.rig.core.pool.capacity := by
  let gray : VideoAside := .core (.registerFormat .y8)
  let opening : VideoOp := .openStreams [{ channel := .infrared }]
  let starting : VideoOp := .start fun _ => .hold
  have computed : (do
      let r ← Served.inTurn? [opening, starting] (gray.apply infraredEndpoint.rig)
      let l ← (r.lanesAt infrared).head?
      return decide (l.source.formatIndex = 0) && decide (l.source.imageSize = 2) &&
        decide (r.core.pool.published < min r.core.pool.limit r.core.pool.capacity)) =
      some true := by
    decide +kernel
  simp only [Option.bind_eq_bind, Option.bind_eq_some_iff, Option.pure_def, Option.some.injEq,
    Bool.and_eq_true, decide_eq_true_eq] at computed
  obtain ⟨r, streams, l, first, ⟨place, size⟩, room⟩ := computed
  obtain ⟨ls, lanes⟩ := List.head?_eq_some_iff.1 first
  have fresh : Crowd.Reaches VideoOp.SparesModes infraredEndpoint infraredEndpoint := .refl
  have registered := fresh.aside gray
  have idle : Crowd.Reaches VideoOp.SparesModes
      { infraredEndpoint with rig := gray.apply infraredEndpoint.rig }
      { infraredEndpoint with rig := gray.apply infraredEndpoint.rig } := .refl
  have onward := idle.inTurn rfl streams
  have reached : Crowd.Reaches VideoOp.SparesModes infraredEndpoint _ := registered.trans onward
  have armed : r.machine.device.sink? infrared = some (.lanes (l :: ls)) := sink?_of_lanesAt lanes
  refine ⟨_, l, ls, reached, armed, ?_, size, room⟩
  -- Formats are no data that could be compared, so the lane's is known by its place.
  obtain ⟨shown, recorded⟩ := Crowd.recorded_of_reaches images
    (reached.of_admitted fun _ => sparesStreams_of_sparesModes)
  obtain ⟨-, streaming⟩ := streaming_of_recorded punctual_sound rfl recorded
  obtain ⟨same, -, -⟩ := streaming.sink armed
  have listed : l ∈ lanesAfter {} r.own.configuration shown infrared :=
    VideoSink.lanes.inj same ▸ List.mem_cons_self ..
  have taps {c c' : Crowd VideoRig} (h : Crowd.Reaches VideoOp.SparesModes c c') :
      Crowd.Reaches VideoOp.ArmsTaps c c' :=
    h.of_admitted fun _ spares => armsTaps_of_spares (sparesStreams_of_sparesModes spares)
  have there : [PixelFormat.y8][l.source.formatIndex]? = some .y8 := by
    rw [place]
    rfl
  rw [format_of_configured rfl (taps registered) (taps onward)
    (source_of_mem listed).1 there]
  exact List.mem_of_getElem? (i := 2) rfl

/-- A small infrared camera shows an image with one byte too many, and one whose front is blank. -/
theorem infrared_verbatim : ∃ (c : Crowd VideoRig) (l : Lane) (ls : List Lane),
    Crowd.Reaches VideoOp.SparesModes infraredEndpoint c ∧
    c.rig.machine.device.sink? infrared = some (.lanes (l :: ls)) ∧
    l.source.format ∈ PixelFormat.builtIn ∧
    c.rig.core.pool.published < min c.rig.core.pool.limit c.rig.core.pool.capacity ∧
    Presentable l.source.imageSize [1, 2, 3] ∧ ¬ Presentable l.source.imageSize [0, 0, 3] ∧
    (∃ info log, (deliverLane infrared [1, 2, 3] l c.rig.core).2 =
      Core.offer ⟨[1, 2], info⟩ { c.rig.core with pool := c.rig.core.pool.draw 1, log }) ∧
    ∃ log, (deliverLane infrared [0, 0, 3] l c.rig.core).2 = { c.rig.core with log } := by
  obtain ⟨c, l, ls, reached, armed, builtIn, size, room⟩ := infrared_streams
  obtain ⟨-, each⟩ := built_in_images_verbatim reached
  obtain ⟨_, hlanes, -, passes⟩ := each infrared _ armed
  cases hlanes
  have passedOn (data : Bytes) :
      PassesOn l data c.rig.core (deliverLane infrared data l c.rig.core).2 := by
    obtain ⟨-, -, passesOn⟩ := (passes data).2 [] l ls rfl builtIn
    exact passesOn room
  have some : Presentable l.source.imageSize [1, 2, 3] := by
    rw [size]
    exact ⟨by decide, 1, by decide, by decide⟩
  have blank : ¬ Presentable l.source.imageSize [0, 0, 3] := by
    rw [size]
    rintro ⟨-, b, hb, nonzero⟩
    simp_all
  obtain ⟨info, log, front, -⟩ := (passedOn [1, 2, 3]).front some
  rw [size] at front
  exact ⟨_, l, ls, reached, armed, builtIn, room, some, blank, ⟨info, log, front⟩,
    ⟨_, (passedOn [0, 0, 3]).nothing blank⟩⟩

end VideoRig

end Sensing
