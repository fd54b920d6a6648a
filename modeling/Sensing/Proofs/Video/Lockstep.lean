import Sensing.Proofs.Video.CurrentSession
import Sensing.Proofs.Video.SourceOperations

/-!
# Lanes of one image are in step

Routes that share a mode and a pixel format, but not an unpacker, have lanes of their own, each
with its own clock. What a lane does to its clock hangs on the image and on the size of a valid
one, which is the same for both, and not on whether there is room for its frames. So the clocks of
two such lanes are the same at all times, and however many images either of them has lost, frames
of an image that both hand over bear one time and one number.

Main result: `lanes_in_step`, for every run in which streams are armed and disarmed when the
endpoint thinks so.
-/

namespace Sensing

namespace Lane

variable {l l' : Lane} {s t : Source} {layout : ClockLayout} {data : Bytes} {f : Frame}

/-- Of an image a clock takes in the same, whichever lane it belongs to. -/
theorem pass_clock (clock : l.clock = l'.clock) (size : l.source.imageSize = l'.source.imageSize)
    (data : Bytes) : (l.pass data).clock = (l'.pass data).clock := by
  have judged : l.accepts data = l'.accepts data := by
    unfold accepts
    rw [size]
  unfold pass
  rw [judged]
  split
  · unfold count
    rw [clock]
  · exact clock

/-- What a clock has gone through hangs on the images and on the size of a valid one. -/
theorem after_clock (size : s.imageSize = t.imageSize) (images : List Bytes) :
    (after layout s images).clock = (after layout t images).clock := by
  induction images using List.reverseRecOn with
  | nil => rfl
  | append_singleton images data ih =>
    rw [after_concat, after_concat]
    refine pass_clock ih ?_ data
    rw [after_source, after_source, size]

/-- All frames of an image bear the time and the number that the clock gives it. -/
theorem stamp_of_mem {hostTime : Double} (h : f ∈ l.frames data hostTime) :
    f.info.timestamp = (l.count data).1 ∧ f.info.number = (l.count data).2.1 := by
  have infos := List.mem_map_of_mem (f := Frame.info) h
  rw [frames_info] at infos
  obtain ⟨output, -, info⟩ := List.mem_map.1 infos
  rw [← info]
  simp only [infoOf, and_self]

end Lane

namespace VideoRig

variable {capacity limit : Nat} {layout : ClockLayout} {device : VideoDevice}
  {plan : FaultPlan VideoCall} {c : Crowd VideoRig} {shown : List (NativeMode × Bytes)}
  {m : NativeMode} {data : Bytes} {l l' : Lane}

/-- What is handed over is always among the frames that the lane makes. -/
theorem mem_handed {core : Core} {f : Frame} (h : f ∈ handed data l core) :
    f ∈ l.frames data core.hostTime := by
  rcases handed_eq l.source.mode data l core with none | all
  · rw [none] at h
    cases h
  · rwa [all] at h

/-- Two lanes make the same of a raw image, but for what their unpackers do. -/
structure InStep (data : Bytes) (l l' : Lane) : Prop where
  judged : l.accepts data = l'.accepts data
  /-- They have taken in the same before, and will have after it. -/
  clock : l.clock = l'.clock ∧ (l.pass data).clock = (l'.pass data).clock
  /-- Where both hand over frames, be there room or not for those of other images and other lanes,
  the frames bear one number and one time. -/
  stamped : ∀ core core', ∀ f ∈ handed data l core, ∀ f' ∈ handed data l' core',
    f.info.number = f'.info.number ∧ f.info.timestamp = f'.info.timestamp

/-- Clocks that agree before the image agree after it. -/
theorem inStep_of_clock (clock : l.clock = l'.clock)
    (size : l.source.imageSize = l'.source.imageSize) : InStep data l l' where
  judged := by
    unfold Lane.accepts
    rw [size]
  clock := ⟨clock, Lane.pass_clock clock size data⟩
  stamped core core' f hf f' hf' := by
    have counted : (l.count data).1 = (l'.count data).1 ∧
        (l.count data).2.1 = (l'.count data).2.1 := by
      unfold Lane.count
      rw [clock]
      exact ⟨rfl, rfl⟩
    obtain ⟨time, number⟩ := Lane.stamp_of_mem (mem_handed hf)
    obtain ⟨time', number'⟩ := Lane.stamp_of_mem (mem_handed hf')
    exact ⟨number.trans (counted.2.trans number'.symm), time.trans (counted.1.trans time'.symm)⟩

/-- Applications that arm no streams arm nothing but taps. -/
theorem armsTaps_of_spares {op : VideoOp} (h : op.SparesStreams) : op.ArmsTaps :=
  h.mono fun c spares streams arms => by
    rw [arms] at spares
    cases spares

/-- A raw image of an armed mode passes a lane for each route of the mode, and the lanes of routes
whose sources are in one place among the registered formats are in step. -/
theorem lanes_in_step (prompt : Prompt plan) (fresh : device.armed = [])
    (h : Crowd.Recorded images VideoOp.SparesStreams (unattended capacity limit layout device plan)
      c shown) {sink : VideoSink} (armed : c.rig.machine.device.sink? m = some sink)
    (data : Bytes) :
    ∃ lanes, sink = .lanes lanes ∧
      lanes.map (·.source) =
        (c.rig.own.configuration.map (·.source)).filter (fun s => s.mode = m) ∧
      (deliver m data c.rig).2.core.heard =
        ((handedBy m data lanes c.rig.core).foldl (fun core f => core.offer f)
          c.rig.core).heard ∧
      ∀ l ∈ lanes, ∀ l' ∈ lanes, l.source.formatIndex = l'.source.formatIndex →
        InStep data l l' := by
  obtain ⟨-, streaming⟩ := streams_of_recorded prompt fresh h
  obtain ⟨rfl, -, -⟩ := streaming.sink armed
  have sourced := sourced_of_reaches fresh (h.reaches.of_admitted fun _ => armsTaps_of_spares)
  refine ⟨_, rfl, lanesAfter_sources .., ?_, fun l hl l' hl' place => ?_⟩
  · rw [(deliver_of_lanes armed data).1]
    exact deliverLanes_heard _ _
  · obtain ⟨mem, mode⟩ := source_of_mem hl
    obtain ⟨mem', mode'⟩ := source_of_mem hl'
    -- Routes of one place have one format, and with one mode the images are of one size.
    have format := sourced.configuration.format_of_place mem mem' place
    have size : l.source.imageSize = l'.source.imageSize := by
      unfold Source.imageSize
      rw [format, mode, mode']
    refine inStep_of_clock ?_ size
    rw [after_of_mem hl, after_of_mem hl']
    exact Lane.after_clock size _

/-! ## Two unpackers of one format -/

/-- Infrared, unpacked for either of two channels. -/
def stereo : PixelFormat :=
  ⟨.grey, 1, 1, [⟨false, .copy, [(.infrared, .y8)]⟩, ⟨false, .copy, [(.infrared2, .y8)]⟩]⟩

/-- Of the first image only the first lane's frame finds room; after that there is room for both. -/
theorem stereo_in_step : ∃ (c : Crowd VideoRig) (l l' : Lane),
    Crowd.Recorded images VideoOp.SparesStreams infraredEndpoint c [(infrared, [1, 2])] ∧
    c.rig.machine.device.sink? infrared = some (.lanes [l, l']) ∧
    l.source.formatIndex = l'.source.formatIndex ∧
    c.rig.core.delivered.map (·.info.channel) = [.infrared] ∧
    (handed [3, 4] l c.rig.core).map (·.info.number) = [2] ∧
    handed [3, 4] l' c.rig.core ≠ [] ∧
    ∀ f ∈ handed [3, 4] l c.rig.core, ∀ f' ∈ handed [3, 4] l' c.rig.core,
      f.info.number = f'.info.number ∧ f.info.timestamp = f'.info.timestamp := by
  let register : VideoAside := .core (.registerFormat stereo)
  let opening : VideoOp := .openStreams [{ channel := .infrared }, { channel := .infrared2 }]
  let starting : VideoOp := .start fun _ => .hold
  let scarce : VideoAside := .core (.setLimit 1)
  let first : VideoAside := .deliver infrared [1, 2]
  let ample : VideoAside := .core (.setLimit 4)
  -- With one buffer the first image finds room in one lane only; with four the second finds room in
  -- both.
  have computed : (do
      let r ← Served.inTurn? [opening, starting] (register.apply infraredEndpoint.rig)
      let r := ample.apply (first.apply (scarce.apply r))
      let l ← (r.lanesAt infrared)[0]?
      let l' ← (r.lanesAt infrared)[1]?
      return decide ((r.lanesAt infrared).length = 2 ∧
        l.source.formatIndex = l'.source.formatIndex ∧
        r.core.delivered.map (·.info.channel) = [.infrared] ∧
        (handed [3, 4] l r.core).map (·.info.number) = [2] ∧
        (handed [3, 4] l' r.core).length ≠ 0)) = some true := by
    decide +kernel
  simp only [Option.bind_eq_bind, Option.bind_eq_some_iff, Option.pure_def, Option.some.injEq,
    decide_eq_true_eq, ne_eq, List.length_eq_zero_iff] at computed
  obtain ⟨r, streams, l, atFirst, l', atSecond, two, place, heard, numbered,
    some⟩ := computed
  have fresh : Crowd.Recorded images VideoOp.SparesStreams infraredEndpoint infraredEndpoint [] :=
    .start
  have atStarted := (fresh.aside register).inTurn rfl streams
  have recorded := ((atStarted.aside scarce).aside first).aside ample
  have lanes : (ample.apply (first.apply (scarce.apply r))).lanesAt infrared = [l, l'] := by
    obtain ⟨_, _, pair⟩ := List.length_eq_two.1 two
    rw [pair] at atFirst atSecond ⊢
    cases atFirst
    cases atSecond
    rfl
  have armed := sink?_of_lanesAt lanes
  obtain ⟨_, same, -, -, inStep⟩ :=
    lanes_in_step punctual_sound.prompt rfl recorded armed [3, 4]
  cases same
  exact ⟨_, l, l', recorded, armed, place, heard, numbered, some,
    (inStep l (by simp) l' (by simp) place).stamped _ _⟩

end VideoRig

end Sensing
