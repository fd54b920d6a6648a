import Sensing.Proofs.Video.CurrentSession
import Sensing.Proofs.Video.SourceOperations

/-!
# How often a channel is heard of one image

A raw image passes every lane that is armed for its mode, and each lane hands over a frame for every
output of its unpacker. Where no unpacker lists a channel twice, one lane hands over at most one
frame of a channel; but several routes may share a mode, and two of them may list one channel, each
in an encoding of its own, say. Then the channel is heard of once from each (`color_heard_twice`).

Main result: `heard_once_a_lane`, of one image a channel is heard of at most once from each lane
that lists it, and so at most once in all where the registered formats leave no two sources of a
mode a channel in common (`Source.Exclusive`).
-/

namespace Sensing

namespace Source

/-- Some output of the source's unpacker is of the channel. -/
def Lists (c : Channel) (s : Source) : Prop := c ∈ s.unpacker.outputs.map (·.1)

instance (c : Channel) (s : Source) : Decidable (s.Lists c) :=
  inferInstanceAs (Decidable (c ∈ s.unpacker.outputs.map (·.1)))

/-- Two sources of the mode that list a channel in common are alike: there is one unpacker, at
most, for a channel in all registered formats of the mode's code. -/
def Exclusive (formats : List PixelFormat) (m : NativeMode) : Prop :=
  ∀ modes (s t : Source), s.Listed formats modes → t.Listed formats modes → s.mode = m →
    t.mode = m → ∀ c, s.Lists c → t.Lists c → s.Alike t

end Source

/-- No unpacker of a registered format lists a channel twice. -/
def PixelFormat.ListChannelsOnce (formats : List PixelFormat) : Prop :=
  ∀ pf ∈ formats, ∀ u ∈ pf.unpackers, (u.outputs.map (·.1)).Nodup

instance (formats : List PixelFormat) : Decidable (PixelFormat.ListChannelsOnce formats) :=
  inferInstanceAs (Decidable (∀ pf ∈ formats, ∀ u ∈ pf.unpackers, (u.outputs.map (·.1)).Nodup))

namespace VideoRig

variable {m : NativeMode} {data : Bytes} {l : Lane} {lanes : List Lane} {channel : Channel}

/-! ## Frames of one channel -/

/-- A lane makes as many frames of a channel as its unpacker lists it. -/
theorem countP_frames (l : Lane) (data : Bytes) (hostTime : Double) (channel : Channel) :
    (l.frames data hostTime).countP (·.info.channel = channel) =
      (l.source.unpacker.outputs.map (·.1)).count channel := by
  have channels : (l.frames data hostTime).map (·.info.channel) =
      l.source.unpacker.outputs.map (·.1) := by
    have infos := congrArg (List.map FrameMeta.channel) (l.frames_info data hostTime)
    rwa [List.map_map, List.map_map] at infos
  rw [← channels, List.count, List.countP_map]
  refine List.countP_congr fun f _ => ?_
  simp

/-- One at most, and none unless it is listed. -/
theorem countP_handed_le (once : (l.source.unpacker.outputs.map (·.1)).Nodup) (core : Core) :
    (handed data l core).countP (·.info.channel = channel) ≤
      if l.source.Lists channel then 1 else 0 := by
  rcases handed_eq l.source.mode data l core with none | all
  · rw [none]
    exact Nat.zero_le _
  · rw [all, countP_frames]
    split
    next => exact List.nodup_iff_count_le_one.1 once channel
    next unlisted => exact Nat.le_of_eq (List.count_eq_zero_of_not_mem unlisted)

/-- One at most from each lane that lists it. -/
theorem countP_handedBy_le (once : ∀ l ∈ lanes, (l.source.unpacker.outputs.map (·.1)).Nodup)
    (core : Core) :
    (handedBy m data lanes core).countP (·.info.channel = channel) ≤
      lanes.countP (·.source.Lists channel) := by
  induction lanes generalizing core with
  | nil => exact Nat.le_refl 0
  | cons l ls ih =>
    obtain ⟨first, rest⟩ := List.forall_mem_cons.1 once
    rw [handedBy, List.countP_append, List.countP_cons, Nat.add_comm]
    refine Nat.add_le_add (ih rest _) ?_
    simpa using countP_handed_le first core

/-- Exclusive sources that can stand together list a channel once. -/
theorem countP_lists_le_one {formats : List PixelFormat} (exclusive : Source.Exclusive formats m)
    (assorted : Source.Assorted formats (lanes.map (·.source)))
    (modes : ∀ l ∈ lanes, l.source.mode = m) :
    lanes.countP (·.source.Lists channel) ≤ 1 := by
  induction lanes with
  | nil => exact Nat.zero_le 1
  | cons l ls ih =>
    have some : (ls.map (·.source)).Sublist ((l :: ls).map (·.source)) :=
      List.sublist_cons_self ..
    have rest := ih (assorted.sublist some) (List.forall_mem_cons.1 modes).2
    by_cases listed : l.source.Lists channel
    · -- Any other lane that lists it would have a source like that of the first.
      have none : ls.countP (·.source.Lists channel) = 0 := by
        refine List.countP_eq_zero.2 fun l' hl' lists => ?_
        obtain ⟨ms, all⟩ := assorted.listed
        have first : l.source ∈ (l :: ls).map (·.source) := List.mem_cons_self ..
        have later : l'.source ∈ ls.map (·.source) := List.mem_map_of_mem hl'
        refine (List.pairwise_cons.1 assorted.distinct).1 _ later ?_
        exact exclusive ms _ _ (all _ first) (all _ (some.subset later))
          (modes l (List.mem_cons_self ..)) (modes l' (List.mem_cons_of_mem l hl')) channel listed
          (of_decide_eq_true lists)
      rw [List.countP_cons, none]
      split <;> simp
    · rw [List.countP_cons_of_neg (by simpa using listed)]
      exact rest

/-! ## Frames of one image -/

/-- The callback sees some of the frames that the lanes of the mode hand over. -/
theorem delivered_deliver (m : NativeMode) (data : Bytes) (r : VideoRig) : ∃ seen : List Frame,
    (deliver m data r).2.core.delivered = r.core.delivered ++ seen ∧
      seen.Sublist (handedBy m data (r.lanesAt m) r.core) := by
  -- Where there are no lanes there is nothing to see.
  have silent {r' : VideoRig} (same : r'.core.delivered = r.core.delivered) :
      ∃ seen : List Frame, r'.core.delivered = r.core.delivered ++ seen ∧
        seen.Sublist (handedBy m data (r.lanesAt m) r.core) :=
    ⟨[], same.trans (List.append_nil _).symm, List.nil_sublist _⟩
  cases sink : r.machine.device.sink? m with
  | none =>
    rw [deliver_of_unarmed sink]
    exact silent rfl
  | some sink' =>
    cases sink' with
    | tap => exact silent (congrArg Core.delivered (deliver_of_tap sink))
    | lanes ls =>
      have lanes : r.lanesAt m = ls := by
        unfold lanesAt
        rw [sink]
      obtain ⟨seen, some, delivered⟩ :=
        Core.delivered_offers r.core (handedBy m data ls r.core)
      have heard := congrArg (·.2.1) (@deliverLanes_heard m data ls r.core)
      refine ⟨seen, ?_, lanes.symm ▸ some⟩
      rw [(deliver_of_lanes sink data).1]
      exact heard.trans delivered

/-- The lanes of a mode that is not armed are none, and those of an armed one are sourced. -/
theorem fits_lanesAt {r : VideoRig} (h : r.Sourced) (m : NativeMode) :
    Source.Assorted r.core.formats ((r.lanesAt m).map (·.source)) ∧
      ∀ l ∈ r.lanesAt m, l.source.mode = m := by
  unfold lanesAt
  split
  next armed => exact h.armed _ (VideoDevice.mem_armed_of_sink? armed)
  next => exact ⟨Source.assorted_nil, fun _ h => nomatch h⟩
  next => exact ⟨Source.assorted_nil, fun _ h => nomatch h⟩

variable {capacity limit : Nat} {layout : ClockLayout} {device : VideoDevice}
  {plan : FaultPlan VideoCall} {c : Crowd VideoRig}

/-- Of one raw image a callback sees at most one frame of a channel from each lane that is armed for
the mode and lists the channel. No two of these lanes have sources that are alike. -/
theorem heard_once_a_lane (fresh : device.armed = [])
    (h : Crowd.Reaches VideoOp.ArmsTaps (unattended capacity limit layout device plan) c)
    (once : PixelFormat.ListChannelsOnce c.rig.core.formats) (m : NativeMode) (data : Bytes) :
    (∀ l ∈ c.rig.lanesAt m, l.source.mode = m ∧
      ∀ core channel, (handed data l core).countP (·.info.channel = channel) ≤ 1) ∧
    (c.rig.lanesAt m).Pairwise (fun l l' => ¬ l.source.Alike l'.source) ∧
    ∃ seen : List Frame,
      (deliver m data c.rig).2.core.delivered = c.rig.core.delivered ++ seen ∧
      seen.Sublist (handedBy m data (c.rig.lanesAt m) c.rig.core) ∧
      (∀ channel, seen.countP (·.info.channel = channel) ≤
        (c.rig.lanesAt m).countP (·.source.Lists channel)) ∧
      -- So it is one at most where no two unpackers that read the mode share a channel.
      (Source.Exclusive c.rig.core.formats m →
        ∀ channel, seen.countP (·.info.channel = channel) ≤ 1) := by
  obtain ⟨assorted, modes⟩ := fits_lanesAt (sourced_of_reaches fresh h) m
  have listed : ∀ l ∈ c.rig.lanesAt m, (l.source.unpacker.outputs.map (·.1)).Nodup := by
    intro l hl
    obtain ⟨ms, all⟩ := assorted.listed
    have source := all l.source (List.mem_map_of_mem hl)
    exact once l.source.format (List.mem_of_getElem? source.format) l.source.unpacker
      (List.mem_of_getElem? source.unpacker)
  obtain ⟨seen, delivered, some⟩ := delivered_deliver m data c.rig
  have each (channel : Channel) : seen.countP (·.info.channel = channel) ≤
      (c.rig.lanesAt m).countP (·.source.Lists channel) :=
    Nat.le_trans (some.countP_le) (countP_handedBy_le listed _)
  refine ⟨fun l hl => ⟨modes l hl, fun core channel => ?_⟩, List.pairwise_map.1 assorted.distinct,
    seen, delivered, some, each, fun exclusive channel => ?_⟩
  · refine Nat.le_trans (countP_handed_le (listed l hl) core) ?_
    split <;> decide
  · exact Nat.le_trans (each channel) (countP_lists_le_one exclusive assorted modes)

/-! ## A camera with two encodings of one channel -/

/-- Color, as it comes or unpacked to three bytes a pixel. -/
def twofold : PixelFormat :=
  ⟨.yuy2, 1, 2, [⟨false, .copy, [(.color, .yuyv)]⟩, ⟨false, .copy, [(.color, .rgb8)]⟩]⟩

/-- A single pixel of color. -/
def pixel : NativeMode := ⟨1, 1, 30, .yuy2⟩

/-- A new endpoint of a camera with this one mode. -/
def pixelEndpoint : Crowd VideoRig := unattended 4 4 {} { offered := [pixel] } .sound

/-- A client opens both encodings and starts them. -/
theorem twofold_session : ∃ c : Crowd VideoRig,
    Crowd.Reaches VideoOp.ArmsTaps pixelEndpoint c ∧
    c.rig.core.streaming = true ∧ PixelFormat.ListChannelsOnce c.rig.core.formats ∧
    (c.rig.lanesAt pixel).countP (·.source.Lists .color) = 2 ∧ c.rig.core.delivered = [] ∧
    (deliver pixel [1, 2] c.rig).2.core.delivered.map (fun f => (f.info.channel, f.info.encoding)) =
      [(.color, .yuyv), (.color, .rgb8)] := by
  let register : VideoAside := .core (.registerFormat twofold)
  let opening : VideoOp := .openStreams
    [{ channel := .color, encoding := .yuyv }, { channel := .color, encoding := .rgb8 }]
  let starting : VideoOp := .start fun _ => .hold
  have computed : (do
      let r ← Served.inTurn? [opening, starting] (register.apply pixelEndpoint.rig)
      return decide (r.core.streaming = true ∧ PixelFormat.ListChannelsOnce r.core.formats ∧
        (r.lanesAt pixel).countP (·.source.Lists .color) = 2 ∧
        r.core.delivered.length = 0 ∧
        (deliver pixel [1, 2] r).2.core.delivered.map
          (fun f => (f.info.channel, f.info.encoding)) = [(.color, .yuyv), (.color, .rgb8)])) =
        some true := by
    decide +kernel
  simp only [Option.bind_eq_bind, Option.bind_eq_some_iff, Option.pure_def, Option.some.injEq,
    decide_eq_true_eq, List.length_eq_zero_iff] at computed
  obtain ⟨r, streams, shown⟩ := computed
  have fresh : Crowd.Reaches VideoOp.ArmsTaps pixelEndpoint pixelEndpoint := .refl
  exact ⟨_, (fresh.aside register).inTurn rfl streams, shown⟩

/-- Two routes share the camera's mode, and each hands over a frame of color: no unpacker lists a
channel twice, but a callback hears of color twice from one image. -/
theorem color_heard_twice : ∃ c : Crowd VideoRig,
    Crowd.Reaches VideoOp.ArmsTaps pixelEndpoint c ∧
    c.rig.core.streaming = true ∧ PixelFormat.ListChannelsOnce c.rig.core.formats ∧
    ∃ seen : List Frame,
      (deliver pixel [1, 2] c.rig).2.core.delivered = c.rig.core.delivered ++ seen ∧
      ¬ seen.countP (·.info.channel = .color) ≤ 1 := by
  obtain ⟨c, reached, streaming, once, -, silent, heard⟩ := twofold_session
  refine ⟨c, reached, streaming, once, (deliver pixel [1, 2] c.rig).2.core.delivered, ?_, ?_⟩
  · rw [silent, List.nil_append]
  · have colors := congrArg (List.countP fun x : Channel × Encoding => x.1 = .color) heard
    rw [List.countP_map] at colors
    intro once
    have two : List.countP (fun f : Frame => f.info.channel = .color)
        (deliver pixel [1, 2] c.rig).2.core.delivered = 2 := colors
    omega

/-- From each of the two lanes it is heard of once. -/
theorem color_heard_once_a_lane : ∃ (c : Crowd VideoRig) (seen : List Frame),
    Crowd.Reaches VideoOp.ArmsTaps pixelEndpoint c ∧
    PixelFormat.ListChannelsOnce c.rig.core.formats ∧
    (deliver pixel [1, 2] c.rig).2.core.delivered = c.rig.core.delivered ++ seen ∧
    (∀ l ∈ c.rig.lanesAt pixel,
      (handed [1, 2] l c.rig.core).countP (·.info.channel = .color) ≤ 1) ∧
    (c.rig.lanesAt pixel).countP (·.source.Lists .color) = 2 ∧
    seen.countP (·.info.channel = .color) ≤ 2 := by
  obtain ⟨c, reached, -, once, two, -, -⟩ := twofold_session
  obtain ⟨lanes, -, seen, delivered, -, each, -⟩ := heard_once_a_lane rfl reached once pixel [1, 2]
  exact ⟨c, seen, reached, once, delivered, fun l hl => (lanes l hl).2 _ _, two,
    two ▸ each .color⟩

end VideoRig

end Sensing
