import Mathlib.Data.List.Induction
import Sensing.Proofs.Distinct
import Sensing.Proofs.Video.Power
import Sensing.Proofs.Video.StreamOperations

/-!
# What a lane has seen since streaming was started

Between the arming of streams and their disarming, what is armed for a mode are the lanes of the
configuration's routes, started afresh, after all images of the mode that were delivered meanwhile
(`Streaming`). A record of the images says which those are (`images`): it starts anew whenever a
client finds nothing armed, and arming finds nothing armed.

Main results: a lane is at the number of the valid images it has seen and owes its state to them
alone (`Lane.after_count`, `Lane.after_filter`), and what is armed is what the record says, in every
crowd that can be reached (`streams_of_recorded`).
-/

namespace Sensing

namespace Lane

/-- The lane of a source after the images that were shown to it. -/
def after (layout : ClockLayout) (s : Source) (images : List Bytes) : Lane :=
  images.foldl (fun l data => l.pass data) (start layout s)

variable (layout : ClockLayout) (s : Source)

/-- The lane takes its images one by one. -/
theorem after_concat (images : List Bytes) (data : Bytes) :
    after layout s (images ++ [data]) = (after layout s images).pass data := List.foldl_concat ..

theorem after_source (images : List Bytes) : (after layout s images).source = s := by
  induction images using List.reverseRecOn with
  | nil => rfl
  | append_singleton images data ih => rw [after_concat, pass_source, ih]

/-- A lane is at the number of the valid images among those shown to it. -/
theorem after_count (images : List Bytes) :
    (after layout s images).clock.count = images.countP (validImage s.imageSize) := by
  induction images using List.reverseRecOn with
  | nil => rfl
  | append_singleton images data ih =>
    rw [after_concat, pass_count, ih, List.countP_append, List.countP_singleton]
    unfold accepts
    rw [after_source]

/-- Images that are not valid leave no trace in a lane. -/
theorem after_filter (images : List Bytes) :
    after layout s (images.filter (validImage s.imageSize)) = after layout s images := by
  induction images using List.reverseRecOn with
  | nil => rfl
  | append_singleton images data ih =>
    have judged : (after layout s images).accepts data = validImage s.imageSize data := by
      unfold accepts
      rw [after_source]
    rw [List.filter_append, after_concat]
    cases valid : validImage s.imageSize data with
    | true =>
      rw [List.filter_singleton, valid, cond_true, after_concat, ih]
    | false =>
      have passed : (after layout s images).pass data = after layout s images := by
        unfold pass
        rw [judged, valid]
        rfl
      rw [List.filter_singleton, valid, cond_false, List.append_nil, passed, ih]

end Lane

namespace VideoDevice

/-! ## One stream for each mode -/

variable {f : NativeMode → VideoSink} {ms : List NativeMode} {m : NativeMode}

/-- In a list with one stream for each mode, a mode finds its own. -/
theorem find?_streams : ((ms.map fun n => (n, f n)).find? fun s => s.1 = m).map (·.2) =
    if m ∈ ms then some (f m) else none := by
  induction ms with
  | nil => rfl
  | cons n ms ih =>
    by_cases same : n = m
    · simp [same]
    · have found : ((n, f n) :: ms.map fun n => (n, f n)).find? (fun s => s.1 = m) =
          (ms.map fun n => (n, f n)).find? fun s => s.1 = m := by
        rw [List.find?_cons_of_neg]
        simpa using same
      rw [List.map_cons, found, ih]
      simp [Ne.symm same]

/-- What a mode's only stream is replaced by, the mode delivers to. -/
theorem set_streams (once : ms.Nodup) {place : Nat} (there : ms[place]? = some m)
    (sink : VideoSink) : (ms.map fun n => (n, f n)).set place (m, sink) =
      ms.map fun n => (n, if n = m then sink else f n) := by
  obtain ⟨bound, rfl⟩ := List.getElem?_eq_some_iff.1 there
  refine List.ext_getElem (by simp) fun i hi _ => ?_
  rw [List.length_set, List.length_map] at hi
  rw [List.getElem_set, List.getElem_map, List.getElem_map]
  split
  next same =>
    subst same
    rw [if_pos rfl]
  next other =>
    -- The mode does not occur again.
    rw [if_neg fun same => other ((List.getElem_inj once).1 same).symm]

end VideoDevice

namespace VideoRig

/-! ## The record of images -/

/-- Images are recorded from the arming of streams on. -/
def images : Recorder VideoRig (NativeMode × Bytes) where
  shows x r := match x with
    | .deliver m data => [(m, data)]
    | .nextRound => if r.machine.device.automatic then r.machine.device.ownImages else []
    | _ => []
  idle r := r.machine.device.armed.isEmpty

/-- The recorded images of a mode. -/
def imagesOf (m : NativeMode) (shown : List (NativeMode × Bytes)) : List Bytes :=
  (shown.filter fun i => i.1 = m).map (·.2)

theorem imagesOf_concat (m n : NativeMode) (shown : List (NativeMode × Bytes)) (data : Bytes) :
    imagesOf n (shown ++ [(m, data)]) =
      if n = m then imagesOf n shown ++ [data] else imagesOf n shown := by
  unfold imagesOf
  by_cases same : n = m
  · simp [same]
  · simp [same, Ne.symm same]

theorem imagesOf_append (m : NativeMode) (shown shown' : List (NativeMode × Bytes)) :
    imagesOf m (shown ++ shown') = imagesOf m shown ++ imagesOf m shown' := by
  unfold imagesOf
  rw [List.filter_append, List.map_append]

/-- The lanes of a mode after what was shown. -/
def lanesAfter (layout : ClockLayout) (routes : List Route) (shown : List (NativeMode × Bytes))
    (m : NativeMode) : List Lane :=
  (routes.filter fun route => route.source.mode = m).map fun route =>
    Lane.after layout route.source (imagesOf m shown)

/-- The streams of a configuration after what was shown. -/
def streamsAfter (layout : ClockLayout) (routes : List Route)
    (shown : List (NativeMode × Bytes)) : List (NativeMode × VideoSink) :=
  (routedModes routes).map fun m => (m, .lanes (lanesAfter layout routes shown m))

theorem streamsAfter_nil (layout : ClockLayout) (routes : List Route) :
    streamsAfter layout routes [] = streamsFor layout routes := rfl

variable {layout : ClockLayout} {shown : List (NativeMode × Bytes)} {r : VideoRig}
  {m : NativeMode} {data : Bytes}

/-- What is armed, if anything, are the streams of the configuration after what was shown, and there
is a consumer for their frames. -/
structure Streaming (layout : ClockLayout) (shown : List (NativeMode × Bytes)) (r : VideoRig) :
    Prop where
  clocks : r.own.layout = layout
  armed : r.machine.device.armed = [] ∨
    r.machine.device.armed = streamsAfter layout r.own.configuration shown ∧
      r.core.consumer.isSome

/-- Whoever has the lock leaves the streams as they are, disarms them, or arms fresh ones. -/
theorem Streaming.move {r' : VideoRig} (h : Streaming layout shown r) (may : streams.may r r') :
    Streaming layout (if images.idle r then [] else shown) r' := by
  obtain ⟨same, move⟩ := may
  refine ⟨same.trans h.clocks, ?_⟩
  cases move with
  | silent none => exact .inl none
  | kept armed _ configuration consumer =>
    rcases h.armed with none | ⟨streams, some⟩
    · exact .inl (armed.trans none)
    · by_cases idle : images.idle r = true
      · have none : r.machine.device.armed = [] := List.isEmpty_iff.1 idle
        exact .inl (armed.trans none)
      · rw [if_neg idle, configuration]
        exact .inr ⟨armed.trans streams, consumer some⟩
  | started none armed _ consumer =>
    have idle : images.idle r = true := List.isEmpty_iff.2 none
    rw [if_pos idle, streamsAfter_nil, ← h.clocks, ← same]
    exact .inr ⟨armed, consumer⟩

/-- A further image passes the lanes of its mode, and no other. -/
theorem streamsAfter_concat (layout : ClockLayout) (routes : List Route)
    (shown : List (NativeMode × Bytes)) (m : NativeMode) (data : Bytes) :
    streamsAfter layout routes (shown ++ [(m, data)]) = (routedModes routes).map fun n =>
      (n, if n = m then .lanes ((lanesAfter layout routes shown m).map (·.pass data))
        else .lanes (lanesAfter layout routes shown n)) := by
  unfold streamsAfter lanesAfter
  refine List.map_congr_left fun n _ => ?_
  rw [imagesOf_concat]
  by_cases same : n = m
  · simp [same, Lane.after_concat, Function.comp_def]
  · simp [same]

theorem map_fst_streamsAfter (layout : ClockLayout) (routes : List Route)
    (shown : List (NativeMode × Bytes)) :
    (streamsAfter layout routes shown).map (·.1) = routedModes routes := by
  unfold streamsAfter
  rw [List.map_map]
  exact List.map_id _

/-- The streams of a configuration are armed for one mode each. -/
theorem Streaming.once (h : Streaming layout shown r) : r.machine.device.armedModes.Nodup := by
  unfold VideoDevice.armedModes
  rcases h.armed with none | ⟨streams, -⟩
  · rw [none]
    exact List.nodup_nil
  · rw [streams, map_fst_streamsAfter]
    exact nodup_distinct _

/-- What an armed mode delivers to. -/
theorem Streaming.sink {sink : VideoSink} (h : Streaming layout shown r)
    (armed : r.machine.device.sink? m = some sink) :
    sink = .lanes (lanesAfter layout r.own.configuration shown m) ∧ r.core.consumer.isSome ∧
      r.machine.device.armed = streamsAfter layout r.own.configuration shown := by
  unfold VideoDevice.sink? at armed
  rcases h.armed with none | ⟨streams, consumer⟩
  · rw [none] at armed
    cases armed
  · refine ⟨?_, consumer, streams⟩
    rw [streams, streamsAfter, VideoDevice.find?_streams] at armed
    split at armed
    next => exact (Option.some.inj armed).symm
    next => cases armed

/-- The image joins those shown, and the lanes of its mode are one image further. -/
theorem Streaming.deliver (h : Streaming layout shown r) (m : NativeMode) (data : Bytes) :
    Streaming layout (shown ++ [(m, data)]) (deliver m data r).2 := by
  have tame := deliver_tame m data r
  refine ⟨tame.layout.trans h.clocks, ?_⟩
  rcases h.armed with none | ⟨streams, consumer⟩
  · exact .inl (tame.silent none)
  · refine .inr ⟨?_, tame.consumer consumer⟩
    rw [tame.configuration]
    cases armed : r.machine.device.sink? m with
    | none =>
      -- A mode that is not armed is not routed, so no lane of the configuration counts its images.
      have unrouted : m ∉ routedModes r.own.configuration := by
        intro routed
        unfold VideoDevice.sink? at armed
        rw [streams, streamsAfter, VideoDevice.find?_streams, if_pos routed] at armed
        cases armed
      rw [deliver_of_unarmed armed, streams, streamsAfter_concat]
      refine List.map_congr_left fun n routed => ?_
      have other : n ≠ m := fun heq => unrouted (heq ▸ routed)
      rw [if_neg other]
    | some sink =>
      obtain ⟨rfl, -⟩ := h.sink armed
      obtain ⟨-, place, there, taken⟩ := deliver_of_lanes armed data
      have routed : (routedModes r.own.configuration)[place]? = some m := by
        rw [← map_fst_streamsAfter layout _ shown, ← streams, List.getElem?_map, there]
        rfl
      rw [taken, streams, streamsAfter_concat, streamsAfter]
      exact VideoDevice.set_streams (nodup_distinct _) routed _

theorem Streaming.deliveries (h : Streaming layout shown r) (is : List (NativeMode × Bytes)) :
    Streaming layout (shown ++ is) (is.foldl (fun r i => (VideoRig.deliver i.1 i.2 r).2) r) := by
  induction is generalizing shown r with
  | nil => rwa [List.append_nil]
  | cons i is ih =>
    rw [List.append_cons]
    exact ih (h.deliver i.1 i.2)

/-- Only deliveries and rounds show images. -/
theorem Streaming.aside (h : Streaming layout shown r) (x : VideoAside) :
    Streaming layout (shown ++ images.shows x r) (x.apply r) := by
  have nothing {r' : VideoRig} (tame : Tame r r')
      (same : r'.machine.device.armed = r.machine.device.armed) :
      Streaming layout (shown ++ []) r' := by
    rw [List.append_nil]
    refine ⟨tame.layout.trans h.clocks, ?_⟩
    rw [same, tame.configuration]
    exact h.armed.imp_right fun some => ⟨some.1, tame.consumer some.2⟩
  have tame := aside_tame x r
  cases x with
  | deliver m data => exact h.deliver m data
  | nextRound =>
    show Streaming layout (shown ++ if r.machine.device.automatic then _ else []) (nextRound r)
    cases automatic : r.machine.device.automatic with
    | false =>
      rw [nextRound_of_idle automatic]
      exact nothing (Apart.refl r).tame rfl
    | true =>
      -- No mode is armed twice, so a round is one delivery after another.
      rw [nextRound_of_once automatic h.once]
      have all := h.deliveries r.machine.device.ownImages
      exact ⟨all.clocks, all.armed⟩
  | core | registerUnit | registerProcessing | refusePowerOn | refuseCommit =>
    exact nothing tame rfl

variable {capacity limit : Nat} {device : VideoDevice} {plan : FaultPlan VideoCall}
  {c : Crowd VideoRig}

/-- At all times the device is armed as the record says, and the lock is in order. -/
theorem streams_of_recorded (prompt : Prompt plan) (fresh : device.armed = [])
    (h : Crowd.Recorded images VideoOp.SparesStreams (unattended capacity limit layout device plan)
      c shown) : streams.Kept c ∧ Streaming layout shown c.rig := by
  refine Custody.invariant_of_recorded streams_fits (I := Streaming layout)
    (fun may holds => holds.move may) (fun x holds => holds.aside x) ?_ ?_ h
  · exact Custody.kept_of_rest ⟨prompt, fun _ => fresh⟩ rfl rfl
  · exact ⟨rfl, .inl fresh⟩

theorem streaming_of_recorded (punctual : Punctual plan) (fresh : device.armed = [])
    (h : Crowd.Recorded images VideoOp.SparesStreams (unattended capacity limit layout device plan)
      c shown) : streams.Kept c ∧ Streaming layout shown c.rig :=
  streams_of_recorded punctual.prompt fresh h

end VideoRig

end Sensing
