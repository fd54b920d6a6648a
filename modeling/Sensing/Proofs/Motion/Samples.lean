import Sensing.Proofs.Clients.Record
import Sensing.Proofs.Motion.Opening

/-!
# How samples are numbered

What is captured for a configuration goes from channels to names, from names to indices, and from
these back to sensors; where no two sensors share an index it comes out at the first sensor of each
name (`Selects.find?_eq_some_iff`). The counts of a capture are kept by index too, all of them in
one place, and one goes up with each sample of its sensor, whether or not there is room for a frame.

So the counts can be told from a record of whose samples the device has accepted since it began to
capture (`samples`, `Tallied`), however the samples of the sensors are mixed, and whatever clients
and consumers do meanwhile. Main result: `samples_numbered_by_sensor`.
-/

namespace Sensing

namespace MotionRig

variable {sensors selected shown : List Sensor} {frequency : UInt32} {routes : List Route}
  {s : Sensor} {channel : Channel} {data : Bytes} {counts : List (UInt32 × Nat)} {r r' : MotionRig}

/-! ## Counts -/

/-- A count that is set is the only one that changes. -/
theorem countOf_setCount (iio iio' : UInt32) (n : Nat) (counts : List (UInt32 × Nat)) :
    countOf iio (setCount iio' n counts) = if iio = iio' then n else countOf iio counts := by
  unfold countOf setCount
  by_cases same : iio' = iio
  · rw [List.find?_cons_of_pos (by simpa using same), if_pos same.symm]
    rfl
  · rw [List.find?_cons_of_neg (by simpa using same), if_neg (Ne.symm same), List.find?_filter]
    -- The entries that were filtered out are not of this index.
    refine congrArg (fun p => ((counts.find? p).map Prod.snd).getD 0) (funext fun c => ?_)
    by_cases here : c.1 = iio <;> simp [here, Ne.symm same]

/-! ## The sensors that are captured -/

/-- What has been looked up one by one. -/
theorem mem_iff_of_mapM {ε α β : Type} {f : α → Except ε β} {as : List α} {bs : List β}
    (h : as.mapM f = .ok bs) {b : β} : b ∈ bs ↔ ∃ a ∈ as, f a = .ok b := by
  induction as generalizing bs with
  | nil =>
    cases h
    simp
  | cons a as ih =>
    rw [List.mapM_cons] at h
    -- The first that fails makes all of them fail.
    cases first : f a with
    | error e =>
      rw [first] at h
      cases h
    | ok b' =>
      rw [first] at h
      cases rest : as.mapM f with
      | error e =>
        rw [rest] at h
        cases h
      | ok bs' =>
        rw [rest] at h
        cases h
        rw [List.mem_cons, ih rest]
        simp [first, eq_comm]

/-- Where no two sensors share an index, a sensor is found by its own. -/
theorem sensorAt_of_mem (apart : (sensors.map Sensor.iio).Nodup) (mem : s ∈ sensors) :
    MotionDevice.sensorAt { sensors } s.iio = .ok s := by
  have some : (sensors.find? fun t => t.iio = s.iio).isSome :=
    List.find?_isSome.2 ⟨s, mem, decide_eq_true rfl⟩
  obtain ⟨t, first⟩ := Option.isSome_iff_exists.1 some
  have index : t.iio = s.iio := by simpa using List.find?_some first
  unfold MotionDevice.sensorAt
  rw [first, List.inj_on_of_nodup_map apart (List.mem_of_find?_eq_some first) mem index]

namespace Selects

/-- What is selected for a configuration has its sensors. -/
theorem sensed (h : Selects sensors frequency routes selected) :
    ∀ c ∈ routedChannels routes, (c.sensorIn? sensors).isSome := by
  obtain ⟨_, rates, -⟩ := h
  exact (ratesFor_eq_ok_iff.1 rates).1

/-- The first sensor of every channel is captured, and no others are. -/
theorem mem_iff (h : Selects sensors frequency routes selected)
    (apart : (sensors.map Sensor.iio).Nodup) :
    s ∈ selected ↔ ∃ c ∈ routedChannels routes, c.sensorIn? sensors = some s := by
  obtain ⟨_, rates, selection⟩ := h
  obtain ⟨-, rfl⟩ := ratesFor_eq_ok_iff.1 rates
  rw [mem_iff_of_mapM selection]
  have found {c : Channel} {t : Sensor} (first : c.sensorIn? sensors = some t) :
      MotionDevice.sensorAt { sensors } t.iio = .ok t :=
    sensorAt_of_mem apart (Channel.mem_of_sensorIn? first).1
  constructor
  · rintro ⟨rate, mem, at_⟩
    obtain ⟨c, routed, isRate⟩ := List.mem_filterMap.1 (mem_distinct.1 mem)
    obtain ⟨t, first, rfl⟩ := Option.map_eq_some_iff.1 isRate
    obtain rfl : t = s := Except.ok.inj ((found first).symm.trans at_)
    exact ⟨c, routed, first⟩
  · rintro ⟨c, routed, first⟩
    refine ⟨⟨s.iio, frequency⟩, mem_distinct.2 (List.mem_filterMap.2 ⟨c, routed, ?_⟩), found first⟩
    unfold rateFor?
    rw [first]
    rfl

/-- By its name one finds the first sensor of a channel that is routed. -/
theorem find?_eq_some_iff (h : Selects sensors frequency routes selected)
    (apart : (sensors.map Sensor.iio).Nodup) {name : String} :
    (selected.find? fun s => s.name = name) = some s ↔ ∃ c ∈ routedChannels routes,
      c.sensorName? = some name ∧ c.sensorIn? sensors = some s := by
  have first {c : Channel} (named : c.sensorName? = some name) :
      c.sensorIn? sensors = sensors.find? fun s => s.name = name := by
    unfold Channel.sensorIn?
    rw [named]
    rfl
  constructor
  · intro found
    obtain ⟨c, routed, isFirst⟩ := (h.mem_iff apart).1 (List.mem_of_find?_eq_some found)
    have same : s.name = name := by simpa using List.find?_some found
    exact ⟨c, routed, same ▸ (Channel.mem_of_sensorIn? isFirst).2, isFirst⟩
  · rintro ⟨c, routed, named, isFirst⟩
    have mem : s ∈ selected := (h.mem_iff apart).2 ⟨c, routed, isFirst⟩
    have same : some s.name = some name :=
      (Channel.mem_of_sensorIn? isFirst).2.symm.trans named
    have some : (selected.find? fun s => s.name = name).isSome :=
      List.find?_isSome.2 ⟨s, mem, decide_eq_true (Option.some.inj same)⟩
    -- Another sensor of that name is that of a channel which is fed by the same name.
    obtain ⟨t, found⟩ := Option.isSome_iff_exists.1 some
    obtain ⟨c', -, isFirst'⟩ := (h.mem_iff apart).1 (List.mem_of_find?_eq_some found)
    have name' : t.name = name := by simpa using List.find?_some found
    have named' := (Channel.mem_of_sensorIn? isFirst').2
    rw [first (name' ▸ named'), ← first named, isFirst] at isFirst'
    rw [found, Option.some.inj isFirst']

end Selects

/-! ## One sample -/

/-- The frame of a sample, where the host's clock shows `time`. -/
def frameOf (frequency : UInt32) (channel : Channel) (number : Nat) (data : Bytes)
    (time : Double) : Frame where
  data
  info :=
    { timestamp := time, number, systemTime := time, width := 0, height := 0, fps := frequency,
      channel, encoding := .motionData }

/-- What becomes of a sample that finds the endpoint at `c` and leaves it at `c'`: if there is room
it is handed over in one frame, for which the callback is called, and otherwise it is lost. -/
structure Handed (frequency : UInt32) (channel : Channel) (number : Nat) (data : Bytes)
    (c c' : Core) : Prop where
  dispatched : c.pool.published < min c.pool.limit c.pool.capacity →
    c' = Core.offer (frameOf frequency channel number data c.hostTime)
        { c with pool := c.pool.draw 1 } ∧
      ∀ k, c.consumer = some k →
        Core.Called k [frameOf frequency channel number data c.hostTime] c c'
  lost : min c.pool.limit c.pool.capacity ≤ c.pool.published → c' = { c with log := c'.log }

/-- A sample is counted whether or not it is handed over. -/
theorem deliverSample_handed (frequency : UInt32) (named : channel.sensorName? = some s.name)
    (data : Bytes) (counts : List (UInt32 × Nat)) (c : Core) :
    (deliverSample frequency s data counts c).1 =
        setCount s.iio (countOf s.iio counts + 1) counts ∧
      Handed frequency channel (countOf s.iio counts + 1) data c
        (deliverSample frequency s data counts c).2 := by
  unfold deliverSample
  dsimp only
  rw [SensorFeed.ofName?_of_sensorName? named]
  dsimp only
  by_cases room : c.pool.published < c.pool.bound
  · rw [Core.allocate_of_room room]
    dsimp only
    rw [FrameDraft.write_blank rfl]
    exact ⟨rfl, fun _ => ⟨rfl, fun k registered => Core.called_drawn registered _ _ [_]⟩,
      fun full => absurd room (Nat.not_lt_of_le full)⟩
  · obtain ⟨refusal, refused⟩ := FramePool.allocate_of_no_room (Nat.le_of_not_lt room)
      { size := data.length
        info :=
          { timestamp := c.hostTime, number := countOf s.iio counts + 1,
            systemTime := c.hostTime, fps := frequency, channel, encoding := .motionData } }
    unfold Core.allocate
    rw [refused]
    exact ⟨rfl, fun free => absurd free room, fun _ => rfl⟩

/-- The same for a sample that finds the device capturing. -/
theorem sample_handed
    (capture : r.machine.device.capture = some (selected, .counting frequency counts))
    (named : channel.sensorName? = some s.name) :
    (sample s data r).machine.device.capture = some (selected,
        .counting frequency (setCount s.iio (countOf s.iio counts + 1) counts)) ∧
      Handed frequency channel (countOf s.iio counts + 1) data r.core (sample s data r).core := by
  obtain ⟨counted, handed⟩ := deliverSample_handed frequency named data counts r.core
  unfold sample
  rw [capture]
  dsimp only
  rw [← counted]
  exact ⟨rfl, handed⟩

/-! ## The record -/

/-- The sensor whose sample is accepted. -/
def accepting (name : String) (r : MotionRig) : Option Sensor :=
  r.captured.find? fun s => s.name = name

/-- The sensors whose samples were accepted since the present capture began, one for each sample. -/
def samples : Recorder MotionRig Sensor where
  shows x r := match x with
    | .core _ => []
    | .deliver name _ => (r.accepting name).toList
    | .nextRound => if r.machine.device.automatic then r.captured else []
  idle r := !r.live

/-- A delivery is a sample of the captured sensor of that name, if there is one. -/
theorem deliver_of_capture {sink : MotionSink}
    (capture : r.machine.device.capture = some (selected, sink)) (name : String) (data : Bytes) :
    deliver name data r = match r.accepting name with
      | none => (false, r)
      | some s => (true, sample s data r) := by
  unfold deliver accepting captured
  rw [capture]
  rfl

/-- Every count of a live capture is that of the record. -/
structure Tallied (sensors : List Sensor) (frequency : UInt32) (shown : List Sensor)
    (r : MotionRig) : Prop where
  fitted : r.Fitted sensors frequency
  counts : ∀ selected frequency counts, r.live = true →
    r.machine.device.capture = some (selected, .counting frequency counts) →
    ∀ s ∈ sensors, countOf s.iio counts = shown.count s

/-- A captured sensor feeds a channel, and is the first to feed it. -/
theorem Fitted.channel_of_captured (h : r.Fitted sensors frequency)
    (apart : (sensors.map Sensor.iio).Nodup) (mem : s ∈ r.captured) :
    ∃ selected counts, ∃ channel : Channel, r.machine.device.capture =
      some (selected, .counting frequency counts) ∧ channel.sensorIn? sensors = some s := by
  unfold MotionRig.captured at mem
  cases capture : r.machine.device.capture with
  | none =>
    rw [capture] at mem
    cases mem
  | some captured =>
    obtain ⟨selected, sink⟩ := captured
    rw [capture] at mem
    obtain ⟨routes, counts, selects, rfl⟩ := h.captured selected sink capture
    obtain ⟨channel, -, first⟩ := (selects.mem_iff apart).1 mem
    exact ⟨selected, counts, channel, rfl, first⟩

/-- Counting changes nothing of which sensors are captured, -/
theorem Recounts.captured (h : r.Recounts r') : r'.captured = r.captured :=
  congrArg (fun v : CaptureView => v.selected.getD []) h.view

/-- nor whether the capture is live. -/
theorem Recounts.live (h : r.Recounts r') : r'.live = r.live :=
  congrArg (fun v : CaptureView => v.streaming || v.begun) h.view

namespace Tallied

/-- A step of a client leaves the counts of a live capture alone, or begins to count. -/
theorem moved (h : Tallied sensors frequency shown r)
    (may : r.Counted r' ∧ (r.Fitted sensors frequency → r'.Fitted sensors frequency)) :
    Tallied sensors frequency (if samples.idle r then [] else shown) r' where
  fitted := may.2 h.fitted
  counts selected frequency counts now capture s mem := by
    show _ = (if (!r.live) = true then [] else shown).count s
    rcases may.1 selected _ now capture with ⟨live, before⟩ | ⟨idle, _, sink⟩
    · rw [live, Bool.not_true, if_neg Bool.false_ne_true]
      exact h.counts selected frequency counts live before s mem
    · cases sink
      rw [idle]
      rfl

/-- A sample is counted with those of its sensor. -/
theorem sample (apart : (sensors.map Sensor.iio).Nodup) (h : Tallied sensors frequency shown r)
    (mem : s ∈ r.captured) (data : Bytes) :
    Tallied sensors frequency (shown ++ [s]) (sample s data r) where
  fitted := (sample_recounts s data r).fitted h.fitted
  counts := by
    obtain ⟨selected, counts, channel, capture, first⟩ := h.fitted.channel_of_captured apart mem
    obtain ⟨sensed, named⟩ := Channel.mem_of_sensorIn? first
    intro _ _ counts' live capture' t ht
    rw [(sample_recounts s data r).live] at live
    rw [(sample_handed capture named).1] at capture'
    cases capture'
    have before := h.counts selected frequency counts live capture
    rw [countOf_setCount, List.count_append, List.count_singleton, before t ht, before s sensed]
    by_cases same : t = s
    · subst same
      simp
    · have index : t.iio ≠ s.iio := fun index =>
        same (List.inj_on_of_nodup_map apart ht sensed index)
      simp [index, Ne.symm same]

/-- Samples of several sensors are counted one after another. -/
theorem sampleAll (apart : (sensors.map Sensor.iio).Nodup) (data : Sensor → Bytes)
    {ss : List Sensor} (h : Tallied sensors frequency shown r)
    (captured : ∀ s ∈ ss, s ∈ r.captured) :
    Tallied sensors frequency (shown ++ ss) (sampleAll data ss r) := by
  induction ss generalizing shown r with
  | nil =>
    rw [List.append_nil]
    exact h
  | cons s ss ih =>
    obtain ⟨first, rest⟩ := List.forall_mem_cons.1 captured
    have others : ∀ t ∈ ss, t ∈ (MotionRig.sample s (data s) r).captured := by
      rw [(sample_recounts s (data s) r).captured]
      exact rest
    have counted := ih (h.sample apart first (data s)) others
    rw [List.append_assoc] at counted
    exact counted

/-- Every aside is counted with what it shows. -/
theorem aside (apart : (sensors.map Sensor.iio).Nodup) (h : Tallied sensors frequency shown r)
    (x : MotionAside) : Tallied sensors frequency (shown ++ samples.shows x r) (x.apply r) := by
  -- What shows nothing has to leave the capture as it was.
  have unshown {r' : MotionRig} (recounts : r.Recounts r')
      (device : r'.machine.device.capture = r.machine.device.capture) :
      Tallied sensors frequency (shown ++ []) r' := by
    refine ⟨recounts.fitted h.fitted, fun selected frequency counts live capture s mem => ?_⟩
    rw [List.append_nil]
    exact h.counts selected frequency counts (recounts.live ▸ live) (device ▸ capture) s mem
  cases x with
  | core x => exact unshown (aside_recounts (.core x) r) rfl
  | deliver name data =>
    show Tallied sensors frequency (shown ++ (r.accepting name).toList) (deliver name data r).2
    cases capture : r.machine.device.capture with
    | none =>
      have none : r.accepting name = none := by
        unfold accepting captured
        rw [capture]
        rfl
      unfold deliver
      rw [none, capture]
      exact unshown (.refl r) rfl
    | some captured =>
      rw [deliver_of_capture capture]
      cases found : r.accepting name with
      | none => exact unshown (.refl r) rfl
      | some s => exact h.sample apart (List.mem_of_find?_eq_some found) data
  | nextRound =>
    show Tallied sensors frequency
      (shown ++ if r.machine.device.automatic then r.captured else []) (nextRound r)
    cases automatic : r.machine.device.automatic with
    | false =>
      unfold nextRound
      rw [automatic]
      exact unshown (.refl r) rfl
    | true =>
      rw [nextRound_of_automatic automatic]
      have counted := h.sampleAll apart (fun s => ownSample s r.machine.device.rounds) fun _ => id
      exact ⟨⟨counted.fitted.known, counted.fitted.rate, counted.fitted.offers,
        counted.fitted.cached, counted.fitted.routed, counted.fitted.configured,
        counted.fitted.captured, counted.fitted.attended⟩, counted.counts⟩

/-- So it is numbered. -/
theorem handed (apart : (sensors.map Sensor.iio).Nodup) (h : Tallied sensors frequency shown r)
    (live : r.live = true) (mem : s ∈ r.captured) (data : Bytes) :
    ∃ channel : Channel, channel.sensorIn? sensors = some s ∧
      Handed frequency channel (shown.count s + 1) data r.core
        (MotionRig.sample s data r).core := by
  obtain ⟨selected, counts, channel, capture, first⟩ := h.fitted.channel_of_captured apart mem
  obtain ⟨sensed, named⟩ := Channel.mem_of_sensorIn? first
  rw [← h.counts selected frequency counts live capture s sensed]
  exact ⟨channel, first, (sample_handed capture named).2⟩

end Tallied

/-! ## While the endpoint streams -/

/-- What the device does with the samples that come next, where those of `shown` were accepted since
it began to capture. -/
structure Numbers (sensors : List Sensor) (frequency : UInt32) (shown : List Sensor)
    (r : MotionRig) : Prop where
  /-- A sample is accepted if its sensor feeds a requested channel. -/
  accepts : ∀ name data, (deliver name data r).1 = true ↔
    ∃ route ∈ r.own.configuration, ∃ q ∈ route.requests, q.channel.sensorName? = some name
  /-- It is then the next one of the first sensor of its name. -/
  numbers : ∀ name data, (deliver name data r).1 = true → ∃ (channel : Channel) (s : Sensor),
    channel.sensorName? = some name ∧ channel.sensorIn? sensors = some s ∧
      samples.shows (.deliver name data) r = [s] ∧
      Handed frequency channel (shown.count s + 1) data r.core (deliver name data r).2.core
  /-- So it is with samples that the device makes on its own, each after those before it. -/
  rounds : r.machine.device.automatic = true → ∀ before s after, r.captured = before ++ s :: after →
    let data (s : Sensor) := ownSample s r.machine.device.rounds
    let reached := sampleAll data before r
    let left := sample s (data s) reached
    (nextRound r).core = (sampleAll data after left).core ∧
      ∃ channel : Channel, channel.sensorIn? sensors = some s ∧
        Handed frequency channel ((shown ++ before).count s + 1) (data s) reached.core left.core

/-- What is captured while the endpoint streams is what is requested. -/
theorem Fitted.accepting_iff (h : r.Fitted sensors frequency)
    (apart : (sensors.map Sensor.iio).Nodup) (streaming : r.core.streaming = true)
    (capturing : r.machine.device.capture.isSome)
    (motion : ∀ route ∈ r.own.configuration, route.source.format ∈ PixelFormat.motion)
    {name : String} : (∃ s, r.accepting name = some s) ↔
      ∃ route ∈ r.own.configuration, ∃ q ∈ route.requests, q.channel.sensorName? = some name := by
  obtain ⟨⟨selected, sink⟩, capture⟩ := Option.isSome_iff_exists.1 capturing
  have selects : Selects sensors frequency r.own.configuration selected :=
    (h.attended streaming).2 selected (congrArg (Option.map Prod.fst) capture)
  have accepting : r.accepting name = selected.find? fun s => s.name = name := by
    unfold MotionRig.accepting MotionRig.captured
    rw [capture]
    rfl
  obtain ⟨_, _, _, sound⟩ := h.routed
  simp only [accepting, selects.find?_eq_some_iff apart, mem_routedChannels_iff sound motion]
  constructor
  · rintro ⟨s, c, ⟨route, mem, q, listed, rfl⟩, named, -⟩
    exact ⟨route, mem, q, listed, named⟩
  · rintro ⟨route, mem, q, listed, named⟩
    have routed : q.channel ∈ routedChannels r.own.configuration :=
      (mem_routedChannels_iff sound motion).2 ⟨route, mem, q, listed, rfl⟩
    obtain ⟨s, first⟩ := Option.isSome_iff_exists.1 (selects.sensed q.channel routed)
    exact ⟨s, q.channel, ⟨route, mem, q, listed, rfl⟩, named, first⟩

/-- What comes next is read off the record. -/
theorem Tallied.numbers (apart : (sensors.map Sensor.iio).Nodup)
    (h : Tallied sensors frequency shown r) (streaming : r.core.streaming = true)
    (capturing : r.machine.device.capture.isSome)
    (motion : ∀ route ∈ r.own.configuration, route.source.format ∈ PixelFormat.motion) :
    Numbers sensors frequency shown r := by
  obtain ⟨⟨selected, sink⟩, capture⟩ := Option.isSome_iff_exists.1 capturing
  have live : r.live = true := Bool.or_eq_true_iff.2 (.inl streaming)
  have accepted (name : String) (data : Bytes) :
      (deliver name data r).1 = true ↔ ∃ s, r.accepting name = some s := by
    rw [deliver_of_capture capture]
    cases r.accepting name <;> simp
  refine ⟨fun name data => ?_, fun name data accepts => ?_,
    fun automatic before s after split => ?_⟩
  · rw [accepted, h.fitted.accepting_iff apart streaming capturing motion]
  · obtain ⟨s, found⟩ := (accepted name data).1 accepts
    have same : s.name = name := by simpa using List.find?_some found
    obtain ⟨channel, first, handed⟩ := h.handed apart live (List.mem_of_find?_eq_some found) data
    refine ⟨channel, s, same ▸ (Channel.mem_of_sensorIn? first).2, first, ?_, ?_⟩
    · show (r.accepting name).toList = [s]
      rw [found]
      rfl
    · rw [deliver_of_capture capture, found]
      exact handed
  · intro data reached left
    have mem (t : Sensor) (ht : t ∈ before ++ s :: after) : t ∈ r.captured := split ▸ ht
    -- Amid a round the samples before this one have been counted, and nothing else has changed.
    have recounts : r.Recounts reached :=
      sampleAll_induction (fun s data r' h => h.trans (sample_recounts s data r')) _ _ (.refl r)
    have counted : Tallied sensors frequency (shown ++ before) reached :=
      h.sampleAll apart data fun t ht => mem t (List.mem_append_left _ ht)
    refine ⟨?_, counted.handed apart (recounts.live.trans live) ?_ (data s)⟩
    · rw [nextRound_of_automatic automatic, split, sampleAll_append]
      rfl
    · rw [recounts.captured]
      exact mem s (List.mem_append_right _ (List.mem_cons_self ..))

variable {capacity limit : Nat} {automatic : Bool} {plan : FaultPlan MotionCall}
  {c : Crowd MotionRig}

/-- While a motion endpoint streams for a configuration of motion data, and no two sensors of its
device share an index, the device accepts just the samples of the first sensors of the requested
channels. Each of these is the next of its sensor, whatever became of those before it, and makes one
frame if there is room for one. -/
theorem samples_numbered_by_sensor
    (constructed : construct.run.run
      (.create (.create capacity limit) frequency { sensors, automatic } plan) =
        .finished (.ok ()) r)
    (apart : (sensors.map Sensor.iio).Nodup)
    (h : Crowd.Recorded samples (fun _ => True) { rig := r } c shown)
    (streaming : c.rig.core.streaming = true)
    (motion : ∀ route ∈ c.rig.own.configuration, route.source.format ∈ PixelFormat.motion) :
    c.rig.core.consumer.isSome ∧
      -- The device does capture, unless somebody is just about to stop.
      (c.holder = none → c.rig.machine.device.capture.isSome) ∧
      (c.rig.machine.device.capture.isSome → Numbers sensors frequency shown c.rig) := by
  have constructed := constructed_of_run constructed
  have fresh : Tallied sensors frequency [] r := by
    refine ⟨constructed.fitted, fun selected frequency counts _ capture => ?_⟩
    cases constructed.idle.symm.trans capture
  obtain ⟨kept, tallied⟩ := Custody.invariant_of_recorded capturing_fits
    (I := fun shown r => Tallied sensors frequency shown r)
    (fun may h => h.moved may) (fun x h => h.aside apart x) constructed.kept fresh h
  refine ⟨?_, fun free => ?_, fun capturing => ?_⟩
  · have registered : c.rig.core.registered.isSome := (tallied.fitted.attended streaming).1
    unfold Core.registered at registered
    rwa [Option.isSome_map] at registered
  · have capturing : (c.rig.machine.device.capture.map (·.1)).isSome :=
      (kept.at_rest free).2 streaming
    rwa [Option.isSome_map] at capturing
  · exact tallied.numbers apart streaming capturing motion

/-- A device with a sensor that feeds no channel, and two gyroscopes. -/
def scattered : List Sensor := [⟨"temp", 9⟩, ⟨"accel_3d", 4⟩, ⟨"gyro_3d", 2⟩, ⟨"gyro_3d", 7⟩]

/-- Starting leaves the configuration alone. -/
theorem own_of_started {policy : Callback} {a : Except EndpointError Unit}
    (silent : r.core.registered = none)
    (run : (start { policy }).run.run r = .finished a r') : r'.own = r.own := by
  have engages : (start { policy }).Follows (dispatch.holding fun _ => True)
      (fun a v => v = (if a.isOk then ⟨true, some policy, r.own⟩ else dispatch.registration r) ∧
        (a.isOk → r.core.streaming = false)) (dispatch.registration r) :=
    start_engages policy (fun _ => ⟨silent, fun _ => trivial⟩) trivial
  have now := (Dispatch.registration_of_run engages rfl trivial run).1
  have setup : r'.own = (if a.isOk then ⟨true, some policy, r.own⟩
      else dispatch.registration r).setup := congrArg Registration.setup now
  rw [setup]
  split <;> rfl

/-- An endpoint that was opened for sensed requests, and then started, is configured for motion
data. -/
theorem motion_of_started {sensors : List Sensor} {requests : List StreamRequest}
    {policy : Callback} {a b : Except EndpointError Unit} {r'' : MotionRig}
    (openable : Openable sensors frequency r) (asked : requests ≠ [])
    (sensed : ∀ q ∈ requests, q.Sensed sensors)
    (opened : (openStreams requests).run.run r = .finished a r')
    (silent : r'.core.registered = none)
    (started : (start { policy }).run.run r' = .finished b r'') :
    ∀ route ∈ r''.own.configuration, route.source.format ∈ PixelFormat.motion := by
  obtain ⟨_, run, resolved, -⟩ := openStreams_run_of_sensed openable asked sensed
  cases opened.symm.trans run
  rw [own_of_started silent started]
  exact motion_of_resolve resolved

/-- A client opens two channels of the scattered device and starts them. With one frame to give
away, a sample of each sensor is lost; and then the frame is released. -/
theorem scattered_session : ∃ (r : MotionRig) (c : Crowd MotionRig),
    construct.run.run (.create (.create 4 1) 100 { sensors := scattered } .sound) =
      .finished (.ok ()) r ∧
    c.holder = none ∧
    Crowd.Recorded samples (fun _ => True) { rig := r } c
      [⟨"gyro_3d", 2⟩, ⟨"gyro_3d", 2⟩, ⟨"accel_3d", 4⟩] ∧
    c.rig.core.streaming = true ∧
    (∀ route ∈ c.rig.own.configuration, route.source.format ∈ PixelFormat.motion) ∧
    (deliver "temp" [6] c.rig).1 = false ∧ (deliver "gyro_3d" [7, 8, 9] c.rig).1 = true ∧
    c.rig.core.pool.published < min c.rig.core.pool.limit c.rig.core.pool.capacity := by
  let requests : List StreamRequest := [{ channel := .gyro }, { channel := .accel }]
  let opening : MotionOp := .openStreams requests
  let starting : MotionOp := .start fun _ => .hold
  let x₁ : MotionAside := .deliver "gyro_3d" [1]
  let x₂ : MotionAside := .deliver "gyro_3d" [2]
  let x₃ : MotionAside := .deliver "accel_3d" [3]
  let x₄ : MotionAside := .core (.releaseHeld 1)
  have computed : (do
      let (_, r) ← construct.success? (.create (.create 4 1) 100 { sensors := scattered })
      let (_, r') ← opening.work.run.outcome? r
      let (_, r₀) ← starting.work.run.outcome? r'
      let r₁ := x₁.apply r₀
      let r₂ := x₂.apply r₁
      let c := x₄.apply (x₃.apply r₂)
      return !r.core.opened && r'.core.consumer.isNone && c.core.streaming &&
        decide ([] ++ samples.shows x₁ r₀ ++ samples.shows x₂ r₁ ++ samples.shows x₃ r₂ ++ [] =
          [⟨"gyro_3d", 2⟩, ⟨"gyro_3d", 2⟩, ⟨"accel_3d", 4⟩]) &&
        !(deliver "temp" [6] c).1 && (deliver "gyro_3d" [7, 8, 9] c).1 &&
        decide (c.core.pool.published < min c.core.pool.limit c.core.pool.capacity)) =
      some true := by
    decide +kernel
  simp only [Option.bind_eq_bind, Option.bind_eq_some_iff, Prod.exists, Option.pure_def,
    Option.some.injEq, Bool.and_eq_true, decide_eq_true_eq, Bool.not_eq_true'] at computed
  obtain ⟨_, r, construction, _, r', opened, _, r₀, started,
    ⟨⟨⟨⟨⟨shut, silent⟩, streaming⟩, shows⟩, refused⟩, accepted⟩, room⟩ := computed
  have run := Work.run_of_success? construction
  have opened := Procedure.run_of_outcome? opened
  have started := Procedure.run_of_outcome? started
  have recorded : Crowd.Recorded samples (fun _ => True) { rig := r }
      { rig := x₄.apply (x₃.apply (x₂.apply (x₁.apply r₀))) }
      [⟨"gyro_3d", 2⟩, ⟨"gyro_3d", 2⟩, ⟨"accel_3d", 4⟩] := by
    have fresh : Crowd.Recorded samples (fun _ => True) { rig := r } { rig := r } [] := .start
    have streams := (fresh.served opening rfl rfl opened).served starting rfl rfl started
    have pushed := (((streams.aside x₁).aside x₂).aside x₃).aside x₄
    rw [← shows]
    exact pushed
  have constructed := constructed_of_run run
  have nobody : r'.core.registered = none :=
    Option.map_eq_none_iff.2 (Option.isNone_iff_eq_none.1 silent)
  have sensed : ∀ q ∈ requests, q.Sensed scattered := by decide
  have motion := motion_of_started
    ⟨constructed.fitted, constructed.formats, shut, constructed.stopped⟩ (by decide) sensed opened
    nobody started
  refine ⟨r, _, run, rfl, recorded, streaming, ?_, refused, accepted, room⟩
  -- What the device pushes leaves the configuration alone.
  simp only [aside_own]
  exact motion

/-- With one frame to give away, a sample of each sensor is lost; the next one of the first
gyroscope is its third. -/
theorem scattered_numbered :
    ∃ (r : MotionRig) (c : Crowd MotionRig) (shown : List Sensor),
      construct.run.run (.create (.create 4 1) 100 { sensors := scattered } .sound) =
        .finished (.ok ()) r ∧
      (scattered.map Sensor.iio).Nodup ∧
      Crowd.Recorded samples (fun _ => True) { rig := r } c shown ∧
      c.rig.core.streaming = true ∧
      (∀ route ∈ c.rig.own.configuration, route.source.format ∈ PixelFormat.motion) ∧
      shown = [⟨"gyro_3d", 2⟩, ⟨"gyro_3d", 2⟩, ⟨"accel_3d", 4⟩] ∧
      (deliver "temp" [6] c.rig).1 = false ∧
      (deliver "gyro_3d" [7, 8, 9] c.rig).1 = true ∧
      (deliver "gyro_3d" [7, 8, 9] c.rig).2.core = Core.offer
        { data := [7, 8, 9]
          info :=
            { timestamp := c.rig.core.hostTime, number := 3, systemTime := c.rig.core.hostTime,
              width := 0, height := 0, fps := 100, channel := .gyro, encoding := .motionData } }
        { c.rig.core with pool := c.rig.core.pool.draw 1 } := by
  obtain ⟨r, c, run, free, recorded, streaming, motion, refused, accepted, room⟩ :=
    scattered_session
  obtain ⟨-, capturing, numbers⟩ :=
    samples_numbered_by_sensor run (by decide) recorded streaming motion
  have numbers := numbers (capturing free)
  obtain ⟨channel, s, named, first, -, handed⟩ := numbers.numbers "gyro_3d" [7, 8, 9] accepted
  obtain rfl : channel = .gyro := by
    cases channel with
    | gyro => rfl
    | _ => exact absurd named (by decide)
  obtain rfl : ⟨"gyro_3d", 2⟩ = s := Option.some.inj first
  exact ⟨r, c, _, run, by decide, recorded, streaming, motion, rfl, refused, accepted,
    (handed.dispatched room).1⟩

end MotionRig

end Sensing
