import Sensing.Endpoint.Motion
import Sensing.Proofs.Distinct
import Sensing.Proofs.Routing.Satisfiability

/-!
# Sensors and the channels they feed

Which requests a motion endpoint can serve is spread over five tables and look-ups: a sensor's name
says which channel it feeds, the channel has a four-character code, which makes a native mode
without size or rate, a pixel format of that code has an output of a channel, and the channel says
by which name to look for the sensor to be captured. They agree: all there is to it is which channel
is fed by which name (`Channel.sensorName?`), and whether the device has such a sensor
(`Channel.sensorIn?`).

Main results: what requests can be routed over the formats of motion data (`servable_iff`), which
channels a resolution is about (`routedChannels_resolve`), and which sensors are captured for it
(`ratesFor_eq_ok_iff`).
-/

namespace Sensing

namespace Channel

/-- The name of the sensors that feed a channel. -/
def sensorName? : Channel → Option String
  | .gyro => some "gyro_3d"
  | .accel => some "accel_3d"
  | _ => none

/-- The first sensor that feeds a channel. -/
def sensorIn? (sensors : List Sensor) (c : Channel) : Option Sensor :=
  c.sensorName?.bind fun name => sensors.find? fun s => s.name = name

variable {sensors : List Sensor} {c : Channel} {s : Sensor}

/-- A channel has a sensor just if there is one of its name. -/
theorem sensorIn?_isSome_iff : (c.sensorIn? sensors).isSome ↔
    ∃ name, c.sensorName? = some name ∧ ∃ s ∈ sensors, s.name = name := by
  unfold sensorIn?
  cases c.sensorName? with
  | none => simp
  | some name =>
    rw [Option.bind_some, List.find?_isSome]
    simp only [decide_eq_true_eq, Option.some.injEq, exists_eq_left']

/-- The first sensor of a channel is one of those that feed it. -/
theorem mem_of_sensorIn? (h : c.sensorIn? sensors = some s) :
    s ∈ sensors ∧ c.sensorName? = some s.name := by
  obtain ⟨name, named, found⟩ := Option.bind_eq_some_iff.1 h
  have same : s.name = name := by simpa using List.find?_some found
  exact ⟨List.mem_of_find?_eq_some found, named.trans (congrArg some same.symm)⟩

/-- Any sensor that feeds a channel is a reason for there to be a first one. -/
theorem sensorIn?_isSome_of_mem (mem : s ∈ sensors) (named : c.sensorName? = some s.name) :
    (c.sensorIn? sensors).isSome :=
  sensorIn?_isSome_iff.2 ⟨s.name, named, s, mem, rfl⟩

end Channel

/-! ## The tables agree -/

namespace SensorFeed

/-- What feeds a channel is told by its name, -/
theorem ofChannel?_eq (c : Channel) :
    ofChannel? c = c.sensorName?.map fun name => ⟨name, c, .motionData⟩ := by
  cases c <;> decide

/-- and the name tells what it feeds, -/
theorem ofName?_of_sensorName? {c : Channel} {name : String} (h : c.sensorName? = some name) :
    ofName? name = some ⟨name, c, .motionData⟩ := by
  cases c with
  | gyro | accel =>
    cases h
    decide
  | _ => cases h

/-- which is that channel. -/
theorem sensorName?_of_ofName? {name : String} {feed : SensorFeed} (h : ofName? name = some feed) :
    feed.channel.sensorName? = some name ∧ feed.encoding = .motionData := by
  have row : ∀ feed ∈ table,
      feed.channel.sensorName? = some feed.name ∧ feed.encoding = .motionData := by decide
  obtain ⟨named, encoding⟩ := row feed (List.mem_of_find?_eq_some h)
  have same : feed.name = name := by simpa using List.find?_some h
  exact ⟨same ▸ named, encoding⟩

/-- The channels with a code are those that are fed, -/
theorem code?_isSome (c : Channel) : (code? c).isSome = c.sensorName?.isSome := by
  cases c <;> rfl

/-- and each has a code of its own. -/
theorem code?_injective {c d : Channel} {code : FourCC} (hc : code? c = some code)
    (hd : code? d = some code) : c = d := by
  have distinct : FourCC.gyro ≠ FourCC.accl := by decide
  rw [← hd] at hc
  cases c <;> cases d <;> simp_all [code?, eq_comm]

end SensorFeed

namespace MotionRig

variable {sensors : List Sensor} {s : Sensor} {m : NativeMode} {q : StreamRequest}

/-- A sensor has a mode just if it feeds a channel: that channel's code, without size or rate. -/
theorem modeOf?_eq_some_iff : modeOf? s = some m ↔
    ∃ c code, c.sensorName? = some s.name ∧ SensorFeed.code? c = some code ∧
      m = ⟨0, 0, 0, code⟩ := by
  unfold modeOf?
  simp only [Option.bind_eq_bind, Option.bind_eq_some_iff, Option.pure_def, Option.some.injEq]
  constructor
  · rintro ⟨feed, named, code, isCode, rfl⟩
    exact ⟨feed.channel, code, (SensorFeed.sensorName?_of_ofName? named).1, isCode, rfl⟩
  · rintro ⟨c, code, named, isCode, rfl⟩
    exact ⟨_, SensorFeed.ofName?_of_sensorName? named, code, isCode, rfl⟩

/-- What is proposed for a sensor asks for all samples of the channel that it feeds. -/
theorem requestOf?_eq_some_iff : requestOf? s = some q ↔
    ∃ c, c.sensorName? = some s.name ∧ q = { channel := c, encoding := .motionData } := by
  unfold requestOf?
  simp only [Option.bind_eq_bind, Option.bind_eq_some_iff, Option.pure_def, Option.some.injEq]
  constructor
  · rintro ⟨feed, named, rfl⟩
    obtain ⟨named, encoding⟩ := SensorFeed.sensorName?_of_ofName? named
    rw [encoding]
    exact ⟨feed.channel, named, rfl⟩
  · rintro ⟨c, named, rfl⟩
    exact ⟨_, SensorFeed.ofName?_of_sensorName? named, rfl⟩

/-- The native modes of sensors, each once. -/
def sensedModes (sensors : List Sensor) : List NativeMode := distinct (sensors.filterMap modeOf?)

/-- The modes of sensors are the codes of the channels that have one. -/
theorem mem_sensedModes_iff : m ∈ sensedModes sensors ↔
    ∃ c code, (c.sensorIn? sensors).isSome ∧ SensorFeed.code? c = some code ∧
      m = ⟨0, 0, 0, code⟩ := by
  unfold sensedModes
  simp only [mem_distinct, List.mem_filterMap, modeOf?_eq_some_iff]
  constructor
  · rintro ⟨s, mem, c, code, named, isCode, rfl⟩
    exact ⟨c, code, Channel.sensorIn?_isSome_of_mem mem named, isCode, rfl⟩
  · rintro ⟨c, code, sensed, isCode, rfl⟩
    obtain ⟨s, found⟩ := Option.isSome_iff_exists.1 sensed
    obtain ⟨mem, named⟩ := Channel.mem_of_sensorIn? found
    exact ⟨s, mem, c, code, named, isCode, rfl⟩

end MotionRig

/-! ## The formats of motion data -/

/-- What sensors can be asked for: all the samples of one of them, as they come. -/
structure StreamRequest.Sensed (sensors : List Sensor) (q : StreamRequest) : Prop where
  sensor : ∃ name, q.channel.sensorName? = some name ∧ ∃ s ∈ sensors, s.name = name
  encoding : q.encoding = .any ∨ q.encoding = .motionData
  width : q.width = 0
  height : q.height = 0
  fps : q.fps = 0

instance (sensors : List Sensor) (q : StreamRequest) : Decidable (q.Sensed sensors) :=
  decidable_of_iff ((q.channel.sensorIn? sensors).isSome ∧
      (q.encoding = .any ∨ q.encoding = .motionData) ∧ q.width = 0 ∧ q.height = 0 ∧ q.fps = 0)
    ⟨fun h => ⟨Channel.sensorIn?_isSome_iff.1 h.1, h.2.1, h.2.2.1, h.2.2.2.1, h.2.2.2.2⟩,
      fun h => ⟨Channel.sensorIn?_isSome_iff.2 h.sensor, h.encoding, h.width, h.height, h.fps⟩⟩

/-- What is asked of a sensor has one. -/
theorem StreamRequest.Sensed.found {sensors : List Sensor} {q : StreamRequest}
    (h : q.Sensed sensors) : (q.channel.sensorIn? sensors).isSome :=
  Channel.sensorIn?_isSome_iff.2 h.sensor

namespace Unpacker

/-- An unpacker of one output serves requests for its channel and its encoding. -/
theorem serves_single_iff {needsProcessing : Bool} {decoder : Decoder} {c : Channel} {e : Encoding}
    {q : StreamRequest} : Unpacker.serves ⟨needsProcessing, decoder, [(c, e)]⟩ q = true ↔
      q.channel = c ∧ (q.encoding = .any ∨ q.encoding = e) := by
  rw [serves_iff]
  by_cases same : c = q.channel <;> simp [encodingOf, same, eq_comm]

end Unpacker

namespace PixelFormat

/-- The formats of motion data. -/
def motion : List PixelFormat := [.gyro, .accel]

/-- The format of the data of a channel. -/
theorem mem_motion_iff {pf : PixelFormat} : pf ∈ motion ↔
    ∃ c code, SensorFeed.code? c = some code ∧ pf = .single code 1 c .motionData := by
  unfold motion
  rw [List.mem_pair]
  constructor
  · rintro (rfl | rfl)
    · exact ⟨.gyro, .gyro, rfl, rfl⟩
    · exact ⟨.accel, .accl, rfl, rfl⟩
  · rintro ⟨c, code, isCode, rfl⟩
    cases c with
    | gyro =>
      cases isCode
      exact .inl rfl
    | accel =>
      cases isCode
      exact .inr rfl
    | _ => cases isCode

end PixelFormat

namespace Source

variable {formats : List PixelFormat} {modes : List NativeMode} {s : Source}

/-- What a source of motion data has to do with: one channel, whose samples it passes on. -/
theorem channel_of_motion (listed : s.Listed formats modes)
    (motion : s.format ∈ PixelFormat.motion) :
    ∃ c code, SensorFeed.code? c = some code ∧ s.format = .single code 1 c .motionData ∧
      s.mode.format = code ∧ s.unpackerIndex = 0 ∧
      s.unpacker = ⟨false, .copy, [(c, .motionData)]⟩ := by
  obtain ⟨c, code, isCode, format⟩ := PixelFormat.mem_motion_iff.1 motion
  have unpacker := listed.unpacker
  rw [format] at unpacker
  obtain ⟨only, same⟩ := List.getElem?_eq_some_iff.1 unpacker
  have first : s.unpackerIndex = 0 := Nat.lt_one_iff.1 only
  refine ⟨c, code, isCode, format, ?_, first, ?_⟩
  · rw [listed.code, format]
    rfl
  · rw [← same]
    exact List.getElem_singleton _

/-- It serves requests for that channel only. -/
theorem outputs_of_serves (listed : s.Listed formats modes) (motion : s.format ∈ PixelFormat.motion)
    {q : StreamRequest} (serves : s.serves q = true) :
    s.unpacker.outputs = [(q.channel, .motionData)] := by
  obtain ⟨c, _, -, -, -, -, unpacker⟩ := channel_of_motion listed motion
  have served := (Bool.and_eq_true_iff.1 serves).1
  rw [unpacker] at served ⊢
  rw [(Unpacker.serves_single_iff.1 served).1]

/-- Over the modes of sensors there is one source for each channel. -/
theorem alike_of_motion {sensors : List Sensor} {t : Source}
    (hs : s.Listed PixelFormat.motion (MotionRig.sensedModes sensors))
    (ht : t.Listed PixelFormat.motion (MotionRig.sensedModes sensors))
    (outputs : s.unpacker.outputs = t.unpacker.outputs) : s.Alike t := by
  have motion {s : Source} (h : s.Listed PixelFormat.motion (MotionRig.sensedModes sensors)) :
      s.format ∈ PixelFormat.motion := List.mem_of_getElem? h.format
  obtain ⟨c, code, isCode, format, mode, first, unpacker⟩ := channel_of_motion hs (motion hs)
  obtain ⟨d, code', isCode', format', mode', first', unpacker'⟩ := channel_of_motion ht (motion ht)
  obtain rfl : c = d := by
    rw [unpacker, unpacker'] at outputs
    cases outputs
    rfl
  obtain rfl : code = code' := Option.some.inj (isCode.symm.trans isCode')
  have plain {m : NativeMode} (h : m ∈ MotionRig.sensedModes sensors) (same : m.format = code) :
      m = ⟨0, 0, 0, code⟩ := by
    obtain ⟨_, _, -, -, rfl⟩ := MotionRig.mem_sensedModes_iff.1 h
    rw [← same]
  exact ⟨(plain hs.mode mode).trans (plain ht.mode mode').symm, first.trans first'.symm,
    .inr (format.trans format'.symm)⟩

end Source

namespace MotionRig

variable {sensors : List Sensor} {q : StreamRequest} {routes routes' : List Route}
  {requests done : List StreamRequest}

/-- Sensors can serve what they can be asked for, and nothing else. -/
theorem servable_iff : q.Servable PixelFormat.motion (sensedModes sensors) ↔ q.Sensed sensors := by
  unfold StreamRequest.Servable
  simp only [PixelFormat.mem_motion_iff, mem_sensedModes_iff, NativeMode.fits_iff]
  constructor
  · rintro ⟨_, ⟨c, code, isCode, rfl⟩, u, mem, serves, _, ⟨d, _, sensed, isCode', rfl⟩, rfl, width,
      height, fps⟩
    obtain rfl := SensorFeed.code?_injective isCode isCode'
    obtain rfl := List.mem_singleton.1 mem
    obtain ⟨rfl, encoding⟩ := Unpacker.serves_single_iff.1 serves
    exact ⟨Channel.sensorIn?_isSome_iff.1 sensed, encoding, or_self_iff.1 width,
      or_self_iff.1 height, or_self_iff.1 fps⟩
  · intro h
    have named : (SensorFeed.code? q.channel).isSome := by
      obtain ⟨name, named, -⟩ := h.sensor
      rw [SensorFeed.code?_isSome, named]
      rfl
    obtain ⟨code, isCode⟩ := Option.isSome_iff_exists.1 named
    exact ⟨_, ⟨_, code, isCode, rfl⟩, _, List.mem_singleton_self _,
      Unpacker.serves_single_iff.2 ⟨rfl, h.encoding⟩, _, ⟨_, code, h.found, isCode, rfl⟩, rfl,
      .inl h.width, .inl h.height, .inl h.fps⟩

/-! ## The channels of a resolution -/

/-- The channels of more routes come behind. -/
theorem routedChannels_append (routes routes' : List Route) :
    routedChannels (routes ++ routes') = routedChannels routes ++ routedChannels routes' :=
  List.flatMap_append

/-- What a route serves is of a channel that is routed. -/
theorem mem_routedChannels {route : Route} (mem : route ∈ routes) {c : Channel} {e : Encoding}
    (outputs : route.source.unpacker.outputs = [(c, e)]) : c ∈ routedChannels routes :=
  List.mem_flatMap.2 ⟨route, mem, by rw [outputs]; exact List.mem_singleton_self c⟩

/-- Routes of motion data are about the channels of their requests. -/
theorem mem_routedChannels_iff {formats : List PixelFormat} {modes : List NativeMode}
    (sound : Route.Sound formats modes done routes)
    (motion : ∀ route ∈ routes, route.source.format ∈ PixelFormat.motion) {c : Channel} :
    c ∈ routedChannels routes ↔ ∃ route ∈ routes, ∃ q ∈ route.requests, q.channel = c := by
  have outputs {route : Route} (mem : route ∈ routes) {q : StreamRequest}
      (listed : q ∈ route.requests) :
      route.source.unpacker.outputs = [(q.channel, .motionData)] :=
    Source.outputs_of_serves (sound.listed route mem) (motion route mem)
      (sound.served route mem q listed)
  constructor
  · intro known
    obtain ⟨route, mem, output⟩ := List.mem_flatMap.1 known
    obtain ⟨q, listed⟩ := List.exists_mem_of_ne_nil _ (sound.nonempty route mem)
    rw [outputs mem listed] at output
    exact ⟨route, mem, q, listed, (List.mem_singleton.1 output).symm⟩
  · rintro ⟨route, mem, q, listed, rfl⟩
    exact mem_routedChannels mem (outputs mem listed)

/-- A request adds its channel, unless there is a route for it already. -/
theorem routedChannels_add
    (sound : Route.Sound PixelFormat.motion (sensedModes sensors) done routes)
    (added : Route.add PixelFormat.motion (sensedModes sensors) routes q = some routes') :
    routedChannels routes' =
      if q.channel ∈ routedChannels routes then routedChannels routes
      else routedChannels routes ++ [q.channel] := by
  have outputs {s : Source} (listed : s.Listed PixelFormat.motion (sensedModes sensors))
      (serves : s.serves q = true) : s.unpacker.outputs = [(q.channel, .motionData)] :=
    Source.outputs_of_serves listed (List.mem_of_getElem? listed.format) serves
  unfold Route.add at added
  split at added
  next joined hjoined =>
    cases added
    obtain ⟨before, route, after, rfl, -, serves, rfl⟩ := Route.updateFirst_eq_some hjoined
    have mem : route ∈ before ++ route :: after := List.mem_append_right _ (List.mem_cons_self ..)
    have known := mem_routedChannels mem (outputs (sound.listed route mem) serves)
    have source : (route.join q).source = route.source := by
      unfold Route.join
      split <;> rfl
    rw [if_pos known]
    simp only [routedChannels, List.flatMap_append, List.flatMap_cons, source]
  next hnone =>
    have unserved := Route.updateFirst_eq_none.1 hnone
    obtain ⟨s, found, rfl⟩ := Option.map_eq_some_iff.1 added
    obtain ⟨listed, serves⟩ := Source.find?_some found
    -- A route for the same channel would have the same source, and serve the request.
    have fresh : q.channel ∉ routedChannels routes := by
      intro known
      obtain ⟨route, mem, output⟩ := List.mem_flatMap.1 known
      obtain ⟨c, _, -, -, -, -, unpacker⟩ := Source.channel_of_motion (sound.listed route mem)
        (List.mem_of_getElem? (sound.listed route mem).format)
      rw [unpacker] at output
      obtain rfl : q.channel = c := List.mem_singleton.1 output
      refine sound.not_alike unserved found route mem
        (Source.alike_of_motion (sound.listed route mem) listed ?_)
      rw [unpacker, outputs listed serves]
    dsimp only
    rw [sound.updateFirst_same unserved found, if_neg fresh]
    show routedChannels (routes ++ [⟨s, [q]⟩]) = _
    rw [routedChannels_append]
    simp only [routedChannels, List.flatMap_cons, List.flatMap_nil, outputs listed serves,
      List.map_cons, List.map_nil, List.append_nil]

/-- Taking in a list of requests adds their channels, in the order of the first requests. -/
theorem routedChannels_resolveFrom
    (sound : Route.Sound PixelFormat.motion (sensedModes sensors) done routes)
    (known : routedChannels routes = distinct (done.map (·.channel)))
    (resolved : Route.resolveFrom PixelFormat.motion (sensedModes sensors) routes requests =
      .ok routes') : routedChannels routes' = distinct ((done ++ requests).map (·.channel)) := by
  induction requests generalizing done routes with
  | nil =>
    cases resolved
    rw [List.append_nil]
    exact known
  | cons q qs ih =>
    unfold Route.resolveFrom at resolved
    split at resolved
    next => cases resolved
    next more added =>
      have one : routedChannels more = distinct ((done ++ [q]).map (·.channel)) := by
        rw [routedChannels_add sound added, List.map_append, List.map_singleton, distinct_concat,
          known]
      have rest := ih (sound.add added) one resolved
      rw [List.append_assoc] at rest
      exact rest

/-- A resolution is about the channels of the requests, in the order of their first requests. -/
theorem routedChannels_resolve
    (resolved : Route.resolve requests PixelFormat.motion (sensedModes sensors) = .ok routes) :
    routedChannels routes = distinct (requests.map (·.channel)) := by
  unfold Route.resolve at resolved
  split at resolved
  · cases resolved
  · exact routedChannels_resolveFrom Route.sound_nil rfl resolved

/-- Over the formats of motion data, all sources are of motion data. -/
theorem motion_of_resolve {modes : List NativeMode}
    (resolved : Route.resolve requests PixelFormat.motion modes = .ok routes) :
    ∀ route ∈ routes, route.source.format ∈ PixelFormat.motion := by
  unfold Route.resolve at resolved
  split at resolved
  · cases resolved
  · intro route mem
    exact List.mem_of_getElem? ((Route.sound_nil.resolveFrom resolved).listed route mem).format

/-! ## The sensors to be captured -/

/-- The rate at which the first sensor of a channel is captured. -/
def rateFor? (sensors : List Sensor) (frequency : UInt32) (c : Channel) : Option SensorRate :=
  (c.sensorIn? sensors).map fun s => ⟨s.iio, frequency⟩

/-- The index that is looked up for a channel is that of its first sensor, -/
theorem iioFor_of_sensorIn? {c : Channel} {s : Sensor} (h : c.sensorIn? sensors = some s) :
    iioFor sensors c = .ok s.iio := by
  obtain ⟨name, named, found⟩ := Option.bind_eq_some_iff.1 h
  unfold iioFor
  rw [SensorFeed.ofChannel?_eq, named]
  dsimp only [Option.map_some]
  rw [found]

/-- and where one is found there is such a sensor. -/
theorem sensorIn?_of_iioFor {c : Channel} {iio : UInt32} (h : iioFor sensors c = .ok iio) :
    ∃ s, c.sensorIn? sensors = some s ∧ s.iio = iio := by
  unfold iioFor at h
  rw [SensorFeed.ofChannel?_eq] at h
  unfold Channel.sensorIn?
  cases named : c.sensorName? with
  | none =>
    rw [named] at h
    cases h
  | some name =>
    rw [named] at h
    dsimp only [Option.map_some] at h
    split at h
    next s found =>
      cases h
      exact ⟨s, found, rfl⟩
    next => cases h

/-- Where every channel has its sensor, these are looked up one by one; else nothing is. -/
theorem mapM_iioFor_eq_ok_iff {channels : List Channel} {iios : List UInt32} :
    channels.mapM (iioFor sensors) = .ok iios ↔
      (∀ c ∈ channels, (c.sensorIn? sensors).isSome) ∧
        iios = channels.filterMap fun c => (c.sensorIn? sensors).map Sensor.iio := by
  induction channels generalizing iios with
  | nil =>
    rw [List.mapM_nil]
    constructor
    · intro h
      cases h
      exact ⟨List.forall_mem_nil _, rfl⟩
    · rintro ⟨-, rfl⟩
      rfl
  | cons c channels ih =>
    rw [List.mapM_cons, List.forall_mem_cons]
    cases found : iioFor sensors c with
    | error e =>
      constructor
      · intro h
        cases h
      · rintro ⟨⟨sensed, -⟩, -⟩
        obtain ⟨s, isFirst⟩ := Option.isSome_iff_exists.1 sensed
        rw [iioFor_of_sensorIn? isFirst] at found
        cases found
    | ok iio =>
      obtain ⟨s, isFirst, rfl⟩ := sensorIn?_of_iioFor found
      -- The first channel has its sensor, so all depends on the others.
      rw [isFirst, List.filterMap_cons, isFirst]
      cases rest : channels.mapM (iioFor sensors) with
      | error e =>
        constructor
        · intro h
          cases h
        · rintro ⟨⟨-, sensed⟩, -⟩
          rw [ih.2 ⟨sensed, rfl⟩] at rest
          cases rest
      | ok others =>
        obtain ⟨sensed, rfl⟩ := ih.1 rest
        constructor
        · intro h
          cases h
          exact ⟨⟨rfl, sensed⟩, rfl⟩
        · rintro ⟨-, rfl⟩
          rfl

/-- A resolution is captured if every channel it is about has its sensor; each sensor is captured
once. -/
theorem ratesFor_eq_ok_iff {frequency : UInt32} {rates : List SensorRate} :
    ratesFor sensors frequency routes = .ok rates ↔
      (∀ c ∈ routedChannels routes, (c.sensorIn? sensors).isSome) ∧
        rates = distinct ((routedChannels routes).filterMap (rateFor? sensors frequency)) := by
  have each : (routedChannels routes).filterMap (rateFor? sensors frequency) =
      ((routedChannels routes).filterMap fun c => (c.sensorIn? sensors).map Sensor.iio).map
        fun iio => ⟨iio, frequency⟩ := by
    rw [List.map_filterMap]
    refine congrArg (List.filterMap · _) (funext fun c => ?_)
    rw [Option.map_map]
    rfl
  unfold ratesFor
  rw [each]
  -- The sensors are looked up one by one, and the first that is missing decides for all.
  cases found : (routedChannels routes).mapM (iioFor sensors) with
  | error e =>
    constructor
    · intro h
      cases h
    · rintro ⟨sensed, -⟩
      rw [mapM_iioFor_eq_ok_iff.2 ⟨sensed, rfl⟩] at found
      cases found
  | ok iios =>
    obtain ⟨sensed, rfl⟩ := mapM_iioFor_eq_ok_iff.1 found
    constructor
    · intro h
      cases h
      exact ⟨sensed, rfl⟩
    · rintro ⟨-, rfl⟩
      rfl

/-- The sensors captured for a resolution are those of its requests, in the order of their first
requests. -/
theorem ratesFor_resolve {frequency : UInt32} (sensed : ∀ q ∈ requests, q.Sensed sensors)
    (resolved : Route.resolve requests PixelFormat.motion (sensedModes sensors) = .ok routes) :
    ratesFor sensors frequency routes =
      .ok (distinct (requests.filterMap fun q => rateFor? sensors frequency q.channel)) := by
  have channels := routedChannels_resolve resolved
  refine ratesFor_eq_ok_iff.2 ⟨fun c hc => ?_, ?_⟩
  · rw [channels, mem_distinct, List.mem_map] at hc
    obtain ⟨q, mem, rfl⟩ := hc
    exact (sensed q mem).found
  · rw [channels, distinct_filterMap, List.filterMap_map]
    rfl

end MotionRig

end Sensing
