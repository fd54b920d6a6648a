import Sensing.Demo.Run
import Sensing.Proofs.Motion.Feeds
import Sensing.Proofs.Video.Advertised

/-!
# What the demonstration can be asked for

The camera has one mode of each of three formats, all of one size and rate, and the motion module
has a gyroscope and an accelerometer. So whether a request can be had is plain: the camera's are for
color, depth or infrared, in the one encoding there is of each, and name the size and the rate that
the command line gives or leave them open (`Filmed`); the motion module's are for all the samples of
a sensor, as they come (`Unsized`).

Main results: these are the requests that the endpoints can serve (`servable_iff_filmed`,
`sensed_iff_unsized`), and the first one of a list that cannot be had is the one that the camera
names or, if there is none of the camera's, the motion module (`refused?`).
-/

namespace Sensing

namespace Route

/-- The first request that cannot be served. -/
def unservable? (requests : List StreamRequest) (formats : List PixelFormat)
    (modes : List NativeMode) : Option StreamRequest :=
  requests.find? fun q => ¬ q.Servable formats modes

variable {requests : List StreamRequest} {formats : List PixelFormat} {modes : List NativeMode}

/-- Where all can be served there is no first one that cannot. -/
theorem unservable?_eq_none (h : ∀ q ∈ requests, q.Servable formats modes) :
    unservable? requests formats modes = none :=
  List.find?_eq_none.2 fun q mem => by simp [h q mem]

/-- What is routed can be served. -/
theorem unservable?_of_resolve_ok {routes : List Route} (asked : requests ≠ [])
    (routed : resolve requests formats modes = .ok routes) :
    unservable? requests formats modes = none :=
  unservable?_eq_none ((routable_iff asked).1 ⟨routes, routed⟩)

/-- What is not is refused for the first request that cannot. -/
theorem unservable?_of_resolve_error {e : EndpointError} (asked : requests ≠ [])
    (refused : resolve requests formats modes = .error e) :
    ∃ q, unservable? requests formats modes = some q ∧ e = .profileNotFound q.text := by
  obtain ⟨before, q, after, same, servable, unservable, named⟩ :=
    (resolve_eq_error_iff asked).1 refused
  refine ⟨q, List.find?_eq_some_iff_append.2 ⟨by simpa using unservable, before, after, same, ?_⟩,
    named⟩
  intro b mem
  simp [servable b mem]

end Route

namespace Demo

/-! ## The camera -/

/-- The formats that are registered with the camera's endpoint. -/
def cameraFormats : List PixelFormat := [.yuy2, .z16, .y8]

/-- The one encoding that the camera has of a channel. -/
def encoding? : Channel → Option Encoding
  | .color => some .yuyv
  | .depth => some .z16
  | .infrared => some .y8
  | _ => none

/-- The camera has what is asked for. -/
structure Filmed (o : Options) (q : StreamRequest) : Prop where
  encoding : ∃ e, encoding? q.channel = some e ∧ (q.encoding = .any ∨ q.encoding = e)
  width : q.width = 0 ∨ q.width = o.width
  height : q.height = 0 ∨ q.height = o.height
  fps : q.fps = 0 ∨ q.fps = o.fps

variable {o : Options} {q : StreamRequest}

/-- Each format is of a channel in the one encoding of it. -/
theorem single_of_cameraFormats {pf : PixelFormat} (listed : pf ∈ cameraFormats) :
    ∃ c e code n, encoding? c = some e ∧ pf = .single code n c e := by
  simp only [cameraFormats, List.mem_cons, List.not_mem_nil, or_false] at listed
  rcases listed with rfl | rfl | rfl
  · exact ⟨.color, .yuyv, .yuy2, 2, rfl, rfl⟩
  · exact ⟨.depth, .z16, .z16, 2, rfl, rfl⟩
  · exact ⟨.infrared, .y8, .grey, 1, rfl, rfl⟩

/-- There is a mode for each of them. -/
theorem mode_of_encoding? (o : Options) {c : Channel} {e : Encoding} (h : encoding? c = some e) :
    ∃ code n, .single code n c e ∈ cameraFormats ∧
      ⟨o.width, o.height, o.fps, code⟩ ∈ cameraModes o := by
  cases c with
  | color =>
    cases h
    exact ⟨.yuy2, 2, List.mem_cons_self, List.mem_cons_self⟩
  | depth =>
    cases h
    exact ⟨.z16, 2, List.mem_of_mem_tail List.mem_cons_self,
      List.mem_of_mem_tail List.mem_cons_self⟩
  | infrared =>
    cases h
    exact ⟨.grey, 1, List.mem_of_mem_tail (List.mem_of_mem_tail List.mem_cons_self),
      List.mem_of_mem_tail (List.mem_of_mem_tail List.mem_cons_self)⟩
  | _ => cases h

/-- The camera's endpoint serves what the camera has, and nothing else. -/
theorem servable_iff_filmed :
    q.Servable cameraFormats (distinct (cameraModes o)) ↔ Filmed o q := by
  constructor
  · intro ⟨pf, registered, u, unpacks, serves, m, offered, fits⟩
    obtain ⟨c, e, code, n, only, rfl⟩ := single_of_cameraFormats registered
    obtain rfl := List.mem_singleton.1 unpacks
    obtain ⟨rfl, encoding⟩ := Unpacker.serves_single_iff.1 serves
    obtain ⟨_, -, rfl⟩ := List.mem_map.1 (mem_distinct.1 offered)
    obtain ⟨-, width, height, fps⟩ := NativeMode.fits_iff.1 fits
    exact ⟨⟨e, only, encoding⟩, width, height, fps⟩
  · intro filmed
    obtain ⟨e, only, encoding⟩ := filmed.encoding
    obtain ⟨code, n, registered, offered⟩ := mode_of_encoding? o only
    exact ⟨_, registered, _, List.mem_singleton_self _,
      Unpacker.serves_single_iff.2 ⟨rfl, encoding⟩, _, mem_distinct.2 offered,
      NativeMode.fits_iff.2 ⟨rfl, filmed.width, filmed.height, filmed.fps⟩⟩

instance (o : Options) (q : StreamRequest) : Decidable (Filmed o q) :=
  decidable_of_iff _ servable_iff_filmed

/-- What the camera's endpoint proposes it can serve. -/
theorem filmed_of_proposed
    (proposed : q ∈ VideoRig.principalRequests cameraFormats (distinct (cameraModes o))) :
    Filmed o q :=
  servable_iff_filmed.1 (VideoRig.servable_of_principal (by decide) proposed)

/-! ## The motion module -/

/-- All the samples of a sensor are asked for, as they come: samples have neither a size nor a rate
that could be chosen. -/
structure Unsized (q : StreamRequest) : Prop where
  encoding : q.encoding = .any ∨ q.encoding = .motionData
  width : q.width = 0
  height : q.height = 0
  fps : q.fps = 0

instance (q : StreamRequest) : Decidable (Unsized q) :=
  decidable_of_iff ((q.encoding = .any ∨ q.encoding = .motionData) ∧ q.width = 0 ∧ q.height = 0 ∧
      q.fps = 0)
    ⟨fun h => ⟨h.1, h.2.1, h.2.2.1, h.2.2.2⟩, fun h => ⟨h.encoding, h.width, h.height, h.fps⟩⟩

/-- There is a sensor for each channel that is asked of the motion module. -/
theorem sensed_iff_unsized (motion : isMotion q.channel = true) :
    q.Sensed MotionDevice.motionModule ↔ Unsized q := by
  refine ⟨fun h => ⟨h.encoding, h.width, h.height, h.fps⟩, fun h => ⟨?_, h.encoding, h.width,
    h.height, h.fps⟩⟩
  rw [← Channel.sensorIn?_isSome_iff]
  cases channel : q.channel with
  | gyro | accel => decide
  | _ =>
    rw [channel] at motion
    cases motion

/-! ## The first request that cannot be had -/

/-- What is asked of the camera. -/
def ofCamera (rs : List StreamRequest) : List StreamRequest :=
  rs.filter fun q => !isMotion q.channel

/-- What is asked of the motion module. -/
def ofModule (rs : List StreamRequest) : List StreamRequest :=
  rs.filter fun q => isMotion q.channel

/-- Everything that is asked for can be had; of the motion module, only if it is used. -/
structure Obtainable (o : Options) (rs : List StreamRequest) : Prop where
  filmed : ∀ q ∈ rs, isMotion q.channel = false → Filmed o q
  sensed : o.withoutMotion = false → ∀ q ∈ rs, isMotion q.channel = true → Unsized q

/-- The first request for the camera that it does not have. -/
def unfilmed? (o : Options) (rs : List StreamRequest) : Option StreamRequest :=
  rs.find? fun q => isMotion q.channel = false ∧ ¬ Filmed o q

/-- The first request for the motion module that it does not have, where there is one. -/
def unsensed? (o : Options) (rs : List StreamRequest) : Option StreamRequest :=
  if o.withoutMotion then none else rs.find? fun q => isMotion q.channel = true ∧ ¬ Unsized q

/-- The request for which the demonstration fails: the camera's come first. -/
def refused? (o : Options) (rs : List StreamRequest) : Option StreamRequest :=
  (unfilmed? o rs).or (unsensed? o rs)

variable {rs : List StreamRequest}

/-- Nothing is refused just if everything can be had. -/
theorem refused?_eq_none_iff : refused? o rs = none ↔ Obtainable o rs := by
  have filmed : unfilmed? o rs = none ↔ ∀ q ∈ rs, isMotion q.channel = false → Filmed o q := by
    simp [unfilmed?]
  have sensed : unsensed? o rs = none ↔
      (o.withoutMotion = false → ∀ q ∈ rs, isMotion q.channel = true → Unsized q) := by
    unfold unsensed?
    cases o.withoutMotion <;> simp
  unfold refused?
  rw [Option.or_eq_none_iff, filmed, sensed]
  exact ⟨fun h => ⟨h.1, h.2⟩, fun h => ⟨h.filmed, h.sensed⟩⟩

/-! Without requests nothing is refused. -/

section Asked

variable {asked : Option (List StreamRequest)}

/-- What the camera does not have is refused, whatever is asked of the motion module. -/
theorem refused?_of_unfilmed (h : asked.bind (unfilmed? o) = some q) :
    asked.bind (refused? o) = some q := by
  obtain ⟨rs, found, first⟩ := Option.bind_eq_some_iff.1 h
  rw [found, Option.bind_some]
  unfold refused?
  rw [first, Option.some_or]

/-- Where the camera has everything, the motion module decides. -/
theorem refused?_of_filmed (h : asked.bind (unfilmed? o) = none) :
    asked.bind (refused? o) = asked.bind (unsensed? o) := by
  cases asked with
  | none => rfl
  | some rs =>
    rw [Option.bind_some] at h ⊢
    unfold refused?
    rw [h, Option.none_or, Option.bind_some]

/-- Of a motion module that is not used nothing is refused. -/
theorem unsensed?_without (h : o.withoutMotion = true) : asked.bind (unsensed? o) = none := by
  refine Option.bind_eq_none_iff.2 fun rs _ => ?_
  exact if_pos h

end Asked

/-- What the camera's endpoint cannot serve is what the camera does not have, -/
theorem unservable?_ofCamera :
    Route.unservable? (ofCamera rs) cameraFormats (distinct (cameraModes o)) = unfilmed? o rs := by
  unfold ofCamera unfilmed? Route.unservable?
  rw [List.find?_filter]
  simp [servable_iff_filmed]

/-- and the same goes for the motion module. -/
theorem unservable?_ofModule (withMotion : o.withoutMotion = false) :
    Route.unservable? (ofModule rs) PixelFormat.motion
      (MotionRig.sensedModes MotionDevice.motionModule) = unsensed? o rs := by
  unfold ofModule unsensed? Route.unservable?
  rw [List.find?_filter, withMotion, if_neg Bool.false_ne_true]
  refine congrArg (fun p => rs.find? p) (funext fun q => ?_)
  cases motion : isMotion q.channel with
  | false => simp
  | true => simp [MotionRig.servable_iff, sensed_iff_unsized motion]

end Demo

end Sensing
