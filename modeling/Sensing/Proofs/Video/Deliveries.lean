import Sensing.Proofs.Video.Delivery

/-!
# Which stream takes in an image

A raw image that a device delivers goes to the first stream that is armed for its mode. An automatic
device makes an image for each armed stream, and each stream takes in its own: where arming came on
top of streams that were still armed, several may be armed for one mode, and the later ones have
their share in every round though no delivery reaches them.

Main results: what is true of an endpoint whichever of its streams takes in an image, deliveries and
rounds leave true (`deliver_induction`, `nextRound_induction`); each armed stream takes in its own
image of a round (`nextRound_armed`); and where no mode is armed twice, a round is one delivery for
each image (`nextRound_of_once`).
-/

namespace Sensing

/-- What is armed after it has taken in an image. -/
def VideoSink.pass (data : Bytes) : VideoSink → VideoSink
  | .tap => .tap
  | .lanes ls => .lanes (ls.map (·.pass data))

namespace VideoDevice

/-- The modes of the armed streams, in order. -/
def armedModes (d : VideoDevice) : List NativeMode := d.armed.map (·.1)

variable {d : VideoDevice} {m : NativeMode}

/-- What a mode delivers to is what is armed at the first of its places. -/
theorem place_of_sink? {sink : VideoSink} (h : d.sink? m = some sink) : ∃ place : Nat,
    d.armed.findIdx? (fun s => s.1 = m) = some place ∧ d.armed[place]? = some (m, sink) := by
  unfold sink? at h
  rw [List.find?_eq_bind_findIdx?_getElem?, Option.map_eq_some_iff] at h
  obtain ⟨s, found, rfl⟩ := h
  have same : s.1 = m := by
    rw [← List.find?_eq_bind_findIdx?_getElem?] at found
    simpa using List.find?_some found
  obtain ⟨place, first, there⟩ := Option.bind_eq_some_iff.1 found
  exact ⟨place, first, by rw [there, ← same]⟩

/-- What is not found among the sinks has no place among the streams. -/
theorem unplaced_of_sink? (h : d.sink? m = none) :
    d.armed.findIdx? (fun s => s.1 = m) = none := by
  unfold sink? at h
  rw [Option.map_eq_none_iff, List.find?_eq_none] at h
  exact List.findIdx?_eq_none_iff.2 fun s hs => Bool.eq_false_iff.2 (h s hs)

/-- A mode that is armed once has one place. -/
theorem place_of_once (once : d.armedModes.Nodup) {place : Nat}
    (there : d.armedModes[place]? = some m) :
    d.armed.findIdx? (fun s => s.1 = m) = some place := by
  unfold armedModes at once there
  obtain ⟨bound, same⟩ := List.getElem?_eq_some_iff.1 there
  rw [List.length_map] at bound
  rw [List.getElem_map] at same
  refine List.findIdx?_eq_some_iff_getElem.2 ⟨bound, decide_eq_true same, fun j before => ?_⟩
  rw [decide_eq_true_eq]
  intro again
  have apart := List.pairwise_iff_getElem.1 once j place (by simpa using Nat.lt_trans before bound)
    (by simpa using bound) before
  rw [List.getElem_map, List.getElem_map] at apart
  exact apart (again.trans same.symm)

end VideoDevice

namespace VideoRig

variable {r : VideoRig} {m : NativeMode} {data : Bytes} {P : VideoRig → Prop}

/-! ## Whichever stream it is -/

/-- A delivery either reaches one stream or changes nothing. -/
theorem deliver_induction (taken : ∀ place data r, P r → P (deliverTo place data r))
    (m : NativeMode) (data : Bytes) (h : P r) : P (deliver m data r).2 := by
  unfold deliver
  split
  · exact h
  · exact taken _ data r h

/-- One delivery after another. -/
theorem deliveries_induction (taken : ∀ place data r, P r → P (deliverTo place data r))
    (is : List (NativeMode × Bytes)) (h : P r) :
    P (is.foldl (fun r i => (deliver i.1 i.2 r).2) r) := by
  induction is generalizing r with
  | nil => exact h
  | cons i is ih => exact ih (deliver_induction taken i.1 i.2 h)

theorem deliverFrom_induction (taken : ∀ place data r, P r → P (deliverTo place data r))
    (place : Nat) (images : List (NativeMode × Bytes)) (h : P r) :
    P (deliverFrom place images r) := by
  induction images generalizing place r with
  | nil => exact h
  | cons image images ih => exact ih (place + 1) (taken place image.2 r h)

/-- A round also makes the device count on. -/
theorem nextRound_induction (taken : ∀ place data r, P r → P (deliverTo place data r))
    (forward : ∀ r, P r → P (mapDevice (·.nextRound) r)) (h : P r) : P (nextRound r) := by
  unfold nextRound
  split
  · exact h
  · exact forward _ (deliverFrom_induction taken 0 _ h)

/-! ## The stream of a mode -/

theorem deliver_of_place {place : Nat}
    (first : r.machine.device.armed.findIdx? (fun s => s.1 = m) = some place) :
    (deliver m data r).2 = deliverTo place data r := by
  unfold deliver
  rw [first]

/-- An image of a mode that is not armed is lost without a trace. -/
theorem deliver_of_unarmed (unarmed : r.machine.device.sink? m = none) :
    (deliver m data r).2 = r := by
  unfold deliver
  rw [VideoDevice.unplaced_of_sink? unarmed]

/-- An image that a tap takes in concerns the device only. -/
theorem deliver_of_tap (armed : r.machine.device.sink? m = some .tap) :
    (deliver m data r).2.core = r.core := by
  obtain ⟨place, first, there⟩ := VideoDevice.place_of_sink? armed
  rw [deliver_of_place first]
  unfold deliverTo
  rw [there]
  rfl

/-- The lanes that are armed for a mode take in its images, and nothing else that is armed
changes. -/
theorem deliver_of_lanes {ls : List Lane} (armed : r.machine.device.sink? m = some (.lanes ls))
    (data : Bytes) :
    (deliver m data r).2.core = (deliverLanes m data ls r.core).2 ∧
      ∃ place, r.machine.device.armed[place]? = some (m, .lanes ls) ∧
        (deliver m data r).2.machine.device.armed =
          r.machine.device.armed.set place (m, .lanes (ls.map (·.pass data))) := by
  obtain ⟨place, first, there⟩ := VideoDevice.place_of_sink? armed
  have taken : deliverTo place data r = mapDevice (fun d =>
      { d with armed := d.armed.set place (m, .lanes (deliverLanes m data ls r.core).1) })
      { r with core := (deliverLanes m data ls r.core).2 } := by
    unfold deliverTo
    rw [there]
  rw [deliver_of_place first, taken, ← deliverLanes_fst (m := m) (c := r.core)]
  exact ⟨rfl, place, there, rfl⟩

/-! ## What is armed afterwards -/

/-- Taking in an image changes what is armed at the place, and nothing that is armed elsewhere. -/
theorem deliverTo_armed (place : Nat) (data : Bytes) (r : VideoRig) :
    (deliverTo place data r).machine.device.armed =
      r.machine.device.armed.modify place fun s => (s.1, s.2.pass data) := by
  -- Streams are compared place by place, since only the one place may differ.
  refine List.ext_getElem? fun i => ?_
  rw [List.getElem?_modify]
  unfold deliverTo
  split
  next none =>
    show r.machine.device.armed[i]? = _
    by_cases here : place = i
    · rw [← here, none]
      rfl
    · simp [here]
  next m tap =>
    show r.machine.device.armed[i]? = _
    by_cases here : place = i
    · rw [← here, tap]
      simp [VideoSink.pass]
    · simp [here]
  next m ls lanes =>
    show (r.machine.device.armed.set place (m, .lanes (deliverLanes m data ls r.core).1))[i]? = _
    rw [deliverLanes_fst, List.getElem?_set]
    by_cases here : place = i
    · have bound := (List.getElem?_eq_some_iff.1 lanes).1
      rw [if_pos here, if_pos bound, ← here, lanes]
      simp [VideoSink.pass]
    · simp [here]

/-- So it is for the same modes that something is armed. -/
theorem deliverTo_modes (place : Nat) (data : Bytes) (r : VideoRig) :
    (deliverTo place data r).machine.device.armedModes = r.machine.device.armedModes := by
  unfold VideoDevice.armedModes
  rw [deliverTo_armed]
  refine List.ext_getElem? fun i => ?_
  rw [List.getElem?_map, List.getElem?_map, List.getElem?_modify]
  cases r.machine.device.armed[i]? with
  | none => rfl
  | some s =>
    show some (if place = i then (s.1, s.2.pass data) else s).1 = some s.1
    split <;> rfl

/-! ## Rounds -/

theorem deliverFrom_cons (place : Nat) (image : NativeMode × Bytes)
    (images : List (NativeMode × Bytes)) (r : VideoRig) :
    deliverFrom place (image :: images) r =
      deliverFrom (place + 1) images (deliverTo place image.2 r) := rfl

/-- Streams before the place are left as they are. -/
theorem deliverFrom_before {i place : Nat} (before : i < place)
    (images : List (NativeMode × Bytes)) :
    (deliverFrom place images r).machine.device.armed[i]? = r.machine.device.armed[i]? := by
  induction images generalizing place r with
  | nil => rfl
  | cons image images ih =>
    rw [deliverFrom_cons, ih (Nat.lt_succ_of_lt before), deliverTo_armed,
      List.getElem?_modify_ne _ _ (Nat.ne_of_gt before)]

/-- Each stream from the place on takes in one image. -/
theorem deliverFrom_armed {images : List (NativeMode × Bytes)} {place i : Nat}
    {image : NativeMode × Bytes} {s : NativeMode × VideoSink} (own : images[i]? = some image)
    (there : r.machine.device.armed[place + i]? = some s) :
    (deliverFrom place images r).machine.device.armed[place + i]? =
      some (s.1, s.2.pass image.2) := by
  induction images generalizing place i r with
  | nil => cases own
  | cons first images ih =>
    rw [deliverFrom_cons]
    cases i with
    | zero =>
      cases own
      rw [Nat.add_zero] at there
      show (deliverFrom (place + 1) images _).machine.device.armed[place]? = _
      rw [deliverFrom_before (Nat.lt_succ_self place), deliverTo_armed, List.getElem?_modify_eq,
        there]
      rfl
    | succ i =>
      have later : place + (i + 1) = place + 1 + i := by omega
      rw [later] at there ⊢
      refine ih own ?_
      rw [deliverTo_armed, List.getElem?_modify_ne _ _ (by omega)]
      exact there

/-- In a round of an automatic device each armed stream takes in an image of its own, also one of
several that are armed for a mode. -/
theorem nextRound_armed (automatic : r.machine.device.automatic = true) {place : Nat}
    {s : NativeMode × VideoSink} (there : r.machine.device.armed[place]? = some s) :
    ∃ data, r.machine.device.ownImages[place]? = some (s.1, data) ∧
      (nextRound r).machine.device.armed[place]? = some (s.1, s.2.pass data) := by
  have own : r.machine.device.ownImages[place]? = some (s.1, ownImage s.1
      ((r.machine.device.counters[place]?).getD 0) r.machine.device.rounds) := by
    unfold VideoDevice.ownImages
    rw [List.getElem?_mapIdx, List.getElem?_map, there]
    rfl
  rw [← Nat.zero_add place] at there
  have taken := deliverFrom_armed own there
  rw [Nat.zero_add] at taken
  refine ⟨_, own, ?_⟩
  unfold nextRound
  rw [automatic]
  exact taken

theorem nextRound_of_idle (idle : r.machine.device.automatic = false) : nextRound r = r := by
  unfold nextRound
  rw [idle]
  rfl

/-- Images for the streams from a place on are delivered to their modes, if each mode has one
stream. -/
theorem deliverFrom_of_once {images : List (NativeMode × Bytes)} {place : Nat}
    (once : r.machine.device.armedModes.Nodup)
    (modes : images.map (·.1) = r.machine.device.armedModes.drop place) :
    deliverFrom place images r = images.foldl (fun r i => (deliver i.1 i.2 r).2) r := by
  induction images generalizing place r with
  | nil => rfl
  | cons image images ih =>
    have there : r.machine.device.armedModes[place]? = some image.1 := by
      rw [← List.head?_drop, ← modes]
      rfl
    have same := deliverTo_modes place image.2 r
    rw [deliverFrom_cons, List.foldl_cons,
      deliver_of_place (VideoDevice.place_of_once once there)]
    refine ih (same ▸ once) ?_
    rw [same, ← List.tail_drop, ← modes]
    rfl

/-- In such a round the first stream armed for a mode is the only one. -/
theorem nextRound_of_once (automatic : r.machine.device.automatic = true)
    (once : r.machine.device.armedModes.Nodup) :
    nextRound r = mapDevice (·.nextRound)
      (r.machine.device.ownImages.foldl (fun r i => (deliver i.1 i.2 r).2) r) := by
  have modes : r.machine.device.ownImages.map (·.1) = r.machine.device.armedModes := by
    unfold VideoDevice.ownImages
    refine List.ext_getElem? fun i => ?_
    rw [List.getElem?_map, List.getElem?_mapIdx, Option.map_map]
    exact Option.map_id_apply
  unfold nextRound
  rw [automatic, Bool.not_true, if_neg Bool.false_ne_true, deliverFrom_of_once once modes]

end VideoRig

end Sensing
