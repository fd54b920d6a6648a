import Sensing.Endpoint.Video
import Sensing.Proofs.Frame.Offering

/-!
# What becomes of a raw image

A raw image passes the lanes of its mode in order. Each lane judges it by itself; a lane that
accepts it counts it, whether or not there is room for its frames, and hands over all of the frames
or none. So the state of a lane depends only on the images it has accepted (`Lane.pass`), and the
frames it makes of an image only on its own state and the image (`Lane.frames`): what the pool or
the consumer has gone through decides *whether* the frames are handed over, and nothing else.

Main results: the three ways in which a lane deals with an image (`deliverLane_of_invalid`,
`deliverLane_of_room`, `deliverLane_of_no_room`), and how it finds the endpoint as the lanes before
it have left it (`deliverLanes_split`).
-/

namespace Sensing

namespace Lane

variable (l : Lane) (data : Bytes)

/-- The lane after a raw image, which it counts if it accepts it. -/
def pass : Lane := if l.accepts data then (l.count data).2.2 else l

/-- The drafts of the frames that the lane makes of an accepted image. -/
def draftsOf (hostTime : Double) : List FrameDraft :=
  drafts l.source (l.count data).1 hostTime (l.count data).2.1 data.length

/-- The frames that the lane makes of an accepted image. -/
def frames (hostTime : Double) : List Frame :=
  decode l.source data ((l.draftsOf data hostTime).map FrameDraft.blank)

/-! ## Counting -/

@[simp] theorem pass_source : (l.pass data).source = l.source := by
  unfold pass
  split <;> rfl

/-- A lane is at the number of the images that it has accepted. -/
theorem pass_count : (l.pass data).clock.count =
    l.clock.count + if l.accepts data then 1 else 0 := by
  have advance : (l.clock.advance data).count = l.clock.count := by
    unfold RollingClock.advance
    split <;> rfl
  unfold pass
  split
  · show (l.clock.advance data).count + 1 = _
    rw [advance]
  · rfl

theorem count_number : (l.count data).2.1 = (l.count data).2.2.clock.count := rfl

/-! ## Frames -/

/-- What is known about a frame of an output. -/
def infoOf (time hostTime : Double) (number : Nat) (output : Channel × Encoding) : FrameMeta :=
  { timestamp := time, number, systemTime := hostTime, width := l.source.mode.width,
    height := l.source.mode.height, fps := l.source.mode.fps, channel := output.1,
    encoding := output.2 }

/-- An unpacker fills the frames that it is given and leaves everything else about them. -/
theorem decode_shape (s : Source) (fs : List Frame) :
    (decode s data fs).map (·.info) = fs.map (·.info) ∧
      (decode s data fs).map (·.data.length) = fs.map (·.data.length) := by
  have shape := s.unpacker.decoder.keepsShape (fs.map (·.data)) data s.mode.width s.mode.height
  unfold decode
  dsimp only
  generalize s.unpacker.decoder.run (fs.map (·.data)) data s.mode.width s.mode.height = planes
    at shape
  induction fs generalizing planes with
  | nil => simp
  | cons f fs ih =>
    cases planes with
    | nil => simp at shape
    | cons plane planes =>
      simp only [List.map_cons, List.cons.injEq] at shape
      obtain ⟨infos, lengths⟩ := ih planes shape.2
      simp only [List.zipWith_cons_cons, List.map_cons, List.cons.injEq]
      exact ⟨⟨trivial, infos⟩, shape.1, lengths⟩

/-- The frames of an image bear one time and one number, and follow the unpacker's outputs. -/
theorem frames_info (hostTime : Double) : (l.frames data hostTime).map (·.info) =
    l.source.unpacker.outputs.map
      (l.infoOf (l.count data).1 hostTime (l.count data).2.1) := by
  unfold frames
  rw [(decode_shape data l.source _).1]
  simp [draftsOf, drafts, FrameDraft.blank, infoOf, Function.comp_def]

/-- The sizes of the frames are those of their outputs. -/
theorem frames_length (hostTime : Double) : (l.frames data hostTime).map (·.data.length) =
    l.source.unpacker.outputs.map fun output => l.source.outputSize output.2 data.length := by
  unfold frames
  rw [(decode_shape data l.source _).2]
  simp [draftsOf, drafts, FrameDraft.blank, Function.comp_def]

end Lane

namespace Core

/-! ## Consumers stay -/

variable {c : Core}

/-- A consumer may keep a frame or not, but it is not dismissed by one. -/
theorem offer_consumer (f : Frame) (h : c.consumer.isSome) : (c.offer f).consumer.isSome := by
  obtain ⟨k, hk⟩ := Option.isSome_iff_exists.1 h
  unfold offer
  rw [hk]
  dsimp only
  split <;> rfl

theorem foldl_offer_consumer (fs : List Frame) (h : c.consumer.isSome) :
    (fs.foldl (fun c f => c.offer f) c).consumer.isSome := by
  induction fs generalizing c with
  | nil => exact h
  | cons f fs ih => exact ih (offer_consumer f h)

end Core

namespace VideoRig

variable {m : NativeMode} {data : Bytes} {l : Lane} {c : Core}

/-! ## One lane -/

/-- The frames of a raw image that a lane hands to the consumer: all of them, if the image is
accepted and the pool has room, and otherwise none. -/
def handed (data : Bytes) (l : Lane) (c : Core) : List Frame :=
  if l.accepts data then
    match c.allocateAll (l.draftsOf data c.hostTime) with
    | (some frames, _) => Lane.decode l.source data frames
    | (none, _) => []
  else []

/-- The lane counts the image even where there is no room for its frames. -/
theorem deliverLane_fst : (deliverLane m data l c).1 = l.pass data := by
  unfold deliverLane Lane.pass
  cases accepts : l.accepts data with
  | false => simp
  | true =>
    simp only [Bool.not_true, Bool.false_eq_true, if_false, if_true]
    split <;> rfl

/-- An image that is not accepted leaves a line in the log. -/
theorem deliverLane_of_invalid (invalid : l.accepts data = false) :
    handed data l c = [] ∧
      (deliverLane m data l c).2 = { c with log := (deliverLane m data l c).2.log } := by
  unfold handed deliverLane
  simp only [invalid, Bool.not_false, Bool.false_eq_true, if_false, if_true]
  exact ⟨trivial, rfl⟩

theorem length_draftsOf (l : Lane) (data : Bytes) (hostTime : Double) :
    (l.draftsOf data hostTime).length = l.source.unpacker.outputs.length := by
  unfold Lane.draftsOf Lane.drafts
  rw [List.length_map]

/-- What an accepted image leads to hangs on the drawing of its frames alone. -/
theorem deliverLane_of_valid (valid : l.accepts data = true) : ∃ refusal note : String,
    (deliverLane m data l c).2 = match c.allocateAll (l.draftsOf data c.hostTime) with
      | (none, c) => c.note .debug refusal
      | (some frames, c) =>
        (Lane.decode l.source data frames).foldl (fun c f => c.offer f) (c.note .trace note) := by
  have drafts : Lane.drafts (l.count data).2.2.source (l.count data).1 c.hostTime
      (l.count data).2.1 data.length = l.draftsOf data c.hostTime := rfl
  unfold deliverLane
  simp only [valid, Bool.not_true, Bool.false_eq_true, if_false, drafts]
  cases c.allocateAll (l.draftsOf data c.hostTime) with
  | mk drawn c =>
    cases drawn with
    | none => exact ⟨_, "", rfl⟩
    | some frames => exact ⟨"", _, rfl⟩

/-- Where there is room for all frames, all are handed over, in order. -/
theorem deliverLane_of_room (valid : l.accepts data = true)
    (room : c.pool.published + l.source.unpacker.outputs.length ≤ c.pool.bound) :
    handed data l c = l.frames data c.hostTime ∧
      ∃ log, (deliverLane m data l c).2 = (l.frames data c.hostTime).foldl (fun c f => c.offer f)
        { c with pool := c.pool.draw l.source.unpacker.outputs.length, log } := by
  rw [← length_draftsOf l data c.hostTime] at room ⊢
  have drawn := Core.allocateAll_of_room (.inr room)
  obtain ⟨_, _, delivered⟩ := deliverLane_of_valid (m := m) (c := c) valid
  refine ⟨?_, ?_⟩
  · unfold handed
    rw [if_pos valid, drawn]
    rfl
  · rw [delivered, drawn]
    exact ⟨_, rfl⟩

/-- Where there is not, none is. -/
theorem deliverLane_of_no_room (valid : l.accepts data = true)
    (full : c.pool.bound < c.pool.published + l.source.unpacker.outputs.length) :
    handed data l c = [] ∧ c.Spared (deliverLane m data l c).2 := by
  rw [← length_draftsOf l data c.hostTime] at full
  obtain ⟨_, _, delivered⟩ := deliverLane_of_valid (m := m) (c := c) valid
  unfold handed
  rw [if_pos valid, delivered]
  by_cases silent : l.draftsOf data c.hostTime = []
  · -- Without outputs there are no frames to be refused, and none to be handed over.
    have drawn := Core.allocateAll_of_room (c := c) (.inl silent)
    have none : Lane.decode l.source data [] = [] := by simp [Lane.decode]
    rw [drawn, silent]
    simp only [List.map_nil, List.length_nil, none, List.foldl_nil]
    exact ⟨trivial, ⟨rfl⟩⟩
  · obtain ⟨c', refused, spared⟩ := Core.allocateAll_of_no_room full silent
    rw [refused]
    exact ⟨rfl, spared.trans (Core.spared_note ..)⟩

/-! ## Lanes in order -/

theorem deliverLanes_fst (ls : List Lane) :
    (deliverLanes m data ls c).1 = ls.map (·.pass data) := by
  induction ls generalizing c with
  | nil => rfl
  | cons l ls ih =>
    show (deliverLane m data l c).1 :: (deliverLanes m data ls (deliverLane m data l c).2).1 = _
    rw [deliverLane_fst, ih]
    rfl

/-- A lane finds the endpoint as the lanes before it have left it, and the lanes after it go on from
there. -/
theorem deliverLanes_split (before after : List Lane) :
    (deliverLanes m data (before ++ l :: after) c).2 =
      (deliverLanes m data after
        (deliverLane m data l (deliverLanes m data before c).2).2).2 := by
  induction before generalizing c with
  | nil => rfl
  | cons b before ih => exact ih

/-- However an image fares, its frames are all that the consumer is offered. -/
theorem deliverLane_offers (m : NativeMode) (data : Bytes) (l : Lane) (c : Core) : ∃ pool log,
    (deliverLane m data l c).2 =
      (handed data l c).foldl (fun c f => c.offer f) { c with pool, log } := by
  cases valid : l.accepts data with
  | false =>
    obtain ⟨none, h⟩ := deliverLane_of_invalid (m := m) (c := c) valid
    rw [none]
    exact ⟨_, _, h⟩
  | true =>
    by_cases room : c.pool.published + l.source.unpacker.outputs.length ≤ c.pool.bound
    · obtain ⟨all, log, h⟩ := deliverLane_of_room (m := m) valid room
      rw [all]
      exact ⟨_, _, h⟩
    · obtain ⟨none, h⟩ := deliverLane_of_no_room (m := m) valid (Nat.lt_of_not_le room)
      rw [none]
      exact ⟨_, _, h.eq⟩

theorem deliverLanes_transit (m : NativeMode) (data : Bytes) (ls : List Lane) (c : Core) :
    c.Transit (deliverLanes m data ls c).2 := by
  induction ls generalizing c with
  | nil => exact Core.Transit.refl c
  | cons l ls ih =>
    obtain ⟨pool, log, offered⟩ := deliverLane_offers m data l c
    have drawn : c.Transit { c with pool, log } := ⟨rfl⟩
    have one : c.Transit (deliverLane m data l c).2 := by
      rw [offered]
      exact drawn.trans (Core.transit_offers _ _)
    exact one.trans (ih _)

theorem deliverLanes_consumer (ls : List Lane) (h : c.consumer.isSome) :
    (deliverLanes m data ls c).2.consumer.isSome := by
  induction ls generalizing c with
  | nil => exact h
  | cons l ls ih =>
    obtain ⟨_, _, offered⟩ := deliverLane_offers m data l c
    have stays : (deliverLane m data l c).2.consumer.isSome := by
      rw [offered]
      exact Core.foldl_offer_consumer _ h
    exact ih stays

end VideoRig

end Sensing
