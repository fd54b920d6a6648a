import Sensing.Proofs.Clients.Bookkeeping
import Sensing.Proofs.Video.Callbacks

/-!
# The frames of a video endpoint

A lane that accepts a raw image draws the image's frames one by one and, once it has them all,
offers each of them. So while it deals with the image as many frames more are live as were granted,
also where the last of them was refused and none is offered in the end. That peak is what the tally
is told of (`VideoRig.lanePeak`).

Main result: all that is done with the frames of a video endpoint is in order, and the tally is told
of it (`VideoRig.bookkeeping_sound`).
-/

namespace Sensing

namespace VideoRig

open Work (Keeps keeps_check keeps_look keeps_return keeps_throw keeps_ofProcedure)
open Rig (follows_handling keeps_handling)

/-! ## Deliveries -/

/-- The most frames that are live at once while a lane deals with an image. -/
def lanePeak (data : Bytes) (drawn : Nat) (c : Core) (l : Lane) : Nat :=
  c.live drawn + if l.accepts data then c.granted (l.draftsOf data c.hostTime) else 0

variable {m : NativeMode} {data : Bytes} {l : Lane} {c : Core} {drawn high : Nat}

/-- All that a lane draws it offers or releases, so nothing is live afterwards that was not before.
-/
theorem deliverLane_balanced (h : c.Balanced drawn high) :
    (deliverLane m data l c).2.Balanced drawn (max high (lanePeak data drawn c l)) := by
  unfold lanePeak
  cases valid : l.accepts data with
  | false =>
    obtain ⟨-, noted⟩ := deliverLane_of_invalid (m := m) (c := c) valid
    rw [noted, if_neg Bool.false_ne_true, Nat.add_zero, Nat.max_eq_left h.out_le]
    exact h.of_same ⟨rfl, rfl, rfl⟩
  | true =>
    obtain ⟨_, _, delivered⟩ := deliverLane_of_valid (m := m) (c := c) valid
    have all := h.allocateAll (l.draftsOf data c.hostTime)
    rw [delivered, if_pos rfl]
    split
    next c' refused =>
      rw [refused] at all
      exact all.note _ _
    next fs c' granted =>
      rw [granted] at all
      -- The frames that are offered are not those that were drawn, but they are as many.
      have decoded : fs.length = (Lane.decode l.source data fs).length := by
        have infos := congrArg List.length (Lane.decode_shape data l.source fs).1
        rw [List.length_map, List.length_map] at infos
        exact infos.symm
      rw [Option.getD_some, decoded] at all
      exact (all.note _ _).offers

/-- A lane is reckoned with its peak. -/
theorem deliverLane_reckoned (m : NativeMode) (data : Bytes) (c : Core) (l : Lane) (t : Tally) :
    Reckoned c t (deliverLane m data l c).2 (t.reach (lanePeak data t.drawn c l)) :=
  .of_dispatches (deliverLane_dispatches m data l c) (deliverLane_calm m data l c)
    deliverLane_balanced

/-- The tally after an image has passed along lanes. -/
def lanesTally (m : NativeMode) (data : Bytes) : List Lane → Core → Tally → Tally :=
  Tally.through (fun c l => (deliverLane m data l c).2)
    fun c l t => t.reach (lanePeak data t.drawn c l)

theorem deliverLanes_reckoned (m : NativeMode) (data : Bytes) (ls : List Lane) (c : Core)
    (t : Tally) : Reckoned c t (deliverLanes m data ls c).2 (lanesTally m data ls c t) := by
  have folded (c : Core) :
      (deliverLanes m data ls c).2 = ls.foldl (fun c l => (deliverLane m data l c).2) c := by
    induction ls generalizing c with
    | nil => rfl
    | cons l ls ih => exact ih _
  rw [folded]
  exact Reckoned.through id (fun c l t => deliverLane_reckoned m data c l t) ls c t

/-- The tally after a stream has taken in an image. -/
def deliverToTally (place : Nat) (data : Bytes) (r : VideoRig) (t : Tally) : Tally :=
  match r.machine.device.armed[place]? with
  | some (m, .lanes ls) => lanesTally m data ls r.core t
  | _ => t

theorem deliverTo_reckoned (place : Nat) (data : Bytes) (r : VideoRig) (t : Tally) :
    Reckoned r.core t (deliverTo place data r).core (deliverToTally place data r t) := by
  unfold deliverTo deliverToTally
  split
  next none =>
    rw [none]
    exact .refl _ t
  next tap =>
    rw [tap]
    exact .refl _ t
  next m ls lanes =>
    rw [lanes]
    exact deliverLanes_reckoned m data ls r.core t

/-- The tally after a delivery. -/
def deliverTally (m : NativeMode) (data : Bytes) (r : VideoRig) (t : Tally) : Tally :=
  match r.machine.device.armed.findIdx? fun s => s.1 = m with
  | none => t
  | some place => deliverToTally place data r t

/-- An image of a mode that is not armed is none of the tally's business. -/
theorem deliver_reckoned (m : NativeMode) (data : Bytes) (r : VideoRig) (t : Tally) :
    Reckoned r.core t (deliver m data r).2.core (deliverTally m data r t) := by
  unfold deliver deliverTally
  cases r.machine.device.armed.findIdx? fun s => s.1 = m with
  | none => exact .refl _ t
  | some place => exact deliverTo_reckoned place data r t

/-- The tally after a round of images. -/
def nextRoundTally (r : VideoRig) (t : Tally) : Tally :=
  if r.machine.device.automatic then
    Tally.through (fun r (image, place) => deliverTo place image.2 r)
      (fun r (image, place) t => deliverToTally place image.2 r t)
      r.machine.device.ownImages.zipIdx r t
  else t

/-- In a round each image is reckoned where it arrives. -/
theorem nextRound_reckoned (r : VideoRig) (t : Tally) :
    Reckoned r.core t (nextRound r).core (nextRoundTally r t) := by
  unfold nextRound nextRoundTally
  cases r.machine.device.automatic with
  | false => exact .refl _ t
  | true => exact Reckoned.through Rig.core (fun r i t => deliverTo_reckoned i.2 i.1.2 r t) _ r t

/-! ## What the tally is told of -/

/-- The tally of a video endpoint. -/
def bookkeeping : Bookkeeping VideoRig where
  covered x t :=
    match x with
    | .core x => x.Covered t
    | _ => True
  tally x r t :=
    match x with
    | .core x => x.tally r.core t
    | .deliver m data => deliverTally m data r t
    | .nextRound => nextRoundTally r t
    | _ => t

/-- So all that happens beside the operations is reckoned. -/
theorem aside_reckoned {x : VideoAside} {t : Tally} (covered : bookkeeping.covered x t)
    (r : VideoRig) : Reckoned r.core t (x.apply r).core (bookkeeping.tally x r t) := by
  cases x with
  | core x => exact x.reckoned covered r.core
  | deliver m data => exact deliver_reckoned m data r t
  | nextRound => exact nextRound_reckoned r t
  | registerProcessing =>
    exact ⟨fun before => before.of_same ⟨rfl, rfl, rfl⟩, rfl, rfl, fun _ _ none => none,
      Nat.le_refl _⟩
  | registerUnit | refusePowerOn | refuseCommit => exact .refl _ t

/-! ## Operations -/

theorem Upkeep.stands {r r' : VideoRig} (h : r.Upkeep r') : r.core.Stands r'.core := by
  rw [h.core]
  exact ⟨⟨rfl, rfl, rfl⟩, rfl⟩

theorem tolerates_handling : Tolerates (fun _ => True) Rig.framing.holding :=
  ⟨fun upkeep => ⟨.spared upkeep.stands.toSameFrames, id⟩, Rig.tolerates_handling.calls⟩

theorem tolerates_standing : Tolerates (fun _ => True) Rig.framing.waiting :=
  ⟨Upkeep.stands, Rig.tolerates_standing.calls⟩

theorem openStreams_handles (requests : List StreamRequest) :
    (openStreams requests).Keeps Rig.framing.holding := by
  refine keeps_check.bind fun _ => ?_
  refine tolerates_handling.acquire.keeps.bind fun _ => ?_
  refine Keeps.onFailure ?_ tolerates_handling.release
  refine (tolerates_handling.resolve (fun _ _ => trivial) requests).keeps.bind fun routes => ?_
  refine ((tolerates_handling.permits ()).commitAll (fun _ => ⟨trivial, trivial⟩) [] _).keeps.bind
    fun _ => ?_
  refine tolerates_handling.say.keeps.bind fun _ => ?_
  exact keeps_handling fun _ => .spared ⟨rfl, rfl, rfl⟩

theorem close_handles : close.Keeps Rig.framing.holding := by
  refine keeps_check.bind fun _ => keeps_look.bind fun routes => ?_
  refine (keeps_ofProcedure ((tolerates_handling.permits ()).closeAll (fun _ => trivial) _)).bind
    fun complaint => ?_
  refine Keeps.bind (keeps_handling fun _ => .spared ⟨rfl, rfl, rfl⟩) fun _ => ?_
  refine (keeps_ofProcedure tolerates_handling.release).bind fun _ => ?_
  refine tolerates_handling.say.keeps.bind fun _ => ?_
  cases complaint with
  | none => exact keeps_return
  | some cause => exact keeps_throw

theorem start_handles (policy : Callback) : (start { policy }).Keeps Rig.framing.holding := by
  have arming (streams : List (NativeMode × VideoSink)) :
      (Work.onFailure (.change (Rig.mapCore (·.dismiss)))
        (Rig.request (VideoCall.streamOn streams)) : Work VideoRig _).Keeps Rig.framing.holding :=
    Keeps.onFailure (tolerates_handling.request trivial).keeps
      (follows_handling fun _ => .dismissed (.refl _))
  refine keeps_check.bind fun _ => ?_
  refine tolerates_handling.acquire.keeps.bind fun _ => ?_
  refine Keeps.onFailure ?_ tolerates_handling.release
  refine Keeps.bind (keeps_handling fun _ => .engaged rfl (.refl _)) fun _ => ?_
  refine (keeps_ofProcedure (tolerates_handling.change warnOfLayout_upkeep)).bind fun _ => ?_
  refine keeps_look.bind fun streams => (arming streams).bind fun _ => ?_
  refine Keeps.bind (keeps_handling fun _ => .spared ⟨rfl, rfl, rfl⟩) fun _ => ?_
  exact tolerates_handling.say.keeps

/-- Stopping waits for the frames that are out, which is the one wait there is. -/
theorem stop_handles : stop.Keeps Rig.framing.holding := by
  refine keeps_look.bind fun streaming => ?_
  cases streaming with
  | false => exact keeps_return
  | true =>
    refine (keeps_ofProcedure (tolerates_handling.attempt trivial)).bind fun result => ?_
    refine Keeps.bind (keeps_handling fun _ => .spared ⟨rfl, rfl, rfl⟩) fun _ => ?_
    refine Keeps.bind (keeps_handling fun _ => .dismissed (.refl _)) fun _ => ?_
    refine (keeps_ofProcedure Rig.follows_flush).bind fun _ => ?_
    refine (keeps_ofProcedure tolerates_handling.release).bind fun _ => ?_
    refine tolerates_handling.say.keeps.bind fun _ => ?_
    cases result with
    | ok _ => exact keeps_return
    | error cause => exact keeps_throw

/-- Operations hand frames to nobody; they only ever wait for them. -/
theorem framing_fits : (Rig.framing : Custody VideoRig Unit).Fits fun _ => True where
  locking := by
    intro op transition
    refine Rig.follows_framing ?_
    cases op with
    | openStreams requests => exact openStreams_handles requests
    | close => exact close_handles
    | start policy => exact start_handles policy
    | stop => exact stop_handles
    | modes | principal | resolve | flush | control | powered => cases transition
  free := by
    intro op transition _
    exact (tolerates_standing.free (fun _ _ => trivial) transition op.uses_anything).keeps
  take := by
    intro g r gate
    cases gate
    exact (acquire_upkeep r).stands
  drop := by
    intro g r gate
    cases gate
    exact (release_upkeep r).stands
  aside _ _ := trivial

theorem bookkeeping_sound : bookkeeping.Sound fun _ => True := ⟨framing_fits, aside_reckoned⟩

end VideoRig

end Sensing
