import Sensing.Proofs.Clients.Bookkeeping
import Sensing.Proofs.Motion.Callbacks

/-!
# The frames of a motion endpoint

A sample is drawn into one frame and offered at once, so while it passes one frame more is live if
it was granted. A sensor that feeds no channel has no frames, and a tap keeps its samples to itself.

Main result: all that is done with the frames of a motion endpoint is in order, and the tally is
told of it (`MotionRig.bookkeeping_sound`).
-/

namespace Sensing

namespace MotionRig

open Work (Keeps keeps_check keeps_look keeps_return keeps_throw keeps_ofProcedure)
open Rig (follows_handling keeps_handling)

/-! ## Deliveries -/

/-- The draft of the frame of a sample. -/
def draftOf (frequency : UInt32) (feed : SensorFeed) (data : Bytes) (number : Nat)
    (hostTime : Double) : FrameDraft :=
  { size := data.length
    info :=
      { timestamp := hostTime, number, systemTime := hostTime, fps := frequency,
        channel := feed.channel, encoding := feed.encoding } }

/-- The most frames that are live at once while a sample passes. -/
def samplePeak (frequency : UInt32) (s : Sensor) (data : Bytes) (counts : List (UInt32 × Nat))
    (drawn : Nat) (c : Core) : Nat :=
  c.live drawn + match SensorFeed.ofName? s.name with
    | none => 0
    | some feed => c.granted [draftOf frequency feed data (countOf s.iio counts + 1) c.hostTime]

variable {frequency : UInt32} {s : Sensor} {data : Bytes} {counts : List (UInt32 × Nat)} {c : Core}
  {drawn high : Nat}

/-- A sample keeps the balance, whether or not there was room for its frame. -/
theorem deliverSample_balanced (h : c.Balanced drawn high) :
    (deliverSample frequency s data counts c).2.Balanced drawn
      (max high (samplePeak frequency s data counts drawn c)) := by
  unfold deliverSample samplePeak
  dsimp only
  cases SensorFeed.ofName? s.name with
  | none =>
    dsimp only
    rw [Nat.add_zero, Nat.max_eq_left h.out_le]
    exact h.note _ _
  | some feed =>
    dsimp only
    unfold Core.granted
    -- The frame is drawn and offered at once, so there is at most one more live than before.
    rcases h.allocate (draftOf frequency feed data (countOf s.iio counts + 1) c.hostTime) with
      ⟨f, c₁, granted, -, h₁⟩ | ⟨c₁, refused, h₁⟩
    · unfold draftOf at granted ⊢
      rw [granted]
      exact h₁.offer _
    · unfold draftOf at refused ⊢
      rw [refused]
      dsimp only
      rw [Nat.add_zero, Nat.max_eq_left h.out_le]
      exact h₁.note _ _

/-- The tally after a sample. -/
def sampleTally (data : Sensor → Bytes) (r : MotionRig) (s : Sensor) (t : Tally) : Tally :=
  match r.machine.device.capture with
  | some (_, .counting frequency counts) =>
    t.reach (samplePeak frequency s (data s) counts t.drawn r.core)
  | _ => t

/-- What comes of a sample was told. -/
theorem sample_reckoned (data : Sensor → Bytes) (r : MotionRig) (s : Sensor) (t : Tally) :
    Reckoned r.core t (sample s (data s) r).core (sampleTally data r s t) := by
  have dispatches := sample_dispatches s (data s) r
  have calm := sample_calm s (data s) r
  unfold sample at dispatches calm ⊢
  unfold sampleTally
  split at dispatches
  next none =>
    rw [none]
    exact .refl _ t
  next tap =>
    rw [tap]
    exact .refl _ t
  next counting =>
    rw [counting] at calm ⊢
    exact .of_dispatches dispatches calm deliverSample_balanced

/-! ## What the tally is told of -/

/-- The tally after a delivery. -/
def deliverTally (name : String) (data : Bytes) (r : MotionRig) (t : Tally) : Tally :=
  match r.machine.device.capture with
  | none => t
  | some (selected, _) =>
    match selected.find? fun s => s.name = name with
    | none => t
    | some s => sampleTally (fun _ => data) r s t

/-- The tally after a round of samples. -/
def nextRoundTally (r : MotionRig) (t : Tally) : Tally :=
  if r.machine.device.automatic then
    let data (s : Sensor) := ownSample s r.machine.device.rounds
    Tally.through (fun r s => sample s (data s) r) (sampleTally data)
      ((r.machine.device.capture.map (·.1)).getD []) r t
  else t

/-- The tally of a motion endpoint. -/
def bookkeeping : Bookkeeping MotionRig where
  covered x t :=
    match x with
    | .core x => x.Covered t
    | _ => True
  tally x r t :=
    match x with
    | .core x => x.tally r.core t
    | .deliver name data => deliverTally name data r t
    | .nextRound => nextRoundTally r t

/-- So was what comes of a delivery, -/
theorem deliver_reckoned (name : String) (data : Bytes) (r : MotionRig) (t : Tally) :
    Reckoned r.core t (deliver name data r).2.core (deliverTally name data r t) := by
  unfold deliver deliverTally
  cases r.machine.device.capture with
  | none => exact .refl _ t
  | some capture =>
    dsimp only
    cases capture.1.find? fun s => s.name = name with
    | none => exact .refl _ t
    | some s => exact sample_reckoned (fun _ => data) r s t

/-- and of a round, -/
theorem nextRound_reckoned (r : MotionRig) (t : Tally) :
    Reckoned r.core t (nextRound r).core (nextRoundTally r t) := by
  unfold nextRound nextRoundTally
  cases r.machine.device.automatic with
  | false => exact .refl _ t
  | true => exact Reckoned.through Rig.core (sample_reckoned _) _ r t

/-- and of every aside. -/
theorem aside_reckoned {x : MotionAside} {t : Tally} (covered : bookkeeping.covered x t)
    (r : MotionRig) : Reckoned r.core t (x.apply r).core (bookkeeping.tally x r t) := by
  cases x with
  | core x => exact x.reckoned covered r.core
  | deliver name data => exact deliver_reckoned name data r t
  | nextRound => exact nextRound_reckoned r t

/-! ## Operations -/

/-- Calls and what is done in passing touch no frames. -/
theorem tolerates_handling :
    Rig.Tolerates (fun _ => True) (Rig.framing : Custody MotionRig Unit).holding :=
  Rig.tolerates_handling

/-- Nor does the construction. -/
theorem construct_handles : construct.Keeps Rig.framing.holding := by
  refine (tolerates_handling.request trivial).keeps.bind fun _ => ?_
  refine (keeps_ofProcedure (tolerates_handling.attempt trivial)).bind fun sensors => ?_
  refine (keeps_ofProcedure (tolerates_handling.attempt trivial)).bind fun closed => ?_
  cases closed
  case' error cause => refine tolerates_handling.say.keeps.bind fun _ => ?_
  -- Whether or not closing failed, what counts is what sensors there are.
  all_goals
    cases sensors with
    | error cause => exact keeps_throw
    | ok sensors =>
      refine tolerates_handling.say.keeps.bind fun _ => ?_
      exact keeps_handling fun _ => .spared ⟨rfl, rfl, rfl⟩

/-- Opening is not about frames, -/
theorem openStreams_handles (requests : List StreamRequest) :
    (openStreams requests).Keeps Rig.framing.holding := by
  refine keeps_check.bind fun _ => ?_
  refine (stays_resolve tolerates_handling requests).keeps.bind fun routes => ?_
  refine keeps_check.bind fun rates => ?_
  refine tolerates_handling.say.keeps.bind fun _ => ?_
  exact keeps_handling fun _ => .spared ⟨rfl, rfl, rfl⟩

/-- nor is closing. -/
theorem close_handles : close.Keeps Rig.framing.holding := by
  refine keeps_check.bind fun _ => ?_
  refine Keeps.bind (keeps_handling fun _ => .spared ⟨rfl, rfl, rfl⟩) fun _ => ?_
  exact tolerates_handling.say.keeps

/-- Starting engages a consumer that keeps nothing yet. -/
theorem start_handles (policy : Callback) : (start { policy }).Keeps Rig.framing.holding := by
  have abandons : abandonCapture.Follows Rig.framing.holding (fun _ _ => True) () := by
    refine Procedure.Follows.bind (follows_handling fun _ => .dismissed (.refl _)) fun _ _ _ => ?_
    refine Procedure.follows_then (tolerates_handling.attempt trivial) fun closed => ?_
    cases closed with
    | ok _ => exact Procedure.follows_pure trivial
    | error cause => exact Procedure.Follows.mono (fun _ _ _ => trivial) tolerates_handling.report
  refine keeps_check.bind fun _ => ?_
  refine (tolerates_handling.request trivial).keeps.bind fun _ => ?_
  refine Keeps.bind (keeps_handling fun _ => .engaged rfl (.refl _)) fun _ => ?_
  refine keeps_look.bind fun own => ?_
  refine (Keeps.onFailure (tolerates_handling.request trivial).keeps abandons).bind fun _ => ?_
  refine Keeps.bind (keeps_handling fun _ => .spared ⟨rfl, rfl, rfl⟩) fun _ => ?_
  exact tolerates_handling.say.keeps

/-- Stopping lets go of the consumer. -/
theorem stop_handles : stop.Keeps Rig.framing.holding := by
  refine keeps_look.bind fun streaming => ?_
  cases streaming with
  | false => exact keeps_return
  | true =>
    refine (keeps_ofProcedure (tolerates_handling.attempt trivial)).bind fun stopped => ?_
    refine (keeps_ofProcedure (tolerates_handling.attempt trivial)).bind fun closed => ?_
    refine Keeps.bind (keeps_handling fun _ => .spared ⟨rfl, rfl, rfl⟩) fun _ => ?_
    refine Keeps.bind (keeps_handling fun _ => .dismissed (.refl _)) fun _ => ?_
    refine (keeps_ofProcedure Rig.follows_flush).bind fun _ => ?_
    refine tolerates_handling.say.keeps.bind fun _ => ?_
    rcases stopped with cause | _
    · exact keeps_throw
    · rcases closed with cause | _
      · exact keeps_throw
      · exact keeps_return

/-- All that clients do with frames is within the custody of the lock. -/
theorem framing_fits : (Rig.framing : Custody MotionRig Unit).Fits fun _ => True where
  locking := by
    intro op transition
    refine Rig.follows_framing ?_
    cases op with
    | openStreams requests => exact openStreams_handles requests
    | close => exact close_handles
    | start policy => exact start_handles policy
    | stop => exact stop_handles
    | modes | principal | resolve | flush => cases transition
  free := by
    intro op transition _
    exact (follows_free Rig.tolerates_standing transition).keeps
  take gate := nomatch gate
  drop gate := nomatch gate
  aside _ _ := trivial

/-- All that is done with the frames of a motion endpoint is in order, and the tally is told of it.
-/
theorem bookkeeping_sound : bookkeeping.Sound fun _ => True := ⟨framing_fits, aside_reckoned⟩

end MotionRig

end Sensing
