import Sensing.Proofs.Clients.Attainment
import Sensing.Proofs.Frame.Unclaimed
import Sensing.Proofs.Motion.Bookkeeping
import Sensing.Proofs.Video.Bookkeeping

/-!
# Dropping an endpoint whose frames nobody keeps

An endpoint that is dropped is stopped and closed, whatever its device makes of that. All that it
ever waits for is that frames come back; where none are out it does not wait
(`Rig.GoesThrough`), and what the device delivers at any time changes nothing about that.

Main results: `VideoRig.retire_goesThrough` and `MotionRig.retire_goesThrough`.
-/

namespace Sensing

open Procedure (Attains)

namespace Rig

variable {ε δ κ α β : Type}

/-- Where no frame is out the procedure comes to its end, and then none is. -/
def GoesThrough (p : Procedure (Rig ε δ κ) α) : Prop :=
  p.Attains (fun (_ : Unit) (r : Rig ε δ κ) => r.core.Unclaimed) (fun _ _ => True) ()

/-- One procedure goes through, and then the rest. -/
theorem GoesThrough.bind {p : Procedure (Rig ε δ κ) α} {f : α → Procedure (Rig ε δ κ) β}
    (hp : GoesThrough p) (hf : ∀ a, GoesThrough (f a)) : GoesThrough (p >>= f) :=
  Attains.bind hp fun a _ _ => hf a

/-- On a part of a larger state the procedure comes to its end as well, and changes nothing there of
which more than that is told. -/
theorem GoesThrough.within {τ W : Type} {tells : W → τ → Prop} {w : W} {part : τ → Rig ε δ κ}
    {takeOver : Rig ε δ κ → τ → τ} {p : Procedure (Rig ε δ κ) α} (hp : GoesThrough p)
    (found : ∀ {t}, tells w t → (part t).core.Unclaimed)
    (taken : ∀ {r t}, tells w t → r.core.Unclaimed → tells w (takeOver r t)) :
    (p.within part takeOver).Attains tells (fun _ u => u = w) w := by
  let stands : Unit → W := fun _ => w
  have whole : (p.within part takeOver).Attains tells (fun _ u => ∃ v, u = stands v ∧ True)
      (stands ()) := Attains.within hp found taken
  exact whole.mono fun _ _ ⟨_, here, _⟩ => here

theorem goesThrough_pure (a : α) : GoesThrough (pure a : Procedure (Rig ε δ κ) α) := trivial

/-- Looking changes nothing. -/
theorem goesThrough_look {view : Rig ε δ κ → α} : GoesThrough (.look view) :=
  Procedure.attains_look fun _ _ => trivial

/-- A change goes through if it leaves no frame out. -/
theorem goesThrough_change {f : Rig ε δ κ → Rig ε δ κ}
    (h : ∀ r, r.core.Unclaimed → (f r).core.Unclaimed) : GoesThrough (.change f) :=
  fun r unclaimed => ⟨(), h r unclaimed, trivial⟩

/-- A step that is not about the frames. -/
theorem goesThrough_aside {f : Rig ε δ κ → Rig ε δ κ}
    (same : ∀ r : Rig ε δ κ, r.core.SameFrames (f r).core) : GoesThrough (.change f) :=
  goesThrough_change fun r h => h.of_same (same r)

/-- Logging is not about the frames, -/
theorem goesThrough_report (level : LogLevel) (message : String) :
    GoesThrough (report level message : Procedure (Rig ε δ κ) Unit) :=
  goesThrough_aside fun _ => ⟨rfl, rfl, rfl⟩

/-- nor is a call of the device. -/
theorem goesThrough_attempt [Device δ κ] (c : κ) :
    GoesThrough (attempt c : Procedure (Rig ε δ κ) _) :=
  Procedure.attains_step fun _ h => ⟨(), h, trivial⟩

/-- Letting go of the consumer leaves no frame out. -/
theorem goesThrough_dismiss :
    GoesThrough (.change (mapCore (·.dismiss)) : Procedure (Rig ε δ κ) Unit) :=
  goesThrough_change fun _ h => h.dismiss

/-- Where no frame is out nobody waits. -/
theorem goesThrough_flush : GoesThrough (flush : Procedure (Rig ε δ κ) Unit) :=
  Procedure.attains_waitFor (fun _ h => decide_eq_true h.published) trivial

/-- Work goes through if each of its parts does. -/
theorem GoesThrough.andThen {w : Work (Rig ε δ κ) α} {f : α → Work (Rig ε δ κ) β}
    (hw : GoesThrough w.run) (hf : ∀ a, GoesThrough (f a).run) : GoesThrough (w >>= f).run :=
  Attains.andThen hw (fun a _ _ => hf a) fun _ _ _ => trivial

/-- A procedure that goes through does so amid work. -/
theorem GoesThrough.lifted {p : Procedure (Rig ε δ κ) α} (hp : GoesThrough p) :
    GoesThrough (Work.ofProcedure p).run :=
  Attains.bind hp fun _ _ _ => trivial

theorem goesThrough_check {view : Rig ε δ κ → Except EndpointError α} :
    GoesThrough (Work.check view).run := goesThrough_look

/-- What is attempted goes through, and its failure is logged. -/
theorem goesThrough_attempting {what : String} {w : Work (Rig ε δ κ) Unit}
    (hw : GoesThrough w.run) : GoesThrough (attempting what w) := by
  refine hw.bind fun a => ?_
  cases a with
  | ok _ => exact goesThrough_pure _
  | error e => exact goesThrough_report _ _

/-- Dropping an endpoint goes through if stopping and closing it do. -/
theorem goesThrough_retireBy {title : String} {stop close : Work (Rig ε δ κ) Unit}
    (hstop : GoesThrough stop.run) (hclose : GoesThrough close.run) :
    GoesThrough (retireBy title stop close) := by
  refine GoesThrough.bind (goesThrough_aside fun _ => ⟨rfl, rfl, rfl⟩) fun _ => ?_
  refine (goesThrough_attempting hstop).bind fun _ => goesThrough_look.bind fun opened => ?_
  cases opened with
  | false => exact goesThrough_pure _
  | true => exact goesThrough_attempting hclose

end Rig

open Rig

namespace VideoRig

/-! ## Video endpoints -/

/-- What a lane makes of an image it offers or gives back, -/
theorem deliverLane_unclaimed (m : NativeMode) (data : Bytes) (l : Lane) {c : Core}
    (h : c.Unclaimed) : (deliverLane m data l c).2.Unclaimed := by
  obtain ⟨high, balanced⟩ := h.balanced
  obtain ⟨pool, log, offers⟩ := deliverLane_offers m data l c
  exact h.offered offers ⟨_, deliverLane_balanced balanced⟩

/-- and so do all lanes, one after another. -/
theorem deliverLanes_unclaimed (m : NativeMode) (data : Bytes) (ls : List Lane) {c : Core}
    (h : c.Unclaimed) : (deliverLanes m data ls c).2.Unclaimed := by
  induction ls generalizing c with
  | nil => exact h
  | cons l ls ih => exact ih (deliverLane_unclaimed m data l h)

/-- So an image for one armed stream leaves no frame out, -/
theorem deliverTo_unclaimed (place : Nat) (data : Bytes) {r : VideoRig} (h : r.core.Unclaimed) :
    (deliverTo place data r).core.Unclaimed := by
  unfold deliverTo
  split
  · exact h
  · exact h
  · exact deliverLanes_unclaimed _ data _ h

/-- nor does an image of a mode, -/
theorem deliver_unclaimed (m : NativeMode) (data : Bytes) {r : VideoRig} (h : r.core.Unclaimed) :
    (deliver m data r).2.core.Unclaimed :=
  deliver_induction (P := fun r => r.core.Unclaimed)
    (fun place data _ => deliverTo_unclaimed place data) m data h

/-- nor a round of them. -/
theorem nextRound_unclaimed {r : VideoRig} (h : r.core.Unclaimed) :
    (nextRound r).core.Unclaimed :=
  nextRound_induction (P := fun r => r.core.Unclaimed)
    (fun place data _ => deliverTo_unclaimed place data) (fun _ => id) h

/-- Upkeep is not about the frames. -/
theorem Upkeep.sameFrames {r r' : VideoRig} (h : r.Upkeep r') : r.core.SameFrames r'.core := by
  refine ⟨?_, ?_, ?_⟩ <;> rw [h.core]

/-- Releasing a reference does not wait. -/
theorem release_goesThrough : GoesThrough (Work.change release).run :=
  (goesThrough_aside fun r => (release_upkeep r).sameFrames).lifted

/-- Stopping waits for frames only, -/
theorem stop_goesThrough : GoesThrough stop.run := by
  refine GoesThrough.andThen goesThrough_look.lifted fun streaming => ?_
  cases streaming with
  | false => exact goesThrough_pure _
  | true =>
    refine GoesThrough.andThen (goesThrough_attempt _).lifted fun result => ?_
    refine GoesThrough.andThen (.lifted (goesThrough_aside fun _ => ⟨rfl, rfl, rfl⟩)) fun _ => ?_
    refine GoesThrough.andThen goesThrough_dismiss.lifted fun _ => ?_
    refine GoesThrough.andThen goesThrough_flush.lifted fun _ => ?_
    refine GoesThrough.andThen release_goesThrough fun _ => ?_
    refine GoesThrough.andThen (goesThrough_report _ _).lifted fun _ => ?_
    cases result <;> exact goesThrough_pure _

/-- closing modes for nothing, -/
theorem closeAll_goesThrough (ms : List NativeMode) : GoesThrough (closeAll ms) := by
  induction ms with
  | nil => exact goesThrough_pure _
  | cons m ms ih =>
    unfold closeAll
    refine (goesThrough_attempt _).bind fun closed => ?_
    cases closed with
    | ok _ => exact ih
    | error cause =>
      exact (goesThrough_report _ _).bind fun _ => ih.bind fun _ => goesThrough_pure _

/-- and so closing the endpoint. -/
theorem close_goesThrough : GoesThrough close.run := by
  refine GoesThrough.andThen goesThrough_check fun _ => ?_
  refine GoesThrough.andThen goesThrough_look.lifted fun routes => ?_
  refine GoesThrough.andThen (closeAll_goesThrough _).lifted fun complaint => ?_
  refine GoesThrough.andThen (.lifted (goesThrough_aside fun _ => ⟨rfl, rfl, rfl⟩)) fun _ => ?_
  refine GoesThrough.andThen release_goesThrough fun _ => ?_
  refine GoesThrough.andThen (goesThrough_report _ _).lifted fun _ => ?_
  cases complaint <;> exact goesThrough_pure _

/-- So an endpoint can be dropped. -/
theorem retire_goesThrough : GoesThrough retire :=
  (goesThrough_retireBy stop_goesThrough close_goesThrough).bind fun _ =>
    goesThrough_aside fun r => (cutPower_upkeep r).sameFrames

end VideoRig

namespace MotionRig

/-! ## Motion endpoints -/

/-- However a sample fares, its frame is all that the consumer may be offered. -/
theorem deliverSample_offers (frequency : UInt32) (s : Sensor) (data : Bytes)
    (counts : List (UInt32 × Nat)) (c : Core) : ∃ pool log, ∃ fs : List Frame,
    (deliverSample frequency s data counts c).2 =
      fs.foldl (fun c f => c.offer f) { c with pool, log } := by
  unfold deliverSample
  dsimp only
  split
  next => exact ⟨c.pool, _, [], rfl⟩
  next feed _ =>
    unfold Core.allocate
    split
    next refused =>
      split at refused
      · cases refused
      · cases refused
        exact ⟨c.pool, _, [], rfl⟩
    next frame c₁ granted =>
      split at granted
      · cases granted
        exact ⟨_, c.log, [frame.write data], rfl⟩
      · cases granted

/-- A sample of one sensor leaves no frame out, -/
theorem sample_unclaimed (s : Sensor) (data : Bytes) {r : MotionRig} (h : r.core.Unclaimed) :
    (sample s data r).core.Unclaimed := by
  unfold sample
  split
  · exact h
  · exact h
  next frequency counts _ =>
    obtain ⟨high, balanced⟩ := h.balanced
    obtain ⟨pool, log, fs, offers⟩ := deliverSample_offers frequency s data counts r.core
    exact h.offered offers ⟨_, deliverSample_balanced balanced⟩

/-- nor does one that is named, -/
theorem deliver_unclaimed (name : String) (data : Bytes) {r : MotionRig} (h : r.core.Unclaimed) :
    (deliver name data r).2.core.Unclaimed :=
  deliver_induction (P := fun r => r.core.Unclaimed) (fun s data _ => sample_unclaimed s data)
    name data h

/-- nor a round of them. -/
theorem nextRound_unclaimed {r : MotionRig} (h : r.core.Unclaimed) :
    (nextRound r).core.Unclaimed :=
  nextRound_induction (P := fun r => r.core.Unclaimed) (fun s data _ => sample_unclaimed s data)
    (fun _ h => h) h

/-- Stopping waits for frames only, -/
theorem stop_goesThrough : GoesThrough stop.run := by
  refine GoesThrough.andThen goesThrough_look.lifted fun streaming => ?_
  cases streaming with
  | false => exact goesThrough_pure _
  | true =>
    refine GoesThrough.andThen (goesThrough_attempt _).lifted fun stopped => ?_
    refine GoesThrough.andThen (goesThrough_attempt _).lifted fun closed => ?_
    refine GoesThrough.andThen (.lifted (goesThrough_aside fun _ => ⟨rfl, rfl, rfl⟩)) fun _ => ?_
    refine GoesThrough.andThen goesThrough_dismiss.lifted fun _ => ?_
    refine GoesThrough.andThen goesThrough_flush.lifted fun _ => ?_
    refine GoesThrough.andThen (goesThrough_report _ _).lifted fun _ => ?_
    cases stopped <;> cases closed <;> exact goesThrough_pure _

/-- and closing for nothing. -/
theorem close_goesThrough : GoesThrough close.run := by
  refine GoesThrough.andThen goesThrough_check fun _ => ?_
  refine GoesThrough.andThen (.lifted (goesThrough_aside fun _ => ⟨rfl, rfl, rfl⟩)) fun _ => ?_
  exact (goesThrough_report _ _).lifted

/-- So an endpoint can be dropped. -/
theorem retire_goesThrough : GoesThrough retire :=
  goesThrough_retireBy stop_goesThrough close_goesThrough

end MotionRig

end Sensing
