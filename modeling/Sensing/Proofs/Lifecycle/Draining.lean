import Sensing.Proofs.Clients.Winding
import Sensing.Proofs.Motion.Bookkeeping
import Sensing.Proofs.Video.Bookkeeping
import Sensing.Proofs.Video.Mirror

/-!
# Stopping drains the endpoint

A frame has one of three owners when a stream is stopped: the consumer, which the endpoint has, the
application, which was handed it, or somebody who drew it by hand. Stopping gets the frames of the
first back itself and waits for those of the others; when it answers, all have been released and the
pool keeps as many buffers as were ever in use at once.

The operations of both kinds of endpoints wind the streaming down, so what is left to say of each is
which calls it makes of its device before it lets go of the consumer (`stop_windsDown`).
-/

namespace Sensing

open Tallied (Drains)

namespace VideoRig

/-- Stopping disarms the streams before it lets go of the consumer. -/
theorem stop_windsDown : WindsDown (.entering [VideoCall.streamOff]) stop.run := by
  refine .entering trivial (.telling fun result => .told (.dismissing (.waiting (.leaving ?_ ?_))))
  · intro _ _
    cases result <;> trivial
  · refine Work.Keeps.bind (Work.keeps_ofProcedure tolerates_standing.release) fun _ => ?_
    refine Work.Keeps.bind tolerates_standing.say.keeps fun _ => ?_
    cases result with
    | ok _ => exact Work.keeps_return
    | error cause => exact Work.keeps_throw

end VideoRig

namespace MotionRig

/-- Stopping ends the capture and closes the device before it lets go of the consumer. -/
theorem stop_windsDown :
    WindsDown (.entering [MotionCall.stopCapture, .closeDevice]) stop.run := by
  refine .entering trivial (.telling fun stopped => .telling fun closed => .told (.dismissing
    (.waiting (.leaving ?_ ?_))))
  · intro _
    cases stopped <;> cases closed <;> trivial
  · refine Work.Keeps.bind Rig.tolerates_standing.say.keeps fun _ => ?_
    rcases stopped with cause | _
    · exact Work.keeps_throw
    · rcases closed with cause | _
      · exact Work.keeps_throw
      · exact Work.keeps_return

end MotionRig

/-- For endpoints of both kinds, stopping a stream drains the endpoint, whatever the consumer keeps,
whatever frames the application has, under every fault schedule and every interleaving of any number
of clients: the device is told first, then the consumer is let go of, and then the application's
frames are waited for, and only those. -/
theorem stop_drains :
    (∀ capacity limit layout device plan (a : Tallied VideoRig),
      Tallied.Reaches VideoRig.bookkeeping (fun _ => True)
        { rig := .create (.create capacity limit) layout device plan } a →
      a.holder = none → a.rig.core.streaming = true →
      Drains VideoRig.bookkeeping (fun _ => True) [VideoCall.streamOff]
        { a with holder := some VideoRig.stop.run }) ∧
    ∀ capacity limit frequency device plan (r : MotionRig) (a : Tallied MotionRig),
      MotionRig.construct.run.run (.create (.create capacity limit) frequency device plan) =
        .finished (.ok ()) r →
      Tallied.Reaches MotionRig.bookkeeping (fun _ => True) { rig := r } a →
      a.holder = none → a.rig.core.streaming = true →
      Drains MotionRig.bookkeeping (fun _ => True) [MotionCall.stopCapture, .closeDevice]
        { a with holder := some MotionRig.stop.run } := by
  refine ⟨?_, ?_⟩
  · intro capacity limit layout device plan a h free streaming
    let camera : VideoRig := .create (.create capacity limit) layout device plan
    have fresh : Tallied.Accounted { rig := camera } :=
      Tallied.accounted_of_fresh (Core.balanced_create capacity limit)
    exact Tallied.drains_of_reaches VideoRig.bookkeeping_sound fresh VideoOp.stop rfl
      VideoRig.stop_windsDown h free streaming
  · intro capacity limit frequency device plan r a constructed h free streaming
    have fresh := Tallied.accounted_of_fresh
      (Rig.balanced_of_run MotionRig.construct_handles (Core.balanced_create capacity limit)
        constructed)
    exact Tallied.drains_of_reaches MotionRig.bookkeeping_sound fresh MotionOp.stop rfl
      MotionRig.stop_windsDown h free streaming

/-- Of three frames of a camera the consumer keeps one, the application was handed another and drew
the third by hand. -/
theorem VideoRig.divided_session : ∃ a : Tallied VideoRig,
    Tallied.Reaches bookkeeping (fun _ => True)
      { rig := .create (.create 4 4) {} { offered := [shared] } .sound } a ∧
    a.holder = none ∧ a.rig.core.streaming = true ∧ a.rig.core.kept.length = 1 ∧
    a.rig.core.held.length = 1 ∧ a.tally.drawn = 1 ∧ a.tally.high = 3 := by
  let camera : VideoRig := .create (.create 4 4) {} { offered := [shared] } .sound
  let gray : VideoAside := .core (.registerFormat .y8)
  let opening : VideoOp := .openStreams [{ channel := .infrared }]
  let starting : VideoOp := .start fun n => if n = 0 then .keep else .hold
  let image : VideoAside := .deliver shared [1, 2]
  let drawing : VideoAside := .core (.allocate ⟨1, {}⟩)
  let told (x : VideoAside) (a : VideoRig × Tally) : VideoRig × Tally :=
    (x.apply a.1, bookkeeping.tally x a.1 a.2)
  have computed : (do
      let r ← Served.inTurn? [opening, starting] (gray.apply camera)
      let (r, t) := told drawing (told image (told image (r, {})))
      return r.core.streaming && decide (r.core.kept.length = 1) &&
        decide (r.core.held.length = 1) && decide (t.drawn = 1) && decide (t.high = 3)) =
      some true := by
    decide +kernel
  simp only [Option.bind_eq_bind, Option.bind_eq_some_iff, Option.pure_def, Option.some.injEq,
    Bool.and_eq_true, decide_eq_true_eq] at computed
  obtain ⟨r, streams, ⟨⟨⟨streaming, kept⟩, held⟩, drawn⟩, high⟩ := computed
  have fresh : Tallied.Reaches bookkeeping (fun _ => True) { rig := camera } { rig := camera } :=
    .refl
  have atStarted := (fresh.aside gray trivial).inTurn rfl streams
  have delivered := ((atStarted.aside image trivial).aside image trivial).aside drawing trivial
  exact ⟨_, delivered, rfl, streaming, kept, held, drawn, high⟩

/-- The consumer keeps a frame of a motion module, and the application has released the one that it
drew by hand. -/
theorem kept_while_capturing : ∃ (r : MotionRig) (a : Tallied MotionRig),
    MotionRig.construct.run.run (.create (.create 4 4) 0 { sensors := MotionDevice.motionModule }) =
      .finished (.ok ()) r ∧
    Tallied.Reaches MotionRig.bookkeeping (fun _ => True) { rig := r } a ∧
    a.holder = none ∧ a.rig.core.streaming = true ∧ a.rig.core.kept.length = 1 ∧
    a.rig.core.held = [] ∧ a.tally.drawn = 0 ∧ a.tally.high = 2 := by
  let opening : MotionOp := .openStreams [{ channel := .accel }]
  let starting : MotionOp := .start fun _ => .keep
  let sample : MotionAside := .deliver "accel_3d" [1, 2]
  let drawing : MotionAside := .core (.allocate ⟨1, {}⟩)
  let releasing : MotionAside := .core (.release default)
  let told (x : MotionAside) (a : MotionRig × Tally) : MotionRig × Tally :=
    (x.apply a.1, MotionRig.bookkeeping.tally x a.1 a.2)
  have computed : (do
      let (_, r) ← MotionRig.construct.success?
        (.create (.create 4 4) 0 { sensors := MotionDevice.motionModule })
      let r ← Served.inTurn? [opening, starting] r
      let drawn := told drawing (told sample (r, {}))
      let (r, t) := told releasing drawn
      return r.core.streaming && decide (0 < drawn.2.drawn) &&
        decide (r.core.kept.length = 1) && decide (r.core.held = []) && decide (t.drawn = 0) &&
        decide (t.high = 2)) = some true := by
    decide +kernel
  simp only [Option.bind_eq_bind, Option.bind_eq_some_iff, Prod.exists, Option.pure_def,
    Option.some.injEq, Bool.and_eq_true, decide_eq_true_eq] at computed
  obtain ⟨_, r, constructed, r', streams,
    ⟨⟨⟨⟨⟨streaming, covered⟩, kept⟩, held⟩, drawn⟩, high⟩⟩ := computed
  have fresh : Tallied.Reaches MotionRig.bookkeeping (fun _ => True) { rig := r } { rig := r } :=
    .refl
  have atDrawn := ((fresh.inTurn rfl streams).aside sample trivial).aside drawing trivial
  -- Only who has a frame can release it.
  have released := atDrawn.aside releasing covered
  exact ⟨r, _, Work.run_of_success? constructed, released, rfl, streaming, kept, held, drawn, high⟩

/-- A video endpoint is stopped while a consumer keeps a frame, the application was handed another
and drew a third by hand; and a motion endpoint, while a consumer keeps a frame and the application
has none any more, which comes to its end. -/
theorem held_and_kept_drained :
    (∃ a : Tallied VideoRig, a.rig.core.kept.length = 1 ∧ a.rig.core.held.length = 1 ∧
      a.tally.drawn = 1 ∧ a.tally.high = 3 ∧
      Drains VideoRig.bookkeeping (fun _ => True) [VideoCall.streamOff]
        { a with holder := some VideoRig.stop.run }) ∧
    ∃ (a : Tallied MotionRig) (answer : Except EndpointError Unit) (r' : MotionRig),
      a.rig.core.kept.length = 1 ∧ a.tally.high = 2 ∧
      MotionRig.stop.run.run a.rig = .finished answer r' ∧ r'.core.pool.published = 0 ∧
      r'.core.pool.pooled = 2 := by
  refine ⟨?_, ?_⟩
  · obtain ⟨a, reached, free, streaming, kept, held, drawn, high⟩ := VideoRig.divided_session
    exact ⟨a, kept, held, drawn, high, stop_drains.1 4 4 {} _ .sound a reached free streaming⟩
  · obtain ⟨r, a, constructed, reached, free, streaming, kept, held, drawn, high⟩ :=
      kept_while_capturing
    have drains := stop_drains.2 4 4 0 _ .sound r a constructed reached free streaming
    obtain ⟨answer, r', run, emptied⟩ := drains.finishes .refl rfl held drawn
    exact ⟨a, answer, r', kept, high, run, emptied.published, emptied.pooled.trans high⟩

end Sensing
