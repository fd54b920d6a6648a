import Sensing.Proofs.Motion.Callbacks
import Sensing.Proofs.Video.Callbacks

/-!
# No callback after stop

Endpoints of both kinds call a callback only from the start that was passed it until a stop, or the
end of the endpoint, has answered: under every fault schedule, so also where the device could not be
told to stop and goes on delivering, and never after a start that failed.

The argument is that of sessions: the operations keep the registration in order, and nothing else
touches it.
-/

namespace Sensing

/-- Callbacks are called in their sessions only, for all arguments of the operations, every fault
schedule and every interleaving of any number of clients: by video endpoints, and by motion
endpoints once they are constructed. -/
theorem callbacks_called_in_session :
    (∀ capacity limit layout device plan,
      VideoRig.dispatch.CallsInSession
        (VideoRig.create (.create capacity limit) layout device plan)) ∧
    ∀ capacity limit frequency device plan (r : MotionRig),
      MotionRig.construct.run.run (.create (.create capacity limit) frequency device plan) =
        .finished (.ok ()) r →
      MotionRig.dispatch.CallsInSession r := by
  refine ⟨?_, ?_⟩
  · intro capacity limit layout device plan
    exact Dispatch.callsInSession VideoRig.orderly (Dispatch.rests_none rfl rfl)
  · intro capacity limit frequency device plan r run
    obtain ⟨silent, stopped⟩ := Dispatch.registration_of_run
      (MotionRig.construct_silent (v := ⟨false, none, _⟩) rfl rfl) rfl trivial run
    exact Dispatch.callsInSession MotionRig.orderly (Dispatch.rests_none stopped silent)

namespace MotionRig

/-- A fault schedule under which a capture is never stopped. -/
def unstoppable : FaultPlan MotionCall := fun _ c =>
  match c with
  | .stopCapture => some { cause := ⟨"device is stuck", []⟩ }
  | _ => none

/-- The endpoint of a motion module that cannot be stopped, before its construction. -/
def stuck : MotionRig :=
  .create (.create 4 4) 0 { sensors := MotionDevice.motionModule } unstoppable

/-- The capture goes on after a stop that failed, and its samples are released unseen. -/
theorem stuck_unheard : ∃ (r : MotionRig) (c : Crowd MotionRig),
    construct.run.run stuck = .finished (.ok ()) r ∧
    dispatch.Traced (fun _ => True) { rig := r } c none none ∧
    c.rig.machine.device.capture.isSome ∧ c.rig.core.registered = none ∧
    ∀ data, (deliver "accel_3d" data c.rig).2.core.pool.published =
      c.rig.core.pool.published := by
  let opening : Task MotionRig := .serve (.openStreams [{ channel := .accel }] : MotionOp) rfl
  let starting : Task MotionRig := .serve (.start fun _ => .hold : MotionOp) rfl
  let stopping : Task MotionRig := .serve MotionOp.stop rfl
  -- The session is computed once; what it says of callbacks is then read off the general theorem.
  have computed : (do
      let (_, r) ← construct.success? stuck
      let (opened, r) ← (dispatch.errand opening).outcome? r
      let (started, r) ← (dispatch.errand starting).outcome? r
      let (stopped, r) ← (dispatch.errand stopping).outcome? r
      return opened.isOk && started.isOk && !stopped.isOk &&
        r.machine.device.capture.isSome) = some true := by
    decide +kernel
  simp only [Option.bind_eq_bind, Option.bind_eq_some_iff, Prod.exists, Option.pure_def,
    Option.some.injEq, Bool.and_eq_true] at computed
  obtain ⟨_, r, construction, _, r₁, opened, _, r₂, started, _, r₃, stopped, -, capturing⟩ :=
    computed
  have constructed := Work.run_of_success? construction
  have fresh : dispatch.Traced (fun _ => True) { rig := r } { rig := r } none none := .start
  have atOpened := fresh.carried rfl opening (Procedure.run_of_outcome? opened)
  have atStarted := atOpened.carried rfl starting (Procedure.run_of_outcome? started)
  have atStopped := atStarted.carried rfl stopping (Procedure.run_of_outcome? stopped)
  have inSession := callbacks_called_in_session.2 4 4 0 { sensors := MotionDevice.motionModule }
    unstoppable r constructed
  have silent := (inSession.between atStopped).1
  refine ⟨r, _, constructed, atStopped, capturing, silent, fun data => ?_⟩
  exact inSession.released (x := MotionAside.deliver "accel_3d" data) rfl silent

end MotionRig

end Sensing
