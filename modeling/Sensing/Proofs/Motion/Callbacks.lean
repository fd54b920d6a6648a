import Sensing.Proofs.Clients.Dispatching
import Sensing.Proofs.Clients.Session
import Sensing.Proofs.Motion.Operations

/-!
# The callbacks of a motion endpoint

A motion endpoint registers its callback after it has opened the device and before it starts to
capture, and lets go of it if either the capture does not start or it is told to stop, whatever the
device answers. A sample that finds no callback becomes a frame that is released at once.

Main result: `MotionRig.orderly`.
-/

namespace Sensing

namespace MotionRig

open Dispatch (follows_registering)
open Rig (tolerates_dispatching follows_streaming follows_dismissal follows_engagement
  follows_disengagement follows_ifStreaming)

/-- How the callbacks of a motion endpoint come and go. -/
def dispatch : Dispatch MotionRig :=
  Rig.dispatch id
    (fun op => match op with
      | .start callback => some callback
      | _ => none)
    retire
    fun x => match x with
      | .deliver _ _ | .nextRound => true
      | .core _ => false

/-! ## Deliveries -/

variable {r : MotionRig}

/-- A sample that finds no callback becomes a frame that is released at once, if it becomes one. -/
theorem deliverSample_dispatches (frequency : UInt32) (s : Sensor) (data : Bytes)
    (counts : List (UInt32 × Nat)) (c : Core) :
    c.Dispatches (deliverSample frequency s data counts c).2 := by
  unfold deliverSample
  dsimp only
  split
  next => exact (Core.spared_note ..).dispatches
  next feed _ =>
    by_cases room : c.pool.published < c.pool.bound
    · rw [Core.allocate_of_room room]
      exact Core.dispatches_offers c [_] c.log
    · obtain ⟨c', refused, spared⟩ := Core.allocate_of_no_room (Nat.le_of_not_lt room)
        { size := data.length
          info :=
            { timestamp := c.hostTime, number := countOf s.iio counts + 1,
              systemTime := c.hostTime, fps := frequency, channel := feed.channel,
              encoding := feed.encoding } }
      rw [refused]
      exact (spared.trans (Core.spared_note ..)).dispatches

/-- So it is with a sample of a sensor that is captured, -/
theorem sample_dispatches (s : Sensor) (data : Bytes) (r : MotionRig) :
    r.core.Dispatches (sample s data r).core := by
  unfold sample
  split
  · exact Core.Dispatches.refl _
  · exact Core.Dispatches.refl _
  · exact deliverSample_dispatches _ s data _ r.core

/-- and with all that the device delivers. -/
theorem delivery_dispatches {x : MotionAside} (delivers : dispatch.delivers x = true)
    (r : MotionRig) : r.core.Dispatches (x.apply r).core := by
  have sampled (s : Sensor) (data : Bytes) (r' : MotionRig) (before : r.core.Dispatches r'.core) :
      r.core.Dispatches (sample s data r').core := before.trans (sample_dispatches s data r')
  cases x with
  | core x => cases delivers
  | deliver name data => exact deliver_induction sampled name data (.refl r.core)
  | nextRound => exact nextRound_induction sampled (fun _ => id) (.refl r.core)

/-- No aside registers a callback, or lets go of one. -/
theorem aside_heeds (x : MotionAside) (r : MotionRig) : r.core.Heeds (x.apply r).core := by
  cases x with
  | core x => exact x.heeds r.core
  | deliver | nextRound => exact (delivery_dispatches rfl r).toHeeds

/-- A sample changes nothing of the endpoint's own, -/
theorem sample_own (s : Sensor) (data : Bytes) (r : MotionRig) :
    (sample s data r).own = r.own := by
  unfold sample
  split <;> rfl

/-- nor does any aside. -/
theorem aside_own (x : MotionAside) (r : MotionRig) : (x.apply r).own = r.own := by
  have sampled (s : Sensor) (data : Bytes) (r' : MotionRig) (same : r'.own = r.own) :
      (sample s data r').own = r.own := (sample_own s data r').trans same
  cases x with
  | core => rfl
  | deliver name data => exact deliver_induction sampled name data rfl
  | nextRound => exact nextRound_induction sampled (fun _ => id) rfl

/-! ## Operations -/

variable {allowed : Registration MotionState → Prop} {v : Registration MotionState}

/-- A step that changes the setup and nothing else of the registration. -/
theorem follows_setup {f : MotionRig → MotionRig} {g : MotionState → MotionState}
    (core : ∀ r, ∃ opened, (f r).core = { r.core with opened })
    (setup : ∀ r, (f r).own = g r.own) (permitted : allowed { v with setup := g v.setup }) :
    (Procedure.change f).Follows (dispatch.holding allowed)
      (fun _ k => k = { v with setup := g v.setup }) v := by
  refine follows_registering (fun r => ?_) (fun r known => ?_) permitted
  · obtain ⟨opened, same⟩ := core r
    show (f r).core.delivered = r.core.delivered
    rw [same]
  · obtain ⟨opened, same⟩ := core r
    rw [← known]
    show Registration.mk (f r).core.streaming (f r).core.registered (f r).own = _
    rw [same, setup]
    rfl

/-- Opening changes the setup, where the endpoint does not stream, -/
theorem openStreams_reconfigures (requests : List StreamRequest) :
    dispatch.Reconfigures (openStreams requests) := by
  intro allowed v free
  have tolerates : Rig.Tolerates (fun _ => True) (dispatch.holding allowed) :=
    tolerates_dispatching
  have refuses : ∀ c, Core.checkOpen title c = if c.streaming then _ else _ := fun _ => rfl
  refine Dispatch.follows_unless_streaming refuses (fun _ => .inl rfl) fun stopped => ?_
  refine Work.follows_after (stays_resolve tolerates requests) (fun _ => .inl rfl) fun routes => ?_
  have rates : (Work.check fun r : MotionRig =>
      ratesFor r.own.sensors r.own.frequency routes).Follows (dispatch.holding allowed)
        (Work.Stays v) v :=
    Work.follows_check fun r _ => ⟨rfl, ratesFor_blameless _ _ routes⟩
  refine Work.follows_after rates (fun _ => .inl rfl) fun rates => ?_
  refine Work.follows_then tolerates.report fun _ => ?_
  refine Work.follows_ofProcedure (Procedure.Follows.mono ?_ (follows_setup
    (g := fun own => { own with configuration := routes, configured := rates })
    (fun _ => ⟨true, rfl⟩) (fun _ => rfl) (free stopped _)))
  exact fun _ _ hk => .inr ⟨stopped, _, hk⟩

/-- and so does closing. -/
theorem close_reconfigures : dispatch.Reconfigures close := by
  intro allowed v free
  have tolerates : Rig.Tolerates (fun _ => True) (dispatch.holding allowed) :=
    tolerates_dispatching
  have refuses : ∀ c, Core.checkClose title c = if c.streaming then _ else _ := fun _ => rfl
  refine Dispatch.follows_unless_streaming refuses (fun _ => .inl rfl) fun stopped => ?_
  refine Work.follows_then (follows_setup
    (g := fun own => { own with configuration := [], configured := [] })
    (fun _ => ⟨false, rfl⟩) (fun _ => rfl) (free stopped _)) fun _ => ?_
  refine Work.follows_ofProcedure (Procedure.Follows.mono ?_ tolerates.report)
  exact fun _ _ hk => .inr ⟨stopped, _, hk⟩

/-- Starting registers the callback between the opening of the device and the capture, and takes it
back where the capture does not start. -/
theorem start_engages (policy : Callback) : dispatch.Engages policy (start { policy }) := by
  intro allowed v free here
  have refuses : ∀ c, Core.checkStart title c = if c.streaming then _ else _ := fun _ => rfl
  refine Dispatch.follows_engaging refuses free fun silent permitted => ?_
  have tolerates : Rig.Tolerates (fun _ => True) (dispatch.holding allowed) :=
    tolerates_dispatching
  -- What is done on failure: the callback goes first, whatever becomes of the device.
  have abandons : abandonCapture.Follows (dispatch.holding allowed) (fun _ k => k = v)
      { v with callback := some policy } := by
    refine Procedure.follows_then (follows_disengagement silent here) fun _ => ?_
    refine Procedure.follows_then (tolerates.attempt trivial) fun closed => ?_
    cases closed with
    | ok _ => exact Procedure.follows_pure rfl
    | error cause => exact tolerates.report
  have capturing (rates : List SensorRate) (sink : MotionSink) :
      (Work.onFailure abandonCapture (Rig.request (MotionCall.startCapture rates sink)) :
        Work MotionRig _).Follows (dispatch.holding allowed)
        (fun a k => k = if a.isOk then { v with callback := some policy } else v)
        { v with callback := some policy } := by
    refine Work.Follows.onFailure (tolerates.request trivial) (fun _ _ hk => hk.1) ?_
    intro e k he
    rw [he.1]
    exact abandons
  refine Work.follows_after (tolerates.request trivial) (fun _ => rfl) fun _ => ?_
  refine Work.follows_then (follows_engagement policy (permitted v.streaming)) fun _ => ?_
  refine Work.follows_looking fun own => ?_
  refine Work.Follows.bind (capturing _ _) ?_ fun _ _ hk => hk
  intro _ k hk
  obtain rfl : k = { v with callback := some policy } := hk
  refine Work.follows_then (follows_streaming true (permitted true)) fun _ => ?_
  exact Work.follows_ofProcedure tolerates.report

/-- Stopping leaves no callback, whatever the device answers, -/
theorem stop_silences : dispatch.Silences stop.run := by
  intro allowed v quiet ending ended
  have tolerates : Rig.Tolerates (fun _ => True) (dispatch.holding allowed) :=
    tolerates_dispatching
  refine follows_ifStreaming (fun stopped => ⟨v.setup, ?_⟩) fun _ => ?_
  · rw [← stopped, ← quiet stopped]
  refine Work.follows_then (tolerates.attempt trivial) fun stopped => ?_
  refine Work.follows_then (tolerates.attempt trivial) fun closed => ?_
  refine Work.follows_then (follows_streaming false (ending false)) fun _ => ?_
  refine Work.follows_then (follows_dismissal (ended false v.setup)) fun _ => ?_
  refine Work.follows_then Rig.follows_flush fun _ => ?_
  refine Work.follows_then tolerates.report fun _ => ?_
  rcases stopped with cause | _
  · exact Work.follows_throw ⟨v.setup, rfl⟩
  · rcases closed with cause | _
    · exact Work.follows_throw ⟨v.setup, rfl⟩
    · exact Work.follows_pure ⟨v.setup, rfl⟩

/-- and so does dropping the endpoint. -/
theorem retire_silences : dispatch.Silences (Work.ofProcedure retire).run := by
  intro allowed v quiet ending ended
  have tolerates : Rig.Tolerates (fun _ => True) (dispatch.holding allowed) :=
    tolerates_dispatching
  have gone : (Procedure.change fun r : MotionRig =>
      { r with core := { r.core with alive := false } }).Follows (dispatch.holding allowed)
        (fun _ k => k = v) v :=
    follows_registering (fun _ => rfl) (fun _ known => known) (ending v.streaming)
  refine Work.follows_ofProcedure
    (tolerates.retireBy gone (stop_silences quiet ending ended) ?_)
  rintro _ ⟨setup, rfl⟩
  exact close_reconfigures.silent (ended false) setup

/-! ## Everything that clients do -/

/-- All that clients do with callbacks is in order. -/
theorem orderly {admits : MotionOp → Prop} : dispatch.Orderly admits where
  reconfigures := by
    intro op t transition which
    cases op with
    | openStreams requests => exact ⟨openStreams_reconfigures requests, rfl⟩
    | close => exact ⟨close_reconfigures, rfl⟩
    | start | stop =>
      cases transition
      rcases which with h | h <;> cases h
    | modes | principal | resolve | flush => cases transition
  engages := by
    intro op transition
    cases op with
    | start policy => exact ⟨policy, rfl, start_engages policy⟩
    | _ => cases transition
  silences := by
    intro op transition
    cases op with
    | stop => exact stop_silences
    | _ => cases transition
  retires := retire_silences
  bystanders := by
    refine ⟨?_, (fun gate => nomatch gate), (fun gate => nomatch gate)⟩
    intro op transition _
    exact Work.Follows.mono (fun _ _ _ => trivial)
      (follows_free Rig.tolerates_uninvolved transition)
  aside x r := by
    have heeds := (aside_heeds x r).registered
    have calm := (aside_calm x r).streaming
    show Registration.mk (x.apply r).core.streaming (x.apply r).core.registered (x.apply r).own = _
    rw [heeds, calm, aside_own]
    rfl
  unheard x r := (aside_heeds x r).unheard
  released _ r delivers := (delivery_dispatches delivers r).published

/-! ## Construction -/

/-- Constructing an endpoint registers no callback. -/
theorem construct_silent {v : Registration MotionState} (silent : v.callback = none)
    (stopped : v.streaming = false) :
    construct.Follows (dispatch.holding fun _ => True)
      (fun _ k => k.callback = none ∧ k.streaming = false) v := by
  have tolerates : Rig.Tolerates (fun _ => True) (dispatch.holding fun _ => True) :=
    tolerates_dispatching
  have ends {α : Type} {p : Procedure MotionRig α} (hp : p.Follows (dispatch.holding fun _ => True)
      (fun _ k => ∃ setup, k = { v with setup }) v) : (Work.ofProcedure p).Follows
      (dispatch.holding fun _ => True) (fun _ k => k.callback = none ∧ k.streaming = false) v := by
    refine Work.follows_ofProcedure (Procedure.Follows.mono ?_ hp)
    intro _ _ hk
    obtain ⟨_, rfl⟩ := hk
    exact ⟨silent, stopped⟩
  have finds (sensors : List Sensor) : (Procedure.change fun r : MotionRig =>
      { r with
        own := { r.own with sensors }
        core := (r.core.registerFormat .gyro).registerFormat .accel }).Follows
      (dispatch.holding fun _ => True) (fun _ k => ∃ setup, k = { v with setup }) v := by
    refine Procedure.Follows.mono (P := fun _ k => k = { v with setup := { v.setup with sensors } })
      (fun _ _ hk => ⟨_, hk⟩) ?_
    refine follows_registering (fun _ => rfl) (fun r known => ?_) trivial
    rw [← known]
    rfl
  refine Work.follows_after (tolerates.request trivial) (fun _ => ⟨silent, stopped⟩) fun _ => ?_
  refine Work.follows_then (tolerates.attempt trivial) fun sensors => ?_
  refine Work.follows_then (tolerates.attempt trivial) fun closed => ?_
  cases closed
  case' error cause => refine Work.follows_then tolerates.report fun _ => ?_
  -- Whether or not closing failed, what counts is what sensors there are.
  all_goals
    cases sensors with
    | error cause => exact Work.follows_throw ⟨silent, stopped⟩
    | ok sensors => exact Work.follows_then tolerates.report fun _ => ends (finds sensors)

end MotionRig

end Sensing
