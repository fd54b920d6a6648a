import Sensing.Proofs.Clients.Dispatching
import Sensing.Proofs.Clients.Session
import Sensing.Proofs.Video.Streams

/-!
# The callbacks of a video endpoint

A device that was told to stop may go on delivering, and what is armed outlives a start that failed
late; but frames reach an application only through the callback that the endpoint has registered.
Here is that the operations of a video endpoint register and let go of it in order, whatever the
device answers, and that the frames of an image that find none are released.

Main result: `VideoRig.orderly`.
-/

namespace Sensing

namespace VideoRig

open Dispatch (follows_registering)
open Rig (follows_streaming follows_dismissal follows_engagement follows_disengagement
  follows_ifStreaming)

/-- How the callbacks of a video endpoint come and go. -/
def dispatch : Dispatch VideoRig :=
  Rig.dispatch VideoState.configuration
    (fun op => match op with
      | .start callback => some callback
      | _ => none)
    retire
    fun x => match x with
      | .deliver _ _ | .nextRound => true
      | _ => false

/-! ## Deliveries -/

variable {m : NativeMode} {data : Bytes} {r r' : VideoRig}

/-- The frames of a lane go to whoever is registered, or are released one by one. -/
theorem deliverLane_dispatches (m : NativeMode) (data : Bytes) (l : Lane) (c : Core) :
    c.Dispatches (deliverLane m data l c).2 := by
  cases valid : l.accepts data with
  | false =>
    rw [(deliverLane_of_invalid valid).2]
    exact ⟨⟨rfl, fun _ => rfl⟩, fun _ => rfl⟩
  | true =>
    by_cases room : c.pool.published + l.source.unpacker.outputs.length ≤ c.pool.bound
    · obtain ⟨-, log, delivered⟩ := deliverLane_of_room (m := m) valid room
      have made : l.source.unpacker.outputs.length = (l.frames data c.hostTime).length := by
        have infos := congrArg List.length (l.frames_info data c.hostTime)
        simpa using infos.symm
      rw [delivered, made]
      exact Core.dispatches_offers c _ log
    · exact (deliverLane_of_no_room (m := m) valid (Nat.lt_of_not_le room)).2.dispatches

theorem deliverLanes_dispatches (m : NativeMode) (data : Bytes) (ls : List Lane) (c : Core) :
    c.Dispatches (deliverLanes m data ls c).2 := by
  induction ls generalizing c with
  | nil => exact Core.Dispatches.refl c
  | cons l ls ih => exact (deliverLane_dispatches m data l c).trans (ih _)

theorem deliverTo_dispatches (place : Nat) (data : Bytes) (r : VideoRig) :
    r.core.Dispatches (deliverTo place data r).core := by
  unfold deliverTo
  split
  · exact Core.Dispatches.refl _
  · exact Core.Dispatches.refl _
  · exact deliverLanes_dispatches _ data _ r.core

/-- All that a device delivers, on demand or in a round, reaches applications in this way only. -/
theorem delivery_dispatches {x : VideoAside} (delivers : dispatch.delivers x = true)
    (r : VideoRig) : r.core.Dispatches (x.apply r).core := by
  have taken (place : Nat) (data : Bytes) (r' : VideoRig) (h : r.core.Dispatches r'.core) :
      r.core.Dispatches (deliverTo place data r').core :=
    h.trans (deliverTo_dispatches place data r')
  cases x with
  | deliver m data => exact deliver_induction taken m data (.refl r.core)
  | nextRound => exact nextRound_induction taken (fun _ => id) (.refl r.core)
  | core | registerUnit | registerProcessing | refusePowerOn | refuseCommit => cases delivers

/-- Nothing that happens beside registers anybody or is heard without one. -/
theorem aside_heeds (x : VideoAside) (r : VideoRig) : r.core.Heeds (x.apply r).core := by
  cases x with
  | core x => exact x.heeds r.core
  | deliver | nextRound => exact (delivery_dispatches rfl r).toHeeds
  | registerUnit | registerProcessing | refusePowerOn | refuseCommit =>
    exact ⟨rfl, fun _ => rfl⟩

/-! ## Steps of operations -/

theorem Upkeep.aloof (h : r.Upkeep r') : dispatch.Aloof r r' where
  delivered := by
    show r'.core.delivered = r.core.delivered
    rw [h.core]
  registration := by
    show Registration.mk r'.core.streaming r'.core.registered r'.own.configuration = _
    rw [h.core, h.own]
    rfl

variable {allowed : Registration (List Route) → Prop} {v : Registration (List Route)}

variable (allowed) in
theorem tolerates_dispatching : Tolerates (fun _ => True) (dispatch.holding allowed) :=
  ⟨fun upkeep => upkeep.aloof.holding, Rig.tolerates_dispatching.calls⟩

theorem tolerates_uninvolved : Tolerates (fun _ => True) dispatch.waiting :=
  ⟨fun upkeep => upkeep.aloof, Rig.tolerates_uninvolved.calls⟩

/-- The configuration may change while the callback stays. -/
theorem follows_setup (routes : List Route) (opened : Bool)
    (permitted : allowed { v with setup := routes }) :
    (Procedure.change fun r : VideoRig =>
      { r with own := { r.own with configuration := routes },
               core := { r.core with opened } }).Follows (dispatch.holding allowed)
        (fun _ k => k = { v with setup := routes }) v := by
  refine follows_registering (fun _ => rfl) (fun r known => ?_) permitted
  rw [← known]
  rfl

/-! ## Operations -/

/-- Opening is about the configuration. -/
theorem openStreams_reconfigures (requests : List StreamRequest) :
    dispatch.Reconfigures (openStreams requests) := by
  intro allowed v free
  have tolerates := tolerates_dispatching allowed
  have refuses : ∀ c, Core.checkOpen title c = if c.streaming then _ else _ := fun _ => rfl
  refine Dispatch.follows_unless_streaming refuses (fun _ => .inl rfl) fun stopped => ?_
  refine Work.follows_after tolerates.acquire (fun _ => .inl rfl) fun _ => ?_
  refine Work.follows_backing_out (fun _ => tolerates.release) ?_
  refine Work.follows_after (tolerates.resolve (fun _ _ => trivial) requests)
    (fun _ => .inl rfl) fun routes => ?_
  refine Work.follows_after ((tolerates.permits _).commitAll (fun _ => ⟨trivial, trivial⟩) [] _)
    (fun _ => .inl rfl) fun _ => ?_
  refine Work.follows_then tolerates.report fun _ => ?_
  refine Work.follows_ofProcedure (Procedure.Follows.mono ?_
    (follows_setup routes true (free stopped routes)))
  exact fun _ _ hk => .inr ⟨stopped, routes, hk⟩

/-- So is closing. -/
theorem close_reconfigures : dispatch.Reconfigures close := by
  intro allowed v free
  have tolerates := tolerates_dispatching allowed
  have refuses : ∀ c, Core.checkClose title c = if c.streaming then _ else _ := fun _ => rfl
  refine Dispatch.follows_unless_streaming refuses (fun _ => .inl rfl) fun stopped => ?_
  refine Work.follows_looking fun routes => ?_
  refine Work.follows_then ((tolerates.permits _).closeAll (fun _ => trivial) _) fun complaint => ?_
  refine Work.follows_then (follows_setup [] false (free stopped [])) fun _ => ?_
  refine Work.follows_then tolerates.release fun _ => ?_
  refine Work.follows_then tolerates.report fun _ => ?_
  cases complaint with
  | none => exact Work.follows_pure (.inr ⟨stopped, [], rfl⟩)
  | some cause => exact Work.follows_throw (.inr ⟨stopped, [], rfl⟩)

/-- The callback is registered before the device is armed, and is let go of again if that fails. -/
theorem start_engages (policy : Callback) : dispatch.Engages policy (start { policy }) := by
  intro allowed v free here
  have refuses : ∀ c, Core.checkStart title c = if c.streaming then _ else _ := fun _ => rfl
  refine Dispatch.follows_engaging refuses free fun silent permitted => ?_
  have tolerates := tolerates_dispatching allowed
  have engaged : allowed { v with callback := some policy } := permitted v.streaming
  -- What follows the registration is known by whether it succeeds: only then does the callback
  -- stay.
  have arming (streams : List (NativeMode × VideoSink)) :
      (Work.onFailure (.change (Rig.mapCore (·.dismiss)))
        (Rig.request (VideoCall.streamOn streams)) : Work VideoRig _).Follows
        (dispatch.holding allowed)
        (fun a k => k = if a.isOk then { v with callback := some policy } else v)
        { v with callback := some policy } := by
    refine Work.Follows.onFailure (tolerates.request trivial) (fun _ _ hk => hk.1) ?_
    intro e k he
    rw [he.1]
    exact follows_disengagement silent here
  refine Work.follows_after tolerates.acquire (fun _ => rfl) fun _ => ?_
  refine Work.follows_backing_out (fun _ => tolerates.release) ?_
  refine Work.follows_then (follows_engagement policy engaged) fun _ => ?_
  refine Work.follows_then (tolerates.change warnOfLayout_upkeep) fun _ => ?_
  refine Work.follows_looking fun streams => ?_
  refine Work.Follows.bind (arming streams) ?_ fun _ _ hk => hk
  intro _ k hk
  obtain rfl : k = { v with callback := some policy } := hk
  refine Work.follows_then (follows_streaming true (permitted true)) fun _ => ?_
  exact Work.follows_ofProcedure tolerates.report

/-- It is let go of whatever the device answers to being disarmed. -/
theorem stop_silences : dispatch.Silences stop.run := by
  intro allowed v quiet ending ended
  have tolerates := tolerates_dispatching allowed
  refine follows_ifStreaming (fun stopped => ⟨v.setup, ?_⟩) fun _ => ?_
  · rw [← stopped, ← quiet stopped]
  refine Work.follows_then (tolerates.attempt trivial) fun result => ?_
  refine Work.follows_then (follows_streaming false (ending false)) fun _ => ?_
  refine Work.follows_then (follows_dismissal (ended false v.setup)) fun _ => ?_
  refine Work.follows_then Rig.follows_flush fun _ => ?_
  refine Work.follows_then tolerates.release fun _ => ?_
  refine Work.follows_then tolerates.report fun _ => ?_
  cases result with
  | ok _ => exact Work.follows_pure ⟨v.setup, rfl⟩
  | error cause => exact Work.follows_throw ⟨v.setup, rfl⟩

/-- An endpoint that is seen off stops first. -/
theorem retire_silences : dispatch.Silences (Work.ofProcedure retire).run := by
  intro allowed v quiet ending ended
  have tolerates := tolerates_dispatching allowed
  refine Work.follows_ofProcedure (tolerates.retire ?_ (stop_silences quiet ending ended) ?_)
  · exact follows_registering (fun _ => rfl) (fun _ known => known) (ending v.streaming)
  · rintro _ ⟨setup, rfl⟩
    exact close_reconfigures.silent (ended false) setup

/-! ## Everything that clients do -/

theorem orderly {admits : VideoOp → Prop} : dispatch.Orderly admits where
  reconfigures := by
    intro op t transition which
    cases op with
    | openStreams requests => exact ⟨openStreams_reconfigures requests, rfl⟩
    | close => exact ⟨close_reconfigures, rfl⟩
    | start | stop =>
      cases transition
      rcases which with h | h <;> cases h
    | modes | principal | resolve | flush | control | powered => cases transition
  engages := by
    intro op transition
    cases op with
    | start policy => exact ⟨policy, rfl, start_engages policy⟩
    | _ => cases transition
  silences := by
    intro op transition
    cases op with
    | stop => exact stop_silences
    | _ => cases transition
  retires := retire_silences
  bystanders := by
    refine ⟨?_, ?_, ?_⟩
    · intro op transition _
      exact Work.Follows.mono (fun _ _ _ => trivial)
        (tolerates_uninvolved.free (fun _ _ => trivial) transition op.uses_anything)
    · intro g r gate
      cases gate
      exact (acquire_upkeep r).aloof
    · intro g r gate
      cases gate
      exact (release_upkeep r).aloof
  -- An aside may change neither the callback nor what streams nor what is configured.
  aside x r := by
    have heeds := (aside_heeds x r).registered
    have beside := (aside_beside x r).core.streaming
    have setup := (aside_tame x r).configuration
    show Registration.mk (x.apply r).core.streaming (x.apply r).core.registered
      (x.apply r).own.configuration = _
    rw [heeds, beside, setup]
    rfl
  unheard x r := (aside_heeds x r).unheard
  released _ r delivers := (delivery_dispatches delivers r).published

end VideoRig

end Sensing
