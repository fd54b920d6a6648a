import Sensing.Proofs.Clients.Registration
import Sensing.Proofs.Clients.Upkeep

/-!
# The callbacks of endpoints on their devices

For endpoints of every kind, what concerns the callbacks is in the state that they share: logging,
the cache of modes and the calls of the device are of no consequence to it, and the parts that
starting and stopping have in common change it in one way each.
-/

namespace Sensing

namespace Rig

variable {ε δ κ κ' : Type} [Served (Rig ε δ κ)]

/-- How the callbacks of an endpoint on its device come and go. -/
def dispatch (setup : ε → κ') (callback : Served.Op (Rig ε δ κ) → Option Callback)
    (retire : Procedure (Rig ε δ κ) Unit) (delivers : Served.Aside (Rig ε δ κ) → Bool) :
    Dispatch (Rig ε δ κ) where
  core := Rig.core
  Setup := κ'
  setup r := setup r.own
  callback := callback
  retire := retire
  delivers := delivers

variable {setup : ε → κ'} {callback : Served.Op (Rig ε δ κ) → Option Callback}
  {retire : Procedure (Rig ε δ κ) Unit} {delivers : Served.Aside (Rig ε δ κ) → Bool}
  {allowed : Registration κ' → Prop} {v : Registration κ'}

/-- What is done in passing concerns no callback. -/
theorem aloof_notes (r : Rig ε δ κ) (log : List LogLine) (modes : Once (List NativeMode)) :
    (dispatch setup callback retire delivers).Aloof r
      { r with core := { r.core with log, modes } } := ⟨rfl, rfl⟩

/-- Nor does a call of the device. -/
theorem aloof_call [Device δ κ] (r : Rig ε δ κ) (c : κ) :
    (dispatch setup callback retire delivers).Aloof r (r.call c).2 := ⟨rfl, rfl⟩

/-- So all that is allowed with the lock, -/
theorem tolerates_dispatching [Device δ κ] :
    Rig.Tolerates (fun _ => True) ((dispatch setup callback retire delivers).holding allowed) :=
  ⟨fun r log modes => (aloof_notes r log modes).holding, fun r c _ => (aloof_call r c).holding⟩

/-- and without it. -/
theorem tolerates_uninvolved [Device δ κ] :
    Rig.Tolerates (fun _ => True) (dispatch setup callback retire delivers).waiting :=
  ⟨aloof_notes, fun r c _ => aloof_call r c⟩

/-- Streaming is turned on or off. -/
theorem follows_streaming (streaming : Bool) (permitted : allowed { v with streaming }) :
    (Procedure.change fun r : Rig ε δ κ =>
      { r with core := { r.core with streaming } }).Follows
        ((dispatch setup callback retire delivers).holding allowed)
        (fun _ k => k = { v with streaming }) v := by
  refine Dispatch.follows_registering (fun _ => rfl) (fun r known => ?_) permitted
  rw [← known]
  rfl

/-- The consumer is let go of, and the callback with it. -/
theorem follows_dismissal (permitted : allowed { v with callback := none }) :
    (Procedure.change (Rig.mapCore (·.dismiss)) : Procedure (Rig ε δ κ) Unit).Follows
      ((dispatch setup callback retire delivers).holding allowed)
      (fun _ k => k = { v with callback := none }) v := by
  refine Dispatch.follows_registering (fun r => Core.delivered_dismiss r.core) (fun r known => ?_)
    permitted
  have calm := (Core.calm_dismiss r.core).streaming
  rw [← known]
  show Registration.mk r.core.dismiss.streaming r.core.dismiss.registered _ = _
  rw [calm, Core.registered_dismiss]
  rfl

/-- A consumer is engaged, and its callback registered. -/
theorem follows_engagement (policy : Callback)
    (permitted : allowed { v with callback := some policy }) :
    (Procedure.change (Rig.mapCore (·.engage { policy })) : Procedure (Rig ε δ κ) Unit).Follows
      ((dispatch setup callback retire delivers).holding allowed)
      (fun _ k => k = { v with callback := some policy }) v := by
  refine Dispatch.follows_registering (fun r => Core.delivered_dismiss r.core) (fun r known => ?_)
    permitted
  have calm := (Core.calm_dismiss r.core).streaming
  rw [← known]
  show Registration.mk r.core.dismiss.streaming (some policy) _ = _
  rw [calm]
  rfl

/-- The callback is let go of again. -/
theorem follows_disengagement {policy : Callback} (silent : v.callback = none) (here : allowed v) :
    (Procedure.change (Rig.mapCore (·.dismiss)) : Procedure (Rig ε δ κ) Unit).Follows
      ((dispatch setup callback retire delivers).holding allowed) (fun _ k => k = v)
      { v with callback := some policy } := by
  have dismissed : { v with callback := none } = v := by rw [← silent]
  refine Procedure.Follows.mono ?_ (follows_dismissal ?_)
  · intro _ _ hk
    exact hk.trans dismissed
  · show allowed { v with callback := none }
    rw [dismissed]
    exact here

/-- Whether the endpoint streams, which the client with the lock knows. -/
theorem follows_ifStreaming {Q : Except EndpointError Unit → Registration κ' → Prop}
    {body : Work (Rig ε δ κ) Unit} (idle : v.streaming = false → Q (.ok ()) v)
    (hbody : v.streaming = true →
      body.Follows ((dispatch setup callback retire delivers).holding allowed) Q v) :
    (do if ← Work.look fun r : Rig ε δ κ => r.core.streaming then body :
      Work (Rig ε δ κ) Unit).Follows
        ((dispatch setup callback retire delivers).holding allowed) Q v := by
  have known (r : Rig ε δ κ)
      (sees : ((dispatch setup callback retire delivers).holding allowed).sees v r) :
      r.core.streaming = v.streaming := by
    rw [← sees.1]
    rfl
  refine Work.follows_knowing known ?_
  cases streaming : v.streaming with
  | false => exact Work.follows_pure (idle streaming)
  | true => exact hbody streaming

end Rig

end Sensing
