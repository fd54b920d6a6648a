import Sensing.Proofs.Clients.Asides
import Sensing.Proofs.Clients.Crowd
import Sensing.Proofs.Device.Calls
import Sensing.Proofs.Video.Deliveries

/-!
# Clients of a video endpoint

What can be done with a video endpoint: its operations with all their arguments, power gates, and
what happens beside them. An application may do anything that it likes with the powered device, so
an *action* is any sequence of calls that depends on what they answer and on anything else that the
application sees.

Beside the operations, the device delivers raw images or makes rounds of them on its own, it may be
told to refuse power or a mode, and extension units and controls may be registered at any time.
-/

namespace Sensing

/-- What an application does with a powered device. -/
inductive VideoAction : Type 1 where
  | done
  | look {β : Type} (view : VideoRig → β) (next : β → VideoAction)
  | call (c : VideoCall) (next : Except Cause c.Reply → VideoAction)

namespace VideoAction

/-- Carries an action out. -/
def procedure : VideoAction → Procedure VideoRig Unit
  | .done => return
  | .look view next => do
    let answer ← Procedure.look view
    (next answer).procedure
  | .call c next => do
    let reply ← Rig.attempt c
    (next reply).procedure

/-- Every call of the action is allowed, whatever is answered. -/
def Uses (allowed : VideoCall → Prop) : VideoAction → Prop
  | .done => True
  | .look _ next => ∀ answer, (next answer).Uses allowed
  | .call c next => allowed c ∧ ∀ reply, (next reply).Uses allowed

/-- Nothing is asked of an action where every call is allowed. -/
theorem uses_anything (action : VideoAction) : action.Uses fun _ => True := by
  induction action with
  | done => trivial
  | look view next ih => exact ih
  | call c next ih => exact ⟨trivial, ih⟩

/-- Wider permission covers the same actions. -/
theorem Uses.mono {allowed allowed' : VideoCall → Prop} (h : ∀ c, allowed c → allowed' c)
    {action : VideoAction} (uses : action.Uses allowed) : action.Uses allowed' := by
  induction action with
  | done => trivial
  | look view next ih => exact fun answer => ih answer (uses answer)
  | call c next ih => exact ⟨h c uses.1, fun reply => ih reply (uses.2 reply)⟩

end VideoAction

/-- An operation of a video endpoint. -/
inductive VideoOp : Type 1 where
  | openStreams (requests : List StreamRequest)
  | close
  | start (policy : Nat → Handling)
  | stop
  | modes
  | principal
  | resolve (requests : List StreamRequest)
  | flush
  | control (id : ControlId) (call : ControlCall)
  | powered (action : VideoAction)

namespace VideoOp

/-- Carries an operation out. Its answer is kept as far as it tells of success or failure. -/
def work : VideoOp → Work VideoRig Unit
  | .openStreams requests => VideoRig.openStreams requests
  | .close => VideoRig.close
  | .start policy => VideoRig.start { policy }
  | .stop => VideoRig.stop
  | .modes => do let _ ← VideoRig.modes
  | .principal => do let _ ← VideoRig.principal
  | .resolve requests => do let _ ← VideoRig.resolve requests
  | .flush => Work.ofProcedure Rig.flush
  | .control id call => do let _ ← Work.ofProcedure (VideoRig.callProcessing id call)
  | .powered action => VideoRig.powered (Work.ofProcedure action.procedure)

/-- The operations that hold the configuration lock. -/
def transition : VideoOp → Option Transition
  | .openStreams _ => some .openStreams
  | .close => some .close
  | .start _ => some .start
  | .stop => some .stop
  | .modes | .principal | .resolve _ | .flush | .control _ _ | .powered _ => none

/-- Every call that an application makes on its own is allowed. -/
def Uses (allowed : VideoCall → Prop) : VideoOp → Prop
  | .powered action => action.Uses allowed
  | _ => True

/-- The operations whose applications let the device's power alone. -/
def SparesPower (op : VideoOp) : Prop := op.Uses fun c => c.setsPower = false

/-- The operations whose applications let its extension units alone, too. -/
def SparesUnits (op : VideoOp) : Prop := op.Uses fun c => c.managesPower = false

theorem uses_anything (op : VideoOp) : op.Uses fun _ => True := by
  cases op with
  | powered action => exact action.uses_anything
  | _ => trivial

theorem Uses.mono {allowed allowed' : VideoCall → Prop} (h : ∀ c, allowed c → allowed' c)
    {op : VideoOp} (uses : op.Uses allowed) : op.Uses allowed' := by
  cases op with
  | powered action => exact VideoAction.Uses.mono h uses
  | _ => trivial

end VideoOp

/-- What happens to a video endpoint beside its operations. -/
inductive VideoAside where
  | core (x : CoreAside)
  | registerUnit (u : ExtensionUnit)
  | registerProcessing (id : ControlId)
  | deliver (m : NativeMode) (data : Bytes)
  | nextRound
  | refusePowerOn (refuse : Bool)
  | refuseCommit (m : Option NativeMode)

namespace VideoAside

def apply : VideoAside → VideoRig → VideoRig
  | .core x, r => r.mapCore x.apply
  | .registerUnit u, r => r.registerUnit u
  | .registerProcessing id, r => (VideoRig.registerProcessing id r).2
  | .deliver m data, r => (VideoRig.deliver m data r).2
  | .nextRound, r => VideoRig.nextRound r
  | .refusePowerOn refuse, r => VideoRig.mapDevice (fun d => { d with refusesPowerOn := refuse }) r
  | .refuseCommit m, r => VideoRig.mapDevice (fun d => { d with refusesCommit := m }) r

end VideoAside

instance : Served VideoRig where
  Op := VideoOp
  work := VideoOp.work
  transition := VideoOp.transition
  Aside := VideoAside
  aside := VideoAside.apply
  gate := some ⟨VideoRig.acquire, VideoRig.release⟩

namespace VideoRig

/-! ## What an aside leaves alone -/

/-- What two states have in common when only asides lie between them: the calls made of the device
and its power and events, the count of power references, and, but for the log, the lifecycle. -/
structure Beside (r r' : VideoRig) : Prop where
  core : r.core.Calm r'.core
  users : r'.own.users = r.own.users
  plan : r'.machine.plan = r.machine.plan
  journal : r'.machine.journal = r.machine.journal
  power : r'.machine.device.power = r.machine.device.power
  events : r'.machine.device.events = r.machine.device.events

theorem Beside.refl (r : VideoRig) : r.Beside r := ⟨.refl _, rfl, rfl, rfl, rfl, rfl⟩

theorem Beside.trans {r₁ r₂ r₃ : VideoRig} (h : r₁.Beside r₂) (h' : r₂.Beside r₃) :
    r₁.Beside r₃ :=
  ⟨h.core.trans h'.core, h'.users.trans h.users, h'.plan.trans h.plan,
    h'.journal.trans h.journal, h'.power.trans h.power, h'.events.trans h.events⟩

/-- A lane touches frames and nothing of the lifecycle. -/
theorem deliverLane_calm (m : NativeMode) (data : Bytes) (l : Lane) (c : Core) :
    c.Calm (deliverLane m data l c).2 := by
  unfold deliverLane
  split
  · exact Core.calm_note c .debug rfl _
  · have hall := Core.calm_allocateAll c
      (Lane.drafts (l.count data).2.2.source (l.count data).1 c.hostTime (l.count data).2.1
        data.length)
    dsimp only
    split
    next c₁ h₁ =>
      rw [h₁] at hall
      exact hall.trans (Core.calm_note c₁ .debug rfl _)
    next frames c₁ h₁ =>
      rw [h₁] at hall
      refine Core.Calm.trans ?_ (Core.calm_foldl (fun c f => Core.calm_offer c f) _ _)
      exact hall.trans (Core.calm_note c₁ .trace rfl _)

/-- So do any number of lanes. -/
theorem deliverLanes_calm (m : NativeMode) (data : Bytes) (ls : List Lane) (c : Core) :
    c.Calm (deliverLanes m data ls c).2 := by
  induction ls generalizing c with
  | nil => exact Core.Calm.refl c
  | cons l ls ih => exact (deliverLane_calm m data l c).trans (ih _)

/-- A delivery makes no call and records nothing. -/
theorem deliverTo_beside (place : Nat) (data : Bytes) (r : VideoRig) :
    r.Beside (deliverTo place data r) := by
  unfold deliverTo
  split
  · exact Beside.refl r
  · exact ⟨.refl _, rfl, rfl, rfl, rfl, rfl⟩
  · next m ls _ => exact ⟨deliverLanes_calm m data ls r.core, rfl, rfl, rfl, rfl, rfl⟩

theorem deliver_beside (m : NativeMode) (data : Bytes) (r : VideoRig) :
    r.Beside (deliver m data r).2 :=
  deliver_induction (fun place data _ h => h.trans (deliverTo_beside place data _)) m data (.refl r)

theorem nextRound_beside (r : VideoRig) : r.Beside (nextRound r) :=
  nextRound_induction (fun place data _ h => h.trans (deliverTo_beside place data _))
    (fun _ h => h.trans ⟨.refl _, rfl, rfl, rfl, rfl, rfl⟩) (.refl r)

/-- Nothing that happens beside the operations makes a call, counts a reference or moves the
lifecycle. -/
theorem aside_beside (x : VideoAside) (r : VideoRig) : r.Beside (x.apply r) := by
  cases x with
  | core x => exact ⟨x.calm r.core, rfl, rfl, rfl, rfl, rfl⟩
  | deliver m data => exact deliver_beside m data r
  | nextRound => exact nextRound_beside r
  | registerUnit | registerProcessing | refusePowerOn | refuseCommit =>
    exact ⟨⟨rfl, rfl, rfl, fun _ h => .inl h⟩, rfl, rfl, rfl, rfl, rfl⟩

end VideoRig

end Sensing
