import Sensing.Endpoint.Video
import Sensing.Proofs.Clients.Upkeep
import Sensing.Proofs.Video.Clients
import Sensing.Proofs.Video.Gates

/-!
# What the operations of a video endpoint do in passing

Power is counted in passing, too: whatever an operation is for, it takes a reference first and gives
it back at last, which changes the count, the device's power and its power events and nothing that
the operation is about (`Upkeep`). Rules that tolerate upkeep and certain calls are followed by all
that operations share, and by every operation that holds no lock, as far as its own calls are among
those.
-/

namespace Sensing

open Work (Stays)

/-! ## Committing and closing modes -/

namespace Rig.Permits

variable {η : Type} {allowed : VideoCall → Prop} {R : Rules VideoRig η} {h : η}
  (permits : Rig.Permits allowed R h)
include permits

/-- Undoing commits is within rules that allow closing. -/
theorem rollBack (permitted : ∀ m, allowed (.close m)) (ms : List NativeMode) :
    (VideoRig.rollBack ms).Follows R (fun _ k => k = h) h := by
  induction ms with
  | nil => exact Procedure.follows_pure rfl
  | cons m ms ih =>
    unfold VideoRig.rollBack
    refine Procedure.follows_then (permits.attempt (permitted m)) fun closed => ?_
    cases closed with
    | ok _ => exact ih
    | error cause => exact Procedure.follows_then permits.report fun _ => ih

/-- So is closing all modes, whatever complaint comes of it. -/
theorem closeAll (permitted : ∀ m, allowed (.close m)) (ms : List NativeMode) :
    (VideoRig.closeAll ms).Follows R (fun _ k => k = h) h := by
  induction ms with
  | nil => exact Procedure.follows_pure rfl
  | cons m ms ih =>
    unfold VideoRig.closeAll
    refine Procedure.follows_then (permits.attempt (permitted m)) fun closed => ?_
    cases closed with
    | ok _ => exact ih
    | error cause =>
      refine Procedure.follows_then permits.report fun _ => ?_
      exact Procedure.follows_then ih fun _ => Procedure.follows_pure rfl

/-- Committing needs both: what was committed is closed again where one of them fails. -/
theorem commitAll (permitted : ∀ m, allowed (.commit m) ∧ allowed (.close m))
    (done ms : List NativeMode) : (VideoRig.commitAll done ms).Follows R (Stays h) h := by
  induction ms generalizing done with
  | nil => exact Work.stays_return
  | cons m ms ih =>
    unfold VideoRig.commitAll
    refine Work.Follows.andThen ?_ fun _ => ih (m :: done)
    refine Work.Follows.onFailure (permits.request (permitted m).1) (fun _ _ hk => hk) ?_
    intro e k he
    rw [he.1]
    refine Procedure.Follows.mono (fun _ _ hk => ⟨hk, he.2⟩) ?_
    exact permits.rollBack (fun m => (permitted m).2) done

end Rig.Permits

namespace VideoRig

variable {r r' : VideoRig}

/-! ## Upkeep -/

/-- Nothing differs but the log, the cache of modes, the count of power references, and the device's
power and events. -/
structure Upkeep (r r' : VideoRig) : Prop where
  core : r'.core = { r.core with log := r'.core.log, modes := r'.core.modes }
  own : r'.own = { r.own with users := r'.own.users }
  plan : r'.machine.plan = r.machine.plan
  device : r'.machine.device = { r.machine.device with
    power := r'.machine.device.power
    events := r'.machine.device.events }

theorem Upkeep.refl (r : VideoRig) : r.Upkeep r := ⟨rfl, rfl, rfl, rfl⟩

theorem Upkeep.trans {r₁ r₂ r₃ : VideoRig} (h : r₁.Upkeep r₂) (h' : r₂.Upkeep r₃) :
    r₁.Upkeep r₃ where
  core := by rw [h'.core, h.core]
  own := by rw [h'.own, h.own]
  plan := h'.plan.trans h.plan
  device := by rw [h'.device, h.device]

theorem upkeep_note (level : LogLevel) (message : String) (r : VideoRig) :
    r.Upkeep (r.note level message) := ⟨rfl, rfl, rfl, rfl⟩

theorem upkeep_withUsers (n : Nat) (r : VideoRig) : r.Upkeep (r.withUsers n) :=
  ⟨rfl, rfl, rfl, rfl⟩

theorem Steady.upkeep (h : r.Steady r') : r.Upkeep r' where
  core := by
    obtain ⟨ls, -, hcore⟩ := h.core
    rw [hcore]
  own := by rw [h.own]
  plan := h.plan
  device := h.device

/-- Taking a reference is upkeep even where it powers the device up, or fails to. -/
theorem acquire_upkeep (r : VideoRig) : r.Upkeep (acquire r).2 := by
  rcases acquire_cases r with ⟨-, h⟩ | ⟨-, r₁, steady, -, h⟩ | ⟨-, r₁, _, steady, h, -⟩
  · rw [h]
    exact upkeep_withUsers _ r
  · rw [h]
    exact steady.upkeep.trans (upkeep_withUsers _ r₁)
  · rw [h]
    exact steady.upkeep

/-- So is giving one back, whatever powering down comes to. -/
theorem release_upkeep (r : VideoRig) : r.Upkeep (release r) := by
  unfold release
  split
  · exact Upkeep.refl r
  · split
    · exact upkeep_note _ _ r
    · have fewer := upkeep_withUsers (r.own.users - 1) r
      dsimp only
      split
      · exact fewer.trans (powerDown_cases _).1.upkeep
      · exact fewer

/-- The cut at the end of an endpoint's life is no different. -/
theorem cutPower_upkeep (r : VideoRig) : r.Upkeep (cutPower r) := by
  have called := (steady_setPower (r.withUsers 0) .d3).upkeep
  unfold cutPower
  split
  · exact Upkeep.refl r
  · have none := upkeep_withUsers 0 r
    split
    next r₁ h =>
      change (r.withUsers 0).call (.setPower .d3) = _ at h
      rw [h] at called
      exact (none.trans called).trans (upkeep_note _ _ r₁)
    next cause r₁ h =>
      change (r.withUsers 0).call (.setPower .d3) = _ at h
      rw [h] at called
      exact (none.trans called).trans (upkeep_note _ _ r₁)

theorem warnOfLayout_upkeep (r : VideoRig) : r.Upkeep (warnOfLayout r) := by
  unfold warnOfLayout
  split
  · exact Upkeep.refl r
  next cause _ =>
    have notes (routes : List Route) (r : VideoRig) (message : String) :
        r.Upkeep (routes.foldl (fun r _ => r.note .warn message) r) := by
      induction routes generalizing r with
      | nil => exact Upkeep.refl r
      | cons _ routes ih => exact (upkeep_note .warn message r).trans (ih _)
    exact notes r.own.configuration r _

/-! ## Rules that tolerate it -/

variable {η : Type} {R : Rules VideoRig η}

/-- Every client may keep up the endpoint, and make the calls that are allowed. -/
structure Tolerates (allowed : VideoCall → Prop) (R : Rules VideoRig η) : Prop where
  upkeep : ∀ {h} {r r' : VideoRig}, Upkeep r r' → R.may h r r' h
  calls : ∀ {h} (r : VideoRig) {c : VideoCall}, allowed c → R.may h r (r.call c).2 h

namespace Tolerates

variable {allowed : VideoCall → Prop} (tolerates : Tolerates allowed R) {h : η}
include tolerates

theorem rig : Rig.Tolerates allowed R where
  notes _ _ _ := tolerates.upkeep ⟨rfl, rfl, rfl, rfl⟩
  calls := tolerates.calls

theorem permits (h : η) : Rig.Permits allowed R h := tolerates.rig.permits h

theorem change {f : VideoRig → VideoRig} (upkeep : ∀ r, Upkeep r (f r)) :
    (Procedure.change f).Follows R (fun _ k => k = h) h :=
  Procedure.follows_change fun r _ => ⟨h, tolerates.upkeep (upkeep r), rfl⟩

theorem report {level : LogLevel} {message : String} :
    (Rig.report level message : Procedure VideoRig Unit).Follows R (fun _ k => k = h) h :=
  tolerates.rig.report

theorem say {level : LogLevel} {message : String} :
    (Work.change (Rig.note level message) : Work VideoRig Unit).Follows R (Stays h) h :=
  tolerates.rig.say

theorem attempt {c : VideoCall} (permitted : allowed c) :
    (Rig.attempt c : Procedure VideoRig _).Follows R (fun _ k => k = h) h :=
  tolerates.rig.attempt permitted

theorem request {c : VideoCall} (permitted : allowed c) :
    (Rig.request c : Work VideoRig _).Follows R (Stays h) h :=
  tolerates.rig.request permitted

/-- The client stands where it stood, with the reference or without. -/
theorem acquire : (Work.step acquire).Follows R (Stays h) h := by
  refine Work.follows_step fun r _ => ⟨h, tolerates.upkeep (acquire_upkeep r), rfl, ?_⟩
  cases hr : (VideoRig.acquire r).1 with
  | ok u => exact not_isMisuse_ok u
  | error e =>
    intro misuse
    obtain ⟨_, he⟩ := misuse
    obtain ⟨-, -, ⟨_, rfl⟩, -⟩ := acquire_error hr
    cases he

theorem release : (Procedure.change release).Follows R (fun _ k => k = h) h :=
  tolerates.change release_upkeep

/-- Powered work is as good as the work itself. -/
theorem powered {α : Type} {work : Work VideoRig α} (hw : work.Follows R (Stays h) h) :
    (powered work).Follows R (Stays h) h := by
  refine tolerates.acquire.andThen fun _ => Work.Follows.always hw ?_
  intro a k ha
  rw [ha.1]
  exact Procedure.Follows.mono (fun _ _ hk => ⟨hk, ha.2⟩) tolerates.release

/-- An application that makes only calls that are allowed is within the rules, whatever it asks
next. -/
theorem action {action : VideoAction} (uses : action.Uses allowed) :
    action.procedure.Follows R (fun _ k => k = h) h := by
  induction action with
  | done => exact Procedure.follows_pure rfl
  | look view next ih =>
    refine Procedure.follows_then (Procedure.follows_look fun _ _ => rfl) fun answer => ?_
    exact ih answer (uses answer)
  | call c next ih =>
    refine Procedure.follows_then (tolerates.attempt uses.1) fun reply => ?_
    exact ih reply (uses.2 reply)

theorem forControl {α : Type} {id : ControlId} {work : Procedure VideoRig (Except Cause α)}
    (hw : work.Follows R (fun _ k => k = h) h) :
    (forControl id work).Follows R (fun _ k => k = h) h := by
  refine Procedure.follows_then (Procedure.follows_look fun _ _ => rfl) fun alive => ?_
  cases alive with
  | false => exact Procedure.follows_pure rfl
  | true =>
    have works : (VideoRig.powered (Work.ofProcedure work)).run.Follows R (fun _ k => k = h) h :=
      Procedure.Follows.mono (fun _ _ hk => hk.1)
        (tolerates.powered (Work.stays_ofProcedure hw))
    refine Procedure.follows_then works fun result => ?_
    cases result <;> exact Procedure.follows_pure rfl

/-! ## Seeing the endpoint off -/

/-- An endpoint that is dropped is stopped, closed and powered down, whichever of that fails. -/
theorem retire {P : η → Prop}
    (gone : (Procedure.change fun r : VideoRig =>
      { r with core := { r.core with alive := false } }).Follows R (fun _ k => k = h) h)
    (stops : stop.Follows R (fun _ k => P k) h)
    (closes : ∀ {k}, P k → close.Follows R (fun _ k => P k) k) :
    retire.Follows R (fun _ k => P k) h := by
  refine Procedure.Follows.bind (tolerates.rig.retireBy gone stops closes) fun _ k hk => ?_
  refine Procedure.Follows.mono (fun _ _ same => ?_) (tolerates.change cutPower_upkeep)
  rw [same]
  exact hk

/-! ## Operations without the lock -/

variable (asks : ∀ c, VideoCall.managesModes c = false → allowed c)
include asks

theorem enumerate : enumerate.Follows R (Stays h) h := by
  refine tolerates.powered ((tolerates.request (asks _ rfl)).andThen fun reported => ?_)
  exact tolerates.say.andThen fun _ => Work.stays_return

theorem modes : modes.Follows R (Stays h) h := tolerates.rig.modesBy (tolerates.enumerate asks)

theorem resolve (requests : List StreamRequest) : (resolve requests).Follows R (Stays h) h :=
  tolerates.rig.resolveBy (tolerates.enumerate asks) requests

theorem principal : principal.Follows R (Stays h) h := by
  refine (tolerates.modes asks).andThen fun ms => ?_
  refine Work.stays_look.andThen fun formats => ?_
  refine Work.Follows.andThen (Work.stays_forIn (fun code _ => ?_) _) fun _ => Work.stays_return
  exact tolerates.say.andThen fun _ => Work.stays_return

theorem callProcessing (id : ControlId) (call : ControlCall) :
    (callProcessing id call).Follows R (fun _ k => k = h) h := by
  cases call with
  | query | set | range =>
    refine Procedure.follows_then (tolerates.forControl (tolerates.attempt (asks _ rfl))) ?_
    intro result
    exact Procedure.follows_pure rfl
  | enabled | description => exact Procedure.follows_pure rfl

/-- Every operation without the lock follows such rules, if its own calls are allowed. -/
theorem free {op : VideoOp} (transition : op.transition = none) (uses : op.Uses allowed) :
    op.work.Follows R (fun _ k => k = h) h := by
  have any {α : Type} {w : Work VideoRig α} (hw : w.Follows R (Stays h) h) :
      (do let _ ← w : Work VideoRig Unit).Follows R (fun _ k => k = h) h :=
    Work.Follows.mono (fun _ _ hk => hk.1) (Work.Follows.andThen hw fun _ => Work.stays_return)
  cases op with
  | openStreams | close | start | stop => cases transition
  | modes => exact any (tolerates.modes asks)
  | principal => exact any (tolerates.principal asks)
  | resolve requests => exact any (tolerates.resolve asks requests)
  | flush =>
    exact Work.Follows.mono (fun _ _ hk => hk.1) (Work.stays_ofProcedure Rig.follows_flush)
  | control id call => exact any (Work.stays_ofProcedure (tolerates.callProcessing asks id call))
  | powered action =>
    exact Work.Follows.mono (fun _ _ hk => hk.1)
      (tolerates.powered (Work.stays_ofProcedure (tolerates.action uses)))

end Tolerates

end VideoRig

end Sensing
