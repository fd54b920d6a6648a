import Sensing.Device.Video
import Sensing.Endpoint.Rig

/-!
# What calls do to machines

A call of a machine adds itself to the journal and leaves the plan alone. Its effect on the device
is the one that the device itself gives it, or none.

A video device grants a call or refuses it (`VideoDevice.perform_cases`), and what it does then is
one record update for each kind of call. Everything else is read off these: of its calls only those
that set the power change the power, say, and a powered device turns no call down for want of power.
-/

namespace Sensing

/-- Calls that change the device's power. -/
def VideoCall.setsPower : VideoCall → Bool
  | .setPower _ => true
  | _ => false

/-- Calls that set the power or initialise an extension unit. -/
def VideoCall.managesPower : VideoCall → Bool
  | .setPower _ | .initUnit _ => true
  | _ => false

/-- To set the power is one way of managing it. -/
theorem VideoCall.setsPower_of_unmanaged (c : VideoCall) (h : c.managesPower = false) :
    c.setsPower = false := by
  cases c with
  | setPower => cases h
  | _ => rfl

/-- What a device records when its power is set. -/
def PowerState.event : PowerState → VideoEvent
  | .d0 => .powerOn
  | .d3 => .powerOff

/-- Events of the power: that it is set, or what is initialised after that. -/
def VideoEvent.isOfPower : VideoEvent → Bool
  | .powerOn | .powerOff | .unitReady _ => true
  | .committed _ | .closed _ | .streamOn | .streamOff => false

/-- Calls that commit or close modes, or arm or disarm streams. -/
def VideoCall.managesModes : VideoCall → Bool
  | .commit _ | .close _ | .streamOn _ | .streamOff => true
  | _ => false

/-- Calls that arm streams. -/
def VideoCall.armsStreams : VideoCall → Bool
  | .streamOn _ => true
  | _ => false

namespace FaultPlan

/-- No failing call takes effect. -/
def NeverLate {κ : Type} (plan : FaultPlan κ) : Prop :=
  ∀ n c fault, plan n c = some fault → fault.late = false

/-- A kind of call never fails by the plan. -/
def Spares {κ : Type} (plan : FaultPlan κ) (c : κ) : Prop := ∀ n, plan n c = none

/-- Where a kind of call fails by the plan, it has taken no effect. -/
def Early {κ : Type} (plan : FaultPlan κ) (c : κ) : Prop :=
  ∀ n fault, plan n c = some fault → fault.late = false

/-- Where a kind of call fails by the plan, it has taken effect. -/
def Late {κ : Type} (plan : FaultPlan κ) (c : κ) : Prop :=
  ∀ n fault, plan n c = some fault → fault.late = true

/-- Where no failing call takes effect, none of a kind does. -/
theorem NeverLate.early {κ : Type} {plan : FaultPlan κ} (h : plan.NeverLate) (c : κ) :
    plan.Early c := fun n fault => h n c fault

/-- What never fails never fails without effect. -/
theorem Spares.late {κ : Type} {plan : FaultPlan κ} {c : κ} (h : plan.Spares c) : plan.Late c := by
  intro n fault hn
  rw [h n] at hn
  cases hn

end FaultPlan

namespace Machine

variable {δ κ : Type} [Device δ κ] (m : Machine δ κ) (c : κ)

@[simp] theorem call_journal : (m.call c).2.journal = (c, m.device) :: m.journal := by
  unfold call
  dsimp only
  split <;> rfl

@[simp] theorem call_plan : (m.call c).2.plan = m.plan := by
  unfold call
  dsimp only
  split <;> rfl

/-- A call takes effect or does not. -/
theorem call_device :
    (m.call c).2.device = m.device ∨ (m.call c).2.device = (Device.perform c m.device).2 := by
  unfold call
  dsimp only
  split
  next => exact .inr rfl
  next fault _ =>
    cases fault.late with
    | false => exact .inl rfl
    | true => exact .inr rfl

variable {m c}

/-- A call that succeeds is one that the device answered. -/
theorem call_ok {a : Device.Reply δ c} (h : (m.call c).1 = .ok a) :
    (Device.perform c m.device).1 = .ok a ∧
      (m.call c).2.device = (Device.perform c m.device).2 := by
  unfold call at h ⊢
  cases hplan : m.plan m.journal.length c with
  | none =>
    simp only [hplan] at h ⊢
    exact ⟨h, trivial⟩
  | some fault =>
    simp only [hplan] at h
    cases h

/-- Where no fault takes effect, a call that fails without the device's doing changes nothing. -/
theorem call_error_of_early (early : m.plan.Early c) {cause : Cause}
    (h : (m.call c).1 = .error cause) :
    (m.call c).2.device = m.device ∨
      (Device.perform c m.device).1 = .error cause ∧
        (m.call c).2.device = (Device.perform c m.device).2 := by
  unfold call at h ⊢
  cases hplan : m.plan m.journal.length c with
  | none =>
    simp only [hplan] at h ⊢
    exact .inr ⟨h, trivial⟩
  | some fault =>
    have hlate : fault.late = false := early _ _ hplan
    simp [hlate]

/-- Where every fault takes effect, a call does what the device does, whatever it answers. -/
theorem call_of_late (late : m.plan.Late c) :
    (m.call c).2.device = (Device.perform c m.device).2 := by
  unfold call
  cases hplan : m.plan m.journal.length c with
  | none => rfl
  | some fault =>
    have hlate : fault.late = true := late _ _ hplan
    simp [hlate]

/-- A call that is not made to fail does what the device does. -/
theorem call_of_sound (h : m.plan m.journal.length c = none) :
    (m.call c).1 = (Device.perform c m.device).1 ∧
      (m.call c).2.device = (Device.perform c m.device).2 := by
  unfold call
  simp only [h]
  trivial

/-- Where a kind of call takes no effect when it fails, it does what the device does, or the plan
makes it come to nothing. -/
theorem call_early (early : m.plan.Early c) :
    ((m.call c).1 = (Device.perform c m.device).1 ∧
        (m.call c).2.device = (Device.perform c m.device).2) ∨
      m.plan ≠ .sound ∧ (∃ cause, (m.call c).1 = .error cause) ∧
        (m.call c).2.device = m.device := by
  unfold call
  cases hplan : m.plan m.journal.length c with
  | none => exact .inl ⟨rfl, rfl⟩
  | some fault =>
    have hlate : fault.late = false := early _ _ hplan
    refine .inr ⟨?_, ⟨fault.cause, rfl⟩, by simp [hlate]⟩
    intro sound
    rw [sound] at hplan
    cases hplan

end Machine

@[simp] theorem Rig.call_machine {ε δ κ : Type} [Device δ κ] (r : Rig ε δ κ) (c : κ) :
    (r.call c).2.machine = (r.machine.call c).2 := rfl

namespace VideoDevice

variable (d : VideoDevice)

/-- A device that has granted a call. -/
def granted : VideoCall → VideoDevice
  | .enumerate => { d with enumerations := d.enumerations + 1 }
  | .setPower p => { d with power := p }.record p.event
  | .initUnit u => d.record (.unitReady u)
  | .commit m => { d with committed := d.committed ++ [m] }.record (.committed m)
  | .streamOn streams =>
    { d with armed := d.armed ++ streams, counters := [], rounds := 0 }.record .streamOn
  | .streamOff => { d with armed := [] }.record .streamOff
  | .close m => { d with committed := d.committed.erase m }.record (.closed m)
  | .readControl _ | .controlRange _ => d
  | .writeControl id value =>
    { d with controls := (id, value) :: d.controls.filter fun c => c.1 ≠ id }

/-- A device that has refused a call; questions for the modes are counted all the same. -/
def refused : VideoCall → VideoDevice
  | .enumerate => { d with enumerations := d.enumerations + 1 }
  | _ => d

/-- Only a question for the modes shows that it was refused. -/
theorem refused_eq {c : VideoCall} (other : c ≠ .enumerate) : d.refused c = d := by
  cases c with
  | enumerate => exact absurd rfl other
  | _ => rfl

variable {d}

/-- A powered device does what it is asked. -/
theorem powered_of_on {α : Type} (what : String) (act : VideoDevice → Except Cause α × VideoDevice)
    (on : d.power = .d0) : d.powered what act = act d := by
  unfold powered
  rw [if_pos on]

/-- One that is not refuses. -/
theorem powered_cases {α : Type} (what : String)
    (act : VideoDevice → Except Cause α × VideoDevice) :
    d.powered what act = act d ∨ ∃ cause, d.powered what act = (.error cause, d) := by
  unfold powered
  split
  · exact .inl rfl
  · exact .inr ⟨_, rfl⟩

/-- Every call is granted or refused. -/
theorem perform_cases (c : VideoCall) :
    (∃ a, perform c d = (.ok a, d.granted c)) ∨
      ∃ cause, perform c d = (.error cause, d.refused c) := by
  -- Most calls are refused by a device without power before anything else is looked at.
  have needing {α : Type} (what : String) (act : VideoDevice → Except Cause α × VideoDevice)
      {d₁ : VideoDevice} (does : (∃ a, act d = (.ok a, d₁)) ∨ ∃ cause, act d = (.error cause, d)) :
      (∃ a, d.powered what act = (.ok a, d₁)) ∨
        ∃ cause, d.powered what act = (.error cause, d) := by
    rcases powered_cases (d := d) what act with on | off
    · rw [on]
      exact does
    · exact .inr off
  cases c with
  | enumerate =>
    rcases powered_cases (d := { d with enumerations := d.enumerations + 1 })
      "profile enumeration" (fun d => (.ok d.offered, d)) with on | ⟨cause, off⟩
    · exact .inl ⟨d.offered, on⟩
    · exact .inr ⟨cause, off⟩
  | setPower p =>
    cases p with
    | d3 => exact .inl ⟨(), rfl⟩
    | d0 =>
      show (∃ a, d.setPower .d0 = (.ok a, _)) ∨ ∃ cause, d.setPower .d0 = (.error cause, _)
      unfold setPower
      dsimp only
      split
      · exact .inr ⟨_, rfl⟩
      · exact .inl ⟨(), rfl⟩
  | commit m =>
    refine needing _ _ ?_
    unfold commit
    dsimp only
    split
    · exact .inr ⟨_, rfl⟩
    · split
      · exact .inr ⟨_, rfl⟩
      · exact .inl ⟨(), rfl⟩
  | streamOn streams =>
    refine needing _ _ ?_
    unfold arm
    split
    · exact .inr ⟨_, rfl⟩
    · exact .inl ⟨(), rfl⟩
  | close m =>
    show (∃ a, d.close m = (.ok a, _)) ∨ ∃ cause, d.close m = (.error cause, _)
    unfold close
    split
    · exact .inl ⟨(), rfl⟩
    · exact .inr ⟨_, rfl⟩
  | writeControl id value =>
    refine needing _ _ ?_
    unfold writeControl
    dsimp only
    split
    · exact .inl ⟨(), rfl⟩
    · exact .inr ⟨_, rfl⟩
  | streamOff => exact .inl ⟨(), rfl⟩
  | initUnit u => exact needing _ (fun d => (.ok (), d.record (.unitReady u))) (.inl ⟨_, rfl⟩)
  | readControl id => exact needing _ (fun d => (.ok (d.control id), d)) (.inl ⟨_, rfl⟩)
  | controlRange id =>
    exact needing _ (fun d => (.ok (ControlBounds.of id).range, d)) (.inl ⟨_, rfl⟩)

/-- A call that succeeds was granted. -/
theorem perform_ok {c : VideoCall} {a : c.Reply} (h : (perform c d).1 = .ok a) :
    (perform c d).2 = d.granted c := by
  rcases perform_cases (d := d) c with ⟨_, granted⟩ | ⟨_, refused⟩
  · rw [granted]
  · rw [refused] at h
    cases h

/-- A call that fails was refused. -/
theorem perform_error {c : VideoCall} {cause : Cause} (h : (perform c d).1 = .error cause) :
    (perform c d).2 = d.refused c := by
  rcases perform_cases (d := d) c with ⟨_, granted⟩ | ⟨_, refused⟩
  · rw [granted] at h
    cases h
  · rw [refused]

/-- Suspending is never refused. -/
theorem perform_powerOff : perform (.setPower .d3) d = (.ok (), d.granted (.setPower .d3)) := rfl

/-- Nor is disarming. -/
theorem perform_streamOff : perform .streamOff d = (.ok (), d.granted .streamOff) := rfl

/-- A committed mode can be closed. -/
theorem perform_close {m : NativeMode} (h : m ∈ d.committed) :
    perform (.close m) d = (.ok (), d.granted (.close m)) := by
  show d.close m = _
  unfold close
  rw [if_pos h]
  rfl

/-- A powered device initialises every unit. -/
theorem perform_initUnit (u : ExtensionUnit) (on : d.power = .d0) :
    perform (.initUnit u) d = (.ok (), d.granted (.initUnit u)) :=
  powered_of_on "extension unit init" (fun d => (.ok (), d.record (.unitReady u))) on

/-- A powered device lists its modes. -/
theorem perform_enumerate_ok (on : d.power = .d0) :
    perform .enumerate d = (.ok d.offered, d.granted .enumerate) :=
  powered_of_on (d := { d with enumerations := d.enumerations + 1 }) "profile enumeration"
    (fun d => (.ok d.offered, d)) on

/-- Powering up is only refused by a device that was told to refuse it. -/
theorem perform_powerOn (willing : d.refusesPowerOn = false) :
    perform (.setPower .d0) d = (.ok (), d.granted (.setPower .d0)) := by
  show d.setPower .d0 = _
  unfold setPower
  exact if_neg (Bool.eq_false_iff.1 willing)

/-- A powered device commits the modes that it offers, unless it was told to refuse one. -/
theorem perform_commit {m : NativeMode} (on : d.power = .d0) (willing : d.refusesCommit = none)
    (offered : m ∈ d.offered) : perform (.commit m) d = (.ok (), d.granted (.commit m)) := by
  refine (powered_of_on "probe and commit" (commit m) on).trans ?_
  have accepts : d.refusesCommit ≠ some m := by
    rw [willing]
    exact nofun
  unfold commit
  rw [if_neg accepts, if_neg (not_not_intro offered)]
  rfl

/-- It arms streams of modes that are committed. -/
theorem perform_streamOn {streams : List (NativeMode × VideoSink)} (on : d.power = .d0)
    (committed : ∀ s ∈ streams, s.1 ∈ d.committed) :
    perform (.streamOn streams) d = (.ok (), d.granted (.streamOn streams)) := by
  have none : streams.find? (fun s => s.1 ∉ d.committed) = none :=
    List.find?_eq_none.2 fun s hs => by simp [committed s hs]
  refine (powered_of_on "stream on" (arm streams) on).trans ?_
  unfold arm
  rw [none]
  rfl

/-! ## What calls leave alone -/

/-- What is neither granted nor refused a change stays as it is. -/
theorem perform_keeps {β : Type} (view : VideoDevice → β) {c : VideoCall}
    (granted : view (d.granted c) = view d) (refused : view (d.refused c) = view d) :
    view (perform c d).2 = view d := by
  rcases perform_cases (d := d) c with ⟨_, h⟩ | ⟨_, h⟩
  · rw [h]
    exact granted
  · rw [h]
    exact refused

/-- Asking for the modes only counts the question. -/
theorem perform_enumerate :
    (perform .enumerate d).2 = { d with enumerations := d.enumerations + 1 } := by
  rcases perform_cases (d := d) .enumerate with ⟨_, h⟩ | ⟨_, h⟩ <;> rw [h] <;> rfl

/-- Calls that set no power leave it as it is. -/
theorem perform_power {c : VideoCall} (h : c.setsPower = false) :
    (perform c d).2.power = d.power := by
  refine perform_keeps VideoDevice.power ?_ (by cases c <;> rfl)
  cases c with
  | setPower => cases h
  | _ => rfl

/-- Calls that arm no streams leave those armed, or disarm all of them. -/
theorem perform_armed {c : VideoCall} (h : c.armsStreams = false) :
    (perform c d).2.armed = d.armed ∨ (perform c d).2.armed = [] := by
  cases c with
  | streamOn => cases h
  | streamOff => exact .inr rfl
  | _ => exact .inl (perform_keeps VideoDevice.armed rfl rfl)

/-- How far a device has come with the images it makes on its own. -/
def pace (d : VideoDevice) : List UInt32 × Nat := (d.counters, d.rounds)

/-- Only arming streams sets it back. -/
theorem perform_pace {c : VideoCall} (h : c.armsStreams = false) :
    (perform c d).2.pace = d.pace := by
  refine perform_keeps pace ?_ (by cases c <;> rfl)
  cases c with
  | streamOn => cases h
  | _ => rfl

/-! ## Events of the power -/

/-- What a device has recorded of its power. -/
def powerEvents (d : VideoDevice) : List VideoEvent := d.events.filter (·.isOfPower)

@[simp] theorem powerEvents_record (e : VideoEvent) :
    (d.record e).powerEvents = d.powerEvents ++ if e.isOfPower then [e] else [] := by
  unfold powerEvents record
  rw [List.filter_append]
  cases h : e.isOfPower <;> simp [h]

/-- Calls that manage no power record nothing of it. -/
theorem perform_powerEvents {c : VideoCall} (h : c.managesPower = false) :
    (perform c d).2.powerEvents = d.powerEvents := by
  refine perform_keeps powerEvents ?_ (by cases c <;> rfl)
  cases c with
  | setPower | initUnit => cases h
  | commit | streamOn | streamOff | close =>
    exact (powerEvents_record _).trans (List.append_nil _)
  | enumerate | readControl | writeControl | controlRange => rfl

end VideoDevice

namespace Machine

variable {m : Machine VideoDevice VideoCall} {c : VideoCall}

/-- What a call leaves alone, it leaves alone whether it is made to fail or not. -/
theorem call_keeps {β : Type} (view : VideoDevice → β)
    (h : view (VideoDevice.perform c m.device).2 = view m.device) :
    view (m.call c).2.device = view m.device := by
  rcases call_device m c with same | performed
  · rw [same]
  · rw [performed]
    exact h

/-- A call that succeeds is one that the device granted. -/
theorem call_granted {a : c.Reply} (h : (m.call c).1 = .ok a) :
    (m.call c).2.device = m.device.granted c := by
  obtain ⟨performed, device⟩ := call_ok h
  exact device.trans (VideoDevice.perform_ok performed)

/-- Where a kind of call takes no effect when it fails, it is granted or comes to nothing. -/
theorem call_of_early (early : m.plan.Early c) (other : c ≠ .enumerate) :
    (∃ a, (m.call c).1 = .ok a ∧ (m.call c).2.device = m.device.granted c) ∨
      ∃ cause, (m.call c).1 = .error cause ∧ (m.call c).2.device = m.device := by
  cases answer : (m.call c).1 with
  | ok a => exact .inl ⟨a, rfl, call_granted answer⟩
  | error cause =>
    refine .inr ⟨cause, rfl, ?_⟩
    rcases call_error_of_early early answer with same | ⟨refused, device⟩
    · exact same
    · exact (device.trans (VideoDevice.perform_error refused)).trans
        (m.device.refused_eq other)

/-- A call that is never made to fail, where the device grants it. -/
theorem call_of_spared (spares : m.plan.Spares c) {a : c.Reply}
    (grants : VideoDevice.perform c m.device = (.ok a, m.device.granted c)) :
    (m.call c).1 = .ok a ∧ (m.call c).2.device = m.device.granted c := by
  obtain ⟨reply, device⟩ := call_of_sound (spares m.journal.length)
  exact ⟨reply.trans (congrArg Prod.fst grants), device.trans (congrArg Prod.snd grants)⟩

end Machine

end Sensing
