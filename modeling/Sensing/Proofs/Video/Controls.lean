import Sensing.Proofs.Binary.Integers
import Sensing.Proofs.Clients.Transcript
import Sensing.Proofs.Lifecycle.FailedOpen
import Sensing.Proofs.Video.Readiness

/-!
# Controls keep to their range

A control of the processing unit takes any number, but the device keeps whole ones, so what is set
is the integer next to the number asked for. The device checks that integer against the bounds of
the control. Bounds are integers too, so a number within them is never turned down; but a number
beyond them by less than a half is taken as the bound itself.

Each call of a control takes a power reference, calls the device once and gives the reference back
(`run_forControl`). The rest is about one call of the device and about numbers.

Main result: `set_by_range`, in every state that any number of clients can lead to.
-/

namespace Sensing

/-! ## Bounds -/

namespace ControlBounds

/-- All bounds are integers that a single-precision number can be, and so are their neighbours. -/
theorem exact (id : ControlId) :
    (of id).least.natAbs + 1 < 16777216 ∧ (of id).greatest.natAbs + 1 < 16777216 := by
  cases id <;> decide

/-- What it is to be in the range of a control. -/
theorem contains_iff (id : ControlId) (v : Single) : (of id).range.contains v = true ↔
    (Binary.ofInt .single (of id).least).le v = true ∧
      v.le (.ofInt .single (of id).greatest) = true := by
  simp only [ControlRange.contains, range, Bool.and_eq_true]

/-- An integer is within the bounds. -/
def Allows (b : ControlBounds) (n : Int) : Prop := b.least ≤ n ∧ n ≤ b.greatest

/-- An integer is in the range if it is within the bounds. -/
theorem contains_ofInt {id : ControlId} {n : Int} (h : n.natAbs < 4294967296) :
    (of id).range.contains (.ofInt .single n) = true ↔ (of id).Allows n := by
  obtain ⟨least, greatest⟩ := exact id
  have lower := Binary.le_ofInt_iff (p := .single) (by decide) 32 (by decide) (by decide) least h
  have upper := Binary.ofInt_le_iff (p := .single) (by decide) 32 (by decide) (by decide) greatest h
  rw [contains_iff, lower, upper, Allows]

/-- The bounds are small enough for a single to be exact about what is between them. -/
theorem amounts_of_allows {id : ControlId} {n : Int} (h : (of id).Allows n) :
    (Binary.ofInt .single n).Amounts (n * Precision.single.one) := by
  obtain ⟨least, greatest⟩ := exact id
  obtain ⟨above, below⟩ := h
  have short : n.natAbs < 16777216 := by omega
  exact Binary.amounts_ofInt_exact (p := .single) (by decide) (by decide) short

instance (b : ControlBounds) (n : Int) : Decidable (b.Allows n) :=
  inferInstanceAs (Decidable (_ ∧ _))

end ControlBounds

/-- The integer that a control makes of a number. -/
def wholeValue (v : Single) : Int := v.toIntClamped (-2147483648) 2147483647

/-- It is short of the 32 bits that it is kept in. -/
theorem natAbs_wholeValue_lt (v : Single) : (wholeValue v).natAbs < 4294967296 := by
  cases v with
  | nan => decide
  | infinite negative => cases negative <;> decide
  | finite negative units =>
    show (max (-2147483648) (min 2147483647 _) : Int).natAbs < _
    omega

/-- A number in the range of a control is finite, and what the control makes of it is the integer
next to it, within the range as well. -/
theorem nearest_wholeValue {id : ControlId} {v : Single}
    (h : (ControlBounds.of id).range.contains v = true) :
    (ControlBounds.of id).Allows (wholeValue v) ∧
      ∃ x, v.Amounts x ∧ Nearest .single x (wholeValue v) := by
  obtain ⟨least, greatest⟩ := ControlBounds.exact id
  have hl := Binary.amounts_ofInt_exact (p := .single) (by decide) (by decide)
    (n := (ControlBounds.of id).least) (Nat.lt_of_succ_lt least)
  have hg := Binary.amounts_ofInt_exact (p := .single) (by decide) (by decide)
    (n := (ControlBounds.of id).greatest) (Nat.lt_of_succ_lt greatest)
  obtain ⟨lower, upper⟩ := (ControlBounds.contains_iff id v).1 h
  obtain ⟨x, hx⟩ := Binary.amounts_of_between hl hg lower upper
  have above := (hl.le_iff hx).1 lower
  have below := (hx.le_iff hg).1 upper
  have nearest : Nearest .single x (wholeValue v) :=
    Binary.toIntClamped_nearest hx above below (by omega) (by omega)
  exact ⟨nearest.within above below, x, hx, nearest⟩

/-! ## One call of the device -/

namespace VideoDevice

variable {d : VideoDevice} {id other : ControlId} {n : Int}

/-- A device that keeps a value for a control. -/
def keep (id : ControlId) (n : Int) (d : VideoDevice) : VideoDevice :=
  { d with controls := (id, n) :: d.controls.filter fun c => c.1 ≠ id }

/-- A powered device keeps what the bounds allow. -/
theorem perform_writeControl (id : ControlId) (n : Int) (on : d.power = .d0) :
    ((ControlBounds.of id).Allows n → perform (.writeControl id n) d = (.ok (), d.keep id n)) ∧
      (¬(ControlBounds.of id).Allows n →
        ∃ cause, perform (.writeControl id n) d = (.error cause, d)) := by
  have written : perform (.writeControl id n) d = writeControl id n d :=
    powered_of_on "processing unit write" (writeControl id n) on
  rw [written]
  unfold writeControl
  exact ⟨fun allowed => if_pos allowed, fun refused => ⟨_, if_neg refused⟩⟩

theorem control_keep_self : (d.keep id n).control id = n := by
  simp [control, keep]

/-- Another control keeps its value. -/
theorem control_keep_other (h : other ≠ id) : (d.keep id n).control other = d.control other := by
  have found : ((id, n) :: d.controls.filter fun c => c.1 ≠ id).find? (fun c => c.1 = other) =
      d.controls.find? fun c => c.1 = other := by
    rw [List.find?_cons_of_neg (by simpa using h.symm), List.find?_filter]
    congr 1
    funext c
    by_cases hc : c.1 = other <;> simp [hc, h]
  exact congrArg (fun c => (c.map (·.2)).getD (ControlBounds.of other).default) found

end VideoDevice

namespace VideoRig

variable {r r' : VideoRig} {c : VideoCall} {d : VideoDevice}

/-- The device as somebody finds it who has just taken a reference: the first one has powered it
up. -/
structure Found (r : VideoRig) (d : VideoDevice) : Prop where
  device : d = { r.machine.device with power := d.power, events := d.events }
  first : r.own.users = 0 → d.power = .d0
  later : 0 < r.own.users → d.power = r.machine.device.power

/-- The endpoint after a reference was taken, a call made of the device, and the reference given
back: what differs is the log, the device's events, and whatever the call has done. -/
structure Consulted (r : VideoRig) (c : VideoCall) (d : VideoDevice) (r' : VideoRig) : Prop where
  found : Found r d
  core : r'.core = { r.core with log := r'.core.log }
  own : r'.own = r.own
  plan : r'.machine.plan = r.machine.plan
  device : r'.machine.device = { (VideoDevice.perform c d).2 with
    power := r'.machine.device.power
    events := r'.machine.device.events }
  last : r.own.users = 0 → r'.machine.device.power = .d3
  notLast : 0 < r.own.users → r'.machine.device.power = (VideoDevice.perform c d).2.power

/-- Taking a reference. -/
theorem found_acquire (done : (acquire r).1 = .ok ()) :
    Found r (acquire r).2.machine.device ∧
      (acquire r).2.own = { r.own with users := r.own.users + 1 } := by
  obtain ⟨r₁, added, steady, same, up⟩ := acquire_ok done
  rw [added]
  refine ⟨⟨steady.device, up, fun some => congrArg (·.machine.device.power) (same some)⟩, ?_⟩
  show { r₁.own with users := r₁.own.users + 1 } = _
  rw [steady.own]

/-- Giving it back. -/
theorem release_gives_back {n : Nat} (sound : r.machine.plan = .sound)
    (alive : r.core.alive = true) (users : r.own.users = n + 1) :
    (release r).own = { r.own with users := n } ∧
      (n = 0 → (release r).machine.device.power = .d3) ∧
      (0 < n → (release r).machine.device.power = r.machine.device.power) := by
  rcases release_cases alive users with ⟨some, fewer⟩ | ⟨rfl, steady, off⟩
  · rw [fewer]
    exact ⟨rfl, fun none => absurd none (Nat.ne_of_gt some), fun _ => rfl⟩
  · exact ⟨steady.own, fun _ => off (sound ▸ fun _ => rfl), fun some => absurd some (by decide)⟩

/-- What a control's call comes to on a sound and willing device: the answer is the device's. -/
theorem run_forControl (sound : r.machine.plan = .sound) (willing : r.machine.device.Willing)
    (alive : r.core.alive = true) (id : ControlId) (c : VideoCall) :
    ∃ d r', (forControl id (Rig.attempt c)).run r = .finished (VideoDevice.perform c d).1 r' ∧
      Consulted r c d r' := by
  obtain ⟨done, acquired⟩ := acquire_heedful sound willing
  obtain ⟨found, own⟩ := found_acquire done
  have sound₁ : (acquire r).2.machine.plan = .sound := acquired.upkeep.plan.trans sound
  have alive₁ : (acquire r).2.core.alive = true := by
    rw [acquired.upkeep.core]
    exact alive
  -- The call leaves everything but the machine as it is.
  obtain ⟨answer, device⟩ := Machine.call_of_sound (m := (acquire r).2.machine) (c := c)
    (congrFun (congrFun sound₁ _) _)
  have plan := Machine.call_plan (acquire r).2.machine c
  generalize left : ((acquire r).2.call c).2 = r₂
  obtain ⟨core₂, own₂, machine₂⟩ : r₂.core = (acquire r).2.core ∧ r₂.own = (acquire r).2.own ∧
      r₂.machine = ((acquire r).2.machine.call c).2 := by
    rw [← left]
    exact ⟨rfl, rfl, rfl⟩
  have sound₂ : r₂.machine.plan = .sound := by rw [machine₂, plan, sound₁]
  have released := release_heedful sound₂
  obtain ⟨back, last, notLast⟩ := release_gives_back (n := r.own.users) sound₂
    (by rw [core₂, alive₁]) (by rw [own₂, own])
  have works : (powered (Work.ofProcedure (Rig.attempt c))).Gives r fun reply r' =>
      reply = (VideoDevice.perform c (acquire r).2.machine.device).1 ∧ r' = release r₂ := by
    refine (Work.gives_step (P := fun _ r' => r' = (acquire r).2) done rfl).bind ?_
    rintro _ _ rfl
    refine Work.Gives.always (P := fun reply r' =>
      reply = (VideoDevice.perform c (acquire r).2.machine.device).1 ∧ r' = r₂) ?_
      fun _ _ h => ⟨h.1, congrArg release h.2⟩
    exact ⟨_, _, rfl, answer, left⟩
  obtain ⟨_, _, run, rfl, rfl⟩ := works
  refine ⟨(acquire r).2.machine.device, release r₂, ?_, found, ?_, ?_, ?_, ?_, last, ?_⟩
  · unfold forControl
    refine (Procedure.run_then (a := r.core.alive) rfl).trans ?_
    rw [alive]
    exact Procedure.run_then run
  · rw [released.upkeep.core, released.modes, core₂, acquired.upkeep.core, acquired.modes]
  · rw [back, own₂, own]
  · rw [released.upkeep.plan, sound₂, sound]
  · rw [released.upkeep.device, machine₂, device]
    rfl
  · intro some
    rw [notLast some, machine₂, device]
    rfl

/-! ## Calls of a control -/

/-- An endpoint that is there, on a sound and willing device that is powered while anybody counts on
it and suspended otherwise. -/
structure Serviceable (r : VideoRig) : Prop where
  plan : r.machine.plan = .sound
  willing : r.machine.device.Willing
  alive : r.core.alive = true
  on : 0 < r.own.users → r.machine.device.power = .d0
  off : r.own.users = 0 → r.machine.device.power = .d3

/-- Asked for its value, a control answers with this one. -/
def Reads (r : VideoRig) (id : ControlId) (x : Single) : Prop :=
  ∃ r', (callProcessing id .query).run r = .finished (.ok (.value x)) r'

theorem Found.power (found : Found r d) (on : 0 < r.own.users → r.machine.device.power = .d0) :
    d.power = .d0 := by
  rcases Nat.eq_zero_or_pos r.own.users with none | some
  · exact found.first none
  · exact (found.later some).trans (on some)

/-- Taking a reference does not change what a control is set to. -/
theorem Found.control (found : Found r d) (id : ControlId) :
    d.control id = r.machine.device.control id := by
  rw [found.device]
  rfl

/-- So what a control reads is what the device keeps for it. -/
theorem Serviceable.reads (h : Serviceable r) (id : ControlId) :
    Reads r id (.ofInt .single (r.machine.device.control id)) := by
  obtain ⟨d, r', run, consulted⟩ := run_forControl h.plan h.willing h.alive id (.readControl id)
  have answer : VideoDevice.perform (.readControl id) d = (.ok (d.control id), d) :=
    VideoDevice.powered_of_on _ _ (consulted.found.power h.on)
  refine ⟨r', (Procedure.run_then run).trans ?_⟩
  rw [answer, consulted.found.control]
  rfl

/-- A control tells its range wherever the device is powered while it is counted on. -/
theorem range_answers (sound : r.machine.plan = .sound) (willing : r.machine.device.Willing)
    (alive : r.core.alive = true) (on : 0 < r.own.users → r.machine.device.power = .d0)
    (id : ControlId) : ∃ r', (callProcessing id .range).run r =
      .finished (.ok (.range (ControlBounds.of id).range)) r' := by
  obtain ⟨d, r', run, consulted⟩ := run_forControl sound willing alive id (.controlRange id)
  have answer : VideoDevice.perform (.controlRange id) d = (.ok (ControlBounds.of id).range, d) :=
    VideoDevice.powered_of_on _ _ (consulted.found.power on)
  refine ⟨r', (Procedure.run_then run).trans ?_⟩
  rw [answer]
  rfl

/-- Nowhere else does it. -/
theorem on_of_range (sound : r.machine.plan = .sound) (willing : r.machine.device.Willing)
    (alive : r.core.alive = true) {id : ControlId} {range : ControlRange}
    (ranged : (callProcessing id .range).run r = .finished (.ok (.range range)) r') :
    range = (ControlBounds.of id).range ∧
      (0 < r.own.users → r.machine.device.power = .d0) := by
  obtain ⟨d, r₁, run, consulted⟩ := run_forControl sound willing alive id (.controlRange id)
  have all := (Procedure.run_then run).symm.trans ranged
  have answer : VideoDevice.perform (.controlRange id) d =
    d.powered "processing unit range" fun d => (.ok (ControlBounds.of id).range, d) := rfl
  unfold VideoDevice.powered at answer
  split at answer
  next on =>
    rw [answer] at all
    cases all
    exact ⟨rfl, fun some => (consulted.found.later some).symm.trans on⟩
  next =>
    rw [answer] at all
    cases all

/-- A call that is about controls only leaves everything else as it was. -/
theorem Serviceable.consulted (h : Serviceable r) (consulted : Consulted r c d r')
    (controls : List (ControlId × Int)) (only : (VideoDevice.perform c d).2 = { d with controls }) :
    Serviceable r' ∧ r'.own = r.own ∧ r'.machine.device.power = r.machine.device.power ∧
      ∀ other, r'.machine.device.control other = { d with controls }.control other := by
  have power : r'.machine.device.power = r.machine.device.power := by
    rcases Nat.eq_zero_or_pos r.own.users with none | some
    · rw [consulted.last none, h.off none]
    · rw [consulted.notLast some, only]
      exact consulted.found.later some
  refine ⟨⟨consulted.plan.trans h.plan, ?_, ?_, ?_, ?_⟩, consulted.own, power, fun other => ?_⟩
  · rw [consulted.device, only, consulted.found.device]
    exact ⟨h.willing.powerOn, h.willing.commit⟩
  · rw [consulted.core]
    exact h.alive
  · rw [power, consulted.own]
    exact h.on
  · rw [power, consulted.own]
    exact h.off
  · rw [consulted.device, only]
    rfl

/-- What setting a control comes to, by whether its bounds allow the integer that it makes of the
value. -/
theorem Serviceable.run_set (h : Serviceable r) (id : ControlId) (v : Single) :
    ∃ answer r', (callProcessing id (.set v)).run r = .finished answer r' ∧ Serviceable r' ∧
      r'.own = r.own ∧ r'.machine.device.power = r.machine.device.power ∧
      (∀ other ≠ id, r'.machine.device.control other = r.machine.device.control other) ∧
      ((ControlBounds.of id).Allows (wholeValue v) →
        answer = .ok .done ∧ r'.machine.device.control id = wholeValue v) ∧
      (¬(ControlBounds.of id).Allows (wholeValue v) →
        (∃ cause, answer = .error cause) ∧
          r'.machine.device.control id = r.machine.device.control id) := by
  obtain ⟨d, r', run, consulted⟩ :=
    run_forControl h.plan h.willing h.alive id (.writeControl id (wholeValue v))
  have answered := Procedure.run_then
    (f := fun result => pure (result.map fun _ => ControlAnswer.done)) run
  obtain ⟨keeps, refuses⟩ :=
    VideoDevice.perform_writeControl id (wholeValue v) (consulted.found.power h.on)
  -- The device compares the integer, so the cases are those of the integer and not of the value.
  by_cases allowed : (ControlBounds.of id).Allows (wholeValue v)
  · have kept := keeps allowed
    obtain ⟨serviceable, own, power, controls⟩ :=
      h.consulted consulted (d.keep id (wholeValue v)).controls (by rw [kept]; rfl)
    rw [kept] at answered
    refine ⟨_, r', answered, serviceable, own, power, fun other apart => ?_, fun _ => ⟨rfl, ?_⟩,
      fun refused => absurd allowed refused⟩
    · exact (controls other).trans ((VideoDevice.control_keep_other apart).trans
        (consulted.found.control other))
    · exact (controls id).trans VideoDevice.control_keep_self
  · obtain ⟨cause, refused⟩ := refuses allowed
    obtain ⟨serviceable, own, power, controls⟩ :=
      h.consulted consulted d.controls (by rw [refused])
    rw [refused] at answered
    have same (other : ControlId) := (controls other).trans (consulted.found.control other)
    exact ⟨_, r', answered, serviceable, own, power, fun other _ => same other,
      fun absurdly => absurd absurdly allowed, fun _ => ⟨⟨cause, rfl⟩, same id⟩⟩

/-- Which calls fail is for nobody to change. -/
theorem plan_of_reaches {capacity limit : Nat} {layout : ClockLayout} {device : VideoDevice}
    {plan : FaultPlan VideoCall} {c : Crowd VideoRig}
    (h : Crowd.Reaches (fun _ => True) (unattended capacity limit layout device plan) c) :
    c.rig.machine.plan = plan :=
  Ledger.invariant_of_reaches fits_anything (I := fun r => r.machine.plan = plan)
    (fun hsees hmove hr => (hmove.plan hsees).trans hr)
    (fun x r hr => (aside_beside x r).plan.trans hr)
    (kept_unattended capacity limit layout device plan fun _ => True) rfl h

/-! ## Values and ranges -/

/-- The number that a control is set to. -/
def wholeNumber (v : Single) : Single := .ofInt .single (wholeValue v)

/-- To be in the range as a number is to be allowed as an integer. -/
theorem contains_wholeNumber (id : ControlId) (v : Single) :
    (ControlBounds.of id).range.contains (wholeNumber v) = true ↔
      (ControlBounds.of id).Allows (wholeValue v) :=
  ControlBounds.contains_ofInt (natAbs_wholeValue_lt v)

/-- A control tells its range, unless an application has cut the power under those who count on it.
Where it does, a value in the range is accepted, and the control reads the integer next to it, a
half rounded away from zero. Whether any other value is accepted depends on the integer next to it:
if that is in the range, it is what the control reads; otherwise the control refuses and reads what
it did. Either way no other control reads anything else, and the power is counted and set as
before. -/
theorem set_by_range {capacity limit : Nat} {layout : ClockLayout} {offered : List NativeMode}
    {automatic : Bool} {c : Crowd VideoRig}
    (h : Crowd.Reaches (fun _ => True)
      (unattended capacity limit layout { offered, automatic } .sound) c)
    (willing : c.rig.machine.device.Willing) (id : ControlId) :
    ((0 < c.rig.own.users → c.rig.machine.device.power = .d0) →
      ∃ range r₁, (callProcessing id .range).run c.rig = .finished (.ok (.range range)) r₁) ∧
    ∀ range r₁, (callProcessing id .range).run c.rig = .finished (.ok (.range range)) r₁ →
      ∀ v : Single, ∃ answer r', (callProcessing id (.set v)).run c.rig = .finished answer r' ∧
        (range.contains v = true → answer = .ok .done ∧
          ∃ x n y, v.Amounts x ∧ Nearest .single x n ∧ y.Amounts (n * Precision.single.one) ∧
            Reads r' id y) ∧
        (range.contains (wholeNumber v) = true →
          answer = .ok .done ∧ Reads r' id (wholeNumber v)) ∧
        (range.contains (wholeNumber v) = false →
          (∃ cause, answer = .error cause) ∧ ∃ x, Reads c.rig id x ∧ Reads r' id x) ∧
        (∀ other ≠ id, ∃ x, Reads c.rig other x ∧ Reads r' other x) ∧
        r'.own.users = c.rig.own.users ∧
        r'.machine.device.power = c.rig.machine.device.power := by
  have sound := plan_of_reaches h
  have forgiving : Forgiving (.sound : FaultPlan VideoCall) :=
    ⟨fun _ _ _ fails => (by cases fails), fun _ => rfl⟩
  obtain ⟨off, alive⟩ := off_of_reaches forgiving h
  refine ⟨fun on => ⟨_, range_answers sound willing alive on id⟩, fun range r₁ ranged v => ?_⟩
  obtain ⟨rfl, on⟩ := on_of_range sound willing alive ranged
  -- That it can tell its range is what makes the endpoint serviceable: the power is on or not
  -- needed.
  have serviceable : Serviceable c.rig := ⟨sound, willing, alive, on, off.power⟩
  obtain ⟨answer, r', run, serviceable', own, power, others, accepts, refuses⟩ :=
    serviceable.run_set id v
  have reads : Reads r' id _ := serviceable'.reads id
  refine ⟨answer, r', run, fun inside => ?_, fun inside => ?_, fun outside => ?_,
    fun other apart => ?_, congrArg VideoState.users own, power⟩
  · obtain ⟨allowed, x, amounts, nearest⟩ := nearest_wholeValue inside
    obtain ⟨done, value⟩ := accepts allowed
    rw [value] at reads
    exact ⟨done, x, _, _, amounts, nearest, ControlBounds.amounts_of_allows allowed, reads⟩
  · obtain ⟨done, value⟩ := accepts ((contains_wholeNumber id v).1 inside)
    rw [value] at reads
    exact ⟨done, reads⟩
  · obtain ⟨refused, value⟩ := refuses fun allowed => by
      rw [(contains_wholeNumber id v).2 allowed] at outside
      cases outside
    rw [value] at reads
    exact ⟨refused, _, serviceable.reads id, reads⟩
  · have unchanged := serviceable'.reads other
    rw [others other apart] at unchanged
    exact ⟨_, serviceable.reads other, unchanged⟩

/-! ## A gain beyond its range -/

/-- A new endpoint with a gain of the processing unit. -/
def amplified : Crowd VideoRig :=
  let fresh := unattended 4 4 {} { offered := [] } .sound
  { fresh with rig := (VideoAside.registerProcessing .gain).apply fresh.rig }

theorem amplified_reached :
    Crowd.Reaches (fun _ => True) (unattended 4 4 {} { offered := [] } .sound) amplified :=
  have fresh : Crowd.Reaches (fun _ => True) (unattended 4 4 {} { offered := [] } .sound)
      (unattended 4 4 {} { offered := [] } .sound) := .refl
  fresh.aside (VideoAside.registerProcessing .gain)

theorem amplified_serviceable : Serviceable amplified.rig :=
  ⟨rfl, ⟨rfl, rfl⟩, rfl, fun some => absurd some (by decide), fun _ => rfl⟩

/-- A gain of twelve and a half is in the range, and is read as thirteen afterwards. -/
theorem amplified_set :
    Crowd.Reaches (fun _ => True) (unattended 4 4 {} { offered := [] } .sound) amplified ∧
      amplified.rig.machine.device.Willing ∧
      ∃ r', (callProcessing .gain (.set (.ofRatio .single false 25 2))).run amplified.rig =
          .finished (.ok .done) r' ∧ Reads r' .gain 13 := by
  have reached := amplified_reached
  have willing := amplified_serviceable.willing
  obtain ⟨answers, sets⟩ := set_by_range reached willing .gain
  obtain ⟨range, r₁, ranged⟩ := answers amplified_serviceable.on
  obtain ⟨rfl, -⟩ := on_of_range rfl willing rfl ranged
  obtain ⟨answer, r', run, -, accepts, -⟩ := sets _ r₁ ranged (.ofRatio .single false 25 2)
  obtain ⟨rfl, reads⟩ := accepts (by decide +kernel)
  have thirteen : wholeNumber (.ofRatio .single false 25 2) = 13 := by decide +kernel
  exact ⟨reached, willing, r', run, thirteen ▸ reads⟩

/-- A gain of a hundred and twenty-eight and a quarter is not in the range, and is accepted all the
same. -/
theorem amplified_beyond_range :
    Crowd.Reaches (fun _ => True) (unattended 4 4 {} { offered := [] } .sound) amplified ∧
      amplified.rig.machine.device.Willing ∧
      ∃ range r₁ r', (callProcessing .gain .range).run amplified.rig =
          .finished (.ok (.range range)) r₁ ∧
        range.contains (.ofRatio .single false 513 4) = false ∧
        (callProcessing .gain (.set (.ofRatio .single false 513 4))).run amplified.rig =
          .finished (.ok .done) r' ∧
        Reads amplified.rig .gain 64 ∧ Reads r' .gain 128 := by
  have serviceable := amplified_serviceable
  obtain ⟨r₁, ranged⟩ :=
    range_answers serviceable.plan serviceable.willing serviceable.alive serviceable.on .gain
  obtain ⟨answer, r', run, serviceable', -, -, -, accepts, -⟩ :=
    serviceable.run_set .gain (.ofRatio .single false 513 4)
  obtain ⟨rfl, value⟩ := accepts (by decide +kernel)
  have reads := serviceable'.reads .gain
  rw [value] at reads
  have rounded : wholeNumber (.ofRatio .single false 513 4) = 128 := by decide +kernel
  exact ⟨amplified_reached, serviceable.willing, _, r₁, r', ranged, by decide +kernel, run,
    serviceable.reads .gain, rounded ▸ reads⟩

end VideoRig

end Sensing
