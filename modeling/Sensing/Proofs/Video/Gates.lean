import Sensing.Endpoint.Power
import Sensing.Proofs.Device.Calls

/-!
# Taking and giving back a power reference

Both are single steps that may call the device several times. `Steady` is what every such step
leaves as it was: all of the endpoint but its log, and all of the device but its power and events.

Main results: what taking a reference can come to (`acquire_cases`), and what giving one back does
(`release_cases`). Nobody needs to look inside the two after that.
-/

namespace Sensing

/-- Events that concern a mode. -/
def VideoEvent.isOfMode : VideoEvent → Bool
  | .committed _ | .closed _ => true
  | .powerOn | .powerOff | .unitReady _ | .streamOn | .streamOff => false

/-- A call that was made of a powered device, unless it sets the power itself. -/
def VideoCall.Sanctioned (x : VideoCall × VideoDevice) : Prop :=
  x.1.setsPower = true ∨ x.2.power = .d0

namespace VideoRig

/-! ## The line that must not be logged -/

/-- What is logged when a reference is given back that was never taken. -/
def strayRelease : LogLine := ⟨.warn, s!"{title}: power released with no users"⟩

/-- Messages that differ from it before they end. -/
def Unlike (message : String) : Prop :=
  message.toList.isPrefixOf strayRelease.message.toList = false

instance (message : String) : Decidable (Unlike message) :=
  inferInstanceAs (Decidable (_ = false))

/-- It is enough to compare the beginning, so texts with names in them can be told apart. -/
theorem Unlike.append {message : String} (h : Unlike message) (rest : String) :
    Unlike (message ++ rest) := by
  unfold Unlike at h ⊢
  rw [Bool.eq_false_iff] at h ⊢
  intro hprefix
  rw [String.toList_append] at hprefix
  exact h (List.isPrefixOf_iff_prefix.2
    ((List.prefix_append _ _).trans (List.isPrefixOf_iff_prefix.1 hprefix)))

theorem Unlike.ne {message : String} (h : Unlike message) (level : LogLevel) :
    LogLine.mk level message ≠ strayRelease := by
  intro heq
  have hmessage : message = strayRelease.message := congrArg LogLine.message heq
  unfold Unlike at h
  rw [hmessage, Bool.eq_false_iff] at h
  exact h (List.isPrefixOf_iff_prefix.2 (List.prefix_refl _))

/-- A line of another level is never that line. -/
theorem ne_strayRelease {level : LogLevel} (h : level ≠ .warn) (message : String) :
    LogLine.mk level message ≠ strayRelease :=
  fun heq => h (congrArg LogLine.level heq)

/-! ## Steady steps -/

/-- Only log, power and power events differ. The calls made meanwhile manage the power: they set it,
or found it on. -/
structure Steady (r r' : VideoRig) : Prop where
  core : ∃ ls, strayRelease ∉ ls ∧ r'.core = { r.core with log := r.core.log ++ ls }
  own : r'.own = r.own
  plan : r'.machine.plan = r.machine.plan
  journal : ∃ calls, r'.machine.journal = calls ++ r.machine.journal ∧
    ∀ x ∈ calls, x.1.managesPower = true ∧ VideoCall.Sanctioned x
  device : r'.machine.device = { r.machine.device with
    power := r'.machine.device.power
    events := r'.machine.device.events }
  events : ∃ es, r'.machine.device.events = r.machine.device.events ++ es ∧
    ∀ e ∈ es, e.isOfMode = false

theorem Steady.refl (r : VideoRig) : r.Steady r where
  core := ⟨[], List.not_mem_nil, by simp⟩
  own := rfl
  plan := rfl
  journal := ⟨[], rfl, fun _ h => nomatch h⟩
  device := rfl
  events := ⟨[], by simp, fun _ h => nomatch h⟩

/-- Lines, calls and events pile up from step to step. -/
theorem Steady.trans {r₁ r₂ r₃ : VideoRig} (h : r₁.Steady r₂) (h' : r₂.Steady r₃) :
    r₁.Steady r₃ where
  core := by
    obtain ⟨ls, hls, hcore⟩ := h.core
    obtain ⟨ls', hls', hcore'⟩ := h'.core
    refine ⟨ls ++ ls', ?_, ?_⟩
    · simp [hls, hls']
    · rw [hcore', hcore]
      simp
  own := h'.own.trans h.own
  plan := h'.plan.trans h.plan
  journal := by
    obtain ⟨calls, hjournal, hcalls⟩ := h.journal
    obtain ⟨calls', hjournal', hcalls'⟩ := h'.journal
    refine ⟨calls' ++ calls, by rw [hjournal', hjournal, List.append_assoc], ?_⟩
    intro x hx
    rcases List.mem_append.1 hx with hx | hx
    · exact hcalls' x hx
    · exact hcalls x hx
  device := by
    rw [h'.device, h.device]
  events := by
    obtain ⟨es, hevents, hes⟩ := h.events
    obtain ⟨es', hevents', hes'⟩ := h'.events
    refine ⟨es ++ es', by rw [hevents', hevents, List.append_assoc], ?_⟩
    intro e he
    rcases List.mem_append.1 he with he | he
    · exact hes e he
    · exact hes' e he

variable (r : VideoRig)

theorem steady_note {level : LogLevel} {message : String}
    (h : LogLine.mk level message ≠ strayRelease) : r.Steady (r.note level message) := by
  refine { Steady.refl r with core := ⟨[⟨level, message⟩], ?_, rfl⟩ }
  rw [List.mem_singleton]
  exact h.symm

/-- A call is steady if what the device does is. -/
theorem steady_call {c : VideoCall} (p : PowerState) (es : List VideoEvent)
    (manages : c.managesPower = true) (sanctioned : VideoCall.Sanctioned (c, r.machine.device))
    (device : (VideoDevice.perform c r.machine.device).2 = { r.machine.device with
      power := p
      events := r.machine.device.events ++ es })
    (events : ∀ e ∈ es, e.isOfMode = false) : r.Steady (r.call c).2 where
  core := ⟨[], List.not_mem_nil, by simp [Rig.call]⟩
  own := rfl
  plan := Machine.call_plan r.machine c
  journal := by
    refine ⟨[(c, r.machine.device)], Machine.call_journal r.machine c, ?_⟩
    intro x hx
    rw [List.mem_singleton.1 hx]
    exact ⟨manages, sanctioned⟩
  device := by
    show (r.machine.call c).2.device = { r.machine.device with
      power := (r.machine.call c).2.device.power
      events := (r.machine.call c).2.device.events }
    rcases Machine.call_device r.machine c with h | h
    · rw [h]
    · rw [h]
      show (VideoDevice.perform c r.machine.device).2 = { r.machine.device with
        power := (VideoDevice.perform c r.machine.device).2.power
        events := (VideoDevice.perform c r.machine.device).2.events }
      rw [device]
  events := by
    show ∃ es, (r.machine.call c).2.device.events = r.machine.device.events ++ es ∧ _
    -- A call may fail without effect, and then there are no events.
    rcases Machine.call_device r.machine c with h | h
    · exact ⟨[], by rw [h, List.append_nil], fun _ h => nomatch h⟩
    · refine ⟨es, ?_, events⟩
      rw [h]
      show (VideoDevice.perform c r.machine.device).2.events = _
      rw [device]

theorem steady_setPower (p : PowerState) : r.Steady (r.call (.setPower p)).2 := by
  rcases VideoDevice.perform_cases (d := r.machine.device) (.setPower p) with
    ⟨_, granted⟩ | ⟨_, refused⟩
  · refine steady_call r p [p.event] rfl (.inl rfl) (congrArg Prod.snd granted) ?_
    cases p <;> simp [PowerState.event, VideoEvent.isOfMode]
  · refine steady_call r r.machine.device.power [] rfl (.inl rfl) ?_ fun _ h => nomatch h
    rw [refused, List.append_nil]
    rfl

theorem steady_initUnit (u : ExtensionUnit) (on : r.machine.device.power = .d0) :
    r.Steady (r.call (.initUnit u)).2 := by
  refine steady_call r .d0 [.unitReady u] rfl (.inr on) ?_ (by simp [VideoEvent.isOfMode])
  rw [VideoDevice.perform_initUnit u on, ← on]
  rfl

variable {r}

/-! ## Power -/

/-- Calls that set no power leave it as it is, whether they fail or not. -/
theorem power_of_call {c : VideoCall} (h : c.setsPower = false) :
    (r.call c).2.machine.device.power = r.machine.device.power :=
  Machine.call_keeps VideoDevice.power (VideoDevice.perform_power h)

/-- Setting the power that succeeds sets it. -/
theorem power_of_setPower {p : PowerState} {a : Unit} (h : (r.call (.setPower p)).1 = .ok a) :
    (r.call (.setPower p)).2.machine.device.power = p :=
  congrArg VideoDevice.power (Machine.call_granted h)

/-- Powering off, where that never fails. -/
theorem power_of_spared (h : r.machine.plan.Spares (.setPower .d3)) :
    (r.call (.setPower .d3)).2.machine.device.power = .d3 :=
  congrArg VideoDevice.power (Machine.call_of_sound (h _)).2

/-- Powering on that fails, where no failing call takes effect. -/
theorem power_of_setPower_error (late : r.machine.plan.NeverLate) {cause : Cause}
    (h : (r.call (.setPower .d0)).1 = .error cause) :
    (r.call (.setPower .d0)).2.machine.device.power = r.machine.device.power := by
  rcases Machine.call_of_early (late.early (.setPower .d0)) (fun h => nomatch h) with
    ⟨_, ok, -⟩ | ⟨_, -, same⟩
  · cases h.symm.trans ok
  · exact congrArg VideoDevice.power same

/-! ## The parts of powering up and down -/

/-- The fault schedules under which powering down always works and a failure undoes itself. -/
structure Forgiving (plan : FaultPlan VideoCall) : Prop where
  late : plan.NeverLate
  powerOff : plan.Spares (.setPower .d3)

variable (r)

theorem abandonPower_steady : r.Steady (abandonPower r) := by
  have hcall := steady_setPower r .d3
  unfold abandonPower
  split
  next r₁ h =>
    rw [h] at hcall
    exact hcall
  next cause r₁ h =>
    rw [h] at hcall
    exact hcall.trans (steady_note r₁ (((by decide : Unlike _)).append _ |>.ne _))

theorem abandonPower_power (h : r.machine.plan.Spares (.setPower .d3)) :
    (abandonPower r).machine.device.power = .d3 := by
  have hcall := power_of_spared h
  unfold abandonPower
  split
  next r₁ hr =>
    rw [hr] at hcall
    exact hcall
  next cause r₁ hr =>
    rw [hr] at hcall
    exact hcall

/-- Initialising units finds the device powered and, where a unit fails, powers it down. -/
theorem initUnits_cases (us : List ExtensionUnit) (on : r.machine.device.power = .d0) :
    r.Steady (initUnits us r).2 ∧
      ((initUnits us r).1 = .ok () ∧ (initUnits us r).2.machine.device.power = .d0 ∨
        (∃ detail, (initUnits us r).1 = .error (.power detail)) ∧
          (r.machine.plan.Spares (.setPower .d3) →
            (initUnits us r).2.machine.device.power = .d3)) := by
  induction us generalizing r with
  | nil => exact ⟨Steady.refl r, .inl ⟨rfl, on⟩⟩
  | cons u us ih =>
    have hcall := steady_initUnit r u on
    have hpower : (r.call (.initUnit u)).2.machine.device.power = .d0 :=
      (power_of_call rfl).trans on
    unfold initUnits
    split
    next r₁ hr =>
      rw [hr] at hcall hpower
      obtain ⟨hsteady, hcases⟩ := ih r₁ hpower
      rw [hcall.plan] at hcases
      exact ⟨hcall.trans hsteady, hcases⟩
    next cause r₁ hr =>
      -- The device is still powered here, and is powered down on the way out.
      rw [hr] at hcall
      refine ⟨hcall.trans (abandonPower_steady r₁), .inr ⟨⟨_, rfl⟩, ?_⟩⟩
      intro spared
      rw [← hcall.plan] at spared
      exact abandonPower_power r₁ spared

/-- Powering up leaves the device powered or fails, and then it is off again if a failure undoes
itself. -/
theorem powerUp_cases :
    r.Steady (powerUp r).2 ∧
      ((powerUp r).1 = .ok () ∧ (powerUp r).2.machine.device.power = .d0 ∨
        (∃ detail, (powerUp r).1 = .error (.power detail)) ∧
          (Forgiving r.machine.plan → r.machine.device.power = .d3 →
            (powerUp r).2.machine.device.power = .d3)) := by
  have hcall := steady_setPower r .d0
  unfold powerUp
  split
  -- The device may fail to be powered, or one of its units to be initialised, which powers it down.
  next cause r₁ hr =>
    refine ⟨by rw [hr] at hcall; exact hcall, .inr ⟨⟨_, rfl⟩, ?_⟩⟩
    intro forgiving off
    have hpower := power_of_setPower_error forgiving.late (congrArg Prod.fst hr)
    rw [hr] at hpower
    exact hpower.trans off
  next r₁ hr =>
    have on := power_of_setPower (congrArg Prod.fst hr)
    rw [hr] at hcall on
    obtain ⟨hsteady, hcases⟩ := initUnits_cases r₁ r₁.own.units on
    split
    next e r₂ hr₂ =>
      rw [hr₂] at hsteady hcases
      refine ⟨hcall.trans hsteady, .inr ?_⟩
      rcases hcases with ⟨hok, -⟩ | ⟨herror, hoff⟩
      · cases hok
      · refine ⟨herror, fun forgiving _ => hoff ?_⟩
        rw [hcall.plan]
        exact forgiving.powerOff
    next r₂ hr₂ =>
      rw [hr₂] at hsteady hcases
      have hup : r.Steady r₂ := hcall.trans hsteady
      refine ⟨hup.trans (steady_note r₂ (ne_strayRelease (by decide) _)), .inl ⟨rfl, ?_⟩⟩
      rcases hcases with ⟨-, hon⟩ | ⟨⟨_, herror⟩, -⟩
      · exact hon
      · cases herror

/-- Powering down. -/
theorem powerDown_cases :
    r.Steady (powerDown r) ∧
      (r.machine.plan.Spares (.setPower .d3) → (powerDown r).machine.device.power = .d3) := by
  have hcall := steady_setPower r .d3
  have hpower := power_of_spared (r := r)
  unfold powerDown
  split
  next r₁ hr =>
    rw [hr] at hcall hpower
    exact ⟨hcall.trans (steady_note r₁ (ne_strayRelease (by decide) _)), hpower⟩
  next cause r₁ hr =>
    rw [hr] at hcall hpower
    exact ⟨hcall.trans (steady_note r₁ (((by decide : Unlike _)).append _ |>.ne _)), hpower⟩

/-! ## References -/

/-- Taking a reference counts one more user, after powering the device up if it is the first; or it
fails, and then the count is as before. -/
theorem acquire_cases :
    (0 < r.own.users ∧ acquire r = (.ok (), addUser r)) ∨
    (r.own.users = 0 ∧ ∃ r₁, r.Steady r₁ ∧ r₁.machine.device.power = .d0 ∧
      acquire r = (.ok (), addUser r₁)) ∨
    (r.own.users = 0 ∧ ∃ r₁ detail, r.Steady r₁ ∧ acquire r = (.error (.power detail), r₁) ∧
      (Forgiving r.machine.plan → r.machine.device.power = .d3 →
        r₁.machine.device.power = .d3)) := by
  obtain ⟨hsteady, hcases⟩ := powerUp_cases r
  unfold acquire
  split
  next husers =>
    refine .inr ?_
    split
    next e r₁ hr =>
      rw [hr] at hsteady hcases
      rcases hcases with ⟨hok, -⟩ | ⟨⟨detail, herror⟩, hoff⟩
      · cases hok
      · cases herror
        exact .inr ⟨husers, r₁, detail, hsteady, rfl, hoff⟩
    next r₁ hr =>
      rw [hr] at hsteady hcases
      rcases hcases with ⟨-, hon⟩ | ⟨⟨_, herror⟩, -⟩
      · exact .inl ⟨husers, r₁, hsteady, hon, rfl⟩
      · cases herror
  next husers => exact .inl ⟨Nat.pos_of_ne_zero husers, rfl⟩

variable {r}

/-- Whoever gets a reference is one user more, and the device is powered from the first one on. -/
theorem acquire_ok (ok : (acquire r).1 = .ok ()) :
    ∃ r₁, (acquire r).2 = addUser r₁ ∧ r.Steady r₁ ∧ (0 < r.own.users → r₁ = r) ∧
      (r.own.users = 0 → r₁.machine.device.power = .d0) := by
  rcases acquire_cases r with ⟨some, h⟩ | ⟨none, r₁, hsteady, on, h⟩ | ⟨-, r₁, _, -, h, -⟩
  · rw [h]
    exact ⟨r, rfl, Steady.refl r, fun _ => rfl, fun none => absurd none (Nat.ne_of_gt some)⟩
  · rw [h]
    exact ⟨r₁, rfl, hsteady, fun some => absurd none (Nat.ne_of_gt some), fun _ => on⟩
  · rw [h] at ok
    cases ok

/-- Only the first reference can be refused. -/
theorem acquire_error {e : EndpointError} (error : (acquire r).1 = .error e) :
    r.own.users = 0 ∧ r.Steady (acquire r).2 ∧ (∃ detail, e = .power detail) ∧
      (Forgiving r.machine.plan → r.machine.device.power = .d3 →
        (acquire r).2.machine.device.power = .d3) := by
  rcases acquire_cases r with ⟨-, h⟩ | ⟨-, r₁, -, -, h⟩ | ⟨none, r₁, detail, hsteady, h, hoff⟩
  · rw [h] at error
    cases error
  · rw [h] at error
    cases error
  · rw [h] at error ⊢
    cases error
    exact ⟨none, hsteady, ⟨detail, rfl⟩, hoff⟩

variable (r)

/-- The same rig with a number of users. -/
def withUsers (n : Nat) : VideoRig := { r with own := { r.own with users := n } }

variable {r}

/-- Giving a reference back counts one user less and powers the device down if it was the last. -/
theorem release_cases {n : Nat} (alive : r.core.alive = true) (users : r.own.users = n + 1) :
    (0 < n ∧ release r = r.withUsers n) ∨
    (n = 0 ∧ (r.withUsers 0).Steady (release r) ∧
      (r.machine.plan.Spares (.setPower .d3) → (release r).machine.device.power = .d3)) := by
  unfold release
  rw [alive, users]
  cases n with
  | zero => exact .inr ⟨rfl, powerDown_cases (r.withUsers 0)⟩
  | succ n => exact .inl ⟨Nat.succ_pos n, rfl⟩

end VideoRig

end Sensing
