import Sensing.Proofs.Clients.Answers
import Sensing.Proofs.Device.Calls
import Sensing.Proofs.Motion.Callbacks

/-!
# Where a motion endpoint and its device stand

A motion device is opened and closed, and told to capture and to stop, by the client with the
configuration lock and by nobody else. So that client knows all that matters about the device at
each of its steps: whether it is open, whether it captures, and everything it has recorded
(`MotionStanding`). `MotionStanding.called` is what a call makes of it.

The device turns a call down only if it is not open when it should be, or is asked for a sensor it
does not have. A client who knows better makes no such call (`MotionStanding.Allows`), so a call
fails only where the fault schedule makes it fail (`MotionStanding.Describes.call`). That no call
was ever turned down is known of the whole journal.
-/

namespace Sensing

/-- The fault schedules under which opening the device and starting to capture take no effect where
they fail, and stopping and closing do not fail. -/
structure Amenable (plan : FaultPlan MotionCall) : Prop where
  openDevice : plan.Early .openDevice
  startCapture : ∀ rates sink, plan.Early (.startCapture rates sink)
  stopCapture : plan.Spares .stopCapture
  closeDevice : plan.Spares .closeDevice

/-- Where nothing is made to fail, nothing fails too late. -/
theorem amenable_sound : Amenable .sound :=
  ⟨(fun _ _ h => nomatch h), (fun _ _ _ _ h => nomatch h), fun _ => rfl, fun _ => rfl⟩

/-- A call that the device does not turn down as it finds it. -/
def MotionCall.Granted (x : MotionCall × MotionDevice) : Prop :=
  ∃ a, (MotionDevice.perform x.1 x.2).1 = .ok a

/-- A rate is for a sensor that there is. -/
def SensorRate.Present (sensors : List Sensor) (rate : SensorRate) : Prop :=
  ∃ s ∈ sensors, s.iio = rate.iio

namespace MotionDevice

/-- An open device does what it is asked. -/
theorem whileOpen_of_open {α : Type} {d : MotionDevice} (opened : d.opened = true) (what : String)
    (act : MotionDevice → Except Cause α × MotionDevice) : d.whileOpen what act = act d := by
  unfold whileOpen
  rw [if_pos opened]

/-- Sensors that there are can be selected. -/
theorem selection_of_present {d : MotionDevice} {rates : List SensorRate}
    (present : ∀ rate ∈ rates, rate.Present d.sensors) :
    ∃ selected, d.selection rates = .ok selected ∧
      selected.map Sensor.iio = rates.map SensorRate.iio := by
  induction rates with
  | nil => exact ⟨[], rfl, rfl⟩
  | cons rate rates ih =>
    obtain ⟨⟨s, isSensor, same⟩, others⟩ := List.forall_mem_cons.1 present
    obtain ⟨selected, rest, iios⟩ := ih others
    obtain ⟨found, hfound⟩ : ∃ found, d.sensors.find? (fun s => s.iio = rate.iio) = some found :=
      Option.isSome_iff_exists.1 (List.find?_isSome.2 ⟨s, isSensor, decide_eq_true same⟩)
    have iio : found.iio = rate.iio := by simpa using List.find?_some hfound
    have first : d.sensorAt rate.iio = .ok found := by
      unfold sensorAt
      rw [hfound]
    refine ⟨found :: selected, ?_, by rw [List.map_cons, List.map_cons, iio, iios]⟩
    unfold selection at rest ⊢
    rw [List.mapM_cons, first, rest]
    rfl

end MotionDevice

/-- What a motion endpoint and its device have come to. -/
structure MotionStanding where
  phase : Phase
  /-- The sensors that the endpoint knows of. -/
  known : List Sensor
  configured : List SensorRate
  /-- Whether the device is open. -/
  opened : Bool
  capturing : Bool
  /-- All that the device has recorded. -/
  events : List MotionEvent

namespace MotionStanding

/-- This is where an endpoint stands on a device with these sensors, whose calls fail by this plan
and were never turned down. -/
structure Describes (plan : FaultPlan MotionCall) (sensors : List Sensor) (v : MotionStanding)
    (r : MotionRig) : Prop where
  plan : r.machine.plan = plan
  sensors : r.machine.device.sensors = sensors
  granted : ∀ call ∈ r.machine.journal, MotionCall.Granted call
  phase : r.core.InPhase v.phase
  known : r.own.sensors = v.known
  configured : r.own.configured = v.configured
  opened : r.machine.device.opened = v.opened
  capturing : r.machine.device.capture.isSome = v.capturing
  events : r.machine.device.events = v.events

/-- What a call comes to. -/
def called : MotionCall → MotionStanding → MotionStanding
  | .openDevice, v => { v with opened := true, events := v.events ++ [.opened] }
  | .closeDevice, v => { v with opened := false, events := v.events ++ [.closed] }
  | .listSensors, v => v
  | .startCapture rates _, v =>
    { v with capturing := true, events := v.events ++ [.captureOn (rates.map SensorRate.iio)] }
  | .stopCapture, v => { v with capturing := false, events := v.events ++ [.captureOff] }

/-- The calls that the device does not turn down. -/
def Allows (sensors : List Sensor) (v : MotionStanding) : MotionCall → Prop
  | .listSensors => v.opened = true
  | .startCapture rates _ => v.opened = true ∧ ∀ rate ∈ rates, rate.Present sensors
  | .openDevice | .closeDevice | .stopCapture => True

variable {plan : FaultPlan MotionCall} {sensors : List Sensor} {v : MotionStanding} {r : MotionRig}

/-! ## Calls -/

/-- A call that is allowed is granted, and the device does what it is asked. -/
theorem Describes.granting (known : v.Describes plan sensors r) {c : MotionCall}
    (allowed : v.Allows sensors c) : MotionCall.Granted (c, r.machine.device) ∧
      (∀ d, d = (MotionDevice.perform c r.machine.device).2 → d.sensors = sensors ∧
        d.opened = (v.called c).opened ∧ d.capture.isSome = (v.called c).capturing ∧
        d.events = (v.called c).events) := by
  obtain ⟨-, hsensors, -, -, -, -, hopened, hcapturing, hevents⟩ := known
  cases c with
  | openDevice | closeDevice | stopCapture =>
    refine ⟨⟨(), rfl⟩, ?_⟩
    rintro _ rfl
    simp [MotionDevice.perform, MotionDevice.record, called, *]
  | listSensors =>
    have asked : MotionDevice.perform .listSensors r.machine.device = _ :=
      MotionDevice.whileOpen_of_open (hopened.trans allowed) _ _
    unfold MotionCall.Granted
    rw [asked]
    refine ⟨⟨_, rfl⟩, ?_⟩
    rintro _ rfl
    exact ⟨hsensors, hopened, hcapturing, hevents⟩
  | startCapture rates sink =>
    obtain ⟨isOpen, present⟩ := allowed
    rw [← hsensors] at present
    -- The rates are for sensors that there are, so a selection of them is found.
    obtain ⟨selected, chosen, iios⟩ := MotionDevice.selection_of_present present
    have asked : MotionDevice.perform (.startCapture rates sink) r.machine.device = _ :=
      MotionDevice.whileOpen_of_open (hopened.trans isOpen) _ _
    unfold MotionCall.Granted
    rw [asked]
    unfold MotionDevice.startCapture
    rw [chosen]
    refine ⟨⟨(), rfl⟩, ?_⟩
    rintro _ rfl
    simp [MotionDevice.record, called, *]

/-- The device has done what it was asked. -/
theorem Describes.done (known : v.Describes plan sensors r) {c : MotionCall}
    (allowed : v.Allows sensors c)
    (device : (r.call c).2.machine.device = (MotionDevice.perform c r.machine.device).2) :
    (v.called c).Describes plan sensors (r.call c).2 := by
  obtain ⟨granted, does⟩ := known.granting allowed
  obtain ⟨hsensors, hopened, hcapturing, hevents⟩ := does _ device
  refine ⟨(Machine.call_plan r.machine c).trans known.plan, hsensors, ?_, ?_, ?_, ?_, hopened,
    hcapturing, hevents⟩
  · intro call made
    rw [Rig.call_machine, Machine.call_journal] at made
    rcases List.mem_cons.1 made with rfl | before
    · exact granted
    · exact known.granted call before
  · cases c <;> exact known.phase
  · cases c <;> exact known.known
  · cases c <;> exact known.configured

/-- A call has come to nothing. -/
theorem Describes.failed (known : v.Describes plan sensors r) {c : MotionCall}
    (allowed : v.Allows sensors c) (device : (r.call c).2.machine.device = r.machine.device) :
    v.Describes plan sensors (r.call c).2 := by
  refine ⟨(Machine.call_plan r.machine c).trans known.plan, ?_, ?_, known.phase, known.known,
    known.configured, ?_, ?_, ?_⟩
  · rw [device, known.sensors]
  · intro call made
    rw [Rig.call_machine, Machine.call_journal] at made
    rcases List.mem_cons.1 made with rfl | before
    · exact (known.granting allowed).1
    · exact known.granted call before
  · rw [device, known.opened]
  · rw [device, known.capturing]
  · rw [device, known.events]

/-- A call that takes no effect where it fails, which it does only if it is made to. -/
theorem Describes.call (known : v.Describes plan sensors r) {c : MotionCall}
    (allowed : v.Allows sensors c) (early : plan.Early c) :
    ((∃ a, (r.call c).1 = .ok a) ∧ (v.called c).Describes plan sensors (r.call c).2) ∨
      plan ≠ .sound ∧ (∃ cause, (r.call c).1 = .error cause) ∧
        v.Describes plan sensors (r.call c).2 := by
  rcases Machine.call_early (known.plan.symm ▸ early) with ⟨answer, device⟩ | ⟨faulty, error, same⟩
  · obtain ⟨a, granted⟩ := (known.granting allowed).1
    exact .inl ⟨⟨a, answer.trans granted⟩, known.done allowed device⟩
  · exact .inr ⟨known.plan ▸ faulty, error, known.failed allowed same⟩

end MotionStanding

namespace MotionRig

/-! ## Steps that change none of it -/

/-- The endpoint and its device stand where they stood. -/
structure Unmoved (r r' : MotionRig) : Prop where
  core : ∀ {p : Phase}, r.core.InPhase p → r'.core.InPhase p
  own : r'.own = r.own
  plan : r'.machine.plan = r.machine.plan
  journal : r'.machine.journal = r.machine.journal
  sensors : r'.machine.device.sensors = r.machine.device.sensors
  opened : r'.machine.device.opened = r.machine.device.opened
  capturing : r'.machine.device.capture.isSome = r.machine.device.capture.isSome
  events : r'.machine.device.events = r.machine.device.events

/-- Who does not move in one stretch nor in the next stands where it stood. -/
theorem Unmoved.trans {r₁ r₂ r₃ : MotionRig} (h : r₁.Unmoved r₂) (h' : r₂.Unmoved r₃) :
    r₁.Unmoved r₃ :=
  ⟨fun hp => h'.core (h.core hp), h'.own.trans h.own, h'.plan.trans h.plan,
    h'.journal.trans h.journal, h'.sensors.trans h.sensors, h'.opened.trans h.opened,
    h'.capturing.trans h.capturing, h'.events.trans h.events⟩

/-- A calm change of the shared state. -/
theorem unmoved_calm {f : Core → Core} (calm : ∀ c : Core, c.Calm (f c)) (r : MotionRig) :
    r.Unmoved (r.mapCore f) :=
  ⟨(calm r.core).inPhase, rfl, rfl, rfl, rfl, rfl, rfl, rfl⟩

/-- A sample moves nobody, -/
theorem sample_unmoved (s : Sensor) (data : Bytes) (r : MotionRig) :
    r.Unmoved (sample s data r) := by
  have calm := sample_calm s data r
  unfold sample at calm ⊢
  split
  next => exact ⟨id, rfl, rfl, rfl, rfl, rfl, rfl, rfl⟩
  next => exact ⟨id, rfl, rfl, rfl, rfl, rfl, rfl, rfl⟩
  next selected frequency counts capturing =>
    simp only [capturing] at calm
    refine ⟨calm.inPhase, rfl, rfl, rfl, rfl, rfl, ?_, rfl⟩
    rw [capturing]
    rfl

/-- nor does any aside. -/
theorem aside_unmoved (x : MotionAside) (r : MotionRig) : r.Unmoved (x.apply r) := by
  have still (r : MotionRig) : r.Unmoved r := ⟨id, rfl, rfl, rfl, rfl, rfl, rfl, rfl⟩
  have sampled (s : Sensor) (data : Bytes) (r' : MotionRig) (before : r.Unmoved r') :
      r.Unmoved (sample s data r') := before.trans (sample_unmoved s data r')
  cases x with
  | core x => exact unmoved_calm x.calm r
  | deliver name data => exact deliver_induction sampled name data (still r)
  | nextRound =>
    exact nextRound_induction sampled
      (fun r' before => before.trans ⟨id, rfl, rfl, rfl, rfl, rfl, rfl, rfl⟩) (still r)

variable (plan : FaultPlan MotionCall) (sensors : List Sensor)

/-- What the client with the lock knows of the device. -/
def standing : Knowledge MotionRig MotionStanding where
  tells v r := v.Describes plan sensors r
  holds _ := True

variable {plan sensors} {v : MotionStanding}

/-- What moves nobody spares what is known. -/
theorem Unmoved.spares {r r' : MotionRig} (h : r.Unmoved r') :
    (standing plan sensors).Spares r r' :=
  fun _ known => ⟨h.plan.trans known.plan, h.sensors.trans known.sensors, h.journal ▸ known.granted,
    h.core known.phase, h.own ▸ known.known, h.own ▸ known.configured, h.opened.trans known.opened,
    h.capturing.trans known.capturing, h.events.trans known.events⟩

/-- Logging, filling the cache and asking spare it as well. -/
theorem standing_reads : (standing plan sensors).Reads fun _ => True where
  log _ _ :=
    Unmoved.spares ⟨(fun hp => ⟨hp.opened, hp.streaming⟩), rfl, rfl, rfl, rfl, rfl, rfl, rfl⟩
  cached _ _ := trivial
  fill _ _ _ :=
    Unmoved.spares ⟨(fun hp => ⟨hp.opened, hp.streaming⟩), rfl, rfl, rfl, rfl, rfl, rfl, rfl⟩

/-! ## Single steps of the client with the lock -/

/-- A call is granted, or made to fail without effect. -/
theorem requests {c : MotionCall} (allowed : v.Allows sensors c) (early : plan.Early c) :
    (Rig.request c : Work MotionRig _).Follows (standing plan sensors).holding
      (Sure fun a u => (∃ b, a = .ok b) ∧ u = v.called c ∨
        plan ≠ .sound ∧ (∃ e, a = .error e) ∧ u = v) (some v) := by
  refine Knowledge.turns_request fun r _ known _ => ?_
  rcases known.call allowed early with ⟨⟨a, ok⟩, called⟩ | ⟨faulty, ⟨cause, error⟩, same⟩
  · refine ⟨_, called, .inl ⟨⟨a, ?_⟩, rfl⟩⟩
    rw [ok]
    rfl
  · refine ⟨v, same, .inr ⟨faulty, ⟨.ofCause cause, ?_⟩, rfl⟩⟩
    rw [error]
    rfl

/-- A call that is not made to fail. -/
theorem attempts {c : MotionCall} (allowed : v.Allows sensors c) (spares : plan.Spares c) :
    (Rig.attempt c : Procedure MotionRig _).Follows (standing plan sensors).holding
      (Sure fun a u => (∃ b, a = .ok b) ∧ u = v.called c) (some v) := by
  refine Knowledge.turns_attempt fun r _ known _ => ?_
  obtain ⟨answer, device⟩ := Machine.call_of_sound (m := r.machine) (c := c)
    (known.plan.symm ▸ spares _)
  obtain ⟨a, granted⟩ := (known.granting allowed).1
  exact ⟨_, known.done allowed device, ⟨a, answer.trans granted⟩, rfl⟩

/-- A step of the endpoint itself. -/
theorem turns_own {f : MotionRig → MotionRig} {p : Phase} {known : List Sensor}
    {configured : List SensorRate} (machine : ∀ r, (f r).machine = r.machine)
    (core : ∀ r : MotionRig, r.core.InPhase v.phase → (f r).core.InPhase p)
    (own : ∀ r : MotionRig, v.Describes plan sensors r →
      (f r).own.sensors = known ∧ (f r).own.configured = configured) :
    (Procedure.change f).Follows (standing plan sensors).holding
      (Sure fun _ u => u = { v with phase := p, known, configured }) (some v) := by
  refine Knowledge.turns_change fun r _ known => ?_
  obtain ⟨knows, rates⟩ := own r known
  obtain ⟨hplan, hsensors, granted, phase, -, -, opened, capturing, events⟩ := known
  rw [← machine] at hplan hsensors granted opened capturing events
  exact ⟨hplan, hsensors, granted, core r phase, knows, rates, opened, capturing, events⟩

end MotionRig

end Sensing
