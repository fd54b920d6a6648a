import Sensing.Proofs.Device.Calls
import Sensing.Proofs.Motion.Callbacks
import Sensing.Proofs.Motion.Feeds

/-!
# What a motion endpoint has captured for it

Everything that a motion endpoint does with sensors goes back to those it found when it was
constructed: the modes that it caches, the sensors that it configures, those that it has captured.
`Fitted` says so; it holds at all times, under every fault schedule.

While the endpoint streams, somebody listens, and what the device captures is for the configuration
there is. How the endpoint looks to the client with the configuration lock (`CaptureView`) others
leave as it is.

A capture is *live* while the endpoint streams, and from the moment it began. The counts of a live
capture go up with the samples only; a capture begins with none (`Counted`). Main results: what
calls keep of all this (`Fitted.call`, `counted_call`), and what samples do (`aside_recounts`).
-/

namespace Sensing

def MotionEvent.begins : MotionEvent → Bool
  | .captureOn _ => true
  | _ => false

/-- Whether the last thing that the device did was to begin to capture. -/
def MotionDevice.begun (d : MotionDevice) : Bool := d.events.getLast?.any MotionEvent.begins

/-- Calls that leave what is captured as it is, or end it. -/
def MotionCall.isQuiet : MotionCall → Bool
  | .startCapture _ _ => false
  | _ => true

namespace MotionDevice

variable {d : MotionDevice} {c : MotionCall}

/-- What was recorded last tells whether a capture has just begun. -/
theorem begun_record (e : MotionEvent) : (d.record e).begun = e.begins := by
  unfold begun record
  rw [List.getLast?_concat]
  rfl

/-- What a quiet call comes to. -/
theorem perform_quiet (quiet : c.isQuiet = true) :
    (perform c d).2.sensors = d.sensors ∧
      ((perform c d).2.capture = d.capture ∨ (perform c d).2.capture = none) ∧
      ((perform c d).2.begun = true → d.begun = true) := by
  cases c with
  | startCapture => cases quiet
  | openDevice | closeDevice =>
    refine ⟨rfl, .inl rfl, fun now => ?_⟩
    cases (begun_record _).symm.trans now
  | stopCapture =>
    refine ⟨rfl, .inr rfl, fun now => ?_⟩
    cases (begun_record _).symm.trans now
  | listSensors =>
    have same : (perform .listSensors d).2 = d := by
      show (d.whileOpen _ _).2 = d
      unfold whileOpen
      split <;> rfl
    rw [same]
    exact ⟨rfl, .inl rfl, id⟩

/-- A capture begins, or the device is as it was. -/
theorem perform_startCapture (rates : List SensorRate) (sink : MotionSink) :
    (∃ cause, perform (.startCapture rates sink) d = (.error cause, d)) ∨
      ∃ selected, d.selection rates = .ok selected ∧
        perform (.startCapture rates sink) d = (.ok (),
          { d with capture := some (selected, sink), rounds := 0 }.record
            (.captureOn (selected.map Sensor.iio))) := by
  have asked : perform (.startCapture rates sink) d =
      d.whileOpen "start capture" (startCapture rates sink) := rfl
  rw [asked]
  unfold whileOpen startCapture
  split
  · cases d.selection rates with
    | error cause => exact .inl ⟨cause, rfl⟩
    | ok selected => exact .inr ⟨selected, rfl, rfl⟩
  · exact .inl ⟨_, rfl⟩

end MotionDevice

/-- How a motion endpoint looks to the client with the lock. -/
structure CaptureView where
  own : MotionState
  streaming : Bool
  /-- Whether there is a callback. -/
  listening : Bool
  begun : Bool
  /-- The sensors that are captured. -/
  selected : Option (List Sensor)

namespace MotionRig

/-- These sensors are captured for these routes. -/
def Selects (sensors : List Sensor) (frequency : UInt32) (routes : List Route)
    (selected : List Sensor) : Prop :=
  ∃ rates, ratesFor sensors frequency routes = .ok rates ∧
    MotionDevice.selection { sensors } rates = .ok selected

def view (r : MotionRig) : CaptureView where
  own := r.own
  streaming := r.core.streaming
  listening := r.core.registered.isSome
  begun := r.machine.device.begun
  selected := r.machine.device.capture.map (·.1)

/-- While the endpoint streams there is a callback, and what is captured is for the present
configuration. -/
def Attended (sensors : List Sensor) (frequency : UInt32) (v : CaptureView) : Prop :=
  v.streaming = true → v.listening = true ∧
    ∀ selected ∈ v.selected, Selects sensors frequency v.own.configuration selected

/-- All that an endpoint does with sensors goes back to those that it found, which are the
device's. -/
structure Fitted (sensors : List Sensor) (frequency : UInt32) (r : MotionRig) : Prop where
  known : r.own.sensors = sensors
  rate : r.own.frequency = frequency
  offers : r.machine.device.sensors = sensors
  cached : ∀ modes, r.core.modes.value = some modes → modes = sensedModes sensors
  /-- Requests were routed to the configuration. -/
  routed : ∃ formats modes requests, Route.Sound formats modes requests r.own.configuration
  configured : ratesFor sensors frequency r.own.configuration = .ok r.own.configured
  captured : ∀ selected sink, r.machine.device.capture = some (selected, sink) →
    ∃ routes counts, Selects sensors frequency routes selected ∧ sink = .counting frequency counts
  attended : Attended sensors frequency r.view

/-- Whether what is captured is for the endpoint's present session, or for the one that begins. -/
def live (r : MotionRig) : Bool := r.core.streaming || r.machine.device.begun

/-- A live capture counts as it did, or begins to count. -/
def Counted (r r' : MotionRig) : Prop :=
  ∀ selected sink, r'.live = true → r'.machine.device.capture = some (selected, sink) →
    r.live = true ∧ r.machine.device.capture = some (selected, sink) ∨
      r.live = false ∧ ∃ frequency, sink = .counting frequency []

variable {sensors : List Sensor} {frequency : UInt32} {r r' : MotionRig}

/-! ## Steps that leave the device alone -/

/-- Where the device is as it was, and nothing has become live, all counts go on. -/
theorem counted_of_same (device : r'.machine.device = r.machine.device)
    (live : r'.live = true → r.live = true) : r.Counted r' := by
  intro selected sink now captured
  rw [device] at captured
  exact .inl ⟨live now, captured⟩

/-- An endpoint that does not stream needs no one to listen. -/
theorem attended_of_stopped {v : CaptureView} (stopped : v.streaming = false) :
    Attended sensors frequency v := by
  intro streaming
  rw [stopped] at streaming
  cases streaming

/-- A change of the shared state, seen from the sensors. -/
theorem Fitted.of_core (h : r.Fitted sensors frequency) (own : r'.own = r.own)
    (machine : r'.machine = r.machine)
    (cached : ∀ modes, r'.core.modes.value = some modes → modes = sensedModes sensors)
    (attended : Attended sensors frequency r'.view) : r'.Fitted sensors frequency := by
  obtain ⟨core, _, _⟩ := r'
  cases own
  cases machine
  exact ⟨h.known, h.rate, h.offers, cached, h.routed, h.configured, h.captured, attended⟩

/-- Somebody logs, or caches the modes. -/
structure Aloof (sensors : List Sensor) (r r' : MotionRig) : Prop where
  machine : r'.machine = r.machine
  view : r'.view = r.view
  cached : ∀ modes, r'.core.modes.value = some modes →
    r.core.modes.value = some modes ∨ modes = sensedModes sensors

/-- Who logs or caches the modes leaves what fits as it is, -/
theorem Aloof.fitted (h : r.Aloof sensors r') (fitted : r.Fitted sensors frequency) :
    r'.Fitted sensors frequency := by
  refine fitted.of_core (congrArg CaptureView.own h.view) h.machine (fun modes found => ?_) ?_
  · rcases h.cached modes found with before | good
    · exact fitted.cached modes before
    · exact good
  · rw [h.view]
    exact fitted.attended

/-- and the counts as well. -/
theorem Aloof.counted (h : r.Aloof sensors r') : r.Counted r' := by
  refine counted_of_same (congrArg Machine.device h.machine) fun now => ?_
  have streaming : r'.core.streaming = r.core.streaming := congrArg CaptureView.streaming h.view
  unfold live at now ⊢
  rwa [streaming, h.machine] at now

theorem aloof_note (r : MotionRig) (log : List LogLine) :
    r.Aloof sensors { r with core := { r.core with log } } := ⟨rfl, rfl, fun _ => .inl⟩

/-! ## Calls -/

/-- What is true of how the endpoint looks stays true when less is captured. -/
def Lasts (K : CaptureView → Prop) : Prop :=
  ∀ v v' : CaptureView, v'.own = v.own → v'.streaming = v.streaming → v'.listening = v.listening →
    (v'.selected = v.selected ∨ v'.selected = none) → K v → K v'

/-- Less captured is still captured for the present configuration. -/
theorem lasts_attended : Lasts (Attended sensors frequency) := by
  intro v v' own streaming listening selected known now
  obtain ⟨heard, selects⟩ := known (streaming ▸ now)
  refine ⟨listening.trans heard, fun chosen mem => ?_⟩
  rw [own]
  rcases selected with same | ended
  · exact selects chosen (same ▸ mem)
  · rw [ended] at mem
    cases mem

/-- A quiet call may end a capture, and that is all. -/
theorem call_quiet {c : MotionCall} (quiet : c.isQuiet = true) (r : MotionRig) :
    (r.call c).2.machine.device.sensors = r.machine.device.sensors ∧
      ((r.call c).2.machine.device.capture = r.machine.device.capture ∨
        (r.call c).2.machine.device.capture = none) ∧
      ((r.call c).2.machine.device.begun = true → r.machine.device.begun = true) := by
  rcases Machine.call_device r.machine c with same | performed
  · rw [Rig.call_machine, same]
    exact ⟨rfl, .inl rfl, id⟩
  · rw [Rig.call_machine, performed]
    exact MotionDevice.perform_quiet quiet

/-- A quiet call leaves a live capture counting, or ends it. -/
theorem counted_call {c : MotionCall} (quiet : c.isQuiet = true) (r : MotionRig) :
    r.Counted (r.call c).2 := by
  obtain ⟨-, capture, begun⟩ := call_quiet quiet r
  intro selected sink now captured
  have before : r.live = true := by
    unfold live at now ⊢
    rw [Bool.or_eq_true] at now ⊢
    exact now.imp_right begun
  rcases capture with same | ended
  · exact .inl ⟨before, same ▸ captured⟩
  · rw [ended] at captured
    cases captured

/-- So a quiet call leaves true what stays true when less is captured, -/
theorem Lasts.call {K : CaptureView → Prop} (lasts : Lasts K) (known : K r.view) {c : MotionCall}
    (quiet : c.isQuiet = true) : K (view (r.call c).2) := by
  obtain ⟨-, capture, -⟩ := call_quiet quiet r
  refine lasts r.view _ rfl rfl rfl ?_ known
  rcases capture with same | ended
  · exact .inl (congrArg (Option.map Prod.fst) same)
  · exact .inr (congrArg (Option.map Prod.fst) ended)

/-- and what fits goes on to fit. -/
theorem Fitted.call (h : r.Fitted sensors frequency) {c : MotionCall} (quiet : c.isQuiet = true) :
    Fitted sensors frequency (r.call c).2 := by
  obtain ⟨offers, capture, -⟩ := call_quiet quiet r
  refine ⟨h.known, h.rate, offers.trans h.offers, h.cached, h.routed, h.configured, ?_,
    lasts_attended.call h.attended quiet⟩
  intro selected sink captured
  rcases capture with same | ended
  · exact h.captured selected sink (same ▸ captured)
  · rw [ended] at captured
    cases captured

/-- A capture begins, or nothing does. -/
theorem call_startCapture (rates : List SensorRate) (sink : MotionSink) (r : MotionRig) :
    (r.call (.startCapture rates sink)).2.machine.device = r.machine.device ∧
        (∃ cause, (r.call (.startCapture rates sink)).1 = .error cause) ∨
      ∃ selected, r.machine.device.selection rates = .ok selected ∧
        (r.call (.startCapture rates sink)).2.machine.device =
          { r.machine.device with capture := some (selected, sink), rounds := 0 }.record
            (.captureOn (selected.map Sensor.iio)) := by
  have begins := MotionDevice.perform_startCapture (d := r.machine.device) rates sink
  cases answer : (r.call (.startCapture rates sink)).1 with
  | ok a =>
    obtain ⟨granted, device⟩ := Machine.call_ok answer
    rcases begins with ⟨_, refused⟩ | ⟨selected, selection, done⟩
    · cases granted.symm.trans (congrArg Prod.fst refused)
    · exact .inr ⟨selected, selection, device.trans (congrArg Prod.snd done)⟩
  | error cause =>
    rcases Machine.call_device r.machine (.startCapture rates sink) with same | performed
    · exact .inl ⟨same, cause, rfl⟩
    · rcases begins with ⟨_, refused⟩ | ⟨selected, selection, done⟩
      · exact .inl ⟨performed.trans (congrArg Prod.snd refused), cause, rfl⟩
      · exact .inr ⟨selected, selection, performed.trans (congrArg Prod.snd done)⟩

/-! ## Asides -/

/-- All is as it was but for what has been counted, and for what does not concern the sensors. -/
structure Recounts (r r' : MotionRig) : Prop where
  own : r'.own = r.own
  streaming : r'.core.streaming = r.core.streaming
  registered : r'.core.registered = r.core.registered
  modes : r'.core.modes = r.core.modes
  sensors : r'.machine.device.sensors = r.machine.device.sensors
  events : r'.machine.device.events = r.machine.device.events
  capture : r'.machine.device.capture = r.machine.device.capture ∨
    ∃ selected frequency counts counts',
      r.machine.device.capture = some (selected, .counting frequency counts) ∧
        r'.machine.device.capture = some (selected, .counting frequency counts')

variable {r r' r'' : MotionRig}

theorem Recounts.refl (r : MotionRig) : r.Recounts r := ⟨rfl, rfl, rfl, rfl, rfl, rfl, .inl rfl⟩

theorem Recounts.trans (h : r.Recounts r') (h' : r'.Recounts r'') : r.Recounts r'' where
  own := h'.own.trans h.own
  streaming := h'.streaming.trans h.streaming
  registered := h'.registered.trans h.registered
  modes := h'.modes.trans h.modes
  sensors := h'.sensors.trans h.sensors
  events := h'.events.trans h.events
  capture := by
    rcases h'.capture with same | ⟨selected, frequency, counts, counts', before, after⟩
    · rw [same]
      exact h.capture
    · refine .inr ?_
      rcases h.capture with same | ⟨_, _, counts'', _, first, second⟩
      · exact ⟨selected, frequency, counts, counts', same.symm.trans before, after⟩
      · rw [second] at before
        cases before
        exact ⟨selected, frequency, counts'', counts', first, after⟩

/-- A sample passes through, whatever becomes of it. -/
theorem deliverSample_transit (frequency : UInt32) (s : Sensor) (data : Bytes)
    (counts : List (UInt32 × Nat)) (c : Core) :
    c.Transit (deliverSample frequency s data counts c).2 := by
  unfold deliverSample
  dsimp only
  split
  next => exact ⟨rfl⟩
  next feed _ =>
    have drawn : c.Transit (c.allocate
        { size := data.length
          info :=
            { timestamp := c.hostTime, number := countOf s.iio counts + 1,
              systemTime := c.hostTime, fps := frequency, channel := feed.channel,
              encoding := feed.encoding } }).2 := by
      unfold Core.allocate
      split <;> exact ⟨rfl⟩
    split
    next c' refused =>
      rw [refused] at drawn
      exact drawn.trans ⟨rfl⟩
    next frame c' granted =>
      rw [granted] at drawn
      exact drawn.trans (Core.transit_offer ..)

/-- A sample is counted, and changes nothing else about the sensors. -/
theorem sample_recounts (s : Sensor) (data : Bytes) (r : MotionRig) :
    r.Recounts (sample s data r) := by
  have calm := sample_calm s data r
  have heeds := (sample_dispatches s data r).registered
  unfold sample at calm heeds ⊢
  split
  next => exact .refl r
  next => exact ⟨rfl, rfl, rfl, rfl, rfl, rfl, .inl rfl⟩
  next selected frequency counts captured =>
    simp only [captured] at calm heeds
    exact ⟨rfl, calm.streaming, heeds, (deliverSample_transit ..).modes, rfl, rfl,
      .inr ⟨selected, frequency, counts, _, captured, rfl⟩⟩

/-- So it is with every aside. -/
theorem aside_recounts (x : MotionAside) (r : MotionRig) : r.Recounts (x.apply r) := by
  have sampled (s : Sensor) (data : Bytes) (r' : MotionRig) (before : r.Recounts r') :
      r.Recounts (sample s data r') := before.trans (sample_recounts s data r')
  cases x with
  | core x =>
    exact ⟨rfl, (x.calm r.core).streaming, (x.heeds r.core).registered, x.modes r.core, rfl, rfl,
      .inl rfl⟩
  | deliver name data => exact deliver_induction sampled name data (.refl r)
  | nextRound =>
    exact nextRound_induction sampled
      (fun r' before => before.trans ⟨rfl, rfl, rfl, rfl, rfl, rfl, .inl rfl⟩) (.refl r)

/-- What has been counted does not show from outside. -/
theorem Recounts.view (h : r.Recounts r') : r'.view = r.view := by
  have selected : r'.machine.device.capture.map (·.1) = r.machine.device.capture.map (·.1) := by
    rcases h.capture with same | ⟨_, _, _, _, before, after⟩
    · rw [same]
    · rw [before, after]
      rfl
  unfold MotionRig.view MotionDevice.begun
  rw [h.own, h.streaming, h.registered, h.events, selected]

/-- What fits goes on to fit when samples are counted. -/
theorem Recounts.fitted (h : r.Recounts r') (fitted : r.Fitted sensors frequency) :
    r'.Fitted sensors frequency where
  known := h.own ▸ fitted.known
  rate := h.own ▸ fitted.rate
  offers := h.sensors.trans fitted.offers
  cached := by
    rw [h.modes]
    exact fitted.cached
  routed := h.own ▸ fitted.routed
  configured := h.own ▸ fitted.configured
  captured chosen sink captured := by
    rcases h.capture with same | ⟨_, _, _, counts', before, after⟩
    · exact fitted.captured chosen sink (same ▸ captured)
    · rw [after] at captured
      cases captured
      obtain ⟨routes, _, selects, counting⟩ := fitted.captured _ _ before
      cases counting
      exact ⟨routes, counts', selects, rfl⟩
  attended := h.view ▸ fitted.attended

end MotionRig

end Sensing
