import Sensing.Proofs.Clients.Custody
import Sensing.Proofs.Video.Clients
import Sensing.Proofs.Video.Delivery
import Sensing.Proofs.Video.Upkeep

/-!
# Who changes the streams of a video endpoint

The streams that a device has armed, the consumer that their frames go to and the configuration they
were made for belong together, and it is the client with the configuration lock who keeps them
together: a consumer is engaged before streams are armed, and neither consumer nor configuration
changes until they are disarmed. Everybody else, at most, disarms them.

That takes a device that does as it is told: arming that fails takes no effect, and disarming takes
effect even if it fails (`Prompt`), as where no failing call takes effect and disarming does not
fail (`Punctual`). Main result: `VideoRig.streams`, the custody that the lock gives over the
streams, and `VideoRig.aside_tame`, what happens beside the operations leaves them to it.
-/

namespace Sensing

/-- The fault schedules under which streams are armed and disarmed when the endpoint thinks so. -/
structure Prompt (plan : FaultPlan VideoCall) : Prop where
  streamOn : ∀ streams, plan.Early (.streamOn streams)
  streamOff : plan.Late .streamOff

/-- The fault schedules under which no failing call takes effect and disarming does not fail. -/
structure Punctual (plan : FaultPlan VideoCall) : Prop where
  late : plan.NeverLate
  streamOff : plan.Spares .streamOff

/-- A device that neither fails late nor refuses to disarm does as it is told. -/
theorem Punctual.prompt {plan : FaultPlan VideoCall} (h : Punctual plan) : Prompt plan :=
  ⟨fun _ => h.late.early _, h.streamOff.late⟩

theorem punctual_sound : Punctual .sound := ⟨(fun _ _ _ h => nomatch h), fun _ => rfl⟩

/-- The operations whose applications arm no streams of their own. -/
def VideoOp.SparesStreams (op : VideoOp) : Prop := op.Uses fun c => c.armsStreams = false

namespace VideoRig

variable {r r' : VideoRig}

/-! ## Steps that are not about streams -/

/-- No stream is armed, and no consumer is dismissed. -/
structure Tame (r r' : VideoRig) : Prop where
  streaming : r'.core.streaming = r.core.streaming
  consumer : r.core.consumer.isSome → r'.core.consumer.isSome
  layout : r'.own.layout = r.own.layout
  configuration : r'.own.configuration = r.own.configuration
  plan : r'.machine.plan = r.machine.plan
  silent : r.machine.device.armed = [] → r'.machine.device.armed = []

/-- Nothing that has to do with streams differs, except that they may be disarmed. -/
structure Apart (r r' : VideoRig) : Prop where
  streaming : r'.core.streaming = r.core.streaming
  consumer : r'.core.consumer = r.core.consumer
  layout : r'.own.layout = r.own.layout
  configuration : r'.own.configuration = r.own.configuration
  plan : r'.machine.plan = r.machine.plan
  pace : r'.machine.device.pace = r.machine.device.pace
  armed : r'.machine.device.armed = r.machine.device.armed ∨ r'.machine.device.armed = []

theorem Apart.refl (r : VideoRig) : r.Apart r := ⟨rfl, rfl, rfl, rfl, rfl, rfl, .inl rfl⟩

theorem Apart.tame (h : r.Apart r') : r.Tame r' where
  streaming := h.streaming
  consumer some := by rwa [h.consumer]
  layout := h.layout
  configuration := h.configuration
  plan := h.plan
  silent none := by
    rcases h.armed with same | none'
    · rw [same, none]
    · exact none'

/-- Calls that do not arm may disarm. -/
theorem apart_call {c : VideoCall} (h : c.armsStreams = false) (r : VideoRig) :
    r.Apart (r.call c).2 := by
  refine ⟨rfl, rfl, rfl, rfl, Machine.call_plan r.machine c,
    Machine.call_keeps VideoDevice.pace (VideoDevice.perform_pace h), ?_⟩
  rw [Rig.call_machine]
  rcases Machine.call_device r.machine c with same | performed
  · rw [same]
    exact .inl rfl
  · rw [performed]
    exact VideoDevice.perform_armed h

/-- Upkeep is apart from streams. -/
theorem Upkeep.apart (h : r.Upkeep r') : r.Apart r' where
  streaming := by rw [h.core]
  consumer := by rw [h.core]
  layout := by rw [h.own]
  configuration := by rw [h.own]
  plan := h.plan
  pace := by rw [h.device]; rfl
  armed := .inl (by rw [h.device])

/-! ## Asides -/

theorem coreAside_consumer (x : CoreAside) {c : Core} (h : c.consumer.isSome) :
    (x.apply c).consumer.isSome := by
  cases x with
  | allocate d =>
    show (c.allocate d).2.consumer.isSome
    unfold Core.allocate
    split <;> exact h
  | offer f => exact Core.offer_consumer f h
  | callControl id call =>
    show (c.callStored id call).consumer.isSome
    unfold Core.callStored
    split <;> exact h
  | setPose p =>
    show (c.keepPose p).consumer.isSome
    unfold Core.keepPose Core.setPose
    cases c.pose <;> exact h
  | release | releaseHeld | setLimit | registerFormat | registerControl | registerInfo | setTime =>
    exact h

theorem Tame.trans {r₁ r₂ r₃ : VideoRig} (h : r₁.Tame r₂) (h' : r₂.Tame r₃) : r₁.Tame r₃ where
  streaming := h'.streaming.trans h.streaming
  consumer some := h'.consumer (h.consumer some)
  layout := h'.layout.trans h.layout
  configuration := h'.configuration.trans h.configuration
  plan := h'.plan.trans h.plan
  silent none := h'.silent (h.silent none)

/-- An image may move lanes on, but it arms none. -/
theorem deliverTo_tame (place : Nat) (data : Bytes) (r : VideoRig) :
    r.Tame (deliverTo place data r) := by
  unfold deliverTo
  split
  next => exact (Apart.refl r).tame
  next => exact ⟨rfl, id, rfl, rfl, rfl, id⟩
  next m ls there =>
    refine ⟨(deliverLanes_calm m data ls r.core).streaming, deliverLanes_consumer ls, rfl, rfl, rfl,
      ?_⟩
    -- A stream that takes in an image is armed.
    intro none
    rw [none] at there
    cases there

theorem deliver_tame (m : NativeMode) (data : Bytes) (r : VideoRig) :
    r.Tame (deliver m data r).2 :=
  deliver_induction (fun place data _ h => h.trans (deliverTo_tame place data _)) m data
    (Apart.refl r).tame

theorem nextRound_tame (r : VideoRig) : r.Tame (nextRound r) :=
  nextRound_induction (fun place data _ h => h.trans (deliverTo_tame place data _))
    (fun _ h => h.trans ⟨rfl, id, rfl, rfl, rfl, id⟩) (Apart.refl r).tame

/-- All that happens beside the operations is tame. -/
theorem aside_tame (x : VideoAside) (r : VideoRig) : r.Tame (x.apply r) := by
  cases x with
  | core x => exact ⟨(x.calm r.core).streaming, coreAside_consumer x, rfl, rfl, rfl, id⟩
  | deliver m data => exact deliver_tame m data r
  | nextRound => exact nextRound_tame r
  | registerUnit | registerProcessing | refusePowerOn | refuseCommit =>
    exact ⟨rfl, id, rfl, rfl, rfl, id⟩

/-! ## The custody -/

/-- What a step does to the streams. -/
inductive StreamMove (r r' : VideoRig) : Prop where
  /-- Nothing is armed after it. -/
  | silent (none : r'.machine.device.armed = [])
  /-- What is armed stays so, with its configuration and its consumer, and the device goes on. -/
  | kept (armed : r'.machine.device.armed = r.machine.device.armed)
      (pace : r'.machine.device.pace = r.machine.device.pace)
      (configuration : r'.own.configuration = r.own.configuration)
      (consumer : r.core.consumer.isSome → r'.core.consumer.isSome)
  /-- Fresh streams of the configuration are armed, with a consumer for their frames, and the device
  starts to count anew. -/
  | started (none : r.machine.device.armed = [])
      (armed : r'.machine.device.armed = streamsFor r'.own.layout r'.own.configuration)
      (pace : r'.machine.device.pace = ([], 0)) (consumer : r'.core.consumer.isSome)

/-- How far the client with the lock has come in turning streams on and off. -/
inductive StreamStanding where
  /-- Unless the endpoint streams, nothing is armed. -/
  | resting
  /-- The endpoint does not stream. -/
  | idle
  /-- There is a consumer for the streams to come. -/
  | engaged
  /-- The streams to come are made. -/
  | primed (streams : List (NativeMode × VideoSink))
  /-- They are armed, and the endpoint is about to stream. -/
  | awake
  /-- They are disarmed, and the endpoint is about to stream no longer. -/
  | silenced

/-- What the client knows. -/
def StreamStanding.Knows : StreamStanding → VideoRig → Prop
  | .resting, r => r.core.streaming = false → r.machine.device.armed = []
  | .idle, r => r.core.streaming = false ∧ r.machine.device.armed = []
  | .engaged, r =>
    r.core.streaming = false ∧ r.machine.device.armed = [] ∧ r.core.consumer.isSome
  | .primed streams, r =>
    r.core.streaming = false ∧ r.machine.device.armed = [] ∧ r.core.consumer.isSome ∧
      streams = streamsFor r.own.layout r.own.configuration
  | .awake, _ => True
  | .silenced, r => r.machine.device.armed = []

/-- So what the client with the lock knows of its streams stays true. -/
theorem Tame.knows {k : StreamStanding} (h : r.Tame r') (hk : k.Knows r) : k.Knows r' := by
  cases k with
  | resting => exact fun stopped => h.silent (hk (h.streaming.symm.trans stopped))
  | idle => exact ⟨h.streaming.trans hk.1, h.silent hk.2⟩
  | engaged => exact ⟨h.streaming.trans hk.1, h.silent hk.2.1, h.consumer hk.2.2⟩
  | primed streams =>
    obtain ⟨stopped, none, some, made⟩ := hk
    refine ⟨h.streaming.trans stopped, h.silent none, h.consumer some, ?_⟩
    rw [h.layout, h.configuration]
    exact made
  | awake => trivial
  | silenced => exact h.silent hk

/-- The streams of a video endpoint are in the hands of the client with the lock. -/
def streams : Custody VideoRig StreamStanding where
  sees k r := Prompt r.machine.plan ∧ k.Knows r
  rest := .resting
  may r r' := r'.own.layout = r.own.layout ∧ r.StreamMove r'
  beside := Apart
  beside_refl := Apart.refl
  may_of_beside h := by
    refine ⟨h.layout, ?_⟩
    rcases h.armed with same | none
    · exact .kept same h.pace h.configuration h.tame.consumer
    · exact .silent none
  unaffected := by
    intro k r r' sees h
    refine ⟨?_, h.tame.knows sees.2⟩
    rw [h.plan]
    exact sees.1

end VideoRig

end Sensing
