import Sensing.Proofs.Clients.Custody
import Sensing.Proofs.Clients.Upkeep
import Sensing.Proofs.Motion.Captures

/-!
# Who has what a motion endpoint captures

Whether the device captures while the endpoint streams is the doing of the client with the
configuration lock, and so is what it captures: all that this client does, up to the stop, is to
bring the device to where it knows the device to be, whatever fails on the way.

Main results: `capturing_fits`, and that what fits a motion endpoint once it is constructed fits it
at all times (`fitted_of_reaches`).
-/

namespace Sensing

namespace MotionRig

variable {sensors : List Sensor} {frequency : UInt32} {r : MotionRig}

/-! ## The custody -/

/-- Between operations something is captured if the endpoint streams. -/
def Resting (v : CaptureView) : Prop := v.streaming = true → v.selected.isSome

variable (sensors frequency) in
/-- What is captured is in the hands of the client with the lock. -/
def capturing : Custody MotionRig (CaptureView → Prop) where
  sees K r := r.Fitted sensors frequency ∧ K r.view
  rest := Resting
  may r r' := r.Counted r' ∧ (r.Fitted sensors frequency → r'.Fitted sensors frequency)
  beside := Aloof sensors
  beside_refl _ := ⟨rfl, rfl, fun _ => .inl⟩
  may_of_beside h := ⟨h.counted, h.fitted⟩
  unaffected sees h := ⟨h.fitted sees.1, h.view.symm ▸ sees.2⟩

/-- The endpoint does not stream. -/
def Stopped (v : CaptureView) : Prop := v.streaming = false

/-- Nothing is captured for it either. -/
def Ready (v : CaptureView) : Prop := v.streaming = false ∧ v.begun = false

/-- There is a callback, -/
def Engaged (v : CaptureView) : Prop := Ready v ∧ v.listening = true

/-- and this is what is to be captured. -/
def Poised (own : MotionState) (v : CaptureView) : Prop := Engaged v ∧ v.own = own

/-- It is captured, but the endpoint does not stream yet. -/
def Commenced (sensors : List Sensor) (frequency : UInt32) (v : CaptureView) : Prop :=
  v.streaming = false ∧ v.begun = true ∧ v.listening = true ∧
    ∃ selected, v.selected = some selected ∧
      Selects sensors frequency v.own.configuration selected

/-- Where the endpoint does not stream there is nothing to capture. -/
theorem rests_of_stopped {K : CaptureView → Prop} (stopped : ∀ v, K v → v.streaming = false) :
    (capturing sensors frequency).Rests K := by
  rintro r ⟨fitted, known⟩
  refine ⟨fitted, fun streaming => ?_⟩
  rw [stopped _ known] at streaming
  cases streaming

/-- That an endpoint does not stream is not a matter of what is captured. -/
theorem lasts_stopped : Lasts Stopped := fun _ _ _ streaming _ _ known => streaming.trans known

variable {K K' : CaptureView → Prop}

/-- Whatever the client knows, it may log. -/
theorem permits_notes :
    Rig.Permits (fun _ : MotionCall => False) (capturing sensors frequency).holding K where
  notes r _ _ _ :=
    have aloof := aloof_note r _
    ⟨(capturing sensors frequency).may_of_beside aloof,
      fun sees => (capturing sensors frequency).unaffected sees aloof⟩
  calls _ _ _ h := h.elim

/-- If what it knows stays true when less is captured, it may make quiet calls as well. -/
theorem permits_quiet (lasts : Lasts K) :
    Rig.Permits (fun c : MotionCall => c.isQuiet = true)
      (capturing sensors frequency).holding K where
  notes := permits_notes.notes
  calls r _ _ quiet := ⟨⟨counted_call quiet r, fun fitted => fitted.call quiet⟩,
    fun sees => ⟨sees.1.call quiet, lasts.call sees.2 quiet⟩⟩

/-- A step of the endpoint itself. -/
theorem follows_own {f : MotionRig → MotionRig} (machine : ∀ r, (f r).machine = r.machine)
    (fitted : ∀ r : MotionRig, K r.view → r.Fitted sensors frequency →
      (f r).Fitted sensors frequency)
    (live : ∀ r : MotionRig, K r.view → (f r).live = true → r.live = true)
    (view : ∀ r : MotionRig, K r.view → K' (f r).view) :
    (Procedure.change f).Follows (capturing sensors frequency).holding (fun _ k => k = K') K := by
  refine Procedure.follows_change fun r sees => ⟨K', ⟨⟨?_, fitted r sees.2⟩, ?_⟩, rfl⟩
  · exact counted_of_same (congrArg Machine.device (machine r)) (live r sees.2)
  · exact fun sees => ⟨fitted r sees.2 sees.1, view r sees.2⟩

/-- Where an operation may end. -/
abbrev Ends (sensors : List Sensor) (frequency : UInt32) (_ : Except EndpointError Unit)
    (K : CaptureView → Prop) : Prop := (capturing sensors frequency).Rests K

/-- An operation that begins with its check goes on where the endpoint does not stream. -/
theorem ends_guarded {check rest : Core → Except EndpointError Unit} {refusal : EndpointError}
    {f : Unit → Work MotionRig Unit}
    (refuses : ∀ c : Core, check c = if c.streaming then .error refusal else rest c)
    (hf : (f ()).Follows (capturing sensors frequency).holding (Ends sensors frequency) Stopped) :
    (Work.check (fun r => check r.core) >>= f).Follows (capturing sensors frequency).holding
      (Ends sensors frequency) Resting := by
  have look : (Work.check fun r : MotionRig => check r.core).Follows
      (capturing sensors frequency).holding (Work.Leads Stopped Resting)
      Resting := by
    intro r _
    have still := (capturing sensors frequency).may_of_beside
      ((capturing sensors frequency).beside_refl r)
    -- Only an endpoint that does not stream gets past the check, since the refusal comes first.
    have stopped (ok : check r.core = .ok ()) : r.core.streaming = false := by
      rw [refuses] at ok
      cases streaming : r.core.streaming with
      | false => rfl
      | true =>
        rw [streaming] at ok
        cases ok
    have lead (K : CaptureView → Prop) {a : Except EndpointError Unit} (answer : check r.core = a)
        (leads : Work.Leads Stopped Resting a K) :
        Work.Leads Stopped Resting (check r.core) K := answer.symm ▸ leads
    cases answer : check r.core with
    | ok _ =>
      exact ⟨Stopped, ⟨still, fun sees => ⟨sees.1, stopped answer⟩⟩, lead _ answer rfl⟩
    | error e => exact ⟨Resting, ⟨still, id⟩, lead _ answer rfl⟩
  exact look.leading (fun _ => hf) fun _ _ => id

/-! ## Modes and routes -/

end MotionRig

namespace Rig

variable {ε δ κ η : Type} {R : Rules (Rig ε δ κ) η} {h : η} {known : List NativeMode}
  {enumerate : Work (Rig ε δ κ) (List NativeMode)}

/-- Where certain modes are all that can be cached or enumerated, it is those that are had. -/
theorem follows_modesBy
    (cached : ∀ r, R.sees h r → ∀ modes, r.core.modes.value = some modes → modes = known)
    (fill : ∀ r : Rig ε δ κ, R.may h r { r with core := { r.core with modes := ⟨some known⟩ } } h)
    (enumerates : enumerate.Follows R (fun a k => a = .ok known ∧ k = h) h) :
    (modesBy enumerate).Follows R (fun a k => a = .ok known ∧ k = h) h := by
  have look : (Work.look fun r : Rig ε δ κ => r.core.modes.value).Follows R
      (fun a k => (∃ cache, a = .ok cache ∧ ∀ modes, cache = some modes → modes = known) ∧ k = h)
      h := Work.follows_look fun r sees => ⟨⟨_, rfl, cached r sees⟩, rfl⟩
  refine look.bind ?_ fun e k hk => nomatch hk.1.choose_spec.1
  rintro cache _ ⟨⟨_, ok, good⟩, rfl⟩
  cases ok
  cases cache with
  | some modes =>
    rw [good modes rfl]
    exact Work.follows_pure ⟨rfl, rfl⟩
  | none =>
    refine enumerates.bind ?_ fun e k hk => nomatch hk.1
    rintro modes _ ⟨ok, rfl⟩
    cases ok
    -- Somebody else may have filled the cache meanwhile, with the same modes.
    refine Work.follows_step fun r sees => ⟨_, ?_, ?_, rfl⟩
    · show R.may _ r { r with core := { r.core with modes := (r.core.modes.fill known).2 } } _
      unfold Once.fill
      cases r.core.modes.value with
      | none => exact fill r
      | some _ => exact R.idle sees
    · show Except.ok (r.core.modes.fill known).1 = _
      unfold Once.fill
      cases found : r.core.modes.value with
      | none => rfl
      | some kept => rw [cached r sees kept found]

end Rig

namespace MotionRig

variable {sensors : List Sensor} {frequency : UInt32} {K : CaptureView → Prop}

/-- The cache is filled with the modes of the sensors. -/
theorem aloof_fill (r : MotionRig) : r.Aloof sensors
    { r with core := { r.core with modes := ⟨some (sensedModes sensors)⟩ } } := by
  refine ⟨rfl, rfl, fun modes found => ?_⟩
  cases found
  exact .inr rfl

/-- The modes that are had are those of the sensors, -/
theorem modes_sensed : (Rig.modesBy enumerate).Follows (capturing sensors frequency).holding
    (fun a k => a = .ok (sensedModes sensors) ∧ k = K) K := by
  refine Rig.follows_modesBy (fun r sees => sees.1.cached) (fun r => ?_)
    (Work.follows_look fun r sees => ⟨?_, rfl⟩)
  · exact ⟨(capturing sensors frequency).may_of_beside (aloof_fill r),
      fun sees => (capturing sensors frequency).unaffected sees (aloof_fill r)⟩
  · rw [sees.1.known]
    rfl

/-- and routes over them are sound. -/
theorem resolve_sound (requests : List StreamRequest) :
    (resolve requests).Follows (capturing sensors frequency).holding (fun a k => k = K ∧
      ∀ routes, a = .ok routes → ∃ formats modes asked, Route.Sound formats modes asked routes)
      K := by
  refine modes_sensed.bind ?_ fun e k hk => nomatch hk.1
  rintro modes _ ⟨_, rfl⟩
  refine Work.follows_check fun r _ => ⟨rfl, fun routes resolved => ?_⟩
  change Route.resolve requests r.core.formats modes = .ok routes at resolved
  unfold Route.resolve at resolved
  split at resolved
  · cases resolved
  · exact ⟨_, _, _, Route.sound_nil.resolveFrom resolved⟩

/-! ## Operations with the lock -/

theorem rests_stopped : (capturing sensors frequency).Rests Stopped := rests_of_stopped fun _ => id

/-- Opening configures the sensors of its routes, where the endpoint does not stream. -/
theorem openStreams_captures (requests : List StreamRequest) :
    (openStreams requests).Follows (capturing sensors frequency).holding (Ends sensors frequency)
      Resting := by
  have refuses : ∀ c, Core.checkOpen title c = if c.streaming then _ else _ := fun _ => rfl
  -- The rates are looked up among the sensors that the endpoint found, which are the device's.
  have rates (routes : List Route) : (Work.check fun r : MotionRig =>
      ratesFor r.own.sensors r.own.frequency routes).Follows (capturing sensors frequency).holding
      (fun a k => k = Stopped ∧ a = ratesFor sensors frequency routes) Stopped :=
    Work.follows_check fun r sees => ⟨rfl, by rw [sees.1.known, sees.1.rate]⟩
  refine ends_guarded refuses ((resolve_sound requests).bind ?_ fun e k hk => ?_)
  · rintro routes k ⟨rfl, sound⟩
    refine (rates routes).bind ?_ fun e k hk => ?_
    · rintro rates k ⟨rfl, found⟩
      refine Work.follows_then (permits_quiet lasts_stopped).report fun _ => ?_
      have keeps : (Procedure.change fun r : MotionRig =>
          { r with
            core := { r.core with opened := true }
            own := { r.own with configuration := routes, configured := rates } }).Follows
          (capturing sensors frequency).holding (fun _ k => k = Stopped) Stopped :=
        follows_own (fun _ => rfl) (fun r stopped fitted => ⟨fitted.known, fitted.rate,
          fitted.offers, fitted.cached, sound routes rfl, found.symm, fitted.captured,
          attended_of_stopped stopped⟩) (fun _ _ live => live) fun _ stopped => stopped
      refine Work.follows_ofProcedure (Procedure.Follows.mono ?_ keeps)
      rintro _ _ rfl
      exact rests_stopped
    · rw [hk.1]
      exact rests_stopped
  · rw [hk.1]
    exact rests_stopped

/-- Closing configures none. -/
theorem close_captures : close.Follows (capturing sensors frequency).holding
    (Ends sensors frequency) Resting := by
  have refuses : ∀ c, Core.checkClose title c = if c.streaming then _ else _ := fun _ => rfl
  have forget : (Procedure.change fun r : MotionRig =>
      { r with
        own := { r.own with configuration := [], configured := [] }
        core := { r.core with opened := false } }).Follows (capturing sensors frequency).holding
      (fun _ k => k = Stopped) Stopped := by
    refine follows_own (fun _ => rfl) (fun r stopped fitted => ?_) (fun _ _ live => live)
      fun _ stopped => stopped
    exact ⟨fitted.known, fitted.rate, fitted.offers, fitted.cached, ⟨[], [], [], Route.sound_nil⟩,
      rfl, fitted.captured, attended_of_stopped stopped⟩
  refine ends_guarded refuses (Work.follows_then forget fun _ => ?_)
  refine Work.follows_ofProcedure
    (Procedure.Follows.mono ?_ (permits_quiet lasts_stopped).report)
  rintro _ _ rfl
  exact rests_stopped

/-- A calm change of the shared state, where the endpoint does not stream. -/
theorem follows_calm_view {K K' : CaptureView → Prop} {f : Core → Core}
    (calm : ∀ c : Core, c.Calm (f c)) (modes : ∀ c, (f c).modes = c.modes)
    (stopped : ∀ v, K v → v.streaming = false)
    (view : ∀ r : MotionRig, K r.view → K' (MotionRig.view (r.mapCore f))) :
    (Procedure.change (Rig.mapCore f) : Procedure MotionRig Unit).Follows
      (capturing sensors frequency).holding (fun _ k => k = K') K := by
  refine follows_own (fun _ => rfl) (fun r known fitted => ?_) (fun r _ live => ?_) view
  · refine fitted.of_core rfl rfl (fun ms found => fitted.cached ms ?_) ?_
    · change (f r.core).modes.value = some ms at found
      rwa [modes] at found
    · exact attended_of_stopped ((calm r.core).streaming.trans (stopped _ known))
  · change ((f r.core).streaming || _) = true at live
    rwa [(calm r.core).streaming] at live

/-- Letting go of the consumer, where the endpoint does not stream. -/
theorem dismisses : (Procedure.change (Rig.mapCore (·.dismiss)) : Procedure MotionRig Unit).Follows
    (capturing sensors frequency).holding (fun _ k => k = Stopped) Stopped :=
  follows_calm_view Core.calm_dismiss Core.modes_dismiss (fun _ => id) fun r stopped =>
    (Core.calm_dismiss r.core).streaming.trans stopped

/-- What is done where a capture does not start leaves the endpoint as it was. -/
theorem abandonCapture_stops : abandonCapture.Follows (capturing sensors frequency).holding
    (fun _ k => k = Stopped) Stopped := by
  have permits : Rig.Permits (fun c : MotionCall => c.isQuiet = true)
      (capturing sensors frequency).holding Stopped := permits_quiet lasts_stopped
  refine Procedure.follows_then dismisses fun _ => ?_
  refine Procedure.follows_then (permits.attempt (c := .closeDevice) rfl) fun closed => ?_
  cases closed with
  | ok _ => exact Procedure.follows_pure rfl
  | error cause => exact permits.report

/-- The device is opened, which ends whatever it was about. -/
theorem leads_openDevice : (Rig.request MotionCall.openDevice : Work MotionRig _).Follows
    (capturing sensors frequency).holding (Work.Leads Ready Stopped) Stopped := by
  refine Rig.follows_request fun r _ => ?_
  have still : (capturing sensors frequency).may r (r.call .openDevice).2 :=
    ⟨counted_call rfl r, fun fitted => fitted.call rfl⟩
  cases answer : (r.call .openDevice).1 with
  | ok a =>
    obtain ⟨-, device⟩ := Machine.call_ok answer
    refine ⟨Ready, ⟨still, fun sees => ⟨still.2 sees.1, sees.2, ?_⟩⟩, rfl⟩
    show (r.call .openDevice).2.machine.device.begun = false
    rw [Rig.call_machine, device]
    exact MotionDevice.begun_record _
  | error cause => exact ⟨Stopped, ⟨still, fun sees => ⟨still.2 sees.1, sees.2⟩⟩, rfl⟩

/-- What is configured is captured, and counted from the beginning, or nothing changes. -/
theorem leads_startCapture {own : MotionState} :
    (Rig.request (MotionCall.startCapture own.configured (.counting own.frequency [])) :
      Work MotionRig _).Follows (capturing sensors frequency).holding
      (Work.Leads (Commenced sensors frequency) Stopped) (Poised own) := by
  refine Rig.follows_request fun r sees => ?_
  obtain ⟨fitted, ⟨⟨stopped, idle⟩, listening⟩, rfl⟩ := sees
  let c : MotionCall := .startCapture r.own.configured (.counting r.own.frequency [])
  show ∃ K, (capturing sensors frequency).holding.may (Poised r.own) r (r.call c).2 K ∧
    Work.Leads (Commenced sensors frequency) Stopped ((r.call c).1.mapError .ofCause) K
  rcases call_startCapture r.own.configured (.counting r.own.frequency []) r with
    ⟨same, cause, error⟩ | ⟨selected, selection, device⟩
  · have still : Fitted sensors frequency (r.call c).2 := by
      refine ⟨fitted.known, fitted.rate, ?_, fitted.cached, fitted.routed, fitted.configured, ?_,
        attended_of_stopped stopped⟩
      · rw [same, fitted.offers]
      · rw [same]
        exact fitted.captured
    have counted : Counted r (r.call c).2 := by
      refine counted_of_same same fun live => ?_
      unfold MotionRig.live at live ⊢
      rwa [same] at live
    refine ⟨Stopped, ⟨⟨counted, fun _ => still⟩, fun _ => ⟨still, stopped⟩⟩, ?_⟩
    rw [show (r.call c).1 = .error cause from error]
    rfl
  · have selects : Selects sensors frequency r.own.configuration selected := by
      refine ⟨r.own.configured, fitted.configured, ?_⟩
      rw [← fitted.offers]
      exact selection
    have anew : Fitted sensors frequency (r.call c).2 := by
      refine ⟨fitted.known, fitted.rate, ?_, fitted.cached, fitted.routed, fitted.configured, ?_,
        attended_of_stopped stopped⟩
      · rw [device]
        exact fitted.offers
      · intro chosen sink captured
        rw [device] at captured
        cases captured
        exact ⟨_, _, selects, congrArg (MotionSink.counting · []) fitted.rate⟩
    have counted : Counted r (r.call c).2 := by
      intro chosen sink _ captured
      rw [device] at captured
      cases captured
      exact .inr ⟨Bool.or_eq_false_iff.2 ⟨stopped, idle⟩, _, rfl⟩
    have begins : Commenced sensors frequency (view (r.call c).2) := by
      refine ⟨stopped, ?_, listening, selected, ?_, selects⟩
      · show (r.call c).2.machine.device.begun = true
        rw [device]
        exact MotionDevice.begun_record _
      · show (r.call c).2.machine.device.capture.map (·.1) = some selected
        rw [device]
        rfl
    -- The device may have done what it was asked although it says that it failed.
    cases answer : (r.call c).1 with
    | ok _ => exact ⟨_, ⟨⟨counted, fun _ => anew⟩, fun _ => ⟨anew, begins⟩⟩, rfl⟩
    | error _ => exact ⟨Stopped, ⟨⟨counted, fun _ => anew⟩, fun _ => ⟨anew, stopped⟩⟩, rfl⟩

/-- Starting goes from what is known to what is known: stopped, ready, engaged, poised, commenced,
at rest. -/
theorem start_captures (policy : Nat → Handling) :
    (start { policy }).Follows (capturing sensors frequency).holding (Ends sensors frequency)
      Resting := by
  have refuses : ∀ c, Core.checkStart title c = if c.streaming then _ else _ := fun _ => rfl
  have engages : (Procedure.change (Rig.mapCore (·.engage { policy })) :
      Procedure MotionRig Unit).Follows (capturing sensors frequency).holding
      (fun _ k => k = Engaged) Ready := by
    refine follows_calm_view (fun c => Core.calm_engage c _) (fun c => c.modes_dismiss)
      (fun _ ready => ready.1) fun r ready => ?_
    have calm : r.core.Calm (r.core.engage { policy }) := Core.calm_engage r.core { policy }
    exact ⟨⟨calm.streaming.trans ready.1, ready.2⟩, rfl⟩
  -- Nobody else changes the configuration, so what is looked up here is what will be captured.
  have look : (Procedure.look fun r : MotionRig => r.own).Follows
      (capturing sensors frequency).holding (fun own k => k = Poised own) Engaged := by
    intro r _
    exact ⟨Poised r.own, ⟨(capturing sensors frequency).may_of_beside
      ((capturing sensors frequency).beside_refl r), fun sees => ⟨sees.1, sees.2, rfl⟩⟩, rfl⟩
  have awaken : (Procedure.change fun r : MotionRig =>
      { r with core := { r.core with streaming := true } }).Follows
      (capturing sensors frequency).holding (fun _ k => k = Resting)
      (Commenced sensors frequency) := by
    refine follows_own (fun _ => rfl) ?_ ?_ ?_
    · rintro r ⟨-, -, listening, selected, captured, selects⟩ fitted
      refine fitted.of_core rfl rfl fitted.cached fun _ => ⟨listening, fun chosen mem => ?_⟩
      obtain rfl : selected = chosen := Option.some.inj (captured.symm.trans mem)
      exact selects
    · rintro r ⟨-, begun, -⟩ -
      exact Bool.or_eq_true_iff.2 (.inr begun)
    · rintro r ⟨-, -, -, selected, captured, -⟩ -
      exact Option.isSome_iff_exists.2 ⟨selected, captured⟩
  refine ends_guarded refuses (leads_openDevice.leading (fun _ => ?_) fun _ => rests_stopped)
  refine Work.follows_then engages fun _ => ?_
  refine Work.Follows.bind (Work.follows_ofProcedure (Q := fun a k => ∃ own, a = .ok own ∧
    k = Poised own) (Procedure.Follows.mono (fun own _ hk => ⟨own, rfl, hk⟩) look)) ?_
    fun _ _ hk => nomatch hk.choose_spec.1
  rintro _ _ ⟨own, ok, rfl⟩
  cases ok
  refine (leads_startCapture.clearing abandonCapture_stops).leading (fun _ => ?_)
    fun _ => rests_stopped
  refine Work.follows_then awaken fun _ => ?_
  refine Work.follows_ofProcedure (Procedure.Follows.mono ?_ permits_notes.report)
  rintro _ _ rfl
  exact fun _ => id

/-- Stopping ends the capture, whatever the device answers. -/
theorem stop_captures : stop.Follows (capturing sensors frequency).holding
    (Ends sensors frequency) Resting := by
  -- Nothing is known of a capture that is about to end.
  have permits : Rig.Permits (fun c : MotionCall => c.isQuiet = true)
      (capturing sensors frequency).holding (fun _ => True) :=
    permits_quiet fun _ _ _ _ _ _ _ => trivial
  have halts : (Procedure.change fun r : MotionRig =>
      { r with core := { r.core with streaming := false } }).Follows
      (capturing sensors frequency).holding (fun _ k => k = Stopped) (fun _ => True) := by
    refine follows_own (fun _ => rfl) (fun r _ fitted => ?_) (fun r _ live => ?_) fun _ _ => rfl
    · exact fitted.of_core rfl rfl fitted.cached (attended_of_stopped rfl)
    · exact Bool.or_eq_true_iff.2 (.inr live)
  refine Work.follows_looking fun streaming => ?_
  cases streaming with
  | false => exact fun _ => id
  | true =>
    refine Custody.follows_of_sees (fun _ => True) (fun _ sees => ⟨sees.1, trivial⟩) ?_
    refine Work.follows_then (permits.attempt (c := .stopCapture) rfl) fun stopped => ?_
    refine Work.follows_then (permits.attempt (c := .closeDevice) rfl) fun closed => ?_
    refine Work.follows_then halts fun _ => ?_
    refine Work.follows_then dismisses fun _ => ?_
    refine Work.follows_then Rig.follows_flush fun _ => ?_
    refine Work.follows_then (permits_quiet lasts_stopped).report fun _ => ?_
    rcases stopped with cause | _
    · exact rests_stopped
    · rcases closed with cause | _
      · exact rests_stopped
      · exact rests_stopped

/-! ## Operations without the lock -/

/-- Whoever has no lock may log. -/
theorem permits_waiting :
    Rig.Permits (fun _ : MotionCall => False) (capturing sensors frequency).waiting () where
  notes r _ _ _ := aloof_note r _
  calls _ _ _ h := h.elim

/-- The modes that are had without the lock are those of the sensors, too. -/
theorem modes_sensed_waiting :
    (Rig.modesBy enumerate).Follows (capturing sensors frequency).waiting
      (fun a k => a = .ok (sensedModes sensors) ∧ k = ()) () := by
  refine Rig.follows_modesBy ?_ aloof_fill (Work.follows_look ?_)
  · rintro r ⟨K, fitted, -⟩
    exact fitted.cached
  · rintro r ⟨K, fitted, -⟩
    rw [fitted.known]
    exact ⟨rfl, rfl⟩

/-- Operations without the lock leave alone what is captured. -/
theorem free_captures {op : MotionOp} (transition : op.transition = none) :
    op.work.Follows (capturing sensors frequency).waiting (fun _ _ => True) () := by
  -- Each of them gets the modes first, if it needs any.
  have had {α : Type} {f : List NativeMode → Work MotionRig α}
      (hf : ∀ modes, (f modes).Follows (capturing sensors frequency).waiting (fun _ _ => True) ()) :
      (Rig.modesBy enumerate >>= f).Follows (capturing sensors frequency).waiting
        (fun _ _ => True) () :=
    modes_sensed_waiting.bind (fun modes _ _ => hf modes) fun _ _ _ => trivial
  cases op with
  | openStreams | close | start | stop => cases transition
  | modes => exact had fun _ => Work.follows_pure trivial
  | resolve requests =>
    refine Work.Follows.bind (had fun modes => ?_) (fun _ _ _ => Work.follows_pure trivial)
      fun _ _ _ => trivial
    exact Work.follows_check fun _ _ => trivial
  | principal =>
    have permits : Rig.Permits (fun _ : MotionCall => False)
        (capturing sensors frequency).waiting () := permits_waiting
    have told : principal.Follows (capturing sensors frequency).waiting (Work.Stays ()) () := by
      refine Work.Follows.andThen Work.stays_look fun found => ?_
      refine Work.Follows.andThen (Work.stays_forIn (fun s _ => ?_) _) fun _ => Work.stays_return
      split
      · exact Work.Follows.andThen permits.say fun _ => Work.stays_return
      · exact Work.stays_return
    exact told.bind (fun _ _ _ => Work.follows_pure trivial) fun _ _ _ => trivial
  | flush =>
    exact Work.follows_ofProcedure (Procedure.Follows.mono (fun _ _ _ => trivial) Rig.follows_flush)

/-! ## Everything that clients do -/

/-- All that clients do is within the custody. -/
theorem capturing_fits : (capturing sensors frequency).Fits fun _ : MotionOp => True where
  locking := by
    intro op transition
    cases op with
    | openStreams requests => exact openStreams_captures requests
    | close => exact close_captures
    | start policy => exact start_captures policy
    | stop => exact stop_captures
    | modes | principal | resolve | flush => cases transition
  free transition _ := free_captures transition
  take gate := nomatch gate
  drop gate := nomatch gate
  aside x sees :=
    have recounts := aside_recounts x _
    ⟨recounts.fitted sees.1, recounts.view ▸ sees.2⟩

/-! ## Construction -/

variable {r : MotionRig}

/-- An endpoint that has not found its sensors yet. -/
structure Blank (sensors : List Sensor) (frequency : UInt32) (r : MotionRig) : Prop where
  own : r.own = { sensors := [], frequency }
  offers : r.machine.device.sensors = sensors
  idle : r.machine.device.capture = none
  stopped : r.core.streaming = false
  formats : r.core.formats = []
  uncached : r.core.modes.value = none

/-- Before the sensors are found, calls change nothing of this, -/
theorem Blank.call (h : Blank sensors frequency r) {c : MotionCall} (quiet : c.isQuiet = true) :
    Blank sensors frequency (r.call c).2 := by
  obtain ⟨offers, capture, -⟩ := call_quiet quiet r
  refine ⟨h.own, offers.trans h.offers, ?_, h.stopped, h.formats, h.uncached⟩
  rcases capture with same | none
  · exact same.trans h.idle
  · exact none

/-- nor do lines in the log. -/
theorem Blank.note (h : Blank sensors frequency r) (level : LogLevel) (message : String) :
    Blank sensors frequency (r.note level message) :=
  ⟨h.own, h.offers, h.idle, h.stopped, h.formats, h.uncached⟩

/-- The device names all of its sensors. -/
theorem listSensors_ok {found : List Sensor} (h : (r.call .listSensors).1 = .ok found) :
    found = r.machine.device.sensors := by
  have answer := (Machine.call_ok h).1
  change (MotionDevice.perform .listSensors r.machine.device).1 = .ok found at answer
  unfold MotionDevice.perform MotionDevice.whileOpen at answer
  dsimp only at answer
  split at answer
  · cases answer
    rfl
  · cases answer

/-- What has just been constructed. -/
structure Constructed (sensors : List Sensor) (frequency : UInt32) (r : MotionRig) : Prop where
  fitted : r.Fitted sensors frequency
  stopped : r.core.streaming = false
  idle : r.machine.device.capture = none
  formats : r.core.formats = PixelFormat.motion

/-- With its sensors known and its formats registered, it is constructed. -/
theorem Blank.constructed (h : Blank sensors frequency r) : Constructed sensors frequency
    { r with
      own := { r.own with sensors }
      core := (r.core.registerFormat .gyro).registerFormat .accel } := by
  refine ⟨⟨rfl, congrArg MotionState.frequency h.own, h.offers, ?_, ?_, ?_, ?_,
    attended_of_stopped h.stopped⟩, h.stopped, h.idle, ?_⟩
  · intro modes found
    cases h.uncached.symm.trans found
  · exact ⟨[], [], [], congrArg MotionState.configuration h.own ▸ Route.sound_nil⟩
  · show ratesFor sensors frequency r.own.configuration = .ok r.own.configured
    rw [h.own]
    rfl
  · intro selected sink captured
    cases h.idle.symm.trans captured
  · show r.core.formats ++ _ ++ _ = _
    rw [h.formats]
    rfl

/-- Constructing an endpoint finds the device's sensors and registers the formats of motion data. -/
theorem construct_constructs (h : Blank sensors frequency r) :
    construct.Follows (Rules.alone MotionRig) (fun a r' => a = .ok () →
      Constructed sensors frequency r') r := by
  have attempts {c : MotionCall} (quiet : c.isQuiet = true) {r : MotionRig}
      (h : Blank sensors frequency r) :
      (Work.ofProcedure (Rig.attempt c) : Work MotionRig _).Follows (Rules.alone MotionRig)
        (fun a r' => a = .ok (r.call c).1 ∧ Blank sensors frequency r') r :=
    Work.follows_ofProcedure (Rig.alone_attempt ⟨rfl, h.call quiet⟩)
  have tells {level : LogLevel} {message : String} {r : MotionRig} (h : Blank sensors frequency r) :
      (say level message).Follows (Rules.alone MotionRig)
        (fun a r' => a = .ok () ∧ Blank sensors frequency r') r :=
    Work.follows_ofProcedure (Procedure.Follows.mono (fun _ _ same => ⟨rfl, same ▸ h.note _ _⟩)
      Procedure.alone_change)
  have finds {r : MotionRig} (h : Blank sensors frequency r) :
      (Work.change fun r : MotionRig =>
        { r with
          own := { r.own with sensors }
          core := (r.core.registerFormat .gyro).registerFormat .accel }).Follows
        (Rules.alone MotionRig) (fun a r' => a = .ok () → Constructed sensors frequency r') r :=
    Work.follows_ofProcedure (Procedure.Follows.mono (fun _ _ same _ => same ▸ h.constructed)
      Procedure.alone_change)
  refine Work.Follows.bind (P := fun _ => Blank sensors frequency) (Rig.alone_request (h.call rfl))
    (fun _ r₁ h₁ => ?_) fun _ _ _ ok => nomatch ok
  refine (attempts (c := .listSensors) rfl h₁).bind ?_ fun _ _ hk => nomatch hk.1
  rintro answer r₂ ⟨isAnswer, h₂⟩
  refine (attempts (c := .closeDevice) rfl h₂).bind ?_ fun _ _ hk => nomatch hk.1
  rintro closed r₃ ⟨-, h₃⟩
  have listed (found : List Sensor) (ok : answer = .ok found) : found = sensors := by
    have heard : (r₁.call .listSensors).1 = .ok found := (Except.ok.inj isAnswer).symm.trans ok
    exact (listSensors_ok heard).trans h₁.offers
  cases closed
  case' error cause =>
    refine (tells h₃).bind ?_ fun _ _ hk => nomatch hk.1
    rintro _ r₃ ⟨-, h₃⟩
  -- Whether or not closing failed, what counts is what sensors there are.
  all_goals
    cases answer with
    | error cause => exact Work.follows_throw fun ok => nomatch ok
    | ok found =>
      obtain rfl := listed found rfl
      exact (tells h₃).bind (fun _ _ hk => finds hk.2) fun _ _ hk => nomatch hk.1

variable {capacity limit : Nat} {automatic : Bool} {plan : FaultPlan MotionCall}

/-- The same for a construction that was carried out. -/
theorem constructed_of_run (run : construct.run.run
      (.create (.create capacity limit) frequency { sensors, automatic } plan) =
        .finished (.ok ()) r) : Constructed sensors frequency r :=
  Procedure.Follows.finished (construct_constructs ⟨rfl, rfl, rfl, rfl, rfl, rfl⟩) run rfl

/-- What has just been constructed is in nobody's hands. -/
theorem Constructed.kept (h : Constructed sensors frequency r) :
    (capturing sensors frequency).Kept { rig := r } := by
  have start : (capturing sensors frequency).sees Resting r := by
    refine ⟨h.fitted, fun streaming => ?_⟩
    cases h.stopped.symm.trans streaming
  exact Custody.kept_of_rest start rfl rfl

/-- What is true of an endpoint that has been constructed, whatever is done with it. -/
theorem fitted_of_reaches {c : Crowd MotionRig} (constructed : Constructed sensors frequency r)
    (h : Crowd.Reaches (fun _ => True) { rig := r } c) : c.rig.Fitted sensors frequency := by
  obtain ⟨⟨_, ⟨fitted, -⟩, -⟩, -⟩ := Custody.kept_of_reaches capturing_fits constructed.kept h
  exact fitted

end MotionRig

end Sensing
