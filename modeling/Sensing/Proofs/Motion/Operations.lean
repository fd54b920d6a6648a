import Sensing.Endpoint.Motion
import Sensing.Proofs.Clients.Asides
import Sensing.Proofs.Clients.Ledger
import Sensing.Proofs.Clients.Upkeep

/-!
# Clients of a motion endpoint

What can be done with a motion endpoint, and that it follows the rules of a ledger. A motion
endpoint counts no references, so all there is to keep is the phase: only who has the configuration
lock may turn the endpoint from one phase to another.

Main result: `MotionRig.fits`, all that clients do is within the rules.
-/

namespace Sensing

/-- An operation of a motion endpoint. -/
inductive MotionOp : Type 1 where
  | openStreams (requests : List StreamRequest)
  | close
  | start (policy : Nat → Handling)
  | stop
  | modes
  | principal
  | resolve (requests : List StreamRequest)
  | flush

namespace MotionOp

/-- Carries an operation out. Its answer is kept as far as it tells of success or failure. -/
def work : MotionOp → Work MotionRig Unit
  | .openStreams requests => MotionRig.openStreams requests
  | .close => MotionRig.close
  | .start policy => MotionRig.start { policy }
  | .stop => MotionRig.stop
  | .modes => do let _ ← MotionRig.modes
  | .principal => do let _ ← MotionRig.principal
  | .resolve requests => do let _ ← MotionRig.resolve requests
  | .flush => Work.ofProcedure Rig.flush

/-- The operations that hold the configuration lock. -/
def transition : MotionOp → Option Transition
  | .openStreams _ => some .openStreams
  | .close => some .close
  | .start _ => some .start
  | .stop => some .stop
  | .modes | .principal | .resolve _ | .flush => none

end MotionOp

/-- What happens to a motion endpoint beside its operations. -/
inductive MotionAside where
  | core (x : CoreAside)
  | deliver (name : String) (data : Bytes)
  | nextRound

def MotionAside.apply : MotionAside → MotionRig → MotionRig
  | .core x, r => r.mapCore x.apply
  | .deliver name data, r => (MotionRig.deliver name data r).2
  | .nextRound, r => MotionRig.nextRound r

instance : Served MotionRig where
  Op := MotionOp
  work := MotionOp.work
  transition := MotionOp.transition
  Aside := MotionAside
  aside := MotionAside.apply
  gate := none

namespace MotionRig

/-! ## Samples of several sensors -/

/-- Some sensors give a sample each. -/
def sampleAll (data : Sensor → Bytes) (ss : List Sensor) (r : MotionRig) : MotionRig :=
  ss.foldl (fun r s => sample s (data s) r) r

/-- Samples of several sensors, and then of several more. -/
theorem sampleAll_append (data : Sensor → Bytes) (ss ss' : List Sensor) (r : MotionRig) :
    sampleAll data (ss ++ ss') r = sampleAll data ss' (sampleAll data ss r) := List.foldl_append

/-- The sensors that are captured. -/
def captured (r : MotionRig) : List Sensor := (r.machine.device.capture.map (·.1)).getD []

/-- In a round every sensor that is captured gives a sample. -/
theorem nextRound_of_automatic {r : MotionRig} (automatic : r.machine.device.automatic = true) :
    nextRound r = mapDevice (fun d => { d with rounds := d.rounds + 1 })
      (sampleAll (fun s => ownSample s r.machine.device.rounds) r.captured r) := by
  unfold nextRound
  rw [automatic]
  rfl

section Induction

variable {P : MotionRig → Prop} {r : MotionRig}
  (sampled : ∀ (s : Sensor) (data : Bytes) (r : MotionRig), P r → P (sample s data r))
include sampled

/-- What every sample preserves, several preserve. -/
theorem sampleAll_induction (data : Sensor → Bytes) (ss : List Sensor) (h : P r) :
    P (sampleAll data ss r) := by
  induction ss generalizing r with
  | nil => exact h
  | cons s ss ih => exact ih (sampled s (data s) r h)

/-- What every sample preserves, a delivery preserves, -/
theorem deliver_induction (name : String) (data : Bytes) (h : P r) : P (deliver name data r).2 := by
  unfold deliver
  split
  · exact h
  · split
    · exact h
    · exact sampled _ data r h

/-- and so does a round, if counting rounds preserves it. -/
theorem nextRound_induction
    (round : ∀ r, P r → P (mapDevice (fun d => { d with rounds := d.rounds + 1 }) r)) (h : P r) :
    P (nextRound r) := by
  cases automatic : r.machine.device.automatic with
  | false =>
    unfold nextRound
    rw [automatic]
    exact h
  | true =>
    rw [nextRound_of_automatic automatic]
    exact round _ (sampleAll_induction sampled _ _ h)

end Induction

/-! ## What an aside leaves alone -/

/-- What becomes of a sample is nothing to the lifecycle. -/
theorem deliverSample_calm (frequency : UInt32) (s : Sensor) (data : Bytes)
    (counts : List (UInt32 × Nat)) (c : Core) :
    c.Calm (deliverSample frequency s data counts c).2 := by
  unfold deliverSample
  dsimp only
  split
  · exact Core.calm_note c .debug rfl _
  · next feed _ =>
    have drawn := Core.calm_allocate c
      { size := data.length
        info :=
          { timestamp := c.hostTime, number := countOf s.iio counts + 1, systemTime := c.hostTime,
            fps := frequency, channel := feed.channel, encoding := feed.encoding } }
    split
    next c₁ h =>
      rw [h] at drawn
      exact drawn.trans (Core.calm_note c₁ .debug rfl _)
    next frame c₁ h =>
      rw [h] at drawn
      exact drawn.trans (Core.calm_offer c₁ _)

/-- So it is with a sample of a sensor that is captured, -/
theorem sample_calm (s : Sensor) (data : Bytes) (r : MotionRig) :
    r.core.Calm (sample s data r).core := by
  unfold sample
  split
  · exact Core.Calm.refl _
  · exact Core.Calm.refl _
  · exact deliverSample_calm _ s data _ r.core

/-- and with every aside. -/
theorem aside_calm (x : MotionAside) (r : MotionRig) : r.core.Calm (x.apply r).core := by
  have sampled (s : Sensor) (data : Bytes) (r' : MotionRig) (calm : r.core.Calm r'.core) :
      r.core.Calm (sample s data r').core := calm.trans (sample_calm s data r')
  cases x with
  | core x => exact x.calm r.core
  | deliver name data => exact deliver_induction sampled name data (.refl r.core)
  | nextRound => exact nextRound_induction sampled (fun _ => id) (.refl r.core)

/-! ## Operations without the lock -/

open Work (Stays)

section Tolerates

variable {η : Type} {R : Rules MotionRig η} {allowed : MotionCall → Prop}
  (tolerates : Rig.Tolerates allowed R) {h : η}
include tolerates

/-- Modes, routes and proposals are had in passing. -/
theorem stays_modes : modes.Follows R (Stays h) h := tolerates.modesBy Work.stays_look

theorem stays_resolve (requests : List StreamRequest) :
    (resolve requests).Follows R (Stays h) h :=
  tolerates.resolveBy Work.stays_look requests

theorem stays_principal : principal.Follows R (Stays h) h := by
  refine Work.Follows.andThen Work.stays_look fun sensors => ?_
  refine Work.Follows.andThen (Work.stays_forIn (fun s _ => ?_) _) fun _ => Work.stays_return
  split
  · exact Work.Follows.andThen tolerates.say fun _ => Work.stays_return
  · exact Work.stays_return

/-- Every operation without the lock follows rules that tolerate what it does in passing. -/
theorem follows_free {op : MotionOp} (transition : op.transition = none) :
    op.work.Follows R (Stays h) h := by
  cases op with
  | openStreams | close | start | stop => cases transition
  | modes => exact (stays_modes tolerates).andThen fun _ => Work.stays_return
  | principal => exact (stays_principal tolerates).andThen fun _ => Work.stays_return
  | resolve requests =>
    exact (stays_resolve tolerates requests).andThen fun _ => Work.stays_return
  | flush => exact Work.stays_ofProcedure Rig.follows_flush

end Tolerates

end MotionRig

/-! ## Moves -/

/-- What a client of a motion endpoint may do in one step: it turns the endpoint if it knows the
phase, and leaves the flags alone if not. -/
inductive MotionMove : Standing → MotionRig → MotionRig → Standing → Prop where
  | turned {n : Nat} {p q : Phase} {r r' : MotionRig}
      (phase : r.core.InPhase p → r'.core.InPhase q) :
    MotionMove ⟨n, some p⟩ r r' ⟨n, some q⟩
  | quiet {k : Standing} {r r' : MotionRig} (opened : r'.core.opened = r.core.opened)
      (streaming : r'.core.streaming = r.core.streaming) :
    MotionMove k r r' k

namespace MotionRig

open Work (Stays)

/-- The books of a motion endpoint, in which there is only the phase. -/
def ledger : Ledger MotionRig where
  phase p r := r.core.InPhase p
  counts _ _ := True
  may := MotionMove
  idle _ _ := .quiet rfl rfl
  balance := by
    intro k k' r r' p m hmove knows hp _
    cases hmove with
    | @turned _ p' q _ _ phase =>
      obtain rfl : p' = p := knows p' rfl
      exact ⟨q, phase hp, trivial, rfl, fun h => nomatch h⟩
    | quiet opened streaming =>
      refine ⟨p, ⟨opened.trans hp.opened, streaming.trans hp.streaming⟩, trivial, ?_, fun _ => rfl⟩
      cases hk : k.phase with
      | none => rfl
      | some q => rw [knows q hk]; rfl

variable {k : Standing}

/-! ## Single steps -/

/-- Whatever the client knows, it may log, fill the cache and call the device. -/
theorem tolerates_ledger : Rig.Tolerates (fun _ => True) ledger.rules :=
  ⟨fun _ _ _ => .quiet rfl rfl, fun _ _ _ => .quiet rfl rfl⟩

/-- A change that leaves the flags alone. -/
theorem follows_quiet {f : MotionRig → MotionRig}
    (opened : ∀ r, (f r).core.opened = r.core.opened)
    (streaming : ∀ r, (f r).core.streaming = r.core.streaming) :
    (Procedure.change f).Follows ledger.rules (fun _ k' => k' = k) k :=
  Procedure.follows_change fun r _ => ⟨k, .quiet (opened r) (streaming r), rfl⟩

/-- A calm change of the shared state is quiet. -/
theorem follows_calm {f : Core → Core} (calm : ∀ c : Core, c.Calm (f c)) :
    (Procedure.change (Rig.mapCore f) : Procedure MotionRig Unit).Follows ledger.rules
      (fun _ k' => k' = k) k :=
  follows_quiet (fun r => (calm r.core).opened) fun r => (calm r.core).streaming

/-- A change from one phase to another, by a client who knows the phase. -/
theorem follows_turn {n : Nat} {p q : Phase} {f : MotionRig → MotionRig}
    (turn : ∀ r : MotionRig, r.core.InPhase p → (f r).core.InPhase q) :
    (Procedure.change f).Follows ledger.rules (fun _ k' => k' = ⟨n, some q⟩) ⟨n, some p⟩ :=
  Procedure.follows_change fun r _ => ⟨_, .turned (turn r), rfl⟩

/-! ## Operations with the lock -/

/-- To look for a sensor in vain is no misuse of the lifecycle, -/
theorem iioFor_blameless (sensors : List Sensor) (c : Channel) :
    ¬ IsMisuse (iioFor sensors c) := by
  unfold iioFor
  split
  · exact fun ⟨_, h⟩ => nomatch h
  · split
    · exact not_isMisuse_ok _
    · exact fun ⟨_, h⟩ => nomatch h

/-- nor is it to look for several. -/
theorem ratesFor_blameless (sensors : List Sensor) (frequency : UInt32) (routes : List Route) :
    ¬ IsMisuse (ratesFor sensors frequency routes) := by
  refine not_isMisuse_bind ?_ fun _ => not_isMisuse_ok _
  exact not_isMisuse_mapM (iioFor_blameless sensors) _

/-- Opening answers and leads where the machine says, -/
theorem follows_openStreams (requests : List StreamRequest) (p : Phase) :
    (openStreams requests).Follows ledger.rules (Ledger.Settles p .openStreams) ⟨0, some p⟩ := by
  refine Ledger.follows_guarded (fun r hp => Core.checkOpen_guards title hp) fun admitted => ?_
  cases p with
  | opened | streaming => cases admitted
  | closed =>
    have rates (routes : List Route) :
        (Work.check fun r : MotionRig => ratesFor r.own.sensors r.own.frequency routes).Follows
          ledger.rules (Stays ⟨0, some .closed⟩) ⟨0, some .closed⟩ :=
      Work.follows_check fun r _ => ⟨rfl, ratesFor_blameless _ _ routes⟩
    refine Ledger.settles_after rfl rfl (by decide) (stays_resolve tolerates_ledger requests)
      fun routes => ?_
    refine Ledger.settles_after rfl rfl (by decide) (rates routes) fun rates => ?_
    refine Ledger.settles_after rfl rfl (by decide) tolerates_ledger.say fun _ => ?_
    refine Work.follows_ofProcedure (Procedure.Follows.mono ?_
      (follows_turn (q := .opened) fun r hp => ⟨rfl, hp.streaming⟩))
    intro _ k hk
    rw [hk]
    exact Ledger.settles_of_blameless rfl (not_isMisuse_ok ()) fun h => nomatch h

/-- and so does closing. -/
theorem follows_close (p : Phase) :
    close.Follows ledger.rules (Ledger.Settles p .close) ⟨0, some p⟩ := by
  refine Ledger.follows_guarded (fun r hp => Core.checkClose_guards title hp) fun admitted => ?_
  cases p with
  | closed | streaming => cases admitted
  | opened =>
    refine Work.follows_then
      (follows_turn (q := .closed) fun r hp => ⟨rfl, hp.streaming⟩) fun _ => ?_
    refine Work.follows_ofProcedure (Procedure.Follows.mono ?_ tolerates_ledger.report)
    intro _ k hk
    rw [hk]
    exact Ledger.settles_of_blameless rfl (not_isMisuse_ok ()) fun h => nomatch h

/-- What is done where a capture does not start turns nothing. -/
theorem follows_abandonCapture :
    abandonCapture.Follows ledger.rules (fun _ k' => k' = k) k := by
  refine Procedure.follows_then (follows_calm Core.calm_dismiss) fun _ => ?_
  refine Procedure.follows_then (tolerates_ledger.attempt trivial) fun closed => ?_
  cases closed with
  | ok _ => exact Procedure.follows_pure rfl
  | error cause => exact tolerates_ledger.report

/-- Starting answers and leads where the machine says, -/
theorem follows_start (c : Consumer) (p : Phase) :
    (start c).Follows ledger.rules (Ledger.Settles p .start) ⟨0, some p⟩ := by
  refine Ledger.follows_guarded (fun r hp => Core.checkStart_guards title hp) fun admitted => ?_
  cases p with
  | closed | streaming => cases admitted
  | opened =>
    refine Ledger.settles_after rfl rfl (by decide) (tolerates_ledger.request trivial) fun _ => ?_
    refine Work.follows_then (follows_calm fun core => Core.calm_engage core c) fun _ => ?_
    refine Ledger.settles_after rfl rfl (by decide) Work.stays_look fun own => ?_
    refine Ledger.settles_after rfl rfl (by decide)
      (Work.Follows.onFailure (tolerates_ledger.request trivial) (fun _ _ h => h) ?_) fun _ => ?_
    · intro e k he
      rw [he.1]
      exact Procedure.Follows.mono (fun _ _ hk => ⟨hk, he.2⟩) follows_abandonCapture
    · refine Work.follows_then
        (follows_turn (q := .streaming) fun r hp => ⟨hp.opened, rfl⟩) fun _ => ?_
      refine Work.follows_ofProcedure (Procedure.Follows.mono ?_ tolerates_ledger.report)
      intro _ k hk
      rw [hk]
      exact Ledger.settles_of_blameless rfl (not_isMisuse_ok ()) fun h => nomatch h

/-- and so does stopping, whatever the device answers. -/
theorem follows_stop (p : Phase) :
    stop.Follows ledger.rules (Ledger.Settles p .stop) ⟨0, some p⟩ := by
  have settles {a : Except EndpointError Unit} (ha : ¬ IsMisuse a) :
      Ledger.Settles .streaming .stop a ⟨0, some .opened⟩ :=
    Ledger.settles_of_blameless rfl ha fun _ => rfl
  refine Ledger.follows_ifStreaming (fun r hp => hp.streaming) ?_
  refine Work.follows_then (tolerates_ledger.attempt trivial) fun stopped => ?_
  refine Work.follows_then (tolerates_ledger.attempt trivial) fun closed => ?_
  refine Work.follows_then
    (follows_turn (q := .opened) fun r hp => ⟨hp.opened, rfl⟩) fun _ => ?_
  refine Work.follows_then (follows_calm Core.calm_dismiss) fun _ => ?_
  refine Work.follows_then Rig.follows_flush fun _ => ?_
  refine Work.follows_then tolerates_ledger.report fun _ => ?_
  rcases stopped with cause | _
  · exact settles (not_isMisuse_ofCause cause)
  · rcases closed with cause | _
    · exact settles (not_isMisuse_ofCause cause)
    · exact settles (not_isMisuse_ok ())

/-! ## Construction -/

/-- Constructing an endpoint leaves it in the phase in which it is. -/
theorem follows_construct : construct.Follows ledger.rules (fun _ k' => k' = k) k := by
  refine Work.Follows.bind (tolerates_ledger.request trivial) ?_ fun _ _ he => he.1
  intro _ k' hk
  rw [hk.1]
  refine Work.follows_then (tolerates_ledger.attempt trivial) fun sensors => ?_
  refine Work.follows_then (tolerates_ledger.attempt trivial) fun closed => ?_
  cases sensors with
  | error cause =>
    cases closed with
    | ok _ => exact Work.follows_throw rfl
    | error _ => exact Work.follows_then tolerates_ledger.report fun _ => Work.follows_throw rfl
  | ok sensors =>
    cases closed with
    | ok _ =>
      refine Work.follows_then tolerates_ledger.report fun _ => ?_
      exact Work.follows_ofProcedure (follows_quiet (fun _ => rfl) fun _ => rfl)
    | error _ =>
      refine Work.follows_then tolerates_ledger.report fun _ => ?_
      refine Work.follows_then tolerates_ledger.report fun _ => ?_
      exact Work.follows_ofProcedure (follows_quiet (fun _ => rfl) fun _ => rfl)

/-! ## Everything that clients do -/

/-- All that clients do is within the rules of the ledger. -/
theorem fits : ledger.Fits fun _ : MotionOp => True where
  locking := by
    intro op t p transition
    cases op <;> cases transition
    · exact follows_openStreams _ p
    · exact follows_close p
    · exact follows_start _ p
    · exact follows_stop p
  free := by
    intro op transition _
    exact Work.Follows.mono (fun _ _ h => h.1) (follows_free tolerates_ledger transition)
  take gate := nomatch gate
  refused gate := nomatch gate
  drop gate := nomatch gate
  asidePhase x hp := (aside_calm x _).inPhase hp
  asideCount _ _ := trivial

end MotionRig

end Sensing
