import Sensing.Proofs.Distinct
import Sensing.Proofs.Video.Power
import Sensing.Proofs.Video.Streams

/-!
# The device mirrors the endpoint

What an opened endpoint has committed are the modes of its configuration, and what a streaming one
has armed are the same: whatever the modes and whatever goes wrong on the way, as long as a failing
call takes no effect and neither disarming nor closing fails (`Obliging`).

Only the client with the configuration lock commits, closes, arms or disarms, so it knows at each of
its steps what is in use (`Usage`). Between operations what is in use is a `Usage.Mirrored` one. An
opening that cannot commit a mode closes those before it, the last one first; what is left to close
is then always the reverse of what was done, and since no mode is committed twice, closing the last
one leaves the others.

Main result: the device mirrors the endpoint at all times between operations
(`VideoRig.device_mirrors_endpoint`).
-/

namespace Sensing

/-- The fault schedules under which failing calls take no effect, and neither disarming nor closing
fails. -/
structure Obliging (plan : FaultPlan VideoCall) : Prop extends Punctual plan where
  close : ∀ m, plan.Spares (.close m)

/-- The operations whose applications let the device's modes alone. -/
def VideoOp.SparesModes (op : VideoOp) : Prop := op.Uses fun c => c.managesModes = false

/-- What an endpoint and its device have in use. -/
structure Usage where
  phase : Phase
  configuration : List Route := []
  /-- The modes that are committed. -/
  committed : List NativeMode := []
  /-- The modes that are armed. -/
  armed : List NativeMode := []

namespace Usage

open VideoRig (routedModes)

def closed : Usage := { phase := .closed }

def opened (routes : List Route) : Usage :=
  { phase := .opened, configuration := routes, committed := routedModes routes }

def streaming (routes : List Route) : Usage :=
  { opened routes with phase := .streaming, armed := routedModes routes }

/-- This is in use. -/
structure Describes (u : Usage) (r : VideoRig) : Prop where
  phase : r.core.InPhase u.phase
  configuration : r.own.configuration = u.configuration
  committed : r.machine.device.committed = u.committed
  armed : r.machine.device.armed.map (·.1) = u.armed

/-- What may be in use between operations. -/
inductive Mirrored : Usage → Prop where
  | closed : Mirrored closed
  | opened (routes : List Route) : Mirrored (opened routes)
  | streaming (routes : List Route) : Mirrored (streaming routes)

/-- Amid an opening, these modes are committed. -/
def committing (ms : List NativeMode) : Usage := { closed with committed := ms }

/-- Amid a closing, these modes are not yet closed. -/
def closing (routes : List Route) (ms : List NativeMode) : Usage :=
  { opened routes with committed := ms }

/-- Amid a start, the streams are armed. -/
def waking (routes : List Route) : Usage := { opened routes with armed := routedModes routes }

/-- Amid a stop, they are disarmed. -/
def silenced (routes : List Route) : Usage := { streaming routes with armed := [] }

end Usage

namespace VideoRig

variable {r r' : VideoRig} {u u' : Usage}

/-! ## Steps after which the same is in use -/

/-- The same is in use, and the same calls fail. -/
structure Unmoved (r r' : VideoRig) : Prop where
  plan : r'.machine.plan = r.machine.plan
  describes : ∀ {u : Usage}, u.Describes r → u.Describes r'

theorem Unmoved.refl (r : VideoRig) : r.Unmoved r := ⟨rfl, id⟩

/-- Upkeep moves nothing. -/
theorem Upkeep.unmoved (h : r.Upkeep r') : r.Unmoved r' where
  plan := h.plan
  describes known := by
    refine ⟨⟨?_, ?_⟩, ?_, ?_, ?_⟩
    · rw [h.core]
      exact known.phase.opened
    · rw [h.core]
      exact known.phase.streaming
    · rw [h.own]
      exact known.configuration
    · rw [h.device]
      exact known.committed
    · rw [h.device]
      exact known.armed

/-- Nor does a call that is not about the modes. -/
theorem unmoved_call {c : VideoCall} (h : c.managesModes = false) (r : VideoRig) :
    r.Unmoved (r.call c).2 where
  plan := Machine.call_plan r.machine c
  describes known := by
    have keeps {β : Type} (view : VideoDevice → β)
        (granted : view (r.machine.device.granted c) = view r.machine.device)
        (refused : view (r.machine.device.refused c) = view r.machine.device) :
        view (r.call c).2.machine.device = view r.machine.device :=
      Machine.call_keeps view (VideoDevice.perform_keeps view granted refused)
    refine ⟨known.phase, known.configuration, ?_, ?_⟩
    · rw [← known.committed]
      refine keeps VideoDevice.committed ?_ (by cases c <;> rfl)
      cases c <;> first | rfl | cases h
    · rw [← known.armed]
      refine keeps (·.armed.map (·.1)) ?_ (by cases c <;> rfl)
      cases c <;> first | rfl | cases h

/-- A delivery reaches lanes, and the committed modes are none of theirs. -/
theorem deliverTo_committed (place : Nat) (data : Bytes) (r : VideoRig) :
    (deliverTo place data r).machine.device.committed = r.machine.device.committed := by
  unfold deliverTo
  split <;> rfl

/-- The lanes of an armed mode may change as images arrive, but not which modes are armed. -/
theorem aside_modes (x : VideoAside) (r : VideoRig) :
    (x.apply r).machine.device.committed = r.machine.device.committed ∧
      (x.apply r).machine.device.armed.map (·.1) = r.machine.device.armed.map (·.1) := by
  have taken (place : Nat) (data : Bytes) (r' : VideoRig)
      (h : r'.machine.device.committed = r.machine.device.committed ∧
        r'.machine.device.armed.map (·.1) = r.machine.device.armed.map (·.1)) :
      (deliverTo place data r').machine.device.committed = r.machine.device.committed ∧
        (deliverTo place data r').machine.device.armed.map (·.1) =
          r.machine.device.armed.map (·.1) :=
    ⟨(deliverTo_committed place data r').trans h.1, (deliverTo_modes place data r').trans h.2⟩
  cases x with
  | deliver m data => exact deliver_induction taken m data ⟨rfl, rfl⟩
  | nextRound => exact nextRound_induction taken (fun _ h => h) ⟨rfl, rfl⟩
  | core | registerUnit | registerProcessing | refusePowerOn | refuseCommit => exact ⟨rfl, rfl⟩

theorem aside_unmoved (x : VideoAside) (r : VideoRig) : r.Unmoved (x.apply r) where
  plan := (aside_tame x r).plan
  describes known := by
    obtain ⟨committed, armed⟩ := aside_modes x r
    exact ⟨(aside_beside x r).core.inPhase known.phase,
      (aside_tame x r).configuration.trans known.configuration, committed.trans known.committed,
      armed.trans known.armed⟩

/-! ## The custody -/

/-- The modes of a video endpoint are in the hands of the client with the lock. -/
def mirror : Custody VideoRig (Usage → Prop) where
  sees K r := Obliging r.machine.plan ∧ ∃ u, u.Describes r ∧ K u
  rest := Usage.Mirrored
  may _ _ := True
  beside := Unmoved
  beside_refl := Unmoved.refl
  may_of_beside _ := trivial
  unaffected := by
    intro K r r' sees h
    obtain ⟨obliging, u, known, holds⟩ := sees
    exact ⟨h.plan.symm ▸ obliging, u, h.describes known, holds⟩

/-- A client may know exactly what is in use. -/
abbrev Exactly (u : Usage) : Usage → Prop := (· = u)

/-- The client with the lock may make all calls that are not about the modes, and knows as much
after. -/
theorem tolerates_mirroring : Tolerates (fun c => c.managesModes = false) mirror.holding := by
  have unmoved {K : Usage → Prop} {r r' : VideoRig} (h : Unmoved r r') :
      mirror.holding.may K r r' K :=
    ⟨trivial, fun sees => mirror.unaffected sees h⟩
  exact ⟨fun upkeep => unmoved upkeep.unmoved, fun r _ spares => unmoved (unmoved_call spares r)⟩

/-- So may everybody else. -/
theorem tolerates_mirrored : Tolerates (fun c => c.managesModes = false) mirror.waiting :=
  ⟨fun upkeep => upkeep.unmoved, fun r _ spares => unmoved_call spares r⟩

/-! ## Single steps -/

open Work (Leads)

/-- Where an operation may end. -/
abbrev Reflects (_ : Except EndpointError Unit) (K : Usage → Prop) : Prop := mirror.Rests K

theorem rests_exactly (mirrored : u.Mirrored) : mirror.Rests (Exactly u) := by
  intro r sees
  obtain ⟨obliging, _, known, rfl⟩ := sees
  exact ⟨obliging, _, known, mirrored⟩

/-- A client who looks finds out what is in use. -/
theorem finds_usage {β : Type} (view : VideoRig → β) :
    (Procedure.look view).Follows mirror.holding
      (fun b K => ∃ u r, u.Mirrored ∧ u.Describes r ∧ view r = b ∧ K = Exactly u)
      Usage.Mirrored := by
  intro r sees
  obtain ⟨obliging, u, known, mirrored⟩ := sees
  exact ⟨Exactly u, ⟨trivial, fun _ => ⟨obliging, u, known, rfl⟩⟩, u, r, mirrored, known, rfl, rfl⟩

/-- An operation that begins with its check goes on where it is admitted, knowing what is in
use. -/
theorem reflects_guarded {t : Transition} {view : Core → Except EndpointError Unit}
    {f : Unit → Work VideoRig Unit}
    (guards : ∀ {c : Core} {p : Phase}, c.InPhase p → p.Guards t (view c))
    (hf : ∀ {u : Usage}, u.Mirrored → u.phase.refuses t = false →
      (f ()).Follows mirror.holding Reflects (Exactly u)) :
    (Work.check (fun r => view r.core) >>= f).Follows mirror.holding Reflects Usage.Mirrored := by
  have check : (Work.check fun r : VideoRig => view r.core).Follows mirror.holding _ _ :=
    finds_usage fun r => view r.core
  refine check.bind ?_ ?_
  · intro _ K hK
    obtain ⟨u, r, mirrored, known, ok, rfl⟩ := hK
    rcases guards known.phase with ⟨-, _, blames⟩ | ⟨admits, -⟩
    · cases ok.symm.trans blames
    · exact hf mirrored admits
  · intro e K hK
    obtain ⟨u, -, mirrored, -, -, rfl⟩ := hK
    exact rests_exactly mirrored

/-- A step of the endpoint itself. -/
theorem follows_turned {f : VideoRig → VideoRig} (machine : ∀ r, (f r).machine = r.machine)
    (turn : ∀ r : VideoRig, u.Describes r → (f r).core.InPhase u'.phase)
    (configuration : ∀ r : VideoRig, u.Describes r → (f r).own.configuration = u'.configuration)
    (committed : u'.committed = u.committed) (armed : u'.armed = u.armed) :
    (Procedure.change f).Follows mirror.holding (fun _ K => K = Exactly u') (Exactly u) := by
  refine Procedure.follows_change fun r _ => ⟨Exactly u', ⟨trivial, fun sees => ?_⟩, rfl⟩
  obtain ⟨obliging, _, known, rfl⟩ := sees
  refine ⟨(machine r).symm ▸ obliging, u', ⟨turn r known, configuration r known, ?_, ?_⟩, rfl⟩
  · rw [machine, committed]
    exact known.committed
  · rw [machine, armed]
    exact known.armed

/-- A step that is not about the modes, or the phase. -/
theorem mirrors_calm {f : Core → Core} (calm : ∀ c : Core, c.Calm (f c)) :
    (Procedure.change (Rig.mapCore f) : Procedure VideoRig Unit).Follows mirror.holding
      (fun _ K => K = Exactly u) (Exactly u) :=
  follows_turned (fun _ => rfl) (fun r known => (calm r.core).inPhase known.phase)
    (fun _ known => known.configuration) rfl rfl

/-- The device has granted a call. -/
theorem describes_of_granted {c : VideoCall} (known : u.Describes r)
    (device : (r.call c).2.machine.device = r.machine.device.granted c)
    (committed : (r.machine.device.granted c).committed = u'.committed)
    (armed : (r.machine.device.granted c).armed.map (·.1) = u'.armed)
    (phase : u'.phase = u.phase) (configuration : u'.configuration = u.configuration) :
    u'.Describes (r.call c).2 := by
  refine ⟨phase ▸ known.phase, ?_, ?_, ?_⟩
  · rw [configuration]
    exact known.configuration
  · rw [device, committed]
  · rw [device, armed]

theorem describes_of_same {c : VideoCall} (known : u.Describes r)
    (device : (r.call c).2.machine.device = r.machine.device) : u.Describes (r.call c).2 := by
  refine ⟨known.phase, known.configuration, ?_, ?_⟩
  · rw [device, known.committed]
  · rw [device, known.armed]

/-- A call that takes no effect where it fails. -/
theorem leads_request {c : VideoCall} (early : ∀ {plan}, Obliging plan → plan.Early c)
    (other : c ≠ .enumerate)
    (grants : ∀ {r : VideoRig}, u.Describes r →
      (r.call c).2.machine.device = r.machine.device.granted c → u'.Describes (r.call c).2) :
    (Rig.request c : Work VideoRig _).Follows mirror.holding (Leads (Exactly u') (Exactly u))
      (Exactly u) := by
  refine Rig.follows_request fun r sees => ?_
  obtain ⟨obliging, _, known, rfl⟩ := sees
  have plan : Obliging (r.call c).2.machine.plan := (Machine.call_plan r.machine c).symm ▸ obliging
  rcases Machine.call_of_early (early obliging) other with
    ⟨a, ok, granted⟩ | ⟨cause, error, same⟩
  · refine ⟨Exactly u', ⟨trivial, fun _ => ⟨plan, u', grants known granted, rfl⟩⟩, ?_⟩
    rw [show (r.call c).1 = .ok a from ok]
    rfl
  · refine ⟨Exactly _, ⟨trivial, fun _ => ⟨plan, _, describes_of_same known same, rfl⟩⟩, ?_⟩
    rw [show (r.call c).1 = .error cause from error]
    rfl

/-- A call that never fails. -/
theorem follows_granted {c : VideoCall} {a : c.Reply}
    (spares : ∀ {plan}, Obliging plan → plan.Spares c)
    (does : ∀ {r : VideoRig}, u.Describes r →
      VideoDevice.perform c r.machine.device = (.ok a, r.machine.device.granted c))
    (grants : ∀ {r : VideoRig}, u.Describes r →
      (r.call c).2.machine.device = r.machine.device.granted c → u'.Describes (r.call c).2) :
    (Rig.attempt c : Procedure VideoRig _).Follows mirror.holding
      (fun reply K => reply = .ok a ∧ K = Exactly u') (Exactly u) := by
  refine Rig.follows_attempt fun r sees => ?_
  obtain ⟨obliging, _, known, rfl⟩ := sees
  obtain ⟨ok, granted⟩ := Machine.call_of_spared (spares obliging) (does known)
  refine ⟨Exactly u', ⟨trivial, fun _ => ⟨?_, u', grants known granted, rfl⟩⟩, ok, rfl⟩
  exact (Machine.call_plan r.machine c).symm ▸ obliging

/-- The first of the modes still committed is closed. -/
theorem follows_closing {m : NativeMode} (committed : m ∈ u.committed) :
    (Rig.attempt (VideoCall.close m) : Procedure VideoRig _).Follows mirror.holding
      (fun reply K => reply = .ok () ∧
        K = Exactly { u with committed := u.committed.erase m }) (Exactly u) := by
  refine follows_granted (fun obliging => obliging.close m) (fun known => ?_)
    fun known granted => ?_
  · exact VideoDevice.perform_close (known.committed.symm ▸ committed)
  · exact describes_of_granted known granted (congrArg (·.erase m) known.committed) known.armed
      rfl rfl

/-! ## Committing and closing -/

/-- Modes are closed in the reverse of the order in which they were committed. -/
theorem mirrors_rollBack (done : List NativeMode) (once : done.Nodup) :
    (rollBack done).Follows mirror.holding (fun _ K => K = Exactly Usage.closed)
      (Exactly (.committing done.reverse)) := by
  induction done with
  | nil => exact Procedure.follows_pure rfl
  | cons m done ih =>
    obtain ⟨fresh, once⟩ := List.nodup_cons.1 once
    have last : (m :: done).reverse.erase m = done.reverse := by
      rw [List.reverse_cons, List.erase_append_right _ (by simpa using fresh)]
      simp
    unfold rollBack
    refine Procedure.Follows.bind (follows_closing (by simp [Usage.committing])) ?_
    intro reply K hK
    obtain ⟨rfl, rfl⟩ := hK
    rw [show (Usage.committing (m :: done).reverse).committed.erase m = _ from last]
    exact ih once

/-- All modes are committed, or none. -/
theorem mirrors_commitAll (done ms : List NativeMode) (once : (done.reverse ++ ms).Nodup) :
    (commitAll done ms).Follows mirror.holding
      (Leads (Exactly (.committing (done.reverse ++ ms))) (Exactly .closed))
      (Exactly (.committing done.reverse)) := by
  induction ms generalizing done with
  | nil => exact Work.follows_pure (by simp [Leads])
  | cons m ms ih =>
    have commit : (Rig.request (VideoCall.commit m) : Work VideoRig _).Follows mirror.holding
        (Leads (Exactly (.committing (m :: done).reverse)) (Exactly (.committing done.reverse)))
        (Exactly (.committing done.reverse)) := by
      refine leads_request (fun obliging => obliging.late.early _) (fun h => nomatch h) ?_
      intro r known granted
      have committed : r.machine.device.committed ++ [m] = (m :: done).reverse := by
        rw [List.reverse_cons]
        exact congrArg (· ++ [m]) known.committed
      exact describes_of_granted known granted committed known.armed rfl rfl
    have before : done.Nodup := List.nodup_reverse.1 (List.nodup_append.1 once).1
    have after : (done.reverse ++ m :: ms) = (m :: done).reverse ++ ms := by simp
    unfold commitAll
    rw [after] at once ⊢
    exact (commit.clearing (mirrors_rollBack done before)).leading (fun _ => ih _ once)
      fun _ => rfl

/-- Each mode is the first of those still committed when its turn comes. -/
theorem mirrors_closeAll {routes : List Route} (ms : List NativeMode) :
    (closeAll ms).Follows mirror.holding
      (fun _ K => K = Exactly (.closing routes [])) (Exactly (.closing routes ms)) := by
  induction ms with
  | nil => exact Procedure.follows_pure rfl
  | cons m ms ih =>
    unfold closeAll
    refine Procedure.Follows.bind (follows_closing (by simp [Usage.closing])) ?_
    intro reply K hK
    obtain ⟨rfl, rfl⟩ := hK
    rw [show (Usage.closing routes (m :: ms)).committed.erase m = ms from List.erase_cons_head ..]
    exact ih

/-! ## Operations with the lock -/

/-- There is one stream for each mode. -/
theorem streamsFor_modes (layout : ClockLayout) (routes : List Route) :
    (streamsFor layout routes).map (·.1) = routedModes routes := by
  unfold streamsFor
  rw [List.map_map]
  exact List.map_id _

/-- The last step of an operation. -/
theorem reflects_last {p : Procedure VideoRig Unit} {K : Usage → Prop} (mirrored : u.Mirrored)
    (hp : p.Follows mirror.holding (fun _ K => K = Exactly u) K) :
    (Work.ofProcedure p).Follows mirror.holding Reflects K := by
  refine Work.follows_ofProcedure (Procedure.Follows.mono ?_ hp)
  intro _ K hK
  rw [hK]
  exact rests_exactly mirrored

/-- An opening that fails leaves nothing committed. -/
theorem openStreams_mirrors (requests : List StreamRequest) :
    (openStreams requests).Follows mirror.holding Reflects Usage.Mirrored := by
  have tolerates := tolerates_mirroring
  refine reflects_guarded (Core.checkOpen_guards title) fun mirrored admitted => ?_
  cases mirrored with
  | opened | streaming => cases admitted
  | closed =>
    have rests := rests_exactly .closed
    have configure (routes : List Route) : (Procedure.change fun r : VideoRig =>
        { r with own := { r.own with configuration := routes },
                 core := { r.core with opened := true } }).Follows mirror.holding
          (fun _ K => K = Exactly (.opened routes)) (Exactly (.committing (routedModes routes))) :=
      follows_turned (fun _ => rfl) (fun _ known => ⟨rfl, known.phase.streaming⟩) (fun _ _ => rfl)
        rfl rfl
    refine Work.follows_after tolerates.acquire (fun _ => rests) fun _ => ?_
    refine Work.follows_backing_out (fun _ => tolerates.release) ?_
    refine Work.follows_after (tolerates.resolve (fun _ h => h) requests) (fun _ => rests)
      fun routes => ?_
    -- No mode is committed twice, so closing one again does not close another.
    have once : (routedModes routes).Nodup := nodup_distinct _
    refine (mirrors_commitAll [] (routedModes routes) once).leading (fun _ => ?_) fun _ => rests
    refine Work.follows_then tolerates.report fun _ => ?_
    exact reflects_last (.opened routes) (configure routes)

/-- A closing leaves nothing committed, either. -/
theorem close_mirrors : close.Follows mirror.holding Reflects Usage.Mirrored := by
  have tolerates := tolerates_mirroring
  refine reflects_guarded (Core.checkClose_guards title) fun mirrored admitted => ?_
  cases mirrored with
  | closed | streaming => cases admitted
  | opened routes =>
    have configuration (r : VideoRig) (sees : mirror.sees (Exactly (.opened routes)) r) :
        r.own.configuration = routes := by
      obtain ⟨-, _, known, rfl⟩ := sees
      exact known.configuration
    have forget : (Procedure.change fun r : VideoRig =>
        { r with own := { r.own with configuration := [] },
                 core := { r.core with opened := false } }).Follows mirror.holding
          (fun _ K => K = Exactly .closed) (Exactly (.closing routes [])) :=
      follows_turned (fun _ => rfl) (fun _ known => ⟨rfl, known.phase.streaming⟩) (fun _ _ => rfl)
        rfl rfl
    refine Work.follows_knowing configuration ?_
    refine Work.follows_then (mirrors_closeAll (routedModes routes)) fun complaint => ?_
    refine Work.follows_then forget fun _ => ?_
    refine Work.follows_then tolerates.release fun _ => ?_
    refine Work.follows_then tolerates.report fun _ => ?_
    -- A complaint is answered, but under this schedule it would have left nothing committed,
    -- either.
    cases complaint with
    | none => exact rests_exactly .closed
    | some cause => exact rests_exactly .closed

/-- What is armed is what is committed, one stream for each mode. -/
theorem start_mirrors (policy : Nat → Handling) :
    (start { policy }).Follows mirror.holding Reflects Usage.Mirrored := by
  have tolerates := tolerates_mirroring
  refine reflects_guarded (Core.checkStart_guards title) fun mirrored admitted => ?_
  cases mirrored with
  | closed | streaming => cases admitted
  | opened routes =>
    have rests := rests_exactly (.opened routes)
    have make : (Work.look fun r : VideoRig => streamsFor r.own.layout r.own.configuration).Follows
        mirror.holding (fun a K => ∃ made, a = .ok made ∧ made.map (·.1) = routedModes routes ∧
          K = Exactly (.opened routes)) (Exactly (.opened routes)) := by
      refine Work.follows_look fun r sees => ⟨_, rfl, ?_, rfl⟩
      obtain ⟨-, _, known, rfl⟩ := sees
      have configuration : r.own.configuration = routes := known.configuration
      rw [configuration, streamsFor_modes]
    have arm {made : List (NativeMode × VideoSink)} (modes : made.map (·.1) = routedModes routes) :
        (Rig.request (VideoCall.streamOn made) : Work VideoRig _).Follows mirror.holding
          (Leads (Exactly (.waking routes)) (Exactly (.opened routes)))
          (Exactly (.opened routes)) := by
      refine leads_request (fun obliging => obliging.late.early _) (fun h => nomatch h) ?_
      intro r known granted
      have armed : (r.machine.device.armed ++ made).map (·.1) = routedModes routes := by
        rw [List.map_append, known.armed, modes]
        rfl
      exact describes_of_granted known granted known.committed armed rfl rfl
    have awaken : (Procedure.change fun r : VideoRig =>
        { r with core := { r.core with streaming := true } }).Follows mirror.holding
          (fun _ K => K = Exactly (.streaming routes)) (Exactly (.waking routes)) :=
      follows_turned (fun _ => rfl) (fun _ known => ⟨known.phase.opened, rfl⟩)
        (fun _ known => known.configuration) rfl rfl
    -- The device is the last to fail: what it has armed it has armed for good.
    refine Work.follows_after tolerates.acquire (fun _ => rests) fun _ => ?_
    refine Work.follows_backing_out (fun _ => tolerates.release) ?_
    refine Work.follows_then (mirrors_calm fun c => Core.calm_engage c _) fun _ => ?_
    refine Work.follows_then (tolerates.change warnOfLayout_upkeep) fun _ => ?_
    refine make.bind ?_ fun _ _ hK => nomatch hK.choose_spec.1
    intro _ K hK
    obtain ⟨made, ok, modes, rfl⟩ := hK
    cases ok
    refine ((arm modes).clearing (mirrors_calm Core.calm_dismiss)).leading (fun _ => ?_)
      fun _ => rests
    refine Work.follows_then awaken fun _ => ?_
    exact reflects_last (.streaming routes) tolerates.report

/-- Disarming takes effect under this schedule, so nothing is armed in the end. -/
theorem stop_mirrors : stop.Follows mirror.holding Reflects Usage.Mirrored := by
  have tolerates := tolerates_mirroring
  have look : (Work.look fun r : VideoRig => r.core.streaming).Follows mirror.holding
      (fun a K => ∃ u : Usage, u.Mirrored ∧ a = .ok u.phase.isStreaming ∧ K = Exactly u)
      Usage.Mirrored := by
    refine Work.follows_ofProcedure (Procedure.Follows.mono ?_ (finds_usage _))
    intro b K hK
    obtain ⟨u, r, mirrored, known, rfl, rfl⟩ := hK
    exact ⟨u, mirrored, congrArg Except.ok known.phase.streaming, rfl⟩
  refine look.bind ?_ fun _ _ hK => nomatch hK.choose_spec.2.1
  intro _ K hK
  obtain ⟨u, mirrored, streams, rfl⟩ := hK
  cases streams
  cases mirrored with
  | closed => exact rests_exactly .closed
  | opened routes => exact rests_exactly (.opened routes)
  | streaming routes =>
    have disarm : (Rig.attempt VideoCall.streamOff : Procedure VideoRig _).Follows mirror.holding
        (fun _ K => K = Exactly (.silenced routes)) (Exactly (.streaming routes)) := by
      refine Procedure.Follows.mono (fun _ _ hK => hK.2) (follows_granted
        (fun obliging => obliging.streamOff) (fun _ => VideoDevice.perform_streamOff) ?_)
      intro r known granted
      exact describes_of_granted known granted known.committed rfl rfl rfl
    have halt : (Procedure.change fun r : VideoRig =>
        { r with core := { r.core with streaming := false } }).Follows mirror.holding
          (fun _ K => K = Exactly (.opened routes)) (Exactly (.silenced routes)) :=
      follows_turned (fun _ => rfl) (fun _ known => ⟨known.phase.opened, rfl⟩)
        (fun _ known => known.configuration) rfl rfl
    refine Work.follows_then disarm fun result => ?_
    refine Work.follows_then halt fun _ => ?_
    refine Work.follows_then (mirrors_calm Core.calm_dismiss) fun _ => ?_
    refine Work.follows_then Rig.follows_flush fun _ => ?_
    refine Work.follows_then tolerates.release fun _ => ?_
    refine Work.follows_then tolerates.report fun _ => ?_
    -- The answer may be an error, but what is in use does not depend on it.
    cases result with
    | ok _ => exact rests_exactly (.opened routes)
    | error cause => exact rests_exactly (.opened routes)

/-! ## Everything that clients do -/

/-- Whoever has the lock passes on what mirrors the device; nobody else touches it. -/
theorem mirror_fits : mirror.Fits VideoOp.SparesModes where
  locking := by
    intro op transition
    cases op with
    | openStreams requests => exact openStreams_mirrors requests
    | close => exact close_mirrors
    | start policy => exact start_mirrors policy
    | stop => exact stop_mirrors
    | modes | principal | resolve | flush | control | powered => cases transition
  free := by
    intro op transition admitted
    exact Work.Follows.mono (fun _ _ _ => trivial)
      (tolerates_mirrored.free (fun _ h => h) transition admitted)
  take := by
    intro g r gate
    cases gate
    exact (acquire_upkeep r).unmoved
  drop := by
    intro g r gate
    cases gate
    exact (release_upkeep r).unmoved
  aside x sees := mirror.unaffected sees (aside_unmoved x _)

/-! ## The mirror -/

variable {capacity limit : Nat} {layout : ClockLayout} {device : VideoDevice}
  {plan : FaultPlan VideoCall} {c : Crowd VideoRig}

/-- Where failing calls take no effect and neither disarming nor closing fails, the device has
committed, between operations, exactly the modes of the configuration, each once and in the order
in which they first occur, if the endpoint is opened, and otherwise none; then there is no
configuration either. Exactly the same modes are armed if the endpoint streams, and otherwise
none. -/
theorem device_mirrors_endpoint (obliging : Obliging plan) (uncommitted : device.committed = [])
    (unarmed : device.armed = [])
    (h : Crowd.Reaches VideoOp.SparesModes (unattended capacity limit layout device plan) c)
    (free : c.holder = none) :
    c.rig.machine.device.committed =
        (if c.rig.core.opened then routedModes c.rig.own.configuration else []) ∧
      c.rig.machine.device.armed.map (·.1) =
        (if c.rig.core.streaming then routedModes c.rig.own.configuration else []) ∧
      (c.rig.core.opened = false → c.rig.own.configuration = []) ∧
      (∀ m, m ∈ routedModes c.rig.own.configuration ↔
        ∃ route ∈ c.rig.own.configuration, route.source.mode = m) ∧
      (routedModes c.rig.own.configuration).Nodup ∧
      (routedModes c.rig.own.configuration).Pairwise fun m n =>
        (c.rig.own.configuration.map (·.source.mode)).idxOf m <
          (c.rig.own.configuration.map (·.source.mode)).idxOf n := by
  have fresh : mirror.sees Usage.Mirrored (unattended capacity limit layout device plan).rig := by
    refine ⟨obliging, .closed, ⟨⟨rfl, rfl⟩, rfl, uncommitted, ?_⟩, .closed⟩
    exact congrArg (List.map _) unarmed
  have kept := Custody.kept_of_reaches mirror_fits (Custody.kept_of_rest fresh rfl rfl) h
  obtain ⟨-, u, known, mirrored⟩ := kept.at_rest free
  have modes (m : NativeMode) : m ∈ routedModes c.rig.own.configuration ↔
      ∃ route ∈ c.rig.own.configuration, route.source.mode = m := by
    rw [routedModes, mem_distinct, List.mem_map]
  refine ⟨?_, ?_, ?_, modes, nodup_distinct _, pairwise_distinct _⟩
  · rw [known.committed, known.phase.opened, known.configuration]
    cases mirrored <;> rfl
  · rw [known.armed, known.phase.streaming, known.configuration]
    cases mirrored <;> rfl
  · rw [known.phase.opened, known.configuration]
    intro shut
    cases mirrored with
    | closed => rfl
    | opened | streaming => cases shut

/-- The mode of a small camera whose images are read in two ways. -/
def shared : NativeMode := ⟨2, 1, 30, .grey⟩

/-- The first attempt to commit a mode fails. -/
def balky : FaultPlan VideoCall
  | 2, .commit _ => some { cause := ⟨"not now", []⟩ }
  | _, _ => none

theorem balky_obliging : Obliging balky where
  late n c fault h := by
    unfold balky at h
    split at h
    · cases h
      rfl
    · cases h
  streamOff n := by
    unfold balky
    split
    next h => cases h
    next => rfl
  close m n := by
    unfold balky
    split
    next h => cases h
    next => rfl

/-- After an opening that failed, another one succeeds, with two requests for one mode. -/
theorem shared_mirrored : ∃ c : Crowd VideoRig,
    Crowd.Reaches VideoOp.SparesModes (unattended 4 4 {} { offered := [shared] } balky) c ∧
      c.rig.own.configuration.length = 2 ∧ c.rig.machine.device.committed = [shared] ∧
      c.rig.machine.device.armed.map (·.1) = [shared] := by
  let camera : Crowd VideoRig := unattended 4 4 {} { offered := [shared] } balky
  let gray : VideoAside := .core (.registerFormat .y8)
  let tinted : VideoAside := .core (.registerFormat (.single .grey 1 .color .yuyv))
  let opening : VideoOp := .openStreams [{ channel := .infrared }, { channel := .color }]
  let starting : VideoOp := .start fun _ => .hold
  have computed : (do
      let (refused, r) ← opening.work.run.outcome? (tinted.apply (gray.apply camera.rig))
      let r ← Served.inTurn? [opening, starting] r
      return !refused.isOk && r.core.opened && r.core.streaming &&
        r.own.configuration.length = 2 && routedModes r.own.configuration = [shared]) =
        some true := by
    decide +kernel
  simp only [Option.bind_eq_bind, Option.bind_eq_some_iff, Prod.exists, Option.pure_def,
    Option.some.injEq, Bool.and_eq_true, decide_eq_true_eq] at computed
  obtain ⟨refused, r₁, failed, r₂, streams,
    ⟨⟨⟨-, isOpened⟩, isStreaming⟩, routed⟩, modes⟩ := computed
  have fresh : Crowd.Reaches VideoOp.SparesModes camera camera := .refl
  have atRefused := ((fresh.aside gray).aside tinted).served rfl rfl
    (Procedure.run_of_outcome? failed)
  have atStarted := atRefused.inTurn rfl streams
  obtain ⟨committed, armed, -⟩ := device_mirrors_endpoint balky_obliging rfl rfl atStarted rfl
  change r₂.core.opened = true at isOpened
  refine ⟨_, atStarted, routed, ?_, ?_⟩
  · rw [committed, if_pos isOpened, modes]
  · rw [armed, if_pos isStreaming, modes]

end VideoRig

end Sensing
