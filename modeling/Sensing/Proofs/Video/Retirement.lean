import Sensing.Proofs.Clients.Answers
import Sensing.Proofs.Frame.Offering
import Sensing.Proofs.Video.Mirror

/-!
# Seeing a video endpoint off

An endpoint that the application has dropped gives no reference back: releasing one does nothing any
more, neither when a client drops a gate that is left nor when the endpoint stops and closes. So the
count stands still until the device is powered down at the end, once, if anything was counted.

Nobody else makes calls by then, so whoever sees the endpoint off knows everything about the device
at each step (`Farewell`). `Farewell.gone` is where it comes to, whatever the device delivers
meanwhile (`VideoRig.retire_leaves`).
-/

namespace Sensing

/-- The fault schedules under which failing calls take no effect, and neither disarming nor closing
nor powering down fails. -/
structure Yielding (plan : FaultPlan VideoCall) : Prop extends Obliging plan where
  powerOff : plan.Spares (.setPower .d3)

/-- A sound device yields. -/
theorem yielding_sound : Yielding .sound :=
  { punctual_sound with
    close _ _ := rfl
    powerOff _ := rfl }

/-- What there is of a video endpoint that is being seen off, and of its device. -/
structure Farewell where
  usage : Usage
  /-- Whether the application still has the endpoint. -/
  alive : Bool
  users : Nat
  power : PowerState
  /-- All that the device has recorded. -/
  events : List VideoEvent

namespace Farewell

open VideoRig (routedModes)

/-- There is this, and no call that is left to be made fails. -/
structure Describes (v : Farewell) (r : VideoRig) : Prop where
  plan : Yielding r.machine.plan
  usage : v.usage.Describes r
  alive : r.core.alive = v.alive
  users : r.own.users = v.users
  power : r.machine.device.power = v.power
  events : r.machine.device.events = v.events

def orphaned (v : Farewell) : Farewell := { v with alive := false }

/-- The device is disarmed, if it was armed. -/
def stopped (v : Farewell) : Farewell :=
  if v.usage.phase = .streaming then
    { v with usage := .opened v.usage.configuration, events := v.events ++ [.streamOff] }
  else v

/-- The modes of the configuration are closed. -/
def shut (v : Farewell) : Farewell :=
  { v with
    usage := .closed
    events := v.events ++ (routedModes v.usage.configuration).map .closed }

/-- The device is powered down, if there are users. -/
def unpowered (v : Farewell) : Farewell :=
  if v.users = 0 then v
  else { v with users := 0, power := .d3, events := v.events ++ [.powerOff] }

/-- All of this, one after the other. -/
def gone (v : Farewell) : Farewell := v.orphaned.stopped.shut.unpowered

variable (v : Farewell)

@[simp] theorem stopped_users : v.stopped.users = v.users := by
  unfold stopped
  split <;> rfl

@[simp] theorem stopped_power : v.stopped.power = v.power := by
  unfold stopped
  split <;> rfl

@[simp] theorem stopped_alive : v.stopped.alive = v.alive := by
  unfold stopped
  split <;> rfl

variable {v} in
/-- After the stop there is either nothing left to close or all of a configuration. -/
theorem stopped_usage (mirrored : v.usage.Mirrored) :
    v.stopped.usage = .closed ∨ ∃ routes, v.stopped.usage = .opened routes := by
  obtain ⟨usage, _, _, _, _⟩ := v
  cases mirrored with
  | closed => exact .inl rfl
  | opened routes | streaming routes => exact .inr ⟨routes, rfl⟩

variable {v} in
/-- Where nothing is configured, nothing is closed. -/
theorem shut_of_closed (closed : v.usage = .closed) : v.shut = v := by
  unfold shut
  rw [← closed, show v.usage.configuration = [] by rw [closed]; rfl]
  exact congrArg (fun events => { v with events }) (List.append_nil v.events)

/-- Whatever was in use, nothing is in the end. -/
theorem gone_usage : v.gone.usage = .closed := by
  unfold gone unpowered
  split <;> rfl

theorem gone_alive : v.gone.alive = false := by
  have still : v.orphaned.stopped.shut.alive = false := stopped_alive v.orphaned
  unfold gone unpowered
  split <;> exact still

/-- The device is off, if it was off already where nobody counted on its power. -/
theorem gone_power (off : v.users = 0 → v.power = .d3) : v.gone.power = .d3 := by
  have users : v.orphaned.stopped.shut.users = v.users := stopped_users v.orphaned
  have power : v.orphaned.stopped.shut.power = v.power := stopped_power v.orphaned
  unfold gone unpowered
  split
  next none => exact power.trans (off (users ▸ none))
  next => rfl

/-- What is recorded meanwhile. -/
theorem gone_events (mirrored : v.usage.Mirrored) : v.gone.events = v.events ++
    ((if v.usage.phase.isStreaming then [.streamOff] else []) ++
      (if v.usage.phase.isOpened then (routedModes v.usage.configuration).map .closed else []) ++
      if 0 < v.users then [.powerOff] else []) := by
  have users : v.orphaned.stopped.shut.users = v.users := stopped_users v.orphaned
  have shut : v.orphaned.stopped.shut.events = v.events ++
      ((if v.usage.phase.isStreaming then [.streamOff] else []) ++
      if v.usage.phase.isOpened then (routedModes v.usage.configuration).map .closed else []) := by
    obtain ⟨usage, _, _, _, events⟩ := v
    cases mirrored with
    | closed => rfl
    | opened routes => rfl
    | streaming routes => exact List.append_assoc events [.streamOff] _
  unfold gone unpowered
  rw [users]
  split
  next none =>
    rw [none, shut]
    simp
  next some =>
    rw [if_pos (Nat.pos_of_ne_zero some)]
    show _ ++ _ = _
    rw [shut, List.append_assoc]

end Farewell

namespace VideoRig

variable {r r' : VideoRig} {v v' : Farewell}

/-! ## What can still be done with an endpoint that was dropped -/

/-- Giving a reference back does nothing. -/
theorem release_orphaned (orphaned : r.core.alive = false) : release r = r := by
  unfold release
  rw [orphaned]
  rfl

/-- The control finds its endpoint gone. -/
theorem forControl_orphaned (orphaned : r.core.alive = false) (id : ControlId) {α : Type}
    (work : Procedure VideoRig (Except Cause α)) :
    ∃ cause, (forControl id work).run r = .finished (.error cause) r := by
  refine ⟨⟨s!"endpoint owning {id.label} was dropped", []⟩, ?_⟩
  unfold forControl
  rw [Procedure.run_bind]
  show Procedure.followedBy (.finished r.core.alive r) _ = _
  rw [orphaned]
  rfl

/-- Controls that ask the device something fail, and no call is made. -/
theorem callProcessing_orphaned (orphaned : r.core.alive = false) (id : ControlId)
    (call : ControlCall) : ∃ answer, (callProcessing id call).run r = .finished answer r ∧
      (call ≠ .enabled → call ≠ .description → ∃ cause, answer = .error cause) := by
  have asks {α : Type} (work : Procedure VideoRig (Except Cause α)) (f : α → ControlAnswer) :
      ∃ cause, (do return (← forControl id work).map f : Procedure VideoRig _).run r =
        .finished (.error cause) r := by
    obtain ⟨cause, fails⟩ := forControl_orphaned orphaned id work
    refine ⟨cause, ?_⟩
    rw [Procedure.run_bind, fails]
    rfl
  cases call with
  | query =>
    obtain ⟨cause, fails⟩ := asks (Rig.attempt (VideoCall.readControl id)) _
    exact ⟨_, fails, fun _ _ => ⟨cause, rfl⟩⟩
  | set value =>
    obtain ⟨cause, fails⟩ := asks (Rig.attempt (VideoCall.writeControl id _)) _
    exact ⟨_, fails, fun _ _ => ⟨cause, rfl⟩⟩
  | range =>
    obtain ⟨cause, fails⟩ := asks (Rig.attempt (VideoCall.controlRange id)) _
    exact ⟨_, fails, fun _ _ => ⟨cause, rfl⟩⟩
  | enabled => exact ⟨_, rfl, fun other => absurd rfl other⟩
  | description => exact ⟨_, rfl, fun _ other => absurd rfl other⟩

/-- What may happen while an endpoint is seen off, and afterwards: the asides and, once the
application has dropped it, clients who drop gates or use controls that they still have. -/
inductive Meanwhile (r : VideoRig) : VideoRig → Prop where
  | aside (x : VideoAside) : Meanwhile r (x.apply r)
  | drop (orphaned : r.core.alive = false) : Meanwhile r (release r)
  | control {id : ControlId} {call : ControlCall} {answer : Except Cause ControlAnswer}
      {r' : VideoRig} (orphaned : r.core.alive = false)
      (asked : (callProcessing id call).run r = .finished answer r') : Meanwhile r r'

/-! ## What is known -/

/-- Whoever sees an endpoint off knows everything about it, without any guarantee. -/
def farewell : Knowledge VideoRig Farewell where
  tells := Farewell.Describes
  holds _ := True

/-- What may happen meanwhile changes nothing that is known. -/
theorem meanwhile_spares (h : r.Meanwhile r') : farewell.Spares r r' := by
  intro v known
  cases h with
  | aside x =>
    have beside := aside_beside x r
    exact ⟨beside.plan.symm ▸ known.plan, (aside_unmoved x r).describes known.usage,
      beside.core.alive.trans known.alive, beside.users.trans known.users,
      beside.power.trans known.power, beside.events.trans known.events⟩
  | drop orphaned =>
    rw [release_orphaned orphaned]
    exact known
  | control orphaned asked =>
    obtain ⟨_, unchanged, -⟩ := callProcessing_orphaned orphaned _ _
    cases unchanged.symm.trans asked
    exact known

/-- Reading the state tells nothing new. -/
theorem farewell_reads : farewell.Reads fun _ => True := by
  have spares (r : VideoRig) (log : List LogLine) (modes : Once (List NativeMode)) :
      farewell.Spares r { r with core := { r.core with log, modes } } := by
    intro v known
    have upkeep : Upkeep r { r with core := { r.core with log, modes } } := ⟨rfl, rfl, rfl, rfl⟩
    exact ⟨known.plan, upkeep.unmoved.describes known.usage, known.alive, known.users, known.power,
      known.events⟩
  exact ⟨fun r log => spares r log r.core.modes, fun _ _ => trivial,
    fun r modes _ => spares r r.core.log ⟨some modes⟩⟩

/-! ## Single steps -/

/-- A call that never fails and that the device grants. -/
theorem farewell_attempts {c : VideoCall} {a : c.Reply}
    (spares : ∀ {plan}, Yielding plan → plan.Spares c)
    (grants : ∀ {r : VideoRig}, v.Describes r →
      VideoDevice.perform c r.machine.device = (.ok a, r.machine.device.granted c))
    (does : ∀ {r : VideoRig}, v.Describes r →
      (r.call c).2.machine.device = r.machine.device.granted c → v'.Describes (r.call c).2) :
    (Rig.attempt c : Procedure VideoRig _).Follows farewell.holding
      (Sure fun reply w => reply = .ok a ∧ w = v') (some v) := by
  refine Knowledge.turns_attempt fun r _ known _ => ?_
  obtain ⟨answer, device⟩ := Machine.call_of_spared (m := r.machine) (spares known.plan)
    (grants known)
  exact ⟨v', does known device, answer, rfl⟩

/-- A granted call that is not about the power and is recorded. -/
theorem describes_recorded {c : VideoCall} {u : Usage} {e : VideoEvent} (known : v.Describes r)
    (device : (r.call c).2.machine.device = r.machine.device.granted c)
    (usage : u.Describes (r.call c).2)
    (records : r.machine.device.granted c =
      { r.machine.device.granted c with
        power := r.machine.device.power
        events := r.machine.device.events ++ [e] }) :
    Farewell.Describes { v with usage := u, events := v.events ++ [e] } (r.call c).2 := by
  rw [records] at device
  obtain ⟨plan, -, alive, users, power, events⟩ := known
  refine ⟨(Machine.call_plan r.machine c).symm ▸ plan, usage, alive, users,
    (congrArg VideoDevice.power device).trans power, ?_⟩
  rw [← events]
  exact congrArg VideoDevice.events device

/-- Nobody's reference is given back. -/
theorem farewell_releases (orphaned : v.alive = false) :
    (Procedure.change release).Follows farewell.holding (Sure fun _ w => w = v) (some v) := by
  refine Knowledge.turns_change fun r _ known => ?_
  rw [release_orphaned (known.alive.trans orphaned)]
  exact known

/-- A calm change of the shared state leaves all as it is. -/
theorem farewell_calms {f : Core → Core} (calm : ∀ c : Core, c.Calm (f c)) :
    (Procedure.change (Rig.mapCore f) : Procedure VideoRig Unit).Follows farewell.holding
      (Sure fun _ w => w = v) (some v) := by
  refine Knowledge.turns_change fun r _ known => ?_
  obtain ⟨plan, ⟨phase, configuration, committed, armed⟩, alive, users, power, events⟩ := known
  exact ⟨plan, ⟨(calm r.core).inPhase phase, configuration, committed, armed⟩,
    (calm r.core).alive.trans alive, users, power, events⟩

/-- The device is powered down if anything was counted, and nothing is counted then. -/
theorem farewell_cutPower :
    (Procedure.change cutPower).Follows farewell.holding (Sure fun _ w => w = v.unpowered)
      (some v) := by
  refine Knowledge.turns_change fun r _ known => ?_
  unfold cutPower Farewell.unpowered
  rw [known.users]
  split
  · exact known
  · have cut : Farewell.Describes
        { v with users := 0, power := .d3, events := v.events ++ [.powerOff] }
        ((r.withUsers 0).call (.setPower .d3)).2 := by
      obtain ⟨plan, usage, alive, -, -, events⟩ := known
      obtain ⟨-, device⟩ := Machine.call_of_spared (m := r.machine) plan.powerOff
        VideoDevice.perform_powerOff
      have inUse : v.usage.Describes (r.withUsers 0) :=
        (upkeep_withUsers 0 r).unmoved.describes usage
      refine ⟨(Machine.call_plan r.machine _).symm ▸ plan,
        describes_of_granted inUse device inUse.committed inUse.armed rfl rfl, alive, rfl,
        congrArg VideoDevice.power device, ?_⟩
      rw [← events]
      exact congrArg VideoDevice.events device
    -- Only the line that is logged depends on what the device answers.
    split
    next r₁ hr =>
      change (r.withUsers 0).call (.setPower .d3) = _ at hr
      rw [hr] at cut
      exact farewell_reads.log r₁ _ _ cut
    next cause r₁ hr =>
      change (r.withUsers 0).call (.setPower .d3) = _ at hr
      rw [hr] at cut
      exact farewell_reads.log r₁ _ _ cut

/-! ## Stopping and closing -/

/-- The stop of an endpoint that does not stream has nothing to do. -/
theorem stop_leaves (mirrored : v.usage.Mirrored) (orphaned : v.alive = false) :
    stop.Follows farewell.holding (Sure fun a w => a = .ok () ∧ w = v.stopped) (some v) := by
  have guides := farewell.holding_guides
  refine Work.follows_knowing
    (fun r sees => (Knowledge.tells_of_sees sees).usage.phase.streaming) ?_
  obtain ⟨usage, alive, users, power, events⟩ := v
  cases mirrored with
  | closed | opened => exact Work.follows_pure (sure_some ⟨rfl, rfl⟩)
  | streaming routes =>
    let silenced : Farewell := ⟨.silenced routes, alive, users, power, events ++ [.streamOff]⟩
    let halted : Farewell := { silenced with usage := .opened routes }
    have disarm : (Rig.attempt VideoCall.streamOff : Procedure VideoRig _).Follows farewell.holding
        (Sure fun reply w => reply = .ok () ∧ w = silenced)
        (some ⟨.streaming routes, alive, users, power, events⟩) := by
      refine farewell_attempts (fun yielding => yielding.streamOff)
        (fun _ => VideoDevice.perform_streamOff) fun known device => ?_
      have disarmed : (Usage.silenced routes).Describes _ :=
        describes_of_granted known.usage device known.usage.committed rfl rfl rfl
      exact describes_recorded known device disarmed rfl
    have halt : (Procedure.change fun r : VideoRig =>
        { r with core := { r.core with streaming := false } }).Follows farewell.holding
          (Sure fun _ w => w = halted) (some silenced) := by
      refine Knowledge.turns_change fun r _ known => ?_
      obtain ⟨plan, ⟨phase, configuration, committed, armed⟩, alive, users, power, events⟩ := known
      exact ⟨plan, ⟨⟨phase.opened, rfl⟩, configuration, committed, armed⟩, alive, users, power,
        events⟩
    refine guides.lift disarm ?_
    rintro _ _ ⟨rfl, rfl⟩
    refine guides.changing halt ?_
    refine guides.changing (farewell_calms Core.calm_dismiss) ?_
    refine Work.follows_then Rig.follows_flush fun _ => ?_
    -- The reference that was taken for the stream stays counted.
    refine guides.changing (farewell_releases orphaned) ?_
    exact guides.saying farewell_reads (Work.follows_pure (sure_some ⟨rfl, rfl⟩))

/-- The modes are closed in order, and each is recorded. -/
theorem closeAll_leaves {routes : List Route} (ms : List NativeMode)
    (closing : v.usage = .closing routes ms) : (closeAll ms).Follows farewell.holding
      (Sure fun complaint w => complaint = none ∧
        w = { v with usage := .closing routes [], events := v.events ++ ms.map .closed })
      (some v) := by
  induction ms generalizing v with
  | nil =>
    refine Procedure.follows_pure (sure_some ⟨rfl, ?_⟩)
    rw [List.map_nil, List.append_nil, ← closing]
  | cons m ms ih =>
    have closed : (Rig.attempt (VideoCall.close m) : Procedure VideoRig _).Follows farewell.holding
        (Sure fun reply w => reply = .ok () ∧
          w = { v with usage := .closing routes ms, events := v.events ++ [.closed m] })
        (some v) := by
      refine farewell_attempts (fun yielding => yielding.close m)
        (fun known => VideoDevice.perform_close ?_) fun known device => ?_
      · rw [known.usage.committed, closing]
        exact List.mem_cons_self
      · have usage := known.usage
        rw [closing] at usage
        have committed := (congrArg (·.erase m) usage.committed).trans (List.erase_cons_head ..)
        have fewer : (Usage.closing routes ms).Describes _ :=
          describes_of_granted usage device committed usage.armed rfl rfl
        exact describes_recorded known device fewer rfl
    unfold closeAll
    refine farewell.holding_guides.bind closed ?_
    rintro _ _ ⟨rfl, rfl⟩
    refine Procedure.Follows.mono (fun _ _ h => h.mono ?_) (ih rfl)
    rintro _ _ ⟨rfl, rfl⟩
    simp

/-- All of the configuration is closed, and none of it is left. -/
theorem close_leaves {routes : List Route} (opened : v.usage = .opened routes)
    (orphaned : v.alive = false) : close.Follows farewell.holding
      (Sure fun a w => a = .ok () ∧ w = v.shut) (some v) := by
  have guides := farewell.holding_guides
  have check : (Work.check fun r : VideoRig => r.core.checkClose title).Follows farewell.holding
      (Sure fun a w => w = v ∧ a = .ok ()) (some v) := by
    refine Knowledge.turns fun r _ known _ => ⟨v, known, rfl, ?_⟩
    have phase := known.usage.phase
    rw [opened] at phase
    show r.core.checkClose title = .ok ()
    unfold Core.checkClose
    rw [phase.opened, phase.streaming]
    rfl
  have configuration (r : VideoRig) (sees : farewell.holding.sees (some v) r) :
      r.own.configuration = routes := by
    rw [(Knowledge.tells_of_sees sees).usage.configuration, opened]
    rfl
  have forget : (Procedure.change fun r : VideoRig =>
      { r with own := { r.own with configuration := [] },
               core := { r.core with opened := false } }).Follows farewell.holding
        (Sure fun _ w => w = v.shut)
        (some { v with
          usage := .closing routes []
          events := v.events ++ (routedModes routes).map .closed }) := by
    refine Knowledge.turns_change fun r _ known => ?_
    obtain ⟨plan, ⟨phase, -, committed, armed⟩, alive, users, power, events⟩ := known
    refine ⟨plan, ⟨⟨rfl, phase.streaming⟩, rfl, committed, armed⟩, alive, users, power, ?_⟩
    unfold Farewell.shut
    rw [opened]
    exact events
  refine guides.onwardWork check (fun _ _ => ?_) fun _ h => nomatch h
  refine Work.follows_knowing configuration ?_
  refine guides.lift (closeAll_leaves (routedModes routes) opened) ?_
  rintro _ _ ⟨rfl, rfl⟩
  refine guides.changing forget ?_
  -- So does the one that was taken at the opening.
  refine guides.changing (farewell_releases orphaned) ?_
  exact guides.saying farewell_reads (Work.follows_pure (sure_some ⟨rfl, rfl⟩))

/-! ## The whole -/

/-- What is left of an endpoint that was dropped. -/
theorem retire_leaves (mirrored : v.usage.Mirrored) : retire.Follows farewell.holding
    (Sure fun _ w => w = v.gone) (some v) := by
  have guides := farewell.holding_guides
  have orphan : (Procedure.change fun r : VideoRig =>
      { r with core := { r.core with alive := false } }).Follows farewell.holding
        (Sure fun _ w => w = v.orphaned) (some v) := by
    refine Knowledge.turns_change fun r _ known => ?_
    obtain ⟨plan, ⟨phase, configuration, committed, armed⟩, -, users, power, events⟩ := known
    exact ⟨plan, ⟨⟨phase.opened, phase.streaming⟩, configuration, committed, armed⟩, rfl, users,
      power, events⟩
  let stopped := v.orphaned.stopped
  have look : (Procedure.look fun r : VideoRig => r.core.opened).Follows farewell.holding
      (Sure fun b w => w = stopped ∧ b = stopped.usage.phase.isOpened) (some stopped) :=
    Knowledge.turns fun r _ known _ => ⟨_, known, rfl, known.usage.phase.opened⟩
  have shut : (Rig.retireBy title stop close).Follows farewell.holding
      (Sure fun _ w => w = stopped.shut) (some v) := by
    refine guides.retireBy orphan (stop_leaves (v := v.orphaned) mirrored rfl) look ?_ ?_
    all_goals
      -- Whether the endpoint is closed is asked once it has stopped, so two cases of the phase
      -- remain.
      intro opened
      rcases Farewell.stopped_usage (v := v.orphaned) mirrored with isClosed | ⟨routes, isOpened⟩
    · exact Farewell.shut_of_closed isClosed
    · rw [show stopped.usage = .opened routes from isOpened] at opened
      cases opened
    · rw [show stopped.usage = .closed from isClosed] at opened
      cases opened
    · exact close_leaves isOpened (Farewell.stopped_alive v.orphaned)
  refine guides.bind shut ?_
  rintro _ _ rfl
  exact farewell_cutPower

/-! ## Coming to the end of it -/

theorem closeAll_unhindered (ms : List NativeMode) : (closeAll ms).Unhindered := by
  induction ms with
  | nil => trivial
  | cons m ms ih =>
    intro reply
    cases reply with
    | ok _ => exact ih
    | error cause => exact fun _ => ih.bind fun _ => trivial

theorem close_unhindered : close.run.Unhindered := by
  refine Work.unhindered_check fun _ _ => ?_
  refine Work.unhindered_then (closeAll_unhindered _) fun complaint => ?_
  intro _ _ _
  cases complaint <;> trivial

end VideoRig

end Sensing
