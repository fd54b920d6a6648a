import Sensing.Proofs.Video.Operations
import Sensing.Proofs.Video.Power

/-!
# What the device records of its power

A device records when it is powered up, when an extension unit is ready, and when it is powered
down. What it has recorded is a sequence of blocks, each from a power-up to the power-down that
belongs to it; while there are users, the last block is still without its end. A `PowerHistory`
keeps these blocks apart: those in which the device was used, and power-ups that came to nothing
because a unit could not be initialised.

Main result: every run of a video endpoint has such a history, block by block what its steps were
about (`VideoRig.power_recorded_in_blocks`).
-/

namespace Sensing

/-- Power-ups and power-downs. -/
def VideoEvent.isSwitch : VideoEvent → Bool
  | .powerOn | .powerOff => true
  | .unitReady _ | .committed _ | .closed _ | .streamOn | .streamOff => false

/-- They are events of the power. -/
theorem VideoDevice.switches_of_powerEvents (d : VideoDevice) :
    d.powerEvents.filter (·.isSwitch) = d.events.filter (·.isSwitch) := by
  unfold powerEvents
  rw [List.filter_filter]
  refine List.filter_congr fun e _ => ?_
  cases e <;> rfl

/-! ## Blocks -/

/-- What a device records while it is powered up and the units are initialised. -/
def poweringUp (units : List ExtensionUnit) : List VideoEvent := .powerOn :: units.map .unitReady

/-- A power-up with the power-down that belongs to it. -/
inductive PowerBlock where
  /-- These units were initialised, and the device was used. -/
  | used (units : List ExtensionUnit)
  /-- These units were initialised before one could not be. -/
  | abandoned (units : List ExtensionUnit)

namespace PowerBlock

def units : PowerBlock → List ExtensionUnit
  | used units | abandoned units => units

def events (b : PowerBlock) : List VideoEvent := poweringUp b.units ++ [.powerOff]

end PowerBlock

/-- The blocks of a run so far. -/
structure PowerHistory where
  past : List PowerBlock := []
  /-- The units that were initialised when the device was last powered up, while it still is. -/
  current : Option (List ExtensionUnit) := none

namespace PowerHistory

def events (h : PowerHistory) : List VideoEvent :=
  h.past.flatMap (·.events) ++ (h.current.map poweringUp).getD []

@[simp] theorem events_open (past : List PowerBlock) (units : List ExtensionUnit) :
    (PowerHistory.mk past (some units)).events =
      (PowerHistory.mk past none).events ++ poweringUp units := by
  simp [events]

@[simp] theorem events_close (past : List PowerBlock) (b : PowerBlock) :
    (PowerHistory.mk (past ++ [b]) none).events =
      (PowerHistory.mk past none).events ++ b.events := by
  simp [events]

/-- Power-ups and power-downs alternate, from the first power-up on. -/
theorem switches (h : PowerHistory) :
    h.events.filter (·.isSwitch) =
      (List.replicate h.past.length [.powerOn, .powerOff]).flatten ++
        if h.current.isSome then [.powerOn] else [] := by
  have up (units : List ExtensionUnit) :
      (poweringUp units).filter (·.isSwitch) = [.powerOn] := by
    simp [poweringUp, VideoEvent.isSwitch]
  have blocks (bs : List PowerBlock) :
      (bs.flatMap (·.events)).filter (·.isSwitch) =
        (List.replicate bs.length [.powerOn, .powerOff]).flatten := by
    induction bs with
    | nil => rfl
    | cons b bs ih =>
      rw [List.flatMap_cons, List.filter_append, ih, PowerBlock.events, List.filter_append, up]
      rfl
  unfold events
  rw [List.filter_append, blocks]
  cases h.current with
  | none => rfl
  | some units =>
    show _ ++ (poweringUp units).filter _ = _
    rw [up]
    rfl

end PowerHistory

namespace VideoRig

/-! ## What single steps record -/

/-- The fault schedules under which powering down always works, and a power-up or an initialisation
that fails has taken no effect. -/
structure Gentle (plan : FaultPlan VideoCall) : Prop where
  powerOff : plan.Spares (.setPower .d3)
  powerOn : plan.Early (.setPower .d0)
  initUnit : ∀ u, plan.Early (.initUnit u)

/-- The device has recorded certain events of its power, which is now as said. -/
structure Records (r : VideoRig) (es : List VideoEvent) (p : PowerState) (r' : VideoRig) :
    Prop where
  events : r'.machine.device.powerEvents = r.machine.device.powerEvents ++ es
  power : r'.machine.device.power = p

variable {r r₁ r₂ : VideoRig}

theorem Records.refl (r : VideoRig) : r.Records [] r.machine.device.power r :=
  ⟨(List.append_nil _).symm, rfl⟩

theorem Records.trans {es es' : List VideoEvent} {p p' : PowerState} (h : r.Records es p r₁)
    (h' : r₁.Records es' p' r₂) : r.Records (es ++ es') p' r₂ :=
  ⟨by rw [h'.events, h.events, List.append_assoc], h'.power⟩

/-- What the device grants is recorded. -/
theorem records_of_granted {c : VideoCall} {es : List VideoEvent}
    (device : (r.machine.call c).2.device = r.machine.device.granted c)
    (events : (r.machine.device.granted c).powerEvents = r.machine.device.powerEvents ++ es) :
    r.Records es (r.machine.device.granted c).power (r.call c).2 := by
  refine ⟨?_, ?_⟩
  · rw [Rig.call_machine, device, events]
  · rw [Rig.call_machine, device]

theorem records_of_same {c : VideoCall} (device : (r.machine.call c).2.device = r.machine.device) :
    r.Records [] r.machine.device.power (r.call c).2 := by
  refine ⟨?_, ?_⟩
  · rw [Rig.call_machine, device, List.append_nil]
  · rw [Rig.call_machine, device]

/-- Calls that manage no power, whether they fail or not. -/
theorem records_call {c : VideoCall} (h : c.managesPower = false) :
    r.Records [] r.machine.device.power (r.call c).2 := by
  refine ⟨?_, ?_⟩
  · rw [List.append_nil]
    exact Machine.call_keeps VideoDevice.powerEvents (VideoDevice.perform_powerEvents h)
  · exact power_of_call (c.setsPower_of_unmanaged h)

variable (gentle : Gentle r.machine.plan)
include gentle

theorem powerOff_records : r.Records [.powerOff] .d3 (r.call (.setPower .d3)).2 := by
  obtain ⟨-, device⟩ := Machine.call_of_spared gentle.powerOff VideoDevice.perform_powerOff
  exact records_of_granted device (VideoDevice.powerEvents_record _)

theorem powerOn_records :
    (r.call (.setPower .d0)).1 = .ok () ∧ r.Records [.powerOn] .d0 (r.call (.setPower .d0)).2 ∨
      ∃ cause, (r.call (.setPower .d0)).1 = .error cause ∧
        r.Records [] r.machine.device.power (r.call (.setPower .d0)).2 := by
  rcases Machine.call_of_early gentle.powerOn (fun h => nomatch h) with
    ⟨_, ok, device⟩ | ⟨cause, error, same⟩
  · exact .inl ⟨ok, records_of_granted device (VideoDevice.powerEvents_record _)⟩
  · exact .inr ⟨cause, error, records_of_same same⟩

theorem initUnit_records (u : ExtensionUnit) (on : r.machine.device.power = .d0) :
    (r.call (.initUnit u)).1 = .ok () ∧
        r.Records [.unitReady u] .d0 (r.call (.initUnit u)).2 ∨
      ∃ cause, (r.call (.initUnit u)).1 = .error cause ∧
        r.Records [] .d0 (r.call (.initUnit u)).2 := by
  rw [← on]
  rcases Machine.call_of_early (gentle.initUnit u) (fun h => nomatch h) with
    ⟨_, ok, device⟩ | ⟨cause, error, same⟩
  · exact .inl ⟨ok, records_of_granted device (VideoDevice.powerEvents_record _)⟩
  · exact .inr ⟨cause, error, records_of_same same⟩

/-- Initialising units makes them ready one after another, or powers the device down at the first
that fails. -/
theorem initUnits_records (us : List ExtensionUnit) (on : r.machine.device.power = .d0) :
    (initUnits us r).1 = .ok () ∧ r.Records (us.map .unitReady) .d0 (initUnits us r).2 ∨
      ∃ before u after e, us = before ++ u :: after ∧ (initUnits us r).1 = .error e ∧
        r.Records (before.map .unitReady ++ [.powerOff]) .d3 (initUnits us r).2 := by
  induction us generalizing r with
  | nil => exact .inl ⟨rfl, on ▸ Records.refl r⟩
  | cons u us ih =>
    have called := initUnit_records gentle u on
    have plan : (r.call (.initUnit u)).2.machine.plan = r.machine.plan :=
      Machine.call_plan r.machine _
    rw [← plan] at gentle
    unfold initUnits
    split
    next r₁ hr =>
      rw [hr] at called gentle
      -- A unit that is initialised is recorded before those after it.
      rcases called with ⟨-, ready⟩ | ⟨_, failed, -⟩
      · rcases ih gentle ready.power with ⟨ok, all⟩ | ⟨before, v, after, e, rfl, error, some⟩
        · exact .inl ⟨ok, ready.trans all⟩
        · exact .inr ⟨u :: before, v, after, e, rfl, error, ready.trans some⟩
      · cases failed
    next cause r₁ hr =>
      rw [hr] at called gentle
      rcases called with ⟨ok, -⟩ | ⟨_, -, none⟩
      · cases ok
      -- The first that is not has the device powered down, whatever that is answered.
      · refine .inr ⟨[], u, us, _, rfl, rfl, none.trans ?_⟩
        have off := powerOff_records gentle
        unfold abandonPower
        split
        next r₂ hr₂ =>
          rw [hr₂] at off
          exact off
        next cause r₂ hr₂ =>
          rw [hr₂] at off
          exact ⟨off.events, off.power⟩

/-- Powering up makes every unit ready; if one fails, the device is powered down again, and if it
does not even go on, nothing is recorded. -/
theorem powerUp_records :
    (powerUp r).1 = .ok () ∧ r.Records (poweringUp r.own.units) .d0 (powerUp r).2 ∨
      ∃ e, (powerUp r).1 = .error e ∧
        (r.Records [] r.machine.device.power (powerUp r).2 ∨
          ∃ before u after, r.own.units = before ++ u :: after ∧
            r.Records (PowerBlock.abandoned before).events .d3 (powerUp r).2) := by
  have called := powerOn_records gentle
  have plan : (r.call (.setPower .d0)).2.machine.plan = r.machine.plan :=
    Machine.call_plan r.machine _
  have own : (r.call (.setPower .d0)).2.own = r.own := rfl
  rw [← plan] at gentle
  rw [← own]
  unfold powerUp
  -- A failure to power up has taken no effect, so it leaves no block behind.
  split
  next cause r₁ hr =>
    rw [hr] at called
    rcases called with ⟨ok, -⟩ | ⟨_, -, nothing⟩
    · cases ok
    · exact .inr ⟨_, rfl, .inl nothing⟩
  next r₁ hr =>
    rw [hr] at called gentle
    rcases called with ⟨-, on⟩ | ⟨_, failed, -⟩
    · have units := initUnits_records gentle r₁.own.units on.power
      rw [hr]
      split
      next e r₂ hr₂ =>
        rw [hr₂] at units
        rcases units with ⟨ok, -⟩ | ⟨before, u, after, _, split, -, some⟩
        · cases ok
        · exact .inr ⟨_, rfl, .inr ⟨before, u, after, split, on.trans some⟩⟩
      next r₂ hr₂ =>
        rw [hr₂] at units
        rcases units with ⟨-, all⟩ | ⟨_, _, _, _, -, failed, -⟩
        · have up := on.trans all
          exact .inl ⟨rfl, up.events, up.power⟩
        · cases failed
    · cases failed

/-- The first reference powers the device up. -/
theorem acquire_records (none : r.own.users = 0) :
    (acquire r).1 = .ok () ∧ r.Records (poweringUp r.own.units) .d0 (acquire r).2 ∨
      ∃ e, (acquire r).1 = .error e ∧
        (r.Records [] r.machine.device.power (acquire r).2 ∨
          ∃ before u after, r.own.units = before ++ u :: after ∧
            r.Records (PowerBlock.abandoned before).events .d3 (acquire r).2) := by
  have up := powerUp_records gentle
  unfold acquire
  rw [if_pos none]
  split
  next e r₁ hr =>
    rw [hr] at up
    exact up
  next r₁ hr =>
    rw [hr] at up
    rcases up with ⟨-, all⟩ | ⟨_, failed, -⟩
    · exact .inl ⟨rfl, all.events, all.power⟩
    · cases failed

theorem powerDown_records : r.Records [.powerOff] .d3 (powerDown r) := by
  have off := powerOff_records gentle
  unfold powerDown
  split
  next r₁ hr =>
    rw [hr] at off
    exact ⟨off.events, off.power⟩
  next cause r₁ hr =>
    rw [hr] at off
    exact ⟨off.events, off.power⟩

/-- Giving the last reference back powers the device down. -/
theorem release_records (alive : r.core.alive = true) (one : r.own.users = 1) :
    r.Records [.powerOff] .d3 (release r) := by
  have off := powerDown_records (r := r.withUsers 0) gentle
  unfold release
  rw [alive, one]
  exact ⟨off.events, off.power⟩

omit gentle

/-! ## Histories -/

/-- How a step of somebody continues the history. -/
inductive PowerStep (r r' : VideoRig) : PowerHistory → PowerHistory → Prop where
  /-- The first reference is taken: all units registered at that moment are initialised. -/
  | raised {past : List PowerBlock} (unused : r.own.users = 0) (ok : acquire r = (.ok (), r'))
      (one : r'.own.users = 1) :
    PowerStep r r' ⟨past, none⟩ ⟨past, some r.own.units⟩
  /-- The first reference is refused, since a unit after those before it fails. -/
  | refused {past : List PowerBlock} {before after : List ExtensionUnit} {u : ExtensionUnit}
      {detail : String} (unused : r.own.users = 0) (units : r.own.units = before ++ u :: after)
      (error : acquire r = (.error (.power detail), r')) (still : r'.own.users = 0) :
    PowerStep r r' ⟨past, none⟩ ⟨past ++ [.abandoned before], none⟩
  /-- The last reference is given back. -/
  | lowered {past : List PowerBlock} {units : List ExtensionUnit} (one : r.own.users = 1)
      (unused : r'.own.users = 0) :
    PowerStep r r' ⟨past, some units⟩ ⟨past ++ [.used units], none⟩
  /-- There are users after the step if there were before. -/
  | kept {h : PowerHistory} (same : 0 < r'.own.users ↔ 0 < r.own.users) : PowerStep r r' h h

end VideoRig

/-- A history tells what the device has recorded, and while it tells of an open block, there are
users and the device is powered. -/
structure PowerHistory.Recounts (h : PowerHistory) (r : VideoRig) : Prop where
  events : r.machine.device.powerEvents = h.events
  users : h.current.isSome ↔ 0 < r.own.users
  power : r.machine.device.power = .d0 ↔ 0 < r.own.users

open VideoRig

namespace PowerHistory.Recounts

variable {h : PowerHistory} {r r' : VideoRig}

/-- Without users, the last block has its end. -/
theorem closed (hr : h.Recounts r) (unused : r.own.users = 0) : h = ⟨h.past, none⟩ := by
  have ended : h.current = none := by
    cases current : h.current with
    | none => rfl
    | some units =>
      have used := hr.users.1 (by rw [current]; rfl)
      omega
  rw [← ended]

/-- With users, it is open. -/
theorem opened (hr : h.Recounts r) (used : 0 < r.own.users) :
    ∃ units, h = ⟨h.past, some units⟩ := by
  obtain ⟨units, current⟩ := Option.isSome_iff_exists.1 (hr.users.2 used)
  exact ⟨units, by rw [← current]⟩

/-- Nothing is recorded while the users stay, or stay away. -/
theorem kept (hr : h.Recounts r) (records : r.Records [] r.machine.device.power r')
    (same : 0 < r'.own.users ↔ 0 < r.own.users) :
    ∃ h', PowerStep r r' h h' ∧ h'.Recounts r' := by
  refine ⟨h, .kept same, ?_, ?_, ?_⟩
  · rw [records.events, hr.events, List.append_nil]
  · rw [hr.users, same]
  · rw [records.power, hr.power, same]

theorem acquired (hr : h.Recounts r) (gentle : Gentle r.machine.plan)
    (unused : r.own.users = 0) (ok : (acquire r).1 = .ok ()) :
    ∃ h', PowerStep r (acquire r).2 h h' ∧ h'.Recounts (acquire r).2 := by
  obtain ⟨r₁, heq, steady, -⟩ := acquire_ok ok
  have one : (acquire r).2.own.users = 1 := by
    rw [heq]
    show r₁.own.users + 1 = 1
    rw [steady.own, unused]
  rcases acquire_records gentle unused with ⟨-, records⟩ | ⟨_, failed, -⟩
  · rw [hr.closed unused]
    refine ⟨_, .raised unused (Prod.ext ok rfl) one, ?_, ?_, ?_⟩
    · rw [records.events, hr.events, hr.closed unused, events_open]
    · simp [one]
    · simp [one, records.power]
  · cases failed.symm.trans ok

theorem refused (hr : h.Recounts r) (gentle : Gentle r.machine.plan) {e : EndpointError}
    (error : (acquire r).1 = .error e) :
    ∃ h', PowerStep r (acquire r).2 h h' ∧ h'.Recounts (acquire r).2 := by
  obtain ⟨unused, steady, ⟨detail, rfl⟩, -⟩ := acquire_error error
  have still : (acquire r).2.own.users = 0 := by rw [steady.own, unused]
  rcases acquire_records gentle unused with
    ⟨ok, -⟩ | ⟨_, -, nothing | ⟨before, u, after, units, records⟩⟩
  · cases ok.symm.trans error
  · exact hr.kept nothing (by rw [still, unused])
  · rw [hr.closed unused]
    refine ⟨_, .refused unused units (Prod.ext error rfl) still, ?_, ?_, ?_⟩
    · rw [records.events, hr.events, hr.closed unused, events_close]
    · simp [still]
    · simp [still, records.power]

theorem released (hr : h.Recounts r) (gentle : Gentle r.machine.plan)
    (alive : r.core.alive = true) {n : Nat} (users : r.own.users = n + 1) :
    ∃ h', PowerStep r (release r) h h' ∧ h'.Recounts (release r) := by
  rcases release_cases alive users with ⟨some, heq⟩ | ⟨rfl, steady, -⟩
  · rw [heq]
    refine hr.kept ⟨(List.append_nil _).symm, rfl⟩ ?_
    show 0 < n ↔ _
    omega
  · have records := release_records gentle alive users
    have unused : (release r).own.users = 0 := by rw [steady.own]; rfl
    obtain ⟨units, inUse⟩ := hr.opened (by omega)
    rw [inUse]
    refine ⟨_, .lowered users unused, ?_, ?_, ?_⟩
    · rw [records.events, hr.events, inUse, events_open, events_close, List.append_assoc]
      rfl
    · simp [unused]
    · simp [unused, records.power]

end PowerHistory.Recounts

/-- Every move continues the history. -/
theorem VideoMove.recounted {k k' : Standing} {r r' : VideoRig} {h : PowerHistory}
    (hsees : (ledger fun c => c.managesPower = false).sees k r)
    (hmove : VideoMove (fun c => c.managesPower = false) k r r' k')
    (gentle : Gentle r.machine.plan) (hr : h.Recounts r) :
    ∃ h', PowerStep r r' h h' ∧ h'.Recounts r' := by
  cases hmove with
  | acquired ok =>
    by_cases unused : r.own.users = 0
    · exact hr.acquired gentle unused ok
    · obtain ⟨r₁, heq, -, same, -⟩ := acquire_ok ok
      rw [heq, same (Nat.pos_of_ne_zero unused)]
      refine hr.kept ⟨(List.append_nil _).symm, rfl⟩ ?_
      show 0 < r.own.users + 1 ↔ _
      omega
  | refused error => exact hr.refused gentle error
  | released =>
    obtain ⟨alive, n, users⟩ := users_of_sees hsees
    exact hr.released gentle alive users
  | called permitted => exact hr.kept (records_call permitted) Iff.rfl
  | turned still | quiet still =>
    refine hr.kept ⟨?_, ?_⟩ ?_
    · rw [still.machine, List.append_nil]
    · rw [still.machine]
    · rw [still.users]

/-! ## Runs -/

namespace VideoRig

/-- What is kept along a run: the books, the fault schedule, and the history. -/
structure Accounts (h : PowerHistory) (c : Crowd VideoRig) : Prop where
  kept : ∃ p, (ledger fun c => c.managesPower = false).Kept Ledger.Rests p c
  gentle : Gentle c.rig.machine.plan
  recounts : h.Recounts c.rig

theorem Accounts.next {h : PowerHistory} {c c' : Crowd VideoRig} (accounts : Accounts h c)
    (step : Crowd.Step VideoOp.SparesUnits c c') :
    ∃ h', PowerStep c.rig c'.rig h h' ∧ Accounts h' c' := by
  obtain ⟨⟨p, kept⟩, gentle, recounts⟩ := accounts
  obtain ⟨p', kept', -⟩ := kept.next fits_unmanaged step
  rcases kept.rig_of_step fits_unmanaged step with same | ⟨k, k', hsees, hmove⟩ | ⟨x, aside⟩
  · have records : c.rig.Records [] c.rig.machine.device.power c'.rig := by
      rw [same]
      exact Records.refl c.rig
    obtain ⟨h', continues, recounts'⟩ := recounts.kept records (by rw [same])
    exact ⟨h', continues, ⟨p', kept'⟩, same ▸ gentle, recounts'⟩
  · obtain ⟨h', continues, recounts'⟩ := hmove.recounted hsees gentle recounts
    exact ⟨h', continues, ⟨p', kept'⟩, (hmove.plan hsees).symm ▸ gentle, recounts'⟩
  · have beside : c.rig.Beside c'.rig := aside ▸ aside_beside x c.rig
    have records : c.rig.Records [] c.rig.machine.device.power c'.rig := by
      refine ⟨?_, beside.power⟩
      rw [List.append_nil]
      exact congrArg (List.filter _) beside.events
    obtain ⟨h', continues, recounts'⟩ := recounts.kept records (by rw [beside.users])
    exact ⟨h', continues, ⟨p', kept'⟩, beside.plan.symm ▸ gentle, recounts'⟩

variable {capacity limit : Nat} {layout : ClockLayout} {device : VideoDevice}
  {plan : FaultPlan VideoCall} {run : Nat → Crowd VideoRig} {steps : Nat}

/-- Where powering down always works, and what fails of a power-up has taken no effect, every run of
a video endpoint has a history that each of its steps continues, and that tells at all times what
the device has recorded of its power: power-ups with all units that were registered at that moment,
or with those before one that failed, each with one power-down, where only the last may still be
open, as long as there are users. So power-ups and power-downs alternate, and the device is powered
exactly while there are users. -/
theorem power_recorded_in_blocks (gentle : Gentle plan) (off : device.power = .d3)
    (unused : device.events = [])
    (begins : run 0 = unattended capacity limit layout device plan)
    (runs : Crowd.Run VideoOp.SparesUnits run steps) :
    ∃ history : Nat → PowerHistory, history 0 = {} ∧
      (∀ i < steps, PowerStep (run i).rig (run (i + 1)).rig (history i) (history (i + 1))) ∧
      ∀ i ≤ steps, (history i).Recounts (run i).rig ∧
        (run i).rig.machine.device.events.filter (·.isSwitch) =
          (List.replicate (history i).past.length [.powerOn, .powerOff]).flatten ++
            if 0 < (run i).rig.own.users then [.powerOn] else [] := by
  have initially : Accounts {} (run 0) := by
    rw [begins]
    refine ⟨⟨_, kept_unattended capacity limit layout device plan _⟩, gentle, ?_, ?_, ?_⟩
    · exact congrArg (List.filter _) unused
    · exact iff_of_false Bool.false_ne_true (Nat.lt_irrefl 0)
    · refine iff_of_false ?_ (Nat.lt_irrefl 0)
      intro on
      cases off.symm.trans on
  obtain ⟨history, first, continues, accounts⟩ :=
    runs.exists_history (I := Accounts) (S := fun c c' => PowerStep c.rig c'.rig)
      Accounts.next initially
  refine ⟨history, first, continues, fun i hi => ⟨(accounts i hi).recounts, ?_⟩⟩
  have recounts := (accounts i hi).recounts
  rw [← VideoDevice.switches_of_powerEvents, recounts.events, PowerHistory.switches]
  simp only [recounts.users]

/-- An extension unit of a number. -/
def unitOf (n : UInt8) : ExtensionUnit := ⟨0, n, 0, List.replicate 16 0⟩

/-- A unit fails to be initialised in the third call that is made. -/
def slowUnit : FaultPlan VideoCall
  | 2, .initUnit _ => some { cause := ⟨"unit stalled", []⟩ }
  | _, _ => none

theorem slowUnit_gentle : Gentle slowUnit where
  powerOff n := by
    unfold slowUnit
    split
    next h => cases h
    next => rfl
  powerOn n fault h := by
    unfold slowUnit at h
    split at h
    next h' => cases h'
    next => cases h
  initUnit u n fault h := by
    unfold slowUnit at h
    split at h
    · cases h
      rfl
    · cases h

/-- Two units are registered; a gate is refused, and another one is taken and dropped. -/
def slowRun : Nat → Crowd VideoRig
  | 0 => unattended 4 4 {} { offered := [] } slowUnit
  | n + 1 =>
    let c := slowRun n
    match n with
    | 0 => { c with rig := c.rig.registerUnit (unitOf 1) }
    | 1 => { c with rig := c.rig.registerUnit (unitOf 2) }
    | 2 => { c with rig := (acquire c.rig).2 }
    | 3 => { c with rig := (acquire c.rig).2, gates := 1 }
    | _ => { c with rig := release c.rig, gates := 0 }

theorem slowRun_runs : Crowd.Run VideoOp.SparesUnits slowRun 5 := by
  intro i hi
  match i, hi with
  | 0, _ => exact Crowd.Step.aside (c := slowRun 0) (VideoAside.registerUnit (unitOf 1))
  | 1, _ => exact Crowd.Step.aside (c := slowRun 1) (VideoAside.registerUnit (unitOf 2))
  | 2, _ => exact .refused (g := ⟨acquire, release⟩) rfl rfl
  | 3, _ => exact .take (g := ⟨acquire, release⟩) rfl rfl
  | 4, _ => exact .drop (g := ⟨acquire, release⟩) rfl rfl

/-- Two blocks, one for the gate that was refused and one for the gate that was dropped. -/
theorem slowRun_recorded :
    Gentle slowUnit ∧ Crowd.Run VideoOp.SparesUnits slowRun 5 ∧
      ∃ history : Nat → PowerHistory, history 0 = {} ∧
        (history 5).Recounts (slowRun 5).rig ∧ (history 5).current = none ∧
        (history 5).events =
          [.powerOn, .unitReady (unitOf 1), .powerOff,
            .powerOn, .unitReady (unitOf 1), .unitReady (unitOf 2), .powerOff] := by
  have begins : slowRun 0 = unattended 4 4 {} { offered := [] } slowUnit := rfl
  obtain ⟨history, first, -, recounts⟩ :=
    power_recorded_in_blocks slowUnit_gentle rfl rfl begins slowRun_runs
  obtain ⟨recounts, -⟩ := recounts 5 (Nat.le_refl 5)
  refine ⟨slowUnit_gentle, slowRun_runs, history, first, recounts, ?_, ?_⟩
  · rw [recounts.closed rfl]
  · rw [← recounts.events]
    decide +kernel

end VideoRig

end Sensing
