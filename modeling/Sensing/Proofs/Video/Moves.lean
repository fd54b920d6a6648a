import Sensing.Proofs.Clients.Ledger
import Sensing.Proofs.Video.Clients
import Sensing.Proofs.Video.Gates

/-!
# The moves of a video endpoint's clients

Whatever an operation of a video endpoint does in one step is a `VideoMove`: it takes or gives back
a power reference, calls the device while somebody has a reference, changes the phase, or does
nothing of the kind. References change hands only together with the phase: who turns the endpoint
from closed to opened, say, leaves it one reference of its own.

Main results: the moves obey the law of ledgers (`VideoRig.ledger`), and what they preserve
(`VideoMove.power`, `VideoMove.unstrayed`, `VideoMove.off`).
-/

namespace Sensing

namespace VideoRig

/-! ## States without any power business between them -/

/-- Device, references and log are as before, but for lines that do not tell of a stray release. -/
structure Still (r r' : VideoRig) : Prop where
  machine : r'.machine = r.machine
  users : r'.own.users = r.own.users
  alive : r'.core.alive = r.core.alive
  log : strayRelease ∈ r'.core.log → strayRelease ∈ r.core.log

/-- The flags are as before, too. -/
structure Quiet (r r' : VideoRig) : Prop extends Still r r' where
  opened : r'.core.opened = r.core.opened
  streaming : r'.core.streaming = r.core.streaming

theorem Quiet.refl (r : VideoRig) : r.Quiet r := ⟨⟨rfl, rfl, rfl, id⟩, rfl, rfl⟩

/-- One after the other, quiet steps are quiet. -/
theorem Quiet.trans {r₁ r₂ r₃ : VideoRig} (h : r₁.Quiet r₂) (h' : r₂.Quiet r₃) : r₁.Quiet r₃ where
  machine := h'.machine.trans h.machine
  users := h'.users.trans h.users
  alive := h'.alive.trans h.alive
  log hline := h.log (h'.log hline)
  opened := h'.opened.trans h.opened
  streaming := h'.streaming.trans h.streaming

/-- A calm change of the shared state is quiet. -/
theorem Quiet.of_calm {r : VideoRig} {f : Core → Core} (h : r.core.Calm (f r.core)) :
    r.Quiet (r.mapCore f) := by
  refine ⟨⟨rfl, rfl, h.alive, ?_⟩, h.opened, h.streaming⟩
  intro hline
  rcases h.log _ hline with hold | hlevel
  · exact hold
  · cases hlevel

/-- A line may be logged quietly, unless it is the one. -/
theorem Quiet.of_note {r : VideoRig} {level : LogLevel} {message : String}
    (h : LogLine.mk level message ≠ strayRelease) : r.Quiet (r.note level message) := by
  refine ⟨⟨rfl, rfl, rfl, ?_⟩, rfl, rfl⟩
  intro hline
  rcases List.mem_append.1 hline with hold | hnew
  · exact hold
  · exact absurd (List.mem_singleton.1 hnew).symm h

theorem Quiet.foldl {α : Type} {f : VideoRig → α → VideoRig}
    (hf : ∀ (r : VideoRig) (a : α), r.Quiet (f r a)) (as : List α) (r : VideoRig) :
    r.Quiet (as.foldl f r) := by
  induction as generalizing r with
  | nil => exact Quiet.refl r
  | cons a as ih => exact (hf r a).trans (ih (f r a))

/-- What is wrong with the layout of the clocks is said quietly. -/
theorem warnOfLayout_quiet (r : VideoRig) : r.Quiet (warnOfLayout r) := by
  unfold warnOfLayout
  split
  · exact Quiet.refl r
  · exact Quiet.foldl (fun _ _ => Quiet.of_note (((by decide : Unlike _).append _).ne _)) _ r

variable {r r' : VideoRig}

theorem Steady.inPhase {p : Phase} (h : r.Steady r') (hp : r.core.InPhase p) :
    r'.core.InPhase p := by
  obtain ⟨ls, -, hcore⟩ := h.core
  rw [hcore]
  exact ⟨hp.opened, hp.streaming⟩

theorem Steady.alive (h : r.Steady r') : r'.core.alive = r.core.alive := by
  obtain ⟨ls, -, hcore⟩ := h.core
  rw [hcore]

/-- A steady step does not log it. -/
theorem Steady.unstrayed (h : r.Steady r') (hr : strayRelease ∉ r.core.log) :
    strayRelease ∉ r'.core.log := by
  obtain ⟨ls, hls, hcore⟩ := h.core
  rw [hcore]
  intro hline
  rcases List.mem_append.1 hline with hold | hnew
  · exact hr hold
  · exact hls hnew

/-- The calls of a steady step were all sanctioned. -/
theorem Steady.sanctioned (h : r.Steady r')
    (hr : ∀ x ∈ r.machine.journal, VideoCall.Sanctioned x) :
    ∀ x ∈ r'.machine.journal, VideoCall.Sanctioned x := by
  obtain ⟨calls, hjournal, hcalls⟩ := h.journal
  rw [hjournal]
  intro x hx
  rcases List.mem_append.1 hx with hnew | hold
  · exact (hcalls x hnew).2
  · exact hr x hold

end VideoRig

/-! ## Moves -/

open VideoRig in
/-- What a client of a video endpoint may do in one step, where it may make only calls that are
allowed. -/
inductive VideoMove (allowed : VideoCall → Prop) :
    Standing → VideoRig → VideoRig → Standing → Prop where
  | acquired {k : Standing} {r : VideoRig} (ok : (acquire r).1 = .ok ()) :
    VideoMove allowed k r (acquire r).2 { k with refs := k.refs + 1 }
  | refused {k : Standing} {r : VideoRig} {e : EndpointError} (error : (acquire r).1 = .error e) :
    VideoMove allowed k r (acquire r).2 k
  | released {n : Nat} {phase : Option Phase} {r : VideoRig} :
    VideoMove allowed ⟨n + 1, phase⟩ r (release r) ⟨n, phase⟩
  | called {k : Standing} {r : VideoRig} {c : VideoCall} (permitted : allowed c)
      (users : 0 < r.own.users) :
    VideoMove allowed k r (r.call c).2 k
  | turned {n m : Nat} {p q : Phase} {r r' : VideoRig} (still : r.Still r')
      (phase : r.core.InPhase p → r'.core.InPhase q) (refs : p.refs + n = q.refs + m) :
    VideoMove allowed ⟨n, some p⟩ r r' ⟨m, some q⟩
  | quiet {k : Standing} {r r' : VideoRig} (quiet : r.Quiet r') : VideoMove allowed k r r' k

namespace VideoRig

/-- The law for a move that leaves the phase alone. -/
theorem balance_of_same {k k' : Standing} {p : Phase} {m : Nat} {r' : VideoRig}
    (knows : k.Knows p) (same : k'.phase = k.phase) (phase : r'.core.InPhase p)
    (alive : r'.core.alive = true) (users : r'.own.users = p.refs + k'.refs + m) :
    ∃ p', (r'.core.InPhase p' ∧ r'.core.alive = true) ∧ r'.own.users = p'.refs + k'.refs + m ∧
      k'.phase = k.phase.map (fun _ => p') ∧ (k.phase = none → p' = p) := by
  refine ⟨p, ⟨phase, alive⟩, users, ?_, fun _ => rfl⟩
  rw [same]
  cases hk : k.phase with
  | none => rfl
  | some q => rw [knows q hk]; rfl

/-- The books of a video endpoint: its users are the references of its clients and its own. -/
def ledger (allowed : VideoCall → Prop) : Ledger VideoRig where
  phase p r := r.core.InPhase p ∧ r.core.alive = true
  counts n r := r.own.users = n
  may := VideoMove allowed
  idle _ r := .quiet (Quiet.refl r)
  balance := by
    intro k k' r r' p m hmove knows hphase users
    obtain ⟨hp, alive⟩ := hphase
    cases hmove with
    | acquired ok =>
      obtain ⟨r₁, h, hsteady, -, -⟩ := acquire_ok ok
      rw [h]
      refine balance_of_same knows rfl (hsteady.inPhase hp) (hsteady.alive.trans alive) ?_
      show r₁.own.users + 1 = p.refs + (k.refs + 1) + m
      rw [hsteady.own]
      omega
    | refused error =>
      obtain ⟨-, hsteady, -, -⟩ := acquire_error error
      refine balance_of_same knows rfl (hsteady.inPhase hp) (hsteady.alive.trans alive) ?_
      rw [hsteady.own]
      exact users
    | @released n =>
      -- The reference given back is among those counted.
      have husers : r.own.users = p.refs + n + m + 1 := by
        rw [users]
        show p.refs + (n + 1) + m = _
        omega
      rcases release_cases alive husers with ⟨-, h⟩ | ⟨hzero, hsteady, -⟩
      · rw [h]
        exact balance_of_same knows rfl hp alive rfl
      · refine balance_of_same knows rfl (hsteady.inPhase hp) (hsteady.alive.trans alive) ?_
        rw [hsteady.own]
        exact hzero.symm
    | called => exact balance_of_same knows rfl hp alive users
    | @turned _ _ p' q _ _ still phase refs =>
      -- Only here the phase changes, and with it who has the references.
      obtain rfl : p' = p := knows p' rfl
      refine ⟨q, ⟨phase hp, still.alive.trans alive⟩, ?_, rfl, fun h => nomatch h⟩
      rw [still.users, users, refs]
    | quiet quiet =>
      have phase : r'.core.InPhase p :=
        ⟨quiet.opened.trans hp.opened, quiet.streaming.trans hp.streaming⟩
      exact balance_of_same knows rfl phase (quiet.alive.trans alive) (quiet.users.trans users)

/-! ## What moves preserve -/

/-- Whoever has a reference is counted, and the endpoint is there to give it back to. -/
theorem users_of_sees {allowed : VideoCall → Prop} {n : Nat} {phase : Option Phase} {r : VideoRig}
    (h : (ledger allowed).sees ⟨n + 1, phase⟩ r) :
    r.core.alive = true ∧ ∃ m, r.own.users = m + 1 := by
  obtain ⟨p, m, -, ⟨-, alive⟩, users⟩ := h
  refine ⟨alive, p.refs + n + m, ?_⟩
  rw [users]
  show p.refs + (n + 1) + m = _
  omega

/-- The device is powered for as long as there are users, and every call that needs it powered found
it so. -/
structure Powered (r : VideoRig) : Prop where
  on : 0 < r.own.users → r.machine.device.power = .d0
  journal : ∀ x ∈ r.machine.journal, VideoCall.Sanctioned x

/-- Without users the device is off, where powering down always works and a failure undoes
itself. -/
structure Off (r : VideoRig) : Prop where
  forgiving : Forgiving r.machine.plan
  power : r.own.users = 0 → r.machine.device.power = .d3

/-- The calls that set the power, the latest first. -/
def powerCalls (r : VideoRig) : List (VideoCall × VideoDevice) :=
  r.machine.journal.filter fun x => x.1.setsPower

end VideoRig

open VideoRig

namespace VideoMove

variable {allowed : VideoCall → Prop} {k k' : Standing} {r r' : VideoRig}

/-- No move changes which calls fail. -/
theorem plan (hsees : (ledger allowed).sees k r) (h : VideoMove allowed k r r' k') :
    r'.machine.plan = r.machine.plan := by
  cases h with
  | acquired ok =>
    obtain ⟨r₁, h, hsteady, -, -⟩ := acquire_ok ok
    rw [h]
    exact hsteady.plan
  | refused error =>
    obtain ⟨-, hsteady, -, -⟩ := acquire_error error
    exact hsteady.plan
  | released =>
    obtain ⟨alive, m, users⟩ := users_of_sees hsees
    rcases release_cases alive users with ⟨-, h⟩ | ⟨-, hsteady, -⟩
    · rw [h]
      rfl
    · exact hsteady.plan
  | called => exact Machine.call_plan r.machine _
  | turned still | quiet still => rw [still.machine]

/-- No move gives back a reference that was not taken. -/
theorem unstrayed (hsees : (ledger allowed).sees k r) (h : VideoMove allowed k r r' k')
    (hr : strayRelease ∉ r.core.log) : strayRelease ∉ r'.core.log := by
  cases h with
  | acquired ok =>
    obtain ⟨r₁, h, hsteady, -, -⟩ := acquire_ok ok
    rw [h]
    exact hsteady.unstrayed hr
  | refused error =>
    obtain ⟨-, hsteady, -, -⟩ := acquire_error error
    exact hsteady.unstrayed hr
  | released =>
    obtain ⟨alive, m, users⟩ := users_of_sees hsees
    rcases release_cases alive users with ⟨-, h⟩ | ⟨-, hsteady, -⟩
    · rw [h]
      exact hr
    · exact hsteady.unstrayed hr
  | called => exact hr
  | turned still => exact fun hline => hr (still.log hline)
  | quiet still => exact fun hline => hr (still.log hline)

/-- The device stays powered while there are users. -/
theorem power (spares : ∀ c, allowed c → c.setsPower = false)
    (hsees : (ledger allowed).sees k r) (h : VideoMove allowed k r r' k') (hr : r.Powered) :
    r'.Powered := by
  cases h with
  | acquired ok =>
    obtain ⟨r₁, h, hsteady, hsame, hon⟩ := acquire_ok ok
    rw [h]
    refine ⟨fun _ => ?_, hsteady.sanctioned hr.journal⟩
    show r₁.machine.device.power = .d0
    by_cases none : r.own.users = 0
    · exact hon none
    · have some := Nat.pos_of_ne_zero none
      rw [hsame some]
      exact hr.on some
  | refused error =>
    obtain ⟨none, hsteady, -, -⟩ := acquire_error error
    refine ⟨fun users => ?_, hsteady.sanctioned hr.journal⟩
    rw [hsteady.own, none] at users
    cases users
  | released =>
    obtain ⟨alive, m, users⟩ := users_of_sees hsees
    rcases release_cases alive users with ⟨-, h⟩ | ⟨-, hsteady, -⟩
    · rw [h]
      exact ⟨fun _ => hr.on (users ▸ Nat.succ_pos m), hr.journal⟩
    · refine ⟨fun users => ?_, hsteady.sanctioned hr.journal⟩
      rw [hsteady.own] at users
      cases users
  | @called _ _ c permitted users =>
    -- Somebody has a reference, so the device is powered, and the call leaves it so.
    have on : r.machine.device.power = .d0 := hr.on users
    refine ⟨fun _ => (power_of_call (spares c permitted)).trans on, ?_⟩
    intro x hx
    rw [Rig.call_machine, Machine.call_journal] at hx
    rcases List.mem_cons.1 hx with rfl | hx
    · exact .inr on
    · exact hr.journal x hx
  | turned still | quiet still =>
    refine ⟨fun users => ?_, ?_⟩
    · rw [still.machine]
      exact hr.on (still.users ▸ users)
    · rw [still.machine]
      exact hr.journal

/-- While there are users before and after a move, the power is not set. -/
theorem powerCalls_eq (spares : ∀ c, allowed c → c.setsPower = false)
    (hsees : (ledger allowed).sees k r) (h : VideoMove allowed k r r' k') (before : 0 < r.own.users)
    (after : 0 < r'.own.users) : r'.powerCalls = r.powerCalls := by
  cases h with
  | acquired ok =>
    obtain ⟨r₁, h, -, hsame, -⟩ := acquire_ok ok
    rw [h, hsame before]
    rfl
  -- A refusal only comes from an attempt to power up, which nobody makes while there are users.
  | refused error =>
    obtain ⟨none, -⟩ := acquire_error error
    omega
  | released =>
    obtain ⟨alive, m, users⟩ := users_of_sees hsees
    -- Powering down takes the last reference, and then there are no users after the move.
    rcases release_cases alive users with ⟨-, h⟩ | ⟨-, hsteady, -⟩
    · rw [h]
      rfl
    · rw [hsteady.own] at after
      cases after
  | @called _ _ c permitted =>
    unfold powerCalls
    rw [Rig.call_machine, Machine.call_journal, List.filter_cons_of_neg]
    rw [spares c permitted]
    exact Bool.false_ne_true
  | turned still | quiet still =>
    unfold powerCalls
    rw [still.machine]

/-- The device is off whenever the last user has gone. -/
theorem off (hsees : (ledger allowed).sees k r) (h : VideoMove allowed k r r' k') (hr : r.Off) :
    r'.Off := by
  refine ⟨(h.plan hsees).symm ▸ hr.forgiving, ?_⟩
  -- Only what takes or gives back a reference can make the users come or go.
  cases h with
  | acquired ok =>
    obtain ⟨r₁, h, -, -, -⟩ := acquire_ok ok
    rw [h]
    exact fun none => nomatch none
  | refused error =>
    obtain ⟨none, -, -, hoff⟩ := acquire_error error
    exact fun _ => hoff hr.forgiving (hr.power none)
  | released =>
    obtain ⟨alive, m, users⟩ := users_of_sees hsees
    rcases release_cases alive users with ⟨some, h⟩ | ⟨-, -, hoff⟩
    · rw [h]
      exact fun none => absurd none (Nat.ne_of_gt some)
    · exact fun _ => hoff hr.forgiving.powerOff
  | called _ users => exact fun none => absurd none (Nat.ne_of_gt users)
  | turned still | quiet still =>
    intro none
    rw [still.machine]
    exact hr.power (still.users.symm.trans none)

end VideoMove

end Sensing
