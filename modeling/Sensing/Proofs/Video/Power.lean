import Sensing.Proofs.Video.Operations

/-!
# Counted power is safe

The two theorems about the power of a video endpoint, for every interleaving of any number of
clients and every fault schedule. The device is powered whenever somebody counts on it, and no call
that needs it powered ever finds it off (`device_powered_throughout`); and the count is exact:
between operations it is the endpoint's own references and the gates that clients hold
(`users_accounted_for`).

Both are read off the books of the crowd. What the first one adds is an invariant of single moves,
`Powered`, under which a call is made only by a client whose reference has already powered the
device.
-/

namespace Sensing

namespace VideoRig

variable (capacity limit : Nat) (layout : ClockLayout) (device : VideoDevice)
  (plan : FaultPlan VideoCall)

/-- A new endpoint that nobody is busy with yet. -/
def unattended : Crowd VideoRig :=
  { rig := create (.create capacity limit) layout device plan }

/-- The books of a new endpoint are in order. -/
theorem kept_unattended (allowed : VideoCall → Prop) :
    (ledger allowed).Kept Ledger.Rests .closed (unattended capacity limit layout device plan) :=
  ⟨⟨⟨rfl, rfl⟩, rfl⟩, 0, 0, rfl, rfl, rfl⟩

/-- A new endpoint of which a client has taken a gate. -/
def gated : Crowd VideoRig :=
  let fresh := unattended 4 4 {} { offered := [] } .sound
  { fresh with rig := (acquire fresh.rig).2, gates := 1 }

/-- The gate is taken in one step of its client. -/
theorem gated_reached (admits : VideoOp → Prop) :
    Crowd.Reaches admits (unattended 4 4 {} { offered := [] } .sound) gated :=
  .single (.take (g := ⟨acquire, release⟩) rfl rfl)

variable {capacity limit layout device plan}

/-- The books keep the device powered along every run. -/
theorem powered_of_reaches {c : Crowd VideoRig}
    (h : Crowd.Reaches VideoOp.SparesPower (unattended capacity limit layout device plan) c) :
    Powered c.rig := by
  refine Ledger.invariant_of_reaches fits_sparing
    (fun hsees hmove hr => hmove.power (fun _ hc => hc) hsees hr) ?_
    (kept_unattended capacity limit layout device plan _) ?_ h
  · intro x r hr
    have beside := aside_beside x r
    refine ⟨fun users => ?_, ?_⟩
    · exact beside.power.trans (hr.on (beside.users ▸ users))
    · have journal : (Served.aside x r).machine.journal = r.machine.journal := beside.journal
      rw [journal]
      exact hr.journal
  · exact ⟨fun users => absurd users (Nat.lt_irrefl 0), fun _ h => nomatch h⟩

/-- The device is powered whenever there are users. While there are, its power is not set; and every
call but those that set it is made of a powered device, which turns nothing down for want of
power. -/
theorem device_powered_throughout {c : Crowd VideoRig}
    (h : Crowd.Reaches VideoOp.SparesPower (unattended capacity limit layout device plan) c) :
    (0 < c.rig.own.users → c.rig.machine.device.power = .d0) ∧
      (∀ c', Crowd.ReachesWhile (fun c => 0 < c.rig.own.users) VideoOp.SparesPower c c' →
        c'.rig.powerCalls = c.rig.powerCalls) ∧
      ∀ call d, (call, d) ∈ c.rig.machine.journal → call.setsPower = false →
        d.power = .d0 ∧ ∀ {α : Type} (what : String)
          (act : VideoDevice → Except Cause α × VideoDevice), d.powered what act = act d := by
  have powered := powered_of_reaches h
  obtain ⟨p, kept⟩ := Ledger.kept_of_reaches fits_sparing
    (kept_unattended capacity limit layout device plan _) h
  refine ⟨powered.on, ?_, ?_⟩
  -- While somebody counts on the device, no move sets its power, and no aside makes a call.
  · intro c' hwhile
    refine Ledger.invariant_of_reachesWhile (P := fun r => 0 < r.own.users)
      (I := fun r => r.powerCalls = c.rig.powerCalls) fits_sparing
      (fun hsees hmove before after hcalls => ?_) ?_ kept rfl hwhile
    · exact (hmove.powerCalls_eq (fun _ hc => hc) hsees before after).trans hcalls
    · intro x r hcalls
      rw [← hcalls]
      unfold powerCalls
      have journal : (Served.aside x r).machine.journal = r.machine.journal :=
        (aside_beside x r).journal
      rw [journal]
  · intro call d hd spares
    have on : d.power = .d0 := by
      rcases powered.journal _ hd with sets | on
      · rw [spares] at sets
        cases sets
      · exact on
    exact ⟨on, fun what act => VideoDevice.powered_of_on what act on⟩

/-- A client who has taken a gate finds the device powered. -/
theorem device_powered_with_gate :
    ∃ c, Crowd.Reaches VideoOp.SparesPower (unattended 4 4 {} { offered := [] } .sound) c ∧
      0 < c.rig.own.users ∧ c.rig.machine.device.power = .d0 := by
  have reached := gated_reached VideoOp.SparesPower
  exact ⟨gated, reached, Nat.one_pos, (device_powered_throughout reached).1 Nat.one_pos⟩

/-! ## The count -/

/-- Nobody ever gives back a reference that was not taken; and where no operation is under way, the
references counted are one for an opened endpoint, one more for a streaming one, and one for each
gate. -/
theorem users_accounted_for {c : Crowd VideoRig}
    (h : Crowd.Reaches (fun _ => True) (unattended capacity limit layout device plan) c) :
    strayRelease ∉ c.rig.core.log ∧
      (c.holder = none → c.others = [] →
        c.rig.own.users = (if c.rig.core.opened then 1 else 0) +
          (if c.rig.core.streaming then 1 else 0) + c.gates) := by
  have start := kept_unattended capacity limit layout device plan fun _ => True
  refine ⟨?_, ?_⟩
  · refine Ledger.invariant_of_reaches fits_anything
      (fun hsees hmove hr => hmove.unstrayed hsees hr) ?_ start List.not_mem_nil h
    intro x r hr hline
    rcases (aside_beside x r).core.log _ hline with hold | hlevel
    · exact hr hold
    · cases hlevel
  · intro free alone
    obtain ⟨p, ⟨⟨phase, -⟩, n, t, hheld, hshared, hcount⟩⟩ :=
      Ledger.kept_of_reaches fits_anything start h
    -- Nobody is busy, so nobody but the endpoint and the gates has references.
    rw [free] at hheld
    rw [alone] at hshared
    obtain rfl : n = 0 := hheld
    obtain rfl : t = 0 := hshared
    change c.rig.own.users = p.refs + (0 + (0 + c.gates)) at hcount
    rw [hcount, p.refs_eq, phase.opened, phase.streaming]
    omega

/-- A gate that a client has taken is all that is counted on an endpoint that is closed. -/
theorem gate_accounted_for :
    ∃ c, Crowd.Reaches (fun _ => True) (unattended 4 4 {} { offered := [] } .sound) c ∧
      c.gates = 1 ∧ c.rig.own.users = 0 + 0 + 1 := by
  have reached := gated_reached fun _ => True
  exact ⟨gated, reached, rfl, (users_accounted_for reached).2 rfl rfl⟩

end VideoRig

end Sensing
