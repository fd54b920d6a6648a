import Sensing.Proofs.Video.Desk

/-!
# The modes of a video device are enumerated once

Main result: in whatever order the clients come to the desk, and whatever fails, the device reports
its modes at most once. Until then, each consultation is one new attempt, which fails with its own
error; from then on each finds the modes of that report and does nothing else
(`modes_enumerated_once`). What carries it is that whoever is inside is alone with the modes: the
cache and the reports of the device are as it left them (`Visit.Sound`).
-/

namespace Sensing

namespace VideoRig

open Work (Leads)

/-! ## What holds at every desk -/

/-- The consultations about a device that has not reported its modes, or has reported some. -/
def History : Option (List NativeMode) → List Consultation → Prop
  | none, log => ∀ x ∈ log, x.Fails
  | some reported, log => ∃ failures first later, log = failures ++ first :: later ∧
    (∀ x ∈ failures, x.Fails) ∧ first.Obtains reported ∧ ∀ x ∈ later, x.Finds (distinct reported)

/-- What has been reported changes with one consultation at most, which then joins the history. -/
theorem History.advance {report report' : Option (List NativeMode)} {log : List Consultation}
    {x : Consultation} (h : History report log) (advances : x.Advances report report') :
    History report' (log ++ [x]) := by
  cases advances with
  | failed fails => exact List.forall_mem_append.2 ⟨h, List.forall_mem_singleton.2 fails⟩
  | obtained obtains =>
    exact ⟨log, x, [], rfl, h, obtains, List.forall_mem_nil _⟩
  | found finds =>
    obtain ⟨failures, first, later, rfl, fails, obtains, found⟩ := h
    refine ⟨failures, first, later ++ [x], ?_, fails, obtains, ?_⟩
    · rw [List.append_assoc, List.cons_append]
    · exact List.forall_mem_append.2 ⟨found, List.forall_mem_singleton.2 finds⟩

/-- A client outside has nothing to do with the modes, and keeps count of its references. -/
def Place.Sound (log : List Consultation) {c : ModesCall} : Place c → Nat → Prop
  | .before rest, n => rest.Follows borrowing (Leads c.gates 0) n
  | .after x rest, n => x ∈ log ∧ rest.Follows borrowing (c.Concludes x.answer) n

/-- What it is counted with is what it has. -/
def Client.Sound (log : List Consultation) (w : Client) : Prop :=
  ∃ n : Nat, w.references = n ∧ w.place.Sound log n

/-- The client inside is looking the modes up. -/
structure Visit.Sound (report : Option (List NativeMode)) (v : Visit) (r : VideoRig) : Prop where
  brought : v.brought = v.call.gates
  rest : v.rest.Assures (finds v.brought) (Amid report) (Concluded report) v.deeds r
  unfinished : ∀ a, v.rest ≠ .done a
  unhindered : v.rest.Unhindered

/-- If nobody is inside, what the device has reported is in the cache. -/
def Attended (report : Option (List NativeMode)) : Option Visit → VideoRig → Prop
  | none, r => Settled report r
  | some v, r => v.Sound report r

/-- What every step preserves. -/
structure Kept (d : Desk) : Prop where
  references : d.references ≤ d.rig.own.users
  outside : ∀ w ∈ d.outside, w.Sound d.log
  balanced : ∀ x ∈ d.log, taken x.deeds = 0
  attended : ∃ report, History report d.log ∧ Attended report d.inside d.rig

/-! ## What one step preserves -/

section Steps

variable {log log' : List Consultation} {c : ModesCall} {r r' : VideoRig} {n : Nat}
  {report : Option (List NativeMode)}

/-- A client outside stays in order as it goes on, since neither part of its operation is about the
modes. -/
theorem Place.Sound.step {place place' : Place c} (h : place.Sound log n)
    (sees : borrowing.sees n r) (step : place.Step r place' r') :
    ∃ n', borrowing.may n r r' n' ∧ place'.Sound log n' := by
  cases step with
  | before step => exact Procedure.Follows.step h sees step
  | after step =>
    obtain ⟨n', may, follows⟩ := Procedure.Follows.step h.2 sees step
    exact ⟨n', may, h.1, follows⟩

theorem Client.Sound.mono {w : Client} (h : w.Sound log) (more : ∀ x ∈ log, x ∈ log') :
    w.Sound log' := by
  obtain ⟨call, place, references⟩ := w
  obtain ⟨n, count, sound⟩ := h
  refine ⟨n, count, ?_⟩
  cases place with
  | before => exact sound
  | after x => exact ⟨more x sound.1, sound.2⟩

theorem Client.sound_fresh (c : ModesCall) : (Client.fresh c).Sound log :=
  ⟨0, rfl, c.follows_before⟩

/-- Whoever needs the modes has come to them with its references. -/
theorem Client.Sound.gates {references : Int} (h : (Client.asking c references).Sound log) :
    references = c.gates := by
  obtain ⟨n, count, sound⟩ := h
  obtain rfl : n = c.gates := sound
  exact count

theorem Client.sound_answered {x : Consultation} (logged : x ∈ log) :
    (Client.answered c c.gates x).Sound log :=
  ⟨c.gates, rfl, logged, c.follows_after x.answer⟩

theorem Client.Sound.nonneg {w : Client} (h : w.Sound log) : 0 ≤ w.references := by
  obtain ⟨n, count, -⟩ := h
  rw [count]
  exact Int.natCast_nonneg n

/-- So nobody outside owes a reference. -/
theorem heldOutside_nonneg {ws : List Client} (h : ∀ w ∈ ws, w.Sound log) :
    0 ≤ heldOutside ws := by
  induction ws with
  | nil => exact Int.le_refl 0
  | cons w ws ih =>
    obtain ⟨first, others⟩ := List.forall_mem_cons.1 h
    exact Int.add_nonneg first.nonneg (ih others)

/-- What does not concern the modes does not disturb whoever looks them up. -/
theorem Visit.Sound.later {v : Visit} (h : v.Sound report r) (leaves : r.LeavesModes r') :
    v.Sound report r' :=
  { h with rest := h.rest.later fun _ found => ⟨leaves.trans found.1, found.2⟩ }

theorem Attended.later {inside : Option Visit} (h : Attended report inside r)
    (leaves : r.LeavesModes r') : Attended report inside r' := by
  cases inside with
  | none => exact h.kept leaves
  | some v => exact Visit.Sound.later h leaves

end Steps

namespace Kept

variable {d : Desk} (h : Kept d)
include h

/-- The references of those outside are not below zero, so the client inside has its own. -/
theorem found {v : Visit} (inside : d.inside = some v) : finds v.brought v.deeds d.rig d.rig := by
  have enough : heldInside d.inside + heldOutside d.outside ≤ d.rig.own.users := h.references
  have outside := heldOutside_nonneg h.outside
  rw [inside] at enough
  change v.brought + taken v.deeds + heldOutside d.outside ≤ _ at enough
  exact ⟨.refl _, by omega⟩

/-- The cache is as it has been since the last consultation, and only the client inside may know of
a report that is not there. -/
theorem holds {report : Option (List NativeMode)} (attended : Attended report d.inside d.rig) :
    ∃ pending, Holds (report.map distinct) (report.toList ++ pending) d.rig ∧
      (report.toList ++ pending).length ≤ 1 ∧ (d.inside = none → pending = []) := by
  cases inside : d.inside with
  | none =>
    rw [inside] at attended
    have settled : Settled report d.rig := attended
    refine ⟨[], ?_, ?_, fun _ => rfl⟩
    · rw [List.append_nil]
      exact settled
    · cases report with
      | none => exact Nat.zero_le 1
      | some _ => exact Nat.le_refl 1
  | some v =>
    rw [inside] at attended
    obtain ⟨-, pending, holds, few⟩ :=
      attended.rest.at_work (h.found inside) attended.unfinished
    exact ⟨pending, holds, few, nofun⟩

/-- The client inside has given back no more than it has taken. -/
theorem heldInside_nonneg : 0 ≤ heldInside d.inside := by
  obtain ⟨report, -, attended⟩ := h.attended
  cases inside : d.inside with
  | none => exact Int.le_refl 0
  | some v =>
    rw [inside] at attended
    obtain ⟨some, -⟩ := attended.rest.at_work (h.found inside) attended.unfinished
    show 0 ≤ v.brought + taken v.deeds
    rw [attended.brought]
    omega

/-- So those outside have theirs. -/
theorem sees {front back : List Client} {w : Client} {n : Nat}
    (outside : d.outside = front ++ w :: back) (count : w.references = n) :
    borrowing.sees n d.rig := by
  obtain ⟨report, -, attended⟩ := h.attended
  obtain ⟨pending, holds, -⟩ := h.holds attended
  refine ⟨holds.alive, ?_⟩
  have sound := h.outside
  rw [outside, forall_mem_pick] at sound
  have others := heldOutside_nonneg sound.2
  have inside := h.heldInside_nonneg
  have enough : heldInside d.inside + heldOutside d.outside ≤ d.rig.own.users := h.references
  rw [outside, heldOutside_pick] at enough
  omega

/-- Something happens outside that has nothing to do with the modes. -/
theorem elsewhere {r : VideoRig} {outside : List Client} (leaves : d.rig.LeavesModes r)
    (sound : ∀ w ∈ outside, w.Sound d.log)
    (enough : heldInside d.inside + heldOutside outside ≤ r.own.users) :
    Kept { d with rig := r, outside } := by
  obtain ⟨report, history, attended⟩ := h.attended
  exact ⟨enough, sound, h.balanced, report, history, attended.later leaves⟩

/-- A new client brings nothing. -/
theorem enter (call : ModesCall) : Kept { d with outside := .fresh call :: d.outside } := by
  refine h.elsewhere (.refl _) (List.forall_mem_cons.2 ⟨Client.sound_fresh call, h.outside⟩) ?_
  have enough : heldInside d.inside + heldOutside d.outside ≤ d.rig.own.users := h.references
  show heldInside d.inside + (0 + heldOutside d.outside) ≤ _
  omega

/-- One of those outside does a step of its own. -/
theorem act {front back : List Client} {w : Client} {place : Place w.call} {r : VideoRig}
    (outside : d.outside = front ++ w :: back) (step : w.place.Step d.rig place r) :
    Kept { d with
      rig := r
      outside := front ++
        ⟨w.call, place, w.references + (r.own.users - d.rig.own.users)⟩ :: back } := by
  have sound := h.outside
  have enough : heldInside d.inside + heldOutside d.outside ≤ d.rig.own.users := h.references
  rw [outside, forall_mem_pick] at sound
  rw [outside, heldOutside_pick] at enough
  obtain ⟨⟨n, count, standing⟩, others⟩ := sound
  obtain ⟨n', ⟨leaves, balance⟩, onward⟩ := standing.step (h.sees outside count) step
  refine h.elsewhere leaves (forall_mem_pick.2 ⟨⟨n', ?_, onward⟩, others⟩) ?_
  · show w.references + _ = _
    omega
  · rw [heldOutside_pick]
    dsimp only
    omega

/-- One that is done takes nothing with it. -/
theorem leave {front back : List Client} {w : Client} (outside : d.outside = front ++ w :: back) :
    Kept { d with outside := front ++ back } := by
  have sound := h.outside
  have enough : heldInside d.inside + heldOutside d.outside ≤ d.rig.own.users := h.references
  rw [outside, forall_mem_pick] at sound
  rw [outside, heldOutside_pick] at enough
  have nonneg := sound.1.nonneg
  exact h.elsewhere (.refl _) sound.2 (by omega)

/-- One that finds the modes in the cache has consulted nobody, which is a consultation too. -/
theorem found_cached {front back : List Client} {call : ModesCall} {references : Int}
    {ms : List NativeMode} (outside : d.outside = front ++ .asking call references :: back)
    (cached : d.rig.core.modes.value = some ms) :
    Kept { d with
      outside := front ++ .answered call references ⟨[(d.rig, d.rig)], .ok ms⟩ :: back
      log := d.log ++ [⟨[(d.rig, d.rig)], .ok ms⟩] } := by
  obtain ⟨report, history, attended⟩ := h.attended
  have sound := h.outside
  have enough : heldInside d.inside + heldOutside d.outside ≤ d.rig.own.users := h.references
  rw [outside, forall_mem_pick] at sound
  rw [outside, heldOutside_pick] at enough
  obtain ⟨asking, others⟩ := sound
  obtain rfl := asking.gates
  have nothing : taken [] = 0 := rfl
  have finds : Consultation.Finds ms ⟨[(d.rig, d.rig)], .ok ms⟩ := .cached cached
  refine ⟨?_, ?_, ?_, report, history.advance ?_, attended⟩
  · show heldInside d.inside + heldOutside _ ≤ _
    rw [heldOutside_pick]
    exact enough
  · refine forall_mem_pick.2 ⟨Client.sound_answered ?_, fun w hw => (others w hw).mono ?_⟩
    · exact List.mem_append_right _ (List.mem_singleton_self _)
    · exact fun x hx => List.mem_append_left _ hx
  · exact List.forall_mem_append.2 ⟨h.balanced, List.forall_mem_singleton.2
      (taken_idle nothing rfl)⟩
  · -- What is in the cache is what was reported.
    obtain ⟨pending, holds, -⟩ := h.holds attended
    have known := holds.modes
    rw [cached] at known
    cases report with
    | none => cases known
    | some reported =>
      cases known
      exact .found finds

/-- With the lock comes the duty to look the modes up. -/
theorem lock {front back : List Client} {call : ModesCall} {references : Int}
    (free : d.inside = none) (outside : d.outside = front ++ .asking call references :: back) :
    Kept { d with inside := some { call, brought := references }, outside := front ++ back } := by
  obtain ⟨report, history, attended⟩ := h.attended
  have sound := h.outside
  have enough : heldInside d.inside + heldOutside d.outside ≤ d.rig.own.users := h.references
  rw [outside, forall_mem_pick] at sound
  rw [free, outside, heldOutside_pick] at enough
  obtain ⟨asking, others⟩ := sound
  obtain rfl := asking.gates
  rw [free] at attended
  refine ⟨?_, others, h.balanced, report, history, ⟨rfl, ?_, ?_, modes_unhindered⟩⟩
  · show (call.gates : Int) + 0 + heldOutside (front ++ back) ≤ d.rig.own.users
    change 0 + ((call.gates : Int) + heldOutside (front ++ back)) ≤ _ at enough
    omega
  · exact modes_assures (Int.natCast_nonneg _) attended
  · rw [modes_run]
    nofun

/-- The client inside goes on. -/
theorem held {v : Visit} {rest : Procedure VideoRig (Except EndpointError (List NativeMode))}
    {r : VideoRig} (inside : d.inside = some v) (step : v.rest.Step d.rig rest r)
    (unfinished : ∀ a, rest ≠ .done a) :
    Kept { d with
      rig := r
      inside := some { v with rest, deeds := v.deeds ++ [(d.rig, r)] } } := by
  obtain ⟨report, history, attended⟩ := h.attended
  have enough : heldInside d.inside + heldOutside d.outside ≤ d.rig.own.users := h.references
  rw [inside] at attended enough
  refine ⟨?_, h.outside, h.balanced, report, history, ⟨attended.brought, ?_, unfinished, ?_⟩⟩
  · show v.brought + taken (v.deeds ++ [(d.rig, r)]) + heldOutside d.outside ≤ r.own.users
    change v.brought + taken v.deeds + heldOutside d.outside ≤ _ at enough
    rw [taken_concat]
    omega
  · exact attended.rest.step (h.found inside) step
  · exact attended.unhindered.step step

/-- The last step inside completes a consultation, and what was reported is in the cache by then. -/
theorem unlock {v : Visit} {x : Consultation} {r : VideoRig} (inside : d.inside = some v)
    (step : v.rest.Step d.rig (.done x.answer) r) (deeds : x.deeds = v.deeds ++ [(d.rig, r)]) :
    Kept
      { rig := r
        outside := .answered v.call (v.brought + taken x.deeds) x :: d.outside
        log := d.log ++ [x] } := by
  obtain ⟨report, history, attended⟩ := h.attended
  have enough : heldInside d.inside + heldOutside d.outside ≤ d.rig.own.users := h.references
  have found := h.found inside
  have outside := heldOutside_nonneg h.outside
  rw [inside] at attended enough
  -- The client inside brought its own references, and what it did there adds up to none.
  change v.brought + taken v.deeds + heldOutside d.outside ≤ _ at enough
  have last := attended.rest.step found step
  have counts : taken x.deeds = taken v.deeds + (r.own.users - d.rig.own.users) := by
    rw [deeds, taken_concat]
  rw [← deeds] at last
  obtain ⟨zero, report', advances, settled⟩ := last.at_end ⟨.refl r, by omega⟩
  rw [zero, attended.brought, Int.add_zero]
  refine ⟨?_, ?_, ?_, report', history.advance advances, settled⟩
  · show 0 + ((v.call.gates : Int) + heldOutside d.outside) ≤ r.own.users
    rw [attended.brought] at enough
    omega
  · refine List.forall_mem_cons.2 ⟨Client.sound_answered ?_, fun w hw => ?_⟩
    · exact List.mem_append_right _ (List.mem_singleton_self _)
    · exact (h.outside w hw).mono fun y hy => List.mem_append_left _ hy
  · exact List.forall_mem_append.2 ⟨h.balanced, List.forall_mem_singleton.2 zero⟩

/-- So every step preserves it. -/
theorem step {d' : Desk} (step : d.Step d') : Kept d' := by
  cases step with
  | enter call => exact h.enter call
  | act outside step => exact h.act outside step
  | leave outside => exact h.leave outside
  | found outside cached => exact h.found_cached outside cached
  | lock free outside => exact h.lock free outside
  | held inside step unfinished => exact h.held inside step unfinished
  | unlock inside step deeds => exact h.unlock inside step deeds
  | beside leaves enough => exact h.elsewhere leaves h.outside enough

end Kept

/-! ## Coming to an answer -/

/-- Left alone, the client inside is answered, and gives the lock back. -/
theorem Desk.Reaches.concludes {start d : Desk} {v : Visit} (h : Reaches start d)
    (inside : d.inside = some v) (unhindered : v.rest.Unhindered)
    (unfinished : ∀ a, v.rest ≠ .done a) :
    ∃ x r outside, v.rest.run d.rig = .finished x.answer r ∧
      Reaches start { rig := r, outside, log := d.log ++ [x] } := by
  obtain ⟨call, brought, deeds, rest⟩ := v
  induction rest generalizing d deeds with
  | done a => exact absurd rfl (unfinished a)
  | await => cases unhindered
  | step act next ih =>
    have step := Procedure.Step.act act next d.rig
    by_cases last : ∃ a, next (act d.rig).1 = .done a
    · obtain ⟨a, answered⟩ := last
      rw [answered] at step
      refine ⟨⟨deeds ++ [(d.rig, (act d.rig).2)], a⟩, (act d.rig).2, _, ?_,
        h.tail (.unlock inside step rfl)⟩
      show (next (act d.rig).1).run (act d.rig).2 = _
      rw [answered]
      rfl
    · have goesOn : ∀ a, next (act d.rig).1 ≠ .done a := fun a same => last ⟨a, same⟩
      exact ih _ (h.tail (.held inside step goesOn)) _ rfl (unhindered _) goesOn

/-! ## The one enumeration -/

/-- The modes of the device are enumerated once. -/
structure Desk.EnumeratedOnce (d : Desk) : Prop where
  /-- The device reports its modes at most once. -/
  reports : d.rig.reports.length ≤ 1
  /-- Until then each consultation is a new attempt, and the cache is empty; from then on each finds
  what was reported. Only the client inside may know of a report before it is in the cache. -/
  history : ∃ report pending, History report d.log ∧
    d.rig.core.modes.value = report.map distinct ∧ d.rig.reports = report.toList ++ pending ∧
    (d.inside = none → pending = [])
  /-- A consultation gives back the power references that it takes. -/
  balanced : ∀ x ∈ d.log, taken x.deeds = 0
  /-- Left alone, the client inside is answered, and gives the lock back. -/
  concludes : ∀ v, d.inside = some v → ∃ x r outside, v.rest.run d.rig = .finished x.answer r ∧
    d.Reaches { rig := r, outside, log := d.log ++ [x] }
  /-- An operation that ends before it needs the modes keeps no references. -/
  refused : ∀ call e references,
    ⟨call, .before (.done (.error e)), references⟩ ∈ d.outside → references = 0
  /-- Nor does one whose consultation has failed, and that failure is its answer. -/
  failed : ∀ call x a references, ⟨call, .after x (.done a), references⟩ ∈ d.outside →
    x ∈ d.log ∧ ∀ e, x.answer = .error e → a = .error e ∧ references = 0

/-- What every step preserves says all of this. -/
theorem Kept.enumeratedOnce {d : Desk} (h : Kept d) : d.EnumeratedOnce where
  reports := by
    obtain ⟨report, -, attended⟩ := h.attended
    obtain ⟨pending, holds, few, -⟩ := h.holds attended
    rw [holds.reports]
    exact few
  history := by
    obtain ⟨report, history, attended⟩ := h.attended
    obtain ⟨pending, holds, -, free⟩ := h.holds attended
    exact ⟨report, pending, history, holds.modes, holds.reports, free⟩
  balanced := h.balanced
  concludes v inside := by
    obtain ⟨report, -, attended⟩ := h.attended
    rw [inside] at attended
    exact Desk.Reaches.concludes .refl inside attended.unhindered attended.unfinished
  refused call e references present := by
    -- A refused operation leads to no references, whatever it had before.
    obtain ⟨n, count, sound⟩ := h.outside _ present
    obtain rfl : n = 0 := sound
    exact count
  failed call x a references present := by
    obtain ⟨n, count, logged, leads, passes⟩ := h.outside _ present
    refine ⟨logged, fun e answer => ?_⟩
    -- The same for a failed one: it passes the error on, so it is on the way that gives all back.
    have failure : a = .error e := passes e answer
    rw [failure] at leads
    obtain rfl : n = 0 := leads
    exact ⟨failure, count⟩

namespace Desk

variable (capacity limit : Nat) (layout : ClockLayout) (device : VideoDevice)
  (plan : FaultPlan VideoCall)

/-- At first nobody has come and nothing is reported. -/
theorem kept_fresh : Kept (fresh capacity limit layout device plan) where
  references := Int.le_refl 0
  outside := List.forall_mem_nil _
  balanced := List.forall_mem_nil _
  attended := ⟨none, List.forall_mem_nil _, rfl, rfl, rfl⟩

variable {capacity limit layout device plan} {d : Desk}

theorem kept_of_reaches (h : Reaches (fresh capacity limit layout device plan) d) : Kept d := by
  induction h with
  | refl => exact kept_fresh capacity limit layout device plan
  | tail _ step ih => exact ih.step step

end Desk

variable {capacity limit : Nat} {layout : ClockLayout} {device : VideoDevice}
  {plan : FaultPlan VideoCall}

/-- In whatever order clients come with the operations that need the modes, the device enumerates
them once; and the operations do nothing but what clients at a desk do. -/
theorem modes_enumerated_once {d : Desk}
    (h : Desk.Reaches (.fresh capacity limit layout device plan) d) :
    d.EnumeratedOnce ∧
      ∀ call : ModesCall, call.work.run = call.before.bind (ModesCall.admitted
        (modes.run.bind call.after)) :=
  ⟨(Desk.kept_of_reaches h).enumeratedOnce, ModesCall.work_eq⟩

/-! ## Clients who come one after the other -/

/-- What looking the modes up comes to if nobody else does anything. -/
def lookUp (r : VideoRig) : Except EndpointError (List NativeMode) × VideoRig :=
  match modes.run.run r with
  | .finished a r' => (a, r')
  | .waiting _ r' => (.ok [], r')

/-- A client finds nobody inside, and looks the modes up. -/
theorem Desk.Reaches.lookedUp {start d : Desk} (h : Reaches start d) (free : d.inside = none) :
    ∃ x outside, x.answer = (lookUp d.rig).1 ∧
      Reaches start { rig := (lookUp d.rig).2, outside, log := d.log ++ [x] } := by
  have entered : Reaches start { d with outside := .fresh .modes :: d.outside } :=
    h.tail (.enter .modes)
  have asks : Client.fresh .modes :: d.outside = [] ++ .asking .modes 0 :: d.outside := rfl
  have unfinished : ∀ a, modes.run ≠ .done a := by
    rw [modes_run]
    nofun
  obtain ⟨x, r, outside, run, reached⟩ :=
    Desk.Reaches.concludes (entered.tail (.lock free asks)) rfl modes_unhindered unfinished
  unfold lookUp
  rw [run]
  exact ⟨x, outside, rfl, reached⟩

/-- The device changes by itself. -/
theorem Desk.Reaches.changed {d : Desk} (h : Reaches (.fresh capacity limit layout device plan) d)
    (f : VideoDevice → VideoDevice) :
    Reaches (.fresh capacity limit layout device plan) { d with rig := mapDevice f d.rig } :=
  h.tail (.beside ⟨rfl, rfl, rfl, rfl⟩ (Desk.kept_of_reaches h).references)

/-- The device cannot be powered for the first attempt, and fails in the second. -/
def hesitant : FaultPlan VideoCall := fun n _ =>
  if n = 0 then some { cause := ⟨"no power", []⟩ }
  else if n = 2 then some { cause := ⟨"stalled", []⟩ }
  else none

/-- A small mode. -/
def tiny : NativeMode := ⟨2, 1, 30, .grey⟩

/-- The third attempt is the first to succeed. The device lists one mode twice then, and none
afterwards, but the next client finds the one mode. -/
theorem third_attempt_enumerated :
    ∃ d, Desk.Reaches (.fresh 4 4 {} { offered := [tiny, tiny] } hesitant) d ∧
      d.log.map (·.answer) = [.error (.power "power on failed: no power"),
        .error (.transport "stalled"), .ok [tiny], .ok [tiny]] ∧
      d.rig.machine.device.offered = [] ∧ d.EnumeratedOnce := by
  have start : Desk.Reaches (.fresh 4 4 {} { offered := [tiny, tiny] } hesitant) _ := .refl
  obtain ⟨x₁, _, answer₁, first⟩ := start.lookedUp rfl
  obtain ⟨x₂, _, answer₂, second⟩ := first.lookedUp rfl
  obtain ⟨x₃, _, answer₃, third⟩ := second.lookedUp rfl
  have emptied := third.changed fun device => { device with offered := [] }
  obtain ⟨x₄, _, answer₄, fourth⟩ := emptied.lookedUp rfl
  refine ⟨_, fourth, ?_, ?_, (modes_enumerated_once fourth).1⟩
  · show [x₁.answer, x₂.answer, x₃.answer, x₄.answer] = _
    rw [answer₁, answer₂, answer₃, answer₄]
    dsimp only
    decide +kernel
  · dsimp only
    decide +kernel

end VideoRig

end Sensing
