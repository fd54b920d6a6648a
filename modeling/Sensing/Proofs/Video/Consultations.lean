import Sensing.Proofs.Clients.Alone
import Sensing.Proofs.Clients.Assurance
import Sensing.Proofs.Video.Inquiries

/-!
# Looking up the modes of a video device

Whoever needs the modes of a device looks for them in the cache, and if there are none asks the
device, which has to be powered for that. A *consultation* is one time that this is done: the steps
that a client makes for it, and what it is answered. There are three kinds. It finds the modes in
the cache, and does nothing else (`Consultation.Finds`); it makes an attempt that fails, with an
error of that attempt (`Consultation.Fails`); or the attempt succeeds, and what the device reports
is cached (`Consultation.Obtains`).

Only one client at a time may look further than the cache. Then nobody else can ask the device or
fill the cache meanwhile, and a look-up comes to one of the three, depending on whether there was a
report before (`modes_assures`); and the power references that it takes it gives back.
-/

namespace Sensing

namespace VideoRig

/-! ## What is done for an answer -/

/-- The power references taken, less those given back. -/
def taken : Deeds VideoRig → Int
  | [] => 0
  | (r, r') :: deeds => (r'.own.users - r.own.users) + taken deeds

theorem taken_concat (deeds : Deeds VideoRig) (r r' : VideoRig) :
    taken (deeds ++ [(r, r')]) = taken deeds + (r'.own.users - r.own.users) := by
  induction deeds with
  | nil => exact Int.add_comm _ _
  | cons x deeds ih =>
    show _ + taken (deeds ++ [(r, r')]) = _ + taken deeds + _
    rw [ih, Int.add_assoc]

/-- Steps that leave the count as it is. -/
theorem taken_idle {n : Int} {deeds : Deeds VideoRig} {r r' : VideoRig} (before : taken deeds = n)
    (same : r'.own.users = r.own.users) : taken (deeds ++ [(r, r')]) = n := by
  rw [taken_concat, before, same]
  omega

/-- One time that a client needs the modes. -/
structure Consultation where
  deeds : Deeds VideoRig
  answer : Except EndpointError (List NativeMode)

/-- What is logged about a report. -/
def noteReport (reported : List NativeMode) : VideoRig → VideoRig :=
  let count := (distinct reported).length
  Rig.note .info s!"{title}: enumerated {count} native profiles"

/-- Caches modes where there are none. -/
def cache (ms : List NativeMode) (r : VideoRig) : VideoRig :=
  { r with core := { r.core with modes := ⟨some ms⟩ } }

namespace Consultation

/-- The modes were in the cache, and that was looked at. -/
inductive Finds (ms : List NativeMode) : Consultation → Prop where
  | cached {r : VideoRig} (found : r.core.modes.value = some ms) : Finds ms ⟨[(r, r)], .ok ms⟩

/-- There were none, and the device could not be powered, or was and failed when it was asked. -/
inductive Fails : Consultation → Prop where
  | unpowered {r₀ r₁ : VideoRig} {e : EndpointError} (empty : r₀.core.modes.value = none)
      (refused : (acquire r₁).1 = .error e) :
    Fails ⟨[(r₀, r₀), (r₁, (acquire r₁).2)], .error e⟩
  | unreported {r₀ r₁ r₂ r₃ : VideoRig} {cause : Cause} (empty : r₀.core.modes.value = none)
      (powered : (acquire r₁).1 = .ok ())
      (failed : (r₂.call VideoCall.enumerate).1 = .error cause) :
    Fails
      ⟨[(r₀, r₀), (r₁, (acquire r₁).2), (r₂, (r₂.call VideoCall.enumerate).2), (r₃, release r₃)],
        .error (.ofCause cause)⟩

/-- There were none, the powered device reported some, and these were cached, each once. -/
inductive Obtains (reported : List NativeMode) : Consultation → Prop where
  | enumerated {r₀ r₁ r₂ r₃ r₄ r₅ : VideoRig} (empty : r₀.core.modes.value = none)
      (powered : (acquire r₁).1 = .ok ())
      (answer : (r₂.call VideoCall.enumerate).1 = .ok reported) :
    Obtains reported
      ⟨[(r₀, r₀), (r₁, (acquire r₁).2), (r₂, (r₂.call VideoCall.enumerate).2),
          (r₃, noteReport reported r₃), (r₄, release r₄), (r₅, cache (distinct reported) r₅)],
        .ok (distinct reported)⟩

/-- What the device has reported before a consultation and after it: once there is a report, it is
found; until then each attempt fails or obtains one. -/
inductive Advances : Option (List NativeMode) → Consultation → Option (List NativeMode) → Prop where
  | found {reported : List NativeMode} {x : Consultation} (finds : x.Finds (distinct reported)) :
    Advances (some reported) x (some reported)
  | failed {x : Consultation} (fails : x.Fails) : Advances none x none
  | obtained {reported : List NativeMode} {x : Consultation} (obtains : x.Obtains reported) :
    Advances none x (some reported)

end Consultation

/-! ## A look-up, step by step -/

/-- Caches modes, unless there are some, and answers those that are cached. -/
def fill (ms : List NativeMode) : VideoRig → Except EndpointError (List NativeMode) × VideoRig :=
  Rig.onCore fun c =>
    let (kept, cache) := c.modes.fill ms
    (.ok kept, { c with modes := cache })

/-- What is left to do with a report. -/
def keepReport (reported : List NativeMode) :
    Procedure VideoRig (Except EndpointError (List NativeMode)) :=
  .step (fun r => ((), noteReport reported r)) fun _ =>
    .step (fun r => ((), release r)) fun _ => .step (fill (distinct reported)) .done

/-- What is left to do with a powered device. -/
def askDevice : Procedure VideoRig (Except EndpointError (List NativeMode)) :=
  .step (Rig.call VideoCall.enumerate) fun
    | .error cause => .step (fun r => ((), release r)) fun _ => .done (.error (.ofCause cause))
    | .ok reported => keepReport reported

/-- A look-up, taken apart into its single steps. -/
theorem modes_run :
    modes.run = .step (fun r => (r.core.modes.value, r)) fun
      | some ms => .done (.ok ms)
      | none => .step acquire fun
        | .error e => .done (.error e)
        | .ok _ => askDevice := by
  refine Procedure.step_congr fun found => ?_
  cases found with
  | some ms => rfl
  | none =>
    refine Procedure.step_congr fun taken => ?_
    cases taken with
    | error e => rfl
    | ok _ =>
      refine Procedure.step_congr fun answer => ?_
      cases answer <;> rfl

/-- A look-up waits for nothing. -/
theorem modes_unhindered : modes.run.Unhindered := by
  rw [modes_run]
  intro found
  cases found with
  | some ms => trivial
  | none =>
    intro powered
    cases powered with
    | error e => trivial
    | ok _ =>
      intro answer
      cases answer with
      | error cause => exact fun _ => trivial
      | ok reported => exact fun _ _ _ => trivial

/-- What is known of an endpoint that the application has kept: the modes in its cache, and the
reports of its device. -/
structure Holds (cached : Option (List NativeMode)) (reports : List (List NativeMode))
    (r : VideoRig) : Prop where
  modes : r.core.modes.value = cached
  reports : r.reports = reports
  alive : r.core.alive = true

/-- The reports of the device are in the cache, each mode once. -/
def Settled (report : Option (List NativeMode)) : VideoRig → Prop :=
  Holds (report.map distinct) report.toList

variable {cached : Option (List NativeMode)} {reports : List (List NativeMode)} {r r' : VideoRig}

theorem Holds.kept (h : Holds cached reports r) (leaves : r.LeavesModes r') :
    Holds cached reports r' :=
  ⟨leaves.modes ▸ h.modes, leaves.reports.trans h.reports, leaves.alive.trans h.alive⟩

/-- What a client who looks the modes up can find: nobody else has anything to do with the modes,
and the references that it has are still there. -/
def finds (brought : Int) (deeds : Deeds VideoRig) (r r' : VideoRig) : Prop :=
  r.LeavesModes r' ∧ brought + taken deeds ≤ r'.own.users

/-- While it does, the device reports at most once, and the cache is as it was. -/
def Amid (report : Option (List NativeMode)) (deeds : Deeds VideoRig) (r : VideoRig) : Prop :=
  0 ≤ taken deeds ∧ ∃ pending, Holds (report.map distinct) (report.toList ++ pending) r ∧
    (report.toList ++ pending).length ≤ 1

/-- In the end it has made a consultation, and given back what it took. -/
def Concluded (report : Option (List NativeMode)) (deeds : Deeds VideoRig)
    (answer : Except EndpointError (List NativeMode)) (r : VideoRig) : Prop :=
  taken deeds = 0 ∧ ∃ report', Consultation.Advances report ⟨deeds, answer⟩ report' ∧
    Settled report' r

open Consultation

/-! ## One deed after another -/

/-- Somebody without modes has done some deeds: the reports of the device so far, and how many
references of its own it has now. -/
structure Searching (references : Int) (reports : List (List NativeMode)) (deeds : Deeds VideoRig)
    (r : VideoRig) : Prop where
  holds : Holds none reports r
  taken : taken deeds = references

namespace Searching

variable {references brought : Int} {deeds : Deeds VideoRig} {left : VideoRig}

theorem amid (h : Searching references reports deeds r) (few : reports.length ≤ 1)
    (some : 0 ≤ references) : Amid none deeds r := ⟨h.taken ▸ some, reports, h.holds, few⟩

/-- What others do while somebody searches brings no report. -/
theorem found (h : Searching references reports deeds left) (found : finds brought deeds left r) :
    Searching references reports deeds r := ⟨h.holds.kept found.1, h.taken⟩

theorem idle (h : Searching references reports deeds r) (leaves : r.LeavesModes r')
    (same : r'.own.users = r.own.users) :
    Searching references reports (deeds ++ [(r, r')]) r' :=
  ⟨h.holds.kept leaves, taken_idle h.taken same⟩

theorem acquire (h : Searching 0 reports deeds r) :
    (VideoRig.acquire r).1 = .ok () ∧
        Searching 1 reports (deeds ++ [(r, (acquire r).2)]) (acquire r).2 ∨
      ∃ e, (VideoRig.acquire r).1 = .error e ∧
        Searching 0 reports (deeds ++ [(r, (acquire r).2)]) (acquire r).2 := by
  obtain ⟨leaves, ⟨ok, users⟩ | ⟨⟨e, refused⟩, users⟩⟩ := acquire_counts r
  · refine .inl ⟨ok, h.holds.kept leaves, ?_⟩
    rw [taken_concat, h.taken, users]
    omega
  · exact .inr ⟨e, refused, h.idle leaves users⟩

/-- The reference that it took is still there to be given back. -/
theorem release (h : Searching 1 reports deeds r) (found : finds brought deeds left r)
    (atLeast : 0 ≤ brought) :
    Searching 0 reports (deeds ++ [(r, release r)]) (VideoRig.release r) := by
  have enough : brought + VideoRig.taken deeds ≤ r.own.users := found.2
  rw [h.taken] at enough
  obtain ⟨n, users⟩ : ∃ n, r.own.users = n + 1 := Nat.exists_eq_add_of_le' (by omega)
  obtain ⟨leaves, fewer⟩ := release_counts h.holds.alive users
  refine ⟨h.holds.kept leaves, ?_⟩
  rw [taken_concat, h.taken]
  omega

/-- Only an answer is a report. -/
theorem ask (h : Searching references [] deeds r) :
    Searching references (r.call VideoCall.enumerate).1.toOption.toList
      (deeds ++ [(r, (r.call VideoCall.enumerate).2)]) (r.call VideoCall.enumerate).2 := by
  refine ⟨⟨h.holds.modes, ?_, h.holds.alive⟩, taken_idle h.taken rfl⟩
  rw [reports_call, h.holds.reports]
  rfl

/-- Where there are no modes in the cache, what is put there stays. -/
theorem fill (h : Searching references reports deeds r) (ms : List NativeMode) :
    VideoRig.fill ms r = (.ok ms, cache ms r) := by
  have filled : r.core.modes.fill ms = (ms, ⟨some ms⟩) := by
    unfold Once.fill
    rw [h.holds.modes]
  unfold VideoRig.fill Rig.onCore cache
  dsimp only
  rw [filled]

end Searching

variable {brought : Int} {deeds : Deeds VideoRig} {reported : List NativeMode}

/-- With a report, the reference is given back, and then the modes are cached. -/
theorem keepReport_assures (atLeast : 0 ≤ brought) (h : Searching 1 [reported] deeds r)
    (obtains : ∀ r₃ r₄ r₅, Obtains reported
      ⟨deeds ++ [(r₃, noteReport reported r₃)] ++ [(r₄, release r₄)] ++
        [(r₅, cache (distinct reported) r₅)], .ok (distinct reported)⟩) :
    (keepReport reported).Assures (finds brought) (Amid none) (Concluded none) deeds r := by
  have one : [reported].length ≤ 1 := Nat.le_refl 1
  intro r₃ found₃
  have h₃ := h.found found₃
  refine ⟨h₃.amid one (by decide), ?_⟩
  have noted : Searching 1 [reported] (deeds ++ [(r₃, noteReport reported r₃)])
    (noteReport reported r₃) := h₃.idle (leavesModes_note r₃ _ _) rfl
  intro r₄ found₄
  have h₄ := noted.found found₄
  refine ⟨h₄.amid one (by decide), ?_⟩
  have released := h₄.release found₄ atLeast
  intro r₅ found₅
  have h₅ := released.found found₅
  refine ⟨h₅.amid one (by decide), ?_⟩
  rw [h₅.fill (distinct reported)]
  have filled : Settled (some reported) (cache (distinct reported) r₅) :=
    ⟨rfl, h₅.holds.reports, h₅.holds.alive⟩
  intro r₆ found₆
  refine ⟨?_, some reported, .obtained (obtains r₃ r₄ r₅), filled.kept found₆.1⟩
  exact taken_idle h₅.taken rfl

/-- With the device powered, it answers the one question that it is asked. -/
theorem askDevice_assures {r₀ r₁ : VideoRig} (atLeast : 0 ≤ brought)
    (empty : r₀.core.modes.value = none) (powered : (acquire r₁).1 = .ok ())
    (h : Searching 1 [] [(r₀, r₀), (r₁, (acquire r₁).2)] r) :
    askDevice.Assures (finds brought) (Amid none) (Concluded none)
      [(r₀, r₀), (r₁, (acquire r₁).2)] r := by
  intro r₂ found₂
  have h₂ := h.found found₂
  refine ⟨h₂.amid (Nat.zero_le 1) (by decide), ?_⟩
  have asked := h₂.ask
  cases answer : (r₂.call VideoCall.enumerate).1 with
  | ok reported =>
    rw [answer] at asked
    exact keepReport_assures atLeast asked fun r₃ r₄ r₅ => .enumerated empty powered answer
  | error cause =>
    rw [answer] at asked
    intro r₃ found₃
    have h₃ := asked.found found₃
    refine ⟨h₃.amid (Nat.zero_le 1) (by decide), ?_⟩
    have released := h₃.release found₃ atLeast
    intro r₄ found₄
    exact ⟨released.taken, none, .failed (.unreported empty powered answer),
      released.holds.kept found₄.1⟩

/-- A look-up makes a consultation: it finds the modes if the device has reported some, and makes
one attempt if not. -/
theorem modes_assures {report : Option (List NativeMode)} (atLeast : 0 ≤ brought)
    (settled : Settled report r) :
    modes.run.Assures (finds brought) (Amid report) (Concluded report) [] r := by
  rw [modes_run]
  intro r₀ found₀
  have settled₀ : Settled report r₀ := settled.kept found₀.1
  cases report with
  | some reported =>
    have cached : r₀.core.modes.value = some (distinct reported) := settled₀.modes
    refine ⟨⟨Int.le_refl 0, [], settled₀, Nat.le_refl 1⟩, ?_⟩
    dsimp only
    rw [cached]
    intro r₁ found₁
    have nothing : taken [] = 0 := rfl
    exact ⟨taken_idle nothing rfl, some reported, .found (.cached cached), settled₀.kept found₁.1⟩
  | none =>
    have empty : r₀.core.modes.value = none := settled₀.modes
    have h₀ : Searching 0 [] [] r₀ := ⟨settled₀, rfl⟩
    refine ⟨h₀.amid (Nat.zero_le 1) (by decide), ?_⟩
    have looked := h₀.idle (.refl r₀) rfl
    dsimp only
    rw [empty]
    intro r₁ found₁
    have h₁ := looked.found found₁
    -- The first look is done. From here on the client is on its own with the device.
    refine ⟨h₁.amid (Nat.zero_le 1) (by decide), ?_⟩
    rcases h₁.acquire with ⟨powered, acquired⟩ | ⟨e, refused, h₂⟩
    · rw [powered]
      exact askDevice_assures atLeast empty powered acquired
    · rw [refused]
      intro r₂ found₂
      exact ⟨h₂.taken, none, .failed (.unpowered empty refused), h₂.holds.kept found₂.1⟩

end VideoRig

end Sensing
