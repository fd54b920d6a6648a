import Sensing.Proofs.Video.Obedience
import Sensing.Proofs.Video.Upkeep

/-!
# Who asks a video device for its modes

The journal of a device knows what it was asked and what it answered, so it can be read off it what
the device has reported as its modes (`VideoRig.reports`). Only one call asks for them; all the
other steps that anybody makes leave the reports alone, and the cache of modes with them
(`LeavesModes`).

Four operations need the modes. Each is taken apart into what it does before it asks for them, and
what it does with the answer (`ModesCall.work_eq`). Neither part has anything to do with the modes,
and each keeps count of its own power references: opening has one when it asks, and keeps it only if
it succeeds (`ModesCall.follows_before`, `ModesCall.follows_after`).
-/

namespace Sensing

open Work (Leads Stays)

/-! ## Reports -/

/-- What a call of a machine reports as the modes of its device, if that is what it asks for. -/
def VideoCall.report? (m : Machine VideoDevice VideoCall) : VideoCall → Option (List NativeMode)
  | .enumerate => (m.call VideoCall.enumerate).1.toOption
  | _ => none

/-- Other calls report nothing. -/
theorem VideoCall.report?_eq_none {c : VideoCall} (other : c ≠ .enumerate)
    (m : Machine VideoDevice VideoCall) : c.report? m = none := by
  cases c with
  | enumerate => exact absurd rfl other
  | _ => rfl

/-- The reports of a device, by its fault plan and the journal of its calls; the earliest first. -/
def Machine.reports (plan : FaultPlan VideoCall) :
    List (VideoCall × VideoDevice) → List (List NativeMode)
  | [] => []
  | (c, device) :: journal =>
    reports plan journal ++ (c.report? { device, plan, journal }).toList

namespace VideoRig

/-- The modes that the device has reported to its endpoint, call after call. -/
def reports (r : VideoRig) : List (List NativeMode) :=
  Machine.reports r.machine.plan r.machine.journal

variable {r r' : VideoRig}

/-- A call adds at most its own report. -/
theorem reports_call (r : VideoRig) (c : VideoCall) :
    reports (r.call c).2 = r.reports ++ (c.report? r.machine).toList := by
  unfold reports
  rw [Rig.call_machine, Machine.call_plan, Machine.call_journal]
  rfl

/-! ## Steps that have nothing to do with the modes -/

/-- The device has reported no modes meanwhile, nobody has cached any, and the application has kept
the endpoint. -/
structure LeavesModes (r r' : VideoRig) : Prop where
  modes : r'.core.modes = r.core.modes
  alive : r'.core.alive = r.core.alive
  plan : r'.machine.plan = r.machine.plan
  reports : r'.reports = r.reports

theorem LeavesModes.refl (r : VideoRig) : r.LeavesModes r := ⟨rfl, rfl, rfl, rfl⟩

theorem LeavesModes.trans {r₁ r₂ r₃ : VideoRig} (h : r₁.LeavesModes r₂) (h' : r₂.LeavesModes r₃) :
    r₁.LeavesModes r₃ :=
  ⟨h'.modes.trans h.modes, h'.alive.trans h.alive, h'.plan.trans h.plan,
    h'.reports.trans h.reports⟩

theorem leavesModes_note (r : VideoRig) (level : LogLevel) (message : String) :
    r.LeavesModes (r.note level message) := ⟨rfl, rfl, rfl, rfl⟩

/-- Counting users is not about the modes. -/
theorem leavesModes_withUsers (r : VideoRig) (n : Nat) : r.LeavesModes (r.withUsers n) :=
  ⟨rfl, rfl, rfl, rfl⟩

/-- Calls that ask for something else. -/
theorem leavesModes_call (r : VideoRig) {c : VideoCall} (other : c ≠ .enumerate) :
    r.LeavesModes (r.call c).2 := by
  refine ⟨rfl, rfl, Machine.call_plan r.machine c, ?_⟩
  rw [reports_call, VideoCall.report?_eq_none other]
  exact List.append_nil _

theorem Steady.leavesModes (h : r.Steady r') : r.LeavesModes r' := by
  obtain ⟨ls, -, core⟩ := h.core
  obtain ⟨calls, journal, managing⟩ := h.journal
  refine ⟨by rw [core], by rw [core], h.plan, ?_⟩
  unfold reports
  rw [h.plan, journal]
  clear journal
  induction calls with
  | nil => rfl
  | cons x calls ih =>
    have other : x.1 ≠ .enumerate := by
      intro asks
      have manages := (managing x List.mem_cons_self).1
      rw [asks] at manages
      cases manages
    have before := ih fun y hy => managing y (List.mem_cons_of_mem _ hy)
    rw [← before, List.cons_append]
    show _ ++ (x.1.report? _).toList = _
    rw [VideoCall.report?_eq_none other]
    exact List.append_nil _

/-! ## Power references -/

/-- Taking a reference counts one more if it succeeds. -/
theorem acquire_counts (r : VideoRig) : r.LeavesModes (acquire r).2 ∧
    ((acquire r).1 = .ok () ∧ (acquire r).2.own.users = r.own.users + 1 ∨
      (∃ e, (acquire r).1 = .error e) ∧ (acquire r).2.own.users = r.own.users) := by
  rcases acquire_cases r with ⟨-, h⟩ | ⟨-, r₁, steady, -, h⟩ | ⟨-, r₁, _, steady, h, -⟩
  · rw [h]
    exact ⟨leavesModes_withUsers r _, .inl ⟨rfl, rfl⟩⟩
  · rw [h]
    refine ⟨steady.leavesModes.trans (leavesModes_withUsers r₁ _), .inl ⟨rfl, ?_⟩⟩
    show r₁.own.users + 1 = _
    rw [steady.own]
  · rw [h]
    refine ⟨steady.leavesModes, .inr ⟨⟨_, rfl⟩, ?_⟩⟩
    rw [steady.own]

/-- Giving one back counts one less. -/
theorem release_counts {n : Nat} (alive : r.core.alive = true) (users : r.own.users = n + 1) :
    r.LeavesModes (release r) ∧ (release r).own.users = n := by
  rcases release_cases alive users with ⟨-, h⟩ | ⟨rfl, steady, -⟩
  · rw [h]
    exact ⟨leavesModes_withUsers r n, rfl⟩
  · refine ⟨(leavesModes_withUsers r 0).trans steady.leavesModes, ?_⟩
    rw [steady.own]
    rfl

/-- The rules for clients who have nothing to do with the modes, and give back only the power
references that they have taken. Where one stands is how many it has. -/
def borrowing : Rules VideoRig Nat where
  sees n r := r.core.alive = true ∧ n ≤ r.own.users
  may n r r' n' := r.LeavesModes r' ∧ r'.own.users + n = r.own.users + n'
  idle _ := ⟨.refl _, rfl⟩

variable {n : Nat}

/-- All calls but that one may be made. -/
theorem borrowing_permits (n : Nat) : Rig.Permits (· ≠ VideoCall.enumerate) borrowing n where
  notes r level message _ := ⟨leavesModes_note r level message, rfl⟩
  calls r _ _ other := ⟨leavesModes_call r other, rfl⟩

/-- A borrower counts what it has got. -/
theorem borrowing_acquire : (Work.step acquire).Follows borrowing (Leads (n + 1) n) n := by
  refine Work.follows_step fun r _ => ?_
  obtain ⟨leaves, ⟨ok, users⟩ | ⟨⟨e, refused⟩, users⟩⟩ := acquire_counts r
  · refine ⟨n + 1, ⟨leaves, by omega⟩, ?_⟩
    rw [ok]
    rfl
  · refine ⟨n, ⟨leaves, by omega⟩, ?_⟩
    rw [refused]
    rfl

/-- It gives back what it has. -/
theorem borrowing_release :
    (Procedure.change release).Follows borrowing (fun _ k => k = n) (n + 1) := by
  refine Procedure.follows_change fun r sees => ⟨n, ?_, rfl⟩
  obtain ⟨alive, enough⟩ := sees
  obtain ⟨m, users⟩ := Nat.exists_eq_add_of_le' enough
  obtain ⟨leaves, fewer⟩ := release_counts (n := m + n) alive users
  exact ⟨leaves, by omega⟩

end VideoRig

/-! ## Operations that need the modes -/

namespace Procedure

variable {σ α β : Type}

theorem step_congr {act : σ → β × σ} {next next' : β → Procedure σ α}
    (h : ∀ b, next b = next' b) : Procedure.step act next = .step act next' :=
  congrArg _ (funext h)

theorem bind_congr {p : Procedure σ α} {f f' : α → Procedure σ β} (h : ∀ a, f a = f' a) :
    p.bind f = p.bind f' := congrArg _ (funext h)

end Procedure

/-- Work that only passes on what was found out before. -/
def Work.given {ρ α : Type} (found : Except EndpointError α) : Work ρ α := ExceptT.mk (.done found)

/-- An operation that needs the modes of the device. -/
inductive ModesCall where
  | modes
  | principal
  | resolve (requests : List StreamRequest)
  | openStreams (requests : List StreamRequest)

namespace ModesCall

open VideoRig

/-- What it answers. -/
@[reducible] def Answer : ModesCall → Type
  | .modes => List NativeMode
  | .principal => List StreamRequest
  | .resolve _ => List Route
  | .openStreams _ => Unit

/-- Carries the operation out. -/
def work : (c : ModesCall) → Work VideoRig c.Answer
  | .modes => VideoRig.modes
  | .principal => VideoRig.principal
  | .resolve requests => VideoRig.resolve requests
  | .openStreams requests => VideoRig.openStreams requests

/-- How many power references it has while it needs the modes. -/
def gates : ModesCall → Nat
  | .openStreams _ => 1
  | _ => 0

/-- What it does before it needs them. -/
def before : ModesCall → Procedure VideoRig (Except EndpointError Unit)
  | .openStreams _ =>
    (do
      Work.check fun r => r.core.checkOpen title
      Work.step acquire : Work VideoRig Unit).run
  | _ => .done (.ok ())

/-- What it does with what was found. -/
def after : (c : ModesCall) → Except EndpointError (List NativeMode) →
    Procedure VideoRig (Except EndpointError c.Answer)
  | .modes, found => .done found
  | .principal, found =>
    (do
      let ms ← Work.given found
      let formats ← Work.look fun r => r.core.formats
      for code in unusedCodes formats ms do
        let text := code.text
        Work.change (Rig.note .warn s!"{title}: unutilized native format {text}")
      return principalRequests formats ms : Work VideoRig (List StreamRequest)).run
  | .resolve requests, found =>
    (do
      let ms ← Work.given found
      Work.check fun r => Route.resolve requests r.core.formats ms :
        Work VideoRig (List Route)).run
  | .openStreams requests, found =>
    (Work.onFailure (.change release) do
      let ms ← Work.given found
      let routes ← Work.check fun r => Route.resolve requests r.core.formats ms
      let routed := routedModes routes
      commitAll [] routed
      let asked := requests.length
      let count := routed.length
      Work.change (Rig.note .info
        s!"{title}: opened {asked} request(s) on {count} native profile(s)")
      Work.change fun r =>
        { r with
          own := { r.own with configuration := routes }
          core := { r.core with opened := true } }).run

/-- Work that may be refused before it begins. -/
def admitted {α : Type} (rest : Procedure VideoRig (Except EndpointError α)) :
    Except EndpointError Unit → Procedure VideoRig (Except EndpointError α)
  | .ok _ => rest
  | .error e => .done (.error e)

/-- Work that begins with the modes goes on with what was found. -/
theorem run_modes_bind {α : Type} (rest : List NativeMode → Work VideoRig α) :
    (VideoRig.modes >>= rest).run =
      VideoRig.modes.run.bind fun found => (Work.given found >>= rest).run :=
  Procedure.bind_congr fun found => by cases found <;> rfl

/-- Nothing is done beside that. -/
theorem work_eq (c : ModesCall) :
    c.work.run = c.before.bind (admitted (VideoRig.modes.run.bind c.after)) := by
  cases c with
  | modes => exact (Procedure.bind_done _).symm
  | principal | resolve => exact run_modes_bind _
  | openStreams requests =>
    refine Procedure.step_congr fun check => ?_
    cases check with
    | error e => rfl
    | ok _ =>
      refine Procedure.step_congr fun taken => ?_
      cases taken with
      | error e => rfl
      | ok _ =>
        -- Routing begins with the modes, and so does all that is undone where it fails.
        refine (congrArg (fun w => (Work.onFailure (.change release) w).run)
          (bind_assoc VideoRig.modes _ _)).trans ?_
        show ((VideoRig.modes >>= _).run).bind _ = _
        rw [run_modes_bind, Procedure.bind_assoc]
        rfl

/-! ## What it does before and after -/

theorem leads_of_stays {α : Type} {n k : Nat} {a : Except EndpointError α} (h : Stays n a k) :
    Leads n n a k := by
  cases a <;> exact h.1

/-- A check borrows nothing. -/
theorem leads_check {α : Type} (view : VideoRig → Except EndpointError α) (n : Nat) :
    (Work.check view).Follows borrowing (Leads n n) n := by
  refine Work.follows_check fun r _ => ?_
  cases view r <;> rfl

/-- It comes to the modes with its references, or ends without any. -/
theorem follows_before (c : ModesCall) : c.before.Follows borrowing (Leads c.gates 0) 0 := by
  cases c with
  | modes | principal | resolve => exact rfl
  | openStreams requests =>
    exact Work.Follows.leading (leads_check _ 0) (fun _ => borrowing_acquire) fun _ => rfl

/-- It keeps its references only if it succeeds, and passes on the error that it was given. -/
def Concludes (c : ModesCall) (found : Except EndpointError (List NativeMode))
    (a : Except EndpointError c.Answer) (n : Nat) : Prop :=
  Leads c.gates 0 a n ∧ ∀ e, found = .error e → a = .error e

/-- Opening is the one that keeps its reference, and only if all after the look-up succeeds. -/
theorem follows_after (c : ModesCall) (found : Except EndpointError (List NativeMode)) :
    (c.after found).Follows borrowing (c.Concludes found) c.gates := by
  have permits (n : Nat) := borrowing_permits n
  cases found with
  | error e =>
    have same {a : Except EndpointError c.Answer} (h : a = .error e) :
        c.Concludes (.error e) a 0 := by
      subst h
      exact ⟨rfl, fun _ h => by cases h; rfl⟩
    cases c with
    | modes | principal | resolve => exact same rfl
    | openStreams requests =>
      -- Nothing is begun, but the reference is given back.
      refine Work.Follows.onFailure (P := fun a n => a = .error e ∧ n = 1) ⟨rfl, rfl⟩
        (fun _ _ h => nomatch h.1) ?_
      rintro _ _ ⟨failure, rfl⟩
      cases failure
      refine Procedure.Follows.mono (fun _ n hn => ?_) borrowing_release
      subst hn
      exact same rfl
  | ok ms =>
    refine Procedure.Follows.mono (P := Leads c.gates 0) (fun _ _ h => ⟨h, nofun⟩) ?_
    cases c with
    | modes => exact rfl
    | principal =>
      refine Procedure.Follows.mono (fun _ _ => leads_of_stays) ?_
      refine Work.Follows.andThen (w := Work.given (.ok ms)) Work.stays_return fun ms => ?_
      refine Work.stays_look.andThen fun formats => ?_
      refine Work.Follows.andThen (Work.stays_forIn (fun code _ => ?_) _)
        fun _ => Work.stays_return
      exact (permits 0).say.andThen fun _ => Work.stays_return
    | resolve requests => exact leads_check _ 0
    | openStreams requests =>
      refine Work.Follows.clearing ?_ borrowing_release
      have given : (Work.given (.ok ms)).Follows borrowing (Leads 1 1) 1 := rfl
      refine given.leading (fun ms => ?_) fun _ => rfl
      refine (leads_check _ 1).leading (fun routes => ?_) fun _ => rfl
      refine Work.Follows.mono (fun _ _ => leads_of_stays) ?_
      refine Work.Follows.andThen ((permits 1).commitAll (fun m => ⟨nofun, nofun⟩) [] _) fun _ => ?_
      refine (permits 1).say.andThen fun _ => ?_
      refine Work.stays_ofProcedure (Procedure.follows_change fun r _ => ?_)
      exact ⟨1, ⟨⟨rfl, rfl, rfl, rfl⟩, rfl⟩, rfl⟩

end ModesCall

end Sensing
