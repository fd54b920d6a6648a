import Sensing.Proofs.Device.Calls

/-!
# What a device was asked, and what it complained of

The journal of a device knows its calls and how each of them found it, and the fault plan what
became of them, so the *transcript* can be read off the two: the calls, each with the complaint it
met, if it met one (`Rig.transcript`). One call adds one line (`Rig.transcript_call`).

`Rig.Asks` says of a stretch of an operation that all it did was to make certain calls, whatever
they met, and to write to the log.

For work that is carried out without interruption, what it comes to is put together from what its
parts come to: one theorem here for each way of going on.
-/

namespace Sensing

/-- A call and what it met: a complaint, or none. -/
abbrev Exchange (κ : Type) : Type := κ × Option Cause

namespace Machine

variable {δ κ : Type} [Device δ κ]

/-- What a call of a machine meets. -/
def complaint? (m : Machine δ κ) (c : κ) : Option Cause :=
  match (m.call c).1 with
  | .ok _ => none
  | .error cause => some cause

/-- The calls of a device and what they met, by its fault plan and its journal; the earliest
first. -/
def transcript (plan : FaultPlan κ) : List (κ × δ) → List (Exchange κ)
  | [] => []
  | (c, device) :: journal =>
    transcript plan journal ++ [(c, complaint? { device, plan, journal } c)]

variable {m : Machine δ κ} {c : κ}

/-- A call that is answered meets no complaint. -/
theorem complaint?_of_ok {a : Device.Reply δ c} (h : (m.call c).1 = .ok a) :
    m.complaint? c = none := by
  unfold complaint?
  rw [h]

/-- A call that fails meets the complaint that it fails with. -/
theorem complaint?_of_error {cause : Cause} (h : (m.call c).1 = .error cause) :
    m.complaint? c = some cause := by
  unfold complaint?
  rw [h]

/-- What comes later adds lines for its own calls. -/
theorem transcript_append (plan : FaultPlan κ) (calls journal : List (κ × δ)) :
    ∃ xs : List (Exchange κ), transcript plan (calls ++ journal) = transcript plan journal ++ xs ∧
      xs.map Prod.fst = (calls.map Prod.fst).reverse := by
  induction calls with
  | nil => exact ⟨[], (List.append_nil _).symm, rfl⟩
  | cons x calls ih =>
    obtain ⟨xs, lines, same⟩ := ih
    refine ⟨xs ++ [(x.1, complaint? ⟨x.2, plan, calls ++ journal⟩ x.1)], ?_, ?_⟩
    · rw [← List.append_assoc, ← lines]
      rfl
    · rw [List.map_append, same]
      exact List.reverse_cons.symm

end Machine

namespace Rig

variable {ε δ κ : Type} [Device δ κ] {r r₁ r₂ r₃ : Rig ε δ κ} {xs ys : List (Exchange κ)}

/-- What the endpoint has asked of its device, and what it met; the earliest first. -/
def transcript (r : Rig ε δ κ) : List (Exchange κ) :=
  Machine.transcript r.machine.plan r.machine.journal

/-- One call adds one line. -/
theorem transcript_call (r : Rig ε δ κ) (c : κ) :
    (r.call c).2.transcript = r.transcript ++ [(c, r.machine.complaint? c)] := by
  unfold transcript
  rw [call_machine, Machine.call_plan, Machine.call_journal]
  rfl

/-- Such calls were made and met that; the endpoint has done nothing else but write to its log. -/
structure Asks (r : Rig ε δ κ) (xs : List (Exchange κ)) (r' : Rig ε δ κ) : Prop where
  core : { r'.core with log := r.core.log } = r.core
  own : r'.own = r.own
  transcript : r'.transcript = r.transcript ++ xs

theorem Asks.refl (r : Rig ε δ κ) : r.Asks [] r := ⟨rfl, rfl, (List.append_nil _).symm⟩

/-- What was asked in one stretch and then in another was asked in both together. -/
theorem Asks.trans (h : r₁.Asks xs r₂) (h' : r₂.Asks ys r₃) : r₁.Asks (xs ++ ys) r₃ where
  core := by
    rw [← h.core, ← h'.core]
  own := h'.own.trans h.own
  transcript := by rw [h'.transcript, h.transcript, List.append_assoc]

/-- A line in the log asks the device nothing. -/
theorem asks_note (r : Rig ε δ κ) (level : LogLevel) (message : String) :
    r.Asks [] (r.note level message) := ⟨rfl, rfl, (List.append_nil _).symm⟩

/-- A call asks one thing. -/
theorem asks_call (r : Rig ε δ κ) (c : κ) : r.Asks [(c, r.machine.complaint? c)] (r.call c).2 :=
  ⟨rfl, rfl, r.transcript_call c⟩

end Rig

/-! ## Carrying work out without interruption -/

namespace Procedure

variable {σ α β : Type} {p : Procedure σ α} {f : α → Procedure σ β} {s s' : σ} {a : α}

/-- What a procedure comes to is where the rest begins. -/
theorem run_then (h : p.run s = .finished a s') : (p >>= f).run s = (f a).run s' := by
  rw [run_bind, h]
  rfl

end Procedure

namespace Work

variable {σ α β : Type} {w : Work σ α} {f : α → Work σ β} {cleanup : Procedure σ Unit}
  {p : Procedure σ β} {g : β → Work σ α} {s s' s'' : σ} {a : α} {b : β} {e : EndpointError}

/-- After a success the work goes on. -/
theorem run_then (h : w.run.run s = .finished (.ok a) s') :
    (w >>= f).run.run s = (f a).run.run s' := by
  rw [ExceptT.run_bind]
  exact Procedure.run_then h

/-- A failure is the end of it. -/
theorem run_stop (h : w.run.run s = .finished (.error e) s') :
    (w >>= f).run.run s = .finished (.error e) s' := by
  rw [ExceptT.run_bind]
  exact Procedure.run_then h

/-- Nothing has to be cleared up after a success. -/
theorem run_onFailure_ok (h : w.run.run s = .finished (.ok a) s') :
    (onFailure cleanup w).run.run s = .finished (.ok a) s' := by
  unfold onFailure
  rw [ExceptT.run_mk]
  exact Procedure.run_then h

/-- After a failure its clean-up is carried out, and the failure stands. -/
theorem run_onFailure_error (h : w.run.run s = .finished (.error e) s')
    (clear : cleanup.run s' = .finished () s'') :
    (onFailure cleanup w).run.run s = .finished (.error e) s'' := by
  unfold onFailure
  rw [ExceptT.run_mk]
  refine (Procedure.run_then h).trans ?_
  exact Procedure.run_then clear

/-- A check answers what it sees. -/
theorem run_check {view : σ → Except EndpointError α} {answer : Except EndpointError α}
    (h : view s = answer) : (check view).run.run s = .finished answer s := by
  rw [← h]
  rfl

/-- A look is followed by the rest, in the same state. -/
theorem run_look_then (view : σ → β) (s : σ) :
    (look view >>= g).run.run s = (g (view s)).run.run s := rfl

/-- What cannot fail is done, and then the rest. -/
theorem run_ofProcedure_then (h : p.run s = .finished b s') :
    (ofProcedure p >>= g).run.run s = (g b).run.run s' := by
  unfold ofProcedure
  rw [ExceptT.run_bind_lift]
  exact Procedure.run_then h

end Work

namespace Rig

variable {ε δ κ α : Type} [Device δ κ] {c : κ} {r : Rig ε δ κ}

/-- A call that is attempted is followed by the rest, whatever it met. -/
theorem run_attempt_then (c : κ) (f : Except Cause (Device.Reply δ c) → Procedure (Rig ε δ κ) α)
    (r : Rig ε δ κ) : (attempt c >>= f).run r = (f (r.call c).1).run (r.call c).2 := rfl

/-- A request succeeds with the reply, -/
theorem run_request_ok {a : Device.Reply δ c} (h : (r.call c).1 = .ok a) :
    (request c).run.run r = .finished (.ok a) (r.call c).2 := by
  show Outcome.finished ((r.call c).1.mapError EndpointError.ofCause) (r.call c).2 = _
  rw [h]
  rfl

/-- and fails with the complaint. -/
theorem run_request_error {cause : Cause} (h : (r.call c).1 = .error cause) :
    (request c).run.run r = .finished (.error (.ofCause cause)) (r.call c).2 := by
  show Outcome.finished ((r.call c).1.mapError EndpointError.ofCause) (r.call c).2 = _
  rw [h]
  rfl

end Rig

end Sensing
