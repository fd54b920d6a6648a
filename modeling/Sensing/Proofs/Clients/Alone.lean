import Sensing.Proofs.Clients.Rules

/-!
# A client who has the endpoint to itself

Whoever constructs an endpoint, or sees off one that the application has dropped, shares it with no
other client. Its device is there all the same, and so are the frames that applications hold, so a
procedure is still *carried out* amid what may happen beside it (`Procedure.Carried`).

Another question is whether it comes to an end. All that procedures ever wait for is that frames are
released. What waits for nothing finishes from every state (`Procedure.Unhindered`); what waits
finishes if it does up to there and finds what it waits for (`Procedure.Finishes`).
-/

namespace Sensing

namespace Procedure

variable {σ α β : Type}

/-- A procedure is carried out while other things may happen between its steps, and after the last
one. -/
inductive Carried (beside : σ → σ → Prop) (p : Procedure σ α) (s : σ) :
    Procedure σ α → σ → Prop where
  | begun : Carried beside p s p s
  | onward {p' p'' : Procedure σ α} {s' s'' : σ} (before : Carried beside p s p' s')
      (step : p'.Step s' p'' s'') : Carried beside p s p'' s''
  | aside {p' : Procedure σ α} {s' s'' : σ} (before : Carried beside p s p' s')
      (moved : beside s' s'') : Carried beside p s p' s''

/-- Where a part comes to its end undisturbed, what follows it is next. -/
theorem Carried.runs_then {beside : σ → σ → Prop} {q : Procedure σ β} {p : Procedure σ α}
    {f : α → Procedure σ β} {s t t' : σ} {a : α} (before : q.Carried beside s (p >>= f) t)
    (run : p.run t = .finished a t') : q.Carried beside s (f a) t' := by
  induction p generalizing t with
  | done b =>
    cases run
    exact before
  | step act next ih => exact ih _ (before.onward (.act act (fun b => next b >>= f) t)) run
  | await ready next ih =>
    unfold Procedure.run at run
    split at run
    next isReady => exact ih (before.onward (.ready (next >>= f) isReady)) run
    next => cases run

/-- The same where nothing follows. -/
theorem Carried.runs {beside : σ → σ → Prop} {q p : Procedure σ α} {s t t' : σ} {a : α}
    (before : q.Carried beside s p t) (run : p.run t = .finished a t') :
    q.Carried beside s (.done a) t' := by
  rw [← bind_pure p] at before
  exact before.runs_then run

/-- Nothing else has to happen. -/
theorem carried_of_run {beside : σ → σ → Prop} {p : Procedure σ α} {s s' : σ} {a : α}
    (run : p.run s = .finished a s') : p.Carried beside s (.done a) s' :=
  Carried.begun.runs run

/-! ## Coming to an end -/

/-- If nothing else happens, the procedure comes to an end. -/
def Finishes (p : Procedure σ α) (s : σ) : Prop := ∃ a s', p.run s = .finished a s'

/-- It waits for nothing. -/
def Unhindered : Procedure σ α → Prop
  | .done _ => True
  | .step _ next => ∀ answer, (next answer).Unhindered
  | .await _ _ => False

/-- Two parts that wait for nothing wait for nothing together. -/
theorem Unhindered.bind {p : Procedure σ α} {f : α → Procedure σ β} (hp : p.Unhindered)
    (hf : ∀ a, (f a).Unhindered) : (p >>= f).Unhindered := by
  show (p.bind f).Unhindered
  induction p with
  | done a => exact hf a
  | step act next ih => exact fun answer => ih answer (hp answer)
  | await => cases hp

theorem Unhindered.step {p p' : Procedure σ α} {s s' : σ} (h : p.Unhindered)
    (step : p.Step s p' s') : p'.Unhindered := by
  cases step with
  | act act next => exact h _
  | ready => cases h

/-- What waits for nothing comes to an end from every state. -/
theorem Unhindered.finishes {p : Procedure σ α} (h : p.Unhindered) (s : σ) : p.Finishes s := by
  induction p generalizing s with
  | done a => exact ⟨a, s, rfl⟩
  | step act next ih => exact ih _ (h _) _
  | await => cases h

/-- Where the first part leads is known. -/
theorem finishes_bind {p : Procedure σ α} {f : α → Procedure σ β} {s t : σ} {a : α}
    (run : p.run s = .finished a t) (hf : (f a).Finishes t) : (p >>= f).Finishes s := by
  obtain ⟨b, u, rest⟩ := hf
  refine ⟨b, u, ?_⟩
  rw [run_bind, run]
  exact rest

/-- Nothing is waited for once the first part has come to its end. -/
theorem Finishes.andThen {p : Procedure σ α} {f : α → Procedure σ β} {s : σ} (hp : p.Finishes s)
    (hf : ∀ a, (f a).Unhindered) : (p >>= f).Finishes s := by
  obtain ⟨a, s', run⟩ := hp
  exact finishes_bind run ((hf a).finishes s')

end Procedure

namespace Work

variable {σ α β : Type} {p : Procedure σ α} {f : α → Work σ β}

theorem unhindered_then (hp : p.Unhindered) (hf : ∀ a, (f a).run.Unhindered) :
    (ofProcedure p >>= f).run.Unhindered := by
  unfold ofProcedure
  rw [ExceptT.run_bind_lift]
  exact hp.bind hf

/-- A check does not wait, so only what it lets through matters. -/
theorem unhindered_check {view : σ → Except EndpointError α} (hf : ∀ a, (f a).run.Unhindered) :
    (check view >>= f).run.Unhindered := by
  intro checked
  cases checked with
  | error e => trivial
  | ok a => exact hf a

end Work

theorem Rig.unhindered_attempting {ε δ κ : Type} {what : String} {work : Work (Rig ε δ κ) Unit}
    (works : work.run.Unhindered) : (Rig.attempting what work).Unhindered := by
  refine works.bind fun answer => ?_
  cases answer with
  | ok _ => trivial
  | error e => exact fun _ => trivial

end Sensing
