import Sensing.Endpoint.Rig

/-!
# Work that succeeds

`Work.Gives` says of work that it succeeds where nobody comes between its steps: it is carried out
to its end, does not fail, and its answer and the state it leaves are as promised. In particular it
waits for nothing. One theorem for each way of putting work together, as far as it is needed.
-/

namespace Sensing

namespace Work

variable {σ α β γ : Type} {P : α → σ → Prop} {Q : β → σ → Prop} {s : σ}

/-- Carried out without interruption, the work succeeds as promised. -/
def Gives (w : Work σ α) (s : σ) (P : α → σ → Prop) : Prop :=
  ∃ a s', w.run.run s = .finished (.ok a) s' ∧ P a s'

theorem gives_pure {a : α} (h : P a s) : (pure a : Work σ α).Gives s P := ⟨a, s, rfl, h⟩

/-- Work that succeeds after work that succeeds. -/
theorem Gives.bind {w : Work σ α} {f : α → Work σ β} (hw : w.Gives s P)
    (hf : ∀ a s', P a s' → (f a).Gives s' Q) : (w >>= f).Gives s Q := by
  obtain ⟨a, s', first, ha⟩ := hw
  obtain ⟨b, s'', rest, hb⟩ := hf a s' ha
  refine ⟨b, s'', ?_, hb⟩
  rw [ExceptT.run_bind, Procedure.run_bind, first]
  exact rest

/-- A step whose answer is known not to be a failure. -/
theorem gives_step {act : σ → Except EndpointError α × σ} {a : α} (answer : (act s).1 = .ok a)
    (h : P a (act s).2) : (step act).Gives s P := by
  refine ⟨a, (act s).2, ?_, h⟩
  rw [← answer]
  rfl

/-- A check that is passed. -/
theorem gives_check {view : σ → Except EndpointError α} {a : α} (answer : view s = .ok a)
    (h : P a s) : (check view).Gives s P := by
  refine ⟨a, s, ?_, h⟩
  rw [← answer]
  rfl

theorem gives_look {view : σ → α} (h : P (view s) s) : (look view).Gives s P :=
  ⟨view s, s, rfl, h⟩

theorem gives_change {P : Unit → σ → Prop} {f : σ → σ} (h : P () (f s)) : (change f).Gives s P :=
  ⟨(), f s, rfl, h⟩

/-- What would be done on failure is not done. -/
theorem Gives.onFailure {w : Work σ α} {cleanup : Procedure σ Unit} (hw : w.Gives s P) :
    (onFailure cleanup w).Gives s P := by
  obtain ⟨a, s', run, ha⟩ := hw
  refine ⟨a, s', ?_, ha⟩
  unfold Work.onFailure
  rw [ExceptT.run_mk, Procedure.run_bind, run]
  rfl

/-- What is done in any case is done last. -/
theorem Gives.always {P' : α → σ → Prop} {w : Work σ α} {f : σ → σ} (hw : w.Gives s P)
    (after : ∀ a s', P a s' → P' a (f s')) : (always (.change f) w).Gives s P' := by
  obtain ⟨a, s', run, ha⟩ := hw
  refine ⟨a, f s', ?_, after a s' ha⟩
  unfold Work.always
  rw [ExceptT.run_mk, Procedure.run_bind, run]
  rfl

/-- A loop succeeds where its rounds do. -/
theorem gives_forIn {I : σ → Prop} {xs : List α} {round : α → γ → Work σ (ForInStep γ)}
    (hround : ∀ x c s, I s → (round x c).Gives s fun _ s' => I s') (c : γ) (h : I s) :
    (forIn xs c round).Gives s fun _ s' => I s' := by
  induction xs generalizing c s with
  | nil => exact gives_pure h
  | cons x xs ih =>
    rw [List.forIn_cons]
    refine (hround x c s h).bind fun next s' h' => ?_
    cases next with
    | done c => exact gives_pure h'
    | yield c => exact ih c h'

end Work

namespace Rig

variable {ε δ κ : Type} {r : Rig ε δ κ}

/-- A call that the device answers. -/
theorem gives_request [Device δ κ] {c : κ} {P : Device.Reply δ c → Rig ε δ κ → Prop}
    {a : Device.Reply δ c} (answer : (r.call c).1 = .ok a) (h : P a (r.call c).2) :
    (request c).Gives r P := by
  refine ⟨a, (r.call c).2, ?_, h⟩
  show Outcome.finished ((r.call c).1.mapError EndpointError.ofCause) (r.call c).2 = _
  rw [answer]
  rfl

variable {I : Rig ε δ κ → Prop} {known : List NativeMode}
  {enumerate : Work (Rig ε δ κ) (List NativeMode)}

/-- Where certain modes are all that can be cached or enumerated, they are had. -/
theorem gives_modesBy (cached : ∀ r, I r → ∀ modes, r.core.modes.value = some modes → modes = known)
    (fill : ∀ r, I r → I { r with core := { r.core with modes := ⟨some known⟩ } })
    (enumerates : ∀ r, I r → enumerate.Gives r fun modes r' => modes = known ∧ I r') (h : I r) :
    (modesBy enumerate).Gives r fun modes r' => modes = known ∧ I r' := by
  refine Work.Gives.bind (P := fun cache r' => cache = r.core.modes.value ∧ r' = r)
    (Work.gives_look ⟨rfl, rfl⟩) ?_
  rintro _ r₁ ⟨rfl, rfl⟩
  cases found : r₁.core.modes.value with
  | some modes => exact Work.gives_pure ⟨cached r₁ h modes found, h⟩
  | none =>
    refine (enumerates r₁ h).bind fun modes r' enumerated => ?_
    obtain ⟨rfl, h'⟩ := enumerated
    -- Nobody else can have filled the cache meanwhile but the enumeration itself.
    have filled : (r'.core.modes.fill modes).1 = modes ∧
        I { r' with core := { r'.core with modes := (r'.core.modes.fill modes).2 } } := by
      unfold Once.fill
      cases found' : r'.core.modes.value with
      | none => exact ⟨rfl, fill r' h'⟩
      | some kept => exact ⟨cached r' h' kept found', h'⟩
    exact Work.gives_step rfl filled

/-- Requests that can be routed over them are routed. -/
theorem gives_resolveBy {requests : List StreamRequest} {formats : List PixelFormat}
    {routes : List Route}
    (modes : (modesBy enumerate).Gives r fun modes r' => modes = known ∧ I r')
    (registered : ∀ r, I r → r.core.formats = formats)
    (routed : Route.resolve requests formats known = .ok routes) :
    (resolveBy enumerate requests).Gives r fun answer r' => answer = routes ∧ I r' := by
  refine modes.bind ?_
  rintro modes r' ⟨rfl, h'⟩
  refine Work.gives_check ?_ ⟨rfl, h'⟩
  rw [registered r' h']
  exact routed

end Rig

end Sensing
