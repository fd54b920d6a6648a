import Sensing.Proofs.Clients.Alone

/-!
# What is attained whatever happens beside

`Work.Gives` is about work that nobody interrupts. A device delivers on its own, though, so even the
only client of an endpoint finds the state changed between two steps of a procedure, and is certain
only of what it is *told*: of where it stands, and of what that says of the state. Whatever happens
beside the client's own steps leaves that as it is.

`Procedure.Attains` says that from every state that is as told the procedure always goes on, and
that its answer, and where its client stands in the end, are as promised. It is total: nothing is
waited for in vain. One theorem here for each way of putting procedures together, and for work that
succeeds (`Procedure.Succeeds`).

Main results: a procedure that is carried out amid anything that leaves standing what its client is
told keeps its promise (`Attains.carried`), and from wherever it is it comes to its end if it is
left alone, so it is never stuck (`Attains.finishes`).
-/

namespace Sensing

namespace Procedure

variable {σ τ V W α β : Type} {tells : V → σ → Prop} {v v' : V}

/-- From every state that is as a client is told who stands at `v`, each step leads to such a state,
what is waited for is there, and in the end the answer and the client's standing satisfy `Q`. -/
def Attains (tells : V → σ → Prop) (Q : α → V → Prop) : Procedure σ α → V → Prop
  | .done a, v => Q a v
  | .step act next, v =>
    ∀ s, tells v s → ∃ v', tells v' (act s).2 ∧ (next (act s).1).Attains tells Q v'
  | .await ready next, v => (∀ s, tells v s → ready s = true) ∧ next.Attains tells Q v

/-- A procedure that may fail succeeds, as promised. -/
def Succeeds {ε : Type} (tells : V → σ → Prop) (P : α → V → Prop) (p : Procedure σ (Except ε α))
    (v : V) : Prop :=
  p.Attains tells (fun a v' => ∃ b, a = .ok b ∧ P b v') v

/-! ## Putting procedures together -/

/-- An answer that is given at once is given where the client stands. -/
theorem attains_pure {Q : α → V → Prop} {a : α} (h : Q a v) :
    (pure a : Procedure σ α).Attains tells Q v := h

/-- The one step leads where its client stands afterwards. -/
theorem attains_step {Q : α → V → Prop} {act : σ → α × σ}
    (h : ∀ s, tells v s → ∃ v', tells v' (act s).2 ∧ Q (act s).1 v') :
    (Procedure.step act .done).Attains tells Q v := h

/-- A look at the state leaves the client where it stands. -/
theorem attains_look {Q : α → V → Prop} {view : σ → α} (h : ∀ s, tells v s → Q (view s) v) :
    (look view).Attains tells Q v := fun s told => ⟨v, told, h s told⟩

/-- A change leads where it is told of. -/
theorem attains_change {Q : Unit → V → Prop} {f : σ → σ} (h : ∀ s, tells v s → tells v' (f s))
    (hQ : Q () v') : (change f).Attains tells Q v := fun s told => ⟨v', h s told, hQ⟩

/-- What a client is told to be there already is not waited for. -/
theorem attains_waitFor {Q : Unit → V → Prop} {ready : σ → Bool}
    (h : ∀ s, tells v s → ready s = true) (hQ : Q () v) :
    (waitFor ready).Attains tells Q v := ⟨h, hQ⟩

/-- Less is promised. -/
theorem Attains.mono {P Q : α → V → Prop} (hPQ : ∀ a v, P a v → Q a v) {p : Procedure σ α}
    (hp : p.Attains tells P v) : p.Attains tells Q v := by
  induction p generalizing v with
  | done a => exact hPQ a v hp
  | step act next ih =>
    intro s told
    obtain ⟨v', told', rest⟩ := hp s told
    exact ⟨v', told', ih _ rest⟩
  | await ready next ih => exact ⟨hp.1, ih hp.2⟩

/-- Who is told more may go on as if that were all. -/
theorem Attains.forget {Q : α → V → Prop} {p : Procedure σ α} (hp : p.Attains tells Q v')
    (told : ∀ s, tells v s → tells v' s) (hQ : ∀ a, Q a v' → Q a v) : p.Attains tells Q v := by
  induction p with
  | done a => exact hQ a hp
  | step act next => exact fun s known => hp s (told s known)
  | await ready next ih => exact ⟨fun s known => hp.1 s (told s known), ih hp.2⟩

/-- One procedure, and then the rest from wherever it led. -/
theorem Attains.bind {P : α → V → Prop} {Q : β → V → Prop} {p : Procedure σ α}
    {f : α → Procedure σ β} (hp : p.Attains tells P v)
    (hf : ∀ a v', P a v' → (f a).Attains tells Q v') : (p >>= f).Attains tells Q v := by
  show (p.bind f).Attains tells Q v
  induction p generalizing v with
  | done a => exact hf a v hp
  | step act next ih =>
    intro s told
    obtain ⟨v', told', rest⟩ := hp s told
    exact ⟨v', told', ih _ rest⟩
  | await ready next ih => exact ⟨hp.1, ih hp.2⟩

/-- The rest goes on from a state that is told of by the answer alone. -/
theorem Attains.onward {Q : β → V → Prop} {a : α} {p : Procedure σ α} {f : α → Procedure σ β}
    (hp : p.Attains tells (fun b u => b = a ∧ u = v') v) (hf : (f a).Attains tells Q v') :
    (p >>= f).Attains tells Q v := by
  refine hp.bind ?_
  rintro _ _ ⟨rfl, rfl⟩
  exact hf

/-- What is attained on a part of a state is attained on the whole, where the part is told of. -/
theorem Attains.within {tells' : W → τ → Prop} {part : τ → σ} {takeOver : σ → τ → τ}
    {embed : V → W} {Q : α → V → Prop} {p : Procedure σ α} (hp : p.Attains tells Q v)
    (found : ∀ {v t}, tells' (embed v) t → tells v (part t))
    (taken : ∀ {v v' s t}, tells' (embed v) t → tells v' s → tells' (embed v') (takeOver s t)) :
    (p.within part takeOver).Attains tells' (fun a w => ∃ v, w = embed v ∧ Q a v) (embed v) := by
  induction p generalizing v with
  | done a => exact ⟨v, rfl, hp⟩
  | step act next ih =>
    intro t told
    obtain ⟨v', told', rest⟩ := hp (part t) (found told)
    exact ⟨embed v', taken told told', ih _ rest⟩
  | await ready next ih => exact ⟨fun t told => hp.1 (part t) (found told), ih hp.2⟩

/-! ## What is carried out -/

/-- Wherever it is, what its client is told there is true, and the promise stands. -/
theorem Attains.carried {beside : σ → σ → Prop} {Q : α → V → Prop} {p p' : Procedure σ α}
    {s s' : σ} (hp : p.Attains tells Q v)
    (spares : ∀ {s s' v}, beside s s' → tells v s → tells v s') (told : tells v s)
    (h : p.Carried beside s p' s') :
    ∃ v', tells v' s' ∧ p'.Attains tells Q v' := by
  induction h with
  | begun => exact ⟨v, told, hp⟩
  | onward _ step ih =>
    obtain ⟨v', told, hp⟩ := ih
    cases step with
    | act act next => exact hp _ told
    | ready next => exact ⟨v', told, hp.2⟩
  | aside _ moved ih =>
    obtain ⟨v', told, hp⟩ := ih
    exact ⟨v', spares moved told, hp⟩

/-- Left alone it comes to its end, as promised. -/
theorem Attains.finishes {Q : α → V → Prop} {p : Procedure σ α} {s : σ} (hp : p.Attains tells Q v)
    (told : tells v s) : ∃ a s' v', p.run s = .finished a s' ∧ tells v' s' ∧ Q a v' := by
  induction p generalizing v s with
  | done a => exact ⟨a, s, v, rfl, told, hp⟩
  | step act next ih =>
    obtain ⟨v', told', rest⟩ := hp s told
    exact ih _ rest told'
  | await ready next ih =>
    obtain ⟨a, s', v', run, rest⟩ := ih hp.2 told
    exact ⟨a, s', v', (if_pos (hp.1 s told)).trans run, rest⟩

end Procedure

/-! ## Work that may fail -/

section Work

variable {σ V ε α β γ : Type} {tells : V → σ → Prop} {v v' : V}

open Procedure

/-- What is returned at once is a success. -/
theorem Procedure.succeeds_pure {P : α → V → Prop} {a : α} (h : P a v) :
    (pure a : ExceptT ε (Procedure σ) α).run.Succeeds tells P v := ⟨a, rfl, h⟩

/-- Work goes on after a success; a failure is the failure of the whole. -/
theorem Procedure.Attains.andThen {w : ExceptT ε (Procedure σ) α}
    {f : α → ExceptT ε (Procedure σ) β} {P : Except ε α → V → Prop} {Q : Except ε β → V → Prop}
    (hw : w.run.Attains tells P v)
    (ok : ∀ a v', P (.ok a) v' → (f a).run.Attains tells Q v')
    (error : ∀ e v', P (.error e) v' → Q (.error e) v') : (w >>= f).run.Attains tells Q v := by
  rw [ExceptT.run_bind]
  refine hw.bind fun a v' ha => ?_
  cases a with
  | ok a => exact ok a v' ha
  | error e => exact error e v' ha

/-- What work has to attain that `f` follows, for the whole to attain `Q`. -/
def Procedure.Before (tells : V → σ → Prop) (f : α → ExceptT ε (Procedure σ) β)
    (Q : Except ε β → V → Prop) : Except ε α → V → Prop
  | .ok a, v => (f a).run.Attains tells Q v
  | .error e, v => Q (.error e) v

/-- The same, with what the first part has to attain named. -/
theorem Procedure.Attains.before {w : ExceptT ε (Procedure σ) α} {f : α → ExceptT ε (Procedure σ) β}
    {Q : Except ε β → V → Prop} (hw : w.run.Attains tells (Before tells f Q) v) :
    (w >>= f).run.Attains tells Q v :=
  hw.andThen (fun _ _ h => h) fun _ _ h => h

/-- Work goes on after work that succeeds. -/
theorem Procedure.Succeeds.andThen {w : ExceptT ε (Procedure σ) α}
    {f : α → ExceptT ε (Procedure σ) β} {P : α → V → Prop} {Q : Except ε β → V → Prop}
    (hw : w.run.Succeeds tells P v) (hf : ∀ a v', P a v' → (f a).run.Attains tells Q v') :
    (w >>= f).run.Attains tells Q v := by
  refine Attains.andThen hw (fun a v' ha => ?_) fun e v' ha => nomatch ha
  obtain ⟨_, ok, ha⟩ := ha
  cases ok
  exact hf _ v' ha

/-- The same where it is known where the client stands then. -/
theorem Procedure.Succeeds.onward {w : ExceptT ε (Procedure σ) α}
    {f : α → ExceptT ε (Procedure σ) β} {Q : Except ε β → V → Prop}
    (hw : w.run.Succeeds tells (fun _ u => u = v') v) (hf : ∀ a, (f a).run.Attains tells Q v') :
    (w >>= f).run.Attains tells Q v :=
  hw.andThen fun a _ same => same ▸ hf a

/-- Less is promised of the success. -/
theorem Procedure.Succeeds.mono {P Q : α → V → Prop} {p : Procedure σ (Except ε α)}
    (hp : p.Succeeds tells P v) (hPQ : ∀ a v, P a v → Q a v) : p.Succeeds tells Q v :=
  Attains.mono (fun _ v' ⟨b, ok, hb⟩ => ⟨b, ok, hPQ b v' hb⟩) hp

/-- What cannot fail succeeds. -/
theorem Procedure.Attains.lifted {P : α → V → Prop} {p : Procedure σ α} (hp : p.Attains tells P v) :
    (ExceptT.lift p : ExceptT ε (Procedure σ) α).run.Succeeds tells P v :=
  Attains.bind hp fun a _ ha => ⟨a, rfl, ha⟩

/-- A loop whose rounds leave its client where it stands. -/
theorem Procedure.succeeds_forIn {xs : List α}
    {round : α → γ → ExceptT ε (Procedure σ) (ForInStep γ)}
    (hround : ∀ x c, (round x c).run.Succeeds tells (fun _ u => u = v) v) (c : γ) :
    (forIn xs c round).run.Succeeds tells (fun _ u => u = v) v := by
  induction xs generalizing c with
  | nil => exact succeeds_pure rfl
  | cons x xs ih =>
    rw [List.forIn_cons]
    refine (hround x c).andThen ?_
    rintro next _ rfl
    cases next with
    | done c => exact succeeds_pure rfl
    | yield c => exact ih c

namespace Work

/-- A check that is known to be passed succeeds. -/
theorem succeeds_check {P : α → V → Prop} {view : σ → Except EndpointError α}
    (h : ∀ s, tells v s → ∃ a, view s = .ok a ∧ P a v) :
    (check view).run.Succeeds tells P v := attains_look h

/-- A look amid work always succeeds. -/
theorem succeeds_look {P : α → V → Prop} {view : σ → α} (h : ∀ s, tells v s → P (view s) v) :
    (look view).run.Succeeds tells P v := (attains_look h).lifted

/-- A change amid work always succeeds. -/
theorem succeeds_change {f : σ → σ} (h : ∀ s, tells v s → tells v' (f s)) :
    (change f).run.Succeeds tells (fun _ u => u = v') v := (attains_change h rfl).lifted

/-- What work has to attain that is cleaned up after if it fails, for the whole to attain `Q`. -/
def OrCleaned (tells : V → σ → Prop) (cleanup : Procedure σ Unit)
    (Q : Except EndpointError α → V → Prop) : Except EndpointError α → V → Prop
  | .ok a, v => Q (.ok a) v
  | .error e, v => cleanup.Attains tells (fun _ v' => Q (.error e) v') v

/-- If the work fails, cleaning up after it has to lead to what the failure promises. -/
theorem attains_onFailure {Q : Except EndpointError α → V → Prop} {cleanup : Procedure σ Unit}
    {w : Work σ α} (hw : w.run.Attains tells (OrCleaned tells cleanup Q) v) :
    (onFailure cleanup w).run.Attains tells Q v := by
  refine Attains.bind hw fun a v' ha => ?_
  cases a with
  | ok a => exact ha
  | error e => exact Attains.bind ha fun _ _ hQ => hQ

/-- Nothing is to be cleaned up where the work succeeds. -/
theorem succeeds_onFailure {P : α → V → Prop} {cleanup : Procedure σ Unit} {w : Work σ α}
    (hw : w.run.Succeeds tells P v) : (onFailure cleanup w).run.Succeeds tells P v := by
  refine attains_onFailure (Attains.mono ?_ hw)
  intro a v' ⟨b, ok, hb⟩
  subst ok
  exact ⟨b, rfl, hb⟩

/-- What is done in any case is done last. -/
theorem succeeds_always {P Q : α → V → Prop} {cleanup : Procedure σ Unit} {w : Work σ α}
    (hw : w.run.Succeeds tells P v)
    (after : ∀ a v', P a v' → cleanup.Attains tells (fun _ v'' => Q a v'') v') :
    (always cleanup w).run.Succeeds tells Q v := by
  refine Attains.bind hw ?_
  rintro _ v' ⟨a, rfl, ha⟩
  exact Attains.bind (after a v' ha) fun _ _ hQ => ⟨a, rfl, hQ⟩

end Work

end Work

/-! ## What operations of all kinds of endpoints share -/

namespace Rig

variable {ε δ κ V : Type} [Device δ κ] {tells : V → Rig ε δ κ → Prop} {v v' : V}

open Procedure

/-- A call that is granted. -/
theorem attains_attempt {c : κ} {P : Device.Reply δ c → V → Prop}
    (h : ∀ r, tells v r → ∃ a, (r.call c).1 = .ok a ∧ ∃ v', tells v' (r.call c).2 ∧ P a v') :
    (attempt c : Procedure (Rig ε δ κ) _).Succeeds tells P v := by
  intro r told
  obtain ⟨a, answer, v', told', ha⟩ := h r told
  exact ⟨v', told', a, answer, ha⟩

/-- The same where its failure would be the failure of the whole. -/
theorem succeeds_request {c : κ} {P : Device.Reply δ c → V → Prop}
    (h : (attempt c : Procedure (Rig ε δ κ) _).Succeeds tells P v) :
    (request c : Work (Rig ε δ κ) _).run.Succeeds tells P v := by
  refine Attains.bind h ?_
  rintro _ v' ⟨a, rfl, ha⟩
  exact ⟨a, rfl, ha⟩

omit [Device δ κ]

variable {known : List NativeMode} {enumerate : Work (Rig ε δ κ) (List NativeMode)}

/-- Where certain modes are all that can be cached or enumerated, they are had. -/
theorem succeeds_modesBy
    (cached : ∀ r, tells v r → ∀ modes, r.core.modes.value = some modes → modes = known)
    (fill : ∀ r, tells v r → tells v { r with core := { r.core with modes := ⟨some known⟩ } })
    (enumerates : enumerate.run.Succeeds tells (fun modes u => modes = known ∧ u = v) v) :
    (modesBy enumerate).run.Succeeds tells (fun modes u => modes = known ∧ u = v) v := by
  have look : (Work.look fun r : Rig ε δ κ => r.core.modes.value).run.Succeeds tells
      (fun cache u => u = v ∧ ∀ modes, cache = some modes → modes = known) v :=
    Work.succeeds_look fun r told => ⟨rfl, cached r told⟩
  refine look.andThen ?_
  rintro cache _ ⟨rfl, isKnown⟩
  cases cache with
  | some modes => exact succeeds_pure ⟨isKnown modes rfl, rfl⟩
  | none =>
    refine enumerates.andThen ?_
    rintro modes u ⟨rfl, rfl⟩
    refine attains_step fun r told => ?_
    -- Where the cache was filled meanwhile, it was filled with the same.
    have filled : (r.core.modes.fill modes).1 = modes ∧
        tells u { r with core := { r.core with modes := (r.core.modes.fill modes).2 } } := by
      unfold Once.fill
      cases found : r.core.modes.value with
      | none => exact ⟨rfl, fill r told⟩
      | some kept => exact ⟨cached r told kept found, told⟩
    exact ⟨_, filled.2, _, rfl, filled.1, rfl⟩

/-- Requests are routed over them and the formats that are known to be registered. -/
theorem attains_resolveBy {requests : List StreamRequest} {formats : List PixelFormat}
    (modes : (modesBy enumerate).run.Succeeds tells (fun modes u => modes = known ∧ u = v) v)
    (registered : ∀ r, tells v r → r.core.formats = formats) :
    (resolveBy enumerate requests).run.Attains tells
      (fun a u => a = Route.resolve requests formats known ∧ u = v) v := by
  refine modes.andThen ?_
  rintro modes _ ⟨rfl, rfl⟩
  refine attains_look fun r told => ⟨?_, rfl⟩
  rw [registered r told]

end Rig

end Sensing
