import Sensing.Proofs.Clients.Knowledge
import Sensing.Proofs.Routing.Resolution

/-!
# Errors of the caller's own making

An error is the caller's own where an operation was called out of turn or a request cannot be
served; any other is the device's. What the operations of all kinds of endpoints share, the native
modes and routing, fails for no reason but the caller's, as far as the enumeration does not fail
(`Guides.modesBy`, `Guides.resolveBy`).
-/

namespace Sensing

/-- Whether an error is of the caller's own making. -/
def EndpointError.isOfCaller : EndpointError → Bool
  | .precondition _ | .profileNotFound _ | .invalidArgument _ => true
  | .notSupported _ | .power _ | .transport _ => false

/-- The answer does not fail but for its caller. -/
def Earned {α : Type} (a : Except EndpointError α) : Prop := ∀ e, a = .error e → e.isOfCaller = true

section Earned

variable {α β : Type}

theorem earned_ok {a : α} : Earned (.ok a) := fun _ h => nomatch h

theorem earned_error {e : EndpointError} (h : e.isOfCaller = true) :
    Earned (.error e : Except _ α) := by
  intro e' same
  cases same
  exact h

theorem Earned.of_misuse {a : Except EndpointError α} (misuse : IsMisuse a) : Earned a := by
  obtain ⟨detail, rfl⟩ := misuse
  exact earned_error rfl

theorem Earned.error {e : EndpointError} (h : Earned (.error e : Except _ α)) :
    Earned (.error e : Except _ β) := earned_error (h e rfl)

/-- Neither part fails but for the caller, so the whole does not. -/
theorem Earned.bind {x : Except EndpointError α} {f : α → Except EndpointError β} (hx : Earned x)
    (hf : ∀ a, Earned (f a)) : Earned (x >>= f) := by
  cases x with
  | ok a => exact hf a
  | error e => exact hx.error

/-- The same for all members of a list. -/
theorem earned_mapM {f : α → Except EndpointError β} (hf : ∀ a, Earned (f a)) (as : List α) :
    Earned (as.mapM f) := by
  induction as with
  | nil => exact earned_ok
  | cons a as ih =>
    rw [List.mapM_cons]
    exact (hf a).bind fun _ => ih.bind fun _ => earned_ok

end Earned

namespace Route

variable {requests : List StreamRequest} {formats : List PixelFormat} {modes : List NativeMode}

/-- Routing fails only for a request that nothing serves. -/
theorem resolve_earned : Earned (resolve requests formats modes) := by
  have from_earned (routes : List Route) : Earned (resolveFrom formats modes routes requests) := by
    induction requests generalizing routes with
    | nil => exact earned_ok
    | cons r rs ih =>
      unfold resolveFrom
      split
      · exact earned_error rfl
      · exact ih _
  unfold resolve
  split
  · exact earned_error rfl
  · exact from_earned []

/-- Requests are routed to the modes that there are. -/
theorem resolve_modes {routes : List Route} (h : resolve requests formats modes = .ok routes) :
    ∀ route ∈ routes, route.source.mode ∈ modes := by
  unfold resolve at h
  split at h
  · cases h
  · exact fun route hr => ((sound_nil.resolveFrom h).listed route hr).mode

end Route

namespace Knowledge

variable {ε δ κ V β : Type} [Device δ κ] {K : Knowledge (Rig ε δ κ) V}

/-- What is known of an endpoint does not depend on its log, and of the cached modes it is known
that they are good. -/
structure Reads (K : Knowledge (Rig ε δ κ) V) (good : List NativeMode → Prop) : Prop where
  log : ∀ r log, K.Spares r { r with core := { r.core with log } }
  cached : ∀ {v r modes}, K.tells v r → r.core.modes.value = some modes → good modes
  fill : ∀ r modes, good modes →
    K.Spares r { r with core := { r.core with modes := ⟨some modes⟩ } }

omit [Device δ κ] in
theorem Reads.given {good : List NativeMode → Prop} {P : Rig ε δ κ → Prop} (reads : K.Reads good) :
    (K.given P).Reads good := ⟨reads.log, reads.cached, reads.fill⟩

omit [Device δ κ] in
/-- An operation that begins with its check goes on where it is admitted. -/
theorem turns_guarded {t : Transition} {p : Phase} {v : V} {view : Core → Except EndpointError Unit}
    {f : Unit → Work (Rig ε δ κ) Unit} {Q : Except EndpointError Unit → V → Prop}
    (guards : ∀ {c : Core} {p : Phase}, c.InPhase p → p.Guards t (view c))
    (phase : ∀ r, K.tells v r → r.core.InPhase p)
    (refused : ∀ e, p.refuses t = true → e.isOfCaller = true → Q (.error e) v)
    (hf : p.refuses t = false → (f ()).Follows K.holding (Sure Q) (some v)) :
    (Work.check (fun r => view r.core) >>= f).Follows K.holding (Sure Q) (some v) := by
  have check : (Work.check fun r : Rig ε δ κ => view r.core).Follows K.holding
      (Sure fun a u => u = v ∧ p.Guards t a) (some v) :=
    turns fun r _ known _ => ⟨v, known, rfl, guards (phase r known)⟩
  refine K.holding_guides.onwardWork check ?_ ?_
  · rintro _ (⟨-, _, blames⟩ | ⟨admits, -⟩)
    · cases blames
    · exact hf admits
  · rintro e (⟨refuses, misuse⟩ | ⟨-, ok⟩)
    · exact refused e refuses (Earned.of_misuse misuse e rfl)
    · cases ok

/-! ## Calls of the device -/

/-- What a call of the client with the lock comes to, failed or not. -/
theorem turns_attempt {c : κ} {P : Except Cause (Device.Reply δ c) → V → Prop} {v : V}
    (h : ∀ r : Rig ε δ κ, K.holds r → K.tells v r → K.holds (r.call c).2 →
      ∃ v', K.tells v' (r.call c).2 ∧ P (r.call c).1 v') :
    (Rig.attempt c).Follows K.holding (Sure P) (some v) := turns h

/-- The same where a failure of the call is one of the work. -/
theorem turns_request {c : κ} {P : Except EndpointError (Device.Reply δ c) → V → Prop} {v : V}
    (h : ∀ r : Rig ε δ κ, K.holds r → K.tells v r → K.holds (r.call c).2 →
      ∃ v', K.tells v' (r.call c).2 ∧ P ((r.call c).1.mapError .ofCause) v') :
    (Rig.request c).Follows K.holding (Sure P) (some v) :=
  K.holding_guides.bind (turns_attempt h) fun _ _ hP => Procedure.follows_pure (sure_some hP)

namespace Guides

variable {R : Rules (Rig ε δ κ) (Option β)} (guides : K.Guides R)
  {good : List NativeMode → Prop} (reads : K.Reads good) {v : β}
include guides

omit [Device δ κ] in
/-- A loop whose rounds succeed succeeds. -/
theorem forIn {α γ : Type} {xs : List α} {round : α → γ → Work (Rig ε δ κ) (ForInStep γ)}
    (hround : ∀ x c, (round x c).Follows R (Sure fun a u => u = v ∧ a.isOk = true) (some v))
    (c : γ) : (forIn xs c round).Follows R (Sure fun a u => u = v ∧ a.isOk = true) (some v) := by
  induction xs generalizing c with
  | nil => exact Work.follows_pure (sure_some ⟨rfl, rfl⟩)
  | cons x xs ih =>
    rw [List.forIn_cons]
    refine guides.onwardWork (hround x c) (fun next _ => ?_) fun e h => nomatch h
    cases next with
    | done c => exact Work.follows_pure (sure_some ⟨rfl, rfl⟩)
    | yield c => exact ih c

/-- A call that leaves what is known as it is. -/
theorem request {c : κ} {P : Except EndpointError (Device.Reply δ c) → Prop}
    (h : ∀ r : Rig ε δ κ, K.holds r → (∃ u, K.tells u r) → K.holds (r.call c).2 →
      P ((r.call c).1.mapError .ofCause) ∧ K.Spares r (r.call c).2) :
    (Rig.request c).Follows R (Sure fun a u => u = v ∧ P a) (some v) :=
by
  have made : (Rig.attempt c).Follows R (Sure fun a u => u = v ∧ P (a.mapError .ofCause))
      (some v) := guides.passes h
  exact guides.bind made fun _ _ hP => Procedure.follows_pure (sure_some hP)

omit [Device δ κ] in
/-- What is known to succeed has nothing that would be logged. -/
theorem attempting {what : String} {work : Work (Rig ε δ κ) Unit} {v' : β}
    (works : work.Follows R (Sure fun a u => a = .ok () ∧ u = v') (some v)) :
    (Rig.attempting what work).Follows R (Sure fun _ u => u = v') (some v) := by
  refine guides.bind works ?_
  rintro _ _ ⟨rfl, rfl⟩
  exact Procedure.follows_pure (sure_some rfl)

omit [Device δ κ] in
/-- Dropping an endpoint leads where closing it leads once it has been stopped, where neither
fails. -/
theorem retireBy {title : String} {stop close : Work (Rig ε δ κ) Unit} {gone stopped shut : β}
    {opened : Bool}
    (drops : (Procedure.change fun r : Rig ε δ κ =>
      { r with core := { r.core with alive := false } }).Follows R (Sure fun _ u => u = gone)
        (some v))
    (stops : stop.Follows R (Sure fun a u => a = .ok () ∧ u = stopped) (some gone))
    (looks : (Procedure.look fun r : Rig ε δ κ => r.core.opened).Follows R
      (Sure fun b u => u = stopped ∧ b = opened) (some stopped))
    (already : opened = false → shut = stopped)
    (closes : opened = true → close.Follows R (Sure fun a u => a = .ok () ∧ u = shut)
      (some stopped)) :
    (Rig.retireBy title stop close).Follows R (Sure fun _ u => u = shut) (some v) := by
  -- Neither stopping nor closing fails, so nothing is logged between the steps.
  refine guides.bind drops fun _ u same => ?_
  rw [same]
  refine guides.bind (guides.attempting stops) fun _ u same => ?_
  rw [same]
  refine guides.onward looks fun b hb => ?_
  rw [hb]
  cases opened with
  | false =>
    rw [already rfl]
    exact Procedure.follows_pure (sure_some rfl)
  | true => exact guides.attempting (closes rfl)

omit [Device δ κ]
include reads

theorem report {level : LogLevel} {message : String} :
    (Rig.report level message : Procedure (Rig ε δ κ) Unit).Follows R (Sure fun _ u => u = v)
      (some v) :=
  guides.change fun r _ => reads.log r _

/-- A line is logged, and then the rest. -/
theorem saying {α : Type} {level : LogLevel} {message : String} {f : Unit → Work (Rig ε δ κ) α}
    {Q : Except EndpointError α → β → Prop} (hf : (f ()).Follows R (Sure Q) (some v)) :
    (Work.change (Rig.note level message) >>= f).Follows R (Sure Q) (some v) :=
  guides.changing (guides.report reads) hf

variable {enumerate : Work (Rig ε δ κ) (List NativeMode)}
  (enumerates : enumerate.Follows R
    (Sure fun a u => u = v ∧ ∃ modes, a = .ok modes ∧ good modes) (some v))
include enumerates

/-- The native modes are had, and they are good. -/
theorem modesBy : (Rig.modesBy enumerate).Follows R
    (Sure fun a u => u = v ∧ ∃ modes, a = .ok modes ∧ good modes) (some v) := by
  have cached : (Procedure.look fun r : Rig ε δ κ => r.core.modes.value).Follows R
      (Sure fun a u => u = v ∧ ∀ modes, a = some modes → good modes) (some v) :=
    guides.look fun r _ known => fun modes found => reads.cached known.choose_spec found
  refine guides.lift cached fun cache u hu => ?_
  obtain ⟨rfl, isGood⟩ := hu
  cases cache with
  | some modes => exact Work.follows_pure (sure_some ⟨rfl, modes, rfl, isGood modes rfl⟩)
  | none =>
    refine guides.onwardWork enumerates ?_ fun e h => nomatch h.choose_spec.1
    rintro modes ⟨_, ok, isGood⟩
    cases ok
    -- Somebody else may have filled the cache meanwhile, and then those modes are kept.
    refine guides.passes fun r _ known _ => ?_
    show (∃ kept, Except.ok (r.core.modes.fill modes).1 = .ok kept ∧ good kept) ∧
      K.Spares r { r with core := { r.core with modes := (r.core.modes.fill modes).2 } }
    unfold Once.fill
    cases found : r.core.modes.value with
    | none => exact ⟨⟨modes, rfl, isGood⟩, reads.fill r modes isGood⟩
    | some kept => exact ⟨⟨kept, rfl, reads.cached known.choose_spec found⟩, fun _ => id⟩

/-- Requests are routed over good modes and the formats that are registered at some time. -/
theorem resolveBy_over (requests : List StreamRequest) :
    (Rig.resolveBy enumerate requests).Follows R
      (Sure fun a u => u = v ∧ ∃ r : Rig ε δ κ, K.holds r ∧ ∃ modes, good modes ∧
        a = Route.resolve requests r.core.formats modes) (some v) := by
  refine guides.onwardWork (guides.modesBy reads enumerates) ?_ fun e h => nomatch h.choose_spec.1
  rintro modes ⟨_, ok, isGood⟩
  cases ok
  exact guides.look fun r holds _ => ⟨r, holds, modes, isGood, rfl⟩

/-- Requests are routed to good modes, or there is nothing to route them to. -/
theorem resolveBy (requests : List StreamRequest) : (Rig.resolveBy enumerate requests).Follows R
    (Sure fun a u => u = v ∧ Earned a ∧ ∀ routes, a = .ok routes →
      ∃ modes, good modes ∧ ∀ route ∈ routes, route.source.mode ∈ modes) (some v) := by
  refine Work.Follows.mono (fun a _ h => h.mono fun a _ answer => ?_)
    (guides.resolveBy_over reads enumerates requests)
  obtain ⟨same, r, -, modes, isGood, rfl⟩ := answer
  exact ⟨same, Route.resolve_earned, fun routes resolved =>
    ⟨modes, isGood, Route.resolve_modes resolved⟩⟩

end Guides

end Knowledge

end Sensing
