import Sensing.Endpoint.Rig
import Sensing.Proofs.Lifecycle.Phase

/-!
# Rules for clients who share a state

Between two steps of a procedure other clients may act, so nothing that a procedure once saw of the
state is certain later on, except for what the others may not change. `Rules` say what a client can
rely on and what it may do. Both depend on where the client *stands*: what it holds and knows, such
as how many power references it has taken and whether it has the configuration lock.

`Procedure.Follows` says of a procedure that each of its steps is allowed, from every state that its
client can find itself in, and that it ends as promised. It is local to the procedure: the other
clients appear only through `Rules.sees`. One theorem here for each way of putting procedures
together; after that no proof looks inside a procedure again.
-/

namespace Sensing

/-- What clients who share a state `σ` can rely on and may do, where each of them stands somewhere
in `η`. -/
structure Rules (σ η : Type) where
  /-- The states in which a client that stands at `h` can find itself. -/
  sees : η → σ → Prop
  /-- The steps that such a client may make, and where it stands after them. -/
  may : η → σ → σ → η → Prop
  /-- Looking is always allowed. -/
  idle : ∀ {h s}, sees h s → may h s s h

/-- The rules for a client who is alone: it knows the state and may do anything with it. -/
def Rules.alone (σ : Type) : Rules σ σ where
  sees h s := s = h
  may _ _ s' h' := h' = s'
  idle hs := hs.symm

namespace Procedure

variable {σ η α β : Type} {R : Rules σ η}

/-- Every step of the procedure is allowed to a client that stands at `h`, and where the procedure
ends, its answer and its client's standing satisfy `Q`. -/
def Follows (R : Rules σ η) (Q : α → η → Prop) : Procedure σ α → η → Prop
  | .done a, h => Q a h
  | .step act next, h =>
    ∀ s, R.sees h s → ∃ h', R.may h s (act s).2 h' ∧ (next (act s).1).Follows R Q h'
  | .await _ next, h => next.Follows R Q h

/-- One step of a procedure on a state. -/
inductive Step : Procedure σ α → σ → Procedure σ α → σ → Prop where
  | act {β : Type} (act : σ → β × σ) (next : β → Procedure σ α) (s : σ) :
    Step (.step act next) s (next (act s).1) (act s).2
  | ready {ready : σ → Bool} (next : Procedure σ α) {s : σ} (h : ready s = true) :
    Step (.await ready next) s next s

/-- Each step is a move that the rules allow, and the rest of the procedure follows them too. -/
theorem Follows.step {Q : α → η → Prop} {p p' : Procedure σ α} {s s' : σ} {h : η}
    (hp : p.Follows R Q h) (hs : R.sees h s) (hstep : p.Step s p' s') :
    ∃ h', R.may h s s' h' ∧ p'.Follows R Q h' := by
  cases hstep with
  | act act next => exact hp s hs
  | ready next => exact ⟨h, R.idle hs, hp⟩

/-- Less is promised. -/
theorem Follows.mono {P Q : α → η → Prop} (hPQ : ∀ a h, P a h → Q a h) {p : Procedure σ α} {h : η}
    (hp : p.Follows R P h) : p.Follows R Q h := by
  induction p generalizing h with
  | done a => exact hPQ a h hp
  | step act next ih =>
    intro s hs
    obtain ⟨h', hmay, hnext⟩ := hp s hs
    exact ⟨h', hmay, ih _ hnext⟩
  | await ready next ih => exact ih hp

/-- Who finds itself in fewer states and may do more follows the rules all the more. -/
theorem Follows.weaken {R' : Rules σ η} (sees : ∀ {h s}, R'.sees h s → R.sees h s)
    (may : ∀ {h s s' h'}, R.may h s s' h' → R'.may h s s' h') {Q : α → η → Prop}
    {p : Procedure σ α} {h : η} (hp : p.Follows R Q h) : p.Follows R' Q h := by
  induction p generalizing h with
  | done a => exact hp
  | step act next ih =>
    intro s hs
    obtain ⟨h', hmay, hnext⟩ := hp s (sees hs)
    exact ⟨h', may hmay, ih _ hnext⟩
  | await ready next ih => exact ih hp

/-- One procedure, and then the rest from wherever it leaves the client. -/
theorem Follows.bind {P : α → η → Prop} {Q : β → η → Prop} {p : Procedure σ α}
    {f : α → Procedure σ β} {h : η} (hp : p.Follows R P h)
    (hf : ∀ a h', P a h' → (f a).Follows R Q h') : (p >>= f).Follows R Q h := by
  show (p.bind f).Follows R Q h
  induction p generalizing h with
  | done a => exact hf a h hp
  | step act next ih =>
    intro s hs
    obtain ⟨h', hmay, hnext⟩ := hp s hs
    exact ⟨h', hmay, ih _ hnext⟩
  | await ready next ih => exact ih hp

/-- One procedure, and then the rest, from where it leaves the client. -/
theorem follows_then {Q : β → η → Prop} {p : Procedure σ α} {f : α → Procedure σ β} {h h' : η}
    (hp : p.Follows R (fun _ k => k = h') h) (hf : ∀ a, (f a).Follows R Q h') :
    (p >>= f).Follows R Q h := by
  refine hp.bind ?_
  intro a k hk
  rw [hk]
  exact hf a

theorem follows_pure {Q : α → η → Prop} {a : α} {h : η} (hQ : Q a h) :
    (pure a : Procedure σ α).Follows R Q h := hQ

/-- A look leaves its client where it stands, and answers what can be seen from there. -/
theorem follows_look {Q : α → η → Prop} {view : σ → α} {h : η}
    (hQ : ∀ s, R.sees h s → Q (view s) h) : (look view).Follows R Q h :=
  fun s hs => ⟨h, R.idle hs, hQ s hs⟩

/-- A change leads where the rules let it lead. -/
theorem follows_change {Q : Unit → η → Prop} {f : σ → σ} {h : η}
    (hf : ∀ s, R.sees h s → ∃ h', R.may h s (f s) h' ∧ Q () h') : (change f).Follows R Q h :=
  hf

/-- Nothing is known of the state just because something was waited for: the others may have acted
since. -/
theorem follows_waitFor {Q : Unit → η → Prop} {ready : σ → Bool} {h : η} (hQ : Q () h) :
    (waitFor ready).Follows R Q h := hQ

/-- Who is alone knows what a change comes to. -/
theorem alone_change {f : σ → σ} {s : σ} :
    (change f).Follows (Rules.alone σ) (fun _ s' => s' = f s) s := by
  refine follows_change fun s' hs => ?_
  obtain rfl : s' = s := hs
  exact ⟨_, rfl, rfl⟩

/-- What a client who is alone is promised is what comes of carrying the procedure out. -/
theorem Follows.finished {Q : α → σ → Prop} {p : Procedure σ α} {s s' : σ} {a : α}
    (hp : p.Follows (Rules.alone σ) Q s) (hrun : p.run s = .finished a s') : Q a s' := by
  induction p generalizing s with
  | done b =>
    cases hrun
    exact hp
  | step act next ih =>
    -- A client who is alone stands at the state itself.
    obtain ⟨h', hmay, hnext⟩ := hp s rfl
    obtain rfl : h' = (act s).2 := hmay
    exact ih _ hnext hrun
  | await ready next ih =>
    unfold run at hrun
    split at hrun
    · exact ih hp hrun
    · cases hrun

end Procedure

namespace Work

variable {σ η α β : Type} {R : Rules σ η}

/-- `Procedure.Follows` for work that may fail. -/
def Follows (R : Rules σ η) (Q : Except EndpointError α → η → Prop) (w : Work σ α) (h : η) : Prop :=
  w.run.Follows R Q h

/-- Less is promised. -/
theorem Follows.mono {P Q : Except EndpointError α → η → Prop} (hPQ : ∀ a h, P a h → Q a h)
    {w : Work σ α} {h : η} (hw : w.Follows R P h) : w.Follows R Q h :=
  Procedure.Follows.mono hPQ hw

/-- Work goes on after a success; a failure is the failure of the whole. -/
theorem Follows.bind {P : Except EndpointError α → η → Prop} {Q : Except EndpointError β → η → Prop}
    {w : Work σ α} {f : α → Work σ β} {h : η} (hw : w.Follows R P h)
    (ok : ∀ a h', P (.ok a) h' → (f a).Follows R Q h')
    (error : ∀ e h', P (.error e) h' → Q (.error e) h') : (w >>= f).Follows R Q h := by
  refine Procedure.Follows.bind hw ?_
  intro a h' ha
  cases a with
  | ok a => exact ok a h' ha
  | error e => exact error e h' ha

theorem follows_pure {Q : Except EndpointError α → η → Prop} {a : α} {h : η} (hQ : Q (.ok a) h) :
    (pure a : Work σ α).Follows R Q h := hQ

/-- An error that is thrown is the failure of the work, where the client stands. -/
theorem follows_throw {Q : Except EndpointError α → η → Prop} {e : EndpointError} {h : η}
    (hQ : Q (.error e) h) : (throw e : Work σ α).Follows R Q h := hQ

/-- What cannot fail ends in a success. -/
theorem follows_ofProcedure {Q : Except EndpointError α → η → Prop} {p : Procedure σ α} {h : η}
    (hp : p.Follows R (fun a h' => Q (.ok a) h') h) : (ofProcedure p).Follows R Q h :=
  Procedure.Follows.bind hp fun _ _ hQ => hQ

/-- A step that may fail leads where the rules let it lead. -/
theorem follows_step {Q : Except EndpointError α → η → Prop} {act : σ → Except EndpointError α × σ}
    {h : η} (hact : ∀ s, R.sees h s → ∃ h', R.may h s (act s).2 h' ∧ Q (act s).1 h') :
    (step act).Follows R Q h := hact

/-- A check leaves its client where it stands, whatever it answers. -/
theorem follows_check {Q : Except EndpointError α → η → Prop} {view : σ → Except EndpointError α}
    {h : η} (hQ : ∀ s, R.sees h s → Q (view s) h) : (check view).Follows R Q h :=
  Procedure.follows_look hQ

/-- So does a look, which cannot fail. -/
theorem follows_look {Q : Except EndpointError α → η → Prop} {view : σ → α} {h : η}
    (hQ : ∀ s, R.sees h s → Q (.ok (view s)) h) : (look view).Follows R Q h :=
  follows_ofProcedure (Procedure.follows_look hQ)

/-- Who is alone knows what a step comes to, -/
theorem alone_step {Q : Except EndpointError α → σ → Prop} {act : σ → Except EndpointError α × σ}
    {s : σ} (hQ : Q (act s).1 (act s).2) : (step act).Follows (Rules.alone σ) Q s := by
  refine follows_step fun s' hs => ?_
  obtain rfl : s' = s := hs
  exact ⟨_, rfl, hQ⟩

/-- and what a check answers. -/
theorem alone_check {Q : Except EndpointError α → σ → Prop} {view : σ → Except EndpointError α}
    {s : σ} (hQ : Q (view s) s) : (check view).Follows (Rules.alone σ) Q s := by
  refine follows_check fun s' hs => ?_
  obtain rfl : s' = s := hs
  exact hQ

/-- What cannot fail, and then the rest, from where it leaves the client. -/
theorem follows_then {Q : Except EndpointError β → η → Prop} {p : Procedure σ α}
    {f : α → Work σ β} {h h' : η} (hp : p.Follows R (fun _ k => k = h') h)
    (hf : ∀ a, (f a).Follows R Q h') : (ofProcedure p >>= f).Follows R Q h := by
  have lifted : (ofProcedure p).Follows R (fun a k => k = h' ∧ ∃ b, a = .ok b) h :=
    follows_ofProcedure (Procedure.Follows.mono (fun a _ hk => ⟨hk, a, rfl⟩) hp)
  refine Follows.bind lifted ?_ ?_
  · intro a k hk
    rw [hk.1]
    exact hf a
  · intro e k hk
    obtain ⟨-, _, he⟩ := hk
    cases he

/-- What is done on failure is done where the work failed. -/
theorem Follows.onFailure {P Q : Except EndpointError α → η → Prop} {cleanup : Procedure σ Unit}
    {w : Work σ α} {h : η} (hw : w.Follows R P h) (ok : ∀ a h', P (.ok a) h' → Q (.ok a) h')
    (error : ∀ e h', P (.error e) h' → cleanup.Follows R (fun _ h'' => Q (.error e) h'') h') :
    (onFailure cleanup w).Follows R Q h := by
  refine Procedure.Follows.bind hw ?_
  intro a h' ha
  cases a with
  | ok a => exact ok a h' ha
  | error e => exact Procedure.Follows.bind (error e h' ha) fun _ _ hQ => hQ

/-- What is always done is done after success and failure alike. -/
theorem Follows.always {P Q : Except EndpointError α → η → Prop} {cleanup : Procedure σ Unit}
    {w : Work σ α} {h : η} (hw : w.Follows R P h)
    (after : ∀ a h', P a h' → cleanup.Follows R (fun _ h'' => Q a h'') h') :
    (always cleanup w).Follows R Q h :=
  Procedure.Follows.bind hw fun a h' ha =>
    Procedure.Follows.bind (after a h' ha) fun _ _ hQ => hQ

/-! ## Work that leads to one of two places -/

/-- Where work leads that may fail. -/
def Leads (good bad : η) : Except EndpointError α → η → Prop
  | .ok _, k => k = good
  | .error _, k => k = bad

/-- Work goes on from the one place and ends at the other. -/
theorem Follows.leading {Q : Except EndpointError β → η → Prop} {w : Work σ α} {f : α → Work σ β}
    {h good bad : η} (hw : w.Follows R (Leads good bad) h) (ok : ∀ a, (f a).Follows R Q good)
    (error : ∀ e, Q (.error e) bad) : (w >>= f).Follows R Q h := by
  refine Follows.bind hw ?_ ?_
  · intro a k hk
    obtain rfl : k = good := hk
    exact ok a
  · intro e k hk
    obtain rfl : k = bad := hk
    exact error e

/-- What is done on failure starts from where the work failed. -/
theorem Follows.clearing {cleanup : Procedure σ Unit} {w : Work σ α} {h good bad worse : η}
    (hw : w.Follows R (Leads good worse) h)
    (clears : cleanup.Follows R (fun _ k => k = bad) worse) :
    (Work.onFailure cleanup w).Follows R (Leads good bad) h := by
  refine Follows.onFailure hw (fun _ _ hk => hk) ?_
  intro e k hk
  obtain rfl : k = worse := hk
  exact clears

/-! ## Work that leaves its client where it stands -/

/-- The client stands where it stood, and the answer does not blame it. -/
def Stays (h : η) (a : Except EndpointError α) (h' : η) : Prop := h' = h ∧ ¬ IsMisuse a

/-- A success blames nobody. -/
theorem stays_ok {h : η} {a : α} : Stays h (.ok a) h :=
  ⟨rfl, not_isMisuse_ok a⟩

/-- An error that does not blame the client does not blame it as the failure of something else. -/
theorem Stays.error {h h' : η} {e : EndpointError} (hs : Stays h (.error e : Except _ α) h') :
    Stays h (.error e : Except _ β) h' := by
  obtain ⟨rfl, hmisuse⟩ := hs
  refine ⟨rfl, ?_⟩
  intro misuse
  obtain ⟨detail, he⟩ := misuse
  cases he
  exact hmisuse ⟨detail, rfl⟩

/-- One thing after another. -/
theorem Follows.andThen {w : Work σ α} {f : α → Work σ β} {h : η} (hw : w.Follows R (Stays h) h)
    (hf : ∀ a, (f a).Follows R (Stays h) h) : (w >>= f).Follows R (Stays h) h := by
  refine Follows.bind hw ?_ ?_
  · intro a k hk
    rw [hk.1]
    exact hf a
  · intro e k he
    exact he.error

/-- What follows work that leaves its client where it stands goes on from there. -/
theorem follows_after {Q : Except EndpointError β → η → Prop} {w : Work σ α} {f : α → Work σ β}
    {h : η} (hw : w.Follows R (Stays h) h) (error : ∀ e, Q (.error e) h)
    (hf : ∀ a, (f a).Follows R Q h) : (w >>= f).Follows R Q h := by
  refine Follows.bind hw ?_ ?_
  · intro a k hk
    rw [hk.1]
    exact hf a
  · intro e k hk
    rw [hk.1]
    exact error e

/-- What is done on failure may leave the client where the work failed. -/
theorem follows_backing_out {Q : Except EndpointError α → η → Prop} {cleanup : Procedure σ Unit}
    {w : Work σ α} {h : η} (stays : ∀ k, cleanup.Follows R (fun _ k' => k' = k) k)
    (hw : w.Follows R Q h) : (onFailure cleanup w).Follows R Q h := by
  refine Follows.onFailure hw (fun _ _ hQ => hQ) ?_
  intro e k hQ
  refine Procedure.Follows.mono ?_ (stays k)
  intro _ _ hk
  rw [hk]
  exact hQ

theorem stays_return {a : α} {h : η} : (pure a : Work σ α).Follows R (Stays h) h :=
  follows_pure stays_ok

/-- Looking leaves a client where it stands. -/
theorem stays_look {view : σ → α} {h : η} : (look view).Follows R (Stays h) h :=
  follows_look fun _ _ => stays_ok

/-- A look at the state, and then the rest. -/
theorem follows_looking {Q : Except EndpointError β → η → Prop} {view : σ → α} {f : α → Work σ β}
    {h : η} (hf : ∀ a, (f a).Follows R Q h) : (look view >>= f).Follows R Q h :=
  follows_then (Procedure.follows_look (Q := fun _ h' => h' = h) fun _ _ => rfl) hf

/-- A look at what the client knows. -/
theorem follows_knowing {Q : Except EndpointError β → η → Prop} {view : σ → α} {f : α → Work σ β}
    {h : η} {a : α} (known : ∀ s, R.sees h s → view s = a) (hf : (f a).Follows R Q h) :
    (look view >>= f).Follows R Q h := by
  have look : (look view).Follows R (fun answer k => answer = .ok a ∧ k = h) h :=
    follows_look fun s sees => ⟨congrArg Except.ok (known s sees), rfl⟩
  refine Follows.bind look ?_ fun _ _ hk => nomatch hk.1
  intro answer k hk
  obtain ⟨same, rfl⟩ := hk
  cases same
  exact hf

/-- A procedure that leaves its client where it stands cannot fail, so it blames nobody. -/
theorem stays_ofProcedure {p : Procedure σ α} {h : η} (hp : p.Follows R (fun _ h' => h' = h) h) :
    (ofProcedure p).Follows R (Stays h) h := by
  refine follows_ofProcedure (Procedure.Follows.mono ?_ hp)
  intro a k hk
  rw [hk]
  exact stays_ok

/-- A loop stays where each of its rounds stays. -/
theorem stays_forIn {γ : Type} {h : η} {xs : List β} {round : β → γ → Work σ (ForInStep γ)}
    (hround : ∀ x c, (round x c).Follows R (Stays h) h) (c : γ) :
    (forIn xs c round).Follows R (Stays h) h := by
  induction xs generalizing c with
  | nil => exact stays_return
  | cons x xs ih =>
    rw [List.forIn_cons]
    refine (hround x c).andThen fun next => ?_
    cases next with
    | done c => exact stays_return
    | yield c => exact ih c

end Work

namespace Route

/-- Routing blames nobody for a misuse of the lifecycle. -/
theorem resolve_blameless (requests : List StreamRequest) (formats : List PixelFormat)
    (modes : List NativeMode) : ¬ IsMisuse (resolve requests formats modes) := by
  have from_blameless (routes : List Route) :
      ¬ IsMisuse (resolveFrom formats modes routes requests) := by
    induction requests generalizing routes with
    | nil => exact not_isMisuse_ok routes
    | cons r rs ih =>
      unfold resolveFrom
      split
      · exact fun ⟨_, he⟩ => nomatch he
      · exact ih _
  unfold resolve
  split
  · exact fun ⟨_, he⟩ => nomatch he
  · exact from_blameless []

end Route

namespace Rig

variable {ε δ κ η : Type} [Device δ κ] {R : Rules (Rig ε δ κ) η}

/-- A call leads where the rules let it lead, by what it meets. -/
theorem follows_attempt {c : κ} {Q : Except Cause (Device.Reply δ c) → η → Prop} {h : η}
    (hc : ∀ r : Rig ε δ κ, R.sees h r → ∃ h', R.may h r (r.call c).2 h' ∧ Q (r.call c).1 h') :
    (attempt c).Follows R Q h := hc

/-- The same where its complaint is the failure of the work. -/
theorem follows_request {c : κ} {Q : Except EndpointError (Device.Reply δ c) → η → Prop} {h : η}
    (hc : ∀ r : Rig ε δ κ, R.sees h r →
      ∃ h', R.may h r (r.call c).2 h' ∧ Q ((r.call c).1.mapError .ofCause) h') :
    (request c).Follows R Q h :=
  Procedure.Follows.bind (follows_attempt (Q := fun a h' => Q (a.mapError .ofCause) h') hc)
    fun _ _ hQ => Procedure.follows_pure hQ

/-- Who is alone knows what a call comes to, -/
theorem alone_attempt {c : κ} {Q : Except Cause (Device.Reply δ c) → Rig ε δ κ → Prop}
    {r : Rig ε δ κ} (hQ : Q (r.call c).1 (r.call c).2) :
    (attempt c).Follows (Rules.alone (Rig ε δ κ)) Q r := by
  refine follows_attempt fun r' hr => ?_
  obtain rfl : r' = r := hr
  exact ⟨_, rfl, hQ⟩

/-- also where its complaint is the failure of the work. -/
theorem alone_request {c : κ} {Q : Except EndpointError (Device.Reply δ c) → Rig ε δ κ → Prop}
    {r : Rig ε δ κ} (hQ : Q ((r.call c).1.mapError .ofCause) (r.call c).2) :
    (request c).Follows (Rules.alone (Rig ε δ κ)) Q r := by
  refine follows_request fun r' hr => ?_
  obtain rfl : r' = r := hr
  exact ⟨_, rfl, hQ⟩

/-- A request that is allowed leaves its client where it stands: a complaint of the device blames
nobody. -/
theorem stays_request {c : κ} {h : η}
    (hc : ∀ r : Rig ε δ κ, R.sees h r → R.may h r (r.call c).2 h) :
    (request c).Follows R (Work.Stays h) h := by
  refine follows_request fun r hsees => ⟨h, hc r hsees, rfl, ?_⟩
  cases (r.call c).1 with
  | ok a => exact not_isMisuse_ok a
  | error cause => exact not_isMisuse_ofCause cause

omit [Device δ κ]

/-- Waiting leaves a client where it stands. -/
theorem follows_flush {h : η} :
    (flush : Procedure (Rig ε δ κ) Unit).Follows R (fun _ h' => h' = h) h :=
  Procedure.follows_waitFor rfl

/-- Reading the cached modes, and filling the cache, stays where the enumeration stays. -/
theorem stays_modesBy {enumerate : Work (Rig ε δ κ) (List NativeMode)} {h : η}
    (he : enumerate.Follows R (Work.Stays h) h)
    (fill : ∀ (r : Rig ε δ κ) modes, R.may h r { r with core := { r.core with modes } } h) :
    (modesBy enumerate).Follows R (Work.Stays h) h := by
  refine Work.Follows.andThen Work.stays_look fun cached => ?_
  cases cached with
  | none =>
    refine Work.Follows.andThen he fun modes => Work.follows_step ?_
    intro r _
    exact ⟨h, fill r _, Work.stays_ok⟩
  | some modes => exact Work.stays_return

/-- Routing stays where the enumeration stays. -/
theorem stays_resolveBy {enumerate : Work (Rig ε δ κ) (List NativeMode)} {h : η}
    {requests : List StreamRequest} (he : enumerate.Follows R (Work.Stays h) h)
    (fill : ∀ (r : Rig ε δ κ) modes, R.may h r { r with core := { r.core with modes } } h) :
    (resolveBy enumerate requests).Follows R (Work.Stays h) h := by
  refine Work.Follows.andThen (stays_modesBy he fill) fun modes => Work.follows_check ?_
  intro r _
  exact ⟨rfl, Route.resolve_blameless requests r.core.formats modes⟩

end Rig

end Sensing
