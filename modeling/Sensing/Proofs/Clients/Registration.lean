import Sensing.Proofs.Clients.Bystanders
import Sensing.Proofs.Frame.Offering

/-!
# The callback that is registered

Clients without the lock leave the registration of callbacks alone, so whoever has the lock knows it
exactly (`Dispatch.holding`). A *session* is a start that succeeded, of which the callback is
registered until the session ends.

What is asked of an operation is one of three shapes: opening and closing change the setup unless
the endpoint streams, starting registers its callback or changes nothing, and stopping leaves no
callback (`Dispatch.Orderly`).

Main result: such operations find the registration of a session and leave that of the session which
they lead to (`Dispatch.Orderly.keeps`).
-/

namespace Sensing

/-- How the callbacks of an endpoint come and go. -/
structure Dispatch (σ : Type) [Served σ] where
  core : σ → Core
  /-- What the streams are made of. -/
  Setup : Type
  setup : σ → Setup
  /-- The callback that an operation is passed. -/
  callback : Served.Op σ → Option Callback
  /-- What is left to do once the application has dropped the endpoint. -/
  retire : Procedure σ Unit
  /-- Whether an aside is the device delivering something. -/
  delivers : Served.Aside σ → Bool

/-- What a client does with the lock: an operation, or to see the endpoint off. -/
inductive Task (σ : Type) [Served σ] : Type 1 where
  | serve (op : Served.Op σ) (locks : (Served.transition op).isSome)
  | retire

/-- No session outlasts such a task. -/
def Task.endsSession {σ : Type} [Served σ] : Task σ → Bool
  | .serve op _ => Served.transition op = some .stop
  | .retire => true

/-- A start: the callback it was passed, and the endpoint as it found it. -/
structure Beginning (σ : Type) where
  callback : Callback
  found : σ

/-- What an endpoint has registered. -/
structure Registration (κ : Type) where
  streaming : Bool
  callback : Option Callback
  setup : κ

namespace Dispatch

variable {σ : Type} [Served σ] (D : Dispatch σ)

/-- Carries a task out. -/
def errand : Task σ → Errand σ
  | .serve op _ => (Served.work op).run
  | .retire => (Work.ofProcedure D.retire).run

/-- The session that a task begins if it succeeds. -/
def begins (found : σ) : Task σ → Option (Beginning σ)
  | .serve op _ => (D.callback op).map fun callback => ⟨callback, found⟩
  | .retire => none

/-- The session after a task that was answered. -/
def after (t : Task σ) (found : σ) (a : Except EndpointError Unit)
    (session : Option (Beginning σ)) : Option (Beginning σ) :=
  if t.endsSession then none else if a.isOk then (D.begins found t).or session else session

/-! ## What is known of the registration -/

def registration (s : σ) : Registration D.Setup :=
  ⟨(D.core s).streaming, (D.core s).registered, D.setup s⟩

/-- The registration between tasks. -/
structure Rests (session : Option (Beginning σ)) (v : Registration D.Setup) : Prop where
  streaming : v.streaming = session.isSome
  callback : v.callback = session.map (·.callback)
  setup : ∀ b, session = some b → v.setup = D.setup b.found

/-- The registration amid a task: that of the session, or of the session about to begin, unless a
task is about to end it. -/
structure Amid (t : Task σ) (found : σ) (session : Option (Beginning σ))
    (v : Registration D.Setup) : Prop where
  explained : ∀ callback, v.callback = some callback → ∃ b : Beginning σ,
    (session = some b ∨ session = none ∧ D.begins found t = some b) ∧ b.callback = callback ∧
      v.setup = D.setup b.found
  current : ∀ b, session = some b → t.endsSession = false → v.callback = some b.callback

/-- Nothing that concerns callbacks differs. -/
structure Aloof (s s' : σ) : Prop where
  delivered : (D.core s').delivered = (D.core s).delivered
  registration : D.registration s' = D.registration s

/-- The rules for the client with the lock: it knows the registration, and no step of its own calls
the callback. -/
def holding (allowed : Registration D.Setup → Prop) : Rules σ (Registration D.Setup) where
  sees v s := D.registration s = v ∧ allowed v
  may v s s' v' := (D.core s').delivered = (D.core s).delivered ∧
    (D.registration s = v ∧ allowed v → D.registration s' = v' ∧ allowed v')
  idle _ := ⟨rfl, id⟩

/-- The rules for everybody else. -/
def waiting : Rules σ Unit where
  sees _ _ := True
  may _ s s' _ := D.Aloof s s'
  idle _ := ⟨rfl, rfl⟩

variable {D} {allowed : Registration D.Setup → Prop} {v : Registration D.Setup}

/-- Who has nothing to do with callbacks may do so beside the client with the lock. -/
theorem Aloof.holding {s s' : σ} (h : D.Aloof s s') : (D.holding allowed).may v s s' v :=
  ⟨h.delivered, fun sees => ⟨h.registration.trans sees.1, sees.2⟩⟩

/-- A step that changes the registration. -/
theorem follows_registering {f : σ → σ} {v' : Registration D.Setup}
    (delivered : ∀ s, (D.core (f s)).delivered = (D.core s).delivered)
    (turn : ∀ s, D.registration s = v → D.registration (f s) = v') (permitted : allowed v') :
    (Procedure.change f).Follows (D.holding allowed) (fun _ k => k = v') v :=
  Procedure.follows_change fun s _ =>
    ⟨v', ⟨delivered s, fun sees => ⟨turn s sees.1, permitted⟩⟩, rfl⟩

/-- An operation that is refused while the endpoint streams goes on where it does not. -/
theorem follows_unless_streaming {Q : Except EndpointError Unit → Registration D.Setup → Prop}
    {view rest : Core → Except EndpointError Unit} {refusal : EndpointError}
    {f : Unit → Work σ Unit}
    (refused : ∀ c, view c = if c.streaming then .error refusal else rest c)
    (error : ∀ e, Q (.error e) v)
    (hf : v.streaming = false → (f ()).Follows (D.holding allowed) Q v) :
    (Work.check (fun s => view (D.core s)) >>= f).Follows (D.holding allowed) Q v := by
  have check : (Work.check fun s => view (D.core s)).Follows (D.holding allowed)
      (fun a k => k = v ∧ (a = .ok () → v.streaming = false)) v := by
    refine Work.follows_check fun s sees => ⟨rfl, fun admitted => ?_⟩
    obtain ⟨rfl, -⟩ := sees
    change view (D.core s) = .ok () at admitted
    rw [refused] at admitted
    split at admitted
    next => cases admitted
    next stopped => exact Bool.eq_false_iff.2 stopped
  refine Work.Follows.bind check ?_ ?_
  · intro _ k hk
    rw [hk.1]
    exact hf (hk.2 rfl)
  · intro e k hk
    rw [hk.1]
    exact error e

/-- What a client does who has the endpoint to itself. -/
theorem registration_of_run {α : Type} {Q : α → Registration D.Setup → Prop} {p : Procedure σ α}
    {s s' : σ} {a : α} (hp : p.Follows (D.holding allowed) Q v) (known : D.registration s = v)
    (here : allowed v) (run : p.run s = .finished a s') : Q a (D.registration s') := by
  induction p generalizing s v with
  | done b =>
    cases run
    rw [known]
    exact hp
  | step act next ih =>
    obtain ⟨v', may, rest⟩ := hp s ⟨known, here⟩
    obtain ⟨known, here⟩ := may.2 ⟨known, here⟩
    exact ih _ rest known here run
  | await ready next ih =>
    unfold Procedure.run at run
    split at run
    · exact ih hp known here run
    · cases run

/-! ## The shapes of tasks -/

variable (D)

/-- Opening and closing: the setup may change where the endpoint does not stream. -/
def Reconfigures (w : Work σ Unit) : Prop :=
  ∀ {allowed : Registration D.Setup → Prop} {v : Registration D.Setup},
    (v.streaming = false → ∀ setup, allowed { v with setup }) →
    w.Follows (D.holding allowed)
      (fun _ v' => v' = v ∨ v.streaming = false ∧ ∃ setup, v' = { v with setup }) v

/-- Starting: a callback is registered where none was and the endpoint streams then, or all is as
before. Where the endpoint streams already, starting fails. -/
def Engages (callback : Callback) (w : Work σ Unit) : Prop :=
  ∀ {allowed : Registration D.Setup → Prop} {v : Registration D.Setup},
    (v.streaming = false → v.callback = none ∧
      ∀ streaming, allowed { v with streaming, callback := some callback }) → allowed v →
    w.Follows (D.holding allowed)
      (fun a v' => v' = (if a.isOk then ⟨true, some callback, v.setup⟩ else v) ∧
        (a.isOk → v.streaming = false)) v

/-- Stopping: no callback is left. -/
def Silences {α : Type} (p : Procedure σ α) : Prop :=
  ∀ {allowed : Registration D.Setup → Prop} {v : Registration D.Setup},
    (v.streaming = false → v.callback = none) → (∀ streaming, allowed { v with streaming }) →
    (∀ streaming setup, allowed ⟨streaming, none, setup⟩) →
    p.Follows (D.holding allowed) (fun _ v' => ∃ setup, v' = ⟨false, none, setup⟩) v

/-- All that clients do with callbacks is in order. -/
structure Orderly (admits : Served.Op σ → Prop) : Prop where
  reconfigures : ∀ {op t}, Served.transition op = some t → t = .openStreams ∨ t = .close →
    D.Reconfigures (Served.work op) ∧ D.callback op = none
  engages : ∀ {op}, Served.transition op = some .start →
    ∃ callback, D.callback op = some callback ∧ D.Engages callback (Served.work op)
  silences : ∀ {op}, Served.transition op = some .stop → D.Silences (Served.work op).run
  retires : D.Silences (Work.ofProcedure D.retire).run
  bystanders : Bystanders D.waiting admits
  aside : ∀ x s, D.registration (Served.aside x s) = D.registration s
  unheard : ∀ x s, (D.core s).registered = none →
    (D.core (Served.aside x s)).delivered = (D.core s).delivered
  released : ∀ x s, D.delivers x = true → (D.core s).registered = none →
    (D.core (Served.aside x s)).pool.published = (D.core s).pool.published

variable {D}

/-- A start that is refused while the endpoint streams goes on where it does not. -/
theorem follows_engaging {callback : Callback} {view rest : Core → Except EndpointError Unit}
    {refusal : EndpointError} {f : Unit → Work σ Unit}
    (refused : ∀ c, view c = if c.streaming then .error refusal else rest c)
    (free : v.streaming = false → v.callback = none ∧
      ∀ streaming, allowed { v with streaming, callback := some callback })
    (hf : v.callback = none →
      (∀ streaming, allowed { v with streaming, callback := some callback }) →
      (f ()).Follows (D.holding allowed)
        (fun a v' => v' = if a.isOk then ⟨true, some callback, v.setup⟩ else v) v) :
    (Work.check (fun s => view (D.core s)) >>= f).Follows (D.holding allowed)
      (fun a v' => v' = (if a.isOk then ⟨true, some callback, v.setup⟩ else v) ∧
        (a.isOk → v.streaming = false)) v := by
  refine follows_unless_streaming refused (fun _ => ⟨rfl, nofun⟩) fun stopped => ?_
  obtain ⟨silent, permitted⟩ := free stopped
  exact Work.Follows.mono (fun _ _ hv => ⟨hv, fun _ => stopped⟩) (hf silent permitted)

/-- Where there is no callback, closing leaves none. -/
theorem Reconfigures.silent {w : Work σ Unit} (reconfigures : D.Reconfigures w)
    {allowed : Registration D.Setup → Prop} (ended : ∀ setup, allowed ⟨false, none, setup⟩)
    (setup : D.Setup) :
    w.Follows (D.holding allowed) (fun _ v => ∃ setup, v = ⟨false, none, setup⟩)
      ⟨false, none, setup⟩ := by
  refine Work.Follows.mono ?_ (reconfigures fun _ => ended)
  intro _ v hv
  rcases hv with rfl | ⟨-, setup, rfl⟩
  · exact ⟨_, rfl⟩
  · exact ⟨setup, rfl⟩

variable {admits : Served.Op σ → Prop} {t : Task σ} {found : σ}
  {session : Option (Beginning σ)}

/-- Where the endpoint does not stream there is no session, and no callback is registered. -/
theorem Rests.unheard (h : D.Rests session v) (stopped : v.streaming = false) :
    session = none ∧ v.callback = none := by
  rw [h.streaming, Option.isSome_eq_false_iff, Option.isNone_iff_eq_none] at stopped
  refine ⟨stopped, ?_⟩
  rw [h.callback, stopped]
  rfl

/-- The registration of a session explains itself amid any task. -/
theorem Rests.amid (h : D.Rests session v) : D.Amid t found session v where
  explained callback registered := by
    rw [h.callback, Option.map_eq_some_iff] at registered
    obtain ⟨b, hb, rfl⟩ := registered
    exact ⟨b, .inl hb, rfl, h.setup b hb⟩
  current b hb _ := by
    rw [h.callback, hb]
    rfl

/-- While no callback is registered, the setup may be anything. -/
theorem amid_of_silent (silent : v.callback = none)
    (ended : session = none ∨ t.endsSession = true) : D.Amid t found session v where
  explained callback registered := by
    rw [silent] at registered
    cases registered
  current b hb lasting := by
    rcases ended with none | ends
    · rw [none] at hb
      cases hb
    · rw [ends] at lasting
      cases lasting

/-- A task that ends the session may stop to stream before it lets go of the callback. -/
theorem Rests.amid_ending (h : D.Rests session v) (ends : t.endsSession = true)
    (streaming : Bool) : D.Amid t found session { v with streaming } := by
  have amid : D.Amid t found session v := h.amid
  refine ⟨amid.explained, fun b _ lasting => ?_⟩
  rw [ends] at lasting
  cases lasting

/-- Without a callback, and without streaming, the registration is that of no session. -/
theorem rests_none (stopped : v.streaming = false) (silent : v.callback = none) :
    D.Rests none v :=
  ⟨stopped, silent, fun _ h => nomatch h⟩

/-- Whatever it is answered, a task that ends the session leaves none. -/
theorem after_of_ends (ends : t.endsSession = true) (a : Except EndpointError Unit) :
    D.after t found a session = none := if_pos ends

/-- A success begins the session that the task is for, if it is for one. -/
theorem after_of_ok {a : Except EndpointError Unit} (lasting : t.endsSession = false)
    (ok : a.isOk = true) : D.after t found a session = (D.begins found t).or session := by
  unfold after
  rw [lasting, ok]
  rfl

/-- A session begins with the endpoint as its start found it. -/
theorem found_of_begins {b : Beginning σ} (h : D.begins found t = some b) : b.found = found := by
  cases t with
  | serve op =>
    obtain ⟨_, -, rfl⟩ := Option.map_eq_some_iff.1 h
    rfl
  | retire => cases h

/-- A session that is new after a task was begun by it. -/
theorem found_of_after {a : Except EndpointError Unit} {b : Beginning σ}
    (h : D.after t found a none = some b) : b.found = found := by
  unfold after at h
  split at h
  · cases h
  · split at h
    · exact found_of_begins ((Option.or_none ..).symm.trans h)
    · cases h

/-- A task that does not end the session may begin one. -/
theorem after_of_lasting {op : Served.Op σ} {locks : (Served.transition op).isSome}
    (lasting : Served.transition op ≠ some .stop) (a : Except EndpointError Unit) :
    D.after (.serve op locks) found a session =
      if a.isOk then ((D.callback op).map (⟨·, found⟩)).or session else session := by
  have goesOn : (Task.serve op locks).endsSession = false := decide_eq_false lasting
  unfold after
  rw [goesOn]
  rfl

/-- How a task ends: with the registration of the session that it leads to, which takes the place
of no other. -/
structure Settled (D : Dispatch σ) (t : Task σ) (found : σ) (session : Option (Beginning σ))
    (a : Except EndpointError Unit) (v : Registration D.Setup) : Prop where
  rests : D.Rests (D.after t found a session) v
  alone : session.isSome → D.after t found a session = session ∨ D.after t found a session = none

/-- What a task promises that begins while the registration is that of a session. -/
def Keeps (D : Dispatch σ) (t : Task σ) (found : σ) (session : Option (Beginning σ)) : Prop :=
  Work.Follows (D.holding (D.Amid t found session)) (D.Settled t found session) (D.errand t)
    (D.registration found)

variable {op : Served.Op σ} {locks : (Served.transition op).isSome}
  (rests : D.Rests session (D.registration found))
include rests

/-- A task that silences the endpoint leads to no session. -/
theorem keeps_of_silences (ends : t.endsSession = true) (silences : D.Silences (D.errand t)) :
    D.Keeps t found session := by
  refine Procedure.Follows.mono ?_ (silences (fun stopped => (rests.unheard stopped).2)
    (rests.amid_ending ends) fun _ _ => amid_of_silent rfl (.inr ends))
  intro a v hv
  obtain ⟨setup, rfl⟩ := hv
  have ended : D.after t found a session = none := after_of_ends ends a
  refine ⟨?_, fun _ => .inr ended⟩
  rw [ended]
  exact rests_none rfl rfl

/-- Opening and closing keep the session that there is. -/
theorem keeps_of_reconfigures (lasting : Served.transition op ≠ some .stop)
    (silent : D.callback op = none) (reconfigures : D.Reconfigures (Served.work op)) :
    D.Keeps (.serve op locks) found session := by
  refine Procedure.Follows.mono ?_ (reconfigures fun stopped _ =>
    amid_of_silent (rests.unheard stopped).2 (.inl (rests.unheard stopped).1))
  intro a v hv
  have same : D.after (.serve op locks) found a session = session := by
    rw [after_of_lasting lasting, silent, Option.map_none, Option.none_or, ite_self]
  refine ⟨?_, fun _ => .inl same⟩
  rw [same]
  rcases hv with rfl | ⟨stopped, setup, rfl⟩
  · exact rests
  · obtain ⟨rfl, silent⟩ := rests.unheard stopped
    exact rests_none stopped silent

/-- Starting begins a session where there is none, and is refused where there is one. -/
theorem keeps_of_engages {callback : Callback} (lasting : Served.transition op ≠ some .stop)
    (passed : D.callback op = some callback) (engages : D.Engages callback (Served.work op)) :
    D.Keeps (.serve op locks) found session := by
  refine Procedure.Follows.mono ?_ (engages (fun stopped => ?_) rests.amid)
  · rintro a v ⟨rfl, idle⟩
    have led : D.after (.serve op locks) found a session =
        if a.isOk then ((some callback).map (⟨·, found⟩)).or session else session := by
      rw [after_of_lasting lasting, passed]
    -- Where it ends: a failure leaves all as it was, a success is the beginning of a session.
    cases a with
    | error _ =>
      refine ⟨?_, fun _ => .inl led⟩
      rw [led]
      exact rests
    | ok _ =>
      refine ⟨?_, fun inSession => ?_⟩
      · rw [led]
        refine ⟨rfl, rfl, fun b hb => ?_⟩
        cases hb
        rfl
      · rw [(rests.unheard (idle rfl)).1] at inSession
        cases inSession
  -- On its way a callback may be registered already: that of the session about to begin.
  · obtain ⟨rfl, silent⟩ := rests.unheard stopped
    refine ⟨silent, fun streaming => ⟨?_, fun b hb => nomatch hb⟩⟩
    intro _ registered
    cases registered
    have begins : D.begins found (.serve op locks) = some ⟨callback, found⟩ := by
      show (D.callback op).map _ = _
      rw [passed]
      rfl
    exact ⟨_, .inr ⟨rfl, begins⟩, rfl, rfl⟩

/-- Every task keeps its promise. -/
theorem Orderly.keeps (orderly : D.Orderly admits) (t : Task σ) : D.Keeps t found session := by
  cases t with
  | retire => exact keeps_of_silences rests rfl orderly.retires
  | serve op locks =>
    obtain ⟨transition, ht⟩ := Option.isSome_iff_exists.1 locks
    cases transition with
    | openStreams =>
      obtain ⟨reconfigures, silent⟩ := orderly.reconfigures ht (.inl rfl)
      exact keeps_of_reconfigures rests (by simp [ht]) silent reconfigures
    | close =>
      obtain ⟨reconfigures, silent⟩ := orderly.reconfigures ht (.inr rfl)
      exact keeps_of_reconfigures rests (by simp [ht]) silent reconfigures
    | start =>
      obtain ⟨callback, passed, engages⟩ := orderly.engages ht
      exact keeps_of_engages rests (by simp [ht]) passed engages
    | stop => exact keeps_of_silences rests (decide_eq_true ht) (orderly.silences ht)

end Dispatch

end Sensing
