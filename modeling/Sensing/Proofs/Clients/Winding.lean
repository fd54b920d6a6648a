import Sensing.Proofs.Clients.Alone
import Sensing.Proofs.Clients.Bookkeeping

/-!
# Winding the streaming down

An operation winds the streaming down by telling the device, letting go of the consumer and waiting
until every frame has been released, in this order. A consumer may keep frames, which come back only
when the endpoint lets go of it; an operation that waited first would wait for those for ever. So
what it waits for is what others have: the frames that the application was handed and those that it
drew by hand.

Others act meanwhile. The device may go on to deliver, and the application to draw and release; but
neither consumer nor lock is theirs, and without a consumer nobody is handed a frame. So the
operation passes its stages one after another (`WindsDown`), and at each of them something is true
of every crowd that can be reached by then (`Tallied.Progress`).

Main result: whatever else happens, such an operation drains the endpoint (`Tallied.drains`), so
with no frame drawn by hand since its wait was over it leaves none out (`Tallied.Drains.undrawn`).
-/

namespace Sensing

variable {ε δ κ : Type} [Device δ κ]

/-! ## Stages -/

/-- How far an operation has come in winding the streaming down. -/
inductive Stage (κ : Type) where
  /-- It is about to see whether the endpoint streams, and to make these calls if it does. -/
  | entering (calls : List κ)
  /-- These calls of the device are left. -/
  | telling (calls : List κ)
  | dismissing
  | waiting
  /-- Nothing is left that has to do with frames. -/
  | leaving

/-- An operation at a stage of winding the streaming down, with all stages before it. -/
inductive WindsDown : Stage κ → Errand (Rig ε δ κ) → Prop where
  | entering {calls : List κ} {next : Bool → Errand (Rig ε δ κ)}
      (idle : (next false).Unhindered) (rest : WindsDown (.telling calls) (next true)) :
    WindsDown (.entering calls) (.step (fun r => (r.core.streaming, r)) next)
  | telling {c : κ} {calls : List κ} {next : Except Cause (Device.Reply δ c) → Errand (Rig ε δ κ)}
      (rest : ∀ reply, WindsDown (.telling calls) (next reply)) :
    WindsDown (.telling (c :: calls)) (.step (Rig.call c) next)
  | told {next : Unit → Errand (Rig ε δ κ)} (rest : WindsDown .dismissing (next ())) :
    WindsDown (.telling [])
      (.step (fun r => ((), { r with core := { r.core with streaming := false } })) next)
  | dismissing {next : Unit → Errand (Rig ε δ κ)} (rest : WindsDown .waiting (next ())) :
    WindsDown .dismissing (.step (fun r => ((), r.mapCore (·.dismiss))) next)
  | waiting {next : Errand (Rig ε δ κ)} (rest : WindsDown .leaving next) :
    WindsDown .waiting (.await (fun r => r.core.pool.published = 0) next)
  | leaving {w : Errand (Rig ε δ κ)} (unhindered : w.Unhindered)
      (keeps : Work.Keeps Rig.framing.waiting w) :
    WindsDown .leaving w

/-- Where nothing is in the way of an operation at a stage. -/
def Stage.Clear : Stage κ → Rig ε δ κ → Prop
  | .entering _, r | .telling _, r | .dismissing, r => r.core.Returned
  | .waiting, r => r.core.pool.published = 0
  | .leaving, _ => True

/-- The frames that the consumer keeps are in nobody's way. -/
theorem WindsDown.finishes {stage : Stage κ} {w : Errand (Rig ε δ κ)} (h : WindsDown stage w)
    {r : Rig ε δ κ} (clear : stage.Clear r) : w.Finishes r := by
  induction h generalizing r with
  | @entering calls next idle rest ih =>
    show (next r.core.streaming).Finishes r
    cases r.core.streaming with
    | false => exact idle.finishes r
    | true => exact ih clear
  | telling rest ih => exact ih (r.call _).1 (r := (r.call _).2) clear
  | told rest ih => exact ih (r := { r with core := { r.core with streaming := false } }) clear
  | dismissing rest ih =>
    exact ih (r := r.mapCore (·.dismiss)) (Core.Returned.published_dismiss clear)
  | @waiting next rest ih =>
    have none : r.core.pool.published = 0 := clear
    obtain ⟨answer, r', run⟩ := ih (r := r) trivial
    exact ⟨answer, r', (if_pos (decide_eq_true none)).trans run⟩
  | leaving unhindered keeps => exact unhindered.finishes r

/-- Nor are they in the way of seeing the endpoint off: stopping winds the streaming down, and
nothing else waits. -/
theorem Rig.retireBy_finishes {title : String} {stop close : Work (Rig ε δ κ) Unit}
    {calls : List κ} {r : Rig ε δ κ} (winds : WindsDown (.entering calls) stop.run)
    (closes : close.run.Unhindered) (returned : r.core.Returned) :
    (Rig.retireBy title stop close).Finishes r := by
  let orphaned : Rig ε δ κ := { r with core := { r.core with alive := false } }
  have stops : (Rig.attempting s!"{title}: stop on drop" stop).Finishes orphaned := by
    refine (winds.finishes (r := orphaned) returned).andThen fun stopped => ?_
    cases stopped with
    | ok _ => trivial
    | error e => exact fun _ => trivial
  refine Procedure.finishes_bind (t := orphaned) rfl (stops.andThen fun _ opened => ?_)
  cases opened with
  | false => trivial
  | true => exact Rig.unhindered_attempting closes

namespace Tallied

variable [Served (Rig ε δ κ)] {B : Bookkeeping (Rig ε δ κ)}
  {admits : Served.Op (Rig ε δ κ) → Prop} {a b b' : Tallied (Rig ε δ κ)} {made calls : List κ}

/-- The operation that has the lock made these calls of the device, in this order, while the
callback remained what it was. -/
inductive Told (B : Bookkeeping (Rig ε δ κ)) (admits : Served.Op (Rig ε δ κ) → Prop)
    (a : Tallied (Rig ε δ κ)) : List κ → Tallied (Rig ε δ κ) → Prop where
  | begun : Told B admits a [] a
  | called {b : Tallied (Rig ε δ κ)} {made : List κ} {c : κ}
      {next : Except Cause (Device.Reply δ c) → Errand (Rig ε δ κ)}
      (before : Told B admits a made b) (holder : b.holder = some (.step (Rig.call c) next)) :
    Told B admits a (made ++ [c])
      { b with rig := (b.rig.call c).2, holder := some (next (b.rig.call c).1) }
  | onward {b b' : Tallied (Rig ε δ κ)} {made : List κ} (before : Told B admits a made b)
      (step : Step B admits b b') (busy : b'.holder ≠ none)
      (same : b'.rig.core.registered = b.rig.core.registered) :
    Told B admits a made b'

/-- The operation has let go of the callback, after it had made all these calls. -/
structure Silenced (B : Bookkeeping (Rig ε δ κ)) (admits : Served.Op (Rig ε δ κ) → Prop)
    (calls : List κ) (a b : Tallied (Rig ε δ κ)) : Prop where
  consumer : b.rig.core.consumer = none
  told : ∃ m, Told B admits a calls m ∧ Onward B admits m b

/-- While calls are made the lock is kept and the callback remains what it was. -/
theorem Told.onward_of (h : Told B admits a made b) : Onward B admits a b ∧
    b.rig.core.registered = a.rig.core.registered := by
  induction h with
  | begun => exact ⟨.refl, rfl⟩
  | @called b _ c next _ holder ih =>
    exact ⟨ih.1.tail ⟨.held holder (.act (Rig.call c) next b.rig), nofun⟩, ih.2⟩
  | onward _ step busy same ih => exact ⟨ih.1.tail ⟨step, busy⟩, same.trans ih.2⟩

/-- The operation goes on after it has let go of the callback. -/
theorem Silenced.onward (h : Silenced B admits calls a b) (step : Step B admits b b')
    (busy : b'.holder ≠ none) (silent : b'.rig.core.consumer = none) :
    Silenced B admits calls a b' := by
  obtain ⟨m, told, since⟩ := h.told
  exact ⟨silent, m, told, since.tail ⟨step, busy⟩⟩

/-! ## From stage to stage -/

/-- What is true by the time that an operation is at a stage. -/
def Progress (B : Bookkeeping (Rig ε δ κ)) (admits : Served.Op (Rig ε δ κ) → Prop)
    (calls : List κ) (a : Tallied (Rig ε δ κ)) : Stage κ → Tallied (Rig ε δ κ) → Prop
  | .entering left, b => left = calls ∧ b.rig.core.streaming = true ∧ Told B admits a [] b
  | .telling left, b => ∃ made, made ++ left = calls ∧ Told B admits a made b
  | .dismissing, b => Told B admits a calls b
  | .waiting, b => Silenced B admits calls a b
  | .leaving, b => b.rig.core.consumer = none ∧ b.rig.core.held = [] ∧
    ∃ e, Silenced B admits calls a e ∧ e.Emptied ∧ Onward B admits e b

/-- Whatever somebody else does, the operation is as far as it was. -/
theorem Progress.elsewhere {stage : Stage κ} (h : Progress B admits calls a stage b)
    (step : Step B admits b b') (busy : b'.holder ≠ none) (other : b.Elsewhere b') :
    Progress B admits calls a stage b' := by
  have silent : b.rig.core.consumer = none → b'.rig.core.consumer = none := by
    rw [← Core.registered_eq_none_iff, ← Core.registered_eq_none_iff, other.registered]
    exact id
  cases stage with
  | entering left =>
    obtain ⟨same, streaming, told⟩ := h
    exact ⟨same, other.streaming.trans streaming, told.onward step busy other.registered⟩
  | telling left =>
    obtain ⟨made, same, told⟩ := h
    exact ⟨made, same, told.onward step busy other.registered⟩
  | dismissing => exact Told.onward h step busy other.registered
  | waiting => exact Silenced.onward h step busy (silent h.consumer)
  | leaving =>
    obtain ⟨none, held, e, silenced, emptied, since⟩ := h
    have unregistered := Core.registered_eq_none_iff.2 none
    exact ⟨silent none, other.withheld unregistered held, e, silenced, emptied,
      since.tail ⟨step, busy⟩⟩

/-- Its own step takes the operation to the next stage, or leaves it where it was. -/
theorem Progress.held {stage : Stage κ} {w w' : Errand (Rig ε δ κ)} {r' : Rig ε δ κ}
    (h : Progress B admits calls a stage b) (winds : WindsDown stage w)
    (accounted : b.Accounted) (holder : b.holder = some w) (step : w.Step b.rig w' r') :
    ∃ stage', WindsDown stage' w' ∧
      Progress B admits calls a stage' { b with rig := r', holder := some w' } := by
  have onward : Step B admits b { b with rig := r', holder := some w' } := .held holder step
  cases winds with
  | @entering _ next _ rest =>
    cases step
    obtain ⟨rfl, streaming, told⟩ := h
    refine ⟨.telling _, ?_, [], rfl, told.onward onward nofun rfl⟩
    show WindsDown _ (next b.rig.core.streaming)
    rw [streaming]
    exact rest
  | telling rest =>
    cases step
    obtain ⟨made, all, told⟩ := h
    refine ⟨.telling _, rest _, _, ?_, told.called holder⟩
    rw [List.append_assoc]
    exact all
  | told rest =>
    cases step
    obtain ⟨made, all, told⟩ := h
    rw [List.append_nil] at all
    subst all
    exact ⟨.dismissing, rest, told.onward onward nofun rfl⟩
  | dismissing rest =>
    cases step
    have silent := Core.registered_eq_none_iff.1 (Core.registered_dismiss b.rig.core)
    exact ⟨.waiting, rest, silent, b, h, .single ⟨onward, nofun⟩⟩
  | waiting rest =>
    cases step with
    | ready next isReady =>
      -- This is the state in which every frame has been released; frames may be drawn after it.
      have none : b.rig.core.pool.published = 0 := of_decide_eq_true isReady
      have emptied := accounted.emptied h.consumer none
      exact ⟨.leaving, rest, emptied.consumer, emptied.held, b, h, emptied,
        .single ⟨onward, nofun⟩⟩
  | leaving unhindered keeps =>
    obtain ⟨silent, held, e, silenced, emptied, since⟩ := h
    obtain ⟨_, stands, rest⟩ := Procedure.Follows.step keeps ⟨(), trivial⟩ step
    exact ⟨.leaving, .leaving (unhindered.step step) rest, stands.consumer.trans silent,
      stands.held.trans held, e, silenced, emptied, since.tail ⟨onward, nofun⟩⟩

/-- An operation that winds the streaming down has just got the lock. -/
structure Entered (calls : List κ) (a : Tallied (Rig ε δ κ)) : Prop where
  accounted : a.Accounted
  streaming : a.rig.core.streaming = true
  winds : ∃ w, a.holder = some w ∧ WindsDown (.entering calls) w

/-- Whatever else happens, the operation is at one of its stages. -/
theorem Entered.progress (sound : B.Sound admits) (entered : a.Entered calls)
    (h : Onward B admits a b) : b.Accounted ∧ ∃ stage w, b.holder = some w ∧ WindsDown stage w ∧
      Progress B admits calls a stage b := by
  -- What carries the induction is the stage; only the lock holder's own steps change it.
  induction h with
  | refl =>
    obtain ⟨w, holder, winds⟩ := entered.winds
    exact ⟨entered.accounted, _, w, holder, winds, rfl, entered.streaming, .begun⟩
  | tail _ last ih =>
    obtain ⟨step, busy⟩ := last
    obtain ⟨accounted, stage, w, holder, winds, progress⟩ := ih
    refine ⟨accounted.step sound step, ?_⟩
    rcases accounted.turn sound holder step busy with other | ⟨w', r', own, rfl⟩
    · exact ⟨stage, w, other.holder.trans holder, winds, progress.elsewhere step busy other⟩
    · obtain ⟨stage', winds', progress'⟩ := progress.held winds accounted holder own
      exact ⟨stage', w', rfl, winds', progress'⟩

/-- When it has answered it has left its last stage behind. -/
theorem Entered.answered (sound : B.Sound admits) (entered : a.Entered calls)
    (h : Onward B admits a b) {answer : Except EndpointError Unit}
    (answered : b.holder = some (.done answer)) :
    b.Accounted ∧ Progress B admits calls a .leaving b := by
  obtain ⟨here, stage, w, same, at', progress⟩ := entered.progress sound h
  cases answered.symm.trans same
  -- Only at the last stage can an operation be done.
  cases at'
  exact ⟨here, progress⟩

omit [Device δ κ] in
/-- The operation comes to its end while nobody else does anything. -/
theorem Onward.carried {w : Errand (Rig ε δ κ)} {answer : Except EndpointError Unit}
    {r' : Rig ε δ κ} (h : Onward B admits a b) (holder : b.holder = some w)
    (run : w.run b.rig = .finished answer r') :
    Onward B admits a { b with rig := r', holder := some (.done answer) } :=
  Crowd.holds_of_run (P := fun c => Onward B admits a ⟨c, b.tally⟩)
    (fun h holder step => h.tail ⟨.held holder step, nofun⟩) h holder run

/-! ## Draining -/

/-- In `a` an operation has just got the lock. Whatever else happens, it drains the endpoint. -/
structure Drains (B : Bookkeeping (Rig ε δ κ)) (admits : Served.Op (Rig ε δ κ) → Prop)
    (calls : List κ) (a : Tallied (Rig ε δ κ)) : Prop where
  /-- The callback is what it was until the operation has made its calls and lets go of it. -/
  tells : ∀ {b}, Onward B admits a b →
    b.rig.core.registered = a.rig.core.registered ∨ Silenced B admits calls a b
  /-- Wherever the operation waits it has let go of the callback, and of the frames that were kept:
  it waits for those that the application has, and no longer. -/
  waits : ∀ {b ready next}, Onward B admits a b → b.holder = some (.await ready next) →
    Silenced B admits calls a b ∧
      b.rig.core.pool.published = b.rig.core.held.length + b.tally.drawn ∧
      (ready b.rig = true ↔ b.rig.core.held = [] ∧ b.tally.drawn = 0)
  /-- Where the application has no frames, the operation comes to its end unless somebody comes in
  between, whatever the consumer keeps. -/
  finishes : ∀ {b w}, Onward B admits a b → b.holder = some w → b.rig.core.held = [] →
    b.tally.drawn = 0 → ∃ answer r', w.run b.rig = .finished answer r' ∧
      Emptied { b with rig := r', holder := some (.done answer) }
  /-- Where it answers, every frame had been released. The only frames that are out were drawn by
  hand since, and none is if none was. -/
  returns : ∀ {b answer}, Onward B admits a b → b.holder = some (.done answer) →
    b.rig.core.consumer = none ∧ b.rig.core.held = [] ∧
      b.rig.core.pool.published = b.tally.drawn ∧
      ∃ e, Silenced B admits calls a e ∧ e.Emptied ∧ Onward B admits e b ∧
        (b.tally.draws = e.tally.draws → b.Emptied)

/-- Where it answers and the application has drawn no frame by hand since the wait was over, no
frame is out, and the pool keeps as many buffers as were ever in use at once. -/
theorem Drains.undrawn (drains : Drains B admits calls a) (h : Onward B admits a b)
    {answer : Except EndpointError Unit} (answered : b.holder = some (.done answer)) :
    ∃ e, Silenced B admits calls a e ∧ e.rig.core.pool.published = 0 ∧ Onward B admits e b ∧
      (b.tally.draws = e.tally.draws →
        b.rig.core.pool.published = 0 ∧ b.rig.core.pool.pooled = b.tally.high) := by
  obtain ⟨-, -, -, e, silenced, waited, since, emptied⟩ := drains.returns h answered
  exact ⟨e, silenced, waited.published, since, fun none =>
    ⟨(emptied none).published, (emptied none).pooled⟩⟩

/-- From where it has just got the lock, an operation that winds the streaming down drains the
endpoint. -/
theorem drains (sound : B.Sound admits) (entered : a.Entered calls) : Drains B admits calls a where
  tells := by
    intro b h
    obtain ⟨-, stage, w, -, -, progress⟩ := entered.progress sound h
    cases stage with
    | entering => exact .inl progress.2.2.onward_of.2
    | telling =>
      obtain ⟨_, -, told⟩ := progress
      exact .inl told.onward_of.2
    | dismissing => exact .inl (Told.onward_of progress).2
    | waiting => exact .inr progress
    | leaving =>
      obtain ⟨silent, -, e, silenced, -, since⟩ := progress
      obtain ⟨m, told, before⟩ := silenced.told
      exact .inr ⟨silent, m, told, before.trans since⟩
  waits := by
    intro b ready next h waiting
    obtain ⟨here, stage, w, same, at', progress⟩ := entered.progress sound h
    cases waiting.symm.trans same
    cases at' with
    | waiting rest =>
      have out := here.balanced.published_of_silent progress.consumer
      refine ⟨progress, out, ?_⟩
      rw [decide_eq_true_iff, out, Nat.add_eq_zero_iff, List.length_eq_zero_iff]
    | leaving unhindered =>
      -- What is left after the last stage does not wait.
      cases unhindered
  finishes := by
    intro b w h last held drawn
    obtain ⟨here, stage, w, same, at', progress⟩ := entered.progress sound h
    cases last.symm.trans same
    -- All that is out is with the consumer, and comes back when the operation lets go of it.
    have returned : b.rig.core.Returned := by
      have balanced := here.balanced
      rw [drawn] at balanced
      exact balanced.returned held
    have clear : stage.Clear b.rig := by
      cases stage with
      | entering | telling | dismissing => exact returned
      | waiting =>
        have out := here.balanced.published_of_silent progress.consumer
        rw [held, drawn] at out
        exact out
      | leaving => trivial
    obtain ⟨answer, r', run⟩ := at'.finishes clear
    obtain ⟨there, silent, none, -⟩ := entered.answered sound (h.carried last run) rfl
    have out := there.balanced.published_of_silent silent
    rw [none, drawn] at out
    exact ⟨answer, r', run, there.emptied silent out⟩
  returns := by
    intro b answer h answered
    obtain ⟨here, silent, held, e, silenced, emptied, since⟩ := entered.answered sound h answered
    have out := here.balanced.published_of_silent silent
    rw [held, List.length_nil, Nat.zero_add] at out
    refine ⟨silent, held, out, e, silenced, emptied, since, fun none => ?_⟩
    have drawn := since.reaches.draws sound
    rw [none, emptied.drawn] at drawn
    exact here.emptied silent (by omega)

/-- A client finds the lock free while the endpoint streams, and begins to wind that down. -/
theorem drains_of_reaches {start : Tallied (Rig ε δ κ)} (sound : B.Sound admits)
    (fresh : start.Accounted) (op : Served.Op (Rig ε δ κ))
    (transition : (Served.transition op).isSome)
    (winds : WindsDown (.entering calls) (Served.work op).run) (h : Reaches B admits start a)
    (free : a.holder = none) (streaming : a.rig.core.streaming = true) :
    Drains B admits calls { a with holder := some (Served.work op).run } := by
  have accounted := (accounted_of_reaches sound fresh h).step sound (.lock free transition)
  exact drains sound ⟨accounted, streaming, _, rfl, winds⟩

end Tallied

end Sensing
