import Sensing.Proofs.Clients.Registration

/-!
# Sessions of callbacks

A session lasts from a start that succeeds to the next stop, or to the end of the endpoint. While it
lasts, the callback that the start was passed is the one that the endpoint has registered, and
between sessions none is. To say so takes a history: `Dispatch.Traced` are the crowds that can be
reached, each with the task that holds the lock, the endpoint as that task found it, and the
session.

Main results: the registration at all times (`Dispatch.held_of_traced`), and who is called
(`Dispatch.callsInSession`).
-/

namespace Sensing

namespace Dispatch

variable {σ : Type} [Served σ]

section Histories

variable (D : Dispatch σ)

/-- What a crowd can come to, with the task under way, the endpoint as that task found it, and the
session. -/
inductive Traced (admits : Served.Op σ → Prop) (start : Crowd σ) :
    Crowd σ → Option (Task σ × σ) → Option (Beginning σ) → Prop where
  | start : Traced admits start start none none
  | begun {c : Crowd σ} {session : Option (Beginning σ)}
      (before : Traced admits start c none session) (free : c.holder = none) (t : Task σ) :
    Traced admits start { c with holder := some (D.errand t) } (some (t, c.rig)) session
  /-- Anything but taking the lock or letting go of it. -/
  | step {c c' : Crowd σ} {task : Option (Task σ × σ)} {session : Option (Beginning σ)}
      (before : Traced admits start c task session) (step : Crowd.Step admits c c')
      (same : c.holder = none ↔ c'.holder = none) :
    Traced admits start c' task session
  | answered {c : Crowd σ} {t : Task σ} {found : σ} {session : Option (Beginning σ)}
      {a : Except EndpointError Unit} (before : Traced admits start c (some (t, found)) session)
      (answer : c.holder = some (.done a)) :
    Traced admits start { c with holder := none } none (D.after t found a session)

end Histories

variable {D : Dispatch σ} {admits : Served.Op σ → Prop} {t : Task σ} {found : σ}
  {session : Option (Beginning σ)} {start c c' : Crowd σ} {task : Option (Task σ × σ)}

/-- Every crowd that can be reached has a history. -/
theorem traced_of_reaches (D : Dispatch σ) (free : start.holder = none)
    (h : Crowd.Reaches admits start c) : ∃ task session, D.Traced admits start c task session ∧
      (task = none ↔ c.holder = none) := by
  induction h with
  | refl => exact ⟨none, none, .start, by simp [free]⟩
  | tail _ step ih =>
    rename_i c c' _
    obtain ⟨task, session, before, same⟩ := ih
    -- Four cases, by whether somebody has the lock before and after the step. Only taking the lock
    -- begins a task, and only letting go of it ends one.
    by_cases hc : c.holder = none
    · obtain rfl := same.2 hc
      by_cases hc' : c'.holder = none
      · exact ⟨none, session, before.step step (by simp [hc, hc']), by simp [hc']⟩
      · cases step with
        | lock free transition => exact ⟨_, session, before.begun hc (.serve _ transition), by simp⟩
        | held holder => cases hc.symm.trans holder
        | unlock => exact absurd rfl hc'
        | _ => exact absurd hc hc'
    · by_cases hc' : c'.holder = none
      · cases step with
        | unlock holder =>
          cases task with
          | none => exact absurd (same.1 rfl) hc
          | some task => exact ⟨none, _, before.answered holder, by simp⟩
        | lock free => exact absurd free hc
        | held => cases hc'
        | _ => exact absurd hc' hc
      · refine ⟨task, session, before.step step (by simp [hc, hc']), ?_⟩
        rw [same]
        simp [hc, hc']

/-- The task under way is carried out to its answer while nobody else does anything. -/
theorem Traced.held {t : Task σ} {w : Errand σ} {a : Except EndpointError Unit} {s' : σ}
    (h : D.Traced admits start c (some (t, found)) session) (holder : c.holder = some w)
    (run : w.run c.rig = .finished a s') :
    D.Traced admits start { c with rig := s', holder := some (.done a) } (some (t, found))
      session :=
  Crowd.holds_of_run (P := fun c => D.Traced admits start c (some (t, found)) session)
    (fun h holder step => h.step (.held holder step) (by simp [holder])) h holder run

/-- A client carries a task out while nobody else does anything. -/
theorem Traced.carried {a : Except EndpointError Unit} {s' : σ}
    (h : D.Traced admits start c none session) (free : c.holder = none) (t : Task σ)
    (run : (D.errand t).run c.rig = .finished a s') :
    D.Traced admits start { c with rig := s' } none (D.after t c.rig a session) := by
  have answered := ((h.begun free t).held rfl run).answered rfl
  rw [← free] at answered
  exact answered

/-- The session there is, or the one about to begin where there is none. -/
def Current (D : Dispatch σ) (task : Option (Task σ × σ)) (session : Option (Beginning σ))
    (b : Beginning σ) : Prop :=
  session = some b ∨ session = none ∧ ∃ t found, task = some (t, found) ∧ D.begins found t = some b

/-- The registration is that of the session, and the task under way, if any, keeps its promise. -/
def Held (D : Dispatch σ) (c : Crowd σ) :
    Option (Task σ × σ) → Option (Beginning σ) → Prop
  | none, session => c.holder = none ∧ D.Rests session (D.registration c.rig)
  | some (t, found), session => D.Amid t found session (D.registration c.rig) ∧
    ∃ w, c.holder = some w ∧ Work.Follows (D.holding (D.Amid t found session))
      (D.Settled t found session) w (D.registration c.rig)

/-- What leaves the registration and the lock alone leaves that alone. -/
theorem Held.of_same (h : D.Held c task session) (holder : c'.holder = c.holder)
    (same : D.registration c'.rig = D.registration c.rig) : D.Held c' task session := by
  cases task with
  | none =>
    unfold Held
    rw [holder, same]
    exact h
  | some task =>
    unfold Held
    rw [holder, same]
    exact h

/-- Any step but taking the lock or letting go of it. -/
theorem Held.step (orderly : D.Orderly admits) (h : D.Held c task session)
    (binds : D.waiting.Binds c) (step : Crowd.Step admits c c')
    (same : c.holder = none ↔ c'.holder = none) :
    D.waiting.Binds c' ∧ D.Held c' task session := by
  rcases step.moves_or_aside with moves | ⟨x, rfl⟩
  · obtain ⟨binds, turn⟩ := orderly.bystanders.turn trivial binds moves
    refine ⟨binds, ?_⟩
    cases turn with
    | lock free => cases same.1 free
    | unlock holder => cases holder.symm.trans (same.2 rfl)
    | beside may => exact h.of_same rfl may.registration
    | held holder onward =>
      cases task with
      | none => cases holder.symm.trans h.1
      | some task =>
        obtain ⟨amid, w, hw, follows⟩ := h
        cases holder.symm.trans hw
        obtain ⟨v, may, rest⟩ := Procedure.Follows.step follows ⟨rfl, amid⟩ onward
        obtain ⟨rfl, amid⟩ := may.2 ⟨rfl, amid⟩
        exact ⟨amid, _, rfl, rest⟩
  · exact ⟨binds, h.of_same rfl (orderly.aside x c.rig)⟩

/-- The registration is explained wherever a history leads. -/
theorem held_of_traced (orderly : D.Orderly admits) (free : start.holder = none)
    (alone : start.others = []) (silent : D.Rests none (D.registration start.rig))
    (h : D.Traced admits start c task session) :
    D.waiting.Binds c ∧ D.Held c task session := by
  induction h with
  | start =>
    refine ⟨?_, free, silent⟩
    intro w hw
    rw [alone] at hw
    cases hw
  | begun _ _ t ih =>
    obtain ⟨binds, -, rests⟩ := ih
    exact ⟨binds, rests.amid, _, rfl, orderly.keeps rests t⟩
  | step _ step same ih => exact ih.2.step orderly ih.1 step same
  | answered _ answer ih =>
    obtain ⟨binds, -, w, holder, follows⟩ := ih
    cases answer.symm.trans holder
    exact ⟨binds, rfl, follows.rests⟩

/-- The callback registered is that of the session, and so is the setup. -/
theorem Held.current (h : D.Held c task session) {callback : Callback}
    (registered : (D.core c.rig).registered = some callback) : ∃ b, D.Current task session b ∧
      b.callback = callback ∧ D.setup c.rig = D.setup b.found := by
  cases task with
  | none =>
    obtain ⟨-, rests⟩ := h
    obtain ⟨b, hb, rfl⟩ := Option.map_eq_some_iff.1 (rests.callback.symm.trans registered)
    exact ⟨b, .inl hb, rfl, rests.setup b hb⟩
  | some task =>
    obtain ⟨b, which, called, setup⟩ := h.1.explained callback registered
    exact ⟨b, which.imp_right fun about => ⟨about.1, _, _, rfl, about.2⟩, called, setup⟩

/-- Sessions begin where there is none. -/
theorem Traced.begun_alone (orderly : D.Orderly admits) (free : start.holder = none)
    (alone : start.others = []) (silent : D.Rests none (D.registration start.rig))
    (h : D.Traced admits start c task session) :
    (∀ b, session = some b → ∃ c₀, D.Traced admits start c₀ none none ∧ c₀.rig = b.found) ∧
      ∀ t found, task = some (t, found) →
        ∃ c₀, D.Traced admits start c₀ none session ∧ c₀.rig = found := by
  induction h with
  | start => exact ⟨nofun, nofun⟩
  | begun before _ t ih =>
    refine ⟨ih.1, fun _ _ begun => ?_⟩
    cases begun
    exact ⟨_, before, rfl⟩
  | step _ _ _ ih => exact ih
  | answered before answer ih =>
    rename_i _ t found session _
    refine ⟨fun b hb => ?_, nofun⟩
    -- The task kept its promise: it goes on with the session it found, or ends it, or begins one
    -- where there was none.
    obtain ⟨-, -, w, holder, follows⟩ := held_of_traced orderly free alone silent before
    cases answer.symm.trans holder
    cases session with
    | some b' =>
      rcases follows.alone rfl with same | ended
      · exact ih.1 b (same.symm.trans hb)
      · cases ended.symm.trans hb
    | none =>
      obtain ⟨c₀, atTask, rfl⟩ := ih.2 t found rfl
      exact ⟨c₀, atTask, (found_of_after hb).symm⟩

/-- The endpoint as the current session's start has found it. -/
theorem Traced.found_of_current (orderly : D.Orderly admits) (free : start.holder = none)
    (alone : start.others = []) (silent : D.Rests none (D.registration start.rig))
    (h : D.Traced admits start c task session) {b : Beginning σ}
    (current : D.Current task session b) :
    ∃ c₀, D.Traced admits start c₀ none none ∧ c₀.rig = b.found := by
  obtain ⟨ofSession, ofTask⟩ := h.begun_alone orderly free alone silent
  rcases current with inSession | ⟨rfl, t, found, atTask, begins⟩
  · exact ofSession b inSession
  · obtain ⟨c₀, before, same⟩ := ofTask t found atTask
    exact ⟨c₀, before, same.trans (found_of_begins begins).symm⟩

/-- Whoever takes a step, a callback is called only if it is registered. -/
theorem Held.delivered (orderly : D.Orderly admits) (h : D.Held c task session)
    (binds : D.waiting.Binds c) (step : Crowd.Step admits c c')
    (silent : (D.core c.rig).registered = none) :
    (D.core c'.rig).delivered = (D.core c.rig).delivered := by
  rcases step.moves_or_aside with moves | ⟨x, rfl⟩
  · obtain ⟨-, turn⟩ := orderly.bystanders.turn trivial binds moves
    cases turn with
    | lock | unlock => rfl
    | beside may => exact may.delivered
    | held holder onward =>
      cases task with
      | none => cases holder.symm.trans h.1
      | some task =>
        obtain ⟨amid, w, hw, follows⟩ := h
        cases holder.symm.trans hw
        obtain ⟨_, may, -⟩ := Procedure.Follows.step follows ⟨rfl, amid⟩ onward
        exact may.1
  · exact orderly.unheard x c.rig silent

/-! ## Who is called -/

/-- The callbacks of an endpoint that begins as `fresh` are called in their sessions only. -/
structure CallsInSession (D : Dispatch σ) (fresh : σ) : Prop where
  /-- Between tasks, the callback registered is that of the session, and the endpoint streams while
  there is one. -/
  between : ∀ {c : Crowd σ} {session : Option (Beginning σ)},
    D.Traced (fun _ => True) { rig := fresh } c none session →
    (D.core c.rig).registered = session.map (·.callback) ∧
      (D.core c.rig).streaming = session.isSome
  /-- Amid a task, the callback registered, if any, is that of the session, or that of a start under
  way where there is no session. -/
  amid : ∀ {c : Crowd σ} {t : Task σ} {found : σ} {session : Option (Beginning σ)}
    {callback : Callback},
    D.Traced (fun _ => True) { rig := fresh } c (some (t, found)) session →
    (D.core c.rig).registered = some callback →
    ∃ b : Beginning σ, (session = some b ∨ session = none ∧ D.begins found t = some b) ∧
      b.callback = callback
  /-- Only a task that ends the session takes its callback away. -/
  lasting : ∀ {c : Crowd σ} {t : Task σ} {found : σ} {b : Beginning σ},
    D.Traced (fun _ => True) { rig := fresh } c (some (t, found)) (some b) →
    t.endsSession = false → (D.core c.rig).registered = some b.callback
  /-- Whoever takes a step, a callback is called only if it is registered. -/
  called : ∀ {c c' : Crowd σ}, Crowd.Reaches (fun _ => True) { rig := fresh } c →
    Crowd.Step (fun _ => True) c c' →
    (D.core c'.rig).delivered ≠ (D.core c.rig).delivered → (D.core c.rig).registered.isSome
  /-- What the device delivers while none is registered is released at once. -/
  released : ∀ {x : Served.Aside σ} {s : σ}, D.delivers x = true →
    (D.core s).registered = none →
    (D.core (Served.aside x s)).pool.published = (D.core s).pool.published

/-- Orderly clients have their callbacks called in their sessions only. -/
theorem callsInSession {fresh : σ} (orderly : D.Orderly fun _ => True)
    (silent : D.Rests none (D.registration fresh)) : D.CallsInSession fresh where
  between traced := by
    obtain ⟨-, -, rests⟩ := held_of_traced orderly rfl rfl silent traced
    exact ⟨rests.callback, rests.streaming⟩
  amid traced registered := by
    obtain ⟨-, amid, -⟩ := held_of_traced orderly rfl rfl silent traced
    obtain ⟨b, hb, same, -⟩ := amid.explained _ registered
    exact ⟨b, hb, same⟩
  lasting traced lasts := by
    obtain ⟨-, amid, -⟩ := held_of_traced orderly rfl rfl silent traced
    exact amid.current _ rfl lasts
  called reaches step differs := by
    obtain ⟨_, _, traced, -⟩ := traced_of_reaches D rfl reaches
    obtain ⟨binds, held⟩ := held_of_traced orderly rfl rfl silent traced
    exact Option.isSome_iff_ne_none.2 fun none =>
      differs (held.delivered orderly binds step none)
  released delivers none := orderly.released _ _ delivers none

end Dispatch

end Sensing
