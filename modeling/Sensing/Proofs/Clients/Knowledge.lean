import Sensing.Proofs.Clients.Alone
import Sensing.Proofs.Clients.Crowd

/-!
# What is known for certain

What only the client with the configuration lock changes, that client knows exactly at each of its
steps. Often what its next step comes to depends on more, such as that the device is powered, which
is nobody's doing alone. Such a guarantee is proved once, for all states of a run, and a `Knowledge`
takes it for granted.

A client stands at what it knows, or at `none` once the guarantee is broken. No run comes there, so
nothing has to be said of what a client does from there (`Guides.never`): what is promised of an
answer is promised unless the guarantee is broken (`Sure`).

Main results: clients who follow the rules keep what is known and answer as promised, among each
other (`Kept.step`) and where the client with the lock has the endpoint to itself
(`carried_knows`).
-/

namespace Sensing

/-- What the client with the lock knows of a state `σ`, as long as something is guaranteed. -/
structure Knowledge (σ V : Type) where
  /-- The state is as this says. -/
  tells : V → σ → Prop
  /-- What is guaranteed of every state of a run. -/
  holds : σ → Prop

/-- An answer, and what is known then, are as promised, unless the guarantee is broken. -/
def Sure {α β : Type} (P : α → β → Prop) (a : α) (k : Option β) : Prop := ∀ v ∈ k, P a v

/-- Nothing is promised once the guarantee is broken. -/
theorem sure_none {α β : Type} {P : α → β → Prop} {a : α} : Sure P a none := fun _ h => nomatch h

/-- What is known to be so is promised. -/
theorem sure_some {α β : Type} {P : α → β → Prop} {a : α} {v : β} (h : P a v) :
    Sure P a (some v) := by
  intro u hu
  cases hu
  exact h

/-- Less is promised. -/
theorem Sure.mono {α β : Type} {P Q : α → β → Prop} (h : ∀ a v, P a v → Q a v) {a : α}
    {k : Option β} (hk : Sure P a k) : Sure Q a k := fun v hv => h a v (hk v hv)

/-- The last part of some work, whose outcome is known. -/
theorem Work.follows_last {σ β : Type} {R : Rules σ (Option β)} {p : Procedure σ Unit}
    {Q : Except EndpointError Unit → β → Prop} {k : Option β} {v : β}
    (hp : p.Follows R (Sure fun _ u => u = v) k) (hQ : Q (.ok ()) v) :
    (Work.ofProcedure p).Follows R (Sure Q) k := by
  refine Work.follows_ofProcedure (Procedure.Follows.mono (fun _ k hk => ?_) hp)
  intro u hu
  rw [hk u hu]
  exact hQ

namespace Knowledge

variable {σ V β γ α : Type} (K : Knowledge σ V)

/-! ## The rules -/

/-- The rules for the client with the lock. -/
def holding : Rules σ (Option V) where
  sees k s := K.holds s ∧ ∃ v ∈ k, K.tells v s
  may k s s' k' := K.holds s' → (∃ v ∈ k, K.tells v s) → ∃ v ∈ k', K.tells v s'
  idle _ _ := id

/-- The rules for everybody else, who leaves what is known as it is. -/
def waiting : Rules σ (Option Unit) where
  sees k s := K.holds s ∧ k = some () ∧ ∃ v, K.tells v s
  may k s s' k' := K.holds s' → k' = k ∧ ∀ v, K.tells v s → K.tells v s'
  idle _ _ := ⟨rfl, fun _ => id⟩

/-- A step that leaves what is known as it is. -/
def Spares (s s' : σ) : Prop := ∀ v, K.tells v s → K.tells v s'

/-- What the rules for all clients have in common. -/
structure Guides (R : Rules σ (Option β)) : Prop where
  sees : ∀ {k s}, R.sees k s → K.holds s ∧ k ≠ none ∧ ∃ v, K.tells v s
  spares : ∀ {k s s'}, (K.holds s' → K.Spares s s') → R.may k s s' k
  broken : ∀ {k s s'}, ¬ K.holds s' → R.may k s s' none

/-- What is known guides the client with the lock, -/
theorem holding_guides : K.Guides K.holding where
  sees := by
    rintro k s ⟨holds, v, hv, known⟩
    refine ⟨holds, ?_, v, known⟩
    rintro rfl
    cases hv
  spares spares holds known := known.imp fun v hv => ⟨hv.1, spares holds v hv.2⟩
  broken broken holds := absurd holds broken

/-- and everybody else. -/
theorem waiting_guides : K.Guides K.waiting where
  sees := by
    rintro k s ⟨holds, rfl, known⟩
    exact ⟨holds, nofun, known⟩
  spares spares holds := ⟨rfl, spares holds⟩
  broken broken holds := absurd holds broken

variable {K}

/-- Who stands at something known finds it true. -/
theorem tells_of_sees {v : V} {s : σ} (sees : K.holding.sees (some v) s) : K.tells v s := by
  obtain ⟨-, u, hu, known⟩ := sees
  cases hu
  exact known

/-! ## Procedures -/

namespace Guides

variable {R : Rules σ (Option β)} (guides : K.Guides R)
include guides

/-- From where no run comes, a procedure may do anything. -/
theorem never {Q : α → Option β → Prop} (hQ : ∀ a, Q a none) (p : Procedure σ α) :
    p.Follows R Q none := by
  induction p with
  | done a => exact hQ a
  | step act next => exact fun s sees => absurd rfl (guides.sees sees).2.1
  | await ready next ih => exact ih

/-- One procedure, and then the rest, from wherever it leaves the client. -/
theorem bind {P : α → β → Prop} {Q : γ → β → Prop} {p : Procedure σ α}
    {f : α → Procedure σ γ} {k : Option β} (hp : p.Follows R (Sure P) k)
    (hf : ∀ a v, P a v → (f a).Follows R (Sure Q) (some v)) : (p >>= f).Follows R (Sure Q) k := by
  refine hp.bind fun a k' hk => ?_
  cases k' with
  | none => exact guides.never (fun _ => sure_none) _
  | some v => exact hf a v (hk v rfl)

/-- The same for work that may fail: a failure is the failure of the whole. -/
theorem andThen {P : Except EndpointError α → β → Prop} {Q : Except EndpointError γ → β → Prop}
    {w : Work σ α} {f : α → Work σ γ} {k : Option β} (hw : w.Follows R (Sure P) k)
    (ok : ∀ a v, P (.ok a) v → (f a).Follows R (Sure Q) (some v))
    (error : ∀ e v, P (.error e) v → Q (.error e) v) : (w >>= f).Follows R (Sure Q) k := by
  refine guides.bind hw fun a v hv => ?_
  cases a with
  | ok a => exact ok a v hv
  | error e => exact Procedure.follows_pure (sure_some (error e v hv))

/-- What cannot fail, and then the rest. -/
theorem lift {P : α → β → Prop} {Q : Except EndpointError γ → β → Prop} {p : Procedure σ α}
    {f : α → Work σ γ} {k : Option β} (hp : p.Follows R (Sure P) k)
    (hf : ∀ a v, P a v → (f a).Follows R (Sure Q) (some v)) :
    (Work.ofProcedure p >>= f).Follows R (Sure Q) k := by
  refine Procedure.Follows.bind (Work.follows_ofProcedure
    (Procedure.Follows.mono (fun a k hk => ?_) hp)) (P := fun a k => ∃ b, a = .ok b ∧ Sure P b k) ?_
  · exact ⟨a, rfl, hk⟩
  · rintro _ k ⟨b, rfl, hk⟩
    cases k with
    | none => exact guides.never (fun _ => sure_none) _
    | some v => exact hf b v (hk v rfl)

/-- What leads to one place, and then the rest from there. -/
theorem onward {P : α → Prop} {Q : γ → β → Prop} {p : Procedure σ α} {f : α → Procedure σ γ}
    {k : Option β} {v : β} (hp : p.Follows R (Sure fun a u => u = v ∧ P a) k)
    (hf : ∀ a, P a → (f a).Follows R (Sure Q) (some v)) : (p >>= f).Follows R (Sure Q) k := by
  refine guides.bind hp fun a u hu => ?_
  rw [hu.1]
  exact hf a hu.2

/-- The same for work that may fail. -/
theorem onwardWork {P : Except EndpointError α → Prop} {Q : Except EndpointError γ → β → Prop}
    {w : Work σ α} {f : α → Work σ γ} {k : Option β} {v : β}
    (hw : w.Follows R (Sure fun a u => u = v ∧ P a) k)
    (ok : ∀ a, P (.ok a) → (f a).Follows R (Sure Q) (some v))
    (error : ∀ e, P (.error e) → Q (.error e) v) : (w >>= f).Follows R (Sure Q) k := by
  refine guides.andThen hw (fun a u hu => ?_) fun e u hu => ?_
  · rw [hu.1]
    exact ok a hu.2
  · rw [hu.1]
    exact error e hu.2

/-- A change that leads to one place, and then the rest from there. -/
theorem changing {Q : Except EndpointError γ → β → Prop} {p : Procedure σ Unit}
    {f : Unit → Work σ γ} {k : Option β} {v : β} (hp : p.Follows R (Sure fun _ u => u = v) k)
    (hf : (f ()).Follows R (Sure Q) (some v)) :
    (Work.ofProcedure p >>= f).Follows R (Sure Q) k := by
  refine guides.lift hp fun _ u hu => ?_
  rw [hu]
  exact hf

/-- Work that is followed by something more when it fails. -/
theorem onFailure {P Q : Except EndpointError α → β → Prop} {cleanup : Procedure σ Unit}
    {w : Work σ α} {k : Option β} (hw : w.Follows R (Sure P) k)
    (ok : ∀ a v, P (.ok a) v → Q (.ok a) v)
    (error : ∀ e v, P (.error e) v →
      cleanup.Follows R (Sure fun _ v' => Q (.error e) v') (some v)) :
    (Work.onFailure cleanup w).Follows R (Sure Q) k := by
  refine guides.bind hw fun a v hv => ?_
  cases a with
  | ok a => exact Procedure.follows_pure (sure_some (ok a v hv))
  | error e =>
    exact guides.bind (error e v hv) fun _ _ h => Procedure.follows_pure (sure_some h)

/-- Work that is followed by something more whether or not it fails. -/
theorem always {P Q : Except EndpointError α → β → Prop} {cleanup : Procedure σ Unit}
    {w : Work σ α} {k : Option β} (hw : w.Follows R (Sure P) k)
    (after : ∀ a v, P a v → cleanup.Follows R (Sure fun _ v' => Q a v') (some v)) :
    (Work.always cleanup w).Follows R (Sure Q) k :=
  guides.bind hw fun a v hv =>
    guides.bind (after a v hv) fun _ _ h => Procedure.follows_pure (sure_some h)

/-- A step that leaves what is known as it is, and what it answers. -/
theorem passes {act : σ → α × σ} {P : α → Prop} {v : β}
    (h : ∀ s, K.holds s → (∃ u, K.tells u s) → K.holds (act s).2 →
      P (act s).1 ∧ K.Spares s (act s).2) :
    (Procedure.step act .done).Follows R (Sure fun a u => u = v ∧ P a) (some v) := by
  intro s sees
  obtain ⟨holds, -, known⟩ := guides.sees sees
  by_cases after : K.holds (act s).2
  · obtain ⟨answer, spares⟩ := h s holds known after
    exact ⟨some v, guides.spares fun _ => spares, sure_some ⟨rfl, answer⟩⟩
  -- No run makes a step that breaks the guarantee.
  · exact ⟨none, guides.broken after, sure_none⟩

/-- A change that leaves what is known as it is. -/
theorem change {f : σ → σ} {v : β} (h : ∀ s, K.holds s → K.Spares s (f s)) :
    (Procedure.change f).Follows R (Sure fun _ u => u = v) (some v) :=
  Procedure.Follows.mono (fun _ _ hu => hu.mono fun _ _ hu => hu.1)
    (guides.passes (P := fun _ => True) fun s holds _ _ => ⟨trivial, h s holds⟩)

/-- A look, and what is known of its answer. -/
theorem look {view : σ → α} {P : α → Prop} {v : β}
    (h : ∀ s, K.holds s → (∃ u, K.tells u s) → P (view s)) :
    (Procedure.look view).Follows R (Sure fun a u => u = v ∧ P a) (some v) :=
  guides.passes fun s holds known _ => ⟨h s holds known, fun _ => id⟩

end Guides

/-- A step of the client with the lock. -/
theorem turns {act : σ → α × σ} {P : α → V → Prop} {v : V}
    (h : ∀ s, K.holds s → K.tells v s → K.holds (act s).2 →
      ∃ v', K.tells v' (act s).2 ∧ P (act s).1 v') :
    (Procedure.step act .done).Follows K.holding (Sure P) (some v) := by
  intro s sees
  by_cases after : K.holds (act s).2
  · obtain ⟨v', known', answer⟩ := h s sees.1 (tells_of_sees sees) after
    exact ⟨some v', fun _ _ => ⟨v', rfl, known'⟩, sure_some answer⟩
  · exact ⟨none, fun holds => absurd holds after, sure_none⟩

/-- A change whose outcome is known. -/
theorem turns_change {f : σ → σ} {v v' : V} (h : ∀ s, K.holds s → K.tells v s → K.tells v' (f s)) :
    (Procedure.change f).Follows K.holding (Sure fun _ u => u = v') (some v) :=
  turns fun s holds known _ => ⟨v', h s holds known, rfl⟩

/-! ## A client who has the endpoint to itself -/

/-- What a client is promised who has the endpoint to itself, where nothing is to be guaranteed. -/
theorem carried_knows {beside : σ → σ → Prop} {Q : α → V → Prop} {p p' : Procedure σ α} {v : V}
    {s s' : σ} (holds : ∀ s, K.holds s) (spares : ∀ {s s'}, beside s s' → K.Spares s s')
    (hp : p.Follows K.holding (Sure Q) (some v)) (known : K.tells v s)
    (h : p.Carried beside s p' s') :
    ∃ v', K.tells v' s' ∧ p'.Follows K.holding (Sure Q) (some v') := by
  induction h with
  | begun => exact ⟨v, known, hp⟩
  | onward _ step ih =>
    obtain ⟨v', known, hp⟩ := ih
    obtain ⟨k, may, hp⟩ := hp.step ⟨holds _, v', rfl, known⟩ step
    obtain ⟨v'', rfl, known⟩ := may (holds _) ⟨v', rfl, known⟩
    exact ⟨v'', known, hp⟩
  | aside _ moved ih =>
    obtain ⟨v', known, hp⟩ := ih
    exact ⟨v', spares moved v' known, hp⟩

/-- What is known once it has come to an end. -/
theorem carried_done {beside : σ → σ → Prop} {Q : α → V → Prop} {p : Procedure σ α} {v : V} {a : α}
    {s s' : σ} (holds : ∀ s, K.holds s) (spares : ∀ {s s'}, beside s s' → K.Spares s s')
    (hp : p.Follows K.holding (Sure Q) (some v)) (known : K.tells v s)
    (h : p.Carried beside s (.done a) s') : ∃ v', K.tells v' s' ∧ Q a v' := by
  obtain ⟨v', known, ends⟩ := carried_knows holds spares hp known h
  exact ⟨v', known, ends v' rfl⟩

/-! ## More guaranteed -/

variable (K) in
/-- What is known where something more is guaranteed. -/
def given (P : σ → Prop) : Knowledge σ V where
  tells := K.tells
  holds s := K.holds s ∧ P s

section Given

variable {P : σ → Prop} {R : Rules σ (Option β)}

/-- Who is guided where more is guaranteed is guided by what is known. -/
theorem Guides.of_given (guides : (K.given P).Guides R) : K.Guides R where
  sees seen := (guides.sees seen).imp_left And.left
  spares spares := guides.spares fun holds => spares holds.1
  broken broken := guides.broken fun holds => broken holds.1

/-- Who follows the rules follows them where more is guaranteed, with the lock, -/
theorem holding_given {Q : α → Option V → Prop} {p : Procedure σ α} {k : Option V}
    (hp : p.Follows K.holding Q k) : p.Follows (K.given P).holding Q k := by
  refine Procedure.Follows.weaken ?_ ?_ hp
  · exact fun seen => ⟨seen.1.1, seen.2⟩
  · exact fun may holds => may holds.1

/-- and without it. -/
theorem waiting_given {Q : α → Option Unit → Prop} {p : Procedure σ α} {k : Option Unit}
    (hp : p.Follows K.waiting Q k) : p.Follows (K.given P).waiting Q k := by
  refine Procedure.Follows.weaken ?_ ?_ hp
  · exact fun seen => ⟨seen.1.1, seen.2⟩
  · exact fun may holds => may holds.1

end Given

/-! ## Clients among each other -/

variable (K) [Served σ]

/-- All that clients do without the lock leaves what is known as it is and is answered finely. -/
structure Unspoilt (admits : Served.Op σ → Prop) (fine : Except EndpointError Unit → Prop) :
    Prop where
  free : ∀ {op}, Served.transition op = none → admits op →
    (Served.work op).Follows K.waiting (Sure fun a _ => fine a) (some ())
  take : ∀ {g : Gate σ} {s}, Served.gate = some g → K.holds s → K.Spares s (g.take s).2
  drop : ∀ {g : Gate σ} {s}, Served.gate = some g → K.holds s → K.Spares s (g.drop s)
  aside : ∀ {s} (x : Served.Aside σ), K.Spares s (Served.aside x s)

/-- What is known of the state: what is known at rest or, while somebody has the lock, what that
client knows, who follows the rules to a promised end. -/
def Held (rest : V → Prop) (Q : Except EndpointError Unit → V → Prop) :
    Option (Errand σ) → V → Prop
  | none, v => rest v
  | some w, v => Work.Follows K.holding (Sure Q) w (some v)

/-- Everybody in the crowd follows the rules. -/
structure Kept (rest : V → Prop) (Q : Except EndpointError Unit → V → Prop)
    (fine : Except EndpointError Unit → Prop) (c : Crowd σ) : Prop where
  holder : ∃ v, K.tells v c.rig ∧ K.Held rest Q c.holder v
  others : ∀ w ∈ c.others, Work.Follows K.waiting (Sure fun a _ => fine a) w (some ())

variable {K} {admits : Served.Op σ → Prop} {rest : V → Prop}
  {Q : Except EndpointError Unit → V → Prop} {fine : Except EndpointError Unit → Prop}
  {c c' : Crowd σ}

/-- What leaves everything as it is does so where more is guaranteed. -/
theorem Unspoilt.given {P : σ → Prop} (unspoilt : K.Unspoilt admits fine) :
    (K.given P).Unspoilt admits fine where
  free transition admitted := waiting_given (unspoilt.free transition admitted)
  take gate holds := unspoilt.take gate holds.1
  drop gate holds := unspoilt.drop gate holds.1
  aside := unspoilt.aside

omit [Served σ] in
/-- Where nobody is busy, everybody follows the rules. -/
theorem kept_of_rest {v : V} (known : K.tells v c.rig) (resting : rest v) (free : c.holder = none)
    (alone : c.others = []) : K.Kept rest Q fine c := by
  refine ⟨⟨v, known, ?_⟩, fun w hw => ?_⟩
  · rw [free]
    exact resting
  · rw [alone] at hw
    cases hw

omit [Served σ] in
/-- Whoever does not have the lock may leave what is known as it is. -/
theorem Kept.spared (h : K.Kept rest Q fine c) {s' : σ} (spares : K.Spares c.rig s')
    {others : List (Errand σ)} {gates : Nat}
    (binds : ∀ w ∈ others, Work.Follows K.waiting (Sure fun a _ => fine a) w (some ())) :
    K.Kept rest Q fine { rig := s', holder := c.holder, others, gates } := by
  obtain ⟨⟨v, known, held⟩, -⟩ := h
  exact ⟨⟨v, spares v known, held⟩, binds⟩

/-- Any step but taking the lock or letting go of it. -/
theorem Kept.goesOn (unspoilt : K.Unspoilt admits fine) (h : K.Kept rest Q fine c)
    (here : K.holds c.rig) (there : K.holds c'.rig) (step : Crowd.Step admits c c')
    (same : c.holder = none ↔ c'.holder = none) : K.Kept rest Q fine c' := by
  have unseen : K.Spares c.rig c.rig := fun _ => id
  have kept := h
  obtain ⟨⟨v, known, held⟩, binds⟩ := h
  -- What is known changes with the steps of the client with the lock only, who then knows it anew.
  cases step with
  | lock free => cases same.1 free
  | unlock holder => cases holder.symm.trans (same.2 rfl)
  | held holder step =>
    rw [holder] at held
    obtain ⟨k, may, onward⟩ := Procedure.Follows.step held ⟨here, v, rfl, known⟩ step
    obtain ⟨v', rfl, known'⟩ := may there ⟨v, rfl, known⟩
    exact ⟨⟨v', known', onward⟩, binds⟩
  | enter transition admitted =>
    exact kept.spared unseen (List.forall_mem_cons.2 ⟨unspoilt.free transition admitted, binds⟩)
  | other split step =>
    rw [split] at binds
    obtain ⟨before, rest⟩ := List.forall_mem_append.1 binds
    obtain ⟨follows, after⟩ := List.forall_mem_cons.1 rest
    obtain ⟨k, may, onward⟩ := Procedure.Follows.step follows ⟨here, rfl, v, known⟩ step
    obtain ⟨rfl, spares⟩ := may there
    exact kept.spared spares
      (List.forall_mem_append.2 ⟨before, List.forall_mem_cons.2 ⟨onward, after⟩⟩)
  | leave split =>
    rw [split] at binds
    obtain ⟨before, rest⟩ := List.forall_mem_append.1 binds
    exact kept.spared unseen
      (List.forall_mem_append.2 ⟨before, (List.forall_mem_cons.1 rest).2⟩)
  | take gate => exact kept.spared (unspoilt.take gate here) binds
  | refused gate => exact kept.spared (unspoilt.take gate here) binds
  | drop gate => exact kept.spared (unspoilt.drop gate here) binds
  | aside x => exact kept.spared (unspoilt.aside x) binds

/-- Any step, where every operation leads from rest to rest. -/
theorem Kept.step (unspoilt : K.Unspoilt admits fine)
    (locking : ∀ {op v}, (Served.transition op).isSome → rest v →
      (Served.work op).Follows K.holding (Sure fun a v' => rest v' ∧ fine a) (some v))
    (h : K.Kept rest (fun a v => rest v ∧ fine a) fine c) (here : K.holds c.rig)
    (there : K.holds c'.rig) (step : Crowd.Step admits c c') :
    K.Kept rest (fun a v => rest v ∧ fine a) fine c' := by
  by_cases same : c.holder = none ↔ c'.holder = none
  · exact h.goesOn unspoilt here there step same
  · obtain ⟨⟨v, known, held⟩, binds⟩ := h
    cases step with
    | lock free transition =>
      rw [free] at held
      exact ⟨⟨v, known, locking transition held⟩, binds⟩
    | unlock holder =>
      rw [holder] at held
      exact ⟨⟨v, known, (held v rfl).1⟩, binds⟩
    | held holder => exact absurd (by simp [holder]) same
    | _ => exact absurd Iff.rfl same

/-- Induction on the steps of a run, each state of which keeps the guarantee. -/
theorem kept_of_reachesWhile {P : Crowd σ → Prop} {start : Crowd σ}
    (unspoilt : K.Unspoilt admits fine)
    (locking : ∀ {op v}, (Served.transition op).isSome → rest v →
      (Served.work op).Follows K.holding (Sure fun a v' => rest v' ∧ fine a) (some v))
    (assured : ∀ {c}, Crowd.Reaches admits start c → P c → K.holds c.rig)
    (kept : K.Kept rest (fun a v => rest v ∧ fine a) fine start)
    (h : Crowd.ReachesWhile P admits start c) :
    K.Kept rest (fun a v => rest v ∧ fine a) fine c := by
  induction h with
  | refl => exact kept
  | tail before last ih =>
    obtain ⟨step, here, there⟩ := last
    have reached : Crowd.Reaches admits start _ :=
      Relation.ReflTransGen.mono (fun _ _ h => h.1) _ _ before
    exact ih.step unspoilt locking (assured reached here) (assured (reached.tail step) there) step

omit [Served σ] in
/-- Whoever has come to an end has answered finely. -/
theorem Kept.answers (h : K.Kept rest (fun a v => rest v ∧ fine a) fine c)
    {a : Except EndpointError Unit} (done : c.holder = some (.done a) ∨ .done a ∈ c.others) :
    fine a := by
  rcases done with holder | other
  · obtain ⟨v, -, held⟩ := h.holder
    rw [holder] at held
    exact (held v rfl).2
  · exact h.others _ other () rfl

/-- What a client who gets the lock is promised, as long as it has the lock and every crowd keeps
the guarantee, is what it is answered. -/
theorem answered_of_reachesWhile {P : Crowd σ → Prop} {w : Errand σ} {v : V}
    {a : Except EndpointError Unit} (unspoilt : K.Unspoilt admits fine) (known : K.tells v c.rig)
    (hw : Work.Follows K.holding (Sure Q) w (some v))
    (others : ∀ w ∈ c.others, Work.Follows K.waiting (Sure fun a _ => fine a) w (some ()))
    (assured : ∀ {c'}, Crowd.Reaches admits { c with holder := some w } c' → P c' →
      K.holds c'.rig ∧ c'.holder ≠ none)
    (run : Crowd.ReachesWhile P admits { c with holder := some w } c')
    (answer : c'.holder = some (.done a)) : ∃ v', K.tells v' c'.rig ∧ Q a v' := by
  -- Along the run nobody else gets the lock, so every step is one that keeps what is known.
  have kept : K.Kept (fun _ => True) Q fine c' := by
    clear answer
    induction run with
    | refl => exact ⟨⟨v, known, hw⟩, others⟩
    | tail before last ih =>
      obtain ⟨step, here, there⟩ := last
      have reached := Crowd.ReachesWhile.reaches before
      obtain ⟨holds, held⟩ := assured reached here
      obtain ⟨holds', held'⟩ := assured (reached.tail step) there
      exact ih.goesOn unspoilt holds holds' step (iff_of_false held held')
  obtain ⟨v', known', held⟩ := kept.holder
  rw [answer] at held
  exact ⟨v', known', held v' rfl⟩

omit [Served σ] in
/-- Where nobody has the lock, what is known at rest is known. -/
theorem Kept.at_rest (h : K.Kept rest Q fine c) (free : c.holder = none) :
    ∃ v, K.tells v c.rig ∧ rest v := by
  obtain ⟨v, known, held⟩ := h.holder
  rw [free] at held
  exact ⟨v, known, held⟩

end Knowledge

end Sensing
