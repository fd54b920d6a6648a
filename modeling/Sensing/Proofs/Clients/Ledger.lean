import Sensing.Proofs.Clients.Crowd
import Sensing.Proofs.Clients.Rules

/-!
# Keeping the books of a crowd

Every client of an endpoint has a *standing*: the references it has taken and, if it holds the
configuration lock, the phase of the endpoint, which nobody else can change then. A *ledger* says
what a client may do at its standing. Its one law is local to a client: whatever the references of
all the others add up to, a move changes the phase only if the client knows it, and changes the
count exactly by what the client took or gave back.

From that law and from the fact that each operation follows the rules, the books of a whole crowd
balance at all times (`Kept.step`, `kept_of_reaches`): the references counted are those of the
phase, those of the gates and those of the clients. What an operation answers and where it leaves
the phase is what its own `Follows` says, whatever the others do meanwhile (`kept_of_serves`).
-/

namespace Sensing

/-- What a client of an endpoint holds and knows. -/
structure Standing where
  /-- The references it has taken and not given back. -/
  refs : Nat := 0
  /-- The phase, which a client knows who holds the configuration lock. -/
  phase : Option Phase := none

namespace Standing

/-- What the client knows of the phase is true. -/
def Knows (k : Standing) (p : Phase) : Prop := ∀ q, k.phase = some q → q = p

end Standing

/-- What clients may do with an endpoint `σ`, and what they may not change unseen. -/
structure Ledger (σ : Type) where
  phase : Phase → σ → Prop
  /-- So many references are counted. -/
  counts : Nat → σ → Prop
  may : Standing → σ → σ → Standing → Prop
  idle : ∀ k s, may k s s k
  /-- Where the others have `m` references, they have them after the move. -/
  balance : ∀ {k k' : Standing} {s s' : σ} {p : Phase} {m : Nat}, may k s s' k' → k.Knows p →
    phase p s → counts (p.refs + k.refs + m) s →
    ∃ p', phase p' s' ∧ counts (p'.refs + k'.refs + m) s' ∧
      k'.phase = k.phase.map (fun _ => p') ∧ (k.phase = none → p' = p)

namespace Ledger

variable {σ : Type} (L : Ledger σ)

/-- A client finds the endpoint in the phase that it knows, and its references counted. -/
def sees (k : Standing) (s : σ) : Prop :=
  ∃ p m, k.Knows p ∧ L.phase p s ∧ L.counts (p.refs + k.refs + m) s

/-- The rules of a ledger. -/
def rules : Rules σ Standing := ⟨L.sees, L.may, fun _ => L.idle _ _⟩

/-- Where an operation has to end that holds the lock: with no reference, and with what the machine
says of its answer and of the phase. -/
def Settles (p : Phase) (t : Transition) (a : Except EndpointError Unit) (k : Standing) : Prop :=
  k = ⟨0, some (p.after t a.isOk)⟩ ∧ p.Answers t a

/-- An answer settles an operation that was not refused if it blames nobody. -/
theorem settles_of_blameless {p : Phase} {t : Transition} {a : Except EndpointError Unit}
    (admitted : p.refuses t = false) (blameless : ¬ IsMisuse a)
    (idle : t = .stop → p = .streaming) :
    Settles p t a ⟨0, some (p.after t a.isOk)⟩ := by
  refine ⟨rfl, ⟨fun h => absurd h blameless, fun h => ?_⟩, fun ht hp => absurd (idle ht) hp⟩
  rw [admitted] at h
  cases h

/-- A check that fails settles its operation. -/
theorem settles_of_guard {p : Phase} {t : Transition} {e : EndpointError}
    (guard : p.Guards t (.error e)) : Settles p t (.error e) ⟨0, some p⟩ := by
  rcases guard with ⟨refuses, misuse⟩ | ⟨-, h⟩
  · refine ⟨?_, ⟨fun _ => refuses, fun _ => misuse⟩, ?_⟩
    · rw [Phase.after_of_refuses refuses]
    · intro stop
      rw [stop] at refuses
      cases p <;> cases refuses
  · cases h

/-- Where an operation has to end that does not. -/
def Departs (_ : Except EndpointError Unit) (k : Standing) : Prop := k = ⟨0, none⟩

/-- All that clients do is within the rules. -/
structure Fits [Served σ] (admits : Served.Op σ → Prop) : Prop where
  locking : ∀ {op t p}, Served.transition op = some t →
    (Served.work op).Follows L.rules (Settles p t) ⟨0, some p⟩
  free : ∀ {op}, Served.transition op = none → admits op →
    (Served.work op).Follows L.rules Departs ⟨0, none⟩
  take : ∀ {g : Gate σ} {s}, Served.gate = some g → L.sees ⟨0, none⟩ s → (g.take s).1 = .ok () →
    L.may ⟨0, none⟩ s (g.take s).2 ⟨1, none⟩
  refused : ∀ {g : Gate σ} {s e}, Served.gate = some g → L.sees ⟨0, none⟩ s →
    (g.take s).1 = .error e → L.may ⟨0, none⟩ s (g.take s).2 ⟨0, none⟩
  drop : ∀ {g : Gate σ} {s}, Served.gate = some g → L.sees ⟨1, none⟩ s →
    L.may ⟨1, none⟩ s (g.drop s) ⟨0, none⟩
  asidePhase : ∀ {p s} (x : Served.Aside σ), L.phase p s → L.phase p (Served.aside x s)
  asideCount : ∀ {n s} (x : Served.Aside σ), L.counts n s → L.counts n (Served.aside x s)

variable {L}

/-! ## One client -/

/-- The law for one of a number of clients: the move of a client who does not know the phase. -/
theorem balance_other {s s' : σ} {k' : Standing} {p : Phase} {n m : Nat}
    (h : L.may ⟨n, none⟩ s s' k') (hp : L.phase p s) (hn : L.counts (p.refs + n + m) s) :
    ∃ n', k' = ⟨n', none⟩ ∧ L.phase p s' ∧ L.counts (p.refs + n' + m) s' := by
  -- Not knowing the phase, the client cannot have changed it.
  obtain ⟨p', hp', hn', hk, hsame⟩ := L.balance h (fun _ hq => nomatch hq) hp hn
  obtain rfl := hsame rfl
  obtain ⟨n', phase⟩ := k'
  obtain rfl : phase = none := hk
  exact ⟨n', rfl, hp', hn'⟩

/-- The law for the client who does. -/
theorem balance_holder {s s' : σ} {k' : Standing} {p : Phase} {n m : Nat}
    (h : L.may ⟨n, some p⟩ s s' k') (hp : L.phase p s) (hn : L.counts (p.refs + n + m) s) :
    ∃ p' n', k' = ⟨n', some p'⟩ ∧ L.phase p' s' ∧ L.counts (p'.refs + n' + m) s' := by
  have knows : Standing.Knows ⟨n, some p⟩ p := by
    intro q hq
    cases hq
    rfl
  obtain ⟨p', hp', hn', hk, -⟩ := L.balance h knows hp hn
  obtain ⟨n', phase⟩ := k'
  obtain rfl : phase = some p' := hk
  exact ⟨p', n', rfl, hp', hn'⟩

/-- A client sees its own references among those counted, -/
theorem sees_other {s : σ} {p : Phase} {n m : Nat} (hp : L.phase p s)
    (hn : L.counts (p.refs + n + m) s) : L.sees ⟨n, none⟩ s :=
  ⟨p, m, (fun _ hq => nomatch hq), hp, hn⟩

/-- and so does the client who knows the phase. -/
theorem sees_holder {s : σ} {p : Phase} {n m : Nat} (hp : L.phase p s)
    (hn : L.counts (p.refs + n + m) s) : L.sees ⟨n, some p⟩ s :=
  ⟨p, m, (fun _ hq => (Option.some.inj hq).symm), hp, hn⟩

/-- An operation that begins with its check goes on only where the machine admits it. -/
theorem follows_guarded {p : Phase} {t : Transition} {view : σ → Except EndpointError Unit}
    {f : Unit → Work σ Unit} (hview : ∀ s, L.phase p s → p.Guards t (view s))
    (hf : p.refuses t = false → (f ()).Follows L.rules (Settles p t) ⟨0, some p⟩) :
    (Work.check view >>= f).Follows L.rules (Settles p t) ⟨0, some p⟩ := by
  have guard : (Work.check view).Follows L.rules (fun a k' => k' = ⟨0, some p⟩ ∧ p.Guards t a)
      ⟨0, some p⟩ := by
    refine Work.follows_check fun s hsees => ⟨rfl, hview s ?_⟩
    obtain ⟨q, _, knows, hq, -⟩ := hsees
    rw [knows p rfl]
    exact hq
  refine Work.Follows.bind guard ?_ ?_
  · intro a k hk
    rw [hk.1]
    rcases hk.2 with ⟨-, _, he⟩ | ⟨admitted, -⟩
    · cases he
    · exact hf admitted
  · intro e k hk
    rw [hk.1]
    exact settles_of_guard hk.2

/-- What fails before it has turned the endpoint settles an operation that leads nowhere then. -/
theorem settles_of_failure {p : Phase} {t : Transition} {e : EndpointError} {k : Standing}
    (admitted : p.refuses t = false) (failure : p.after t false = p) (neverIdle : t ≠ .stop)
    (he : Work.Stays ⟨0, some p⟩ (.error e : Except EndpointError Unit) k) :
    Settles p t (.error e) k := by
  obtain ⟨rfl, blameless⟩ := he
  have h := settles_of_blameless admitted blameless fun h => absurd h neverIdle
  rw [show (Except.error e : Except EndpointError Unit).isOk = false from rfl, failure] at h
  exact h

/-- The operation goes on after a part that leaves its client where it stands. -/
theorem settles_after {α : Type} {p : Phase} {t : Transition} {w : Work σ α} {f : α → Work σ Unit}
    (admitted : p.refuses t = false) (failure : p.after t false = p) (neverIdle : t ≠ .stop)
    (hw : w.Follows L.rules (Work.Stays ⟨0, some p⟩) ⟨0, some p⟩)
    (hf : ∀ a, (f a).Follows L.rules (Settles p t) ⟨0, some p⟩) :
    (w >>= f).Follows L.rules (Settles p t) ⟨0, some p⟩ := by
  refine Work.Follows.bind hw ?_ ?_
  · intro a k hk
    rw [hk.1]
    exact hf a
  · exact fun e k he => settles_of_failure admitted failure neverIdle he.error

/-- Stopping goes on only where the endpoint streams, and is a success where it does not. -/
theorem follows_ifStreaming {p : Phase} {view : σ → Bool} {body : Work σ Unit}
    (hview : ∀ s, L.phase p s → view s = p.isStreaming)
    (hbody : body.Follows L.rules (Settles .streaming .stop) ⟨0, some .streaming⟩) :
    (do if ← Work.look view then body : Work σ Unit).Follows L.rules (Settles p .stop)
      ⟨0, some p⟩ := by
  have known (s : σ) (hsees : L.sees ⟨0, some p⟩ s) : view s = p.isStreaming := by
    obtain ⟨q, _, knows, hq, -⟩ := hsees
    obtain rfl : p = q := knows p rfl
    exact hview s hq
  refine Work.follows_knowing known ?_
  cases p with
  | closed | opened =>
    exact ⟨rfl, ⟨fun h => absurd h (not_isMisuse_ok ()), fun h => nomatch h⟩, fun _ _ => rfl⟩
  | streaming => exact hbody

/-- Of an operation without the lock only the standing it ends at matters. -/
theorem departs_of_stays {α : Type} {w : Work σ α}
    (hw : w.Follows L.rules (Work.Stays ⟨0, none⟩) ⟨0, none⟩) :
    (do let _ ← w : Work σ Unit).Follows L.rules Departs ⟨0, none⟩ :=
  Work.Follows.mono (fun _ _ h => h.1) (Work.Follows.andThen hw fun _ => Work.stays_return)

/-- Without other clients, too, a procedure ends where it promised, and the books balance. -/
theorem balance_run {α : Type} {Q : α → Standing → Prop} {w : Procedure σ α} {s s' : σ} {a : α}
    {p : Phase} {n m : Nat} (hw : w.Follows L.rules Q ⟨n, none⟩) (hp : L.phase p s)
    (hn : L.counts (p.refs + n + m) s) (hrun : w.run s = .finished a s') :
    ∃ n', Q a ⟨n', none⟩ ∧ L.phase p s' ∧ L.counts (p.refs + n' + m) s' := by
  induction w generalizing s n with
  | done b =>
    cases hrun
    exact ⟨n, hw, hp, hn⟩
  | step act next ih =>
    obtain ⟨k', hmay, hnext⟩ := hw s (sees_other hp hn)
    obtain ⟨n', rfl, hp', hn'⟩ := balance_other hmay hp hn
    exact ih _ hnext hp' hn' hrun
  | await ready next ih =>
    unfold Procedure.run at hrun
    split at hrun
    · exact ih hw hp hn hrun
    · cases hrun

/-! ## The whole crowd -/

/-- The standing of the client with the lock: it knows the phase, and follows the rules until its
operation ends as `Q` says. Without such a client there are no references of its own. -/
def Held (L : Ledger σ) (Q : Except EndpointError Unit → Standing → Prop) (p : Phase) :
    Option (Errand σ) → Nat → Prop
  | none, n => n = 0
  | some w, n => Work.Follows L.rules Q w ⟨n, some p⟩

/-- The clients without the lock have `t` references together. -/
def Shared (L : Ledger σ) : List (Errand σ) → Nat → Prop
  | [], t => t = 0
  | w :: ws, t => ∃ n m, t = n + m ∧ Work.Follows L.rules Departs w ⟨n, none⟩ ∧ L.Shared ws m

/-- The books of a crowd in some phase: everybody follows the rules, and the references of all add
up. -/
structure Kept (L : Ledger σ) (Q : Except EndpointError Unit → Standing → Prop) (p : Phase)
    (c : Crowd σ) : Prop where
  phase : L.phase p c.rig
  standings : ∃ n t, L.Held Q p c.holder n ∧ L.Shared c.others t ∧
    L.counts (p.refs + (n + (t + c.gates))) c.rig

/-- An operation that holds the lock ends with no reference, in whatever phase. -/
def Rests (_ : Except EndpointError Unit) (k : Standing) : Prop := ∃ p, k = ⟨0, some p⟩

/-- Any one of the clients without the lock can be picked out, with its own share. -/
theorem shared_pick {before after : List (Errand σ)} {w : Errand σ} {t : Nat} :
    L.Shared (before ++ w :: after) t ↔
      ∃ n m, t = n + m ∧ Work.Follows L.rules Departs w ⟨n, none⟩ ∧
        L.Shared (before ++ after) m := by
  induction before generalizing t with
  | nil => exact Iff.rfl
  | cons v vs ih =>
    constructor
    · intro h
      obtain ⟨i, j, rfl, hv, hrest⟩ := h
      obtain ⟨n, m, rfl, hw, hvs⟩ := ih.1 hrest
      exact ⟨n, i + m, by omega, hw, i, m, rfl, hv, hvs⟩
    · intro h
      obtain ⟨n, _, rfl, hw, i, m, rfl, hv, hvs⟩ := h
      exact ⟨i, n + m, by omega, hv, ih.2 ⟨n, m, rfl, hw, hvs⟩⟩

variable {Q : Except EndpointError Unit → Standing → Prop} {p : Phase} {c c' : Crowd σ}

/-- Less is promised of the operation with the lock. -/
theorem Kept.mono {Q' : Except EndpointError Unit → Standing → Prop} (hQ : ∀ a k, Q a k → Q' a k)
    (h : L.Kept Q p c) : L.Kept Q' p c := by
  obtain ⟨hp, n, t, hheld, hshared, hn⟩ := h
  refine ⟨hp, n, t, ?_, hshared, hn⟩
  cases hholder : c.holder with
  | none =>
    rw [hholder] at hheld
    exact hheld
  | some w =>
    rw [hholder] at hheld
    exact Work.Follows.mono hQ hheld

/-- The client with the lock moves. -/
theorem Kept.held {w w' : Errand σ} {s' : σ} (h : L.Kept Q p c) (holder : c.holder = some w)
    (step : w.Step c.rig w' s') :
    ∃ p', L.Kept Q p' { c with rig := s', holder := some w' } := by
  obtain ⟨hp, n, t, hheld, hshared, hn⟩ := h
  rw [holder] at hheld
  rw [← Nat.add_assoc] at hn
  obtain ⟨k', hmay, hw'⟩ := Procedure.Follows.step hheld (sees_holder hp hn) step
  obtain ⟨p', n', rfl, hp', hn'⟩ := balance_holder hmay hp hn
  rw [Nat.add_assoc] at hn'
  exact ⟨p', hp', n', t, hw', hshared, hn'⟩

/-- A client without the lock has some of the references that are counted. -/
theorem sees_part {i n t g : Nat} (hp : L.phase p c.rig)
    (hn : L.counts (p.refs + (n + (t + g))) c.rig) (hi : i ≤ t + g) : L.sees ⟨i, none⟩ c.rig := by
  have split : p.refs + (n + (t + g)) = p.refs + i + (n + (t + g - i)) := by omega
  rw [split] at hn
  exact sees_other hp hn

/-- What a move of such a client does to the count. -/
theorem balance_part {i n t g : Nat} {s' : σ} {k' : Standing} (hp : L.phase p c.rig)
    (hn : L.counts (p.refs + (n + (t + g))) c.rig) (hi : i ≤ t + g)
    (h : L.may ⟨i, none⟩ c.rig s' k') :
    ∃ i', k' = ⟨i', none⟩ ∧ L.phase p s' ∧ L.counts (p.refs + (n + (t + g - i + i'))) s' := by
  have split : p.refs + (n + (t + g)) = p.refs + i + (n + (t + g - i)) := by omega
  rw [split] at hn
  obtain ⟨i', rfl, hp', hn'⟩ := balance_other h hp hn
  have join : p.refs + i' + (n + (t + g - i)) = p.refs + (n + (t + g - i + i')) := by omega
  rw [join] at hn'
  exact ⟨i', rfl, hp', hn'⟩

variable [Served σ] {admits : Served.Op σ → Prop}

/-- A client gets the lock: from now on it knows the phase. -/
theorem Kept.lock (fits : L.Fits admits) {op : Served.Op σ} {t : Transition} (h : L.Kept Q p c)
    (free : c.holder = none) (transition : Served.transition op = some t) :
    L.Kept (Settles p t) p { c with holder := some (Served.work op).run } := by
  obtain ⟨hp, n, m, hheld, hshared, hn⟩ := h
  rw [free] at hheld
  obtain rfl : n = 0 := hheld
  exact ⟨hp, 0, m, fits.locking transition, hshared, hn⟩

omit [Served σ] in
/-- A client lets go of the lock, with no references left. -/
theorem Kept.unlock {a : Except EndpointError Unit} (h : L.Kept Q p c)
    (holder : c.holder = some (.done a)) (rests : ∀ a k, Q a k → Rests a k) :
    Q a ⟨0, some p⟩ ∧ ∀ Q', L.Kept Q' p { c with holder := none } := by
  obtain ⟨hp, n, m, hheld, hshared, hn⟩ := h
  rw [holder] at hheld
  obtain ⟨q, hq⟩ := rests a _ hheld
  cases hq
  exact ⟨hheld, fun _ => ⟨hp, 0, m, rfl, hshared, hn⟩⟩

/-- One step of anybody keeps the books, as long as the lock changes hands neither before nor after
it. Only the client with the lock changes the phase. -/
theorem Kept.step (fits : L.Fits admits) (h : L.Kept Q p c) (hstep : Crowd.Step admits c c')
    (same : c.holder = none ↔ c'.holder = none) :
    ∃ p', L.Kept Q p' c' ∧ (p' = p ∨ c.HolderMoves c') := by
  cases hstep with
  | lock free => cases same.1 free
  | unlock holder =>
    rw [same.2 rfl] at holder
    cases holder
  | held holder step =>
    obtain ⟨p', hkept⟩ := h.held holder step
    exact ⟨p', hkept, .inr ⟨_, _, holder, rfl, step⟩⟩
  | enter transition admitted =>
    obtain ⟨hp, n, t, hheld, hshared, hn⟩ := h
    have hnew := fits.free transition admitted
    exact ⟨p, ⟨hp, n, t, hheld, ⟨0, t, (Nat.zero_add t).symm, hnew, hshared⟩, hn⟩, .inl rfl⟩
  | other others step =>
    obtain ⟨hp, n, t, hheld, hshared, hn⟩ := h
    rw [others] at hshared
    -- The client's own references are split off the sum, and put back after its move.
    obtain ⟨i, m, rfl, hw, hrest⟩ := shared_pick.1 hshared
    obtain ⟨k', hmay, hw'⟩ := Procedure.Follows.step hw (sees_part hp hn (by omega)) step
    obtain ⟨i', rfl, hp', hn'⟩ := balance_part hp hn (by omega) hmay
    have join : i + m + c.gates - i + i' = i' + m + c.gates := by omega
    rw [join] at hn'
    exact ⟨p, ⟨hp', n, i' + m, hheld, shared_pick.2 ⟨i', m, rfl, hw', hrest⟩, hn'⟩, .inl rfl⟩
  | leave others =>
    obtain ⟨hp, n, t, hheld, hshared, hn⟩ := h
    rw [others] at hshared
    obtain ⟨i, m, rfl, hw, hrest⟩ := shared_pick.1 hshared
    -- A client who is done has departed, which leaves it without references.
    obtain rfl : i = 0 := congrArg Standing.refs hw
    rw [Nat.zero_add] at hn
    exact ⟨p, ⟨hp, n, m, hheld, hrest, hn⟩, .inl rfl⟩
  | take gate taken =>
    obtain ⟨hp, n, t, hheld, hshared, hn⟩ := h
    have hmay := fits.take gate (sees_part hp hn (Nat.zero_le _)) taken
    obtain ⟨i', hi', hp', hn'⟩ := balance_part hp hn (Nat.zero_le _) hmay
    cases hi'
    exact ⟨p, ⟨hp', n, t, hheld, hshared, hn'⟩, .inl rfl⟩
  | refused gate refused =>
    obtain ⟨hp, n, t, hheld, hshared, hn⟩ := h
    have hmay := fits.refused gate (sees_part hp hn (Nat.zero_le _)) refused
    obtain ⟨i', hi', hp', hn'⟩ := balance_part hp hn (Nat.zero_le _) hmay
    cases hi'
    exact ⟨p, ⟨hp', n, t, hheld, hshared, hn'⟩, .inl rfl⟩
  | @drop _ g gate gates =>
    obtain ⟨hp, n, t, hheld, hshared, hn⟩ := h
    rw [gates] at hn
    have hmay := fits.drop gate (sees_part hp hn (by omega))
    obtain ⟨i', hi', hp', hn'⟩ := balance_part hp hn (by omega) hmay
    cases hi'
    exact ⟨p, ⟨hp', n, t, hheld, hshared, hn'⟩, .inl rfl⟩
  | aside x =>
    obtain ⟨hp, n, t, hheld, hshared, hn⟩ := h
    exact ⟨p, ⟨fits.asidePhase x hp, n, t, hheld, hshared, fits.asideCount x hn⟩, .inl rfl⟩

/-- Every step keeps the books. -/
theorem Kept.next (fits : L.Fits admits) (h : L.Kept Rests p c) (hstep : Crowd.Step admits c c') :
    ∃ p', L.Kept Rests p' c' ∧ (p' = p ∨ c.HolderMoves c') := by
  -- Where the lock changes hands, so does the promise about its holder.
  by_cases hc : c.holder = none
  · by_cases hc' : c'.holder = none
    · exact h.step fits hstep ⟨fun _ => hc', fun _ => hc⟩
    · cases hstep with
      | lock free transition =>
        obtain ⟨t, ht⟩ := Option.isSome_iff_exists.1 transition
        have hlocked := h.lock fits free ht
        exact ⟨p, hlocked.mono fun _ _ hk => ⟨_, hk.1⟩, .inl rfl⟩
      | held holder => rw [hc] at holder; cases holder
      | unlock => exact absurd rfl hc'
      | _ => exact absurd hc hc'
  · by_cases hc' : c'.holder = none
    · cases hstep with
      | unlock holder => exact ⟨p, (h.unlock holder fun _ _ hk => hk).2 _, .inl rfl⟩
      | lock free => exact absurd free hc
      | held => cases hc'
      | _ => exact absurd hc' hc
    · exact h.step fits hstep ⟨fun h => absurd h hc, fun h => absurd h hc'⟩

/-- So the books balance wherever a crowd comes. -/
theorem kept_of_reaches (fits : L.Fits admits) (h : L.Kept Rests p c)
    (hreach : Crowd.Reaches admits c c') : ∃ p', L.Kept Rests p' c' := by
  induction hreach with
  | refl => exact ⟨p, h⟩
  | tail _ hstep ih =>
    obtain ⟨q, hq⟩ := ih
    obtain ⟨p', hp', -⟩ := hq.next fits hstep
    exact ⟨p', hp'⟩

/-- While a client has the lock, nobody else gets it. -/
theorem kept_of_reachesWhile (fits : L.Fits admits) (h : L.Kept Q p c)
    (hreach : Crowd.ReachesWhile (fun c => c.holder ≠ none) admits c c') :
    ∃ p', L.Kept Q p' c' := by
  induction hreach with
  | refl => exact ⟨p, h⟩
  | tail _ hstep ih =>
    obtain ⟨q, hq⟩ := ih
    obtain ⟨hstep, hc, hc'⟩ := hstep
    obtain ⟨p', hp', -⟩ := hq.step fits hstep ⟨fun h => absurd h hc, fun h => absurd h hc'⟩
    exact ⟨p', hp'⟩

/-- An operation that gets the lock answers what the machine says, and leaves the endpoint in the
phase that the machine says, whatever the other clients do meanwhile. -/
theorem kept_of_serves (fits : L.Fits admits) {op : Served.Op σ} {t : Transition}
    {a : Except EndpointError Unit} (h : L.Kept Rests p c)
    (transition : Served.transition op = some t) (hserves : Crowd.Serves admits op c a c') :
    L.Kept Rests (p.after t a.isOk) c' ∧ p.Answers t a := by
  have hlocked := h.lock fits hserves.free transition
  obtain ⟨q, hkept⟩ := kept_of_reachesWhile fits hlocked hserves.run
  obtain ⟨⟨hq, hanswers⟩, -⟩ := hkept.unlock hserves.answer fun _ _ hk => ⟨_, hk.1⟩
  cases hq
  exact ⟨hkept.mono fun _ _ hk => ⟨_, hk.1⟩, hanswers⟩

/-! ## Single moves -/

/-- What a step does to the endpoint: nothing, a move of a client at its standing, or an aside. -/
theorem Kept.rig_of_step (fits : L.Fits admits) (h : L.Kept Q p c)
    (hstep : Crowd.Step admits c c') :
    c'.rig = c.rig ∨ (∃ k k', L.sees k c.rig ∧ L.may k c.rig c'.rig k') ∨
      ∃ x, c'.rig = Served.aside x c.rig := by
  obtain ⟨hp, n, t, hheld, hshared, hn⟩ := h
  cases hstep with
  -- Beginnings and ends of operations are no steps of the endpoint.
  | lock | unlock | enter | leave => exact .inl rfl
  | aside x => exact .inr (.inr ⟨x, rfl⟩)
  | held holder step =>
    rw [holder] at hheld
    have hsees : L.sees ⟨n, some p⟩ c.rig := sees_holder hp (Nat.add_assoc .. ▸ hn)
    obtain ⟨k', hmay, -⟩ := Procedure.Follows.step hheld hsees step
    exact .inr (.inl ⟨_, k', hsees, hmay⟩)
  | other others step =>
    -- Whoever moves is one of those whose references are counted together.
    rw [others] at hshared
    obtain ⟨i, m, rfl, hw, -⟩ := shared_pick.1 hshared
    have hsees : L.sees ⟨i, none⟩ c.rig := sees_part hp hn (by omega)
    obtain ⟨k', hmay, -⟩ := Procedure.Follows.step hw hsees step
    exact .inr (.inl ⟨_, k', hsees, hmay⟩)
  | take gate taken =>
    have hsees : L.sees ⟨0, none⟩ c.rig := sees_part hp hn (Nat.zero_le _)
    exact .inr (.inl ⟨_, _, hsees, fits.take gate hsees taken⟩)
  | refused gate refused =>
    have hsees : L.sees ⟨0, none⟩ c.rig := sees_part hp hn (Nat.zero_le _)
    exact .inr (.inl ⟨_, _, hsees, fits.refused gate hsees refused⟩)
  | @drop _ g gate gates =>
    rw [gates] at hn
    have hsees : L.sees ⟨1, none⟩ c.rig := sees_part hp hn (by omega)
    exact .inr (.inl ⟨_, _, hsees, fits.drop gate hsees⟩)

/-- What moves and asides preserve while `P` holds of the endpoint, holds as long as `P` does. -/
theorem invariant_of_reachesWhile (fits : L.Fits admits) {P I : σ → Prop}
    (move : ∀ {k k' s s'}, L.sees k s → L.may k s s' k' → P s → P s' → I s → I s')
    (aside : ∀ x s, I s → I (Served.aside x s)) (h : L.Kept Rests p c) (initially : I c.rig)
    (hreach : Crowd.ReachesWhile (fun c => P c.rig) admits c c') : I c'.rig := by
  have both : I c'.rig ∧ ∃ q, L.Kept Rests q c' := by
    induction hreach with
    | refl => exact ⟨initially, p, h⟩
    | tail _ hstep ih =>
      obtain ⟨hI, q, hq⟩ := ih
      obtain ⟨hstep, before, after⟩ := hstep
      obtain ⟨q', hq', -⟩ := hq.next fits hstep
      refine ⟨?_, q', hq'⟩
      rcases hq.rig_of_step fits hstep with heq | ⟨k, k', hsees, hmay⟩ | ⟨x, heq⟩
      · rw [heq]
        exact hI
      · exact move hsees hmay before after hI
      · rw [heq]
        exact aside x _ hI
  exact both.1

/-- What all moves and asides preserve holds of the endpoint at all times. -/
theorem invariant_of_reaches (fits : L.Fits admits) {I : σ → Prop}
    (move : ∀ {k k' s s'}, L.sees k s → L.may k s s' k' → I s → I s')
    (aside : ∀ x s, I s → I (Served.aside x s)) (h : L.Kept Rests p c) (initially : I c.rig)
    (hreach : Crowd.Reaches admits c c') : I c'.rig :=
  invariant_of_reachesWhile (P := fun _ => True) fits
    (fun hsees hmay _ _ hI => move hsees hmay hI) aside h initially hreach.reachesWhile

end Ledger

end Sensing
