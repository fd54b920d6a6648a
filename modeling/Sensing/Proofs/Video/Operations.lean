import Sensing.Proofs.Video.Moves

/-!
# The operations of a video endpoint follow the rules

One theorem for each operation: each of its steps is a move that its client may make, and it ends
with every reference given back, except that opening and starting leave one to the endpoint. What
may fail is taken apart where it happens; each failure finds the references it has to give back
written in its client's standing.

Main result: `VideoRig.fits`, all that clients do is within the rules.
-/

namespace Sensing

/-- Whether the client's own references or the endpoint's are enough to keep the device powered. -/
def Standing.HasPower (k : Standing) : Prop :=
  0 < k.refs ∨ ∃ p, k.phase = some p ∧ 0 < p.refs

namespace VideoRig

open Work (Stays)

variable {allowed : VideoCall → Prop} {k : Standing} {n : Nat} {phase : Option Phase}

/-- Either kind of reference keeps the count above zero. -/
theorem users_pos {r : VideoRig} (h : (ledger allowed).sees k r) (power : k.HasPower) :
    0 < r.own.users := by
  obtain ⟨p, m, knows, -, users⟩ := h
  change r.own.users = p.refs + k.refs + m at users
  rcases power with refs | ⟨q, hq, refs⟩
  · omega
  · rw [knows q hq] at refs
    omega

/-! ## Single steps -/

theorem follows_quiet {f : VideoRig → VideoRig} (quiet : ∀ r, Quiet r (f r)) :
    (Procedure.change f).Follows (ledger allowed).rules (fun _ k' => k' = k) k :=
  Procedure.follows_change fun r _ => ⟨k, .quiet (quiet r), rfl⟩

/-- A calm change of the shared state is quiet. -/
theorem follows_calm {f : Core → Core} (calm : ∀ c : Core, c.Calm (f c)) :
    (Procedure.change (Rig.mapCore f) : Procedure VideoRig Unit).Follows (ledger allowed).rules
      (fun _ k' => k' = k) k :=
  follows_quiet fun r => Quiet.of_calm (calm r.core)

theorem follows_report {level : LogLevel} {message : String}
    (h : LogLine.mk level message ≠ strayRelease) :
    (Rig.report level message : Procedure VideoRig Unit).Follows (ledger allowed).rules
      (fun _ k' => k' = k) k :=
  follows_quiet fun _ => Quiet.of_note h

theorem stays_note {level : LogLevel} {message : String}
    (h : LogLine.mk level message ≠ strayRelease) :
    (Work.change (Rig.note level message) : Work VideoRig Unit).Follows (ledger allowed).rules
      (Stays k) k :=
  Work.stays_ofProcedure (follows_report h)

/-- A call is within the rules if somebody's reference keeps the device powered. -/
theorem follows_attempt {c : VideoCall} (permitted : allowed c) (power : k.HasPower) :
    (Rig.attempt c : Procedure VideoRig _).Follows (ledger allowed).rules
      (fun _ k' => k' = k) k :=
  Rig.follows_attempt fun _ hsees => ⟨k, .called permitted (users_pos hsees power), rfl⟩

theorem stays_request {c : VideoCall} (permitted : allowed c) (power : k.HasPower) :
    (Rig.request c : Work VideoRig _).Follows (ledger allowed).rules (Stays k) k :=
  Rig.stays_request fun _ hsees => .called permitted (users_pos hsees power)

/-- One more reference is in the client's hands, or it stands where it stood. -/
theorem follows_acquire :
    (Work.step acquire).Follows (ledger allowed).rules
      (fun a k' => (a = .ok () ∧ k' = ⟨n + 1, phase⟩) ∨ (∃ e, a = .error e) ∧ Stays ⟨n, phase⟩ a k')
      ⟨n, phase⟩ := by
  refine Work.follows_step fun r _ => ?_
  cases hr : (acquire r).1 with
  | ok u => exact ⟨_, .acquired hr, .inl ⟨rfl, rfl⟩⟩
  | error e =>
    refine ⟨_, .refused hr, .inr ⟨⟨e, rfl⟩, rfl, ?_⟩⟩
    intro misuse
    obtain ⟨detail, he⟩ := misuse
    obtain ⟨-, -, ⟨_, rfl⟩, -⟩ := acquire_error hr
    cases he

/-- Only a client that has a reference can give one back. -/
theorem follows_release :
    (Procedure.change release).Follows (ledger allowed).rules (fun _ k' => k' = ⟨n, phase⟩)
      ⟨n + 1, phase⟩ :=
  Procedure.follows_change fun _ _ => ⟨_, .released, rfl⟩

/-- Powered work gives its reference back, whether it fails or not. -/
theorem stays_powered {α : Type} {work : Work VideoRig α}
    (hw : work.Follows (ledger allowed).rules (Stays ⟨n + 1, phase⟩) ⟨n + 1, phase⟩) :
    (powered work).Follows (ledger allowed).rules (Stays ⟨n, phase⟩) ⟨n, phase⟩ := by
  refine Work.Follows.bind follows_acquire ?_ ?_
  · intro _ k hk
    rcases hk with ⟨-, rfl⟩ | ⟨⟨_, he⟩, -⟩
    · -- However the work ends, it ends with the reference it began with.
      refine Work.Follows.always hw ?_
      intro a k ha
      rw [ha.1]
      exact Procedure.Follows.mono (fun _ _ hk => ⟨hk, ha.2⟩) follows_release
    · cases he
  · intro e k hk
    rcases hk with ⟨he, -⟩ | ⟨-, hs⟩
    · cases he
    · exact hs.error

/-! ## Operations without the lock -/

/-- Nobody counts the cached modes. -/
theorem fill_modes (r : VideoRig) (modes : Once (List NativeMode)) :
    (ledger allowed).may k r { r with core := { r.core with modes } } k :=
  .quiet ⟨⟨rfl, rfl, rfl, id⟩, rfl, rfl⟩

theorem follows_action {action : VideoAction} (uses : action.Uses allowed) (power : k.HasPower) :
    action.procedure.Follows (ledger allowed).rules (fun _ k' => k' = k) k := by
  induction action with
  | done => exact Procedure.follows_pure rfl
  | look view next ih =>
    refine Procedure.follows_then (Procedure.follows_look fun _ _ => rfl) fun answer => ?_
    exact ih answer (uses answer)
  | call c next ih =>
    refine Procedure.follows_then (follows_attempt uses.1 power) fun reply => ?_
    exact ih reply (uses.2 reply)

/-- A question on behalf of a control is powered work like any other, if the endpoint is still
there. -/
theorem follows_forControl {α : Type} {id : ControlId} {work : Procedure VideoRig (Except Cause α)}
    (hw : work.Follows (ledger allowed).rules (fun _ k' => k' = ⟨n + 1, phase⟩) ⟨n + 1, phase⟩) :
    (forControl id work).Follows (ledger allowed).rules (fun _ k' => k' = ⟨n, phase⟩)
      ⟨n, phase⟩ := by
  refine Procedure.follows_then (Procedure.follows_look fun _ _ => rfl) fun alive => ?_
  cases alive with
  | false => exact Procedure.follows_pure rfl
  | true =>
    have works : (powered (Work.ofProcedure work)).run.Follows (ledger allowed).rules
        (fun _ k' => k' = ⟨n, phase⟩) ⟨n, phase⟩ :=
      Procedure.Follows.mono (fun _ _ h => h.1) (stays_powered (Work.stays_ofProcedure hw))
    refine Procedure.follows_then works fun result => ?_
    cases result <;> exact Procedure.follows_pure rfl

variable (free : ∀ c, VideoCall.managesPower c = false → allowed c)

include free

theorem stays_enumerate :
    enumerate.Follows (ledger allowed).rules (Stays ⟨n, phase⟩) ⟨n, phase⟩ := by
  have power : Standing.HasPower ⟨n + 1, phase⟩ := .inl (Nat.succ_pos n)
  refine stays_powered (Work.Follows.andThen (stays_request (free _ rfl) power) fun reported => ?_)
  refine Work.Follows.andThen (stays_note (ne_strayRelease (by decide) _)) fun _ => ?_
  exact Work.stays_return

theorem stays_modes : modes.Follows (ledger allowed).rules (Stays ⟨n, phase⟩) ⟨n, phase⟩ :=
  Rig.stays_modesBy (stays_enumerate free) fill_modes

theorem stays_resolve (requests : List StreamRequest) :
    (resolve requests).Follows (ledger allowed).rules (Stays ⟨n, phase⟩) ⟨n, phase⟩ :=
  Rig.stays_resolveBy (stays_enumerate free) fill_modes

theorem stays_principal :
    principal.Follows (ledger allowed).rules (Stays ⟨n, phase⟩) ⟨n, phase⟩ := by
  refine Work.Follows.andThen (stays_modes free) fun ms => ?_
  refine Work.Follows.andThen Work.stays_look fun formats => ?_
  refine Work.Follows.andThen (Work.stays_forIn (fun code _ => ?_) _) fun _ => Work.stays_return
  refine Work.Follows.andThen ?_ fun _ => Work.stays_return
  exact stays_note (((by decide : Unlike _)).append _ |>.ne _)

theorem follows_callProcessing (id : ControlId) (call : ControlCall) :
    (callProcessing id call).Follows (ledger allowed).rules (fun _ k' => k' = ⟨n, phase⟩)
      ⟨n, phase⟩ := by
  have power : Standing.HasPower ⟨n + 1, phase⟩ := .inl (Nat.succ_pos n)
  cases call with
  | query | set | range =>
    refine Procedure.follows_then (follows_forControl (follows_attempt (free _ rfl) power)) ?_
    intro result
    exact Procedure.follows_pure rfl
  | enabled | description => exact Procedure.follows_pure rfl

/-! ## Closing modes -/

theorem follows_rollBack (ms : List NativeMode) (power : k.HasPower) :
    (rollBack ms).Follows (ledger allowed).rules (fun _ k' => k' = k) k := by
  induction ms with
  | nil => exact Procedure.follows_pure rfl
  | cons m ms ih =>
    unfold rollBack
    refine Procedure.follows_then (follows_attempt (free _ rfl) power) fun closed => ?_
    cases closed with
    | ok _ => exact ih
    | error cause =>
      refine Procedure.follows_then (follows_report ?_) fun _ => ih
      exact (((by decide : Unlike _).append _).append _).append _ |>.ne _

theorem follows_closeAll (ms : List NativeMode) (power : k.HasPower) :
    (closeAll ms).Follows (ledger allowed).rules (fun _ k' => k' = k) k := by
  induction ms with
  | nil => exact Procedure.follows_pure rfl
  | cons m ms ih =>
    unfold closeAll
    refine Procedure.follows_then (follows_attempt (free _ rfl) power) fun closed => ?_
    cases closed with
    | ok _ => exact ih
    | error cause =>
      refine Procedure.follows_then (follows_report ?_) fun _ => ?_
      · exact (((by decide : Unlike _).append _).append _).append _ |>.ne _
      · exact Procedure.follows_then ih fun _ => Procedure.follows_pure rfl

theorem stays_commitAll (done ms : List NativeMode) (power : k.HasPower) :
    (commitAll done ms).Follows (ledger allowed).rules (Stays k) k := by
  induction ms generalizing done with
  | nil => exact Work.stays_return
  | cons m ms ih =>
    unfold commitAll
    refine Work.Follows.andThen ?_ fun _ => ih (m :: done)
    refine Work.Follows.onFailure (stays_request (free _ rfl) power) (fun _ _ h => h) ?_
    intro e k' he
    rw [he.1]
    exact Procedure.Follows.mono (fun _ _ hk => ⟨hk, he.2⟩) (follows_rollBack free done power)

/-! ## Operations with the lock -/

/-- Work that either turns the endpoint, which takes over its client's reference, or fails with the
client where it stood. -/
def Turns (p q : Phase) (a : Except EndpointError Unit) (k : Standing) : Prop :=
  (a = .ok () ∧ k = ⟨0, some q⟩) ∨ (∃ e, a = .error e) ∧ Stays ⟨1, some p⟩ a k

omit free in
/-- The endpoint moves on to another phase, and a reference may change hands with that. -/
theorem follows_turn {p q : Phase} {m : Nat} {f : VideoRig → VideoRig} (still : ∀ r, Still r (f r))
    (turn : ∀ r : VideoRig, r.core.InPhase p → (f r).core.InPhase q)
    (refs : p.refs + n = q.refs + m) :
    (Procedure.change f).Follows (ledger allowed).rules (fun _ k' => k' = ⟨m, some q⟩)
      ⟨n, some p⟩ :=
  Procedure.follows_change fun r _ => ⟨_, .turned (still r) (turn r) refs, rfl⟩

omit free in
/-- What comes before the turn leaves the client where it is, whether it fails or not. -/
theorem turns_after {α : Type} {p q : Phase} {w : Work VideoRig α} {f : α → Work VideoRig Unit}
    (hw : w.Follows (ledger allowed).rules (Stays ⟨1, some p⟩) ⟨1, some p⟩)
    (hf : ∀ a, (f a).Follows (ledger allowed).rules (Turns p q) ⟨1, some p⟩) :
    (w >>= f).Follows (ledger allowed).rules (Turns p q) ⟨1, some p⟩ := by
  refine Work.Follows.bind hw ?_ ?_
  · intro a k hk
    rw [hk.1]
    exact hf a
  · exact fun e k he => .inr ⟨⟨e, rfl⟩, he.error⟩

omit free in
/-- Opening and starting: a reference is taken for the endpoint, and given back if the rest of the
work fails. -/
theorem follows_turning {p q : Phase} {t : Transition} {body : Work VideoRig Unit}
    (admitted : p.refuses t = false) (success : p.after t true = q) (failure : p.after t false = p)
    (neverIdle : t ≠ .stop)
    (hbody : body.Follows (ledger allowed).rules (Turns p q) ⟨1, some p⟩) :
    (do Work.step acquire; Work.onFailure (.change release) body : Work VideoRig Unit).Follows
      (ledger allowed).rules (Ledger.Settles p t) ⟨0, some p⟩ := by
  refine Work.Follows.bind follows_acquire ?_ ?_
  · intro _ k hk
    rcases hk with ⟨-, rfl⟩ | ⟨⟨_, he⟩, -⟩
    -- From here on there is a reference to be given back on failure.
    · refine Work.Follows.onFailure hbody ?_ ?_
      · intro a k hk
        rcases hk with ⟨ha, rfl⟩ | ⟨⟨_, ha⟩, -⟩
        · -- The endpoint has taken the reference over.
          cases ha
          rw [← success]
          exact Ledger.settles_of_blameless admitted (not_isMisuse_ok ())
            fun h => absurd h neverIdle
        · cases ha
      · intro e k hk
        rcases hk with ⟨he, -⟩ | ⟨-, rfl, he⟩
        · cases he
        · refine Procedure.Follows.mono ?_ follows_release
          exact fun _ _ hk => Ledger.settles_of_failure admitted failure neverIdle ⟨hk, he⟩
    · cases he
  · intro e k hk
    rcases hk with ⟨he, -⟩ | ⟨-, he⟩
    · cases he
    · exact Ledger.settles_of_failure admitted failure neverIdle he

/-- The reference taken at first is the opened endpoint's in the end. -/
theorem follows_openStreams (requests : List StreamRequest) (p : Phase) :
    (openStreams requests).Follows (ledger allowed).rules (Ledger.Settles p .openStreams)
      ⟨0, some p⟩ := by
  refine Ledger.follows_guarded (fun r hp => Core.checkOpen_guards title hp.1) fun admitted => ?_
  cases p with
  | opened | streaming => cases admitted
  | closed =>
    have power : Standing.HasPower ⟨1, some .closed⟩ := .inl Nat.one_pos
    refine follows_turning rfl rfl rfl (by decide) ?_
    refine turns_after (stays_resolve free requests) fun routes => ?_
    refine turns_after (stays_commitAll free [] _ power) fun _ => ?_
    refine turns_after (stays_note (ne_strayRelease (by decide) _)) fun _ => ?_
    refine Work.follows_ofProcedure (Procedure.Follows.mono (fun _ _ h => .inl ⟨rfl, h⟩) ?_)
    exact follows_turn (fun r => ⟨rfl, rfl, rfl, id⟩) (fun r hp => ⟨rfl, hp.streaming⟩) rfl

theorem follows_start (c : Consumer) (p : Phase) :
    (start c).Follows (ledger allowed).rules (Ledger.Settles p .start) ⟨0, some p⟩ := by
  refine Ledger.follows_guarded (fun r hp => Core.checkStart_guards title hp.1) fun admitted => ?_
  cases p with
  | closed | streaming => cases admitted
  | opened =>
    have power : Standing.HasPower ⟨1, some .opened⟩ := .inl Nat.one_pos
    refine follows_turning rfl rfl rfl (by decide) ?_
    refine Work.follows_then (follows_calm fun core => Core.calm_engage core c) fun _ => ?_
    refine Work.follows_then (follows_quiet warnOfLayout_quiet) fun _ => ?_
    refine turns_after Work.stays_look fun streams => ?_
    refine turns_after (Work.Follows.onFailure (stays_request (free _ rfl) power)
      (fun _ _ h => h) ?_) fun _ => ?_
    · intro e k he
      rw [he.1]
      exact Procedure.Follows.mono (fun _ _ hk => ⟨hk, he.2⟩) (follows_calm Core.calm_dismiss)
    · refine Work.follows_then (follows_turn (fun r => ⟨rfl, rfl, rfl, id⟩)
        (fun r hp => ⟨hp.opened, rfl⟩) (q := .streaming) (m := 0) rfl) fun _ => ?_
      refine Work.follows_ofProcedure (Procedure.Follows.mono (fun _ _ h => .inl ⟨rfl, h⟩) ?_)
      exact follows_report (ne_strayRelease (by decide) _)

/-- Whatever the device complains of, the endpoint is closed and its reference given back. -/
theorem follows_close (p : Phase) :
    close.Follows (ledger allowed).rules (Ledger.Settles p .close) ⟨0, some p⟩ := by
  refine Ledger.follows_guarded (fun r hp => Core.checkClose_guards title hp.1) fun admitted => ?_
  cases p with
  | closed | streaming => cases admitted
  | opened =>
    have power : Standing.HasPower ⟨0, some .opened⟩ := .inr ⟨.opened, rfl, Nat.one_pos⟩
    have settles {a : Except EndpointError Unit} (ha : ¬ IsMisuse a) :
        Ledger.Settles .opened .close a ⟨0, some .closed⟩ :=
      Ledger.settles_of_blameless rfl ha fun h => nomatch h
    refine Work.follows_looking fun routes => ?_
    refine Work.follows_then (follows_closeAll free _ power) fun complaint => ?_
    refine Work.follows_then (follows_turn (fun r => ⟨rfl, rfl, rfl, id⟩)
      (fun r hp => ⟨rfl, hp.streaming⟩) (q := .closed) (m := 1) rfl) fun _ => ?_
    refine Work.follows_then follows_release fun _ => ?_
    refine Work.follows_then (follows_report (ne_strayRelease (by decide) _)) fun _ => ?_
    cases complaint with
    | none => exact settles (not_isMisuse_ok ())
    | some cause => exact settles (not_isMisuse_ofCause cause)

theorem follows_stop (p : Phase) :
    stop.Follows (ledger allowed).rules (Ledger.Settles p .stop) ⟨0, some p⟩ := by
  have power : Standing.HasPower ⟨0, some .streaming⟩ := .inr ⟨.streaming, rfl, Nat.two_pos⟩
  have settles {a : Except EndpointError Unit} (ha : ¬ IsMisuse a) :
      Ledger.Settles .streaming .stop a ⟨0, some .opened⟩ :=
    Ledger.settles_of_blameless rfl ha fun _ => rfl
  refine Ledger.follows_ifStreaming (fun r hp => hp.1.streaming) ?_
  refine Work.follows_then (follows_attempt (free _ rfl) power) fun result => ?_
  refine Work.follows_then (follows_turn (fun r => ⟨rfl, rfl, rfl, id⟩)
    (fun r hp => ⟨hp.opened, rfl⟩) (q := .opened) (m := 1) rfl) fun _ => ?_
  refine Work.follows_then (follows_calm Core.calm_dismiss) fun _ => ?_
  refine Work.follows_then Rig.follows_flush fun _ => ?_
  refine Work.follows_then follows_release fun _ => ?_
  refine Work.follows_then (follows_report (ne_strayRelease (by decide) _)) fun _ => ?_
  cases result with
  | ok _ => exact settles (not_isMisuse_ok ())
  | error cause => exact settles (not_isMisuse_ofCause cause)

/-! ## Everything that clients do -/

/-- Every operation, with the lock or without, keeps the books, and so does everything beside. -/
theorem fits {admits : VideoOp → Prop} (uses : ∀ op, admits op → op.Uses allowed) :
    (ledger allowed).Fits admits where
  locking := by
    intro op t p transition
    cases op <;> cases transition
    · exact follows_openStreams free _ p
    · exact follows_close free p
    · exact follows_start free _ p
    · exact follows_stop free p
  free := by
    intro op transition admitted
    cases op with
    | openStreams | close | start | stop => cases transition
    | modes => exact Ledger.departs_of_stays (stays_modes free)
    | principal => exact Ledger.departs_of_stays (stays_principal free)
    | resolve requests => exact Ledger.departs_of_stays (stays_resolve free requests)
    | flush => exact Work.Follows.mono (fun _ _ h => h.1) (Work.stays_ofProcedure Rig.follows_flush)
    | control id call =>
      exact Ledger.departs_of_stays (Work.stays_ofProcedure (follows_callProcessing free id call))
    | powered action =>
      have power : Standing.HasPower ⟨1, none⟩ := .inl Nat.one_pos
      exact Work.Follows.mono (fun _ _ h => h.1)
        (stays_powered (Work.stays_ofProcedure (follows_action (uses _ admitted) power)))
  take := by
    intro g r gate _ taken
    cases gate
    exact .acquired taken
  refused := by
    intro g r e gate _ refused
    cases gate
    exact .refused refused
  drop := by
    intro g r gate _
    cases gate
    exact .released
  -- The books are also kept while nobody does anything but time passes and images arrive.
  asidePhase := by
    intro p r x hphase
    obtain ⟨hp, alive⟩ := hphase
    have h := aside_beside x r
    exact ⟨h.core.inPhase hp, h.core.alive.trans alive⟩
  asideCount := by
    intro n r x users
    exact (aside_beside x r).users.trans users

omit free

/-- The books where applications may make any call. -/
theorem fits_anything : (ledger fun _ => True).Fits fun _ : VideoOp => True :=
  fits (fun _ _ => trivial) fun op _ => op.uses_anything

/-- The books where they let the power alone. -/
theorem fits_sparing : (ledger fun c => c.setsPower = false).Fits VideoOp.SparesPower :=
  fits (fun c hc => c.setsPower_of_unmanaged hc) fun _ hop => hop

/-- The books where they let its extension units alone, too. -/
theorem fits_unmanaged : (ledger fun c => c.managesPower = false).Fits VideoOp.SparesUnits :=
  fits (fun _ hc => hc) fun _ hop => hop

end VideoRig

end Sensing
