import Sensing.Proofs.Motion.Operations
import Sensing.Proofs.Video.Power

/-!
# A failed opening undoes itself

Opening takes a reference, asks for the modes where they are not cached, routes the requests and
commits the modes one by one. Wherever it fails, it gives the reference back and closes what it has
committed, the last one first, so that all it leaves behind is the cache of modes and the log.

The argument follows the operation of a single client step by step. `Along` is the invariant: how a
rig amid an opening differs from the rig before it, by the references it holds and the modes it has
committed so far. A motion endpoint calls no device to open, so there is less to say about it.

Main result: `failed_open_undone`, for every state that any number of clients can lead to, under
every fault schedule in which a failing call takes no effect, and closing and powering down work.
-/

namespace Sensing

namespace Core

/-- Nothing differs but the log and the cached modes, and those only if they were not cached. -/
structure SameButCache (c c' : Core) : Prop where
  rest : { c' with log := c.log, modes := c.modes } = c
  modes : c'.modes = c.modes ∨ c.modes.value = none

variable {c c₁ c₂ : Core}

theorem SameButCache.refl (c : Core) : c.SameButCache c := ⟨rfl, .inl rfl⟩

/-- The log may differ. -/
theorem SameButCache.note (h : c.SameButCache c₁) (level : LogLevel) (message : String) :
    c.SameButCache (c₁.note level message) := ⟨h.rest, h.modes⟩

/-- The cache is filled where it was found empty. -/
theorem SameButCache.fill (h₁ : c.SameButCache c₁) (empty : c₁.modes.value = none)
    (h₂ : c.SameButCache c₂) (modes : Once (List NativeMode)) :
    c.SameButCache { c₂ with modes } := by
  refine ⟨h₂.rest, .inr ?_⟩
  rcases h₁.modes with same | empty₀
  · rw [← same]
    exact empty
  · exact empty₀

/-- Whether the endpoint is there is not a matter of cache and log. -/
theorem SameButCache.alive (h : c.SameButCache c₁) : c₁.alive = c.alive := by
  have same := congrArg Core.alive h.rest
  exact same

end Core

namespace Rig

variable {ε δ κ : Type} {P : Rig ε δ κ → Prop} {enumerate : Work (Rig ε δ κ) (List NativeMode)}

/-- Resolving requests preserves what enumerating the modes and filling the cache preserve. -/
theorem alone_resolveBy
    (he : ∀ r, P r → enumerate.Follows (Rules.alone _) (fun _ r' => P r') r)
    (fill : ∀ r r₁ modes, P r → r.core.modes.value = none → P r₁ →
      P { r₁ with core := { r₁.core with modes } })
    (requests : List StreamRequest) {r : Rig ε δ κ} (hr : P r) :
    (resolveBy enumerate requests).Follows (Rules.alone _) (fun _ r' => P r') r := by
  have hmodes : (modesBy enumerate).Follows (Rules.alone _) (fun _ r' => P r') r := by
    have look : (Work.look fun r : Rig ε δ κ => r.core.modes.value).Follows (Rules.alone _)
        (fun a r' => a = .ok r.core.modes.value ∧ r' = r) r := by
      refine Work.follows_look fun r' hr' => ?_
      obtain rfl : r' = r := hr'
      exact ⟨rfl, rfl⟩
    refine Work.Follows.bind look ?_ ?_
    · intro cached r' h
      obtain ⟨hcached, rfl⟩ := h
      cases hcached
      cases hvalue : r'.core.modes.value with
      | some modes => exact Work.follows_pure hr
      | none =>
        -- The cache is filled only after it was found empty.
        refine Work.Follows.bind (he r' hr) ?_ fun _ _ h => h
        intro modes r₁ hr₁
        exact Work.alone_step (fill r' r₁ _ hr hvalue hr₁)
    · intro e r' h
      cases h.1
  refine Work.Follows.bind hmodes ?_ fun _ _ h => h
  intro modes r₁ hr₁
  exact Work.alone_check hr₁

end Rig

/-! ## Motion endpoints -/

namespace MotionRig

/-- All that a failed opening of a motion endpoint leaves behind is the cache and the log. -/
structure Undone (r r' : MotionRig) : Prop where
  core : r.core.SameButCache r'.core
  own : r'.own = r.own
  machine : r'.machine = r.machine

/-- An opening that fails leaves the motion endpoint as it was, but for the cache and the log. -/
theorem undone_of_failed_open {r r' : MotionRig} {requests : List StreamRequest}
    {e : EndpointError} (h : (openStreams requests).run.run r = .finished (.error e) r') :
    Undone r r' := by
  have resolves : (resolve requests).Follows (Rules.alone _) (fun _ r' => Undone r r') r := by
    refine Rig.alone_resolveBy ?_ ?_ requests ⟨.refl r.core, rfl, rfl⟩
    · intro r₁ h₁
      refine Work.follows_look fun r₂ hr₂ => ?_
      obtain rfl : r₂ = r₁ := hr₂
      exact h₁
    · intro r₁ r₂ modes h₁ empty h₂
      exact ⟨h₁.core.fill empty h₂.core modes, h₂.own, h₂.machine⟩
  have fails : (openStreams requests).Follows (Rules.alone _)
      (fun a r' => ∀ e, a = .error e → Undone r r') r := by
    have check : (Work.check fun r : MotionRig => r.core.checkOpen title).Follows (Rules.alone _)
        (fun _ r' => r' = r) r := Work.alone_check rfl
    refine Work.Follows.bind check ?_ ?_
    · intro _ r₁ hr₁
      obtain rfl : r₁ = r := hr₁
      refine Work.Follows.bind resolves ?_ fun e r₂ hr₂ _ _ => hr₂
      intro routes r₂ hr₂
      have rates : (Work.check fun r : MotionRig =>
          ratesFor r.own.sensors r.own.frequency routes).Follows (Rules.alone _)
          (fun _ r' => Undone r₁ r') r₂ := Work.alone_check hr₂
      refine Work.Follows.bind rates ?_ fun e r₃ hr₃ _ _ => hr₃
      intro rates r₃ hr₃
      -- What is left cannot fail.
      refine Work.follows_then Procedure.alone_change fun _ => ?_
      refine Work.follows_ofProcedure (Procedure.Follows.mono ?_ Procedure.alone_change)
      intro _ _ _ e he
      cases he
    · intro e r₁ hr₁ _ _
      obtain rfl : r₁ = r := hr₁
      exact ⟨.refl r₁.core, rfl, rfl⟩
  exact Procedure.Follows.finished fails h e rfl

end MotionRig

/-! ## Video endpoints -/

/-- A video device without what opening has to do with: its power, its events, the number of times
it was asked for its modes, and the modes committed. -/
def VideoDevice.remainder (d : VideoDevice) : VideoDevice :=
  { d with power := .d3, events := [], enumerations := 0, committed := [] }

namespace VideoRig

/-- How a rig amid an opening differs from the rig `r` before it: there are so many users, the
device has this power, it has committed the modes `ms` in addition, and the events that concern
modes went on with `es`. -/
structure Along (r : VideoRig) (users : Nat) (power : PowerState) (ms : List NativeMode)
    (es : List VideoEvent) (r' : VideoRig) : Prop where
  core : r.core.SameButCache r'.core
  own : r'.own = { r.own with users }
  plan : r'.machine.plan = r.machine.plan
  journal : r.machine.journal.length ≤ r'.machine.journal.length
  power : r'.machine.device.power = power
  remainder : r'.machine.device.remainder = r.machine.device.remainder
  committed : r'.machine.device.committed.Perm (r.machine.device.committed ++ ms)
  events : r'.machine.device.events.filter VideoEvent.isOfMode =
    r.machine.device.events.filter VideoEvent.isOfMode ++ es

variable {r r₁ r₂ : VideoRig} {users : Nat} {power : PowerState} {ms : List NativeMode}
  {es : List VideoEvent}

/-- At the beginning nothing differs. -/
theorem Along.refl (r : VideoRig) :
    Along r r.own.users r.machine.device.power [] [] r where
  core := .refl r.core
  own := rfl
  plan := rfl
  journal := Nat.le_refl _
  power := rfl
  remainder := rfl
  committed := by rw [List.append_nil]
  events := by rw [List.append_nil]

/-- A line in the log makes no difference. -/
theorem Along.note (h : Along r users power ms es r₁) (level : LogLevel) (message : String) :
    Along r users power ms es (r₁.note level message) :=
  { h with core := h.core.note level message }

/-- The number of users is set. -/
theorem Along.withUsers (h : Along r users power ms es r₁) (n : Nat) :
    Along r n power ms es (r₁.withUsers n) := by
  refine { h with own := ?_ }
  show { r₁.own with users := n } = _
  rw [h.own]

/-- Powering up and down in between leaves all but the power as it is. -/
theorem Along.steady (h : Along r users power ms es r₁) (h' : r₁.Steady r₂) :
    Along r users r₂.machine.device.power ms es r₂ where
  core := by
    obtain ⟨ls, -, hcore⟩ := h'.core
    rw [hcore]
    exact ⟨h.core.rest, h.core.modes⟩
  own := h'.own.trans h.own
  plan := h'.plan.trans h.plan
  journal := by
    obtain ⟨calls, hjournal, -⟩ := h'.journal
    have hjournal₁ := h.journal
    rw [hjournal, List.length_append]
    omega
  power := rfl
  remainder := by
    rw [h'.device]
    exact h.remainder
  committed := by
    rw [h'.device]
    exact h.committed
  -- Events of the power are not events of modes.
  events := by
    obtain ⟨new, hevents, hnew⟩ := h'.events
    have none : new.filter VideoEvent.isOfMode = [] := by
      rw [List.filter_eq_nil_iff]
      intro e he
      rw [hnew e he]
      exact Bool.false_ne_true
    rw [hevents, List.filter_append, none, List.append_nil]
    exact h.events

/-- A call in between, by what it does to the device. -/
theorem Along.call (h : Along r users power ms es r₁) {c : VideoCall} {d : VideoDevice}
    {ms' : List NativeMode} {es' : List VideoEvent}
    (device : (r₁.call c).2.machine.device = d) (on : d.power = r₁.machine.device.power)
    (remainder : d.remainder = r₁.machine.device.remainder)
    (committed : d.committed.Perm (r.machine.device.committed ++ ms'))
    (events : d.events.filter VideoEvent.isOfMode =
      r.machine.device.events.filter VideoEvent.isOfMode ++ es') :
    Along r users power ms' es' (r₁.call c).2 where
  core := h.core
  own := h.own
  plan := (Machine.call_plan r₁.machine c).trans h.plan
  journal := by
    rw [Rig.call_machine, Machine.call_journal, List.length_cons]
    exact Nat.le_succ_of_le h.journal
  power := by
    rw [device, on]
    exact h.power
  remainder := by
    rw [device, remainder]
    exact h.remainder
  committed := by
    rw [device]
    exact committed
  events := by
    rw [device]
    exact events

/-! ### References and modes -/

/-- An endpoint that was there is there amid an opening. -/
theorem Along.alive (h : Along r users power ms es r₁) (alive : r.core.alive = true) :
    r₁.core.alive = true := h.core.alive.trans alive

/-- A reference beside others is taken without any call. -/
theorem Along.acquire (h : Along r (users + 1) power ms es r₁) :
    acquire r₁ = (.ok (), addUser r₁) ∧ Along r (users + 2) power ms es (addUser r₁) := by
  have husers : r₁.own.users = users + 1 := by rw [h.own]
  rcases acquire_cases r₁ with ⟨-, hr⟩ | ⟨none, -⟩ | ⟨none, -⟩
  · have hadd : addUser r₁ = r₁.withUsers (users + 2) := by
      unfold addUser VideoRig.withUsers
      rw [husers]
    refine ⟨hr, ?_⟩
    rw [hadd]
    exact h.withUsers (users + 2)
  · omega
  · omega

/-- And given back without any. -/
theorem Along.release (h : Along r (users + 2) power ms es r₁) (alive : r.core.alive = true) :
    Along r (users + 1) power ms es (release r₁) := by
  have husers : r₁.own.users = users + 1 + 1 := by rw [h.own]
  rcases release_cases (h.alive alive) husers with ⟨-, hr⟩ | ⟨none, -⟩
  · rw [hr]
    exact h.withUsers (users + 1)
  · omega

/-- A question for the modes makes no difference that counts. -/
theorem Along.enumerated (h : Along r users power ms es r₁) :
    Along r users power ms es (r₁.call .enumerate).2 := by
  rcases Machine.call_device r₁.machine VideoCall.enumerate with hd | hd
  · exact h.call hd rfl rfl h.committed h.events
  · have hd' : (r₁.call VideoCall.enumerate).2.machine.device =
        { r₁.machine.device with enumerations := r₁.machine.device.enumerations + 1 } :=
      hd.trans VideoDevice.perform_enumerate
    exact h.call hd' rfl rfl h.committed h.events

/-- Committing a mode commits it, or changes nothing where no failing call takes effect. -/
theorem Along.commit (h : Along r users power ms es r₁) (late : r.machine.plan.NeverLate)
    (m : NativeMode) :
    (∀ a, (r₁.call (.commit m)).1 = .ok a →
      Along r users power (ms ++ [m]) (es ++ [.committed m]) (r₁.call (.commit m)).2) ∧
    ∀ cause, (r₁.call (.commit m)).1 = .error cause →
      Along r users power ms es (r₁.call (.commit m)).2 := by
  refine ⟨?_, ?_⟩
  · intro a ha
    refine h.call (Machine.call_granted ha) rfl rfl ?_ ?_
    · rw [← List.append_assoc]
      exact h.committed.append_right [m]
    · show (r₁.machine.device.events ++ [VideoEvent.committed m]).filter (·.isOfMode) = _
      rw [List.filter_append, h.events, ← List.append_assoc]
      rfl
  · intro cause hcause
    rw [← h.plan] at late
    rcases Machine.call_of_early (late.early (.commit m)) (fun h => nomatch h) with
      ⟨_, ok, -⟩ | ⟨_, -, same⟩
    · cases hcause.symm.trans ok
    · exact h.call same rfl rfl h.committed h.events

/-- Closing works from the time of `r` on. -/
def ClosingWorks (r : VideoRig) : Prop :=
  ∀ n, r.machine.journal.length ≤ n → ∀ m, r.machine.plan n (.close m) = none

/-- The mode committed last is closed again. -/
theorem Along.close {m : NativeMode} (h : Along r users power (ms ++ [m]) es r₁)
    (works : ClosingWorks r) :
    (r₁.call (.close m)).1 = .ok () ∧
      Along r users power ms (es ++ [.closed m]) (r₁.call (.close m)).2 := by
  have committed : r₁.machine.device.committed.Perm (m :: (r.machine.device.committed ++ ms)) := by
    refine h.committed.trans ?_
    rw [← List.append_assoc]
    exact List.perm_append_singleton m _
  have performs := VideoDevice.perform_close (committed.symm.subset (List.mem_cons_self ..))
  have sound : r₁.machine.plan r₁.machine.journal.length (.close m) = none := by
    rw [h.plan]
    exact works _ h.journal m
  obtain ⟨hreply, hd⟩ := Machine.call_of_sound sound
  refine ⟨hreply.trans (congrArg Prod.fst performs), ?_⟩
  refine h.call (hd.trans (congrArg Prod.snd performs)) rfl rfl ?_ ?_
  · have erased := committed.erase m
    rw [List.erase_cons_head] at erased
    exact erased
  · show (r₁.machine.device.events ++ [VideoEvent.closed m]).filter (·.isOfMode) = _
    rw [List.filter_append, h.events, ← List.append_assoc]
    rfl

/-! ### The parts of an opening -/

/-- Enumerating the modes takes a reference beside that of the opening, and gives it back. -/
theorem alone_enumerate (h : Along r (users + 1) power ms es r₁) (alive : r.core.alive = true) :
    enumerate.Follows (Rules.alone VideoRig)
      (fun _ r' => Along r (users + 1) power ms es r') r₁ := by
  obtain ⟨hacquire, hadded⟩ := h.acquire
  have acquires : (Work.step VideoRig.acquire).Follows (Rules.alone VideoRig)
      (fun a r' => a = .ok () ∧ Along r (users + 2) power ms es r') r₁ := by
    refine Work.alone_step ?_
    rw [hacquire]
    exact ⟨rfl, hadded⟩
  -- The reference is there, so the device is asked; whatever it answers the reference goes back.
  refine Work.Follows.bind acquires ?_ ?_
  · intro _ r₂ hr₂
    have requests : (Rig.request VideoCall.enumerate).Follows (Rules.alone VideoRig)
        (fun _ r' => Along r (users + 2) power ms es r') r₂ :=
      Rig.alone_request hr₂.2.enumerated
    refine Work.Follows.always (P := fun _ r' => Along r (users + 2) power ms es r') ?_ ?_
    · refine Work.Follows.bind requests ?_ fun _ _ h => h
      intro reported r₃ hr₃
      refine Work.follows_then Procedure.alone_change fun _ => Work.follows_pure ?_
      exact hr₃.note .info _
    · intro _ r₃ hr₃
      refine Procedure.Follows.mono ?_ Procedure.alone_change
      intro _ r₄ hr₄
      rw [hr₄]
      exact hr₃.release alive
  · intro e r₂ hr₂
    cases hr₂.1

/-- So does resolving the requests, which enumerates at most. -/
theorem alone_resolve (h : Along r (users + 1) power ms es r₁) (alive : r.core.alive = true)
    (requests : List StreamRequest) :
    (resolve requests).Follows (Rules.alone VideoRig)
      (fun _ r' => Along r (users + 1) power ms es r') r₁ := by
  refine Rig.alone_resolveBy (fun r₂ hr₂ => alone_enumerate hr₂ alive) ?_ requests h
  intro r₂ r₃ modes h₂ empty h₃
  exact { h₃ with core := h₂.core.fill empty h₃.core modes }

/-- Rolling back closes what was committed, in the order of the list. -/
theorem alone_rollBack {done : List NativeMode} (h : Along r users power done.reverse es r₁)
    (works : ClosingWorks r) :
    (rollBack done).Follows (Rules.alone VideoRig)
      (fun _ r' => Along r users power [] (es ++ done.map .closed) r') r₁ := by
  induction done generalizing es r₁ with
  | nil =>
    rw [List.map_nil, List.append_nil]
    exact Procedure.follows_pure h
  | cons m done ih =>
    -- The head is the mode committed last.
    rw [List.reverse_cons] at h
    obtain ⟨hreply, hclosed⟩ := h.close works
    have closes : (Rig.attempt (VideoCall.close m)).Follows (Rules.alone VideoRig)
        (fun a r' => a = .ok () ∧ Along r users power done.reverse (es ++ [.closed m]) r') r₁ :=
      Rig.alone_attempt ⟨hreply, hclosed⟩
    refine Procedure.Follows.bind closes ?_
    intro a r₂ hr₂
    obtain ⟨rfl, hr₂⟩ := hr₂
    have rest := ih hr₂
    rw [List.append_assoc] at rest
    exact rest

/-- The events of committing modes and of closing them again, the last one first. -/
def undoing (made : List NativeMode) : List VideoEvent :=
  made.map .committed ++ made.reverse.map .closed

/-- Where committing fails, all that was committed is closed again. -/
theorem alone_commitAll {done : List NativeMode} (todo : List NativeMode)
    (h : Along r users power done.reverse (done.reverse.map .committed) r₁)
    (late : r.machine.plan.NeverLate) (works : ClosingWorks r) :
    (commitAll done todo).Follows (Rules.alone VideoRig)
      (fun a r' => ∀ e, a = .error e → ∃ made, Along r users power [] (undoing made) r') r₁ := by
  induction todo generalizing done r₁ with
  | nil =>
    refine Work.follows_pure ?_
    intro e he
    cases he
  | cons m todo ih =>
    obtain ⟨hok, herror⟩ := h.commit late m
    have commits : (Rig.request (VideoCall.commit m)).Follows (Rules.alone VideoRig)
        (fun a r' => (∀ u, a = .ok u →
            Along r users power (m :: done).reverse ((m :: done).reverse.map .committed) r') ∧
          ∀ e, a = .error e →
            Along r users power done.reverse (done.reverse.map .committed) r') r₁ := by
      refine Rig.alone_request ?_
      cases hreply : (r₁.call (.commit m)).1 with
      | ok a =>
        refine ⟨fun _ _ => ?_, fun e he => nomatch he⟩
        rw [List.reverse_cons, List.map_append]
        exact hok a hreply
      | error cause => exact ⟨fun u hu => (nomatch hu), fun _ _ => herror cause hreply⟩
    have guarded : (Work.onFailure (rollBack done) (Rig.request (VideoCall.commit m))).Follows
        (Rules.alone VideoRig)
        (fun a r' => (∀ u, a = .ok u →
            Along r users power (m :: done).reverse ((m :: done).reverse.map .committed) r') ∧
          ∀ e, a = .error e → Along r users power [] (undoing done.reverse) r') r₁ := by
      refine Work.Follows.onFailure commits ?_ ?_
      · intro u r₂ hr₂
        refine ⟨hr₂.1, ?_⟩
        intro e he
        cases he
      · intro e r₂ hr₂
        -- The failing commit took no effect, so `done` is all there is to close.
        refine Procedure.Follows.mono ?_ (alone_rollBack (hr₂.2 e rfl) works)
        intro _ r₃ hr₃
        refine ⟨fun u hu => (nomatch hu), fun _ _ => ?_⟩
        unfold undoing
        rw [List.reverse_reverse]
        exact hr₃
    refine Work.Follows.bind guarded ?_ ?_
    · intro u r₂ hr₂
      exact ih (hr₂.1 u rfl)
    · intro e r₂ hr₂ _ _
      exact ⟨done.reverse, hr₂.2 e rfl⟩

/-! ### The whole -/

/-- All that a failed opening of a video endpoint leaves behind is the cache and the log: what it
committed it has closed again, the last one first. -/
structure Undone (r r' : VideoRig) : Prop where
  core : r.core.SameButCache r'.core
  own : r'.own = r.own
  power : r'.machine.device.power = r.machine.device.power
  remainder : r'.machine.device.remainder = r.machine.device.remainder
  committed : r'.machine.device.committed.Perm r.machine.device.committed
  events : ∃ made, r'.machine.device.events.filter VideoEvent.isOfMode =
    r.machine.device.events.filter VideoEvent.isOfMode ++ undoing made

/-- What was committed and closed again is undone. -/
theorem Along.undone {made : List NativeMode}
    (h : Along r r.own.users r.machine.device.power [] (undoing made) r₁) : Undone r r₁ where
  core := h.core
  own := h.own
  power := h.power
  remainder := h.remainder
  committed := by
    have committed := h.committed
    rw [List.append_nil] at committed
    exact committed
  events := ⟨made, h.events⟩

/-- The reference of an opening keeps the power as it is, unless it is the first. -/
theorem alone_acquire (off : Off r) :
    (Work.step acquire).Follows (Rules.alone VideoRig)
      (fun a r' =>
        (∀ u, a = .ok u → ∃ power, (0 < r.own.users → power = r.machine.device.power) ∧
          Along r (r.own.users + 1) power [] [] r') ∧
        ∀ e, a = .error e → Along r r.own.users r.machine.device.power [] [] r') r := by
  refine Work.alone_step ⟨?_, ?_⟩
  · intro u ok
    obtain ⟨r₁, hr, hsteady, hsame, -⟩ := acquire_ok ok
    refine ⟨r₁.machine.device.power, fun some => by rw [hsame some], ?_⟩
    have hadd : addUser r₁ = r₁.withUsers (r.own.users + 1) := by
      unfold addUser withUsers
      rw [hsteady.own]
    rw [hr, hadd]
    exact ((Along.refl r).steady hsteady).withUsers (r.own.users + 1)
  · intro e error
    obtain ⟨none, hsteady, -, hoff⟩ := acquire_error error
    have hfailed := (Along.refl r).steady hsteady
    rw [hoff off.forgiving (off.power none), ← off.power none] at hfailed
    exact hfailed

/-- Giving the reference back restores the power. -/
theorem Along.backOut (h : Along r (r.own.users + 1) power [] es r₁) (off : Off r)
    (alive : r.core.alive = true) (same : 0 < r.own.users → power = r.machine.device.power) :
    Along r r.own.users r.machine.device.power [] es (VideoRig.release r₁) := by
  have husers : r₁.own.users = r.own.users + 1 := by rw [h.own]
  rcases release_cases (h.alive alive) husers with ⟨some, hr⟩ | ⟨none, hsteady, hoff⟩
  · rw [hr, ← same some]
    exact h.withUsers r.own.users
  · have spared : r₁.machine.plan.Spares (.setPower .d3) := by
      rw [h.plan]
      exact off.forgiving.powerOff
    have hdown := (h.withUsers 0).steady hsteady
    rw [hoff spared] at hdown
    rw [none, off.power none]
    exact hdown

/-- The operation as a whole, part by part. -/
theorem undone_of_failed_open {r' : VideoRig} {requests : List StreamRequest} {e : EndpointError}
    (off : Off r) (alive : r.core.alive = true) (works : ClosingWorks r)
    (h : (openStreams requests).run.run r = .finished (.error e) r') : Undone r r' := by
  have late := off.forgiving.late
  have fails : (openStreams requests).Follows (Rules.alone VideoRig)
      (fun a r' => ∀ e, a = .error e → Undone r r') r := by
    have check : (Work.check fun r : VideoRig => r.core.checkOpen title).Follows
        (Rules.alone VideoRig) (fun _ r' => r' = r) r := Work.alone_check rfl
    refine Work.Follows.bind check ?_ ?_
    · intro _ r₁ hr₁
      obtain rfl : r₁ = r := hr₁
      refine Work.Follows.bind (alone_acquire off) ?_ ?_
      · intro u r₂ hr₂
        obtain ⟨power, same, hamid⟩ := hr₂.1 u rfl
        -- Wherever the guarded part fails, what it committed has already been closed.
        refine Work.Follows.onFailure (P := fun a r' => ∀ e, a = .error e →
          ∃ made, Along r₁ (r₁.own.users + 1) power [] (undoing made) r') ?_ ?_ ?_
        · refine Work.Follows.bind (alone_resolve hamid alive requests) ?_ ?_
          · intro routes r₃ hr₃
            refine Work.Follows.bind (alone_commitAll (routedModes routes) hr₃ late works) ?_ ?_
            · intro _ r₄ _
              refine Work.follows_then Procedure.alone_change fun _ => ?_
              refine Work.follows_ofProcedure (Procedure.Follows.mono ?_ Procedure.alone_change)
              intro _ _ _ e he
              cases he
            · intro e r₄ hr₄ _ _
              exact hr₄ e rfl
          · intro e r₃ hr₃ _ _
            exact ⟨[], hr₃⟩
        · intro _ _ _ e he
          cases he
        · intro e r₃ hr₃
          obtain ⟨made, hundoing⟩ := hr₃ e rfl
          refine Procedure.Follows.mono ?_ Procedure.alone_change
          intro _ r₄ hr₄ _ _
          obtain rfl : r₄ = release r₃ := hr₄
          exact (hundoing.backOut off alive same).undone
      · intro e r₂ hr₂ _ _
        have hfailed : Along r₁ r₁.own.users r₁.machine.device.power [] (undoing []) r₂ :=
          hr₂.2 e rfl
        exact hfailed.undone
    · intro e r₁ hr₁ _ _
      obtain rfl : r₁ = r := hr₁
      have unchanged : Along r₁ r₁.own.users r₁.machine.device.power [] (undoing []) r₁ :=
        Along.refl r₁
      exact unchanged.undone
  exact Procedure.Follows.finished fails h e rfl

/-- In every state that clients can lead to, the device is off without users and the endpoint is
there. -/
theorem off_of_reaches {capacity limit : Nat} {layout : ClockLayout} {offered : List NativeMode}
    {automatic : Bool} {plan : FaultPlan VideoCall} (forgiving : Forgiving plan)
    {c : Crowd VideoRig}
    (h : Crowd.Reaches (fun _ => True)
      (unattended capacity limit layout { offered, automatic } plan) c) :
    Off c.rig ∧ c.rig.core.alive = true := by
  have start := kept_unattended capacity limit layout { offered, automatic } plan fun _ => True
  refine ⟨?_, ?_⟩
  · refine Ledger.invariant_of_reaches fits_anything
      (fun hsees hmove hr => hmove.off hsees hr) ?_ start ⟨forgiving, fun _ => rfl⟩ h
    intro x r hr
    have beside := aside_beside x r
    refine ⟨?_, fun none => ?_⟩
    · show Forgiving (x.apply r).machine.plan
      rw [beside.plan]
      exact hr.forgiving
    · exact beside.power.trans (hr.power (beside.users.symm.trans none))
  · obtain ⟨p, ⟨⟨-, alive⟩, -⟩⟩ := Ledger.kept_of_reaches fits_anything start h
    exact alive

end VideoRig

/-- An opening that fails leaves both the endpoint and its device as they were, but for the cached
modes and the log. Whatever it committed is closed again in reverse order. -/
theorem failed_open_undone :
    (∀ {capacity limit : Nat} {layout : ClockLayout} {offered : List NativeMode} {automatic : Bool}
      {plan : FaultPlan VideoCall} {c : Crowd VideoRig},
      plan.NeverLate → plan.Spares (.setPower .d3) →
      Crowd.Reaches (fun _ => True)
        (VideoRig.unattended capacity limit layout { offered, automatic } plan) c →
      VideoRig.ClosingWorks c.rig →
      ∀ requests e r', (VideoRig.openStreams requests).run.run c.rig = .finished (.error e) r' →
        VideoRig.Undone c.rig r') ∧
    ∀ (r : MotionRig) requests e r',
      (MotionRig.openStreams requests).run.run r = .finished (.error e) r' →
        MotionRig.Undone r r' := by
  refine ⟨?_, ?_⟩
  · intro capacity limit layout offered automatic plan c late powerOff hreach works requests e r' h
    obtain ⟨off, alive⟩ := VideoRig.off_of_reaches ⟨late, powerOff⟩ hreach
    exact VideoRig.undone_of_failed_open off alive works h
  · intro r requests e r' h
    exact MotionRig.undone_of_failed_open h

namespace VideoRig

/-- A new endpoint with two registered formats, whose device refuses the second of its modes. -/
def reluctant : Crowd VideoRig :=
  let fresh := unattended 4 4 {}
    { offered := [⟨640, 480, 30, .yuy2⟩, ⟨640, 480, 30, .z16⟩] } .sound
  let asides : List VideoAside := [.core (.registerFormat .yuy2), .core (.registerFormat .z16),
    .refuseCommit (some ⟨640, 480, 30, .z16⟩)]
  asides.foldl (fun c x => { c with rig := x.apply c.rig }) fresh

/-- One stream of color and one of depth. -/
def colorAndDepth : List StreamRequest := [{ channel := .color }, { channel := .depth }]

/-- Opening both streams commits the first mode and closes it again. -/
theorem reluctant_undone :
    ∃ e r', (openStreams colorAndDepth).run.run reluctant.rig = .finished (.error e) r' ∧
      r'.machine.device.events = [.powerOn, .committed ⟨640, 480, 30, .yuy2⟩,
        .closed ⟨640, 480, 30, .yuy2⟩, .powerOff] ∧
      Undone reluctant.rig r' := by
  have computed : (match (openStreams colorAndDepth).run.run reluctant.rig with
      | .finished (.error _) r' => decide (r'.machine.device.events = [.powerOn,
          .committed ⟨640, 480, 30, .yuy2⟩, .closed ⟨640, 480, 30, .yuy2⟩, .powerOff])
      | _ => false) = true := by
    decide +kernel
  have reached : Crowd.Reaches (fun _ => True) (unattended 4 4 {}
      { offered := [⟨640, 480, 30, .yuy2⟩, ⟨640, 480, 30, .z16⟩] } .sound) reluctant :=
    ((Relation.ReflTransGen.refl.tail (.aside _)).tail (.aside _)).tail (.aside _)
  split at computed
  next e r' hrun =>
    refine ⟨e, r', hrun, of_decide_eq_true computed, ?_⟩
    refine failed_open_undone.1 ?_ (fun _ => rfl) reached (fun _ _ _ => rfl) _ e r' hrun
    intro n c fault hfault
    cases hfault
  next => cases computed

end VideoRig

end Sensing
