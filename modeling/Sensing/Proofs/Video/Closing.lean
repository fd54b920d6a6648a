import Mathlib.Data.List.ReduceOption
import Sensing.Proofs.Clients.Transcript
import Sensing.Proofs.Lifecycle.FailedOpen
import Sensing.Proofs.Video.Consultations

/-!
# Closing modes whatever the device says

Modes are closed in two places: all of a configuration when the endpoint is closed, and those just
committed when an opening fails at the next one. In both the endpoint goes on when the device
complains, so each mode is closed by one call, and only what is answered depends on the complaints.
A closing answers the first one. An opening answers what it failed for, and says nothing of the
complaints it met while it was cleaning up.

The argument carries both loops out for an arbitrary fault schedule, mode by mode (`run_closeAll`,
`run_rollBack`, `run_commitAll`), and puts the whole of an opening together from what its parts come
to.

Main result: `closed_despite_complaints`, for every state that any number of clients can lead to.
-/

namespace Sensing

/-- Calls that concern a single mode. -/
def VideoCall.isOfMode : VideoCall → Bool
  | .commit _ | .close _ => true
  | .enumerate | .setPower _ | .initUnit _ | .streamOn _ | .streamOff | .readControl _
  | .writeControl _ _ | .controlRange _ => false

/-- What manages the power is no call of a mode. -/
theorem VideoCall.isOfMode_of_managesPower {c : VideoCall} (h : c.managesPower = true) :
    c.isOfMode = false := by
  cases c <;> first | rfl | cases h

namespace VideoRig

/-! ## What is asked of the device -/

/-- Modes are closed in order, and each call meets what the list says. -/
def closings (ms : List NativeMode) (complaints : List (Option Cause)) :
    List (Exchange VideoCall) :=
  List.zipWith (fun m complaint => (.close m, complaint)) ms complaints

/-- Modes are committed in order. -/
def committings (ms : List NativeMode) : List (Exchange VideoCall) :=
  ms.map fun m => (.commit m, none)

/-- Giving one of so many references back powers the device down, whatever it says to that, if it
was the last one. -/
def Suspends (users : Nat) (xs : List (Exchange VideoCall)) : Prop :=
  ∃ complaint, xs = if users = 1 then [(.setPower .d3, complaint)] else []

variable {r r₁ r₂ r' : VideoRig} {m : NativeMode} {ms : List NativeMode}
  {xs ys : List (Exchange VideoCall)}

/-- The device is powered down by one call. -/
theorem asks_powerDown (r : VideoRig) :
    r.Asks [(.setPower .d3, r.machine.complaint? (.setPower .d3))] (powerDown r) := by
  have asks := Rig.asks_call r (.setPower .d3)
  unfold powerDown
  split
  next r₁ h =>
    rw [h] at asks
    exact asks.trans (Rig.asks_note r₁ _ _)
  next cause r₁ h =>
    rw [h] at asks
    exact asks.trans (Rig.asks_note r₁ _ _)

/-- It is made only for the last reference. -/
theorem asks_release (alive : r.core.alive = true) (some : 0 < r.own.users) :
    ∃ xs, Suspends r.own.users xs ∧ (r.withUsers (r.own.users - 1)).Asks xs (release r) := by
  have left : release r =
      if r.own.users - 1 = 0 then powerDown (r.withUsers (r.own.users - 1))
      else r.withUsers (r.own.users - 1) := by
    unfold release
    rw [alive, if_neg (Nat.ne_of_gt some)]
    rfl
  by_cases last : r.own.users = 1
  · rw [left, if_pos (by omega)]
    exact ⟨_, ⟨_, (if_pos last).symm⟩, asks_powerDown _⟩
  · rw [left, if_neg (by omega)]
    exact ⟨[], ⟨none, (if_neg last).symm⟩, .refl _⟩

/-! ## Closing, and committing -/

/-- All modes are closed, and the first complaint is kept. -/
theorem run_closeAll (ms : List NativeMode) (r : VideoRig) :
    ∃ complaints r', (closeAll ms).run r = .finished complaints.reduceOption.head? r' ∧
      complaints.length = ms.length ∧ r.Asks (closings ms complaints) r' := by
  induction ms generalizing r with
  | nil => exact ⟨[], r, rfl, rfl, .refl r⟩
  | cons m ms ih =>
    have closes := Rig.asks_call r (.close m)
    cases answer : (r.call (.close m)).1 with
    | ok a =>
      obtain ⟨complaints, r', run, each, asks⟩ := ih (r.call (.close m)).2
      rw [Machine.complaint?_of_ok answer] at closes
      refine ⟨none :: complaints, r', ?_, congrArg Nat.succ each, closes.trans asks⟩
      rw [closeAll, Rig.run_attempt_then, answer]
      exact run
    | error cause =>
      have said := closes.trans (Rig.asks_note (r.call (.close m)).2 .warn
        s!"{title}: close of {m.text} failed: {cause.text}")
      obtain ⟨complaints, r', run, each, asks⟩ := ih _
      rw [Machine.complaint?_of_error answer] at said
      refine ⟨some cause :: complaints, r', ?_, congrArg Nat.succ each, said.trans asks⟩
      rw [closeAll, Rig.run_attempt_then, answer]
      exact (Procedure.run_then rfl).trans (Procedure.run_then run)

/-- The same for what an opening has committed. -/
theorem run_rollBack (ms : List NativeMode) (r : VideoRig) :
    ∃ complaints r', (rollBack ms).run r = .finished () r' ∧
      complaints.length = ms.length ∧ r.Asks (closings ms complaints) r' := by
  induction ms generalizing r with
  | nil => exact ⟨[], r, rfl, rfl, .refl r⟩
  | cons m ms ih =>
    have closes := Rig.asks_call r (.close m)
    cases answer : (r.call (.close m)).1 with
    | ok a =>
      obtain ⟨complaints, r', run, each, asks⟩ := ih (r.call (.close m)).2
      rw [Machine.complaint?_of_ok answer] at closes
      refine ⟨none :: complaints, r', ?_, congrArg Nat.succ each, closes.trans asks⟩
      rw [rollBack, Rig.run_attempt_then, answer]
      exact run
    | error cause =>
      have said := closes.trans (Rig.asks_note (r.call (.close m)).2 .warn
        s!"{title}: rollback close of {m.text} failed: {cause.text}")
      obtain ⟨complaints, r', run, each, asks⟩ := ih _
      rw [Machine.complaint?_of_error answer] at said
      refine ⟨some cause :: complaints, r', ?_, congrArg Nat.succ each, said.trans asks⟩
      rw [rollBack, Rig.run_attempt_then, answer]
      exact (Procedure.run_then rfl).trans run

/-- Modes are committed up to the first complaint. From there on all that is left to do is to close
those committed before, the last one first. -/
theorem run_commitAll (done todo : List NativeMode) (r : VideoRig) :
    (∃ r', (commitAll done todo).run.run r = .finished (.ok ()) r' ∧
      r.Asks (committings todo) r') ∨
      ∃ made m rest cause complaints r', todo = made ++ m :: rest ∧
        (commitAll done todo).run.run r = .finished (.error (.ofCause cause)) r' ∧
        complaints.length = (made.reverse ++ done).length ∧
        r.Asks (committings made ++ (.commit m, some cause) ::
          closings (made.reverse ++ done) complaints) r' := by
  induction todo generalizing done r with
  | nil => exact .inl ⟨r, rfl, .refl r⟩
  | cons m todo ih =>
    have asked := Rig.asks_call r (.commit m)
    cases answer : (r.call (.commit m)).1 with
    | ok a =>
      rw [Machine.complaint?_of_ok answer] at asked
      have onward : (commitAll done (m :: todo)).run.run r =
          (commitAll (m :: done) todo).run.run (r.call (.commit m)).2 := by
        rw [commitAll]
        exact Work.run_then (Work.run_onFailure_ok (Rig.run_request_ok answer))
      rw [onward]
      rcases ih (m :: done) (r.call (.commit m)).2 with
        ⟨r', run, asks⟩ | ⟨made, m', rest, cause, complaints, r', split, run, each, asks⟩
      · exact .inl ⟨r', run, asked.trans asks⟩
      · -- The mode just committed is closed last.
        have undone : made.reverse ++ m :: done = (m :: made).reverse ++ done := by simp
        rw [undone] at each asks
        exact .inr ⟨m :: made, m', rest, cause, complaints, r', congrArg (m :: ·) split, run, each,
          asked.trans asks⟩
    -- The first complaint: nothing more is committed.
    | error cause =>
      rw [Machine.complaint?_of_error answer] at asked
      obtain ⟨complaints, r', run, each, asks⟩ := run_rollBack done (r.call (.commit m)).2
      refine .inr ⟨[], m, todo, cause, complaints, r', rfl, ?_, each, asked.trans asks⟩
      rw [commitAll]
      exact Work.run_stop (Work.run_onFailure_error (Rig.run_request_error answer) run)

/-! ## Up to the first mode -/

/-- An operation has come from `r` to `r'`: such calls were made and met that, and the endpoint has
so many users now. Nothing else of it has changed but its log and its cache of modes. -/
structure Proceeds (r : VideoRig) (users : Nat) (xs : List (Exchange VideoCall)) (r' : VideoRig) :
    Prop where
  core : r.core.SameButCache r'.core
  own : r'.own = { r.own with users }
  transcript : r'.transcript = r.transcript ++ xs

/-- None of the calls concerns a single mode. -/
def General (xs : List (Exchange VideoCall)) : Prop := ∀ x ∈ xs, x.1.isOfMode = false

theorem general_nil : General [] := nofun

theorem General.append (h : General xs) (h' : General ys) : General (xs ++ ys) :=
  fun x hx => (List.mem_append.1 hx).elim (h x) (h' x)

theorem general_singleton {c : VideoCall} (h : c.isOfMode = false) (complaint : Option Cause) :
    General [(c, complaint)] := by
  intro x hx
  obtain rfl := List.mem_singleton.1 hx
  exact h

theorem Suspends.general {users : Nat} (h : Suspends users xs) : General xs := by
  obtain ⟨complaint, rfl⟩ := h
  split
  · exact general_singleton rfl complaint
  · exact nofun

namespace Proceeds

variable {n k : Nat}

theorem refl (r : VideoRig) : Proceeds r r.own.users [] r :=
  ⟨.refl r.core, rfl, (List.append_nil _).symm⟩

theorem trans (h : Proceeds r n xs r₁) (h' : Proceeds r₁ k ys r₂) :
    Proceeds r k (xs ++ ys) r₂ where
  core := by
    refine ⟨?_, ?_⟩
    · rw [← h.core.rest, ← h'.core.rest]
    · rcases h'.core.modes with same | empty
      · rw [same]
        exact h.core.modes
      · rcases h.core.modes with same | empty'
        · exact .inr (same ▸ empty)
        · exact .inr empty'
  own := by rw [h'.own, h.own]
  transcript := by rw [h'.transcript, h.transcript, List.append_assoc]

/-- An endpoint that has got there still belongs to its application. -/
theorem alive (h : Proceeds r n xs r') (alive : r.core.alive = true) : r'.core.alive = true :=
  h.core.alive.trans alive

theorem withUsers (h : Proceeds r n xs r') (k : Nat) : Proceeds r k xs (r'.withUsers k) := by
  refine ⟨h.core, ?_, h.transcript⟩
  show { r'.own with users := k } = _
  rw [h.own]

theorem asks (h : Proceeds r n xs r₁) (asks : r₁.Asks ys r₂) : Proceeds r n (xs ++ ys) r₂ := by
  refine ⟨⟨?_, ?_⟩, asks.own.trans h.own, ?_⟩
  · rw [← h.core.rest, ← asks.core]
  · rcases h.core.modes with same | empty
    · exact .inl ((congrArg Core.modes asks.core).trans same)
    · exact .inr empty
  · rw [asks.transcript, h.transcript, List.append_assoc]

end Proceeds

/-- A steady step makes no call of a mode. -/
theorem Steady.proceeds (h : r.Steady r') : ∃ xs, General xs ∧ Proceeds r r.own.users xs r' := by
  obtain ⟨ls, -, core⟩ := h.core
  obtain ⟨calls, journal, managing⟩ := h.journal
  obtain ⟨xs, transcript, same⟩ := Machine.transcript_append r.machine.plan calls r.machine.journal
  refine ⟨xs, fun x hx => ?_, ⟨by rw [core], .inl (by rw [core])⟩, h.own, ?_⟩
  · have called : x.1 ∈ (calls.map Prod.fst).reverse := same ▸ List.mem_map_of_mem hx
    obtain ⟨y, hy, call⟩ := List.mem_map.1 (List.mem_reverse.1 called)
    rw [← call]
    exact VideoCall.isOfMode_of_managesPower (managing y hy).1
  · unfold Rig.transcript
    rw [h.plan, journal]
    exact transcript

/-- A reference is taken, or refused. -/
theorem acquire_proceeds (r : VideoRig) :
    ∃ xs, General xs ∧
      ((acquire r).1 = .ok () ∧ Proceeds r (r.own.users + 1) xs (acquire r).2 ∨
        ∃ e, (acquire r).1 = .error e ∧ Proceeds r r.own.users xs (acquire r).2) := by
  have added {r₁ : VideoRig} (steady : r.Steady r₁) :
      ∃ xs, General xs ∧ Proceeds r (r.own.users + 1) xs (addUser r₁) := by
    obtain ⟨xs, general, proceeds⟩ := steady.proceeds
    have counted := proceeds.withUsers (r.own.users + 1)
    rw [show r₁.withUsers (r.own.users + 1) = addUser r₁ by
      unfold VideoRig.withUsers addUser
      rw [steady.own]] at counted
    exact ⟨xs, general, counted⟩
  rcases acquire_cases r with ⟨-, h⟩ | ⟨-, r₁, steady, -, h⟩ | ⟨-, r₁, _, steady, h, -⟩
  · obtain ⟨xs, general, counted⟩ := added (.refl r)
    rw [h]
    exact ⟨xs, general, .inl ⟨rfl, counted⟩⟩
  · obtain ⟨xs, general, counted⟩ := added steady
    rw [h]
    exact ⟨xs, general, .inl ⟨rfl, counted⟩⟩
  · obtain ⟨xs, general, proceeds⟩ := steady.proceeds
    rw [h]
    exact ⟨xs, general, .inr ⟨_, rfl, proceeds⟩⟩

/-- A reference is given back. -/
theorem release_proceeds (alive : r.core.alive = true) (some : 0 < r.own.users) :
    ∃ xs, Suspends r.own.users xs ∧ Proceeds r (r.own.users - 1) xs (release r) := by
  obtain ⟨xs, suspends, asks⟩ := asks_release alive some
  exact ⟨xs, suspends, ((Proceeds.refl r).withUsers (r.own.users - 1)).asks asks⟩

/-- Whoever fails gives back the reference that it took. -/
theorem Proceeds.backOut (h : Proceeds r (r.own.users + 1) xs r') (alive : r.core.alive = true) :
    ∃ ys, Suspends (r.own.users + 1) ys ∧ Proceeds r r.own.users (xs ++ ys) (release r') := by
  have users : r'.own.users = r.own.users + 1 := by rw [h.own]
  obtain ⟨ys, suspends, released⟩ :=
    release_proceeds (h.alive alive) (users ▸ Nat.succ_pos r.own.users)
  rw [users] at suspends released
  exact ⟨ys, suspends, h.trans released⟩

/-- What is answered is what is cached then. -/
theorem fill_caches (ms : List NativeMode) (r : VideoRig) :
    ∃ kept modes, fill ms r = (.ok kept, { r with core := { r.core with modes } }) ∧
      modes.value = some kept := by
  refine ⟨(r.core.modes.fill ms).1, (r.core.modes.fill ms).2, rfl, ?_⟩
  unfold Once.fill
  split
  · assumption
  · rfl

/-- The device is asked for its modes, and a reference given back that was taken for that. -/
theorem run_askDevice (alive : r.core.alive = true) (some : 0 < r.own.users)
    (empty : r.core.modes.value = none) :
    ∃ found xs r', askDevice.run r = .finished found r' ∧ General xs ∧
      Proceeds r (r.own.users - 1) xs r' ∧
      ∀ ms, found = .ok ms → r'.core.modes.value = .some ms := by
  have asks := Rig.asks_call r VideoCall.enumerate
  cases answer : (r.call VideoCall.enumerate).1 with
  -- Whether there is a report or not, the reference is given back.
  | error cause =>
    obtain ⟨xs, suspends, released⟩ :=
      release_proceeds (r := (r.call VideoCall.enumerate).2) alive some
    refine ⟨.error (.ofCause cause), _, _, ?_, (general_singleton rfl _).append suspends.general,
      ((Proceeds.refl r).asks asks).trans released, nofun⟩
    simp only [askDevice, Procedure.run, answer]
  | ok reported =>
    have noted : r.Asks _ (noteReport reported (r.call VideoCall.enumerate).2) :=
      asks.trans (Rig.asks_note _ _ _)
    obtain ⟨xs, suspends, released⟩ :=
      release_proceeds (r := noteReport reported (r.call VideoCall.enumerate).2) alive some
    -- The cache is filled last, and what counts is what it holds then.
    let left := release (noteReport reported (r.call VideoCall.enumerate).2)
    obtain ⟨kept, modes, filled, value⟩ := fill_caches (distinct reported) left
    have before := ((Proceeds.refl r).asks noted).trans released
    have core := Core.SameButCache.fill (.refl r.core) empty before.core modes
    refine ⟨.ok kept, _, { left with core := { left.core with modes } }, ?_,
      (general_singleton rfl _).append suspends.general, ⟨core, before.own, before.transcript⟩, ?_⟩
    · simp only [askDevice, keepReport, Procedure.run, answer]
      rw [filled]
    · intro ms same
      cases same
      exact value

/-- The modes are looked up while the endpoint has a reference. -/
theorem run_modes (alive : r.core.alive = true) (some : 0 < r.own.users) :
    ∃ found xs r', modes.run.run r = .finished found r' ∧ General xs ∧
      Proceeds r r.own.users xs r' ∧
      ∀ ms, found = .ok ms → r'.core.modes.value = .some ms := by
  rw [modes_run]
  cases cached : r.core.modes.value with
  | some ms =>
    refine ⟨.ok ms, [], r, ?_, nofun, .refl r, fun _ same => by cases same; exact cached⟩
    simp only [Procedure.run, cached]
  | none =>
    have taken : acquire r = (.ok (), addUser r) := by
      rcases acquire_cases r with ⟨-, h⟩ | ⟨none, -⟩ | ⟨none, -⟩
      · exact h
      · omega
      · omega
    obtain ⟨found, xs, r', run, general, asked, kept⟩ :=
      run_askDevice (r := addUser r) alive (Nat.succ_pos _) cached
    refine ⟨found, xs, r', ?_, general,
      ((Proceeds.refl r).withUsers (r.own.users + 1)).trans asked, kept⟩
    simp only [Procedure.run, cached, taken]
    exact run

variable {requests : List StreamRequest} {routes : List Route}

/-- Requests are routed over the registered formats and the modes that are cached. -/
def Routes (requests : List StreamRequest) (routes : List Route) (r : VideoRig) : Prop :=
  ∃ ms, r.core.modes.value = some ms ∧ Route.resolve requests r.core.formats ms = .ok routes

/-- Both stay as they are. -/
theorem Routes.proceeds (h : Routes requests routes r) {n : Nat} (proceeds : Proceeds r n xs r') :
    Routes requests routes r' := by
  obtain ⟨ms, cached, resolved⟩ := h
  refine ⟨ms, ?_, ?_⟩
  · rcases proceeds.core.modes with same | empty
    · rw [same]
      exact cached
    · rw [cached] at empty
      cases empty
  · have formats := congrArg Core.formats proceeds.core.rest
    change r'.core.formats = r.core.formats at formats
    rw [formats]
    exact resolved

theorem run_resolve (alive : r.core.alive = true) (some : 0 < r.own.users)
    (requests : List StreamRequest) :
    ∃ found xs r', (resolve requests).run.run r = .finished found r' ∧ General xs ∧
      Proceeds r r.own.users xs r' ∧ ∀ routes, found = .ok routes → Routes requests routes r' := by
  obtain ⟨found, xs, r', run, general, proceeds, cached⟩ := run_modes alive some
  cases found with
  | error e => exact ⟨.error e, xs, r', Work.run_stop run, general, proceeds, nofun⟩
  | ok ms =>
    refine ⟨Route.resolve requests r'.core.formats ms, xs, r', Work.run_then run, general,
      proceeds, ?_⟩
    exact fun routes resolved => ⟨ms, cached ms rfl, resolved⟩

/-! ## A whole opening -/

/-- What an opening can come to. -/
inductive Opening (requests : List StreamRequest) (r : VideoRig) :
    Except EndpointError Unit → VideoRig → Prop where
  /-- It fails, and has asked the device to commit no mode and to close none. -/
  | unrouted {e : EndpointError} {xs : List (Exchange VideoCall)} {r' : VideoRig}
      (general : General xs) (proceeds : Proceeds r r.own.users xs r') :
    Opening requests r (.error e) r'
  /-- Every mode of its routes is committed. -/
  | committed {routes : List Route} {xs : List (Exchange VideoCall)} {r' : VideoRig}
      (routed : Routes requests routes r') (general : General xs)
      (transcript : r'.transcript = r.transcript ++ (xs ++ committings (routedModes routes)))
      (opened : r'.core.opened = true)
      (own : r'.own = { r.own with users := r.own.users + 1, configuration := routes }) :
    Opening requests r (.ok ()) r'
  /-- One of them is not. Those before it are closed again, the last one first, each by one call
  that may meet a complaint or not; and the reference is given back. -/
  | refused {routes : List Route} {made rest : List NativeMode} {m : NativeMode} {cause : Cause}
      {complaints : List (Option Cause)} {xs ys : List (Exchange VideoCall)} {r' : VideoRig}
      (routed : Routes requests routes r') (split : routedModes routes = made ++ m :: rest)
      (each : complaints.length = made.length) (general : General xs)
      (suspends : Suspends (r.own.users + 1) ys)
      (proceeds : Proceeds r r.own.users (xs ++ committings made ++ [(.commit m, some cause)] ++
        closings made.reverse complaints ++ ys) r') :
    Opening requests r (.error (.transport cause.text)) r'

/-- Every opening comes to one of these. -/
theorem run_openStreams (alive : r.core.alive = true) (requests : List StreamRequest) :
    ∃ a r', (openStreams requests).run.run r = .finished a r' ∧ Opening requests r a r' := by
  cases checked : r.core.checkOpen title with
  | error e =>
    exact ⟨.error e, r, Work.run_stop (Work.run_check checked),
      .unrouted general_nil (.refl r)⟩
  | ok _ =>
    have check : (Work.check fun r : VideoRig => r.core.checkOpen title).run.run r =
        .finished (.ok ()) r := Work.run_check checked
    unfold openStreams
    rw [Work.run_then check]
    have taking : (Work.step acquire).run.run r = .finished (acquire r).1 (acquire r).2 := rfl
    obtain ⟨xs, general, ⟨taken, acquired⟩ | ⟨e, refused, acquired⟩⟩ := acquire_proceeds r
    -- A refused reference ends it before anything was resolved.
    swap
    · rw [refused] at taking
      exact ⟨.error e, _, Work.run_stop taking, .unrouted general acquired⟩
    rw [taken] at taking
    rw [Work.run_then taking]
    have users : 0 < (acquire r).2.own.users := by
      rw [acquired.own]
      exact Nat.succ_pos _
    obtain ⟨found, ys, r₂, resolves, general', resolved, routed⟩ :=
      run_resolve (acquired.alive alive) users requests
    have before := acquired.trans resolved
    rw [acquired.own] at before
    cases found with
    | error e =>
      obtain ⟨zs, suspends, undone⟩ := before.backOut alive
      refine ⟨.error e, _, Work.run_onFailure_error (Work.run_stop resolves) rfl, ?_⟩
      exact .unrouted ((general.append general').append suspends.general) undone
    | ok routes =>
      have routed := routed routes rfl
      -- All modes are committed, or those before the first complaint are closed again.
      rcases run_commitAll [] (routedModes routes) r₂ with
        ⟨r₃, run, asks⟩ | ⟨made, m, rest, cause, complaints, r₃, split, run, each, asks⟩
      · have amid := before.asks asks
        have routed' : Routes requests routes r₃ := routed.proceeds ((Proceeds.refl r₂).asks asks)
        refine ⟨.ok (), _, Work.run_onFailure_ok ((Work.run_then resolves).trans
          ((Work.run_then run).trans rfl)), ?_⟩
        refine .committed routed' (general.append general') ?_ rfl ?_
        · exact amid.transcript
        · show { r₃.own with configuration := routes } = _
          rw [amid.own]
      · have amid := before.asks asks
        obtain ⟨zs, suspends, undone⟩ := amid.backOut alive
        have users : 0 < r₃.own.users := by
          rw [amid.own]
          exact Nat.succ_pos _
        obtain ⟨_, -, released⟩ := release_proceeds (amid.alive alive) users
        have routed' := routed.proceeds (((Proceeds.refl r₂).asks asks).trans released)
        refine ⟨.error (.ofCause cause), _, Work.run_onFailure_error
          ((Work.run_then resolves).trans (Work.run_stop run)) rfl, ?_⟩
        rw [List.append_nil, List.length_reverse] at each
        rw [List.append_nil, ← List.append_assoc, ← List.singleton_append,
          ← List.append_assoc] at undone
        exact .refused routed' split each (general.append general') suspends undone

/-! ## A whole closing -/

/-- What closing an opened endpoint comes to, where the calls that close the modes meet such
complaints. -/
structure Closing (complaints : List (Option Cause)) (r : VideoRig) (a : Except EndpointError Unit)
    (r' : VideoRig) : Prop where
  /-- One call for each mode, and for each what it met. -/
  each : complaints.length = (routedModes r.own.configuration).length
  /-- Those are all calls, but for the one that powers the device down if nobody else needs it. -/
  transcript : ∃ ys, Suspends r.own.users ys ∧ r'.transcript =
    r.transcript ++ closings (routedModes r.own.configuration) complaints ++ ys
  core : { r'.core with log := r.core.log } = { r.core with opened := false }
  own : r'.own = { r.own with configuration := [], users := r.own.users - 1 }
  /-- The first complaint counts. -/
  answer : a = match complaints.reduceOption with
    | [] => .ok ()
    | cause :: _ => .error (.transport cause.text)

/-- An opened endpoint that has its reference can be closed. -/
theorem run_close (alive : r.core.alive = true) (some : 0 < r.own.users)
    (opened : r.core.opened = true) (streaming : r.core.streaming = false) :
    ∃ complaints a r', close.run.run r = .finished a r' ∧ Closing complaints r a r' := by
  obtain ⟨complaints, r₁, run, each, asks⟩ := run_closeAll (routedModes r.own.configuration) r
  -- What is configured is forgotten before the reference is given back, so the release sees the
  -- emptied endpoint.
  let emptied : VideoRig :=
    { r₁ with
      own := { r₁.own with configuration := [] }
      core := { r₁.core with opened := false } }
  have alive₁ : emptied.core.alive = true := by
    have same := congrArg Core.alive asks.core
    exact same.trans alive
  have own : emptied.own = { r.own with configuration := [] } := by
    show { r₁.own with configuration := [] } = _
    rw [asks.own]
  have users : emptied.own.users = r.own.users := by rw [own]
  obtain ⟨ys, suspends, released⟩ := asks_release alive₁ (users ▸ some)
  rw [users] at suspends released
  have left := released.trans (Rig.asks_note (release emptied) .info s!"{title}: closed")
  refine ⟨complaints, _, (release emptied).note .info s!"{title}: closed", ?_, each,
    ⟨ys, suspends, ?_⟩, ?_, ?_, rfl⟩
  · have checked : r.core.checkClose title = .ok () := by
      unfold Core.checkClose
      rw [streaming, opened]
      rfl
    have check : (Work.check fun r : VideoRig => r.core.checkClose title).run.run r =
        .finished (.ok ()) r := Work.run_check checked
    unfold close
    rw [Work.run_then check, Work.run_look_then,
      Work.run_ofProcedure_then run]
    cases complaints.reduceOption <;> rfl
  · refine left.transcript.trans ?_
    rw [List.append_nil]
    exact congrArg (· ++ ys) asks.transcript
  · have closed : { emptied.core with log := r.core.log } = { r.core with opened := false } :=
      congrArg (fun c : Core => { c with opened := false }) asks.core
    exact (congrArg (fun c : Core => { c with log := r.core.log }) left.core).trans closed
  · refine left.own.trans ?_
    show { emptied.own with users := r.own.users - 1 } = _
    rw [own]

/-! ## Every fault schedule -/

variable {capacity limit : Nat} {layout : ClockLayout} {device : VideoDevice}
  {plan : FaultPlan VideoCall} {c : Crowd VideoRig}

/-- An opened endpoint that does not stream is closed by one call for each mode of its
configuration, in the order in which the modes first occur there, whichever of the calls fail; it
gives one reference back and answers the first complaint. An opening that fails because a mode is
not committed closes those it has committed, the last one first, and answers that failure. -/
theorem closed_despite_complaints
    (h : Crowd.Reaches (fun _ => True) (unattended capacity limit layout device plan) c) :
    (∀ routes : List Route,
      FirstOccurrences (routes.map (·.source.mode)) (routedModes routes)) ∧
    (c.rig.core.opened = true → c.rig.core.streaming = false →
      ∃ complaints a r', close.run.run c.rig = .finished a r' ∧ Closing complaints c.rig a r') ∧
    ∀ requests, ∃ a r', (openStreams requests).run.run c.rig = .finished a r' ∧
      Opening requests c.rig a r' := by
  obtain ⟨p, ⟨⟨phase, alive⟩, n, t, -, -, counted⟩⟩ :=
    Ledger.kept_of_reaches fits_anything
      (kept_unattended capacity limit layout device plan fun _ => True) h
  refine ⟨fun routes => distinct_firstOccurrences _, ?_, run_openStreams alive⟩
  intro opened streaming
  refine run_close alive ?_ opened streaming
  -- The reference that the endpoint has while it is opened is among those counted.
  have users : c.rig.own.users = p.refs + (n + (t + c.gates)) := counted
  rw [users, p.refs_eq, ← phase.opened, opened, if_pos rfl]
  omega

/-- A fault schedule under which depth and infrared cannot be closed. -/
def clinging : FaultPlan VideoCall := fun _ c =>
  match c with
  | .close m =>
    if m.format = .z16 then some { cause := ⟨"close failed", ["no reply"]⟩ }
    else if m.format = .grey then some { cause := ⟨"device is gone", []⟩, late := true }
    else none
  | _ => none

/-- A new endpoint on a camera with that schedule. -/
def clingingCamera : Crowd VideoRig :=
  unattended 4 4 {}
    { offered := [⟨640, 480, 30, .yuy2⟩, ⟨640, 480, 30, .z16⟩, ⟨640, 480, 30, .grey⟩] } clinging

/-- It is given the three formats, and its camera may be told to refuse a mode. -/
def clingingEndpoint (refused : Option NativeMode) : Crowd VideoRig :=
  let asides : List VideoAside := [.core (.registerFormat .yuy2), .core (.registerFormat .z16),
    .core (.registerFormat .y8), .refuseCommit refused]
  asides.foldl (fun c x => { c with rig := x.apply c.rig }) clingingCamera

/-- Registering a format and refusing a mode are asides. -/
theorem clingingEndpoint_reached (refused : Option NativeMode) :
    Crowd.Reaches (fun _ => True) clingingCamera (clingingEndpoint refused) :=
  (((Relation.ReflTransGen.refl.tail (.aside _)).tail (.aside _)).tail (.aside _)).tail (.aside _)

/-- Depth, color and infrared. -/
def allThree : List StreamRequest :=
  [{ channel := .depth }, { channel := .color }, { channel := .infrared }]

/-- All three are closed, with two complaints, of which the first is answered. Where the third is
refused, the two before it are closed, the last one first; the complaint about it is not
answered. -/
theorem clinging_closed :
    (∃ c complaints r', Crowd.Reaches (fun _ => True) clingingCamera c ∧
      close.run.run c.rig = .finished (.error (.transport "close failed: no reply")) r' ∧
      Closing complaints c.rig (.error (.transport "close failed: no reply")) r' ∧
      r'.machine.device.events = [.powerOn, .committed ⟨640, 480, 30, .z16⟩,
        .committed ⟨640, 480, 30, .yuy2⟩, .committed ⟨640, 480, 30, .grey⟩,
        .closed ⟨640, 480, 30, .yuy2⟩, .closed ⟨640, 480, 30, .grey⟩, .powerOff]) ∧
    ∃ e r', (openStreams allThree).run.run (clingingEndpoint (some ⟨640, 480, 30, .grey⟩)).rig =
        .finished (.error e) r' ∧
      e = .transport "synthetic commit failure for GREY 640x480 @30fps" ∧
      r'.machine.device.events = [.powerOn, .committed ⟨640, 480, 30, .z16⟩,
        .committed ⟨640, 480, 30, .yuy2⟩, .closed ⟨640, 480, 30, .yuy2⟩, .powerOff] ∧
      Opening allThree (clingingEndpoint (some ⟨640, 480, 30, .grey⟩)).rig (.error e) r' := by
  refine ⟨?_, ?_⟩
  -- The run is computed once, and what was computed decides which alternative the theorem gives.
  · have computed : (do
        let (_, r) ← (openStreams allThree).run.outcome? (clingingEndpoint none).rig
        let (a, r') ← close.run.outcome? r
        return decide (r.core.opened = true) && decide (r.core.streaming = false) &&
          decide (a = .error (.transport "close failed: no reply")) &&
          decide (r'.machine.device.events = [.powerOn, .committed ⟨640, 480, 30, .z16⟩,
            .committed ⟨640, 480, 30, .yuy2⟩, .committed ⟨640, 480, 30, .grey⟩,
            .closed ⟨640, 480, 30, .yuy2⟩, .closed ⟨640, 480, 30, .grey⟩, .powerOff])) =
        some true := by
      decide +kernel
    simp only [Option.bind_eq_bind, Option.bind_eq_some_iff, Prod.exists, Option.pure_def,
      Option.some.injEq, Bool.and_eq_true, decide_eq_true_eq] at computed
    obtain ⟨a, r, opens, _, r', closes, ⟨⟨opened, idle⟩, rfl⟩, events⟩ := computed
    have opened' : (Served.work (VideoOp.openStreams allThree)).run.run
        (clingingEndpoint none).rig = .finished a r := Procedure.run_of_outcome? opens
    have reached := (clingingEndpoint_reached none).served rfl rfl opened'
    obtain ⟨complaints, _, _, run, closing⟩ :=
      (closed_despite_complaints reached).2.1 opened idle
    have same := (Procedure.run_of_outcome? closes).symm.trans run
    cases same
    exact ⟨_, complaints, r', reached, run, closing, events⟩
  · have computed : (do
        let (a, r') ← (openStreams allThree).run.outcome?
          (clingingEndpoint (some ⟨640, 480, 30, .grey⟩)).rig
        return decide (a =
            .error (.transport "synthetic commit failure for GREY 640x480 @30fps")) &&
          decide (r'.machine.device.events = [.powerOn, .committed ⟨640, 480, 30, .z16⟩,
            .committed ⟨640, 480, 30, .yuy2⟩, .closed ⟨640, 480, 30, .yuy2⟩, .powerOff])) =
        some true := by
      decide +kernel
    simp only [Option.bind_eq_bind, Option.bind_eq_some_iff, Prod.exists, Option.pure_def,
      Option.some.injEq, Bool.and_eq_true, decide_eq_true_eq] at computed
    obtain ⟨_, r', opens, rfl, events⟩ := computed
    obtain ⟨_, _, run, opening⟩ :=
      (closed_despite_complaints (clingingEndpoint_reached _)).2.2 allThree
    have same := (Procedure.run_of_outcome? opens).symm.trans run
    cases same
    exact ⟨_, r', run, rfl, events, opening⟩

end VideoRig

end Sensing
