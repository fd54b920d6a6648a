import Sensing.Proofs.Clients.Success
import Sensing.Proofs.Routing.Satisfiability
import Sensing.Proofs.Video.ObedientOperations

/-!
# A client whom nobody interrupts

Where a device grants every call, an operation that nobody interrupts succeeds as far as its own
checks do. What it needs for that, and leaves as it was but for the references it takes and the
cache of modes it fills, is that the endpoint is there and its device willing, and is powered while
references are held (`VideoRig.Ready`).

Main results: the modes, the principal requests and every resolution are had, and a closed endpoint
is opened, wherever the requests can be routed over the registered formats and the modes that the
device offers (`principal_gives`, `resolve_gives`, `openStreams_gives`); and all of them are ready
whatever any number of clients are amid (`ready_of_reaches`).
-/

namespace Sensing

namespace VideoRig

/-- An endpoint that is there, with these formats registered and so many references held, on a
device that offers these modes and grants every call that needs no more than power. -/
structure Ready (offered : List NativeMode) (formats : List PixelFormat) (held : Nat)
    (r : VideoRig) : Prop where
  plan : r.machine.plan = .sound
  willing : r.machine.device.Willing
  offers : r.machine.device.offered = offered
  cached : ∀ modes, r.core.modes.value = some modes → modes = distinct offered
  registered : r.core.formats = formats
  alive : r.core.alive = true
  users : r.own.users = held
  on : 0 < held → r.machine.device.power = .d0

variable {offered : List NativeMode} {formats : List PixelFormat} {n n' : Nat} {r r' : VideoRig}

/-! ## References -/

/-- A step that the device has heeded leaves the endpoint ready, with the references that it is left
with. -/
theorem Ready.heedful (h : Ready offered formats n r) (heedful : r.Heedful r')
    (users : r'.own.users = n') (on : 0 < n' → r'.machine.device.power = .d0) :
    Ready offered formats n' r' where
  plan := heedful.upkeep.plan.trans h.plan
  willing := by
    rw [heedful.upkeep.device]
    exact ⟨h.willing.powerOn, h.willing.commit⟩
  offers := by
    rw [heedful.upkeep.device]
    exact h.offers
  cached := by
    rw [heedful.modes]
    exact h.cached
  registered := by
    rw [heedful.upkeep.core]
    exact h.registered
  alive := by
    rw [heedful.upkeep.core]
    exact h.alive
  users := users
  on := on

theorem Ready.note (h : Ready offered formats n r) (level : LogLevel) (message : String) :
    Ready offered formats n (r.note level message) :=
  h.heedful (heedful_note level message r) h.users h.on

/-- A reference is had. -/
theorem Ready.acquire (h : Ready offered formats n r) :
    (acquire r).1 = .ok () ∧ Ready offered formats (n + 1) (acquire r).2 := by
  obtain ⟨done, heedful⟩ := acquire_heedful h.plan h.willing
  obtain ⟨r₁, added, steady, same, up⟩ := acquire_ok done
  refine ⟨done, h.heedful heedful ?_ fun _ => ?_⟩
  · rw [added]
    show r₁.own.users + 1 = n + 1
    rw [steady.own, h.users]
  · rw [added]
    show r₁.machine.device.power = .d0
    rcases Nat.eq_zero_or_pos n with none | some
    · exact up (h.users.trans none)
    · rw [same (h.users.symm ▸ some)]
      exact h.on some

/-- It is given back. -/
theorem Ready.release (h : Ready offered formats (n + 1) r) :
    Ready offered formats n (release r) := by
  have heedful := release_heedful (r := r) h.plan
  rcases release_cases h.alive h.users with ⟨-, fewer⟩ | ⟨rfl, steady, -⟩
  · refine h.heedful heedful (congrArg (·.own.users) fewer) fun _ => ?_
    rw [fewer]
    exact h.on n.succ_pos
  · exact h.heedful heedful (congrArg VideoState.users steady.own) fun h => absurd h (by decide)

/-- A call that is about neither power nor what the device offers. -/
theorem Ready.call (h : Ready offered formats n r) {c : VideoCall} {a : c.Reply}
    (grants : VideoDevice.perform c r.machine.device = (.ok a, r.machine.device.granted c))
    (remainder : ∀ d : VideoDevice, d.granted c = { d with
      events := (d.granted c).events
      enumerations := (d.granted c).enumerations
      committed := (d.granted c).committed
      armed := (d.granted c).armed
      counters := (d.granted c).counters
      rounds := (d.granted c).rounds }) :
    (r.call c).1 = .ok a ∧ Ready offered formats n (r.call c).2 := by
  obtain ⟨answer, device⟩ := Machine.call_of_spared (m := r.machine) (h.plan ▸ fun _ => rfl) grants
  change (r.call c).2.machine.device = _ at device
  rw [remainder] at device
  refine ⟨answer, (Machine.call_plan r.machine c).trans h.plan, ?_, ?_, h.cached, h.registered,
    h.alive, h.users, ?_⟩
  · rw [device]
    exact ⟨h.willing.powerOn, h.willing.commit⟩
  · rw [device]
    exact h.offers
  · rw [device]
    exact h.on

/-! ## Modes and requests -/

/-- The device is asked while it is powered, and reports all that it offers. -/
theorem enumerate_gives (h : Ready offered formats n r) :
    enumerate.Gives r fun modes r' => modes = distinct offered ∧ Ready offered formats n r' := by
  obtain ⟨done, acquired⟩ := h.acquire
  refine (Work.gives_step (P := fun _ => Ready offered formats (n + 1)) done acquired).bind ?_
  intro _ r₁ h₁
  refine Work.Gives.always (P := fun modes r' => modes = distinct offered ∧
    Ready offered formats (n + 1) r') ?_ fun _ _ h => ⟨h.1, h.2.release⟩
  have listed : (Rig.request VideoCall.enumerate : Work VideoRig _).Gives r₁ fun modes r' =>
      modes = offered ∧ Ready offered formats (n + 1) r' := by
    obtain ⟨answer, called⟩ :=
      h₁.call (VideoDevice.perform_enumerate_ok (h₁.on n.succ_pos)) fun _ => rfl
    exact Rig.gives_request answer ⟨h₁.offers, called⟩
  refine listed.bind ?_
  rintro _ r₂ ⟨rfl, h₂⟩
  exact (Work.gives_change (P := fun _ => Ready _ formats (n + 1)) (h₂.note _ _)).bind
    fun _ _ h => Work.gives_pure ⟨rfl, h⟩

theorem modes_gives (h : Ready offered formats n r) :
    modes.Gives r fun modes r' => modes = distinct offered ∧ Ready offered formats n r' := by
  refine Rig.gives_modesBy (I := Ready offered formats n) (fun _ h => h.cached) (fun _ h => ?_)
    (fun _ => enumerate_gives) h
  refine { h with cached := fun _ found => ?_ }
  cases found
  rfl

/-- Requests that can be routed over what is offered are routed. -/
theorem resolve_gives (h : Ready offered formats n r) {requests : List StreamRequest}
    {routes : List Route}
    (routed : Route.resolve requests formats (distinct offered) = .ok routes) :
    (resolve requests).Gives r fun answer r' => answer = routes ∧ Ready offered formats n r' :=
  Rig.gives_resolveBy (modes_gives h) (fun _ h => h.registered) routed

theorem principal_gives (h : Ready offered formats n r) :
    principal.Gives r fun requests r' =>
      requests = principalRequests formats (distinct offered) ∧ Ready offered formats n r' := by
  refine (modes_gives h).bind ?_
  rintro _ r₁ ⟨rfl, h₁⟩
  refine Work.Gives.bind (P := fun registered r' => registered = formats ∧
    Ready offered formats n r') (Work.gives_look ⟨h₁.registered, h₁⟩) ?_
  rintro registered r₂ ⟨rfl, h₂⟩
  refine Work.Gives.bind (P := fun _ => Ready offered registered n)
    (Work.gives_forIn (fun code _ r h => ?_) _ h₂) fun _ _ h => Work.gives_pure ⟨rfl, h⟩
  exact (Work.gives_change (P := fun _ => Ready offered registered n) (h.note _ _)).bind
    fun _ _ h => Work.gives_pure h

/-! ## Opening -/

/-- No mode that is offered is turned down. -/
theorem commitAll_gives {ms : List NativeMode} (done : List NativeMode)
    (h : Ready offered formats (n + 1) r) (among : ∀ m ∈ ms, m ∈ offered) :
    (commitAll done ms).Gives r fun _ r' => Ready offered formats (n + 1) r' := by
  induction ms generalizing done r with
  | nil => exact Work.gives_pure h
  | cons m ms ih =>
    obtain ⟨isOffered, among⟩ := List.forall_mem_cons.1 among
    obtain ⟨answer, called⟩ := h.call (VideoDevice.perform_commit (h.on n.succ_pos)
      h.willing.commit (h.offers.symm ▸ isOffered)) fun _ => rfl
    have committed : (Rig.request (VideoCall.commit m) : Work VideoRig _).Gives r
        fun _ r' => Ready offered formats (n + 1) r' := Rig.gives_request answer called
    exact committed.onFailure.bind fun _ _ h => ih (m :: done) h among

/-- A closed endpoint is opened for requests that can be routed, and keeps its reference. -/
theorem openStreams_gives (h : Ready offered formats n r) (closed : r.core.InPhase .closed)
    {requests : List StreamRequest}
    (routable : Route.Routable requests formats (distinct offered)) :
    (openStreams requests).Gives r fun _ r' => Ready offered formats (n + 1) r' := by
  obtain ⟨routes, routed⟩ := routable
  have admitted : r.core.checkOpen title = .ok () := by
    rcases Core.checkOpen_guards title closed with ⟨refuses, -⟩ | ⟨-, ok⟩
    · cases refuses
    · exact ok
  obtain ⟨done, acquired⟩ := h.acquire
  refine (Work.gives_check (P := fun _ r' => r' = r) admitted rfl).bind ?_
  rintro _ _ rfl
  refine (Work.gives_step (P := fun _ => Ready offered formats (n + 1)) done acquired).bind ?_
  intro _ r₁ h₁
  refine Work.Gives.onFailure ((resolve_gives h₁ routed).bind ?_)
  rintro _ r₂ ⟨rfl, h₂⟩
  refine (commitAll_gives [] h₂ (routedModes_of_resolve routed)).bind fun _ r₃ h₃ => ?_
  refine (Work.gives_change (P := fun _ => Ready offered formats (n + 1)) (h₃.note _ _)).bind ?_
  intro _ r₄ h₄
  exact Work.gives_change ⟨h₄.plan, h₄.willing, h₄.offers, h₄.cached, h₄.registered, h₄.alive,
    h₄.users, h₄.on⟩

/-! ## Whatever others are amid -/

/-- It is ready at any time, whoever is amid an operation. -/
theorem ready_of_reaches {capacity limit : Nat} {layout : ClockLayout} {automatic : Bool}
    {c : Crowd VideoRig} (h : Crowd.ReachesWhile (fun c => c.rig.machine.device.Willing)
      VideoOp.Considerate (unattended capacity limit layout { offered, automatic } .sound) c) :
    Ready offered c.rig.core.formats c.rig.own.users c.rig := by
  have reached : Crowd.Reaches VideoOp.SparesPower
      (unattended capacity limit layout { offered, automatic } .sound) c :=
    h.reaches.of_admitted fun _ considerate => considerate.sparesPower
  obtain ⟨willing, kept⟩ := obedient_of_reaches h
  obtain ⟨u, known, -⟩ := kept.holder
  obtain ⟨_, ⟨⟨-, alive⟩, -⟩⟩ := Ledger.kept_of_reaches fits_sparing
    (kept_unattended capacity limit layout { offered, automatic } .sound _) reached
  exact ⟨known.plan, willing, known.offers, known.cached, rfl, alive, rfl,
    (powered_of_reaches reached).on⟩

end VideoRig

end Sensing
