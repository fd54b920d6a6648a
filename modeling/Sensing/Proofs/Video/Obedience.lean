import Sensing.Proofs.Clients.Answers
import Sensing.Proofs.Video.Mirror

/-!
# A device that grants every call

A video device turns a call down if it is not powered, or was told to refuse it, or is asked to
commit a mode that it does not offer, to arm one that is not committed, or to close one that is not.
Where it refuses neither power nor any mode (`VideoDevice.Willing`), an endpoint makes no such call:
it commits what the device itself has enumerated, arms and closes what it has committed, and is
powered meanwhile. So every call is granted, except that an application may write a value to a
control that is out of its range (`VideoCall.Heeded`).

That the device is powered whenever it has to be is nobody's doing alone, and is taken for granted
here. What the client with the lock knows itself is what is in use, and of the calls so far that
they were granted (`Usage.Obeyed`). All that clients do in passing leaves this as it is, and so does
every operation without the lock, which fails only for its caller (`VideoRig.free_answers`).
-/

namespace Sensing

/-! ## Calls that are granted -/

/-- A device that refuses neither power nor any mode. -/
structure VideoDevice.Willing (d : VideoDevice) : Prop where
  powerOn : d.refusesPowerOn = false
  commit : d.refusesCommit = none

instance (d : VideoDevice) : Decidable d.Willing :=
  decidable_of_iff (d.refusesPowerOn = false ∧ d.refusesCommit = none)
    ⟨fun h => ⟨h.1, h.2⟩, fun h => ⟨h.powerOn, h.commit⟩⟩

namespace VideoCall

/-- Calls that write a value of the application's choice. -/
def writesControl : VideoCall → Bool
  | .writeControl .. => true
  | _ => false

/-- A call that the device does not turn down as it finds it, unless for a value to be written. -/
def Heeded (x : VideoCall × VideoDevice) : Prop :=
  x.1.writesControl = false → ∃ a, (VideoDevice.perform x.1 x.2).1 = .ok a

/-- Calls that are about neither the power nor the modes. -/
def Considerate (c : VideoCall) : Prop := c.setsPower = false ∧ c.managesModes = false

theorem heeded_of_grants {c : VideoCall} {d : VideoDevice} {a : c.Reply} {d' : VideoDevice}
    (grants : VideoDevice.perform c d = (.ok a, d')) : Heeded (c, d) :=
  fun _ => ⟨a, congrArg Prod.fst grants⟩

/-- Such calls are granted by a powered device. -/
theorem Considerate.heeded {c : VideoCall} (h : c.Considerate) {d : VideoDevice}
    (on : d.power = .d0) : Heeded (c, d) := by
  obtain ⟨spares, unmanaged⟩ := h
  cases c with
  | setPower => cases spares
  | commit | streamOn | streamOff | close => cases unmanaged
  | writeControl => exact fun h => nomatch h
  | initUnit u => exact heeded_of_grants (VideoDevice.perform_initUnit u on)
  | enumerate => exact heeded_of_grants (VideoDevice.perform_enumerate_ok on)
  | readControl | controlRange => exact heeded_of_grants (VideoDevice.powered_of_on _ _ on)

end VideoCall

/-- The operations whose applications let the device's power and modes alone. -/
def VideoOp.Considerate (op : VideoOp) : Prop := op.Uses VideoCall.Considerate

theorem VideoOp.Considerate.sparesPower {op : VideoOp} (h : op.Considerate) : op.SparesPower :=
  h.mono fun _ => And.left

/-- This is in use at an endpoint whose device offers these modes and has granted all calls. -/
structure Usage.Obeyed (offered : List NativeMode) (u : Usage) (r : VideoRig) : Prop where
  plan : r.machine.plan = .sound
  offers : r.machine.device.offered = offered
  /-- What was enumerated are the modes offered. -/
  cached : ∀ modes, r.core.modes.value = some modes → modes = distinct offered
  describes : u.Describes r
  heeded : ∀ call ∈ r.machine.journal, VideoCall.Heeded call

namespace VideoRig

variable {r r' : VideoRig}

/-! ## Taking and giving back references -/

/-- A step of upkeep that leaves the cached modes and whose calls are granted. -/
structure Heedful (r r' : VideoRig) : Prop where
  upkeep : r.Upkeep r'
  modes : r'.core.modes = r.core.modes
  journal : ∃ calls, r'.machine.journal = calls ++ r.machine.journal ∧
    ∀ x ∈ calls, VideoCall.Heeded x

theorem Heedful.trans {r₁ r₂ r₃ : VideoRig} (h : r₁.Heedful r₂) (h' : r₂.Heedful r₃) :
    r₁.Heedful r₃ where
  upkeep := h.upkeep.trans h'.upkeep
  modes := h'.modes.trans h.modes
  journal := by
    obtain ⟨calls, before, heeded⟩ := h.journal
    obtain ⟨calls', after, heeded'⟩ := h'.journal
    refine ⟨calls' ++ calls, by rw [after, before, List.append_assoc], ?_⟩
    exact List.forall_mem_append.2 ⟨heeded', heeded⟩

/-- Upkeep without any call. -/
theorem heedful_silent (upkeep : r.Upkeep r') (modes : r'.core.modes = r.core.modes)
    (journal : r'.machine.journal = r.machine.journal) : r.Heedful r' :=
  ⟨upkeep, modes, [], journal, fun _ h => nomatch h⟩

theorem Heedful.refl (r : VideoRig) : r.Heedful r := heedful_silent (Upkeep.refl r) rfl rfl

theorem heedful_note (level : LogLevel) (message : String) (r : VideoRig) :
    r.Heedful (r.note level message) := heedful_silent (upkeep_note level message r) rfl rfl

theorem heedful_withUsers (n : Nat) (r : VideoRig) : r.Heedful (r.withUsers n) :=
  heedful_silent (upkeep_withUsers n r) rfl rfl

/-- A granted call that is about the power alone. -/
theorem heedful_call {c : VideoCall} {a : c.Reply} (sound : r.machine.plan = .sound)
    (grants : VideoDevice.perform c r.machine.device = (.ok a, r.machine.device.granted c))
    (steady : r.Steady (r.call c).2) : (r.call c).1 = .ok a ∧
      (r.call c).2.machine.device = r.machine.device.granted c ∧ r.Heedful (r.call c).2 := by
  obtain ⟨answer, device⟩ := Machine.call_of_spared (m := r.machine) (sound ▸ fun _ => rfl) grants
  refine ⟨answer, device, steady.upkeep, rfl, [(c, r.machine.device)],
    Machine.call_journal r.machine c, ?_⟩
  intro x hx
  rw [List.mem_singleton.1 hx]
  exact VideoCall.heeded_of_grants grants

theorem heedful_powerOff (sound : r.machine.plan = .sound) :
    (r.call (.setPower .d3)).1 = .ok () ∧ r.Heedful (r.call (.setPower .d3)).2 := by
  obtain ⟨answer, -, heedful⟩ :=
    heedful_call sound VideoDevice.perform_powerOff (steady_setPower r .d3)
  exact ⟨answer, heedful⟩

theorem initUnits_heedful (us : List ExtensionUnit) (sound : r.machine.plan = .sound)
    (on : r.machine.device.power = .d0) :
    (initUnits us r).1 = .ok () ∧ r.Heedful (initUnits us r).2 := by
  induction us generalizing r with
  | nil => exact ⟨rfl, Heedful.refl r⟩
  | cons u us ih =>
    obtain ⟨answer, device, heedful⟩ :=
      heedful_call sound (VideoDevice.perform_initUnit u on) (steady_initUnit r u on)
    unfold initUnits
    split
    next r₁ hr =>
      rw [hr] at device heedful
      obtain ⟨done, rest⟩ := ih (heedful.upkeep.plan.trans sound)
        ((congrArg VideoDevice.power device).trans on)
      exact ⟨done, heedful.trans rest⟩
    next cause r₁ hr =>
      rw [hr] at answer
      cases answer

theorem powerUp_heedful (sound : r.machine.plan = .sound) (willing : r.machine.device.Willing) :
    (powerUp r).1 = .ok () ∧ r.Heedful (powerUp r).2 := by
  obtain ⟨answer, device, heedful⟩ :=
    heedful_call sound (VideoDevice.perform_powerOn willing.powerOn) (steady_setPower r .d0)
  unfold powerUp
  split
  next cause r₁ hr =>
    rw [hr] at answer
    cases answer
  next r₁ hr =>
    rw [hr] at device heedful
    obtain ⟨done, units⟩ := initUnits_heedful r₁.own.units (heedful.upkeep.plan.trans sound)
      (congrArg VideoDevice.power device)
    split
    next e r₂ hr₂ =>
      rw [hr₂] at done
      cases done
    next r₂ hr₂ =>
      rw [hr₂] at units
      exact ⟨rfl, (heedful.trans units).trans (heedful_note _ _ r₂)⟩

/-- A willing device does not refuse a reference. -/
theorem acquire_heedful (sound : r.machine.plan = .sound) (willing : r.machine.device.Willing) :
    (acquire r).1 = .ok () ∧ r.Heedful (acquire r).2 := by
  obtain ⟨done, heedful⟩ := powerUp_heedful sound willing
  unfold acquire
  split
  · split
    next e r₁ hr =>
      rw [hr] at done
      cases done
    next r₁ hr =>
      rw [hr] at heedful
      exact ⟨rfl, heedful.trans (heedful_withUsers _ r₁)⟩
  · exact ⟨rfl, heedful_withUsers _ r⟩

theorem powerDown_heedful (sound : r.machine.plan = .sound) : r.Heedful (powerDown r) := by
  obtain ⟨answer, heedful⟩ := heedful_powerOff sound
  unfold powerDown
  split
  next r₁ hr =>
    rw [hr] at heedful
    exact heedful.trans (heedful_note _ _ r₁)
  next cause r₁ hr =>
    rw [hr] at answer
    cases answer

theorem release_heedful (sound : r.machine.plan = .sound) : r.Heedful (release r) := by
  unfold release
  split
  · exact Heedful.refl r
  · split
    · exact heedful_note _ _ r
    · have fewer := heedful_withUsers (r.own.users - 1) r
      dsimp only
      split
      · exact fewer.trans (powerDown_heedful (r := r.withUsers (r.own.users - 1)) sound)
      · exact fewer

theorem warnOfLayout_heedful (r : VideoRig) : r.Heedful (warnOfLayout r) := by
  have notes (routes : List Route) (r : VideoRig) (message : String) :
      r.Heedful (routes.foldl (fun r _ => r.note .warn message) r) := by
    induction routes generalizing r with
    | nil => exact Heedful.refl r
    | cons _ routes ih => exact (heedful_note .warn message r).trans (ih _)
  unfold warnOfLayout
  split
  · exact Heedful.refl r
  · exact notes r.own.configuration r _

/-! ## What is known -/

/-- What the client with the lock knows of what is in use, where the device is willing and is
powered whenever a call needs it. -/
def obedience (offered : List NativeMode) : Knowledge VideoRig Usage where
  tells u r := u.Obeyed offered r
  holds r := r.machine.device.Willing ∧ ∀ x ∈ r.machine.journal, VideoCall.Sanctioned x

variable {offered : List NativeMode} {u u' : Usage}

theorem Heedful.spares (h : r.Heedful r') : (obedience offered).Spares r r' := by
  intro u known
  obtain ⟨calls, journal, heeded⟩ := h.journal
  refine ⟨h.upkeep.plan.trans known.plan, ?_, ?_, h.upkeep.unmoved.describes known.describes, ?_⟩
  · rw [h.upkeep.device]
    exact known.offers
  · rw [h.modes]
    exact known.cached
  · rw [journal]
    exact List.forall_mem_append.2 ⟨heeded, known.heeded⟩

/-- The call was made of a powered device, if it is one that needs it. -/
theorem on_of_call {c : VideoCall} (needs : c.setsPower = false)
    (after : (obedience offered).holds (r.call c).2) : r.machine.device.power = .d0 := by
  have made := after.2 (c, r.machine.device)
    ((Machine.call_journal r.machine c).symm ▸ List.mem_cons_self)
  rcases made with sets | on
  · cases needs.symm.trans sets
  · exact on

/-- A call that considerate applications make leaves what is known as it is. -/
theorem considerate_spares {c : VideoCall} (considerate : c.Considerate)
    (after : (obedience offered).holds (r.call c).2) :
    (obedience offered).Spares r (r.call c).2 := by
  intro u known
  have device : (r.call c).2.machine.device.offered = r.machine.device.offered := by
    refine Machine.call_keeps VideoDevice.offered (VideoDevice.perform_keeps _ ?_ ?_) <;>
      cases c <;> rfl
  have unmoved := unmoved_call considerate.2 r
  refine ⟨unmoved.plan.trans known.plan, device.trans known.offers, known.cached,
    unmoved.describes known.describes, ?_⟩
  intro call made
  rw [Rig.call_machine, Machine.call_journal] at made
  rcases List.mem_cons.1 made with rfl | before
  · exact considerate.heeded (on_of_call considerate.1 after)
  · exact known.heeded call before

/-! ## Asides -/

/-- The modes that the device offers and those that the endpoint has cached are the same. -/
def SameModes (r r' : VideoRig) : Prop :=
  r'.machine.device.offered = r.machine.device.offered ∧ r'.core.modes = r.core.modes

theorem SameModes.trans {r₁ r₂ r₃ : VideoRig} (h : r₁.SameModes r₂) (h' : r₂.SameModes r₃) :
    r₁.SameModes r₃ := ⟨h'.1.trans h.1, h'.2.trans h.2⟩

theorem deliverTo_sameModes (place : Nat) (data : Bytes) (r : VideoRig) :
    r.SameModes (deliverTo place data r) := by
  unfold deliverTo
  split
  · exact ⟨rfl, rfl⟩
  · exact ⟨rfl, rfl⟩
  next m ls _ =>
    exact ⟨rfl, (deliverLanes_transit m data ls r.core).modes⟩

theorem aside_sameModes (x : VideoAside) (r : VideoRig) : r.SameModes (x.apply r) := by
  cases x with
  | core x => exact ⟨rfl, x.modes r.core⟩
  | deliver m data =>
    exact deliver_induction (fun place data _ h => h.trans (deliverTo_sameModes place data _))
      m data ⟨rfl, rfl⟩
  | nextRound =>
    exact nextRound_induction (fun place data _ h => h.trans (deliverTo_sameModes place data _))
      (fun _ h => h) ⟨rfl, rfl⟩
  | registerUnit | registerProcessing | refusePowerOn | refuseCommit => exact ⟨rfl, rfl⟩

/-- What happens beside the client with the lock takes nothing from what it knows. -/
theorem aside_spares (x : VideoAside) (r : VideoRig) :
    (obedience offered).Spares r (x.apply r) := by
  intro u known
  have unmoved := aside_unmoved x r
  obtain ⟨offers, modes⟩ := aside_sameModes x r
  refine ⟨unmoved.plan.trans known.plan, offers.trans known.offers, ?_,
    unmoved.describes known.describes, ?_⟩
  · rw [modes]
    exact known.cached
  · rw [(aside_beside x r).journal]
    exact known.heeded

/-! ## What all clients do -/

/-- A device that is willing and powered reports what it offers, and that is what the cache holds.
-/
theorem obedience_reads : (obedience offered).Reads fun modes => modes = distinct offered where
  log r log := by
    have silent : Heedful r { r with core := { r.core with log } } :=
      heedful_silent ⟨rfl, rfl, rfl, rfl⟩ rfl rfl
    exact silent.spares
  cached known found := known.cached _ found
  fill r modes good u known := by
    refine ⟨known.plan, known.offers, ?_, ?_, known.heeded⟩
    · intro cached same
      cases same
      exact good
    · exact ⟨⟨known.describes.phase.opened, known.describes.phase.streaming⟩,
        known.describes.configuration, known.describes.committed, known.describes.armed⟩

section Guides

variable {α β : Type} {R : Rules VideoRig (Option β)} (guides : (obedience offered).Guides R)
  {w : β}
include guides

/-- A willing device can always be powered up. -/
theorem acquires : (Work.step acquire).Follows R (Sure fun a k => k = w ∧ a = .ok ())
    (some w) := by
  refine guides.passes fun r holds known _ => ?_
  obtain ⟨_, known⟩ := known
  obtain ⟨done, heedful⟩ := acquire_heedful known.plan holds.1
  exact ⟨done, heedful.spares⟩

theorem releases : (Procedure.change release).Follows R (Sure fun _ k => k = w) (some w) :=
  guides.change fun _ _ _ known => (release_heedful known.plan).spares _ known

/-- An answer is passed on after the reference was given back. -/
theorem releases_after {P : Except EndpointError α → Prop} {a : Except EndpointError α} (h : P a) :
    (Procedure.change release).Follows R (Sure fun _ k => k = w ∧ P a) (some w) :=
  Procedure.Follows.mono (fun _ _ hk => hk.mono fun _ _ same => ⟨same, h⟩) (releases guides)

/-- Powered work answers as it would without its reference. -/
theorem powered_obeys {work : Work VideoRig α} {P : Except EndpointError α → Prop}
    (hw : work.Follows R (Sure fun a k => k = w ∧ P a) (some w)) :
    (powered work).Follows R (Sure fun a k => k = w ∧ P a) (some w) := by
  refine guides.onwardWork (acquires guides) (fun _ _ => guides.always hw ?_) fun e h => nomatch h
  rintro a _ ⟨rfl, answer⟩
  exact releases_after guides answer

/-- A call that is about neither the power nor the modes. -/
theorem asks {c : VideoCall} (considerate : c.Considerate) :
    (Rig.attempt c : Procedure VideoRig _).Follows R
      (Sure fun a k => k = w ∧ (c.writesControl = false → ∃ b, a = .ok b)) (some w) := by
  refine guides.passes fun r _ known after => ?_
  obtain ⟨_, known⟩ := known
  refine ⟨fun reads => ?_, considerate_spares considerate after⟩
  -- That the device is powered is read off the journal: the call is in it, and was sanctioned.
  obtain ⟨answer, -⟩ := Machine.call_of_sound (m := r.machine) (c := c)
    (congrFun (congrFun known.plan _) _)
  obtain ⟨b, granted⟩ := considerate.heeded (on_of_call considerate.1 after) reads
  exact ⟨b, answer.trans granted⟩

theorem enumerates : enumerate.Follows R
    (Sure fun a k => k = w ∧ ∃ modes, a = .ok modes ∧ modes = distinct offered) (some w) := by
  have lists : (Rig.request VideoCall.enumerate : Work VideoRig _).Follows R
      (Sure fun a k => k = w ∧ a = .ok offered) (some w) := by
    refine guides.request fun r _ known after => ?_
    have considerate : VideoCall.enumerate.Considerate := ⟨rfl, rfl⟩
    obtain ⟨_, known⟩ := known
    obtain ⟨answer, -⟩ := Machine.call_of_spared (m := r.machine) (known.plan ▸ fun _ => rfl)
      (VideoDevice.perform_enumerate_ok (on_of_call considerate.1 after))
    refine ⟨?_, considerate_spares considerate after⟩
    rw [show (r.call VideoCall.enumerate).1 = _ from answer, ← known.offers]
    rfl
  refine powered_obeys guides (guides.onwardWork lists ?_ fun e h => nomatch h)
  rintro _ ok
  cases ok
  exact guides.saying obedience_reads (Work.follows_pure (sure_some ⟨rfl, _, rfl, rfl⟩))

theorem modes_good : modes.Follows R
    (Sure fun a k => k = w ∧ ∃ modes, a = .ok modes ∧ modes = distinct offered) (some w) :=
  guides.modesBy obedience_reads (enumerates guides)

/-- Resolving fails only for requests that cannot be satisfied, and routes only to what is offered.
-/
theorem resolves (requests : List StreamRequest) : (resolve requests).Follows R
    (Sure fun a k => k = w ∧ Earned a ∧ ∀ routes, a = .ok routes →
      ∀ route ∈ routes, route.source.mode ∈ offered) (some w) := by
  refine Work.Follows.mono (fun a _ h => h.mono fun a _ answer => ?_)
    (guides.resolveBy obedience_reads (enumerates guides) requests)
  obtain ⟨same, earned, routed⟩ := answer
  refine ⟨same, earned, fun routes ok route hroute => ?_⟩
  obtain ⟨_, rfl, among⟩ := routed routes ok
  exact mem_distinct.1 (among route hroute)

theorem principal_answers : principal.Follows R (Sure fun a k => k = w ∧ a.isOk = true)
    (some w) := by
  refine guides.onwardWork (modes_good guides) (fun ms _ => ?_) fun e h => nomatch h.choose_spec.1
  refine Work.follows_looking fun formats => ?_
  refine guides.onwardWork (guides.forIn (fun code _ => ?_) _) (fun _ _ => ?_) fun e h => nomatch h
  · exact guides.saying obedience_reads (Work.follows_pure (sure_some ⟨rfl, rfl⟩))
  · exact Work.follows_pure (sure_some ⟨rfl, rfl⟩)

/-- A considerate application gets whatever it asks for. -/
theorem action_obeys {action : VideoAction} (uses : action.Uses VideoCall.Considerate) :
    action.procedure.Follows R (Sure fun _ k => k = w) (some w) := by
  induction action with
  | done => exact Procedure.follows_pure (sure_some rfl)
  | look view next ih =>
    refine guides.onward (guides.look (P := fun _ => True) fun _ _ _ => trivial) ?_
    exact fun answer _ => ih answer (uses answer)
  | call c next ih =>
    exact guides.onward (asks guides uses.1) fun reply _ => ih reply (uses.2 reply)

theorem callProcessing_obeys (id : ControlId) (call : ControlCall) :
    (callProcessing id call).Follows R (Sure fun _ k => k = w) (some w) := by
  have controls {c : VideoCall} (considerate : c.Considerate) :
      (forControl id (Rig.attempt c)).Follows R (Sure fun _ k => k = w ∧ True) (some w) := by
    have call : (powered (Work.ofProcedure (Rig.attempt c))).Follows R
        (Sure fun _ k => k = w ∧ True) (some w) :=
      powered_obeys guides (guides.bind (asks guides considerate) fun _ _ h =>
        Procedure.follows_pure (sure_some ⟨h.1, trivial⟩))
    refine guides.onward (guides.look (P := fun _ => True) fun _ _ _ => trivial) fun alive _ => ?_
    cases alive with
    | false => exact Procedure.follows_pure (sure_some ⟨rfl, trivial⟩)
    | true =>
      refine guides.onward call fun result _ => ?_
      cases result <;> exact Procedure.follows_pure (sure_some ⟨rfl, trivial⟩)
  cases call with
  | query | set | range =>
    refine guides.onward (controls ⟨rfl, rfl⟩) fun _ _ => ?_
    exact Procedure.follows_pure (sure_some rfl)
  | enabled | description => exact Procedure.follows_pure (sure_some rfl)

/-- An operation without the lock leaves all as it is, and fails only for its caller. -/
theorem free_answers {op : VideoOp} (transition : op.transition = none)
    (considerate : op.Considerate) : op.work.Follows R (Sure fun a _ => Earned a) (some w) := by
  -- Answers of several types are dropped here, and only whether an error was earned is kept.
  have fine {α : Type} {x : Work VideoRig α} {P : Except EndpointError α → Prop}
      (hx : x.Follows R (Sure fun a k => k = w ∧ P a) (some w)) (earned : ∀ a, P a → Earned a) :
      (do let _ ← x : Work VideoRig Unit).Follows R (Sure fun a _ => Earned a) (some w) :=
    guides.onwardWork hx (fun _ _ => Work.follows_pure (sure_some earned_ok))
      fun e h => (earned _ h).error
  cases op with
  | openStreams | close | start | stop => cases transition
  | modes =>
    refine fine (modes_good guides) ?_
    rintro _ ⟨_, rfl, -⟩
    exact earned_ok
  | principal =>
    refine fine (principal_answers guides) fun a ok => ?_
    cases a with
    | ok => exact earned_ok
    | error => cases ok
  | resolve requests => exact fine (resolves guides requests) fun _ h => h.1
  | flush => exact Work.follows_ofProcedure (Procedure.follows_waitFor (sure_some earned_ok))
  | control id call =>
    refine guides.lift (callProcessing_obeys guides id call) fun _ _ _ => ?_
    exact Work.follows_pure (sure_some earned_ok)
  | powered action =>
    have acts : (Work.ofProcedure action.procedure).Follows R
        (Sure fun a k => k = w ∧ Earned a) (some w) :=
      Work.follows_ofProcedure (Procedure.Follows.mono (fun _ _ hk k same => ⟨hk k same, earned_ok⟩)
        (action_obeys guides considerate))
    exact Work.Follows.mono (fun _ _ hk => hk.mono fun _ _ h => h.2) (powered_obeys guides acts)

end Guides

end VideoRig

end Sensing
