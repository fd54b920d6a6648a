import Sensing.Proofs.Clients.Asides
import Sensing.Proofs.Frame.Drawing

/-!
# What becomes of a frame that is offered

A frame is offered to the callback that the endpoint has registered, whichever it is. Offering a
frame, and whatever else goes on beside the operations, leaves the registration alone; and where no
callback is registered none is called, and the frame is released at once.

Main results: what happens beside the operations heeds the registration (`CoreAside.heeds`); a
callback that is registered is called for every frame that is offered, in their order, and what the
frames meet with is what it decides (`Core.called_offers`); and frames that are drawn and offered
are published no longer if they find no callback (`Core.dispatches_offers`).
-/

namespace Sensing

/-- What is done with each frame, by the number of frames before it. -/
abbrev Callback : Type := Nat → Handling

namespace Core

/-- The callback that an endpoint has registered. -/
def registered (c : Core) : Option Callback := c.consumer.map (·.policy)

/-- The same callback is registered, and without one none was called. -/
structure Heeds (c c' : Core) : Prop where
  registered : c'.registered = c.registered
  unheard : c.registered = none → c'.delivered = c.delivered

theorem Heeds.refl (c : Core) : c.Heeds c := ⟨rfl, fun _ => rfl⟩

/-- What is heeded in one stretch and in the next is heeded in both. -/
theorem Heeds.trans {c₁ c₂ c₃ : Core} (h : c₁.Heeds c₂) (h' : c₂.Heeds c₃) : c₁.Heeds c₃ where
  registered := h'.registered.trans h.registered
  unheard none := (h'.unheard (h.registered.trans none)).trans (h.unheard none)

/-- What each step heeds is heeded by all of them together. -/
theorem heeds_foldl {α : Type} {f : Core → α → Core} (hf : ∀ (c : Core) (a : α), c.Heeds (f c a))
    (as : List α) (c : Core) : c.Heeds (as.foldl f c) := by
  induction as generalizing c with
  | nil => exact Heeds.refl c
  | cons a as ih => exact (hf c a).trans (ih (f c a))

variable {c : Core}

/-- Without a callback there is no consumer. -/
theorem consumer_of_unregistered (silent : c.registered = none) : c.consumer = none := by
  unfold registered at silent
  rwa [Option.map_eq_none_iff] at silent

/-- A frame that finds no callback is released. -/
theorem offer_of_unregistered (silent : c.registered = none) (f : Frame) :
    ∃ log, c.offer f = { c with pool := c.pool.release f, log } := by
  unfold offer
  split
  next => exact ⟨_, rfl⟩
  next k some =>
    rw [consumer_of_unregistered silent] at some
    cases some

/-- Offering a frame heeds the registration. -/
theorem heeds_offer (c : Core) (f : Frame) : c.Heeds (c.offer f) where
  registered := by
    unfold offer registered
    split
    next => rfl
    next k some =>
      rw [some]
      split <;> rfl
  unheard none := by
    obtain ⟨_, released⟩ := offer_of_unregistered none f
    rw [released]

/-- What is heard of an endpoint: its consumer, the frames that consumers have seen, and those that
the application was handed. -/
def heard (c : Core) : Option Consumer × List Frame × List Frame :=
  (c.consumer, c.delivered, c.held)

/-- What becomes of one frame hangs on what is heard alone. -/
theorem heard_offer {c c' : Core} (same : c.heard = c'.heard) (f : Frame) :
    (c.offer f).heard = (c'.offer f).heard := by
  have consumer : c.consumer = c'.consumer := congrArg Prod.fst same
  have delivered : c.delivered = c'.delivered := congrArg (·.2.1) same
  have held : c.held = c'.held := congrArg (·.2.2) same
  unfold offer
  rw [consumer]
  cases c'.consumer with
  | none => exact same
  | some k =>
    dsimp only
    split <;> simp [heard, release, delivered, held]

/-- What becomes of frames that are offered hangs on the consumer alone. -/
theorem heard_offers {c c' : Core} (same : c.heard = c'.heard) (fs : List Frame) :
    (fs.foldl (fun c f => c.offer f) c).heard = (fs.foldl (fun c f => c.offer f) c').heard := by
  induction fs generalizing c c' with
  | nil => exact same
  | cons f fs ih => exact ih (heard_offer same f)

/-- Nothing differs but what frames pass through: the pool, the consumer and what it has seen, the
application's hands, and the log. -/
structure Transit (c c' : Core) : Prop where
  eq : c' = { c with
    pool := c'.pool
    consumer := c'.consumer
    held := c'.held
    delivered := c'.delivered
    log := c'.log }

theorem Transit.refl (c : Core) : c.Transit c := ⟨rfl⟩

/-- Frames pass through in one stretch and in the next. -/
theorem Transit.trans {c₁ c₂ c₃ : Core} (h : c₁.Transit c₂) (h' : c₂.Transit c₃) :
    c₁.Transit c₃ := by
  refine ⟨?_⟩
  rw [h'.eq, h.eq]

/-- Frames that pass through leave the formats alone, -/
theorem Transit.formats {c c' : Core} (h : c.Transit c') : c'.formats = c.formats := by rw [h.eq]

/-- and the cache of modes, -/
theorem Transit.modes {c c' : Core} (h : c.Transit c') : c'.modes = c.modes := by rw [h.eq]

/-- and the time of the host. -/
theorem Transit.hostTime {c c' : Core} (h : c.Transit c') : c'.hostTime = c.hostTime := by
  rw [h.eq]

/-- A frame that is offered passes through, -/
theorem transit_offer (c : Core) (f : Frame) : c.Transit (c.offer f) := by
  unfold offer
  split
  · exact ⟨rfl⟩
  · dsimp only
    split <;> exact ⟨rfl⟩

/-- and so do many. -/
theorem transit_offers (c : Core) (fs : List Frame) :
    c.Transit (fs.foldl (fun c f => c.offer f) c) := by
  induction fs generalizing c with
  | nil => exact Transit.refl c
  | cons f fs ih => exact (transit_offer c f).trans (ih (c.offer f))

/-- Offering frames takes no time. -/
theorem hostTime_offers (c : Core) (fs : List Frame) :
    (fs.foldl (fun c f => c.offer f) c).hostTime = c.hostTime := (transit_offers c fs).hostTime

/-! ### The calls of a callback -/

/-- The frames that a callback deals with in one of some ways, where `n` frames came before them. -/
def dealtWith (callback : Callback) (ways : Handling → Bool) : Nat → List Frame → List Frame
  | _, [] => []
  | n, f :: fs =>
    if ways (callback n) then f :: dealtWith callback ways (n + 1) fs
    else dealtWith callback ways (n + 1) fs

/-- A callback deals in one way with some of the frames, in their order. -/
theorem dealtWith_sublist (callback : Callback) (ways : Handling → Bool) (n : Nat)
    (fs : List Frame) : (dealtWith callback ways n fs).Sublist fs := by
  induction fs generalizing n with
  | nil => exact List.Sublist.refl _
  | cons f fs ih =>
    unfold dealtWith
    split
    · exact (ih (n + 1)).cons_cons f
    · exact (ih (n + 1)).cons f

/-- The callback of a consumer was called for frames, one after another, from `c` to `c'`. It goes
on from there, and has seen those that it did not ignore, in their order; the application has those
that it was to hold, and the consumer itself those that it was to keep. -/
structure Called (k : Consumer) (fs : List Frame) (c c' : Core) : Prop where
  consumer : c'.consumer = some
    { k with
      received := k.received + fs.length
      kept := k.kept ++ dealtWith k.policy (· = .keep) k.received fs }
  delivered : c'.delivered = c.delivered ++ dealtWith k.policy (· ≠ .ignore) k.received fs
  held : c'.held = c.held ++ dealtWith k.policy (· = .hold) k.received fs

/-- A frame that is offered is what the callback is called for. -/
theorem called_offer {k : Consumer} (registered : c.consumer = some k) (f : Frame) :
    Called k [f] c (c.offer f) := by
  unfold offer
  rw [registered]
  dsimp only
  cases way : k.policy k.received <;> constructor <;> simp [release, dealtWith, way]

/-- Frames that are offered are what the callback is called for, all of them and no others. -/
theorem called_offers {k : Consumer} (registered : c.consumer = some k) (fs : List Frame) :
    Called k fs c (fs.foldl (fun c f => c.offer f) c) := by
  induction fs generalizing c k with
  | nil =>
    refine ⟨?_, (List.append_nil _).symm, (List.append_nil _).symm⟩
    simp [registered, dealtWith]
  | cons f fs ih =>
    obtain ⟨consumer, delivered, held⟩ := called_offer registered f
    obtain ⟨consumer', delivered', held'⟩ := ih consumer
    -- The callback counts the frames, so the rest is dealt with as if one frame had come before.
    have split (ways : Handling → Bool) : dealtWith k.policy ways k.received (f :: fs) =
        dealtWith k.policy ways k.received [f] ++
          dealtWith k.policy ways (k.received + 1) fs := by
      simp only [dealtWith]
      split <;> rfl
    refine ⟨?_, ?_, ?_⟩
    · have received : k.received + (f :: fs).length = k.received + 1 + fs.length := by
        rw [List.length_cons]
        omega
      rw [List.foldl_cons, consumer', split, List.append_assoc, received]
      rfl
    · rw [List.foldl_cons, delivered', delivered, split, List.append_assoc]
      rfl
    · rw [List.foldl_cons, held', held, split, List.append_assoc]
      rfl

/-- So it is for frames that were drawn before they are offered. -/
theorem called_drawn {k : Consumer} (registered : c.consumer = some k) (pool : FramePool)
    (log : List LogLine) (fs : List Frame) :
    Called k fs c (fs.foldl (fun c f => c.offer f) { c with pool, log }) := by
  obtain ⟨consumer, delivered, held⟩ := called_offers (c := { c with pool, log }) registered fs
  exact ⟨consumer, delivered, held⟩

/-- The consumer sees some of the frames that it is offered, in their order. -/
theorem delivered_offers (c : Core) (fs : List Frame) : ∃ seen : List Frame,
    seen.Sublist fs ∧ (fs.foldl (fun c f => c.offer f) c).delivered = c.delivered ++ seen := by
  cases registered : c.consumer with
  | none =>
    have unheard := (heeds_foldl heeds_offer fs c).unheard (Option.map_eq_none_iff.2 registered)
    exact ⟨[], List.nil_sublist _, unheard.trans (List.append_nil _).symm⟩
  | some k =>
    exact ⟨_, dealtWith_sublist .., (called_offers registered fs).delivered⟩

/-- Frames that find no callback are released one after another. -/
theorem published_of_unheard (silent : c.registered = none) (fs : List Frame) :
    (fs.foldl (fun c f => c.offer f) c).pool.published = c.pool.published - fs.length := by
  induction fs generalizing c with
  | nil => rfl
  | cons f fs ih =>
    obtain ⟨log, released⟩ := offer_of_unregistered silent f
    have rest := ih (c := { c with pool := c.pool.release f, log }) silent
    rw [List.foldl_cons, released, rest, List.length_cons]
    show c.pool.published - 1 - fs.length = _
    omega

/-- The registration is heeded by frames that the device delivers, which are released at once if
they find no callback. -/
structure Dispatches (c c' : Core) : Prop extends Heeds c c' where
  published : c.registered = none → c'.pool.published = c.pool.published

theorem Dispatches.refl (c : Core) : c.Dispatches c := ⟨.refl c, fun _ => rfl⟩

/-- What was dispatched in one stretch and in the next was dispatched in both. -/
theorem Dispatches.trans {c₁ c₂ c₃ : Core} (h : c₁.Dispatches c₂) (h' : c₂.Dispatches c₃) :
    c₁.Dispatches c₃ where
  toHeeds := h.toHeeds.trans h'.toHeeds
  published silent := (h'.published (h.registered.trans silent)).trans (h.published silent)

/-- Where frames are spared there is nothing to dispatch. -/
theorem Spared.dispatches {c c' : Core} (h : c.Spared c') : c.Dispatches c' := by
  rw [h.eq]
  exact ⟨⟨rfl, fun _ => rfl⟩, fun _ => rfl⟩

/-- Frames that were drawn and are offered one after another. -/
theorem dispatches_offers (c : Core) (fs : List Frame) (log : List LogLine) :
    c.Dispatches
      (fs.foldl (fun c f => c.offer f) { c with pool := c.pool.draw fs.length, log }) := by
  let drawn : Core := { c with pool := c.pool.draw fs.length, log }
  have same : c.Heeds drawn := ⟨rfl, fun _ => rfl⟩
  refine ⟨same.trans (heeds_foldl heeds_offer fs drawn), fun silent => ?_⟩
  exact (published_of_unheard (c := drawn) silent fs).trans (Nat.add_sub_cancel ..)

/-- Drawing a frame heeds the registration. -/
theorem heeds_allocate (c : Core) (d : FrameDraft) : c.Heeds (c.allocate d).2 := by
  unfold allocate
  split <;> exact ⟨rfl, fun _ => rfl⟩

/-- Letting go of the consumer lets go of its callback. -/
theorem registered_dismiss (c : Core) : c.dismiss.registered = none := by
  unfold dismiss registered
  split
  next none =>
    rw [none]
    rfl
  next => rfl

/-- It leaves the cache of modes alone, -/
theorem modes_dismiss (c : Core) : c.dismiss.modes = c.modes := by
  unfold Core.dismiss
  split <;> rfl

/-- and calls nothing. -/
theorem delivered_dismiss (c : Core) : c.dismiss.delivered = c.delivered := by
  unfold dismiss
  split <;> rfl

/-- The application has released its frames: none are out but those that the consumer keeps. -/
def Returned (c : Core) : Prop :=
  c.pool.published ≤ (c.consumer.map fun k => k.kept.length).getD 0

instance (c : Core) : Decidable c.Returned := Nat.decLe _ _

/-- The consumer's own frames are released with it. -/
theorem Returned.published_dismiss {c : Core} (h : c.Returned) : c.dismiss.pool.published = 0 := by
  have releaseAll (fs : List Frame) (p : FramePool) :
      (p.releaseAll fs).published = p.published - fs.length := by
    induction fs generalizing p with
    | nil => rfl
    | cons f fs ih =>
      have rest : (p.releaseAll (f :: fs)).published = p.published - 1 - fs.length :=
        ih (p.release f)
      rw [rest, List.length_cons, Nat.sub_sub, Nat.add_comm]
  unfold Returned at h
  unfold dismiss
  split
  next none =>
    rw [none] at h
    exact Nat.le_zero.1 h
  next k some =>
    rw [some] at h
    exact (releaseAll k.kept c.pool).trans (Nat.sub_eq_zero_of_le h)

end Core

/-- Whatever else happens beside the operations heeds the registration, -/
theorem CoreAside.heeds (x : CoreAside) (c : Core) : c.Heeds (x.apply c) := by
  cases x with
  | allocate d => exact Core.heeds_allocate c d
  | offer f => exact Core.heeds_offer c f
  | release | releaseHeld | setLimit | registerFormat | registerControl | registerInfo | setTime =>
    exact ⟨rfl, fun _ => rfl⟩
  | callControl id call =>
    show c.Heeds (c.callStored id call)
    unfold Core.callStored
    split
    · exact ⟨rfl, fun _ => rfl⟩
    · exact Core.Heeds.refl c
  | setPose p =>
    show c.Heeds (c.keepPose p)
    unfold Core.keepPose Core.setPose
    cases c.pose <;> exact ⟨rfl, fun _ => rfl⟩

/-- and leaves the cache of modes alone. -/
theorem CoreAside.modes (x : CoreAside) (c : Core) : (x.apply c).modes = c.modes := by
  cases x with
  | allocate d =>
    show (c.allocate d).2.modes = c.modes
    unfold Core.allocate
    split <;> rfl
  | offer f => exact (Core.transit_offer c f).modes
  | callControl id call =>
    show (c.callStored id call).modes = c.modes
    unfold Core.callStored
    split <;> rfl
  | setPose p =>
    show (c.keepPose p).modes = c.modes
    unfold Core.keepPose Core.setPose
    cases c.pose <;> rfl
  | release | releaseHeld | setLimit | registerFormat | registerControl | registerInfo | setTime =>
    rfl

end Sensing
