import Sensing.Proofs.Frame.Offering

/-!
# Whose frames they are

A frame that is out is kept by the consumer, or held by the application, which was handed it by a
consumer or drew it itself. Which frames the application drew the endpoint does not know, and which
were ever live at once is remembered by nobody, so both are kept in a `Tally` beside the endpoint.
It is told of each aside before that takes place (`CoreAside.tally`).

The balance is that the pool counts as published what is out, and has made as many buffers as frames
were live at once (`Core.Balanced`). Frames on their way to the consumer, which somebody has drawn
and not offered yet, count as drawn by hand. Then the steps that an image goes through, and each
aside, keep the balance one by one: drawing adds to what is drawn (`Balanced.allocateAll`), offering
takes from it (`Balanced.offer`), and letting go of the consumer gives back what that kept
(`Balanced.dismiss`).
-/

namespace Sensing

/-! ## Pools -/

namespace FramePool

/-- So many frames are out, and so many buffers were made. -/
structure Stocked (out high : Nat) (p : FramePool) : Prop where
  published : p.published = out
  buffers : p.published + p.pooled = high
  bounded : high ≤ p.capacity

variable {p : FramePool} {n high : Nat}

/-- No more frames are out than were ever live at once. -/
theorem Stocked.out_le (h : p.Stocked n high) : n ≤ high := by
  obtain ⟨published, buffers, -⟩ := h
  omega

/-- A frame that comes back finds room. -/
theorem Stocked.release (h : p.Stocked (n + 1) high) (f : Frame) :
    (p.release f).Stocked n high := by
  obtain ⟨published, buffers, bounded⟩ := h
  unfold pooled at buffers
  have room : p.free.length < p.capacity := by omega
  have kept : (p.release f).free = p.free ++ [f.data] := if_pos room
  refine ⟨?_, ?_, bounded⟩
  · show p.published - 1 = n
    omega
  · show p.published - 1 + (p.release f).free.length = high
    rw [kept, List.length_append, List.length_singleton]
    omega

/-- Frames come back one after another. -/
theorem Stocked.releaseAll {fs : List Frame} (h : p.Stocked (n + fs.length) high) :
    (p.releaseAll fs).Stocked n high := by
  induction fs generalizing p with
  | nil => exact h
  | cons f fs ih => exact ih (Stocked.release h f)

/-- A new buffer is made only if none is kept, and then more frames are out than ever before. -/
theorem Stocked.draw (h : p.Stocked n high) (room : p.published < p.bound) :
    (p.draw 1).Stocked (n + 1) (max high (n + 1)) := by
  obtain ⟨published, buffers, bounded⟩ := h
  unfold bound at room
  unfold pooled at buffers
  refine ⟨?_, ?_, ?_⟩
  · rw [draw_published, published]
  · simp only [pooled, FramePool.draw, List.length_drop]
    omega
  · show max high (n + 1) ≤ p.capacity
    omega

end FramePool

namespace Core

/-- The frames that the consumer keeps. -/
def kept (c : Core) : List Frame := (c.consumer.map (·.kept)).getD []

/-- The number of frames that are out where so many were drawn by hand. -/
def live (drawn : Nat) (c : Core) : Nat := c.kept.length + c.held.length + drawn

/-- How many of the frames are drawn before one is refused. -/
def granted : List FrameDraft → Core → Nat
  | [], _ => 0
  | d :: ds, c =>
    match c.allocate d with
    | (none, _) => 0
    | (some _, c) => granted ds c + 1

/-- The pool has the frames that are out on its books, and as many buffers were made as frames were
ever live at once. -/
def Balanced (drawn high : Nat) (c : Core) : Prop := c.pool.Stocked (c.live drawn) high

/-- The pool, the consumer and what the application was handed are the same. -/
structure SameFrames (c c' : Core) : Prop where
  pool : c'.pool = c.pool
  consumer : c'.consumer = c.consumer
  held : c'.held = c.held

variable {c c' : Core} {drawn high : Nat}

theorem SameFrames.refl (c : Core) : c.SameFrames c := ⟨rfl, rfl, rfl⟩

/-- A new endpoint has lent nothing. -/
theorem balanced_create (capacity limit : Nat) : (create capacity limit).Balanced 0 0 :=
  ⟨rfl, rfl, Nat.zero_le _⟩

/-- One with the same frames is as balanced. -/
theorem Balanced.of_same (h : c.Balanced drawn high) (same : c.SameFrames c') :
    c'.Balanced drawn high := by
  unfold Balanced live kept
  rw [same.pool, same.consumer, same.held]
  exact h

/-- The log has no part in the balance. -/
theorem Balanced.note (h : c.Balanced drawn high) (level : LogLevel) (message : String) :
    (c.note level message).Balanced drawn high := h.of_same ⟨rfl, rfl, rfl⟩

/-! ## Drawing -/

/-- A frame drawn by hand comes back. -/
theorem Balanced.release (h : c.Balanced (drawn + 1) high) (f : Frame) :
    (c.release f).Balanced drawn high := FramePool.Stocked.release h f

/-- A frame that is drawn counts as drawn by hand until it is offered; where none is drawn, nothing
changes. -/
theorem Balanced.allocate (h : c.Balanced drawn high) (d : FrameDraft) :
    (∃ f c', c.allocate d = (some f, c') ∧ c'.live drawn = c.live drawn ∧
        c'.Balanced (drawn + 1) (max high (c.live drawn + 1))) ∨
      ∃ c', c.allocate d = (none, c') ∧ c'.Balanced drawn high := by
  by_cases room : c.pool.published < c.pool.bound
  · exact .inl ⟨_, _, allocate_of_room room d, rfl, FramePool.Stocked.draw h room⟩
  · obtain ⟨refusal, refused⟩ := FramePool.allocate_of_no_room (Nat.le_of_not_lt room) d
    refine .inr ⟨c.note .debug refusal.message, ?_, h.note _ _⟩
    unfold Core.allocate
    rw [refused]

/-- What is drawn of an image is all of it, or none in the end. Meanwhile more may have been live
than before or after. -/
theorem Balanced.allocateAll (h : c.Balanced drawn high) (ds : List FrameDraft) :
    (c.allocateAll ds).2.Balanced (drawn + ((c.allocateAll ds).1.getD []).length)
      (max high (c.live drawn + c.granted ds)) := by
  induction ds generalizing c drawn high with
  | nil =>
    show c.Balanced drawn (max high (c.live drawn))
    rw [Nat.max_eq_left h.out_le]
    exact h
  | cons d ds ih =>
    unfold Core.allocateAll granted
    rcases h.allocate d with ⟨f, c₁, first, same, h₁⟩ | ⟨c₁, refused, h₁⟩
    · rw [first]
      dsimp only
      -- From here on the frame counts as drawn by hand, which moves the peak of the rest up by one.
      have rest := ih h₁
      have live : c₁.live (drawn + 1) = c.live drawn + 1 := by
        rw [← same]
        rfl
      have peak : max (max high (c.live drawn + 1)) (c₁.live (drawn + 1) + c₁.granted ds) =
          max high (c.live drawn + (c₁.granted ds + 1)) := by omega
      rw [peak] at rest
      split
      next fs c₂ all =>
        rw [all] at rest
        have more : drawn + 1 + fs.length = drawn + (f :: fs).length := by
          rw [List.length_cons]
          omega
        rw [Option.getD_some, more] at rest
        exact rest
      next c₂ none =>
        -- A later one was refused, so this one goes back; that it was live the peak remembers.
        rw [none] at rest
        exact rest.release f
    · rw [refused]
      show c₁.Balanced drawn (max high (c.live drawn))
      rw [Nat.max_eq_left h.out_le]
      exact h₁

/-! ## Offering -/

/-- Whatever the consumer does with a frame, somebody else has it now. -/
theorem Balanced.offer (h : c.Balanced (drawn + 1) high) (f : Frame) :
    (c.offer f).Balanced drawn high := by
  unfold Core.offer
  split
  next => exact (h.note _ _).release f
  next k found =>
    have out : c.live (drawn + 1) = k.kept.length + c.held.length + (drawn + 1) := by
      unfold live kept
      rw [found]
      rfl
    unfold Balanced at h
    rw [out] at h
    dsimp only
    -- An ignored or a released frame comes back, a held one is the application's, and a kept one
    -- stays with the consumer.
    split
    · exact FramePool.Stocked.release h f
    · exact FramePool.Stocked.release h f
    · have handed : k.kept.length + (c.held ++ [f]).length + drawn =
          k.kept.length + c.held.length + (drawn + 1) := by
        rw [List.length_append, List.length_singleton]
        omega
      show c.pool.Stocked (k.kept.length + (c.held ++ [f]).length + drawn) high
      rw [handed]
      exact h
    · have taken : (k.kept ++ [f]).length + c.held.length + drawn =
          k.kept.length + c.held.length + (drawn + 1) := by
        rw [List.length_append, List.length_singleton]
        omega
      show c.pool.Stocked ((k.kept ++ [f]).length + c.held.length + drawn) high
      rw [taken]
      exact h

/-- Frames are offered one after another. -/
theorem Balanced.offers {fs : List Frame} (h : c.Balanced (drawn + fs.length) high) :
    (fs.foldl (fun c f => c.offer f) c).Balanced drawn high := by
  induction fs generalizing c with
  | nil => exact h
  | cons f fs ih => exact ih (Balanced.offer h f)

/-! ## Consumers come and go -/

/-- The frames that the consumer kept come back. -/
theorem Balanced.dismiss (h : c.Balanced drawn high) : c.dismiss.Balanced drawn high := by
  unfold Core.dismiss
  split
  next => exact h
  next k found =>
    have out : c.live drawn = 0 + c.held.length + drawn + k.kept.length := by
      unfold live kept
      rw [found]
      show k.kept.length + _ + _ = _
      omega
    unfold Balanced at h
    rw [out] at h
    exact h.releaseAll

/-- A new consumer takes the place of the one before, whose frames come back. -/
theorem Balanced.engage (h : c.Balanced drawn high) {k : Consumer} (empty : k.kept = []) :
    (c.engage k).Balanced drawn high := by
  have dismissed := h.dismiss
  have nobody : c.dismiss.kept = [] := by
    unfold Core.dismiss kept
    split
    next found =>
      rw [found]
      rfl
    next => rfl
  unfold Balanced live at dismissed
  rw [nobody] at dismissed
  unfold Balanced live
  have none : (c.engage k).kept = [] := empty
  rw [none]
  exact dismissed

/-- The application releases frames that it was handed, the earliest first. -/
theorem Balanced.releaseHeld (h : c.Balanced drawn high) (n : Nat) :
    (c.releaseHeld n).Balanced drawn high := by
  have out : c.live drawn =
      c.kept.length + (c.held.drop n).length + drawn + (c.held.take n).length := by
    unfold live
    rw [List.length_drop, List.length_take]
    omega
  unfold Balanced at h
  rw [out] at h
  exact h.releaseAll

/-! ## Who has the frames that are out -/

/-- A callback is registered just while there is a consumer. -/
theorem registered_eq_none_iff : c.registered = none ↔ c.consumer = none := Option.map_eq_none_iff

/-- Without a consumer it is the application. -/
theorem Balanced.published_of_silent (h : c.Balanced drawn high) (silent : c.consumer = none) :
    c.pool.published = c.held.length + drawn := by
  have out : c.pool.published = c.kept.length + c.held.length + drawn := h.published
  have none : c.kept = [] := by
    unfold kept
    rw [silent]
    rfl
  rw [none, List.length_nil, Nat.zero_add] at out
  exact out

/-- Where the application has none it is the consumer. -/
theorem Balanced.returned (h : c.Balanced 0 high) (none : c.held = []) : c.Returned := by
  have out : c.pool.published = c.kept.length + c.held.length + 0 := h.published
  rw [none, List.length_nil, Nat.add_zero] at out
  unfold Returned
  rw [out]
  unfold kept
  cases c.consumer <;> exact Nat.le_refl _

end Core

/-! ## Tallies -/

/-- What is told of an endpoint's frames beside the endpoint. -/
structure Tally where
  /-- The frames that the application drew by hand and still has. -/
  drawn : Nat := 0
  /-- The frames that it ever drew by hand. -/
  draws : Nat := 0
  /-- The most frames that were ever live at once. -/
  high : Nat := 0

/-- So many frames were live at once. -/
def Tally.reach (n : Nat) (t : Tally) : Tally := { t with high := max t.high n }

/-- The tally after one thing after another, each of which is told as it finds the state. -/
def Tally.through {ρ α : Type} (step : ρ → α → ρ) (tell : ρ → α → Tally → Tally) :
    List α → ρ → Tally → Tally
  | [], _, t => t
  | a :: as, r, t => through step tell as (step r a) (tell r a t)

/-- The tally was told of what happened beside the operations: it is balanced with the frames if it
was before, whether the endpoint streams and to which callback is the same, without a callback the
application was handed nothing, and what it has more than before it has drawn by hand. -/
structure Reckoned (c : Core) (t : Tally) (c' : Core) (t' : Tally) : Prop where
  balanced : c.Balanced t.drawn t.high → c'.Balanced t'.drawn t'.high
  streaming : c'.streaming = c.streaming
  registered : c'.registered = c.registered
  withheld : c.Balanced t.drawn t.high → c.registered = none → c.held = [] → c'.held = []
  draws : t'.drawn + t.draws ≤ t.drawn + t'.draws

namespace Reckoned

variable {c c' c₁ c₂ c₃ : Core} {t t₁ t₂ t₃ : Tally}

/-- What has not happened was told. -/
theorem refl (c : Core) (t : Tally) : Reckoned c t c t :=
  ⟨id, rfl, rfl, fun _ _ none => none, Nat.le_refl _⟩

/-- What happened in two stretches was told in both. -/
theorem trans (h : Reckoned c₁ t₁ c₂ t₂) (h' : Reckoned c₂ t₂ c₃ t₃) : Reckoned c₁ t₁ c₃ t₃ where
  balanced before := h'.balanced (h.balanced before)
  streaming := h'.streaming.trans h.streaming
  registered := h'.registered.trans h.registered
  withheld before silent none :=
    h'.withheld (h.balanced before) (h.registered.trans silent) (h.withheld before silent none)
  draws := by
    have first := h.draws
    have second := h'.draws
    omega

/-- What happened one after another was told in the same order. -/
theorem through {ρ α : Type} (core : ρ → Core) {step : ρ → α → ρ} {tell : ρ → α → Tally → Tally}
    (h : ∀ r a t, Reckoned (core r) t (core (step r a)) (tell r a t)) (as : List α) (r : ρ)
    (t : Tally) :
    Reckoned (core r) t (core (as.foldl step r)) (Tally.through step tell as r t) := by
  induction as generalizing r t with
  | nil => exact refl (core r) t
  | cons a as ih => exact (h r a t).trans (ih _ _)

/-- What the device delivers is released at once if it finds no callback. So no more frames are out
than before, and the application has none of them. -/
theorem of_dispatches (dispatches : c.Dispatches c') (calm : c.Calm c') {n : Nat}
    (balanced : c.Balanced t.drawn t.high → c'.Balanced t.drawn (max t.high n)) :
    Reckoned c t c' (t.reach n) where
  balanced := balanced
  streaming := calm.streaming
  registered := dispatches.registered
  withheld before silent none := by
    have silent' : c'.registered = Option.none := dispatches.registered.trans silent
    have out := before.published_of_silent (Core.registered_eq_none_iff.1 silent)
    have out' := (balanced before).published_of_silent (Core.registered_eq_none_iff.1 silent')
    -- Both counts are of what the application has, and the pool counts as many as before.
    rw [dispatches.published silent, out, none, List.length_nil] at out'
    exact List.length_eq_zero_iff.1 (by omega)
  draws := Nat.le_refl _

end Reckoned

namespace CoreAside

/-- The application gives away only what it has. -/
def Covered (t : Tally) : CoreAside → Prop
  | .offer _ | .release _ => 0 < t.drawn
  | _ => True

/-- The tally after an aside. -/
def tally : CoreAside → Core → Tally → Tally
  | .allocate d, c, t =>
    let n := c.granted [d]
    { drawn := t.drawn + n, draws := t.draws + n, high := max t.high (c.live t.drawn + n) }
  | .offer _, _, t | .release _, _, t => { t with drawn := t.drawn - 1 }
  | _, _, t => t

variable {c : Core} {t : Tally}

/-- Each aside keeps the balance, provided the application gives away only what it has. -/
theorem balanced (x : CoreAside) (h : c.Balanced t.drawn t.high) (covered : x.Covered t) :
    (x.apply c).Balanced (x.tally c t).drawn (x.tally c t).high := by
  -- What is given away was drawn by hand, so there is one to subtract.
  have given : 0 < t.drawn → c.Balanced (t.drawn - 1 + 1) t.high := fun some => by
    rw [Nat.sub_add_cancel some]
    exact h
  cases x with
  | allocate d =>
    show (c.allocate d).2.Balanced (t.drawn + c.granted [d]) (max t.high (c.live t.drawn + _))
    unfold Core.granted
    rcases h.allocate d with ⟨f, c₁, first, -, h₁⟩ | ⟨c₁, refused, h₁⟩
    · rw [first]
      exact h₁
    · rw [refused]
      show c₁.Balanced t.drawn (max t.high (c.live t.drawn))
      rw [Nat.max_eq_left h.out_le]
      exact h₁
  | offer f => exact (given covered).offer f
  | release f => exact (given covered).release f
  | releaseHeld n => exact h.releaseHeld n
  | setLimit n => exact ⟨h.published, h.buffers, h.bounded⟩
  | registerFormat | registerControl | registerInfo | setTime => exact h.of_same ⟨rfl, rfl, rfl⟩
  | callControl id call =>
    show (c.callStored id call).Balanced t.drawn t.high
    unfold Core.callStored
    split
    · exact h.of_same ⟨rfl, rfl, rfl⟩
    · exact h
  | setPose p =>
    show (c.keepPose p).Balanced t.drawn t.high
    unfold Core.keepPose Core.setPose
    cases c.pose
    · exact h.of_same ⟨rfl, rfl, rfl⟩
    · exact h

/-- Where no callback is registered, no aside hands the application a frame. -/
theorem withheld (x : CoreAside) (silent : c.registered = none) (none : c.held = []) :
    (x.apply c).held = [] := by
  cases x with
  | allocate d =>
    show (c.allocate d).2.held = []
    unfold Core.allocate
    split <;> exact none
  | offer f =>
    obtain ⟨_, released⟩ := Core.offer_of_unregistered silent f
    show (c.offer f).held = []
    rw [released]
    exact none
  | releaseHeld n =>
    show c.held.drop n = []
    rw [none, List.drop_nil]
  | callControl id call =>
    show (c.callStored id call).held = []
    unfold Core.callStored
    split <;> exact none
  | setPose p =>
    show (c.keepPose p).held = []
    unfold Core.keepPose Core.setPose
    cases c.pose <;> exact none
  | release | setLimit | registerFormat | registerControl | registerInfo | setTime => exact none

/-- What the application has more of than before it has drawn in this aside. -/
theorem draws (x : CoreAside) (c : Core) (t : Tally) :
    (x.tally c t).drawn + t.draws ≤ t.drawn + (x.tally c t).draws := by
  cases x with
  | allocate | offer | release =>
    dsimp only [tally]
    omega
  | _ => exact Nat.le_refl _

/-- So every aside was told. -/
theorem reckoned (x : CoreAside) (covered : x.Covered t) (c : Core) :
    Reckoned c t (x.apply c) (x.tally c t) where
  balanced before := x.balanced before covered
  streaming := (x.calm c).streaming
  registered := (x.heeds c).registered
  withheld _ := x.withheld
  draws := x.draws c t

end CoreAside

end Sensing
