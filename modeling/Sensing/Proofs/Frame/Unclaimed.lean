import Sensing.Proofs.Frame.Balance

/-!
# Frames that nobody keeps

A consumer may release every frame at once. Where no consumer ever did anything else, and the
application draws no frames by hand, all frames are back as soon as they have been offered
(`Core.Unclaimed`), and nobody who waits for them has to wait.
-/

namespace Sensing

/-- A consumer that releases every frame at once. -/
structure Consumer.Passing (k : Consumer) : Prop where
  releases : ∀ n, k.policy n = .release
  empty : k.kept = []

namespace Core

/-- Frames that are offered are released at once, and none were handed to the application. -/
structure Passing (c : Core) : Prop where
  consumer : ∀ k, c.consumer = some k → k.Passing
  held : c.held = []

/-- The same where the pool's books are balanced: so no frame is out. -/
structure Unclaimed (c : Core) : Prop extends c.Passing where
  balanced : ∃ high, c.Balanced 0 high

variable {c c' : Core}

/-- A frame that is offered to a consumer of this kind is released. -/
theorem Passing.offer (h : c.Passing) (f : Frame) : (c.offer f).Passing := by
  unfold Core.offer
  split
  next => exact ⟨h.consumer, h.held⟩
  next k found =>
    have passing := h.consumer k found
    rw [passing.releases]
    refine ⟨fun next same => ?_, h.held⟩
    cases same
    exact ⟨passing.releases, passing.empty⟩

/-- So are frames that are offered one after another. -/
theorem Passing.offers (h : c.Passing) (fs : List Frame) :
    (fs.foldl (fun c f => c.offer f) c).Passing := by
  induction fs generalizing c with
  | nil => exact h
  | cons f fs ih => exact ih (h.offer f)

/-- A new endpoint has no frames out. -/
theorem unclaimed_create (capacity limit : Nat) : (create capacity limit).Unclaimed :=
  ⟨⟨(fun _ none => nomatch none), rfl⟩, 0, balanced_create capacity limit⟩

/-- Where nobody keeps frames none is published. -/
theorem Unclaimed.published (h : c.Unclaimed) : c.pool.published = 0 := by
  obtain ⟨high, balanced⟩ := h.balanced
  have kept : c.kept = [] := by
    unfold Core.kept
    cases found : c.consumer with
    | none => rfl
    | some k => exact (h.consumer k found).empty
  have out : c.pool.published = c.kept.length + c.held.length + 0 := balanced.published
  rw [out, kept, h.held]
  rfl

/-- Nothing but the pool, the consumer and the application's hands matters for that. -/
theorem Unclaimed.of_same (h : c.Unclaimed) (same : c.SameFrames c') : c'.Unclaimed := by
  obtain ⟨high, balanced⟩ := h.balanced
  refine ⟨⟨?_, same.held.trans h.held⟩, high, balanced.of_same same⟩
  rw [same.consumer]
  exact h.consumer

/-- Frames were drawn, and those that were not given back have been offered. -/
theorem Unclaimed.offered (h : c.Unclaimed) {pool : FramePool} {log : List LogLine}
    {fs : List Frame} (offers : c' = fs.foldl (fun c f => c.offer f) { c with pool, log })
    (balanced : ∃ high, c'.Balanced 0 high) : c'.Unclaimed := by
  refine ⟨?_, balanced⟩
  rw [offers]
  exact Passing.offers (c := { c with pool, log }) ⟨h.consumer, h.held⟩ fs

/-- Letting go of the consumer is a passage of frames, -/
theorem transit_dismiss (c : Core) : c.Transit c.dismiss := by
  unfold Core.dismiss
  split <;> exact ⟨rfl⟩

/-- and so is engaging one. -/
theorem transit_engage (k : Consumer) (c : Core) : c.Transit (c.engage k) :=
  (transit_dismiss c).trans ⟨rfl⟩

/-- Without a consumer nobody keeps frames either. -/
theorem Unclaimed.dismiss (h : c.Unclaimed) : c.dismiss.Unclaimed := by
  obtain ⟨high, balanced⟩ := h.balanced
  have silent := consumer_of_unregistered (registered_dismiss c)
  have held : c.dismiss.held = c.held := by
    unfold Core.dismiss
    split <;> rfl
  refine ⟨⟨fun k found => ?_, held.trans h.held⟩, high, balanced.dismiss⟩
  rw [silent] at found
  cases found

/-- Nor does a new consumer of this kind. -/
theorem Unclaimed.engage (h : c.Unclaimed) {k : Consumer} (passing : k.Passing) :
    (c.engage k).Unclaimed := by
  obtain ⟨high, balanced⟩ := h.balanced
  refine ⟨⟨fun k' found => ?_, h.dismiss.held⟩, high, balanced.engage passing.empty⟩
  cases found
  exact passing

end Core

end Sensing
