import Sensing.Proofs.Lifecycle.Phase

/-!
# What happens beside the operations

Applications draw and release frames, register formats, controls and information fields, and move
the pose and the clock; none of it concerns the device or the lifecycle. `Calm` is what two states
have in common when nothing but that lies between them: the flags are the same, and no line was
logged that is meant for everybody.

Main result: whatever an application does beside the operations is calm (`CoreAside.calm`).
-/

namespace Sensing

namespace Core

/-- The flags are the same, and what was logged meanwhile is of interest only in a search for
errors. -/
structure Calm (c c' : Core) : Prop where
  opened : c'.opened = c.opened
  streaming : c'.streaming = c.streaming
  alive : c'.alive = c.alive
  log : ∀ l ∈ c'.log, l ∈ c.log ∨ l.level.isGeneral = false

theorem Calm.refl (c : Core) : c.Calm c := ⟨rfl, rfl, rfl, fun _ h => .inl h⟩

theorem Calm.trans {a b c : Core} (h : a.Calm b) (h' : b.Calm c) : a.Calm c := by
  refine ⟨h'.opened.trans h.opened, h'.streaming.trans h.streaming, h'.alive.trans h.alive, ?_⟩
  intro l hl
  rcases h'.log l hl with hb | hlevel
  · exact h.log l hb
  · exact .inr hlevel

/-- What is calm leaves the phase as it was. -/
theorem Calm.inPhase {c c' : Core} {p : Phase} (h : c.Calm c') (hp : c.InPhase p) : c'.InPhase p :=
  ⟨h.opened.trans hp.opened, h.streaming.trans hp.streaming⟩

/-- A fold is calm if its rounds are. -/
theorem calm_foldl {α : Type} {f : Core → α → Core} (hf : ∀ (c : Core) (a : α), c.Calm (f c a))
    (as : List α) (c : Core) : c.Calm (as.foldl f c) := by
  induction as generalizing c with
  | nil => exact Calm.refl c
  | cons a as ih => exact (hf c a).trans (ih (f c a))

variable (c : Core)

theorem calm_note (level : LogLevel) (h : level.isGeneral = false) (message : String) :
    c.Calm (c.note level message) := by
  refine ⟨rfl, rfl, rfl, ?_⟩
  intro l hl
  rcases List.mem_append.1 hl with hold | hnew
  · exact .inl hold
  · cases List.mem_singleton.1 hnew
    exact .inr h

theorem calm_release (f : Frame) : c.Calm (c.release f) := ⟨rfl, rfl, rfl, fun _ h => .inl h⟩

theorem calm_allocate (d : FrameDraft) : c.Calm (c.allocate d).2 := by
  unfold allocate
  split
  · exact ⟨rfl, rfl, rfl, fun _ h => .inl h⟩
  · exact calm_note c .debug rfl _

theorem calm_allocateAll (ds : List FrameDraft) : c.Calm (allocateAll ds c).2 := by
  -- Where one draft finds no room, the frames drawn before it are released again.
  induction ds generalizing c with
  | nil => exact Calm.refl c
  | cons d ds ih =>
    have first : c.Calm (c.allocate d).2 := calm_allocate c d
    have rest : (c.allocate d).2.Calm (allocateAll ds (c.allocate d).2).2 := ih _
    unfold allocateAll
    split
    next c₁ h₁ =>
      rw [h₁] at first
      exact first
    next frame c₁ h₁ =>
      rw [h₁] at first rest
      split
      next frames c₂ h₂ =>
        rw [h₂] at rest
        exact first.trans rest
      next c₂ h₂ =>
        rw [h₂] at rest
        exact (first.trans rest).trans (calm_release c₂ frame)

theorem calm_offer (f : Frame) : c.Calm (c.offer f) := by
  unfold offer
  split
  · exact (calm_note c .trace rfl _).trans (calm_release _ f)
  · split <;> exact ⟨rfl, rfl, rfl, fun _ h => .inl h⟩

theorem calm_dismiss : c.Calm c.dismiss := by
  unfold dismiss
  split <;> exact ⟨rfl, rfl, rfl, fun _ h => .inl h⟩

theorem calm_engage (k : Consumer) : c.Calm (c.engage k) := by
  have h := calm_dismiss c
  exact ⟨h.opened, h.streaming, h.alive, h.log⟩

/-! ## Calls that may come to nothing -/

/-- Calls a control that keeps its value itself; nothing happens where there is none. -/
def callStored (id : ControlId) (call : ControlCall) (c : Core) : Core :=
  match c.control? id with
  | .ok (.stored s) => { c with controls := c.controls.update id fun _ => .stored (s.call call).2 }
  | _ => c

/-- Sets the pose, unless it was set before. -/
def keepPose (p : Pose) (c : Core) : Core :=
  match c.setPose p with
  | .ok c => c
  | .error _ => c

/-- A control that keeps its value itself has no part in the flags. -/
theorem calm_callStored (id : ControlId) (call : ControlCall) : c.Calm (c.callStored id call) := by
  unfold callStored
  split
  · exact ⟨rfl, rfl, rfl, fun _ h => .inl h⟩
  · exact Calm.refl c

theorem calm_keepPose (p : Pose) : c.Calm (c.keepPose p) := by
  unfold keepPose setPose
  cases c.pose with
  | some _ => exact Calm.refl c
  | none => exact ⟨rfl, rfl, rfl, fun _ h => .inl h⟩

end Core

/-- What an application does with an endpoint beside its operations. -/
inductive CoreAside where
  | allocate (d : FrameDraft)
  | offer (f : Frame)
  | release (f : Frame)
  | releaseHeld (n : Nat)
  | setLimit (n : Nat)
  | registerFormat (pf : PixelFormat)
  | registerControl (id : ControlId) (range : ControlRange) (description : String)
  | callControl (id : ControlId) (call : ControlCall)
  | registerInfo (f : InfoField) (value : String)
  | setPose (p : Pose)
  | setTime (t : Double)

namespace CoreAside

def apply : CoreAside → Core → Core
  | .allocate d, c => (c.allocate d).2
  | .offer f, c => c.offer f
  | .release f, c => c.release f
  | .releaseHeld n, c => c.releaseHeld n
  | .setLimit n, c => { c with pool := { c.pool with limit := n } }
  | .registerFormat pf, c => c.registerFormat pf
  | .registerControl id range description, c =>
    (c.registerControl id (.stored (.create range description))).2
  | .callControl id call, c => c.callStored id call
  | .registerInfo f value, c => (c.registerInfo f value).2
  | .setPose p, c => c.keepPose p
  | .setTime t, c => { c with hostTime := t }

/-- Whatever an application does beside the operations is calm. -/
theorem calm (x : CoreAside) (c : Core) : c.Calm (x.apply c) := by
  cases x with
  | allocate d => exact Core.calm_allocate c d
  | offer f => exact Core.calm_offer c f
  | release | releaseHeld | setLimit | registerFormat | registerControl | registerInfo | setTime =>
    exact ⟨rfl, rfl, rfl, fun _ h => .inl h⟩
  | callControl id call => exact Core.calm_callStored c id call
  | setPose p => exact Core.calm_keepPose c p

end CoreAside

end Sensing
