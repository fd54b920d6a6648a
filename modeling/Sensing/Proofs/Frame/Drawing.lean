import Sensing.Endpoint.Core

/-!
# All frames or none

The frames of one raw image are drawn from the pool one after another, and the pool may refuse any
of them. What was drawn before a refusal is given back, so what remains of a drawing that failed is
a line in the log and buffers that have changed places.

Main results: as many frames as were asked for are drawn, zeroed, if there is room for all of them
(`allocateAll_of_room`), and otherwise none (`allocateAll_of_no_room`).
-/

namespace Sensing

namespace FramePool

/-- How many frames may be published at once. -/
def bound (p : FramePool) : Nat := min p.limit p.capacity

/-- The pool after `k` frames have been handed out. -/
def draw (k : Nat) (p : FramePool) : FramePool :=
  { p with free := p.free.drop k, published := p.published + k }

theorem draw_bound (k : Nat) (p : FramePool) : (p.draw k).bound = p.bound := rfl

@[simp] theorem draw_published (k : Nat) (p : FramePool) :
    (p.draw k).published = p.published + k := rfl

/-- Frames are handed out one after another. -/
theorem draw_draw (j k : Nat) (p : FramePool) : (p.draw j).draw k = p.draw (j + k) := by
  simp only [draw, List.drop_drop, Nat.add_assoc]

end FramePool

/-- A plane of zeros that the source reaches to the end of becomes the front of the source. -/
theorem overwrite_zeros {n : Nat} {source : Bytes} (long : n ≤ source.length) :
    overwrite (List.replicate n 0) source = source.take n := by
  unfold overwrite
  rw [List.length_replicate, List.drop_of_length_le (by simpa using long), List.append_nil]

/-- The frame that is made of a draft before its data is filled in. -/
def FrameDraft.blank (d : FrameDraft) : Frame := ⟨List.replicate d.size 0, d.info⟩

/-- Data of the size of a frame becomes all of its data. -/
theorem FrameDraft.write_blank {d : FrameDraft} {data : Bytes} (size : d.size = data.length) :
    d.blank.write data = ⟨data, d.info⟩ := by
  unfold FrameDraft.blank Frame.write
  dsimp only
  rw [overwrite_zeros (Nat.le_of_eq size), size, List.take_length]

namespace FramePool

/-- A pool hands out a frame, zeroed, if its bound allows one more. -/
theorem allocate_of_room {p : FramePool} (h : p.published < p.bound) (d : FrameDraft) :
    p.allocate d.size d.info = .ok (d.blank, p.draw 1) := by
  unfold bound at h
  unfold allocate
  rw [if_neg (by omega), if_neg (by omega)]
  unfold draw
  rw [List.drop_one]
  rfl

/-- A pool at its bound refuses. -/
theorem allocate_of_no_room {p : FramePool} (h : p.bound ≤ p.published) (d : FrameDraft) :
    ∃ refusal, p.allocate d.size d.info = .error refusal := by
  unfold bound at h
  unfold allocate
  by_cases limit : p.limit ≤ p.published
  · exact ⟨_, if_pos limit⟩
  · have capacity : p.capacity ≤ p.published := by omega
    rw [if_neg limit, if_pos capacity]
    exact ⟨_, rfl⟩

end FramePool

namespace Core

/-- The same frames are published, kept and held. Only the log and the buffers kept for reuse
differ. -/
structure Spared (c c' : Core) : Prop where
  eq : c' = { c with pool := { c.pool with free := c'.pool.free }, log := c'.log }

/-- What was spared in one stretch and in the next was spared in both. -/
theorem Spared.trans {a b c : Core} (h : a.Spared b) (h' : b.Spared c) : a.Spared c := by
  refine ⟨?_⟩
  rw [h'.eq, h.eq]

/-- A line in the log spares the frames. -/
theorem spared_note (level : LogLevel) (message : String) (c : Core) :
    c.Spared (c.note level message) := ⟨rfl⟩

variable {c : Core} {ds : List FrameDraft}

/-- Where there is room a frame is drawn, -/
theorem allocate_of_room (h : c.pool.published < c.pool.bound) (d : FrameDraft) :
    c.allocate d = (some d.blank, { c with pool := c.pool.draw 1 }) := by
  unfold allocate
  rw [FramePool.allocate_of_room h d]

/-- and where there is none the refusal is logged and nothing else changes. -/
theorem allocate_of_no_room (h : c.pool.bound ≤ c.pool.published) (d : FrameDraft) :
    ∃ c', c.allocate d = (none, c') ∧ c.Spared c' := by
  obtain ⟨refusal, refused⟩ := FramePool.allocate_of_no_room h d
  unfold allocate
  rw [refused]
  exact ⟨_, rfl, spared_note ..⟩

/-- Where there is room for all frames, all are drawn. -/
theorem allocateAll_of_room (h : ds = [] ∨ c.pool.published + ds.length ≤ c.pool.bound) :
    c.allocateAll ds =
      (some (ds.map FrameDraft.blank), { c with pool := c.pool.draw ds.length }) := by
  induction ds generalizing c with
  | nil => rfl
  | cons d ds ih =>
    have room : c.pool.published + (ds.length + 1) ≤ c.pool.bound := by
      rcases h with h | h
      · cases h
      · exact h
    have first := allocate_of_room (c := c) (by omega) d
    have later : (c.pool.draw 1).published + ds.length ≤ (c.pool.draw 1).bound := by
      rw [FramePool.draw_published, FramePool.draw_bound]
      omega
    have rest := ih (c := { c with pool := c.pool.draw 1 }) (.inr later)
    unfold allocateAll
    rw [first]
    dsimp only
    rw [rest]
    simp only [FramePool.draw_draw, Nat.add_comm 1, List.map_cons, List.length_cons]

/-- Where there is not, none is, and what was drawn at first is given back. -/
theorem allocateAll_of_no_room (h : c.pool.bound < c.pool.published + ds.length)
    (nonempty : ds ≠ []) : ∃ c', c.allocateAll ds = (none, c') ∧ c.Spared c' := by
  induction ds generalizing c with
  | nil => exact absurd rfl nonempty
  | cons d ds ih =>
    unfold allocateAll
    by_cases room : c.pool.published < c.pool.bound
    · rw [allocate_of_room room d]
      dsimp only
      -- One was drawn, so there are more to draw, and one of those will be refused.
      have more : ds ≠ [] := by
        rintro rfl
        simp at h
        omega
      have later : (c.pool.draw 1).bound < (c.pool.draw 1).published + ds.length := by
        rw [List.length_cons] at h
        rw [FramePool.draw_published, FramePool.draw_bound]
        omega
      obtain ⟨c', refused, spared⟩ := ih (c := { c with pool := c.pool.draw 1 }) later more
      rw [refused]
      refine ⟨_, rfl, ⟨?_⟩⟩
      rw [spared.eq]
      rfl
    · obtain ⟨c', refused, spared⟩ := allocate_of_no_room (Nat.le_of_not_lt room) d
      rw [refused]
      exact ⟨c', rfl, spared⟩

end Core

end Sensing
