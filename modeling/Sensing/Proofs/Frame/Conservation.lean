import Sensing.Proofs.Frame.Drawing

/-!
# No buffer is lost

A pool makes buffers as they are needed and keeps those it takes back. So the buffers there are,
published or kept, are as many as the frames that were ever live at once, which is the one number
that a run of the pool has to remember: it ties the two counts of the pool together, and since it
never passes the capacity, a frame that comes back always finds room.

Main result: `Lending.conservation`, for every order of allocations, releases, writes and changes
of the publish limit.
-/

namespace Sensing

/-- A pool and the live frames that were drawn from it. -/
structure Lending where
  pool : FramePool
  live : List Frame := []
  deriving DecidableEq

/-- What is done to a pool and its frames. -/
inductive PoolCall where
  | allocate (size : Nat) (info : FrameMeta)
  /-- The frame at a place among the live ones is dropped. -/
  | drop (place : Nat)
  | write (place : Nat) (source : Bytes)
  | setLimit (limit : Nat)

/-- The publish limit after a call. -/
def PoolCall.limit (limit : Nat) : PoolCall → Nat
  | .setLimit limit => limit
  | _ => limit

namespace Lending

/-- A pool that has not lent anything. -/
def fresh (capacity limit : Nat) : Lending := { pool := { capacity, limit } }

def after (l : Lending) : PoolCall → Lending
  | .allocate size info =>
    match l.pool.allocate size info with
    | .error _ => l
    | .ok (frame, pool) => ⟨pool, l.live ++ [frame]⟩
  | .drop place =>
    match l.live[place]? with
    | none => l
    | some frame => ⟨l.pool.release frame, l.live.eraseIdx place⟩
  | .write place source => { l with live := l.live.modify place (·.write source) }
  | .setLimit limit => { l with pool := { l.pool with limit := limit } }

def run (l : Lending) (calls : List PoolCall) : Lending := calls.foldl after l

/-- The largest number of frames that are live at once in a run. -/
def peak (l : Lending) : List PoolCall → Nat
  | [] => l.live.length
  | call :: calls => max l.live.length ((l.after call).peak calls)

/-- Whether a frame is to be had. -/
def Grants (l : Lending) (size : Nat) (info : FrameMeta) : Prop :=
  ∃ given, l.pool.allocate size info = .ok given

/-- The published frames are the live ones, and there are as many buffers as frames were live at
once. -/
structure Conserved (capacity high : Nat) (l : Lending) : Prop where
  capacity_eq : l.pool.capacity = capacity
  published_eq : l.pool.published = l.live.length
  buffers : l.pool.published + l.pool.pooled = high
  bounded : high ≤ capacity

variable {l : Lending} {capacity limit high size : Nat} {info : FrameMeta}

/-- A pool that has lent nothing has lost nothing. -/
theorem conserved_fresh : (fresh capacity limit).Conserved capacity 0 :=
  ⟨rfl, rfl, rfl, Nat.zero_le capacity⟩

/-! ## What each call does -/

/-- Where there is room, an allocation is granted and its frame is live, -/
theorem after_allocate_of_room (room : l.pool.published < l.pool.bound) :
    l.after (.allocate size info) =
      ⟨l.pool.draw 1, l.live ++ [(FrameDraft.mk size info).blank]⟩ := by
  have drawn : l.pool.allocate size info = _ := FramePool.allocate_of_room room ⟨size, info⟩
  simp only [after, drawn]

/-- and where there is none it changes nothing. -/
theorem after_allocate_of_no_room (full : l.pool.bound ≤ l.pool.published) :
    l.after (.allocate size info) = l := by
  obtain ⟨refusal, refused⟩ := FramePool.allocate_of_no_room full ⟨size, info⟩
  dsimp only at refused
  simp only [after, refused]

/-- A frame is to be had while fewer are published than the bound. -/
theorem grants_iff : l.Grants size info ↔ l.pool.published < l.pool.bound := by
  constructor
  · rintro ⟨given, granted⟩
    refine Nat.lt_of_not_le fun full => ?_
    obtain ⟨refusal, refused⟩ := FramePool.allocate_of_no_room full ⟨size, info⟩
    cases granted.symm.trans refused
  · intro room
    exact ⟨_, FramePool.allocate_of_room room ⟨size, info⟩⟩

/-- Only a new limit changes the limit. -/
theorem limit_after (l : Lending) (call : PoolCall) :
    (l.after call).pool.limit = call.limit l.pool.limit := by
  cases call with
  | allocate size info =>
    by_cases room : l.pool.published < l.pool.bound
    · rw [after_allocate_of_room room]
      rfl
    · rw [after_allocate_of_no_room (Nat.le_of_not_lt room)]
      rfl
  | drop place =>
    unfold after
    dsimp only
    split <;> rfl
  | write => rfl
  | setLimit => rfl

/-- The limit is the one that was set last. -/
theorem limit_run (l : Lending) (calls : List PoolCall) :
    (l.run calls).pool.limit = calls.foldl PoolCall.limit l.pool.limit := by
  induction calls generalizing l with
  | nil => rfl
  | cons call calls ih =>
    show ((l.after call).run calls).pool.limit = _
    rw [ih, limit_after]
    rfl

/-! ## Conservation -/

namespace Conserved

/-- No more frames are live than ever were. -/
theorem live_le (h : l.Conserved capacity high) : l.live.length ≤ high := by
  have published_eq := h.published_eq
  have buffers := h.buffers
  omega

/-- A live frame that comes back finds room, and the count of published frames is not zero. -/
theorem release (h : l.Conserved capacity high) (live : l.live ≠ []) (f : Frame) :
    (l.pool.release f).free = l.pool.free ++ [f.data] ∧
      (l.pool.release f).published + 1 = l.pool.published := by
  have some_live := List.length_pos_iff.2 live
  obtain ⟨capacity_eq, published_eq, buffers, bounded⟩ := h
  have room : l.pool.free.length < l.pool.capacity := by
    unfold FramePool.pooled at buffers
    omega
  constructor
  · exact if_pos room
  · show l.pool.published - 1 + 1 = l.pool.published
    omega

/-- A new buffer is made only if none is kept, and then more frames are live than ever before. -/
theorem after_allocate (h : l.Conserved capacity high) :
    (l.after (.allocate size info)).Conserved capacity
      (max high (l.after (.allocate size info)).live.length) := by
  by_cases room : l.pool.published < l.pool.bound
  · obtain ⟨capacity_eq, published_eq, buffers, bounded⟩ := h
    rw [after_allocate_of_room room]
    unfold FramePool.bound at room
    unfold FramePool.pooled at buffers
    refine ⟨capacity_eq, ?_, ?_, ?_⟩
    · simp only [FramePool.draw_published, published_eq, List.length_append, List.length_singleton]
    · -- A kept buffer is taken if there is one; if not, all buffers are out, and the peak rises.
      simp only [FramePool.pooled, FramePool.draw, List.length_drop, List.length_append,
        List.length_singleton]
      omega
    · simp only [List.length_append, List.length_singleton]
      omega
  · rw [after_allocate_of_no_room (Nat.le_of_not_lt room)]
    rw [Nat.max_eq_left h.live_le]
    exact h

/-- Dropping a frame keeps its buffer; dropping none changes nothing. -/
theorem after_drop (h : l.Conserved capacity high) (place : Nat) :
    (l.after (.drop place)).Conserved capacity
      (max high (l.after (.drop place)).live.length) := by
  have published_eq := h.published_eq
  have buffers := h.buffers
  unfold after
  dsimp only
  split
  · rw [Nat.max_eq_left h.live_le]
    exact h
  · next frame found =>
    obtain ⟨inside, -⟩ := List.getElem?_eq_some_iff.1 found
    -- There is a live frame, so its release finds room.
    obtain ⟨kept, counted⟩ := h.release (List.ne_nil_of_length_pos (by omega)) frame
    have fewer : (l.live.eraseIdx place).length + 1 = l.live.length := by
      rw [List.length_eraseIdx_of_lt inside]
      omega
    refine ⟨h.capacity_eq, ?_, ?_, ?_⟩
    · show (l.pool.release frame).published = (l.live.eraseIdx place).length
      omega
    · show (l.pool.release frame).published + (l.pool.release frame).free.length =
        max high (l.live.eraseIdx place).length
      unfold FramePool.pooled at buffers
      rw [kept, List.length_append, List.length_singleton]
      omega
    · have bounded := h.bounded
      dsimp only
      omega

/-- Whatever is called, no buffer is lost. -/
theorem after (h : l.Conserved capacity high) (call : PoolCall) :
    (l.after call).Conserved capacity (max high (l.after call).live.length) := by
  have known : max high l.live.length = high := Nat.max_eq_left h.live_le
  cases call with
  | allocate size info => exact h.after_allocate
  | drop place => exact h.after_drop place
  | write place source =>
    have same : (l.after (.write place source)).live.length = l.live.length :=
      List.length_modify ..
    rw [same, known]
    exact ⟨h.capacity_eq, h.published_eq.trans same.symm, h.buffers, h.bounded⟩
  | setLimit limit =>
    show Conserved _ (max high l.live.length) _
    rw [known]
    exact ⟨h.capacity_eq, h.published_eq, h.buffers, h.bounded⟩

/-- Induction on the calls: the count of buffers rises to the peak of the run and not above. -/
theorem run (h : l.Conserved capacity high) (calls : List PoolCall) :
    (l.run calls).Conserved capacity (max high (l.peak calls)) := by
  induction calls generalizing l high with
  | nil =>
    show l.Conserved capacity (max high l.live.length)
    rw [Nat.max_eq_left h.live_le]
    exact h
  | cons call calls ih =>
    have known := h.live_le
    have rest := ih (h.after call)
    have first : (l.after call).live.length ≤ (l.after call).peak calls := by
      cases calls with
      | nil => exact Nat.le_refl _
      | cons => exact Nat.le_max_left ..
    -- The ledger before the call has no more live frames than the peak so far.
    have same : max high (l.peak (call :: calls)) =
        max (max high (l.after call).live.length) ((l.after call).peak calls) := by
      show max high (max l.live.length _) = _
      omega
    rw [same]
    exact rest

end Conserved

/-- In every order of calls: the published frames are the live ones; there are as many buffers,
published and kept, as frames were ever live at once, which is never more than the capacity; a live
frame that is released is counted and its buffer kept; a frame is to be had exactly while fewer are
published than the limit last set and the capacity allow, and a refusal changes nothing; and a new
limit leaves the live frames alone and holds from then on, however many are live. -/
theorem conservation (capacity limit : Nat) (calls : List PoolCall) :
    let l := (fresh capacity limit).run calls
    l.pool.published = l.live.length ∧
      l.pool.published + l.pool.pooled = (fresh capacity limit).peak calls ∧
      (fresh capacity limit).peak calls ≤ capacity ∧
      (∀ f ∈ l.live, (l.pool.release f).free = l.pool.free ++ [f.data] ∧
        (l.pool.release f).published + 1 = l.pool.published) ∧
      (∀ size info,
        (l.Grants size info ↔
          l.pool.published < min (calls.foldl PoolCall.limit limit) capacity) ∧
        (¬ l.Grants size info → l.after (.allocate size info) = l)) ∧
      ∀ lowered later,
        (l.after (.setLimit lowered)).live = l.live ∧
        ∀ size info, ((l.after (.setLimit lowered)).run later).Grants size info ↔
          ((l.after (.setLimit lowered)).run later).live.length <
            min (later.foldl PoolCall.limit lowered) capacity := by
  intro l
  -- The conservation law at the end of the run, of which the clauses are instances.
  have conserved : l.Conserved capacity ((fresh capacity limit).peak calls) := by
    have initially : (fresh capacity limit).Conserved capacity 0 := conserved_fresh
    have kept := initially.run calls
    rwa [Nat.zero_max] at kept
  refine ⟨conserved.published_eq, conserved.buffers, conserved.bounded, ?_, ?_, ?_⟩
  · intro f live
    exact conserved.release (List.ne_nil_of_mem live) f
  · intro size info
    constructor
    · rw [grants_iff, FramePool.bound, conserved.capacity_eq, limit_run]
      rfl
    · intro refused
      exact after_allocate_of_no_room (Nat.le_of_not_lt (mt grants_iff.2 refused))
  · intro lowered later
    refine ⟨rfl, fun size info => ?_⟩
    have kept := (conserved.after (.setLimit lowered)).run later
    rw [grants_iff, FramePool.bound, kept.capacity_eq, kept.published_eq, limit_run]
    rfl

/-- Three frames, one of them dropped, then a limit below the two that are left. -/
example : ((fresh 4 4).run [.allocate 1 {}, .allocate 1 {}, .allocate 1 {}, .drop 1,
    .setLimit 1, .allocate 1 {}, .drop 0, .drop 0, .allocate 1 {}]).live.length = 1 := by decide

end Lending

end Sensing
