import Sensing.Frame.Pool
import Sensing.Slots

/-!
# Frames on a shelf

A pool together with a client that keeps frames in numbered slots. Flushing waits until every
published frame has been released; a flush that finds frames on the shelf waits for the client to
let all of them go.
-/

namespace Sensing

/-- A pool and the frames a client holds. -/
structure Shelf where
  pool : FramePool
  slots : Slots Frame := {}

namespace Shelf

/-- Puts a new frame into a slot and releases what the slot held, or does nothing where the pool
refuses. -/
def allocate (s : Shelf) (slot size : Nat) (info : FrameMeta) : Bool × Shelf :=
  match s.pool.allocate size info with
  | .error _ => (false, s)
  | .ok (frame, pool) =>
    let pool := match s.slots.get? slot with
      | none => pool
      | some old => pool.release old
    (true, ⟨pool, s.slots.put slot frame⟩)

/-- Releases the frame in a slot and says whether there was one. -/
def drop (s : Shelf) (slot : Nat) : Bool × Shelf :=
  match s.slots.get? slot with
  | none => (false, s)
  | some frame => (true, ⟨s.pool.release frame, s.slots.clear slot⟩)

/-- Overwrites the front of the frame in a slot and says whether there was one. -/
def write (s : Shelf) (slot : Nat) (source : Bytes) : Bool × Shelf :=
  match s.slots.get? slot with
  | none => (false, s)
  | some frame => (true, { s with slots := s.slots.put slot (frame.write source) })

def setLimit (s : Shelf) (limit : Nat) : Shelf :=
  { s with pool := { s.pool with limit := limit } }

/-- Releases every frame of the client. -/
def dropAll (s : Shelf) : Shelf := ⟨s.pool.releaseAll s.slots.contents, {}⟩

/-- Flushes the pool and says whether that had to wait. -/
def flush (s : Shelf) : Bool × Shelf :=
  if s.pool.published = 0 then (false, s) else (true, s.dropAll)

end Shelf

end Sensing
