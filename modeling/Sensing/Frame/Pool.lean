import Sensing.Frame.Basic

/-!
# The frame pool

Frames are drawn from a pool of bounded capacity. A frame is *published* from its allocation to its
release; the pool refuses a further one while as many are published as the publish limit or the
capacity allows, and the caller is expected to drop what it wanted to deliver. Released buffers are
kept and reused, cleared, so what a buffer held before is never seen again.

Frames are values here: `allocate` hands one out and `release` takes one back.
-/

namespace Sensing

/-- A pool: its bounds, the buffers kept for reuse (the next one first) and the number of frames
handed out and not yet released. -/
structure FramePool where
  capacity : Nat
  limit : Nat
  free : List Bytes := []
  published : Nat := 0
  deriving DecidableEq

/-- Why the pool refuses a frame. -/
inductive Refusal where
  | publishLimit (published : Nat)
  | exhausted (capacity : Nat)
  deriving DecidableEq, Repr

namespace Refusal

def message : Refusal → String
  | .publishLimit published =>
    s!"FrameArchive: publish list full ({published} frames outstanding)"
  | .exhausted capacity => s!"FrameArchive: pool exhausted ({capacity} buffers)"

end Refusal

namespace FramePool

/-- A buffer cleared and brought to a size. -/
def recycle (_buffer : Bytes) (size : Nat) : Bytes := List.replicate size 0

/-- Hands out a zeroed frame of a size, or says why not; the publish limit is looked at first. -/
def allocate (p : FramePool) (size : Nat) (info : FrameMeta) :
    Except Refusal (Frame × FramePool) :=
  if p.limit ≤ p.published then .error (.publishLimit p.published)
  else if p.capacity ≤ p.published then .error (.exhausted p.capacity)
  else
    .ok (⟨recycle (p.free.headD []) size, info⟩,
      { p with free := p.free.tail, published := p.published + 1 })

/-- Takes a frame back and keeps its buffer, if there is room for it. -/
def release (p : FramePool) (f : Frame) : FramePool :=
  { p with
    published := p.published - 1
    free := if p.free.length < p.capacity then p.free ++ [f.data] else p.free }

/-- Takes frames back in order. -/
def releaseAll (p : FramePool) (fs : List Frame) : FramePool := fs.foldl release p

/-- The number of buffers kept for reuse. -/
def pooled (p : FramePool) : Nat := p.free.length

end FramePool

end Sensing
