import Sensing.Clock
import Sensing.Frame.Basic
import Sensing.Stream.Route

/-!
# Lanes

While a device streams, each route of a configuration has a *lane*: its source and a clock of its
own. A lane judges a raw image, gives it a time and a number, and says which frames it makes.
-/

namespace Sensing

/-- The way of the raw images of one route into frames. -/
structure Lane where
  source : Source
  clock : RollingClock

/-- A frame that is still to be made: its size and what is known about it. -/
structure FrameDraft where
  size : Nat
  info : FrameMeta
  deriving DecidableEq

namespace Lane

/-- The lane of a source whose clock has seen nothing. -/
def start (layout : ClockLayout) (s : Source) : Lane := ⟨s, .start layout⟩

/-- Whether a raw image is worth a frame. -/
def accepts (l : Lane) (data : Bytes) : Bool := validImage l.source.imageSize data

/-- Takes in an accepted raw image: its time and its number. -/
def count (l : Lane) (data : Bytes) : Double × Nat × Lane :=
  let (time, clock) := l.clock.stamp data
  let (number, clock) := clock.number
  (time, number, { l with clock })

/-- The frames to be made from a raw image, one for each output of the unpacker. -/
def drafts (s : Source) (time hostTime : Double) (number rawLength : Nat) : List FrameDraft :=
  s.unpacker.outputs.map fun (channel, encoding) =>
    { size := s.outputSize encoding rawLength
      info :=
        { timestamp := time, number, systemTime := hostTime, width := s.mode.width,
          height := s.mode.height, fps := s.mode.fps, channel, encoding } }

/-- The frames with their data filled in by the unpacker. -/
def decode (s : Source) (data : Bytes) (frames : List Frame) : List Frame :=
  let planes := s.unpacker.decoder.run (frames.map (·.data)) data s.mode.width s.mode.height
  List.zipWith (fun f plane => { f with data := plane }) frames planes

end Lane

end Sensing
