import Sensing.Binary.Text
import Sensing.Stream.PixelFormat
import Sensing.Text.Record

/-!
# Frames

A frame is decoded data together with what is known about it. Times are 64-bit floating-point
numbers: the device's own time and the host's.
-/

namespace Sensing

/-- What is known about a frame besides its data. -/
structure FrameMeta where
  timestamp : Double := 0
  number : Nat := 0
  /-- The host's time of arrival. -/
  systemTime : Double := 0
  width : UInt32 := 0
  height : UInt32 := 0
  fps : UInt32 := 0
  channel : Channel := .any
  encoding : Encoding := .any
  deriving DecidableEq, Inhabited

/-- A frame in somebody's hands. -/
structure Frame where
  data : Bytes
  info : FrameMeta
  deriving DecidableEq, Inhabited

namespace FrameMeta

/-- The diagnostic text. -/
def text (i : FrameMeta) : String :=
  Text.record "FrameAdditionalData"
    [("timestamp", i.timestamp.diagnostic), ("frame_number", toString i.number),
      ("system_time", i.systemTime.diagnostic), ("width", toString i.width),
      ("height", toString i.height), ("fps", toString i.fps), ("stream", i.channel.label),
      ("format", i.encoding.label)]

end FrameMeta

namespace Frame

/-- The diagnostic text, which gives the length of the data only. -/
def text (f : Frame) : String :=
  Text.record "Frame" [("len", toString f.data.length), ("additional_data", f.info.text)]

/-- The frame with the front of its data replaced, as far as both reach. -/
def write (f : Frame) (source : Bytes) : Frame := { f with data := overwrite f.data source }

end Frame

end Sensing
