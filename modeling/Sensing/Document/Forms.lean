import Sensing.Document.Schema
import Sensing.Info
import Sensing.Pose
import Sensing.Stream.Mode

/-!
# The document forms of streams

How requests, native modes, channels, encodings, information fields and poses stand in a document,
and how they are read back. A request may leave out all but its channel; a mode leaves out nothing.
-/

namespace Sensing

namespace Channel

def toDocument (c : Channel) : Document := .ofString c.name

def ofDocument? (dialect : Dialect) (d : Document) : Option Channel := d.choice? dialect ofName?

end Channel

namespace Encoding

def toDocument (e : Encoding) : Document := .ofString e.name

def ofDocument? (dialect : Dialect) (d : Document) : Option Encoding := d.choice? dialect ofName?

end Encoding

namespace InfoField

def toDocument (f : InfoField) : Document := .ofString f.key

def ofDocument? (dialect : Dialect) (d : Document) : Option InfoField := d.choice? dialect ofKey?

end InfoField

/-- A 32-bit word as an integer. -/
def wordDocument (w : UInt32) : Document := .ofInt w.toNat

namespace StreamRequest

/-- The fields of a request; a list may end after the first one. -/
def forms : List FieldForm :=
  [{ name := "stream" }, { name := "width", mayBeCut := true },
    { name := "height", mayBeCut := true }, { name := "fps", mayBeCut := true },
    { name := "format", mayBeCut := true }]

def toDocument (r : StreamRequest) : Document :=
  .ofFields [("stream", r.channel.toDocument), ("width", wordDocument r.width),
    ("height", wordDocument r.height), ("fps", wordDocument r.fps),
    ("format", r.encoding.toDocument)]

def ofDocument? (dialect : Dialect) (d : Document) : Option StreamRequest := do
  match ← d.fields? dialect forms with
  | [channel, width, height, fps, encoding] =>
    return {
      channel := ← Document.required? (Channel.ofDocument? dialect) channel
      width := ← Document.orDefault? Document.word? 0 width
      height := ← Document.orDefault? Document.word? 0 height
      fps := ← Document.orDefault? Document.word? 0 fps
      encoding := ← Document.orDefault? (Encoding.ofDocument? dialect) .any encoding }
  | _ => none

end StreamRequest

namespace NativeMode

/-- The fields of a mode. -/
def forms : List FieldForm :=
  [{ name := "width" }, { name := "height" }, { name := "fps" }, { name := "format" }]

def toDocument (m : NativeMode) : Document :=
  .ofFields [("width", wordDocument m.width), ("height", wordDocument m.height),
    ("fps", wordDocument m.fps), ("format", wordDocument m.format.code)]

def ofDocument? (dialect : Dialect) (d : Document) : Option NativeMode := do
  match ← d.fields? dialect forms with
  | [width, height, fps, format] =>
    return {
      width := ← Document.required? Document.word? width
      height := ← Document.required? Document.word? height
      fps := ← Document.required? Document.word? fps
      format := ⟨← Document.required? Document.word? format⟩ }
  | _ => none

end NativeMode

namespace Triple

/-- Three numbers in a list. -/
def ofDocument? : Document → Option Triple
  | .list [x, y, z] => return ⟨← x.single?, ← y.single?, ← z.single?⟩
  | _ => none

end Triple

namespace Pose

/-- The fields of a pose. -/
def forms : List FieldForm := [{ name := "orientation" }, { name := "position" }]

/-- The three rows of a rotation. -/
def rows? : Document → Option (Triple × Triple × Triple)
  | .list [a, b, c] =>
    return (← Triple.ofDocument? a, ← Triple.ofDocument? b, ← Triple.ofDocument? c)
  | _ => none

def ofDocument? (dialect : Dialect) (d : Document) : Option Pose := do
  match ← d.fields? dialect forms with
  | [orientation, position] =>
    let (first, second, third) ← Document.required? rows? orientation
    return ⟨first, second, third, ← Document.required? Triple.ofDocument? position⟩
  | _ => none

end Pose

end Sensing
