import Sensing.Binary.Basic

/-!
# Poses

Where an endpoint sits on its device: a rotation, row by row, and a translation in meters.
-/

namespace Sensing

/-- Three coordinates. -/
structure Triple where
  x : Single
  y : Single
  z : Single
  deriving DecidableEq

/-- A rigid transformation relative to the device. -/
structure Pose where
  first : Triple
  second : Triple
  third : Triple
  position : Triple
  deriving DecidableEq

namespace Pose

/-- No rotation and no translation. -/
def identity : Pose := ⟨⟨1, 0, 0⟩, ⟨0, 1, 0⟩, ⟨0, 0, 1⟩, ⟨0, 0, 0⟩⟩

end Pose

end Sensing
