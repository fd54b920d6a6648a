/-!
# Numbered slots

A client keeps the things it was given in numbered slots: at most one thing in each.
-/

namespace Sensing

/-- Things kept under numbers. -/
structure Slots (α : Type) where
  entries : List (Nat × α) := []

namespace Slots

variable {α : Type}

/-- What a slot holds. -/
def get? (s : Slots α) (i : Nat) : Option α := (s.entries.find? fun e => e.1 = i).map (·.2)

/-- The slots with one of them emptied. -/
def clear (s : Slots α) (i : Nat) : Slots α := ⟨s.entries.filter fun e => e.1 ≠ i⟩

/-- The slots with something put into one of them. -/
def put (s : Slots α) (i : Nat) (a : α) : Slots α := ⟨(s.clear i).entries ++ [(i, a)]⟩

/-- Everything kept, oldest first. -/
def contents (s : Slots α) : List α := s.entries.map (·.2)

end Slots

end Sensing
