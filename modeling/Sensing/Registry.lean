/-!
# Registries

A registry keeps one value under each key; the first registration of a key wins and nothing is ever
removed. Keys are listed in their order, which a registry takes from an integer that it assigns to
each key.

A `Once` is a value that is computed at most once: a failed computation leaves it empty, so that a
later attempt computes it again.
-/

namespace Sensing

/-- Values kept under keys, in increasing order of the keys' ranks. -/
structure Registry (κ α : Type) where
  entries : List (κ × α) := []

namespace Registry

variable {κ α : Type} [DecidableEq κ]

/-- The value under a key. -/
def get? (r : Registry κ α) (k : κ) : Option α := (r.entries.find? fun e => e.1 = k).map (·.2)

def contains (r : Registry κ α) (k : κ) : Bool := r.entries.any fun e => e.1 = k

/-- The keys, in order. -/
def keys (r : Registry κ α) : List κ := r.entries.map (·.1)

omit [DecidableEq κ] in
/-- Puts an entry in front of the first one with a greater rank. -/
def insertByRank (rank : κ → Int) (e : κ × α) : List (κ × α) → List (κ × α)
  | [] => [e]
  | f :: fs => if rank e.1 < rank f.1 then e :: f :: fs else f :: insertByRank rank e fs

/-- Registers a value and says whether the key was free; a key that was not keeps its value. -/
def register (rank : κ → Int) (r : Registry κ α) (k : κ) (a : α) : Bool × Registry κ α :=
  if r.contains k then (false, r) else (true, ⟨insertByRank rank (k, a) r.entries⟩)

/-- The registry with the value under a key changed. -/
def update (r : Registry κ α) (k : κ) (f : α → α) : Registry κ α :=
  ⟨r.entries.map fun e => if e.1 = k then (e.1, f e.2) else e⟩

end Registry

/-- A value computed at most once. -/
structure Once (α : Type) where
  value : Option α := none
  deriving DecidableEq

namespace Once

variable {α ε : Type}

/-- Keeps a value, unless there is one already, and gives the one that is kept. -/
def fill (o : Once α) (a : α) : α × Once α :=
  match o.value with
  | some kept => (kept, o)
  | none => (a, ⟨some a⟩)

/-- Gives the value, from the computation `attempt` where there is none yet, and says whether the
computation ran. -/
def getOrTry (o : Once α) (attempt : Except ε α) : Except ε α × Bool × Once α :=
  match o.value with
  | some a => (.ok a, false, o)
  | none =>
    match attempt with
    | .ok a => (.ok a, true, (o.fill a).2)
    | .error e => (.error e, true, o)

end Once

end Sensing
