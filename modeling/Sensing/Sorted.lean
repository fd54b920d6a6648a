/-!
# Sorted lists without repetition

Inserting a value, by a key of natural numbers compared from the front, into a list whose keys
increase strictly. A value whose key is already there is not inserted again.
-/

namespace Sensing

/-- Inserts a value in front of the first greater one, unless its key is present. -/
def insertByKey {α : Type} (key : α → List Nat) (a : α) : List α → List α
  | [] => [a]
  | b :: bs =>
    if key a < key b then a :: b :: bs
    else if key b < key a then b :: insertByKey key a bs
    else b :: bs

/-- The values in increasing order of their keys, one for each key. -/
def sortByKey {α : Type} (key : α → List Nat) (as : List α) : List α :=
  as.foldl (fun sorted a => insertByKey key a sorted) []

/-- The values without later repetitions, in order of first occurrence. -/
def distinct {α : Type} [DecidableEq α] (as : List α) : List α :=
  as.foldl (fun seen a => if a ∈ seen then seen else seen ++ [a]) []

end Sensing
