import Mathlib.Data.List.Induction
import Mathlib.Data.List.Nodup
import Sensing.Sorted

/-!
# Values in order of first occurrence

`distinct` keeps the values of a list, each once, in the order in which they first occur.
-/

namespace Sensing

variable {α : Type} [DecidableEq α]

/-- One more value is added at the end, unless it is there already. -/
theorem distinct_concat (as : List α) (a : α) :
    distinct (as ++ [a]) = if a ∈ distinct as then distinct as else distinct as ++ [a] :=
  List.foldl_concat ..

/-- No value is lost, and none is made up. -/
theorem mem_distinct {as : List α} {a : α} : a ∈ distinct as ↔ a ∈ as := by
  induction as using List.reverseRecOn with
  | nil => exact Iff.rfl
  | append_singleton as b ih =>
    rw [distinct_concat, List.mem_append, List.mem_singleton, ← ih]
    split
    next seen =>
      constructor
      · exact .inl
      · rintro (old | rfl)
        · exact old
        · exact seen
    next => rw [List.mem_append, List.mem_singleton]

/-- Values stand in the order of their first occurrences. -/
theorem pairwise_distinct (as : List α) :
    (distinct as).Pairwise fun a b => as.idxOf a < as.idxOf b := by
  induction as using List.reverseRecOn with
  | nil => exact List.Pairwise.nil
  | append_singleton as x ih =>
    have index {a : α} (ha : a ∈ distinct as) : (as ++ [x]).idxOf a = as.idxOf a :=
      List.idxOf_append_of_mem (mem_distinct.1 ha)
    have before : (distinct as).Pairwise fun a b => (as ++ [x]).idxOf a < (as ++ [x]).idxOf b := by
      refine List.Pairwise.imp_of_mem ?_ ih
      intro a b ha hb less
      rwa [index ha, index hb]
    rw [distinct_concat]
    split
    next => exact before
    next fresh =>
      refine List.pairwise_append.2 ⟨before, List.pairwise_singleton _ _, ?_⟩
      intro a ha b hb
      obtain rfl := List.mem_singleton.1 hb
      -- The new value first occurs at the very end.
      have last : (as ++ [b]).idxOf b = as.length := by
        rw [List.idxOf_append_of_notMem fun old => fresh (mem_distinct.2 old)]
        simp
      rw [index ha, last]
      exact List.idxOf_lt_length_iff.2 (mem_distinct.1 ha)

/-- Values that stand in the order of their first occurrences elsewhere occur once. -/
theorem nodup_of_pairwise_idxOf {as bs : List α}
    (h : bs.Pairwise fun a b => as.idxOf a < as.idxOf b) : bs.Nodup := by
  refine List.Pairwise.imp ?_ h
  intro a b less same
  rw [same] at less
  exact Nat.lt_irrefl _ less

/-- Each value is there once. -/
theorem nodup_distinct (as : List α) : (distinct as).Nodup :=
  nodup_of_pairwise_idxOf (pairwise_distinct as)

/-- Values that occur again have nothing new to show. -/
theorem distinct_filterMap {β : Type} [DecidableEq β] (f : α → Option β) (as : List α) :
    distinct ((distinct as).filterMap f) = distinct (as.filterMap f) := by
  -- Induction from the end, where both sides decide whether to add what the last value shows.
  induction as using List.reverseRecOn with
  | nil => rfl
  | append_singleton as a ih =>
    rw [distinct_concat, List.filterMap_append]
    cases shown : f a with
    | none =>
      simp only [List.filterMap_cons, shown, List.filterMap_nil, List.append_nil]
      rw [← ih]
      split <;> simp [shown]
    | some b =>
      simp only [List.filterMap_cons, shown, List.filterMap_nil]
      rw [distinct_concat, ← ih]
      split
      next seen =>
        have known : b ∈ distinct ((distinct as).filterMap f) :=
          mem_distinct.2 (List.mem_filterMap.2 ⟨a, seen, shown⟩)
        rw [if_pos known]
      next =>
        rw [List.filterMap_append, ← distinct_concat]
        simp [shown]

/-- The values of one list, each once, in the order of their first occurrences there. -/
structure FirstOccurrences (as bs : List α) : Prop where
  mem : ∀ a, a ∈ bs ↔ a ∈ as
  order : bs.Pairwise fun a b => as.idxOf a < as.idxOf b

/-- What `distinct` keeps of a list are its values, each once, in the order of their first
occurrences. -/
theorem distinct_firstOccurrences (as : List α) : FirstOccurrences as (distinct as) :=
  ⟨fun _ => mem_distinct, pairwise_distinct as⟩

end Sensing
