import Mathlib.Data.List.Induction
import Mathlib.Data.List.Nodup
import Sensing.Sorted

/-!
# Values in order of their keys

`sortByKey` puts the values of a list in strictly increasing order of their keys. Where no two
values share a key none is lost, so the outcome is a matter of which values there are, and not of
their order or of how often they occur.
-/

namespace Sensing

variable {α : Type} {key : α → List Nat} {as bs : List α} {a b : α}

/-- Inserting makes nothing up. -/
theorem mem_insertByKey (h : b ∈ insertByKey key a bs) : b = a ∨ b ∈ bs := by
  induction bs with
  | nil => exact .inl (List.mem_singleton.1 h)
  | cons c cs ih =>
    unfold insertByKey at h
    split at h
    · exact List.mem_cons.1 h
    · split at h
      · rcases List.mem_cons.1 h with first | rest
        · exact .inr (first ▸ List.mem_cons_self ..)
        · exact (ih rest).imp_right (List.mem_cons_of_mem c)
      · exact .inr h

/-- Sorting makes nothing up. -/
theorem mem_sortByKey (h : a ∈ sortByKey key as) : a ∈ as := by
  induction as using List.reverseRecOn with
  | nil => exact h
  | append_singleton as b ih =>
    unfold sortByKey at h
    rw [List.foldl_concat] at h
    rcases mem_insertByKey h with rfl | sorted
    · exact List.mem_append_right as (List.mem_singleton_self a)
    · exact List.mem_append_left [b] (ih sorted)

theorem sortByKey_concat (key : α → List Nat) (as : List α) (a : α) :
    sortByKey key (as ++ [a]) = insertByKey key a (sortByKey key as) := List.foldl_concat ..

/-! ## The order -/

/-- Inserting a value keeps the rest in order. -/
theorem pairwise_insertByKey (h : bs.Pairwise fun a b => key a < key b) :
    (insertByKey key a bs).Pairwise fun a b => key a < key b := by
  induction bs with
  | nil => exact List.pairwise_singleton ..
  | cons b bs ih =>
    obtain ⟨least, rest⟩ := List.pairwise_cons.1 h
    unfold insertByKey
    split
    -- The value goes before the first that is greater, after those that are less, and nowhere where
    -- its key is there already.
    next less =>
      refine List.pairwise_cons.2 ⟨?_, h⟩
      intro c hc
      rcases List.mem_cons.1 hc with rfl | hc
      · exact less
      · exact List.lt_trans less (least c hc)
    next =>
      split
      next more =>
        refine List.pairwise_cons.2 ⟨?_, ih rest⟩
        intro c hc
        rcases mem_insertByKey hc with rfl | hc
        · exact more
        · exact least c hc
      next => exact h

/-- So sorted values are in strictly increasing order of their keys, -/
theorem pairwise_sortByKey (key : α → List Nat) (as : List α) :
    (sortByKey key as).Pairwise fun a b => key a < key b := by
  induction as using List.reverseRecOn with
  | nil => exact List.Pairwise.nil
  | append_singleton as a ih =>
    rw [sortByKey_concat]
    exact pairwise_insertByKey ih

/-- and each of them is there once. -/
theorem nodup_of_pairwise_key (h : as.Pairwise fun a b => key a < key b) : as.Nodup := by
  refine List.Pairwise.imp ?_ h
  rintro a b less rfl
  exact List.lt_irrefl _ less

/-! ## The values -/

section Injective

variable (injective : ∀ a b, key a = key b → a = b)
include injective

/-- Where no two values share a key, inserting loses nothing. -/
theorem mem_insertByKey_iff : b ∈ insertByKey key a bs ↔ b = a ∨ b ∈ bs := by
  refine ⟨mem_insertByKey, fun h => ?_⟩
  induction bs with
  | nil => exact List.mem_singleton.2 (h.resolve_right List.not_mem_nil)
  | cons c cs ih =>
    unfold insertByKey
    split
    next => exact List.mem_cons.2 h
    next notLess =>
      split
      next =>
        rcases h with new | old
        · exact List.mem_cons_of_mem c (ih (.inl new))
        · rcases List.mem_cons.1 old with first | rest
          · exact first ▸ List.mem_cons_self ..
          · exact List.mem_cons_of_mem c (ih (.inr rest))
      next notMore =>
        -- The key is there, so the value is.
        have same : a = c := injective a c (List.le_antisymm notMore notLess)
        rcases h with rfl | old
        · exact same ▸ List.mem_cons_self ..
        · exact old

/-- Nor does sorting lose anything. -/
theorem mem_sortByKey_iff : a ∈ sortByKey key as ↔ a ∈ as := by
  induction as using List.reverseRecOn with
  | nil => exact Iff.rfl
  | append_singleton as b ih =>
    rw [sortByKey_concat, mem_insertByKey_iff injective, ih, List.mem_append, List.mem_singleton]
    exact or_comm

/-- It does not matter in which order values come, nor how often. -/
theorem sortByKey_congr (same : ∀ a, a ∈ as ↔ a ∈ bs) : sortByKey key as = sortByKey key bs := by
  have sorted := pairwise_sortByKey key as
  have sorted' := pairwise_sortByKey key bs
  have members : (sortByKey key as).Perm (sortByKey key bs) := by
    refine (List.perm_ext_iff_of_nodup (nodup_of_pairwise_key sorted)
      (nodup_of_pairwise_key sorted')).2 fun a => ?_
    rw [mem_sortByKey_iff injective, mem_sortByKey_iff injective, same]
  refine List.Perm.eq_of_pairwise ?_ sorted sorted' members
  intro a b _ _ less more
  exact absurd more (List.lt_asymm less)

end Injective

end Sensing
