import Mathlib

/-! The elements of a sorted list by their rank. -/

namespace Base

variable {α : Type} [LinearOrder α] {items : List α}

theorem getElem_le_getElem (sorted : items.Pairwise (· ≤ ·)) {one other : Nat}
    (inside : other < items.length) (le : one ≤ other) : items[one] ≤ items[other] := by
  rcases le.eq_or_lt with rfl | lt
  · exact le_rfl
  · exact List.pairwise_iff_getElem.mp sorted one other _ inside lt

theorem isLeast_rank (sorted : items.Pairwise (· ≤ ·)) {index : Nat}
    (inside : index < items.length) :
    IsLeast {item | item ∈ items ∧ index + 1 ≤ items.countP (· ≤ item)} items[index] := by
  constructor
  · refine ⟨List.getElem_mem inside, ?_⟩
    -- All elements up to the index are counted.
    have front : (items.take (index + 1)).countP (· ≤ items[index]) = index + 1 := by
      rw [List.countP_eq_length.mpr, List.length_take, min_eq_left inside]
      intro item member
      obtain ⟨place, before, rfl⟩ := List.mem_take_iff_getElem.mp member
      exact decide_eq_true (getElem_le_getElem sorted inside (by omega))
    exact front ▸ (List.take_sublist _ _).countP_le
  · rintro item ⟨member, enough⟩
    by_contra below
    -- Only elements before the index could be counted.
    have back : (items.drop index).countP (· ≤ item) = 0 := by
      rw [List.countP_eq_zero]
      intro other member
      obtain ⟨place, before, rfl⟩ := List.mem_drop_iff_getElem.mp member
      have above : items[index] ≤ items[index + place] :=
        getElem_le_getElem sorted (by omega) (Nat.le_add_right index place)
      simpa using lt_of_lt_of_le (not_le.mp below) above
    have split : items.countP (· ≤ item) =
        (items.take index).countP (· ≤ item) + (items.drop index).countP (· ≤ item) := by
      rw [← List.countP_append, List.take_append_drop]
    have short : (items.take index).countP (· ≤ item) ≤ index :=
      le_trans List.countP_le_length (by simp)
    omega

end Base
