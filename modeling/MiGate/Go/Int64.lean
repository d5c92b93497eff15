import Mathlib.Algebra.Order.BigOperators.Group.List
import Mathlib.Algebra.Order.Ring.Int

namespace MiGate.Go

/-! Sums of 64-bit integers, which wrap around. -/

instance addCommMonoidInt64 : AddCommMonoid Int64 where
  zero := 0
  add := (· + ·)
  add_assoc := Int64.add_assoc
  add_comm := Int64.add_comm
  zero_add := Int64.zero_add
  add_zero := Int64.add_zero
  nsmul := nsmulRec

/-- A sum of numbers that are not negative does not wrap as long as it fits. -/
theorem toInt_sum {values : List Int64} (nonnegative : ∀ value ∈ values, 0 ≤ value)
    (fits : (values.map Int64.toInt).sum < 2 ^ 63) : values.sum.toInt = (values.map Int64.toInt).sum := by
  have counters : ∀ value ∈ values, 0 ≤ value.toInt := fun value member => Int64.le_iff_toInt_le.mp (nonnegative value member)
  clear nonnegative
  induction values with
  | nil => rfl
  | cons value rest ih =>
      have first := counters value List.mem_cons_self
      have others : 0 ≤ (rest.map Int64.toInt).sum := by
        refine List.sum_nonneg fun number member => ?_
        obtain ⟨other, inside, rfl⟩ := List.mem_map.mp member
        exact counters other (List.mem_cons_of_mem _ inside)
      rw [List.map_cons, List.sum_cons] at fits ⊢
      have total := ih (by omega) fun other inside => counters other (List.mem_cons_of_mem _ inside)
      change (value + rest.sum).toInt = _
      rw [Int64.toInt_add, total, Int.bmod_eq_of_le (by omega) (by omega), List.sum_cons]

end MiGate.Go
