import Mathlib.Order.Bounds.Basic
import Mathlib.Tactic.Common

/-!
# Rounding to multiples

The greatest multiple of a step that is not above an integer, and the least one that is
not below it. Dividing a remainder by a step that divides the modulus rounds the integer
itself.
-/

namespace SmartMetWfs.Foundation

variable {step : Int}

/-- Division rounds down to the greatest multiple that is not above a value. -/
theorem isGreatest_multiple (positive : 0 < step) (value : Int) :
    IsGreatest {multiple | step ∣ multiple ∧ multiple ≤ value} (step * (value / step)) := by
  constructor
  · exact ⟨Int.dvd_mul_right step (value / step), Int.mul_ediv_self_le positive.ne'⟩
  · rintro multiple ⟨⟨count, rfl⟩, below⟩
    have countBelow : count ≤ value / step := by
      rw [Int.le_ediv_iff_mul_le positive, Int.mul_comm]
      exact below
    exact Int.mul_le_mul_of_nonneg_left countBelow positive.le

/-- Rounding up is rounding down what is almost one step later. -/
theorem isLeast_multiple (positive : 0 < step) (value : Int) :
    IsLeast {multiple | step ∣ multiple ∧ value ≤ multiple}
      (step * ((value + (step - 1)) / step)) := by
  constructor
  · refine ⟨Int.dvd_mul_right step _, ?_⟩
    have remainder := Int.emod_lt_of_pos (value + (step - 1)) positive
    have split := Int.mul_ediv_add_emod (value + (step - 1)) step
    omega
  · rintro multiple ⟨⟨count, rfl⟩, above⟩
    have countAbove : (value + (step - 1)) / step < count + 1 := by
      rw [Int.ediv_lt_iff_lt_mul positive, Int.mul_comm, Int.mul_add]
      omega
    exact Int.mul_le_mul_of_nonneg_left (Int.lt_add_one_iff.mp countAbove) positive.le

/-- Rounding the remainder of a greater period rounds the whole. -/
theorem round_within {period : Int} (divides : step ∣ period) (positive : 0 < step) (value : Int) :
    period * (value / period) + step * (value % period / step) = step * (value / step) := by
  obtain ⟨count, rfl⟩ := divides
  have whole := Int.mul_ediv_add_emod value (step * count)
  have steps : value / step =
      count * (value / (step * count)) + value % (step * count) / step := by
    conv_lhs => rw [← whole, Int.mul_assoc]
    rw [Int.add_comm, Int.add_mul_ediv_left _ _ positive.ne', Int.add_comm]
  rw [steps, Int.mul_add, Int.mul_assoc]

end SmartMetWfs.Foundation
