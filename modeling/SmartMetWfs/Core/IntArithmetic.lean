import Mathlib.Algebra.Group.Int.Defs
import Mathlib.Algebra.Group.Nat.Defs
import Mathlib.Tactic.Common

/-!
# `int` arithmetic

An `unsigned int` that is assigned to an `int` keeps its bits. What an `int` expression
yields is its value if that is an `int`; otherwise it is not defined.
-/

namespace SmartMetWfs

/-- An `unsigned int` as an `int`. -/
def toInt (value : UInt32) : Int := (value.toNat : Int).bmod (2 ^ 32)

/-- The upper half of the unsigned numbers becomes negative. -/
theorem toInt_eq (value : UInt32) :
    toInt value = if value.toNat < 2 ^ 31 then (value.toNat : Int) else value.toNat - 2 ^ 32 := by
  have bound := value.toNat_lt
  unfold toInt
  rw [Int.bmod_def]
  split <;> split <;> omega

/-- A number that an `int` can hold. -/
def InInt (value : Int) : Prop := -2147483648 ≤ value ∧ value < 2147483648

instance (value : Int) : Decidable (InInt value) := inferInstanceAs (Decidable (_ ∧ _))

end SmartMetWfs
