import Mathlib.Algebra.Order.Floor.Div
import Mathlib.Data.List.Basic
import Mathlib.Tactic.Common
import Mathlib.Tactic.Ring

/-!
# Grids row by row

The entries of a grid stand one after another, row by row, so that the entry at an index is
that at its remainder and quotient by the width. Keeping the entries of every so many
columns and rows keeps a grid.
-/

namespace SmartMetWfs.Foundation

variable {α : Type}

/-- The entries of a grid, row by row. -/
def rowMajor (width height : Nat) (entry : Nat → Nat → α) : List α :=
  (List.range height).flatMap fun row => (List.range width).map fun column => entry column row

/-- The column is the remainder of the index, the row its quotient. -/
theorem rowMajor_eq_map {width : Nat} (positive : 0 < width) (height : Nat)
    (entry : Nat → Nat → α) :
    rowMajor width height entry =
      (List.range (width * height)).map fun index => entry (index % width) (index / width) := by
  induction height with
  | zero => rfl
  | succ height ih =>
      have lastRow : (List.range width).map (fun column => entry column height) =
          (List.range width).map fun column =>
            entry ((width * height + column) % width) ((width * height + column) / width) := by
        refine List.map_congr_left fun column member => ?_
        have within := List.mem_range.mp member
        rw [Nat.mul_add_mod, Nat.mod_eq_of_lt within, Nat.mul_add_div positive,
          Nat.div_eq_of_lt within, Nat.add_zero]
      rw [Nat.mul_succ, List.range_add, List.map_append, List.map_map, ← ih]
      rw [rowMajor, List.range_succ, List.flatMap_append, List.flatMap_singleton, lastRow]
      rfl

/-- What is not kept contributes nothing. -/
theorem flatMap_if {β : Type} (keep : α → Bool) (items : List α) (contribute : α → List β) :
    items.flatMap (fun item => if keep item then contribute item else []) =
      (items.filter keep).flatMap contribute := by
  induction items with
  | nil => rfl
  | cons item items ih =>
      rw [List.flatMap_cons, ih, List.filter_cons]
      cases keep item <;> rfl

/-- The entries of some columns and rows. -/
theorem filter_rowMajor {width : Nat} (positive : 0 < width) (height : Nat) (entry : Nat → Nat → α)
    (keepColumn keepRow : Nat → Bool) :
    ((List.range (width * height)).filter fun index =>
        keepRow (index / width) && keepColumn (index % width)).map
        (fun index => entry (index % width) (index / width)) =
      ((List.range height).filter keepRow).flatMap fun row =>
        ((List.range width).filter keepColumn).map fun column => entry column row := by
  have places : ((List.range (width * height)).filter fun index =>
      keepRow (index / width) && keepColumn (index % width)).map
        (fun index => (index % width, index / width)) =
      (rowMajor width height Prod.mk).filter fun place =>
        keepRow place.2 && keepColumn place.1 := by
    rw [rowMajor_eq_map positive, List.filter_map]
    rfl
  have oneRow : ∀ row, ((List.range width).map (fun column => (column, row))).filter
      (fun place => keepRow place.2 && keepColumn place.1) =
      if keepRow row then ((List.range width).filter keepColumn).map
        (fun column => (column, row)) else [] := by
    intro row
    rw [List.filter_map]
    cases kept : keepRow row <;> simp [Function.comp_def, kept]
  have toEntries := congrArg (List.map fun place : Nat × Nat => entry place.1 place.2) places
  rw [List.map_map] at toEntries
  refine toEntries.trans ?_
  rw [rowMajor, List.filter_flatMap]
  simp only [oneRow]
  rw [flatMap_if, List.map_flatMap]
  simp only [List.map_map]
  rfl

/-! ### Every so many -/

/-- The multiples of a step below a bound. -/
def multiplesBelow (step bound : Nat) : List Nat :=
  (List.range bound).filter fun number => number % step = 0

/-- A bound rounded up, as the quotient of the number before it. -/
theorem ceilDiv_succ {step : Nat} (positive : 0 < step) (bound : Nat) :
    (bound + 1) ⌈/⌉ step = bound / step + 1 := by
  rw [Nat.ceilDiv_eq_add_pred_div, show bound + 1 + step - 1 = bound + step by omega,
    Nat.add_div_right _ positive]

/-- Rounding up adds one unless the division is exact. -/
theorem ceilDiv_eq {step : Nat} (positive : 0 < step) (bound : Nat) :
    bound ⌈/⌉ step = bound / step + if bound % step = 0 then 0 else 1 := by
  have split := Nat.div_add_mod bound step
  have below := Nat.mod_lt bound positive
  rw [Nat.ceilDiv_eq_add_pred_div]
  split
  · next whole =>
      rw [show bound + step - 1 = step * (bound / step) + (step - 1) by omega,
        Nat.mul_add_div positive, Nat.div_eq_of_lt (by omega : step - 1 < step)]
  · next rest =>
      have split : bound + step - 1 = step * (bound / step + 1) + (bound % step - 1) := by
        rw [Nat.mul_succ]
        omega
      rw [split, Nat.mul_add_div positive, Nat.div_eq_of_lt (by omega : bound % step - 1 < step),
          Nat.add_zero]

/-- Of a positive bound there is at least one step. -/
theorem ceilDiv_pos {step bound : Nat} (positive : 0 < step) (some : 0 < bound) :
    0 < bound ⌈/⌉ step := by
  by_contra none
  have below := (ceilDiv_le_iff_le_mul positive).mp (Nat.le_zero.mpr (Nat.eq_zero_of_not_pos none))
  omega

/-- The multiples are those of the first numbers. -/
theorem multiplesBelow_eq {step : Nat} (positive : 0 < step) (bound : Nat) :
    multiplesBelow step bound = (List.range (bound ⌈/⌉ step)).map (· * step) := by
  induction bound with
  | zero =>
      rw [zero_ceilDiv]
      rfl
  | succ bound ih =>
      have last : (bound / step) * step = bound - bound % step := by
        rw [Nat.mul_comm]
        have := Nat.div_add_mod bound step
        omega
      rw [multiplesBelow, List.range_succ, List.filter_append, ← multiplesBelow, ih,
        ceilDiv_succ positive, ceilDiv_eq positive bound]
      by_cases whole : bound % step = 0
      · simp [whole, last, List.range_succ]
      · simp [whole]

/-- What is kept of a grid is one again. -/
theorem thin_rowMajor {width step : Nat} (positive : 0 < width) (stepPositive : 0 < step)
    (height : Nat)
    (entry : Nat → Nat → α) :
    ((List.range (width * height)).filter fun index =>
        decide (index / width % step = 0) && decide (index % width % step = 0)).map
        (fun index => entry (index % width) (index / width)) =
      rowMajor (width ⌈/⌉ step) (height ⌈/⌉ step) fun column row => entry (column * step)
        (row * step) := by
  refine (filter_rowMajor positive height entry (fun column => decide (column % step = 0))
    (fun row => decide (row % step = 0))).trans ?_
  rw [← multiplesBelow, ← multiplesBelow, multiplesBelow_eq stepPositive,
    multiplesBelow_eq stepPositive, List.flatMap_map]
  simp only [List.map_map]
  rfl

end SmartMetWfs.Foundation
