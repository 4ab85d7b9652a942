import Mathlib.Data.List.Basic
import Mathlib.Tactic.Common

/-!
# Selecting list items by their position

Positions may be counted on through several lists, so that a selection from their
concatenation is the concatenation of the selections.
-/

namespace SmartMetWfs.Foundation

variable {α : Type}

/-- The items at the positions to be kept; the first item has the position `first`. -/
def select (keep : Nat → Bool) (first : Nat) (items : List α) : List α :=
  ((items.zipIdx first).filter fun entry => keep entry.2).map Prod.fst

variable (keep : Nat → Bool)

theorem select_nil (first : Nat) : select keep first ([] : List α) = [] := rfl

theorem select_cons (first : Nat) (item : α) (items : List α) :
    select keep first (item :: items) =
      if keep first then item :: select keep (first + 1) items
      else select keep (first + 1) items := by
  by_cases kept : keep first = true <;> simp [select, List.zipIdx_cons, kept]

/-- The positions of the second list go on where the first ends. -/
theorem select_append (first : Nat) (items more : List α) :
    select keep first (items ++ more) =
      select keep first items ++ select keep (first + items.length) more := by
  simp [select, List.zipIdx_append]

variable {keep} in
/-- Only the positions of the list are asked for. -/
theorem select_congr {keep' : Nat → Bool} {first : Nat} {items : List α}
    (same : ∀ position, first ≤ position → position < first + items.length →
      keep position = keep' position) :
    select keep first items = select keep' first items := by
  apply congrArg (List.map Prod.fst)
  apply List.filter_congr
  intro entry member
  have position := List.snd_lt_add_of_mem_zipIdx member
  exact same entry.2 (List.le_snd_of_mem_zipIdx member) (by omega)

variable {keep} in
/-- When every position is kept the list stays. -/
theorem select_all {first : Nat} {items : List α}
    (kept : ∀ position, first ≤ position → position < first + items.length →
      keep position = true) :
    select keep first items = items := by
  rw [select_congr kept]
  simp [select]

/-- No item is added. -/
theorem select_length_le (first : Nat) (items : List α) :
    (select keep first items).length ≤ items.length := by
  rw [select, List.length_map]
  exact Nat.le_trans (List.length_filter_le _ _) (Nat.le_of_eq List.length_zipIdx)

variable {keep} in
/-- A selection is full only if every position is kept. -/
theorem keep_of_select_length {first : Nat} {items : List α}
    (full : (select keep first items).length = items.length) {position : Nat}
    (after : first ≤ position) (before : position < first + items.length) :
    keep position = true := by
  induction items generalizing first with
  | nil =>
      simp only [List.length_nil] at before
      omega
  | cons item items ih =>
      have shorter := select_length_le keep (first + 1) items
      rw [select_cons] at full
      by_cases kept : keep first = true
      · simp only [kept, if_true, List.length_cons, Nat.add_right_cancel_iff] at full
        by_cases here : position = first
        · exact here ▸ kept
        · simp only [List.length_cons] at before
          exact ih full (by omega) (by omega)
      · simp only [kept, if_false, List.length_cons, Bool.false_eq_true] at full
        omega

/-- Selecting an interval of positions. -/
theorem select_interval (start stop first : Nat) (items : List α) :
    select (fun position => decide (start ≤ position ∧ position < stop)) first items =
      (items.take (stop - first)).drop (start - first) := by
  induction items generalizing first with
  | nil => simp [select_nil]
  | cons item items ih =>
      rw [select_cons, ih]
      by_cases ended : stop ≤ first
      · have none : stop - first = 0 := by omega
        have none' : stop - (first + 1) = 0 := by omega
        have dropped : ¬ (start ≤ first ∧ first < stop) := by omega
        simp [none, none', dropped]
      · have more : stop - first = stop - (first + 1) + 1 := by omega
        by_cases begun : start ≤ first
        · have zero : start - first = 0 := by omega
          have zero' : start - (first + 1) = 0 := by omega
          have kept : start ≤ first ∧ first < stop := by omega
          simp [zero, zero', kept, more]
        · have later : start - first = start - (first + 1) + 1 := by omega
          have dropped : ¬ (start ≤ first ∧ first < stop) := by omega
          simp [dropped, more, later]

/-- The items of a page: `count` of them from the position `start` on. -/
def page (start count : Nat) (items : List α) : List α := (items.drop start).take count

/-- A page is the selection of its positions. -/
theorem page_eq_select (start count : Nat) (items : List α) :
    page start count items =
      select (fun position => decide (start ≤ position ∧ position < start + count)) 0 items := by
  rw [select_interval, page, Nat.sub_zero, Nat.sub_zero, List.drop_take, Nat.add_sub_cancel_left]

/-- A page is full unless the items run out. -/
theorem page_length (start count : Nat) (items : List α) :
    (page start count items).length = min count (items.length - start) := by
  rw [page, List.length_take, List.length_drop]

/-- A page is empty when none is asked for or none is left. -/
theorem page_eq_nil (start count : Nat) (items : List α) :
    page start count items = [] ↔ count = 0 ∨ items.length ≤ start := by
  simp [page, List.take_eq_nil_iff, List.drop_eq_nil_iff]

end SmartMetWfs.Foundation
