import Mathlib.Data.List.Basic
import Mathlib.Tactic.Common

/-!
# Blocks of memory

A block has a fixed number of cells, and a cell holds nothing until it is written. Every
access says whether it stays inside the block and whether it reads a written cell, so that
a program over such blocks ends with a fault instead of going on with anything.
-/

namespace SmartMetWfs.Foundation

/-- What is wrong with an access. -/
inductive AccessFault where
  | outside
  | unwritten
  deriving DecidableEq

/-- The cells of a block. -/
abbrev Block (α : Type) := List (Option α)

namespace Block

variable {α : Type}

/-- A new block: nothing is written yet. -/
def allocate (size : Nat) : Block α := List.replicate size none

/-- A block whose cells are all written. -/
def holding (values : List α) : Block α := values.map some

/-- One cell. -/
def read (block : Block α) (index : Nat) : Except AccessFault α :=
  match block[index]? with
  | none => .error .outside
  | some none => .error .unwritten
  | some (some value) => .ok value

/-- The cells from `first` on. -/
def readRange (block : Block α) (first : Nat) : Nat → Except AccessFault (List α)
  | 0 => .ok []
  | count + 1 =>
      match block.read first with
      | .error fault => .error fault
      | .ok value => (readRange block (first + 1) count).map (value :: ·)

/-- Writes the values to the cells from `first` on. -/
def write (block : Block α) (first : Nat) (values : List α) : Except AccessFault (Block α) :=
  if first + values.length ≤ block.length then
    .ok (block.take first ++ holding values ++ block.drop (first + values.length))
  else .error .outside

@[simp] theorem length_allocate (size : Nat) : (allocate size : Block α).length = size :=
  List.length_replicate

/-- Blocks that are allocated one behind the other are one block. -/
theorem allocate_append (size size' : Nat) :
    (allocate size ++ allocate size' : Block α) = allocate (size + size') :=
  List.replicate_append_replicate

@[simp] theorem length_holding (values : List α) : (holding values).length = values.length :=
  List.length_map some

/-- Values that are held one behind the other are held together. -/
theorem holding_append (values values' : List α) :
    holding (values ++ values') = holding values ++ holding values' :=
  List.map_append

/-- Written cells are read, whatever the cells behind them hold. -/
theorem read_holding {values : List α} {value : α} {index : Nat}
    (found : values[index]? = some value) (behind : Block α) :
    (holding values ++ behind).read index = .ok value := by
  have inside : index < values.length := (List.getElem?_eq_some_iff.mp found).1
  unfold read
  rw [List.getElem?_append_left (by rwa [length_holding]), holding, List.getElem?_map, found]
  rfl

/-- A range inside a block that is filled reads its values. -/
theorem readRange_holding {values : List α} {count : Nat} :
    ∀ {first : Nat}, first + count ≤ values.length →
      (holding values).readRange first count = .ok ((values.drop first).take count) := by
  induction count with
  | zero => exact fun _ => rfl
  | succ count ih =>
      intro first inside
      have found : values[first]? = some values[first] := List.getElem?_eq_getElem (by omega)
      have here := read_holding found []
      rw [List.append_nil] at here
      unfold readRange
      rw [List.drop_eq_getElem_cons (by omega : first < values.length), List.take_succ_cons]
      simp only [here, ih (by omega : first + 1 + count ≤ values.length)]
      rfl

/-- A write inside a block that is filled replaces as many values. -/
theorem write_holding {values values' : List α} {first : Nat}
    (inside : first + values'.length ≤ values.length) :
    (holding values).write first values' =
      .ok (holding (values.take first ++ values' ++ values.drop (first + values'.length))) := by
  rw [write, if_pos (by rwa [length_holding])]
  simp [holding]

/-- A write replaces as many cells as there are values. -/
theorem write_append {front middle : Block α} {values : List α} (behind : Block α)
    (size : middle.length = values.length) :
    (front ++ middle ++ behind).write front.length values =
      .ok (front ++ holding values ++ behind) := by
  have inside : front.length + values.length ≤ (front ++ middle ++ behind).length := by
    rw [List.length_append, List.length_append, size]
    exact Nat.le_add_right _ _
  have kept : (front ++ middle ++ behind).take front.length = front := by
    rw [List.append_assoc, List.take_left]
  have left : (front ++ middle ++ behind).drop (front.length + values.length) = behind := by
    rw [← size, ← List.length_append, List.drop_left]
  rw [write, if_pos inside, kept, left]

/-- A new block of the right size is filled by one write. -/
theorem write_allocate (values : List α) :
    (allocate values.length).write 0 values = .ok (holding values) := by
  have filled := @write_append α [] (allocate values.length) values [] (length_allocate _)
  simpa using filled

end Block

end SmartMetWfs.Foundation
