import Mathlib.Data.List.Perm.Basic
import Mathlib.Data.List.SplitBy
import Mathlib.Order.MinMax
import Mathlib.Order.Nat
import Mathlib.Tactic.Common

/-!
# Columns side by side

Columns of different lengths are set side by side from the top. Every entry is in one row,
and the rows agree in a key of their entries just if the keys of every column begin those
of the first. Where the columns come from cutting one list, an entry more at its end
either goes to the last column or begins a new one.
-/

namespace SmartMetWfs.Foundation

variable {α κ : Type}

/-- The entries of the columns in a row. -/
def rowAt (columns : List (List α)) (row : Nat) : List α :=
  columns.filterMap fun column => column[row]?

/-- The number of rows. -/
def height : List (List α) → Nat
  | [] => 0
  | column :: columns => max column.length (height columns)

/-- The entry of the first column stands in front, if it is long enough. -/
theorem rowAt_cons (column : List α) (columns : List (List α)) (row : Nat) :
    rowAt (column :: columns) row = column[row]?.toList ++ rowAt columns row := by
  unfold rowAt
  rw [List.filterMap_cons]
  cases column[row]? <;> rfl

theorem mem_rowAt {columns : List (List α)} {row : Nat} {entry : α} :
    entry ∈ rowAt columns row ↔ ∃ column ∈ columns, column[row]? = some entry := List.mem_filterMap

/-- A row is there while some column reaches it. -/
theorem lt_height_iff {columns : List (List α)} {row : Nat} :
    row < height columns ↔ ∃ column ∈ columns, row < column.length := by
  induction columns with
  | nil => simp [height]
  | cons column columns ih => rw [height, lt_max_iff, ih, List.exists_mem_cons_iff]

/-- The higher of two groups of columns is the height of both. -/
theorem height_append (left right : List (List α)) :
    height (left ++ right) = max (height left) (height right) := by
  induction left with
  | nil => exact (max_eq_right (Nat.zero_le _)).symm
  | cons column left ih => rw [List.cons_append, height, height, ih, max_assoc]

/-- The entries of a column, row by row. -/
theorem flatMap_getElem? {column : List α} {rows : Nat} (enough : column.length ≤ rows) :
    (List.range rows).flatMap (fun row => column[row]?.toList) = column := by
  induction column generalizing rows with
  | nil => simp
  | cons entry column ih =>
      obtain ⟨more, rfl⟩ : ∃ more, rows = more + 1 := ⟨rows - 1, by simp at enough; omega⟩
      rw [List.range_succ_eq_map, List.flatMap_cons, List.flatMap_map]
      exact congrArg (entry :: ·) (ih (Nat.le_of_succ_le_succ enough))

/-- The rows hold what the columns hold. -/
theorem flatMap_rowAt_perm {columns : List (List α)} {rows : Nat} (enough : height columns ≤ rows) :
    ((List.range rows).flatMap (rowAt columns)).Perm columns.flatten := by
  induction columns with
  | nil => simp [rowAt]
  | cons column columns ih =>
      have both := max_le_iff.mp enough
      have split : (List.range rows).flatMap (rowAt (column :: columns)) =
          (List.range rows).flatMap fun row => column[row]?.toList ++ rowAt columns row :=
        congrArg (List.flatMap · (List.range rows))
          (funext fun row => rowAt_cons column columns row)
      rw [split, List.flatten_cons]
      refine (List.flatMap_append_perm _ _ _).symm.trans ?_
      rw [flatMap_getElem? both.1]
      exact (ih both.2).append_left column

/-- All rows have an entry in the first column, and no row has entries of different keys. -/
def RowsAgree (key : α → κ) (first : List α) (columns : List (List α)) : Prop :=
  ∀ row < height (first :: columns), ∃ head, first[row]? = some head ∧
    ∀ entry ∈ rowAt (first :: columns) row, key entry = key head

/-- Rows agree when the keys of every column begin those of the first. -/
theorem rowsAgree_iff {key : α → κ} {first : List α} {columns : List (List α)} :
    RowsAgree key first columns ↔ ∀ column ∈ columns, column.map key <+: first.map key := by
  constructor
  · intro agree column member
    rw [List.prefix_iff_getElem?]
    intro row within
    rw [List.length_map] at within
    obtain ⟨head, here, same⟩ := agree row
      (lt_height_iff.mpr ⟨column, List.mem_cons_of_mem _ member, within⟩)
    have entry := same column[row] (mem_rowAt.mpr
      ⟨column, List.mem_cons_of_mem _ member, List.getElem?_eq_getElem within⟩)
    rw [List.getElem?_map, here, List.getElem_map, entry]
    rfl
  · intro prefixes row within
    have behind : ∀ column ∈ columns, ∀ entry, column[row]? = some entry →
        ∃ head, first[row]? = some head ∧ key entry = key head := by
      intro column member entry here
      obtain ⟨inColumn, rfl⟩ := List.getElem?_eq_some_iff.mp here
      have inFirst := List.prefix_iff_getElem?.mp (prefixes column member) row
        (by rwa [List.length_map])
      rw [List.getElem?_map, Option.map_eq_some_iff, List.getElem_map] at inFirst
      obtain ⟨head, isHead, same⟩ := inFirst
      exact ⟨head, isHead, same.symm⟩
    have hasHead : ∃ head, first[row]? = some head := by
      obtain ⟨column, member, inColumn⟩ := lt_height_iff.mp within
      rcases List.mem_cons.mp member with rfl | later
      · exact ⟨column[row], List.getElem?_eq_getElem inColumn⟩
      · obtain ⟨head, isHead, _⟩ :=
          behind column later column[row] (List.getElem?_eq_getElem inColumn)
        exact ⟨head, isHead⟩
    obtain ⟨head, isHead⟩ := hasHead
    refine ⟨head, isHead, fun entry inRow => ?_⟩
    obtain ⟨column, member, here⟩ := mem_rowAt.mp inRow
    rcases List.mem_cons.mp member with rfl | later
    · rw [isHead] at here
      rw [Option.some.inj here]
    · obtain ⟨other, isOther, same⟩ := behind column later entry here
      rw [isHead] at isOther
      rw [same, Option.some.inj isOther]

/-! ### Cutting a list into columns -/

section

variable {related : α → α → Bool} {items column : List α} {columns : List (List α)} {last item : α}

/-- The last item of the last stretch is the last of all. -/
theorem getLast?_of_splitBy (cut : items.splitBy related = columns ++ [column])
    (ends : column.getLast? = some last) : items.getLast? = some last := by
  rw [← List.flatten_splitBy related items, cut, List.flatten_concat, List.getLast?_append, ends]
  rfl

/-- An item that is related to the last one joins its stretch. -/
theorem splitBy_concat_of_related (cut : items.splitBy related = columns ++ [column])
    (ends : column.getLast? = some last) (joins : related last item = true) :
    (items ++ [item]).splitBy related = columns ++ [column ++ [item]] := by
  obtain ⟨whole, nonempty, chains, borders⟩ := List.splitBy_eq_iff.mp cut
  have columnNonempty : column ≠ [] := by
    rintro rfl
    cases ends
  rw [List.isChain_append] at borders
  refine List.splitBy_eq_iff.mpr ⟨?_, ?_, ?_, ?_⟩
  · rw [whole, List.flatten_concat, List.flatten_concat, List.append_assoc]
  · intro member
    rcases List.mem_append.mp member with before | here
    · exact nonempty (List.mem_append_left _ before)
    · exact List.append_ne_nil_of_left_ne_nil columnNonempty _ (List.mem_singleton.mp here).symm
  · intro other member
    rcases List.mem_append.mp member with before | here
    · exact chains other (List.mem_append_left _ before)
    · rw [List.mem_singleton.mp here, List.isChain_append]
      refine ⟨chains column (by simp),
        List.isChain_singleton _, fun before isLast after isNext => ?_⟩
      rw [ends] at isLast
      cases isLast
      cases isNext
      exact joins
  · refine List.isChain_append.mpr ⟨borders.1,
      List.isChain_singleton _, fun before isLast after isNext => ?_⟩
    obtain ⟨beforeNonempty, _, apart⟩ := borders.2.2 before isLast column rfl
    cases isNext
    refine ⟨beforeNonempty, List.append_ne_nil_of_left_ne_nil columnNonempty _, ?_⟩
    rwa [List.head_append_of_ne_nil]

/-- An item that is not related begins a stretch. -/
theorem splitBy_concat_of_unrelated (cut : items.splitBy related = columns ++ [column])
    (ends : column.getLast? = some last) (parts : related last item = false) :
    (items ++ [item]).splitBy related = columns ++ [column] ++ [[item]] := by
  rw [List.splitBy_append, cut,
    List.splitBy_of_isChain (List.cons_ne_nil _ _) (List.isChain_singleton _)]
  intro before isLast after isNext
  rw [getLast?_of_splitBy cut ends] at isLast
  cases isLast
  cases isNext
  exact parts

end

end SmartMetWfs.Foundation
