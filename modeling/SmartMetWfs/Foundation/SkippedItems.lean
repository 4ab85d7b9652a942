import Mathlib.Data.List.Basic
import Mathlib.Data.List.TakeWhile
import Mathlib.Tactic.Common

/-!
# Reading with a skipper

A grammar with a skipper drops the separators in front of every item that it reads. What it
accepts is told by the essential items of a text, those that are not separators.
-/

namespace SmartMetWfs.Foundation

variable {α : Type} (isSeparator accepts : α → Bool)

/-- The items that are not separators. -/
def essential (text : List α) : List α := text.filter fun item => !isSeparator item

/-- What follows the next item, if it is accepted. -/
def readItem (text : List α) : Option (List α) :=
  match text.dropWhile isSeparator with
  | [] => none
  | item :: rest => if accepts item then some rest else none

set_option linter.unusedVariables false in
/-- What follows the items that are accepted. -/
def readItems (text : List α) : List α :=
  match left : text.dropWhile isSeparator with
  | [] => text
  | item :: rest => if accepts item then readItems rest else text
termination_by text.length
decreasing_by
  have shorter := congrArg List.length left
  have bound := (List.dropWhile_suffix isSeparator (l := text)).length_le
  rw [List.length_cons] at shorter
  omega

variable {isSeparator accepts}

/-- Nothing essential is lost or added between two texts. -/
theorem essential_append (text text' : List α) :
    essential isSeparator (text ++ text') =
      essential isSeparator text ++ essential isSeparator text' :=
  List.filter_append text text'

/-- Separators alone are not essential. -/
theorem essential_of_all {text : List α} (all : ∀ item ∈ text, isSeparator item = true) :
    essential isSeparator text = [] := by
  apply List.filter_eq_nil_iff.mpr
  intro item inside
  simp [all item inside]

/-- A text without separators is essential as a whole. -/
theorem essential_eq_self {text : List α} (solid : ∀ item ∈ text, isSeparator item = false) :
    essential isSeparator text = text := by
  apply List.filter_eq_self.mpr
  intro item inside
  simp [solid item inside]

/-- What has nothing essential consists of separators. -/
theorem all_of_essential_nil {text : List α} (none : essential isSeparator text = []) :
    ∀ item ∈ text, isSeparator item = true := by
  intro item inside
  simpa using List.filter_eq_nil_iff.mp none item inside

/-- The first essential item comes after separators. -/
theorem essential_eq_cons {text items : List α} {item : α}
    (shown : essential isSeparator text = item :: items) :
    ∃ before rest, text = before ++ item :: rest ∧ (∀ other ∈ before, isSeparator other = true) ∧
      isSeparator item = false ∧ essential isSeparator rest = items := by
  obtain ⟨before, rest, whole, skipped, kept, others⟩ := List.filter_eq_cons_iff.mp shown
  exact ⟨before, rest, whole, fun other inside => by simpa using skipped other inside,
    by simpa using kept, others⟩

/-- The separators before an item are dropped, the item is kept. -/
theorem dropWhile_append_cons {before rest : List α} {item : α}
    (all : ∀ other ∈ before, isSeparator other = true) (kept : isSeparator item = false) :
    (before ++ item :: rest).dropWhile isSeparator = item :: rest := by
  rw [List.dropWhile_append_of_pos all]
  exact List.dropWhile_cons_of_neg (Bool.eq_false_iff.mp kept)

/-- The next item is the first essential one. -/
theorem readItem_append {front items : List α} {item : α}
    (shown : essential isSeparator front = item :: items) (behind : List α) :
    ∃ rest, essential isSeparator rest = items ∧ readItem isSeparator accepts (front ++ behind) =
      if accepts item then some (rest ++ behind) else none := by
  obtain ⟨before, rest, rfl, all, kept, others⟩ := essential_eq_cons shown
  refine ⟨rest, others, ?_⟩
  have left : (before ++ item :: rest ++ behind).dropWhile isSeparator =
      item :: (rest ++ behind) := by
    rw [List.append_assoc]
    exact dropWhile_append_cons all kept
  unfold readItem
  rw [left]

/-- There is no item among separators alone. -/
theorem readItem_of_all {text : List α} (all : ∀ item ∈ text, isSeparator item = true) :
    readItem isSeparator accepts text = none := by
  have left : text.dropWhile isSeparator = [] := List.dropWhile_eq_nil_iff.mpr all
  rw [readItem, left]

/-- One item was read, with the separators in front of it. -/
theorem readItem_eq_some {text rest : List α}
    (read : readItem isSeparator accepts text = some rest) :
    ∃ consumed item, text = consumed ++ rest ∧ essential isSeparator consumed = [item] ∧
      accepts item = true := by
  unfold readItem at read
  split at read
  · cases read
  · next item rest' left =>
      split at read
      · next accepted =>
          cases read
          have kept : isSeparator item = false := by
            have stops := List.head?_dropWhile_not isSeparator text
            rw [left] at stops
            exact stops
          refine ⟨text.takeWhile isSeparator ++ [item], item, ?_, ?_, accepted⟩
          · rw [List.append_assoc, List.singleton_append, ← left, List.takeWhile_append_dropWhile]
          · rw [essential_append, essential_of_all fun _ => List.mem_takeWhile_imp]
            simp [essential, kept]
      · cases read

/-- Accepted items were read, with the separators in front of each. -/
theorem readItems_spec (text : List α) :
    ∃ consumed, text = consumed ++ readItems isSeparator accepts text ∧
      ∀ item ∈ essential isSeparator consumed, accepts item = true := by
  fun_induction readItems isSeparator accepts text with
  | case1 text left => exact ⟨[], rfl, nofun⟩
  | case2 text item rest left accepted ih =>
      obtain ⟨consumed, whole, all⟩ := ih
      refine ⟨text.takeWhile isSeparator ++ item :: consumed, ?_, ?_⟩
      · rw [List.append_assoc, List.cons_append, ← whole, ← left, List.takeWhile_append_dropWhile]
      · rw [essential_append, essential_of_all fun _ => List.mem_takeWhile_imp, List.nil_append]
        intro other inside
        rcases List.mem_cons.mp (List.mem_filter.mp inside).1 with rfl | member
        · exact accepted
        · exact all other (List.mem_filter.mpr ⟨member, (List.mem_filter.mp inside).2⟩)
  | case3 text item rest left refused => exact ⟨[], rfl, nofun⟩

/-- The items are read on after one that is accepted. -/
theorem readItems_cons {before rest : List α} {item : α}
    (all : ∀ other ∈ before, isSeparator other = true) (kept : isSeparator item = false) :
    readItems isSeparator accepts (before ++ item :: rest) =
      if accepts item then readItems isSeparator accepts rest else before ++ item :: rest := by
  conv_lhs => rw [readItems]
  have first := @dropWhile_append_cons α isSeparator before rest item all kept
  split
  · next left =>
      rw [first] at left
      cases left
  · next left =>
      rw [first] at left
      cases left
      rfl

/-- After the items that are accepted comes the first one that is not. -/
theorem readItem_readItems {next : α → Bool} {stop : α} (refused : accepts stop = false)
    (accepted : next stop = true) {items : List α} :
    ∀ {front : List α}, essential isSeparator front = items ++ [stop] →
      (∀ item ∈ items, accepts item = true) → ∀ behind, ∃ rest, essential isSeparator rest = [] ∧
        readItem isSeparator next (readItems isSeparator accepts (front ++ behind)) =
          some (rest ++ behind) := by
  induction items with
  | nil =>
      intro front shown _ behind
      obtain ⟨before, tail, rfl, all, kept, _⟩ := essential_eq_cons shown
      obtain ⟨rest, others, read⟩ := @readItem_append α isSeparator next _ _ _ shown behind
      refine ⟨rest, others, ?_⟩
      rw [List.append_assoc, List.cons_append] at read ⊢
      rw [readItems_cons all kept, if_neg (Bool.eq_false_iff.mp refused), read, if_pos accepted]
  | cons item items ih =>
      intro front shown accepted' behind
      rw [List.forall_mem_cons] at accepted'
      obtain ⟨before, rest, rfl, all, kept, others⟩ := essential_eq_cons shown
      rw [List.append_assoc, List.cons_append, readItems_cons all kept, if_pos accepted'.1]
      exact ih others accepted'.2 behind

end SmartMetWfs.Foundation
