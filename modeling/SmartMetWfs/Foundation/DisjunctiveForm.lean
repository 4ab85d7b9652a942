import Mathlib.Data.List.Sections
import Mathlib.Data.Multiset.Bind

/-!
# Disjunctive forms

A conjunction is a multiset of atoms, a disjunctive form a multiset of conjunctions.
The disjunction of two forms is their sum. Their conjunction takes every conjunction of
the one together with every conjunction of the other; it is commutative and associative
and has the form of the empty conjunction as its unit.
-/

namespace SmartMetWfs.Foundation

variable {α : Type}

/-- A multiset of conjunctions of atoms. -/
abbrev DisjunctiveForm (α : Type) := Multiset (Multiset α)

namespace DisjunctiveForm

/-- Every conjunction of the one form together with every one of the other. -/
def conjoin (left right : DisjunctiveForm α) : DisjunctiveForm α :=
  left.bind fun first => right.map fun second => first + second

theorem conjoin_comm (left right : DisjunctiveForm α) :
    conjoin left right = conjoin right left := by
  unfold conjoin
  rw [Multiset.bind_map_comm]
  simp only [add_comm]

/-- A single conjunction is added to every alternative. -/
@[simp] theorem singleton_conjoin (conjunction : Multiset α) (form : DisjunctiveForm α) :
    conjoin {conjunction} form = form.map fun other => conjunction + other :=
  Multiset.singleton_bind _ _

/-- Nothing is added by the empty conjunction on the left. -/
@[simp] theorem zero_singleton_conjoin (form : DisjunctiveForm α) : conjoin {0} form = form := by
  rw [singleton_conjoin]
  simp only [zero_add, Multiset.map_id']

/-- Nothing is added by the empty conjunction on the right. -/
@[simp] theorem conjoin_zero_singleton (form : DisjunctiveForm α) : conjoin form {0} = form := by
  rw [conjoin_comm, zero_singleton_conjoin]

/-- It does not matter which of three forms are conjoined first. -/
theorem conjoin_assoc (first second third : DisjunctiveForm α) :
    conjoin (conjoin first second) third = conjoin first (conjoin second third) := by
  unfold conjoin
  rw [Multiset.bind_assoc]
  refine Multiset.bind_congr fun one _ => ?_
  rw [Multiset.bind_map, Multiset.map_bind]
  refine Multiset.bind_congr fun other _ => ?_
  rw [Multiset.map_map]
  simp only [Function.comp_def, add_assoc]

/-- The conjunction of a list of forms. -/
def conjoinAll : List (DisjunctiveForm α) → DisjunctiveForm α
  | [] => {0}
  | form :: forms => conjoin form (conjoinAll forms)

/-- The forms of two lists are conjoined list by list. -/
theorem conjoinAll_append (forms forms' : List (DisjunctiveForm α)) :
    conjoinAll (forms ++ forms') = conjoin (conjoinAll forms) (conjoinAll forms') := by
  induction forms with
  | nil => exact (zero_singleton_conjoin _).symm
  | cons form forms ih => rw [List.cons_append, conjoinAll, conjoinAll, ih, conjoin_assoc]

/-- The conjunction of forms that are given as lists. -/
theorem conjoin_coe (left right : List (Multiset α)) :
    conjoin (left : DisjunctiveForm α) (right : DisjunctiveForm α) =
      ((left.flatMap fun first => right.map fun second => first + second : List (Multiset α)) :
        DisjunctiveForm α) := by
  unfold conjoin
  rw [← Multiset.coe_bind]
  rfl

/-- A conjunction with no empty part has none. -/
theorem ne_zero_of_mem_conjoin {left right : DisjunctiveForm α}
    (nonempty : ∀ conjunction ∈ left, conjunction ≠ 0) :
    ∀ conjunction ∈ conjoin left right, conjunction ≠ 0 := by
  intro conjunction member
  obtain ⟨first, inLeft, image⟩ := Multiset.mem_bind.mp member
  obtain ⟨second, _, rfl⟩ := Multiset.mem_map.mp image
  intro empty
  have below : first ≤ 0 := empty ▸ Multiset.le_add_right first second
  exact nonempty first inLeft (Multiset.le_zero.mp below)

/-- Forms with alternatives have alternatives together. -/
theorem conjoin_ne_zero {left right : DisjunctiveForm α} (leftNonempty : left ≠ 0)
    (rightNonempty : right ≠ 0) : conjoin left right ≠ 0 := by
  obtain ⟨first, inLeft⟩ := Multiset.exists_mem_of_ne_zero leftNonempty
  obtain ⟨second, inRight⟩ := Multiset.exists_mem_of_ne_zero rightNonempty
  have member : first + second ∈ conjoin left right :=
    Multiset.mem_bind.mpr ⟨first, inLeft, Multiset.mem_map_of_mem _ inRight⟩
  intro empty
  rw [empty] at member
  exact Multiset.notMem_zero _ member

/-- Any number of forms with alternatives have alternatives together. -/
theorem conjoinAll_ne_zero {forms : List (DisjunctiveForm α)}
    (nonempty : ∀ form ∈ forms, form ≠ 0) :
    conjoinAll forms ≠ 0 := by
  induction forms with
  | nil => exact Multiset.singleton_ne_zero 0
  | cons form forms ih =>
      exact conjoin_ne_zero (nonempty form List.mem_cons_self)
        (ih fun other member => nonempty other (List.mem_cons_of_mem form member))

/-- The same for forms that are written as lists. -/
theorem conjoinAll_coe_ne_zero {forms : List (List (Multiset α))}
    (nonempty : ∀ form ∈ forms, form ≠ []) : conjoinAll (forms.map Multiset.ofList) ≠ 0 := by
  refine conjoinAll_ne_zero fun form member => ?_
  obtain ⟨conjunctions, inForms, rfl⟩ := List.mem_map.mp member
  exact fun empty => nonempty conjunctions inForms (Multiset.coe_eq_zero _ |>.mp empty)

/-- The conjunction of forms that are given as lists: one from each, in every way. -/
theorem conjoinAll_coe (forms : List (List (Multiset α))) :
    conjoinAll (forms.map Multiset.ofList) =
      ((forms.sections.map List.sum : List (Multiset α)) : DisjunctiveForm α) := by
  induction forms with
  | nil => rfl
  | cons form forms ih =>
      rw [List.map_cons, conjoinAll, ih, conjoin_comm, conjoin_coe, List.sections, List.map_flatMap,
        List.flatMap_map]
      simp only [List.map_map, Function.comp_def, List.sum_cons, add_comm]

end DisjunctiveForm

end SmartMetWfs.Foundation
