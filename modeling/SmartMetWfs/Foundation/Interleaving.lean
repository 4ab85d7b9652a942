import Mathlib.Algebra.Order.BigOperators.Group.Finset
import Mathlib.Data.Fintype.Basic
import Mathlib.Logic.Relation

/-!
# Interleaved tasks

Tasks that have each a state of their own move in any order. What each of them keeps is
kept by all; if every step makes a task's own measure smaller the sum gets smaller.
-/

namespace SmartMetWfs.Foundation

section

variable {ι : Type} [DecidableEq ι] {σ : ι → Type}
variable {advance : ∀ task, σ task → Option (σ task)}

/-- One of the tasks makes a step. -/
def Moves (advance : ∀ task, σ task → Option (σ task)) (states next : ∀ task, σ task) : Prop :=
  ∃ task after, advance task (states task) = some after ∧ next = Function.update states task after

/-- What is kept of every task's state by its own steps is kept by all steps. -/
theorem Moves.keeps {states next : ∀ task, σ task} (moves : Moves advance states next)
    (invariant : ∀ task, σ task → Prop)
    (keeps : ∀ task state after, advance task state = some after →
      invariant task state → invariant task after)
    (holds : ∀ task, invariant task (states task)) (task : ι) : invariant task (next task) := by
  obtain ⟨moved, after, step, rfl⟩ := moves
  by_cases same : task = moved
  · subst same
    rw [Function.update_self]
    exact keeps task _ after step (holds task)
  · rw [Function.update_of_ne same]
    exact holds task

/-- A task that has nothing left to do stays as it is. -/
theorem Moves.idle {states next : ∀ task, σ task} (moves : Moves advance states next) {task : ι}
    (idle : advance task (states task) = none) : next task = states task := by
  obtain ⟨moved, after, step, rfl⟩ := moves
  have other : task ≠ moved := by
    rintro rfl
    exact Option.some_ne_none after (step.symm.trans idle)
  exact Function.update_of_ne other ..

/-- A measure that every step of a task lowers is lowered in the sum over all tasks. -/
theorem Moves.measure_lt [Fintype ι] {states next : ∀ task, σ task}
    (moves : Moves advance states next) (measure : ∀ task, σ task → Nat)
    (decreases : ∀ task state after, advance task state = some after →
      measure task after < measure task state) :
    ∑ task, measure task (next task) < ∑ task, measure task (states task) := by
  obtain ⟨moved, after, step, rfl⟩ := moves
  refine Finset.sum_lt_sum (fun task _ => ?_) ⟨moved, Finset.mem_univ moved, ?_⟩
  · by_cases same : task = moved
    · subst same
      rw [Function.update_self]
      exact (decreases task _ after step).le
    · rw [Function.update_of_ne same]
  · rw [Function.update_self]
    exact decreases moved _ after step

end

/-- Where no step is possible. -/
def Final {σ : Type} (step : σ → σ → Prop) (state : σ) : Prop := ∀ next, ¬step state next

/-- A system whose steps make a measure smaller comes to an end. -/
theorem exists_final {σ : Type} {step : σ → σ → Prop} {measure : σ → Nat}
    (decreases : ∀ state next, step state next → measure next < measure state) (state : σ) :
    ∃ last, Relation.ReflTransGen step state last ∧ Final step last := by
  induction size : measure state using Nat.strong_induction_on generalizing state with
  | _ bound ih =>
      by_cases final : Final step state
      · exact ⟨state, .refl, final⟩
      · obtain ⟨next, stepped⟩ := not_forall_not.mp final
        obtain ⟨last, run, final⟩ :=
          ih (measure next) (size ▸ decreases state next stepped) next rfl
        exact ⟨last, .head stepped run, final⟩

end SmartMetWfs.Foundation
