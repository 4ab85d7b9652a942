import Mathlib.Logic.Relation
import SmartMetWfs.Foundation.Outcomes

/-!
# Runs of a machine that may fail

A machine is given by a step that leads from a state to the next one or fails. A
computation *leads* through a machine if the machine gets where the computation ends and
fails where it fails. States may also be reached by such steps only that meet a
condition: an invariant that these steps keep holds in all of them.
-/

namespace SmartMetWfs.Foundation

variable {σ ε α β : Type} (step : σ → Except ε σ)

/-- Some steps lead from one state to the other. -/
def Runs : σ → σ → Prop := Relation.ReflTransGen fun state next => step state = .ok next

/-- The machine gets where the computation ends and fails where it fails. -/
def Leads (start : σ) (computation : Except ε α) (arrives : α → σ → Prop) : Prop :=
  match computation with
  | .ok result => ∃ last, Runs step start last ∧ arrives result last
  | .error failure => ∃ last, Runs step start last ∧ step last = .error failure

/-- The states that are reached by steps that meet the condition. -/
inductive Reached (condition : σ → Prop) (start : σ) : σ → Prop
  | start : Reached condition start start
  | step {state next : σ} (reached : Reached condition start state) (meets : condition state)
      (stepped : step state = .ok next) : Reached condition start next

variable {step}

/-- A computation that is over has arrived. -/
theorem Leads.ok {start : σ} {result : α} {arrives : α → σ → Prop}
    (arrived : arrives result start) :
    Leads step start (.ok result) arrives := ⟨start, .refl, arrived⟩

/-- A step that fails is the failure of the computation. -/
theorem Leads.error {start : σ} {failure : ε} {arrives : α → σ → Prop}
    (failed : step start = .error failure) : Leads step start (.error failure) arrives :=
  ⟨start, .refl, failed⟩

/-- A step may be made before. -/
theorem Leads.head {start next : σ} {computation : Except ε α} {arrives : α → σ → Prop}
    (stepped : step start = .ok next) (leads : Leads step next computation arrives) :
    Leads step start computation arrives := by
  cases computation with
  | error failure =>
      obtain ⟨last, runs, failed⟩ := leads
      exact ⟨last, .head stepped runs, failed⟩
  | ok result =>
      obtain ⟨last, runs, arrived⟩ := leads
      exact ⟨last, .head stepped runs, arrived⟩

/-- The run of a second computation goes on where that of the first arrived. -/
theorem Leads.bind {start : σ} {computation : Except ε α} {next : α → Except ε β}
    {arrives : α → σ → Prop} {finishes : β → σ → Prop}
    (first : Leads step start computation arrives)
    (rest : ∀ result middle, computation = .ok result → arrives result middle →
      Leads step middle (next result) finishes) :
    Leads step start (computation >>= next) finishes := by
  cases computation with
  | error failure => exact first
  | ok result =>
      obtain ⟨middle, runs, arrived⟩ := first
      have after := rest result middle rfl arrived
      change Leads step start (next result) finishes
      cases outcome : next result with
      | error failure =>
          rw [outcome] at after
          obtain ⟨last, runs', failed⟩ := after
          exact ⟨last, runs.trans runs', failed⟩
      | ok final =>
          rw [outcome] at after
          obtain ⟨last, runs', finished⟩ := after
          exact ⟨last, runs.trans runs', finished⟩

/-- An invariant that is kept by steps that meet the condition holds of what they reach. -/
theorem Reached.invariant {condition : σ → Prop} {start : σ} {tolerated : ε → Prop}
    {invariant : σ → Prop} (initially : invariant start)
    (keeps : ∀ state, invariant state → condition state → Meets tolerated (step state) invariant)
    {state : σ} (reached : Reached step condition start state) : invariant state := by
  induction reached with
  | start => exact initially
  | step _ meets stepped ih => exact (keeps _ ih meets).of_ok stepped

/-- If all steps meet the condition whatever the machine reaches is reached by such steps. -/
theorem Reached.of_runs {condition : σ → Prop} {start state : σ}
    (meets : ∀ state, Reached step condition start state → condition state)
    (runs : Runs step start state) : Reached step condition start state := by
  induction runs with
  | refl => exact .start
  | tail _ stepped ih => exact .step ih (meets _ ih) stepped

/-- The states of a run pass the check until one is reached in which the machine stays. -/
def passesUntil (step : σ → Except ε σ) (check stays : σ → Bool) : Nat → σ → Bool
  | 0, _ => false
  | fuel + 1, state => check state && (stays state ||
      match step state with
      | .ok next => passesUntil step check stays fuel next
      | .error _ => true)

/-- A run whose states pass the check until the machine stays in one. -/
theorem Runs.of_passesUntil {check stays : σ → Bool} {condition : σ → Prop}
    (sound : ∀ state, check state = true → condition state)
    (settled : ∀ state, stays state = true → step state = .ok state) {fuel : Nat} {start : σ}
    (passes : passesUntil step check stays fuel start = true) :
    ∀ state, Runs step start state → condition state := by
  induction fuel generalizing start with
  | zero => cases passes
  | succ fuel ih =>
      rw [passesUntil, Bool.and_eq_true, Bool.or_eq_true] at passes
      obtain ⟨checked, goesOn⟩ := passes
      intro state runs
      rcases goesOn with isSettled | goesOn
      · have stepped := settled start isSettled
        have same : state = start := by
          induction runs with
          | refl => rfl
          | tail _ next ih =>
              rw [ih, stepped] at next
              exact (Except.ok.inj next).symm
        exact same ▸ sound start checked
      · rcases Relation.ReflTransGen.cases_head runs with rfl | ⟨next, stepped, rest⟩
        · exact sound start checked
        · rw [stepped] at goesOn
          exact ih goesOn state rest

/-- What is reached under a condition is on a run. -/
theorem Reached.runs {condition : σ → Prop} {start state : σ}
    (reached : Reached step condition start state) : Runs step start state := by
  induction reached with
  | start => exact .refl
  | step _ _ stepped ih => exact ih.tail stepped

/-- A computation fails like the machine it leads through. -/
theorem Leads.tolerated {condition : σ → Prop} {start : σ} {tolerated : ε → Prop}
    {invariant : σ → Prop} {computation : Except ε α} {arrives : α → σ → Prop}
    (leads : Leads step start computation arrives) (initially : invariant start)
    (keeps : ∀ state, invariant state → condition state → Meets tolerated (step state) invariant)
    (meets : ∀ state, Reached step condition start state → condition state) :
    Meets tolerated computation fun _ => True := by
  cases computation with
  | ok result => exact trivial
  | error failure =>
      obtain ⟨last, runs, failed⟩ := leads
      have reached := Reached.of_runs meets runs
      have outcome := keeps last (reached.invariant initially keeps) (meets last reached)
      rw [failed] at outcome
      exact outcome

end SmartMetWfs.Foundation
