import Mathlib.Data.List.Basic
import Mathlib.Tactic.Common

/-!
# Loops with a flag

A loop goes on as long as its body sets a flag, and its body may fail. How it ends is told
by the states that its rounds begin with: the loop runs out of fuel exactly when there are
more rounds than fuel, and otherwise the last round fails or leaves the flag unset.
-/

namespace SmartMetWfs.Foundation

variable {σ ε : Type} (body : σ → Except ε σ) (more : σ → Bool)

/-- A loop that does its body first; nothing when there are more rounds than fuel. -/
def loopWhile : Nat → σ → Option (Except ε σ)
  | 0, _ => none
  | fuel + 1, state =>
      match body state with
      | .error failure => some (.error failure)
      | .ok next => if more next then loopWhile fuel next else some (.ok next)

variable {body more}

/-- A round after which the loop goes on. -/
theorem loopWhile_again {fuel : Nat} {start next : σ} (ran : body start = .ok next)
    (goesOn : more next = true) :
    loopWhile body more (fuel + 1) start = loopWhile body more fuel next := by
  simp only [loopWhile, ran, goesOn, if_true]

/-- The round after which the loop stops. -/
theorem loopWhile_last {fuel : Nat} {start last : σ} (ran : body start = .ok last)
    (stops : more last = false) : loopWhile body more (fuel + 1) start = some (.ok last) := by
  simp only [loopWhile, ran, stops]
  rfl

/-- A round that fails is the last one. -/
theorem loopWhile_error {fuel : Nat} {start : σ} {failure : ε}
    (failed : body start = .error failure) :
    loopWhile body more (fuel + 1) start = some (.error failure) := by
  simp only [loopWhile, failed]

variable (body more)

/-- The states that the rounds so far began with, the latest one first. -/
inductive Rounds (start : σ) : List σ → Prop
  | first : Rounds start [start]
  | again {state next : σ} {earlier : List σ} (rounds : Rounds start (state :: earlier))
      (ran : body state = .ok next) (goesOn : more next = true) :
      Rounds start (next :: state :: earlier)

/-- How a round ends the loop. -/
def EndsWith (state : σ) : Except ε σ → Prop
  | .error failure => body state = .error failure
  | .ok last => body state = .ok last ∧ more last = false

variable {body more}

/-- A round in front of other rounds. -/
theorem Rounds.before {start next : σ} (ran : body start = .ok next) (goesOn : more next = true)
    {states : List σ} (rounds : Rounds body more next states) :
    Rounds body more start (states ++ [start]) := by
  induction rounds with
  | first => exact .again .first ran goesOn
  | again _ ran' goesOn' ih => exact .again ih ran' goesOn'

/-- There is one round only, or the rest are the rounds from the next state. -/
theorem Rounds.cases_before {start : σ} {states : List σ} (rounds : Rounds body more start states) :
    states = [start] ∨ ∃ next later, body start = .ok next ∧ more next = true ∧
      Rounds body more next later ∧ states = later ++ [start] := by
  induction rounds with
  | first => exact .inl rfl
  | @again state next earlier rounds ran goesOn ih =>
      right
      rcases ih with single | ⟨middle, later, ran', goesOn', rounds', whole⟩
      · cases single
        exact ⟨next, [next], ran, goesOn, .first, rfl⟩
      · cases later with
        | nil => cases rounds'
        | cons _ later =>
            cases whole
            exact ⟨middle, next :: state :: later, ran', goesOn', .again rounds' ran goesOn, rfl⟩

/-- The loop ends with a round for which there is fuel. -/
theorem loopWhile_eq_some_iff {fuel : Nat} {start : σ} {outcome : Except ε σ} :
    loopWhile body more fuel start = some outcome ↔
      ∃ state earlier, Rounds body more start (state :: earlier) ∧ earlier.length < fuel ∧
        EndsWith body more state outcome := by
  induction fuel generalizing start with
  | zero => exact ⟨nofun, fun ⟨_, _, _, below, _⟩ => absurd below (Nat.not_lt_zero _)⟩
  | succ fuel ih =>
      unfold loopWhile
      have ends_of_rounds : ∀ {state earlier}, Rounds body more start (state :: earlier) →
          (state = start ∧ earlier = []) ∨ ∃ next later, body start = .ok next ∧
            more next = true ∧ Rounds body more next (state :: later) ∧
            earlier = later ++ [start] := by
        intro state earlier rounds
        rcases rounds.cases_before with single | ⟨next, later, ran, goesOn, rounds', whole⟩
        · cases single
          exact .inl ⟨rfl, rfl⟩
        · cases later with
          | nil => cases rounds'
          | cons _ later =>
              cases whole
              exact .inr ⟨next, later, ran, goesOn, rounds', rfl⟩
      constructor
      · intro ended
        cases ran : body start with
        | error failure =>
            rw [ran] at ended
            cases ended
            exact ⟨start, [], .first, Nat.succ_pos _, ran⟩
        | ok next =>
            simp only [ran] at ended
            cases goesOn : more next with
            | false =>
                rw [goesOn] at ended
                cases ended
                exact ⟨start, [], .first, Nat.succ_pos _, ran, goesOn⟩
            | true =>
                rw [if_pos goesOn] at ended
                obtain ⟨state, earlier, rounds, enough, ends⟩ := ih.mp ended
                refine ⟨state, earlier ++ [start], rounds.before ran goesOn, ?_, ends⟩
                rw [List.length_append]
                exact Nat.succ_lt_succ enough
      · rintro ⟨state, earlier, rounds, enough, ends⟩
        rcases ends_of_rounds rounds with ⟨rfl, rfl⟩ | ⟨next, later, ran, goesOn, rounds', rfl⟩
        · cases outcome with
          | error failure => exact loopWhile_error ends
          | ok last => exact loopWhile_last ends.1 ends.2
        · rw [List.length_append] at enough
          refine (loopWhile_again ran goesOn).trans ?_
          exact ih.mpr ⟨state, later, rounds', Nat.lt_of_succ_lt_succ enough, ends⟩

/-- An outcome stays the same with more fuel. -/
theorem loopWhile_mono {fuel fuel' : Nat} {start : σ} {outcome : Except ε σ}
    (ended : loopWhile body more fuel start = some outcome) (enough : fuel ≤ fuel') :
    loopWhile body more fuel' start = some outcome := by
  obtain ⟨state, earlier, rounds, below, ends⟩ := loopWhile_eq_some_iff.mp ended
  exact loopWhile_eq_some_iff.mpr ⟨state, earlier, rounds, Nat.lt_of_lt_of_le below enough, ends⟩

/-- More fuel does not change how the loop ends. -/
theorem loopWhile_unique {fuel fuel' : Nat} {start : σ} {outcome outcome' : Except ε σ}
    (ended : loopWhile body more fuel start = some outcome)
    (ended' : loopWhile body more fuel' start = some outcome') : outcome = outcome' := by
  rcases Nat.le_total fuel fuel' with enough | enough
  · exact Option.some.inj ((loopWhile_mono ended enough).symm.trans ended')
  · exact Option.some.inj (ended.symm.trans (loopWhile_mono ended' enough))

/-- Without enough fuel there are more rounds than fuel. -/
theorem rounds_of_loopWhile_none {fuel : Nat} {start : σ}
    (none : loopWhile body more fuel start = none) :
    ∃ states, Rounds body more start states ∧ states.length = fuel + 1 := by
  induction fuel generalizing start with
  | zero => exact ⟨[start], .first, rfl⟩
  | succ fuel ih =>
      unfold loopWhile at none
      cases ran : body start with
      | error failure =>
          rw [ran] at none
          cases none
      | ok next =>
          simp only [ran] at none
          cases goesOn : more next with
          | false =>
              rw [goesOn] at none
              cases none
          | true =>
              rw [if_pos goesOn] at none
              obtain ⟨states, rounds, count⟩ := ih none
              refine ⟨states ++ [start], rounds.before ran goesOn, ?_⟩
              rw [List.length_append, count]
              rfl

/-- A loop of so many rounds at most ends. -/
theorem exists_end_of_bounded {start : σ} {most : Nat}
    (bounded : ∀ states, Rounds body more start states → states.length ≤ most) :
    ∃ outcome, ∀ fuel, most ≤ fuel → loopWhile body more fuel start = some outcome := by
  cases ended : loopWhile body more most start with
  | none =>
      obtain ⟨states, rounds, count⟩ := rounds_of_loopWhile_none ended
      have := bounded states rounds
      omega
  | some outcome =>
      exact ⟨outcome, fun _ enough => loopWhile_mono ended enough⟩

end SmartMetWfs.Foundation
