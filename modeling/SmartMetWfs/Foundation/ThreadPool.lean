import Mathlib.Data.List.Basic
import Mathlib.Order.WellFounded
import Mathlib.Tactic.Common

/-!
# Threads that share a state

A pool holds what its threads share and what each of them is doing. A thread makes a step
at a time and may start further threads; calls from outside add threads as well. Threads
are never taken out of the pool, so that the place of a thread identifies it.

There are two rules: an invariant that is kept by all allowed events holds in whatever they
reach, and a thread whose steps make a rank smaller gets done in any infinite run that is
fair to it.
-/

namespace SmartMetWfs.Foundation

/-- What the threads share and what each of them is doing. -/
structure Pool (σ τ : Type) where
  shared : σ
  threads : List τ
  deriving DecidableEq

/-- What a step of a thread leaves, and the threads that it starts. -/
structure Effect (σ τ : Type) where
  shared : σ
  thread : τ
  started : List τ

/-- A call from outside, or a step of a thread with what the pool does not decide. -/
inductive PoolEvent (τ γ : Type) where
  | call (thread : τ)
  | run (tid : Nat) (choice : γ)

namespace Pool

variable {σ τ γ : Type} (act : Pool σ τ → τ → γ → Option (Effect σ τ))

/-- The threads after one of them has made a step. -/
def threadsAfter (threads : List τ) (tid : Nat) (effect : Effect σ τ) : List τ :=
  threads.set tid effect.thread ++ effect.started

/-- The next state, if the event is possible. -/
def step (pool : Pool σ τ) : PoolEvent τ γ → Option (Pool σ τ)
  | .call thread => some { pool with threads := pool.threads ++ [thread] }
  | .run tid choice =>
      match pool.threads[tid]? with
      | none => none
      | some thread =>
          (act pool thread choice).map fun effect =>
            ⟨effect.shared, threadsAfter pool.threads tid effect⟩

/-- The states that are reached by events that are allowed where they happen. -/
inductive Reached (allowed : Pool σ τ → PoolEvent τ γ → Prop) (start : Pool σ τ) : Pool σ τ → Prop
  | start : Reached allowed start start
  | next {pool after : Pool σ τ} {event : PoolEvent τ γ} (reached : Reached allowed start pool)
      (permitted : allowed pool event) (stepped : pool.step act event = some after) :
      Reached allowed start after

variable {act}

/-- A step of a thread is what `act` makes of it. -/
theorem step_run {pool after : Pool σ τ} {tid : Nat} {choice : γ}
    (stepped : pool.step act (.run tid choice) = some after) :
    ∃ thread effect, pool.threads[tid]? = some thread ∧ act pool thread choice = some effect ∧
      after = ⟨effect.shared, threadsAfter pool.threads tid effect⟩ := by
  cases found : pool.threads[tid]? with
  | none =>
      simp only [step, found] at stepped
      cases stepped
  | some thread =>
      simp only [step, found] at stepped
      obtain ⟨effect, acted, same⟩ := Option.map_eq_some_iff.mp stepped
      exact ⟨thread, effect, rfl, acted, same.symm⟩

/-- A call adds a thread and leaves the others. -/
theorem step_call {pool after : Pool σ τ} {thread : τ}
    (stepped : pool.step act (.call thread) = some after) :
    after = { pool with threads := pool.threads ++ [thread] } :=
  (Option.some.inj stepped).symm

/-- What is kept by the allowed events holds of whatever they reach. -/
theorem Reached.invariant {allowed : Pool σ τ → PoolEvent τ γ → Prop} {start pool : Pool σ τ}
    {invariant : Pool σ τ → Prop} (reached : Reached act allowed start pool)
    (initially : invariant start)
    (keeps : ∀ pool event after, invariant pool → allowed pool event →
      pool.step act event = some after → invariant after) : invariant pool := by
  induction reached with
  | start => exact initially
  | next _ permitted stepped ih => exact keeps _ _ _ ih permitted stepped

/-- What is reached with fewer events allowed is reached with more. -/
theorem Reached.weaken {allowed allowed' : Pool σ τ → PoolEvent τ γ → Prop} {start pool : Pool σ τ}
    (reached : Reached act allowed start pool)
    (weaker : ∀ pool event, allowed pool event → allowed' pool event) :
    Reached act allowed' start pool := by
  induction reached with
  | start => exact .start
  | next _ permitted stepped ih => exact .next ih (weaker _ _ permitted) stepped

/-- What a list of events leads to, if each of them is allowed and possible. -/
def replay (act : Pool σ τ → τ → γ → Option (Effect σ τ))
    (allowed : Pool σ τ → PoolEvent τ γ → Prop) [∀ pool event, Decidable (allowed pool event)] :
    Pool σ τ → List (PoolEvent τ γ) → Option (Pool σ τ)
  | pool, [] => some pool
  | pool, event :: events =>
      if allowed pool event then
        match pool.step act event with
        | none => none
        | some after => replay act allowed after events
      else none

/-- A replay goes on from a reachable pool to a reachable one. -/
theorem Reached.replay {allowed : Pool σ τ → PoolEvent τ γ → Prop}
    [∀ pool event, Decidable (allowed pool event)] {start pool after : Pool σ τ}
    {events : List (PoolEvent τ γ)} (reached : Reached act allowed start pool)
    (replayed : Pool.replay act allowed pool events = some after) :
    Reached act allowed start after := by
  induction events generalizing pool with
  | nil =>
      cases replayed
      exact reached
  | cons event events ih =>
      unfold Pool.replay at replayed
      split at replayed
      · next permitted =>
          split at replayed
          · cases replayed
          · next stepped => exact ih (reached.next permitted stepped) replayed
      · cases replayed

/-- The thread can make a step. -/
def CanRun (act : Pool σ τ → τ → γ → Option (Effect σ τ)) (pool : Pool σ τ) (tid : Nat) : Prop :=
  ∃ choice, (pool.step act (.run tid choice)).isSome

/-- A thread that can run is in the pool. -/
theorem CanRun.present {pool : Pool σ τ} {tid : Nat} (can : CanRun act pool tid) :
    ∃ thread, pool.threads[tid]? = some thread := by
  obtain ⟨choice, possible⟩ := can
  obtain ⟨after, stepped⟩ := Option.isSome_iff_exists.mp possible
  obtain ⟨thread, _, found, _⟩ := step_run stepped
  exact ⟨thread, found⟩

/-- A thread can run when it can act with some choice. -/
theorem canRun_iff {pool : Pool σ τ} {tid : Nat} {thread : τ}
    (found : pool.threads[tid]? = some thread) :
    CanRun act pool tid ↔ ∃ choice, (act pool thread choice).isSome := by
  simp [CanRun, step, found]

section Threads

variable {threads : List τ} {tid : Nat} {effect : Effect σ τ}

/-- A thread is the one that made the step, one of the others, or has been started. -/
theorem threadsAfter_cases {place : Nat} {thread : τ}
    (found : (threadsAfter threads tid effect)[place]? = some thread) :
    (place = tid ∧ thread = effect.thread) ∨ (place ≠ tid ∧ threads[place]? = some thread) ∨
      ∃ offset, place = threads.length + offset ∧ effect.started[offset]? = some thread := by
  unfold threadsAfter at found
  rw [List.getElem?_append, List.length_set] at found
  split at found
  · next within =>
      rw [List.getElem?_set] at found
      by_cases same : tid = place
      · rw [if_pos same, if_pos (same ▸ within)] at found
        exact .inl ⟨same.symm, (Option.some.inj found).symm⟩
      · rw [if_neg same] at found
        exact .inr (.inl ⟨Ne.symm same, found⟩)
  · next beyond =>
      exact .inr (.inr ⟨place - threads.length, by omega, found⟩)

/-- The thread that acted has changed. -/
theorem threadsAfter_self (within : tid < threads.length) :
    (threadsAfter threads tid effect)[tid]? = some effect.thread := by
  unfold threadsAfter
  rw [List.getElem?_append_left (by rwa [List.length_set]), List.getElem?_set_self within]

/-- The other threads have not changed. -/
theorem threadsAfter_other {place : Nat} {thread : τ} (other : place ≠ tid)
    (found : threads[place]? = some thread) :
    (threadsAfter threads tid effect)[place]? = some thread := by
  obtain ⟨within, -⟩ := List.getElem?_eq_some_iff.mp found
  unfold threadsAfter
  rw [List.getElem?_append_left (by rwa [List.length_set]), List.getElem?_set_ne other.symm, found]

/-- The threads that were started stand at the end. -/
theorem threadsAfter_started {offset : Nat} :
    (threadsAfter threads tid effect)[threads.length + offset]? = effect.started[offset]? := by
  unfold threadsAfter
  rw [List.getElem?_append_right (by rw [List.length_set]; omega), List.length_set]
  congr 1
  omega

end Threads

/-- What a thread does is changed by its own steps only. -/
theorem step_frame {pool after : Pool σ τ} {event : PoolEvent τ γ} {place : Nat} {thread : τ}
    (stepped : pool.step act event = some after) (found : pool.threads[place]? = some thread)
    (other : ∀ choice, event ≠ .run place choice) : after.threads[place]? = some thread := by
  cases event with
  | call new =>
      rw [step_call stepped]
      obtain ⟨within, -⟩ := List.getElem?_eq_some_iff.mp found
      exact (List.getElem?_append_left within).trans found
  | run tid choice =>
      obtain ⟨_, effect, _, _, rfl⟩ := step_run stepped
      refine threadsAfter_other (fun same => ?_) found
      exact other choice (by rw [same])

/-- An infinite run of a pool, in which nothing may happen for some time or for ever. -/
structure InfiniteRun (act : Pool σ τ → τ → γ → Option (Effect σ τ))
    (allowed : Pool σ τ → PoolEvent τ γ → Prop) where
  state : Nat → Pool σ τ
  event : Nat → Option (PoolEvent τ γ)
  moves : ∀ time, (event time = none ∧ state (time + 1) = state time) ∨
    ∃ happens, event time = some happens ∧ allowed (state time) happens ∧
      (state time).step act happens = some (state (time + 1))

namespace InfiniteRun

variable {allowed : Pool σ τ → PoolEvent τ γ → Prop} (run : InfiniteRun act allowed)

/-- No thread that can go on is left out for good. -/
def Fair : Prop :=
  ∀ tid time, ∃ later, time ≤ later ∧
    (¬CanRun act (run.state later) tid ∨ ∃ choice, run.event later = some (.run tid choice))

variable {run}

/-- What the allowed events keep holds at all later times. -/
theorem always {invariant : Pool σ τ → Prop} {time : Nat} (now : invariant (run.state time))
    (keeps : ∀ pool event after, invariant pool → allowed pool event →
      pool.step act event = some after → invariant after) {later : Nat} (after : time ≤ later) :
    invariant (run.state later) := by
  induction later, after using Nat.le_induction with
  | base => exact now
  | succ later _ ih =>
      rcases run.moves later with ⟨-, same⟩ | ⟨event, -, permitted, stepped⟩
      · rw [same]
        exact ih
      · exact keeps _ _ _ ih permitted stepped

section Progress

variable {tid : Nat} {done invariant : Pool σ τ → Prop}
  (keeps : ∀ pool event after, invariant pool → allowed pool event →
    pool.step act event = some after → invariant after ∨ done after)

include keeps

/-- Until a moment it is done, or the thread has made a step, or it is where it was. -/
theorem first_step {time : Nat} (now : invariant (run.state time)) {thread : τ}
    (found : (run.state time).threads[tid]? = some thread) {moment : Nat} (since : time ≤ moment) :
    (∃ final, time ≤ final ∧ done (run.state final)) ∨
      (∃ first choice, time ≤ first ∧ invariant (run.state first) ∧
        (run.state first).threads[tid]? = some thread ∧
        run.event first = some (.run tid choice)) ∨
      (invariant (run.state moment) ∧ (run.state moment).threads[tid]? = some thread) := by
  induction moment, since using Nat.le_induction with
  | base => exact .inr (.inr ⟨now, found⟩)
  | succ moment since ih =>
      rcases ih with finished | stepped | ⟨holds, here⟩
      · exact .inl finished
      · exact .inr (.inl stepped)
      · rcases run.moves moment with ⟨-, same⟩ | ⟨event, happens, permitted, stepped⟩
        · rw [same]
          exact .inr (.inr ⟨holds, here⟩)
        by_cases runs : ∃ choice, event = .run tid choice
        · obtain ⟨choice, rfl⟩ := runs
          exact .inr (.inl ⟨moment, choice, since, holds, here, happens⟩)
        · have others := fun choice same => runs ⟨choice, same⟩
          rcases keeps _ _ _ holds permitted stepped with kept | finished
          · exact .inr (.inr ⟨kept, step_frame stepped here others⟩)
          · exact .inl ⟨moment + 1, by omega, finished⟩

/-- In a fair run a thread gets done if until then it can go on and each of its steps makes
a rank smaller. -/
theorem eventually_done {ρ : Type} {below : ρ → ρ → Prop} (wellFounded : WellFounded below)
    {rank : τ → ρ} (enabled : ∀ pool, invariant pool → CanRun act pool tid)
    (decreases : ∀ pool choice after thread thread', invariant pool →
      allowed pool (.run tid choice) → pool.step act (.run tid choice) = some after →
      pool.threads[tid]? = some thread → after.threads[tid]? = some thread' →
      done after ∨ below (rank thread') (rank thread))
    (fair : run.Fair) {time : Nat} (now : invariant (run.state time)) :
    ∃ later, time ≤ later ∧ done (run.state later) := by
  obtain ⟨thread, found⟩ := (enabled _ now).present
  generalize ranked : rank thread = value
  induction value using wellFounded.induction generalizing time thread with
  | _ value ih =>
      obtain ⟨first, choice, since, holds, here, runs⟩ | finished :
          (∃ first choice, time ≤ first ∧ invariant (run.state first) ∧
            (run.state first).threads[tid]? = some thread ∧
            run.event first = some (.run tid choice)) ∨
          ∃ final, time ≤ final ∧ done (run.state final) := by
        obtain ⟨later, since, scheduled⟩ := fair tid time
        rcases first_step keeps now found since with finished | stepped | ⟨holds, here⟩
        · exact .inr finished
        · exact .inl stepped
        · rcases scheduled with cannot | ⟨choice, runs⟩
          · exact absurd (enabled _ holds) cannot
          · exact .inl ⟨later, choice, since, holds, here, runs⟩
      · obtain ⟨permitted, stepped⟩ : allowed (run.state first) (.run tid choice) ∧
            (run.state first).step act (.run tid choice) = some (run.state (first + 1)) := by
          rcases run.moves first with ⟨idle, -⟩ | ⟨event, happens, facts⟩
          · cases runs.symm.trans idle
          · obtain rfl := Option.some.inj (runs.symm.trans happens)
            exact facts
        rcases keeps _ _ _ holds permitted stepped with kept | finished
        · obtain ⟨thread', found'⟩ := (enabled _ kept).present
          rcases decreases _ _ _ _ _ holds permitted stepped here found' with finished | smaller
          · exact ⟨first + 1, by omega, finished⟩
          · rw [ranked] at smaller
            obtain ⟨final, after, finished⟩ := ih _ smaller kept thread' found' rfl
            exact ⟨final, by omega, finished⟩
        · exact ⟨first + 1, by omega, finished⟩
      · exact finished

end Progress

/-- In a fair run a thread that can go on as long as it stays where it is makes its step. -/
theorem eventually_steps {tid : Nat} {thread : τ} {invariant next : Pool σ τ → Prop}
    (keeps : ∀ pool event after, invariant pool → allowed pool event →
      pool.step act event = some after → invariant after)
    (enabled : ∀ pool, invariant pool → pool.threads[tid]? = some thread → CanRun act pool tid)
    (steps : ∀ pool choice after, invariant pool → allowed pool (.run tid choice) →
      pool.threads[tid]? = some thread → pool.step act (.run tid choice) = some after → next after)
    (fair : run.Fair) {time : Nat} (now : invariant (run.state time))
    (found : (run.state time).threads[tid]? = some thread) :
    ∃ later, time ≤ later ∧ next (run.state later) := by
  refine @eventually_done _ _ _ act allowed run tid next
    (fun pool => invariant pool ∧ pool.threads[tid]? = some thread) ?_ Nat _ Nat.lt_wfRel.wf
    (fun _ => 0) (fun pool holds => enabled pool holds.1 holds.2) ?_ fair time ⟨now, found⟩
  · intro pool event after ⟨holds, here⟩ permitted stepped
    by_cases runs : ∃ choice, event = .run tid choice
    · obtain ⟨choice, rfl⟩ := runs
      exact .inr (steps pool choice after holds permitted here stepped)
    · exact .inl ⟨keeps pool event after holds permitted stepped,
        step_frame stepped here fun choice same => runs ⟨choice, same⟩⟩
  · intro pool choice after _ _ ⟨holds, here⟩ permitted stepped _ _
    exact .inl (steps pool choice after holds permitted here stepped)

/-- The states that a list of events leads through, the last one for ever. -/
def statesOf (act : Pool σ τ → τ → γ → Option (Effect σ τ)) :
    Pool σ τ → List (PoolEvent τ γ) → Nat → Pool σ τ
  | pool, [], _ | pool, _, 0 => pool
  | pool, event :: events, time + 1 => statesOf act ((pool.step act event).getD pool) events time

/-- The events one after the other, and nothing after them. -/
def ofEvents [∀ pool event, Decidable (allowed pool event)] (start last : Pool σ τ)
    (events : List (PoolEvent τ γ)) (replayed : replay act allowed start events = some last) :
    InfiniteRun act allowed where
  state := statesOf act start events
  event := fun time => events[time]?
  moves := by
    intro time
    induction events generalizing start time with
    | nil => exact .inl ⟨rfl, by cases time <;> rfl⟩
    | cons event events ih =>
        unfold replay at replayed
        split at replayed
        · next permitted =>
            split at replayed
            · cases replayed
            · next after stepped =>
                cases time with
                | zero => exact .inr ⟨event, rfl,
                  permitted, by cases events <;> simp [statesOf, stepped]⟩
                | succ time =>
                    simp only [statesOf, stepped]
                    exact ih after replayed time
        · cases replayed

/-- A run of finitely many events is fair when no thread can run at its end. -/
theorem ofEvents_fair [∀ pool event, Decidable (allowed pool event)] {start last : Pool σ τ}
    {events : List (PoolEvent τ γ)} (replayed : replay act allowed start events = some last)
    (idle : ∀ tid, ¬CanRun act last tid) : (ofEvents start last events replayed).Fair := by
  have arrives : ∀ time, events.length ≤ time → statesOf act start events time = last := by
    intro time
    induction events generalizing start time with
    | nil =>
        intro _
        cases replayed
        cases time <;> rfl
    | cons event events ih =>
        intro enough
        unfold replay at replayed
        split at replayed
        · split at replayed
          · cases replayed
          · next stepped =>
              obtain ⟨time, rfl⟩ := Nat.exists_eq_succ_of_ne_zero
                (Nat.ne_of_gt (Nat.lt_of_lt_of_le (Nat.succ_pos _) enough))
              simp only [statesOf, stepped]
              exact ih replayed time (Nat.le_of_succ_le_succ enough)
        · cases replayed
  intro tid time
  refine ⟨max time events.length, le_max_left .., .inl ?_⟩
  change ¬CanRun act (statesOf act start events _) tid
  rw [arrives _ (le_max_right ..)]
  exact idle tid

end InfiniteRun

end Pool

end SmartMetWfs.Foundation
