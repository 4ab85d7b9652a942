import Mathlib.Data.List.Sort
import Mathlib.Algebra.GroupWithZero.Nat
import Mathlib.Tactic.Common

/-!
# Progressions and counters that wrap around

The numbers from a first one up to a last one with a step between them, and a loop that
counts through them with a counter that wraps around. The loop goes through exactly these
numbers if the counter gets past the last one before it wraps around.
-/

namespace SmartMetWfs.Foundation

/-- The numbers from the first one on that are not above the last one. -/
def progression (first step last : Nat) : List Nat :=
  (List.range (last + 1)).filter fun number => first ≤ number ∧ step ∣ number - first

/-- The numbers that a whole number of steps reaches. -/
theorem mem_progression {first step last number : Nat} :
    number ∈ progression first step last ↔
      number ≤ last ∧ ∃ rounds, number = first + rounds * step := by
  rw [progression, List.mem_filter, List.mem_range, Nat.lt_add_one_iff, decide_eq_true_eq]
  refine and_congr_right fun _ => ⟨?_, ?_⟩
  · rintro ⟨above, rounds, distance⟩
    refine ⟨rounds, ?_⟩
    rw [Nat.mul_comm, ← distance]
    omega
  · rintro ⟨rounds, rfl⟩
    refine ⟨Nat.le_add_right _ _, rounds, ?_⟩
    rw [Nat.add_sub_cancel_left, Nat.mul_comm]

/-- There is no number when the first is above the last. -/
theorem progression_eq_nil {first step last : Nat} (above : last < first) :
    progression first step last = [] := by
  refine List.eq_nil_iff_forall_not_mem.mpr fun number member => ?_
  obtain ⟨below, rounds, rfl⟩ := mem_progression.mp member
  omega

/-- The number of rounds in which a counter gets past the last number. -/
def roundsPast (first step last : Nat) : Nat := (last - first) / step + 1

section

variable {first step last : Nat} (positive : 0 < step) (ordered : first ≤ last)

include positive ordered

/-- A round is inside while it is below the number of rounds. -/
theorem le_last_iff {rounds : Nat} :
    first + rounds * step ≤ last ↔ rounds < roundsPast first step last := by
  rw [roundsPast, Nat.lt_add_one_iff, Nat.le_div_iff_mul_le positive]
  omega

/-- The number of each round, in their order. -/
theorem progression_eq_map :
    progression first step last =
      (List.range (roundsPast first step last)).map fun rounds => first + rounds * step := by
  have increasing : (progression first step last).Pairwise (· < ·) :=
    List.pairwise_lt_range.filter _
  have increasing' : ((List.range (roundsPast first step last)).map
      fun rounds => first + rounds * step).Pairwise (· < ·) := by
    refine List.pairwise_map.mpr (List.pairwise_lt_range.imp fun {rounds rounds'} before => ?_)
    exact Nat.add_lt_add_left (Nat.mul_lt_mul_of_pos_right before positive) first
  refine increasing.eq_of_mem_iff increasing' fun number => ?_
  rw [mem_progression, List.mem_map]
  constructor
  · rintro ⟨below, rounds, rfl⟩
    exact ⟨rounds, List.mem_range.mpr ((le_last_iff positive ordered).mp below), rfl⟩
  · rintro ⟨rounds, member, rfl⟩
    exact ⟨(le_last_iff positive ordered).mpr (List.mem_range.mp member), rounds, rfl⟩

end

/-! ### The loop -/

/-- The counter in a round. -/
def wrapped (modulus first step rounds : Nat) : Nat := (first + rounds * step) % modulus

/-- The rounds of a loop that goes on while the counter is not above the last number. A
counter takes on no new numbers after as many rounds as there are numbers. -/
def wrappingRounds (modulus first step last : Nat) : Option Nat :=
  (List.range modulus).find? fun rounds => last < wrapped modulus first step rounds

/-- The counter gets past the last number before it wraps around. -/
def Passes (modulus first step last : Nat) : Prop :=
  last < first ∨ (0 < step ∧ first + roundsPast first step last * step < modulus)

instance (modulus first step last : Nat) : Decidable (Passes modulus first step last) :=
  inferInstanceAs (Decidable (_ ∨ _))

section

variable {modulus first step last : Nat} (inRange : last < modulus)

include inRange

/-- The loop goes through the progression if the counter passes the last number. -/
theorem wrappingRounds_of_passes (firstInRange : first < modulus)
    (passes : Passes modulus first step last) :
    ∃ rounds, wrappingRounds modulus first step last = some rounds ∧
      (List.range rounds).map (wrapped modulus first step) = progression first step last := by
  by_cases above : last < first
  · refine ⟨0, ?_, (progression_eq_nil above).symm⟩
    refine List.find?_range_eq_some.mpr ⟨?_, ?_, fun _ before => absurd before (Nat.not_lt_zero _)⟩
    · rw [decide_eq_true_eq, wrapped, Nat.zero_mul, Nat.add_zero, Nat.mod_eq_of_lt firstInRange]
      exact above
    · exact List.mem_range.mpr (by omega)
  · obtain ⟨positive, fits⟩ := passes.resolve_left above
    have ordered := Nat.not_lt.mp above
    have inside : ∀ rounds, rounds < roundsPast first step last →
        wrapped modulus first step rounds = first + rounds * step := by
      intro rounds before
      have below := (le_last_iff positive ordered).mpr before
      exact Nat.mod_eq_of_lt (by omega)
    refine ⟨roundsPast first step last, ?_, ?_⟩
    · refine List.find?_range_eq_some.mpr ⟨?_, ?_, fun rounds before => ?_⟩
      · rw [decide_eq_true_eq, wrapped, Nat.mod_eq_of_lt fits]
        exact Nat.lt_of_not_ge fun below =>
          Nat.lt_irrefl _ ((le_last_iff positive ordered).mp below)
      · have := Nat.le_mul_of_pos_right (roundsPast first step last) positive
        exact List.mem_range.mpr (by omega)
      · have below := (le_last_iff positive ordered).mpr before
        rw [inside rounds before, decide_eq_false (by omega)]
        rfl
    · rw [progression_eq_map positive ordered]
      exact List.map_congr_left fun rounds member => inside rounds (List.mem_range.mp member)

/-- Otherwise it does not end or goes through more numbers. -/
theorem wrappingRounds_of_not_passes (short : step < modulus)
    (stays : ¬ Passes modulus first step last) {rounds : Nat}
    (ends : wrappingRounds modulus first step last = some rounds) :
    (progression first step last).length < rounds := by
  obtain ⟨past, _, _⟩ := List.find?_range_eq_some.mp ends
  rw [decide_eq_true_eq] at past
  unfold Passes at stays
  rw [not_or, not_and, Nat.not_lt, Nat.not_lt] at stays
  obtain ⟨ordered, wraps⟩ := stays
  rcases Nat.eq_zero_or_pos step with rfl | positive
  · rw [wrapped, Nat.mul_zero, Nat.add_zero, Nat.mod_eq_of_lt (by omega)] at past
    omega
  · rw [progression_eq_map positive ordered, List.length_map, List.length_range]
    rcases lt_trichotomy rounds (roundsPast first step last) with before | rfl | after
    · have below := (le_last_iff positive ordered).mpr before
      rw [wrapped, Nat.mod_eq_of_lt (by omega)] at past
      omega
    · -- The counter has been the last number or less, and is less again after a step.
      have before : first + (last - first) / step * step ≤ last :=
        (le_last_iff positive ordered).mpr (Nat.lt_succ_self _)
      have wraps := wraps positive
      have step' : roundsPast first step last * step = (last - first) / step * step + step :=
        Nat.succ_mul _ _
      rw [wrapped, Nat.mod_eq_sub_mod wraps, Nat.mod_eq_of_lt (by omega)] at past
      omega
    · exact after

end

/-- A loop that has not ended when the numbers are used up does not end. -/
theorem wrappingRounds_eq_none {modulus first step last : Nat} (positive : 0 < modulus) :
    wrappingRounds modulus first step last = none ↔
      ∀ rounds, wrapped modulus first step rounds ≤ last := by
  rw [wrappingRounds, List.find?_range_eq_none]
  constructor
  · intro stays rounds
    have repeats : wrapped modulus first step rounds =
        wrapped modulus first step (rounds % modulus) := by
      unfold wrapped
      conv_rhs => rw [Nat.add_mod, Nat.mul_mod, Nat.mod_mod, ← Nat.mul_mod, ← Nat.add_mod]
    have stay := stays (rounds % modulus) (Nat.mod_lt _ positive)
    rw [Bool.not_eq_true', decide_eq_false_iff_not, Nat.not_lt] at stay
    rwa [repeats]
  · intro stays rounds _
    rw [Bool.not_eq_true', decide_eq_false_iff_not, Nat.not_lt]
    exact stays rounds

end SmartMetWfs.Foundation
