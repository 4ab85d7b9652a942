import Mathlib.Data.Nat.Digits.Defs
import SmartMetWfs.BStream.Unambiguous
import SmartMetWfs.Foundation.Simulations

/-!
# Numbers that do not fit

`get_unsigned` goes on as long as the input says so. Here the shift of each group is checked,
since a shift by 64 or more is undefined. The groups that the input holds decide what comes out:
up to thirteen of them are read without an undefined shift, and the result is the number they
denote as long as it has 64 bits.
-/

namespace SmartMetWfs

open Foundation OBStream IBStream

/-- What ends `get_unsigned` early: an exception, or a shift by this count. -/
inductive NumberFault where
  | thrown (error : StreamError)
  | undefinedShift (off : Nat)
  deriving DecidableEq

namespace IBStream

/-- One round of `get_unsigned` with its shift checked. -/
def getCheckedGroup (state : UInt64 × Nat) :
    StateT IBStream (Except NumberFault) (UInt64 × Nat) := do
  let part ← mapError .thrown (getBits 5)
  if state.2 < 64 then
    pure (state.1 ||| part.toUInt64 <<< UInt64.ofNat state.2, state.2 + 5)
  else throw (.undefinedShift state.2)

theorem getCheckedGroup_shrinks (state : UInt64 × Nat) :
    Shrinks remaining (getCheckedGroup state) := by
  refine ((getBits_shrinks 5).mapError _).bind fun part => ?_
  split
  · exact .pure _
  · exact .throw _

/-- The loop of `get_unsigned`. -/
def getCheckedLoop (state : UInt64 × Nat) : StateT IBStream (Except NumberFault) (UInt64 × Nat) :=
  whileFlag (mapError .thrown getBit) (getBit_advances.mapError _) getCheckedGroup
    getCheckedGroup_shrinks state

/-- `get_unsigned` with every shift checked. -/
def getCheckedUnsigned : StateT IBStream (Except NumberFault) UInt64 := do
  let state ← getCheckedLoop (0, 0)
  pure state.1

/-- The checks do not change what is read. -/
theorem getCheckedUnsigned_guards : Guards NumberFault.thrown getCheckedUnsigned getUnsigned := by
  have rounds :
      ∀ state, Guards NumberFault.thrown (getCheckedGroup state) (getUnsignedGroup state) := by
    intro state
    refine (Guards.mapError (getBits 5)).bind fun part => ?_
    split
    · exact .pure _
    · exact .throw (fun _ => NumberFault.noConfusion) _
  exact (Guards.whileFlag rounds (0, 0)).bind fun state => .pure state.1

end IBStream

/-! ### The groups in the input -/

/-- The groups that the bits begin with, and what follows a bit that ends them. -/
def splitGroups (bits : List Bool) : List Nat × Option (List Bool) :=
  match bits with
  | [] => ([], none)
  | false :: rest => ([], some rest)
  | true :: rest =>
      if rest.length < 5 then ([], none)
      else
        let others := splitGroups (rest.drop 5)
        (ofBitsMSB (rest.take 5) :: others.1, others.2)
termination_by bits.length
decreasing_by
  rw [List.length_drop, List.length_cons]
  omega

/-- The bits of some groups. -/
def groupBits (groups : List Nat) : List Bool :=
  groups.flatMap fun group => true :: bitsMSB 5 group

/-- Groups are found again, whatever follows the bit that ends them. -/
theorem splitGroups_groupBits {groups : List Nat} (small : ∀ group ∈ groups, group < 32)
    (rest : List Bool) : splitGroups (groupBits groups ++ false :: rest) = (groups, some rest) := by
  induction groups with
  | nil => exact splitGroups.eq_2 rest
  | cons group groups ih =>
      rw [List.forall_mem_cons] at small
      have size : (bitsMSB 5 group).length = 5 := length_bitsMSB 5 group
      have shown : groupBits (group :: groups) ++ false :: rest =
          true :: (bitsMSB 5 group ++ (groupBits groups ++ false :: rest)) := by
        simp [groupBits]
      rw [shown, splitGroups, if_neg (by rw [List.length_append, size]; omega)]
      simp only [List.take_left' size, List.drop_left' size, ih small.2]
      rw [ofBitsMSB_bitsMSB, Nat.mod_eq_of_lt (show group < 2 ^ 5 from small.1)]

/-- The state of the loop after one more group. -/
def addGroup (state : UInt64 × Nat) (group : Nat) : UInt64 × Nat :=
  (state.1 ||| (UInt32.ofNat group).toUInt64 <<< UInt64.ofNat state.2, state.2 + 5)

/-- From this offset on so many groups can be shifted. -/
def ShiftsDefined (off count : Nat) : Prop := ∀ index, index < count → off + 5 * index < 64

/-- One more group is shifted by five bits more. -/
theorem shiftsDefined_succ {off count : Nat} :
    ShiftsDefined off (count + 1) ↔ off < 64 ∧ ShiftsDefined (off + 5) count := by
  constructor
  · intro defined
    refine ⟨defined 0 (Nat.succ_pos _), fun index below => ?_⟩
    have := defined (index + 1) (Nat.succ_lt_succ below)
    omega
  · rintro ⟨first, others⟩ index below
    cases index with
    | zero => exact first
    | succ index =>
        have := others index (Nat.lt_of_succ_lt_succ below)
        omega

/-- Thirteen groups can be shifted. -/
theorem shiftsDefined_zero {count : Nat} : ShiftsDefined 0 count ↔ count ≤ 13 := by
  constructor
  · intro defined
    by_contra many
    have := defined 13 (not_le.mp many)
    omega
  · intro few index below
    omega

/-- How the loop ends from a state where the input begins with the groups and the bits after
them: with an exception where the input ends first. -/
def LoopEnds (state : UInt64 × Nat) (groups : List Nat) (rest : Option (List Bool))
    (outcome : Except NumberFault ((UInt64 × Nat) × IBStream)) : Prop :=
  (¬ShiftsDefined state.2 groups.length ∧ ∃ off, outcome = .error (.undefinedShift off)) ∨
  (ShiftsDefined state.2 groups.length ∧ rest = none ∧
    outcome = .error (.thrown .unexpectedEnd)) ∨
  (ShiftsDefined state.2 groups.length ∧ ∃ after,
    outcome = .ok (groups.foldl addGroup state, after) ∧
    rest = some after.remaining)

/-- No group needs no shift. -/
theorem shiftsDefined_none (off : Nat) : ShiftsDefined off 0 :=
  fun _ below => absurd below (Nat.not_lt_zero _)

/-- A group that is there is added, if its shift is defined. -/
theorem getCheckedGroup_eq {before : IBStream} (state : UInt64 × Nat)
    (enough : 5 ≤ before.remaining.length) :
    ∃ after, after.remaining = before.remaining.drop 5 ∧ getCheckedGroup state before =
      if state.2 < 64 then .ok (addGroup state (ofBitsMSB (before.remaining.take 5)), after)
      else .error (.undefinedShift state.2) := by
  have takes := (getBits_takes (by decide : 5 < 32)).mapError NumberFault.thrown
  obtain ⟨after, ran, left⟩ := takes.run enough
  refine ⟨after, left, ?_⟩
  change (mapError NumberFault.thrown (getBits 5) before >>= fun step => _) = _
  rw [ran]
  split <;> rfl

/-- A group that is cut off is the end of the stream. -/
theorem getCheckedGroup_exhausted {before : IBStream} (state : UInt64 × Nat)
    (short : before.remaining.length < 5) :
    getCheckedGroup state before = .error (.thrown .unexpectedEnd) := by
  have takes := (getBits_takes (by decide : 5 < 32)).mapError NumberFault.thrown
  change (mapError NumberFault.thrown (getBits 5) before >>= fun step => _) = _
  rw [takes.exhausted before short]
  rfl

/-- The loop over the groups of the input, whatever they are. -/
theorem getCheckedLoop_ends (bits : List Bool) :
    ∀ (before : IBStream) (state : UInt64 × Nat), before.remaining = bits →
      LoopEnds state (splitGroups bits).1 (splitGroups bits).2 (getCheckedLoop state before) := by
  have flagTakes := getBit_takes.mapError NumberFault.thrown
  fun_induction splitGroups bits with
  | case1 =>
      intro before state shown
      have failed := flagTakes.exhausted before (by rw [shown]; exact Nat.one_pos)
      exact .inr (.inl ⟨shiftsDefined_none _, rfl, whileFlag_flag_error failed⟩)
  | case2 rest =>
      intro before state shown
      obtain ⟨after, ran, left⟩ :=
        (getBit_consumes false).mapError NumberFault.thrown before rest shown
      exact .inr (.inr ⟨shiftsDefined_none _, after, whileFlag_end ran, by rw [left]⟩)
  | case3 rest short =>
      intro before state shown
      obtain ⟨after, ran, left⟩ :=
        (getBit_consumes true).mapError NumberFault.thrown before rest shown
      have failed := getCheckedGroup_exhausted state (left ▸ short)
      exact .inr (.inl ⟨shiftsDefined_none _, rfl, whileFlag_body_error ran failed⟩)
  | case4 rest enough others ih =>
      intro before state shown
      obtain ⟨middle, ran, left⟩ :=
        (getBit_consumes true).mapError NumberFault.thrown before rest shown
      obtain ⟨after, left', round⟩ := getCheckedGroup_eq state (left ▸ not_lt.mp enough)
      rw [left] at left' round
      unfold LoopEnds
      rw [List.length_cons, shiftsDefined_succ]
      by_cases defined : state.2 < 64
      · rw [if_pos defined] at round
        have again : getCheckedLoop state before = getCheckedLoop _ after :=
          whileFlag_again ran round
        rw [again, and_iff_right defined, List.foldl_cons]
        exact ih after (addGroup state (ofBitsMSB (rest.take 5))) left'
      · rw [if_neg defined] at round
        exact .inl ⟨fun both => defined both.1, state.2, whileFlag_body_error ran round⟩

/-! ### The number denoted -/

/-- Every group has five bits. -/
theorem splitGroups_small (bits : List Bool) : ∀ group ∈ (splitGroups bits).1, group < 32 := by
  fun_induction splitGroups bits with
  | case1 => exact nofun
  | case2 rest => exact nofun
  | case3 rest short => exact nofun
  | case4 rest enough others ih =>
      rw [List.forall_mem_cons]
      refine ⟨?_, ih⟩
      have below := ofBitsMSB_lt (rest.take 5)
      rwa [List.length_take_of_le (not_lt.mp enough)] at below

/-- Groups that fit are added up, each at its own power of 32. -/
theorem foldl_addGroup {groups : List Nat} (small : ∀ group ∈ groups, group < 32) :
    ∀ {state : UInt64 × Nat}, ShiftsDefined state.2 groups.length → state.1.toNat < 2 ^ state.2 →
      state.1.toNat + 2 ^ state.2 * Nat.ofDigits 32 groups < 2 ^ 64 →
      (groups.foldl addGroup state).1.toNat =
        state.1.toNat + 2 ^ state.2 * Nat.ofDigits 32 groups := by
  induction groups with
  | nil =>
      intro state _ _ _
      rw [List.foldl_nil, Nat.ofDigits_nil, Nat.mul_zero, Nat.add_zero]
  | cons group groups ih =>
      intro state defined low fits
      rw [List.forall_mem_cons] at small
      rw [List.length_cons, shiftsDefined_succ] at defined
      have digits : 2 ^ state.2 * Nat.ofDigits 32 (group :: groups) =
          2 ^ state.2 * group + 2 ^ (state.2 + 5) * Nat.ofDigits 32 groups := by
        rw [Nat.ofDigits_cons, Nat.mul_add, pow_add, Nat.mul_assoc]
        rfl
      have code : (UInt32.ofNat group).toNat = group := by
        rw [UInt32.toNat_ofNat']
        omega
      have added : (addGroup state group).1.toNat = state.1.toNat + 2 ^ state.2 * group := by
        refine (or_shifted low defined.1 ?_).trans (by rw [code])
        rw [code]
        omega
      have power : 2 ^ (addGroup state group).2 = 2 ^ state.2 * 32 := pow_add 2 state.2 5
      have lowNext : (addGroup state group).1.toNat < 2 ^ (addGroup state group).2 := by
        have top : 2 ^ state.2 * group ≤ 2 ^ state.2 * 31 := Nat.mul_le_mul_left _ (by omega)
        rw [added, power]
        omega
      have step : (addGroup state group).2 = state.2 + 5 := rfl
      rw [List.foldl_cons, ih small.2 defined.2 lowNext (by rw [added, step]; omega), added, step]
      omega

/-- The number that the input begins with. -/
def denoted (stream : IBStream) : Nat := Nat.ofDigits 32 (splitGroups stream.remaining).1

/-- `get_unsigned` reports the end of an incomplete number, returns the number denoted where it
has 64 bits, and refuses any other one. -/
def DecodesExactly (stream : IBStream) : Prop :=
  ((splitGroups stream.remaining).2 = none →
    getCheckedUnsigned stream = .error (.thrown .unexpectedEnd)) ∧
  ∀ rest, (splitGroups stream.remaining).2 = some rest →
    if denoted stream < 2 ^ 64 then
      ∃ value after, getCheckedUnsigned stream = .ok (value, after) ∧
        value.toNat = denoted stream ∧ after.remaining = rest
    else ∃ error, getCheckedUnsigned stream = .error (.thrown error)

/-- The number is the result of the loop. -/
theorem getCheckedUnsigned_eq (stream : IBStream) :
    getCheckedUnsigned stream =
      (getCheckedLoop (0, 0) stream).map fun result => (result.1.1, result.2) := by
  change (getCheckedLoop (0, 0) stream >>= fun step => _) = _
  cases getCheckedLoop (0, 0) stream <;> rfl

section

variable {stream : IBStream}

/-- With more than thirteen groups a shift is undefined. -/
theorem shift_of_many (many : 13 < (splitGroups stream.remaining).1.length) :
    ∃ off, getCheckedUnsigned stream = .error (.undefinedShift off) := by
  have notDefined : ¬ShiftsDefined 0 (splitGroups stream.remaining).1.length := by
    rw [shiftsDefined_zero]
    omega
  rcases getCheckedLoop_ends _ stream (0, 0) rfl with ⟨_, off, failed⟩ | ⟨defined, _⟩ | ⟨defined, _⟩
  · exact ⟨off, by rw [getCheckedUnsigned_eq, failed]; rfl⟩
  · exact absurd defined notDefined
  · exact absurd defined notDefined

/-- Up to thirteen groups are read: the number is what the groups leave in 64 bits. -/
theorem run_of_few (few : (splitGroups stream.remaining).1.length ≤ 13) :
    ((splitGroups stream.remaining).2 = none ∧
      getCheckedUnsigned stream = .error (.thrown .unexpectedEnd)) ∨
    ∃ after, (splitGroups stream.remaining).2 = some after.remaining ∧
      getCheckedUnsigned stream =
        .ok (((splitGroups stream.remaining).1.foldl addGroup (0, 0)).1, after) := by
  have defined := shiftsDefined_zero.mpr few
  rcases getCheckedLoop_ends _ stream (0, 0) rfl with
    ⟨notDefined, _⟩ | ⟨_, ends, failed⟩ | ⟨_, after, ran, left⟩
  · exact absurd defined notDefined
  · exact .inl ⟨ends, by rw [getCheckedUnsigned_eq, failed]; rfl⟩
  · exact .inr ⟨after, left, by rw [getCheckedUnsigned_eq, ran]; rfl⟩

/-- A number of 64 bits in thirteen groups is decoded exactly. -/
theorem decodesExactly_of_fits (few : (splitGroups stream.remaining).1.length ≤ 13)
    (fits : (splitGroups stream.remaining).2.isSome → denoted stream < 2 ^ 64) :
    DecodesExactly stream := by
  rcases run_of_few few with ⟨ends, failed⟩ | ⟨after, stopped, ran⟩
  · refine ⟨fun _ => failed, fun rest stopped => ?_⟩
    rw [ends] at stopped
    cases stopped
  · have small := fits (by rw [stopped]; rfl)
    have value := @foldl_addGroup _ (splitGroups_small stream.remaining) (0, 0)
      (shiftsDefined_zero.mpr few) (by decide) (by simpa [denoted] using small)
    refine ⟨fun ends => ?_, fun rest stopped' => ?_⟩
    · rw [stopped] at ends
      cases ends
    · rw [if_pos small]
      refine ⟨_, after, ran, ?_, Option.some.inj (stopped.symm.trans stopped')⟩
      simpa [denoted] using value

/-- A number of more than 64 bits is returned, although not as it is. -/
theorem not_decodesExactly_of_large (few : (splitGroups stream.remaining).1.length ≤ 13)
    (complete : (splitGroups stream.remaining).2.isSome) (large : 2 ^ 64 ≤ denoted stream) :
    ¬DecodesExactly stream := by
  intro exactly
  rcases run_of_few few with ⟨ends, _⟩ | ⟨after, stopped, ran⟩
  · rw [ends] at complete
    cases complete
  · have refused := exactly.2 _ stopped
    rw [if_neg (not_lt.mpr large)] at refused
    obtain ⟨error, failed⟩ := refused
    rw [ran] at failed
    cases failed

/-- More than thirteen groups are not decoded exactly. -/
theorem not_decodesExactly_of_many (many : 13 < (splitGroups stream.remaining).1.length) :
    ¬DecodesExactly stream := by
  intro exactly
  obtain ⟨off, failed⟩ := shift_of_many many
  cases ends : (splitGroups stream.remaining).2 with
  | none =>
      have reported := exactly.1 ends
      rw [failed] at reported
      cases reported
  | some rest =>
      have decoded := exactly.2 rest ends
      rw [failed] at decoded
      split at decoded
      · obtain ⟨_, _, ran, _⟩ := decoded
        cases ran
      · obtain ⟨_, refused⟩ := decoded
        cases refused

end

/-- Reading is exact up to thirteen groups, and a number of 64 bits where it is complete; the
checks of the shifts only refuse. -/
theorem decodesExactly_iff (stream : IBStream) :
    (getCheckedUnsigned stream = mapError .thrown getUnsigned stream ∨
      ∃ fault, getCheckedUnsigned stream = .error fault ∧ ∀ error, fault ≠ .thrown error) ∧
    (DecodesExactly stream ↔ (splitGroups stream.remaining).1.length ≤ 13 ∧
      ((splitGroups stream.remaining).2.isSome → denoted stream < 2 ^ 64)) := by
  refine ⟨getCheckedUnsigned_guards stream, ?_⟩
  constructor
  · intro exactly
    refine ⟨?_, fun complete => ?_⟩
    · by_contra many
      exact not_decodesExactly_of_many (not_le.mp many) exactly
    · by_contra large
      by_cases few : (splitGroups stream.remaining).1.length ≤ 13
      · exact not_decodesExactly_of_large few complete (not_lt.mp large) exactly
      · exact not_decodesExactly_of_many (not_le.mp few) exactly
  · rintro ⟨few, fits⟩
    exact decodesExactly_of_fits few fits

/-- Thirteen groups of ones denote 2^65 - 1. -/
theorem thirteen_groups_not_exact :
    ¬DecodesExactly (IBStream.new (List.replicate 9 0xFF ++ [0xFC])) := by
  have shown : (IBStream.new (List.replicate 9 0xFF ++ [0xFC])).remaining =
      groupBits (List.replicate 13 31) ++ false :: [false] := by decide
  have split := @splitGroups_groupBits (List.replicate 13 31) (by decide) [false]
  rw [← shown] at split
  apply not_decodesExactly_of_large
  · rw [split]
    decide
  · rw [split]
    rfl
  · rw [denoted, split]
    decide

end SmartMetWfs
