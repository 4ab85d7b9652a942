import SmartMetWfs.Core.ByteString
import SmartMetWfs.Foundation.FlagLoops
import SmartMetWfs.Foundation.MemoryBlocks

/-!
# Turning the rows of a grid around, step by step

`rearrangeGrid` copies the rows one by one to an iterator that goes backwards through the new
grid. Here the two grids are blocks of memory, the width and the number of steps have the types
of the source, and an operation without a meaning is a fault. The rows come out in reverse order
whatever the grid, as long as twice the width is an `int` where there is more than one row, and
the number of rows is an `unsigned`.
-/

namespace SmartMetWfs.Handlers

/-- `StoredGridQueryHandler::Result::Grid` -/
abbrev Grid := List ByteString

namespace RowReversal

open Foundation

/-- What stops `rearrangeGrid`. -/
inductive Fault where
  /-- The array width is not multiple of data size, data rearrange is impossible. -/
  | notMultiple (arrayWidth : Int32)
  | access (fault : AccessFault)
  /-- A number that its type does not have, an iterator outside of its array, a range that
  ends before it begins, or a division by zero. -/
  | undefined
  deriving DecidableEq

/-- An expression of type `int`. -/
def intValue (value : Int) : Except Fault Int :=
  if -2 ^ 31 ≤ value ∧ value < 2 ^ 31 then .ok value else .error .undefined

/-- `std::advance` of an iterator into an array of this size. -/
def advance (size position : Nat) (distance : Int) : Except Fault Nat :=
  if 0 ≤ position + distance ∧ position + distance ≤ size then .ok (position + distance).toNat
  else .error .undefined

/-- `std::copy`, with the iterator behind the last value that is written. -/
def copy (source : Block ByteString) (first last : Nat) (target : Block ByteString)
    (position : Nat) : Except Fault (Block ByteString × Nat) :=
  if last < first then .error .undefined
  else do
    let values ← (source.readRange first (last - first)).mapError .access
    let target ← (target.write position values).mapError .access
    return (target, position + values.length)

/-- The variables of the loop, and whether it was left. -/
structure LoopState where
  stepsSoFar : UInt32
  outputIt : Nat
  orderedGrid : Block ByteString
  left : Bool

/-- The loop goes on until it is left. -/
def going (state : LoopState) : Bool := !state.left

/-- The body of the loop. The factors are below 2^31 and 2^32, so that their products are sizes. -/
def copyRow (inputGrid : Block ByteString) (arrayWidth : Int32) (state : LoopState) :
    Except Fault LoopState := do
  let width := arrayWidth.toInt.toNat
  let size := state.orderedGrid.length
  let (orderedGrid, outputIt) ← copy inputGrid (width * state.stepsSoFar.toNat)
    (width * (state.stepsSoFar + 1).toNat) state.orderedGrid state.outputIt
  let firstRowEnd ← advance size 0 arrayWidth.toInt
  if outputIt = firstRowEnd then
    return ⟨state.stepsSoFar, outputIt, orderedGrid, true⟩
  else do
    let distance ← intValue (-2 * arrayWidth.toInt)
    let outputIt ← advance size outputIt distance
    return ⟨state.stepsSoFar + 1, outputIt, orderedGrid, false⟩

/-- What comes before the loop. A negative width is a distance that leaves the array. -/
def start (inputGrid : Grid) (arrayWidth : Int32) : Except Fault LoopState := do
  let size := inputGrid.length
  let distance ← intValue (-arrayWidth.toInt)
  let outputIt ← advance size size distance
  if arrayWidth.toInt = 0 then
    throw .undefined
  else if size % arrayWidth.toInt.toNat ≠ 0 then
    throw (.notMultiple arrayWidth)
  else return ⟨0, outputIt, Block.holding (List.replicate size []), false⟩

/-- `StoredGridQueryHandler::rearrangeGrid`, nothing where the loop has more rounds than these. -/
def rearrangeGrid (rounds : Nat) (inputGrid : Grid) (arrayWidth : Int32) :
    Option (Except Fault Grid) :=
  match start inputGrid arrayWidth with
  | .error fault => some (.error fault)
  | .ok state =>
      (loopWhile (copyRow (Block.holding inputGrid) arrayWidth) going rounds state).map
        fun outcome => do
          let last ← outcome
          (last.orderedGrid.readRange 0 inputGrid.length).mapError .access

/-- The loop ends, and with it the function in this way. -/
def Ends (inputGrid : Grid) (arrayWidth : Int32) (outcome : Except Fault Grid) : Prop :=
  ∃ enough, ∀ rounds, enough ≤ rounds → rearrangeGrid rounds inputGrid arrayWidth = some outcome

/-- There is one outcome at most. -/
theorem Ends.unique {inputGrid : Grid} {arrayWidth : Int32} {outcome outcome' : Except Fault Grid}
    (ends : Ends inputGrid arrayWidth outcome) (ends' : Ends inputGrid arrayWidth outcome') :
    outcome = outcome' := by
  obtain ⟨enough, ended⟩ := ends
  obtain ⟨enough', ended'⟩ := ends'
  have first := ended (max enough enough') (Nat.le_max_left _ _)
  have second := ended' (max enough enough') (Nat.le_max_right _ _)
  exact Option.some.inj (first.symm.trans second)

/-! ### Rows -/

section

variable {arrayWidth : Nat}

/-- A grid whose size is a multiple of the width consists of rows of that width. -/
theorem exists_rows {values : Grid} (divides : arrayWidth ∣ values.length) :
    ∃ rows : List Grid, rows.flatten = values ∧ ∀ row ∈ rows, row.length = arrayWidth := by
  obtain ⟨count, size⟩ := divides
  induction count generalizing values with
  | zero => exact ⟨[], (List.length_eq_zero_iff.mp size).symm, nofun⟩
  | succ count ih =>
      rw [Nat.mul_succ] at size
      obtain ⟨rows, whole, widths⟩ := @ih (values.drop arrayWidth) (by rw [List.length_drop]; omega)
      refine ⟨values.take arrayWidth :: rows, ?_, ?_⟩
      · rw [List.flatten_cons, whole, List.take_append_drop]
      · rw [List.forall_mem_cons]
        exact ⟨List.length_take_of_le (by omega), widths⟩

theorem length_flatten_rows {rows : List Grid} (widths : ∀ row ∈ rows, row.length = arrayWidth) :
    rows.flatten.length = arrayWidth * rows.length := by
  induction rows with
  | nil => rfl
  | cons row rows ih =>
      rw [List.forall_mem_cons] at widths
      rw [List.flatten_cons, List.length_append, widths.1, ih widths.2, List.length_cons,
        Nat.mul_succ, Nat.add_comm]

/-- The row behind those that are done. -/
theorem take_drop_row {done rest : List Grid} {row : Grid}
    (widths : ∀ other ∈ done ++ row :: rest, other.length = arrayWidth) :
    ((done ++ row :: rest).flatten.drop (arrayWidth * done.length)).take arrayWidth = row := by
  have doneSize : done.flatten.length = arrayWidth * done.length :=
    length_flatten_rows fun other member => widths other (List.mem_append_left _ member)
  have rowSize : row.length = arrayWidth := widths row (by simp)
  rw [List.flatten_append, ← doneSize, List.drop_left, List.flatten_cons, ← rowSize, List.take_left]

/-- The row in front of those that are done, in reverse order. -/
theorem write_row {done : List Grid} {row blank : Grid} {before : Nat}
    (size : blank.length = arrayWidth * (before + 1)) :
    (blank ++ done.reverse.flatten).take (arrayWidth * before) ++ row ++
        (blank ++ done.reverse.flatten).drop (arrayWidth * before + arrayWidth) =
      blank.take (arrayWidth * before) ++ (done ++ [row]).reverse.flatten := by
  rw [Nat.mul_succ] at size
  rw [List.take_append_of_le_length (by omega), ← size, List.drop_left, List.append_assoc,
    List.reverse_append]
  rfl

/-- There are the row to be read and the place to write it to. -/
theorem row_inside {done rest : List Grid} {row blank : Grid}
    (widths : ∀ other ∈ done ++ row :: rest, other.length = arrayWidth)
    (size : blank.length = arrayWidth * (rest.length + 1)) :
    arrayWidth * (done.length + 1) ≤ (done ++ row :: rest).flatten.length ∧
      arrayWidth * rest.length + arrayWidth ≤ (blank ++ done.reverse.flatten).length := by
  have doneReversed : done.reverse.flatten.length = arrayWidth * done.length := by
    rw [length_flatten_rows fun other member =>
      widths other (List.mem_append_left _ (List.mem_reverse.mp member)), List.length_reverse]
  rw [length_flatten_rows widths, List.length_append, List.length_append, List.length_cons,
    doneReversed, size, Nat.mul_succ, Nat.mul_add, Nat.mul_succ]
  omega

end

/-! ### One round -/

section

variable {arrayWidth : Int32} {done rest : List Grid} {row blank : Grid}

/-- The state after so many rows, with others still to come. -/
def stateAfter (width : Nat) (done rest : List Grid) (blank : Grid) : LoopState :=
  ⟨UInt32.ofNat done.length, width * rest.length,
    Block.holding (blank ++ done.reverse.flatten), false⟩

/-- The next row is copied in front of those that are done. -/
theorem copy_row (widths : ∀ other ∈ done ++ row :: rest, other.length = arrayWidth.toInt.toNat)
    (size : blank.length = arrayWidth.toInt.toNat * (rest.length + 1)) :
    copy (Block.holding (done ++ row :: rest).flatten) (arrayWidth.toInt.toNat * done.length)
        (arrayWidth.toInt.toNat * (done.length + 1)) (Block.holding (blank ++ done.reverse.flatten))
        (arrayWidth.toInt.toNat * rest.length) =
      .ok (Block.holding (blank.take (arrayWidth.toInt.toNat * rest.length) ++
          (done ++ [row]).reverse.flatten), arrayWidth.toInt.toNat * (rest.length + 1)) := by
  generalize arrayWidth.toInt.toNat = width at widths size
  have rowSize : row.length = width := widths row (by simp)
  obtain ⟨readable, writable⟩ := row_inside widths size
  have length : width * (done.length + 1) - width * done.length = width := by
    rw [Nat.mul_succ, Nat.add_sub_cancel_left]
  have read : (Block.holding (done ++ row :: rest).flatten).readRange (width * done.length) width =
      .ok row := by
    rw [Block.readRange_holding (by rwa [Nat.mul_succ] at readable), take_drop_row widths]
  have written : (Block.holding (blank ++ done.reverse.flatten)).write (width * rest.length) row =
      .ok (Block.holding (blank.take (width * rest.length) ++
        (done ++ [row]).reverse.flatten)) := by
    rw [Block.write_holding (by rwa [rowSize]), rowSize, write_row size]
  rw [copy, if_neg (by rw [Nat.mul_succ]; omega), length, read]
  simp only [Except.mapError, bind, Except.bind, written, pure, Except.pure]
  rw [rowSize, Nat.mul_succ]

/-- The width as a length. -/
theorem width_cast (positive : 1 ≤ arrayWidth.toInt) :
    (arrayWidth.toInt.toNat : Int) = arrayWidth.toInt :=
  Int.toNat_of_nonneg (by omega)

/-- The number of the next row, as long as there is one. -/
theorem stepsSoFar_succ (few : done.length + 1 < 2 ^ 32) :
    (UInt32.ofNat done.length).toNat = done.length ∧
      (UInt32.ofNat done.length + 1).toNat = done.length + 1 := by
  have here : (UInt32.ofNat done.length).toNat = done.length := by
    rw [UInt32.toNat_ofNat']
    omega
  refine ⟨here, ?_⟩
  rw [UInt32.toNat_add, here]
  exact Nat.mod_eq_of_lt few

/-- A round with a number that has a successor: it leaves the loop after the last row. -/
theorem copyRow_eq (positive : 1 ≤ arrayWidth.toInt) (few : done.length + 1 < 2 ^ 32)
    (widths : ∀ other ∈ done ++ row :: rest, other.length = arrayWidth.toInt.toNat)
    (size : blank.length = arrayWidth.toInt.toNat * (rest.length + 1)) :
    copyRow (Block.holding (done ++ row :: rest).flatten) arrayWidth
        (stateAfter arrayWidth.toInt.toNat done rest blank) =
      if rest.length = 0 then
        .ok ⟨UInt32.ofNat done.length, arrayWidth.toInt.toNat,
          Block.holding (blank.take (arrayWidth.toInt.toNat * rest.length) ++
            (done ++ [row]).reverse.flatten), true⟩
      else do
        let distance ← intValue (-2 * arrayWidth.toInt)
        let outputIt ← advance (blank ++ done.reverse.flatten).length
          (arrayWidth.toInt.toNat * (rest.length + 1)) distance
        return ⟨UInt32.ofNat done.length + 1, outputIt,
          Block.holding (blank.take (arrayWidth.toInt.toNat * rest.length) ++
            (done ++ [row]).reverse.flatten), false⟩ := by
  have width := width_cast positive
  have copied := copy_row widths size
  have inside := (row_inside widths size).2
  obtain ⟨here, next⟩ := stepsSoFar_succ few
  have firstRow : advance (blank ++ done.reverse.flatten).length 0 arrayWidth.toInt =
      .ok arrayWidth.toInt.toNat := by
    rw [advance, if_pos (by omega)]
    simp
  have last : arrayWidth.toInt.toNat * (rest.length + 1) = arrayWidth.toInt.toNat ↔
      rest.length = 0 := by
    rw [Nat.mul_succ]
    constructor
    · intro same
      have none : arrayWidth.toInt.toNat * rest.length = 0 := by omega
      rcases Nat.mul_eq_zero.mp none with zero | zero
      · omega
      · exact zero
    · intro none
      rw [none, Nat.mul_zero, Nat.zero_add]
  simp only [copyRow, stateAfter, here, next, copied, Block.length_holding, bind, Except.bind,
    firstRow, last]
  split
  · next none =>
      rw [none, Nat.zero_add, Nat.mul_one]
      rfl
  · rfl

/-- The last row is copied to its place. -/
theorem copyRow_last (positive : 1 ≤ arrayWidth.toInt) (few : done.length + 1 < 2 ^ 32)
    (widths : ∀ other ∈ done ++ [row], other.length = arrayWidth.toInt.toNat)
    (size : blank.length = arrayWidth.toInt.toNat) :
    ∃ last, copyRow (Block.holding (done ++ [row]).flatten) arrayWidth
        (stateAfter arrayWidth.toInt.toNat done [] blank) = .ok last ∧ last.left = true ∧
      last.orderedGrid = Block.holding (done ++ [row]).reverse.flatten := by
  have round :=
    copyRow_eq positive few widths (by rw [size, List.length_nil, Nat.zero_add, Nat.mul_one])
  simp only [List.length_nil, if_pos] at round
  refine ⟨_, round, rfl, ?_⟩
  rw [Nat.mul_zero, List.take_zero, List.nil_append]

/-- The iterator goes back by two rows. -/
theorem copyRow_next {next : Grid} (positive : 1 ≤ arrayWidth.toInt)
    (narrow : arrayWidth.toInt ≤ 2 ^ 30) (few : done.length + 1 < 2 ^ 32)
    (widths : ∀ other ∈ done ++ row :: next :: rest, other.length = arrayWidth.toInt.toNat)
    (size : blank.length = arrayWidth.toInt.toNat * (rest.length + 2)) :
    copyRow (Block.holding (done ++ row :: next :: rest).flatten) arrayWidth
        (stateAfter arrayWidth.toInt.toNat done (next :: rest) blank) =
      .ok (stateAfter arrayWidth.toInt.toNat (done ++ [row]) rest
        (blank.take (arrayWidth.toInt.toNat * (rest.length + 1)))) := by
  have round := copyRow_eq positive few widths size
  have width := width_cast positive
  have inside := (row_inside widths size).2
  have distance : intValue (-2 * arrayWidth.toInt) = .ok (-2 * arrayWidth.toInt) := by
    rw [intValue, if_pos (by omega)]
  have back : advance (blank ++ done.reverse.flatten).length
      (arrayWidth.toInt.toNat * ((next :: rest).length + 1)) (-2 * arrayWidth.toInt) =
        .ok (arrayWidth.toInt.toNat * rest.length) := by
    rw [List.length_cons, Nat.mul_succ] at inside
    have target : ((arrayWidth.toInt.toNat * ((next :: rest).length + 1) : Nat) : Int) +
        -2 * arrayWidth.toInt = (arrayWidth.toInt.toNat * rest.length : Nat) := by
      rw [List.length_cons, Nat.mul_succ, Nat.mul_succ]
      omega
    rw [advance, target, if_pos (by omega), Int.toNat_natCast]
  have number : UInt32.ofNat done.length + 1 = UInt32.ofNat (done ++ [row]).length := by
    rw [List.length_append, UInt32.ofNat_add]
    rfl
  have more : ¬(next :: rest).length = 0 := Nat.succ_ne_zero _
  rw [if_neg more] at round
  rw [round, distance]
  simp only [bind, Except.bind, back, pure, Except.pure]
  rw [number]
  rfl

/-- With a width of more than 2^30 there is no number for the way back. -/
theorem copyRow_wide (positive : 1 ≤ arrayWidth.toInt) (wide : 2 ^ 30 < arrayWidth.toInt)
    (few : done.length + 1 < 2 ^ 32) (more : rest ≠ [])
    (widths : ∀ other ∈ done ++ row :: rest, other.length = arrayWidth.toInt.toNat)
    (size : blank.length = arrayWidth.toInt.toNat * (rest.length + 1)) :
    copyRow (Block.holding (done ++ row :: rest).flatten) arrayWidth
      (stateAfter arrayWidth.toInt.toNat done rest blank) = .error .undefined := by
  have round := copyRow_eq positive few widths size
  have distance : intValue (-2 * arrayWidth.toInt) = .error .undefined := by
    rw [intValue, if_neg (by omega)]
  rw [if_neg fun none => more (List.length_eq_zero_iff.mp none), distance] at round
  exact round

/-- After 2^32 - 1 rows the next range ends at the first row. -/
theorem copyRow_many (positive : 1 ≤ arrayWidth.toInt) (many : done.length + 1 = 2 ^ 32)
    (inputGrid : Block ByteString) :
    copyRow inputGrid arrayWidth (stateAfter arrayWidth.toInt.toNat done rest blank) =
      .error .undefined := by
  have here : (UInt32.ofNat done.length).toNat = done.length := by
    rw [UInt32.toNat_ofNat']
    omega
  have wrapped : (UInt32.ofNat done.length + 1).toNat = 0 := by
    rw [UInt32.toNat_add, here]
    exact Nat.mod_eq_zero_of_dvd ⟨1, many⟩
  have backwards : arrayWidth.toInt.toNat * 0 < arrayWidth.toInt.toNat * done.length :=
    Nat.mul_lt_mul_of_pos_left (by omega) (by omega)
  simp only [copyRow, stateAfter, here, wrapped, copy, if_pos backwards, bind, Except.bind]

/-! ### All rounds -/

/-- A row less is blank after a round. -/
theorem length_take_blank {width count : Nat} (size : blank.length = width * (count + 1 + 1)) :
    (blank.take (width * (count + 1))).length = width * (count + 1) := by
  apply List.length_take_of_le
  rw [size]
  exact Nat.mul_le_mul_left _ (Nat.le_succ _)

/-- The loop leaves the rows in reverse order. -/
theorem loop_reverses (positive : 1 ≤ arrayWidth.toInt)
    (narrow : rest = [] ∨ arrayWidth.toInt ≤ 2 ^ 30) (few : done.length + rest.length + 1 < 2 ^ 32)
    (widths : ∀ other ∈ done ++ row :: rest, other.length = arrayWidth.toInt.toNat)
    (size : blank.length = arrayWidth.toInt.toNat * (rest.length + 1)) :
    ∃ last, last.orderedGrid = Block.holding (done ++ row :: rest).reverse.flatten ∧
      ∀ rounds, rest.length < rounds →
        loopWhile (copyRow (Block.holding (done ++ row :: rest).flatten) arrayWidth) going rounds
          (stateAfter arrayWidth.toInt.toNat done rest blank) = some (.ok last) := by
  induction rest generalizing done row blank with
  | nil =>
      rw [List.length_nil, Nat.zero_add, Nat.mul_one] at size
      obtain ⟨last, ran, left, written⟩ := copyRow_last positive few widths size
      refine ⟨last, written, fun rounds enough => ?_⟩
      obtain ⟨more, rfl⟩ := Nat.exists_eq_succ_of_ne_zero (Nat.pos_iff_ne_zero.mp enough)
      exact loopWhile_last ran (by rw [going, left]; rfl)
  | cons next rest ih =>
      have narrow : arrayWidth.toInt ≤ 2 ^ 30 := narrow.resolve_left (List.cons_ne_nil _ _)
      rw [List.length_cons] at few
      have ran := copyRow_next positive narrow (by omega) widths size
      have reassociate : done ++ row :: next :: rest = done ++ [row] ++ next :: rest := by simp
      have shorter := length_take_blank size
      rw [reassociate] at widths ran ⊢
      obtain ⟨last, written, ended⟩ := ih (.inr narrow)
        (by rw [List.length_append, List.length_singleton]; omega) widths shorter
      refine ⟨last, written, fun rounds enough => ?_⟩
      rw [List.length_cons] at enough
      obtain ⟨more, rfl⟩ := Nat.exists_eq_succ_of_ne_zero (Nat.ne_zero_of_lt enough)
      exact (loopWhile_again ran rfl).trans (ended more (Nat.lt_of_succ_lt_succ enough))

/-- The loop fails when it comes to the last of 2^32 rows. -/
theorem loop_many (positive : 1 ≤ arrayWidth.toInt) (narrow : arrayWidth.toInt ≤ 2 ^ 30)
    (before : done.length < 2 ^ 32) (many : 2 ^ 32 ≤ done.length + rest.length + 1)
    (widths : ∀ other ∈ done ++ row :: rest, other.length = arrayWidth.toInt.toNat)
    (size : blank.length = arrayWidth.toInt.toNat * (rest.length + 1)) :
    ∀ rounds, rest.length < rounds →
      loopWhile (copyRow (Block.holding (done ++ row :: rest).flatten) arrayWidth) going rounds
        (stateAfter arrayWidth.toInt.toNat done rest blank) = some (.error .undefined) := by
  induction rest generalizing done row blank with
  | nil =>
      intro rounds enough
      obtain ⟨more, rfl⟩ := Nat.exists_eq_succ_of_ne_zero (Nat.pos_iff_ne_zero.mp enough)
      rw [List.length_nil] at many
      exact loopWhile_error (copyRow_many positive (by omega) _)
  | cons next rest ih =>
      intro rounds enough
      rw [List.length_cons] at enough many
      obtain ⟨more, rfl⟩ := Nat.exists_eq_succ_of_ne_zero (Nat.ne_zero_of_lt enough)
      by_cases last : done.length + 1 = 2 ^ 32
      · exact loopWhile_error (copyRow_many positive last _)
      · have ran := copyRow_next positive narrow (by omega) widths size
        have reassociate : done ++ row :: next :: rest = done ++ [row] ++ next :: rest := by simp
        have shorter := length_take_blank size
        have oneMore : (done ++ [row]).length = done.length + 1 := List.length_append
        rw [reassociate] at widths ran ⊢
        exact (loopWhile_again ran rfl).trans (ih (by omega) (by omega) widths shorter more
          (Nat.lt_of_succ_lt_succ enough))

/-- The loop starts at the last row of a new grid. -/
theorem start_eq (positive : 1 ≤ arrayWidth.toInt)
    (widths : ∀ other ∈ row :: rest, other.length = arrayWidth.toInt.toNat) :
    start (row :: rest).flatten arrayWidth =
      .ok (stateAfter arrayWidth.toInt.toNat [] rest
        (List.replicate (row :: rest).flatten.length [])) := by
  have width := width_cast positive
  have bound := arrayWidth.toInt_lt
  have size := length_flatten_rows widths
  have distance : intValue (-arrayWidth.toInt) = .ok (-arrayWidth.toInt) := by
    rw [intValue, if_pos (by omega)]
  have lastRow :
      advance (row :: rest).flatten.length (row :: rest).flatten.length (-arrayWidth.toInt) =
      .ok (arrayWidth.toInt.toNat * rest.length) := by
    rw [List.length_cons, Nat.mul_succ] at size
    have target : ((row :: rest).flatten.length : Int) + -arrayWidth.toInt =
        (arrayWidth.toInt.toNat * rest.length : Nat) := by
      omega
    rw [advance, target, if_pos (by omega), Int.toNat_natCast]
  have whole : (row :: rest).flatten.length % arrayWidth.toInt.toNat = 0 := by
    rw [size, Nat.mul_mod_right]
  have nonzero : ¬arrayWidth.toInt = 0 := by omega
  simp only [start, distance, bind, Except.bind, lastRow, if_neg nonzero, whole]
  rw [stateAfter, List.reverse_nil, List.flatten_nil, List.append_nil]
  rfl

/-- What the loop makes of the start decides how the function ends. -/
theorem ends_of_loop (positive : 1 ≤ arrayWidth.toInt)
    (widths : ∀ other ∈ row :: rest, other.length = arrayWidth.toInt.toNat)
    {outcome : Except Fault LoopState} {enough : Nat}
    (ended : ∀ rounds, enough < rounds →
      loopWhile (copyRow (Block.holding (row :: rest).flatten) arrayWidth) going rounds
        (stateAfter arrayWidth.toInt.toNat [] rest
          (List.replicate (row :: rest).flatten.length [])) = some outcome) :
    Ends (row :: rest).flatten arrayWidth (do
      let last ← outcome
      (last.orderedGrid.readRange 0 (row :: rest).flatten.length).mapError .access) := by
  refine ⟨enough + 1, fun rounds more => ?_⟩
  rw [rearrangeGrid, start_eq positive widths]
  simp only [ended rounds more]
  rfl

/-- The rows of a grid come out in reverse order. -/
theorem ends_reversed (positive : 1 ≤ arrayWidth.toInt)
    (narrow : rest = [] ∨ arrayWidth.toInt ≤ 2 ^ 30) (few : (row :: rest).length < 2 ^ 32)
    (widths : ∀ other ∈ row :: rest, other.length = arrayWidth.toInt.toNat) :
    Ends (row :: rest).flatten arrayWidth (.ok (row :: rest).reverse.flatten) := by
  have size : (List.replicate (row :: rest).flatten.length ([] : ByteString)).length =
      arrayWidth.toInt.toNat * (rest.length + 1) := by
    rw [List.length_replicate, length_flatten_rows widths, List.length_cons]
  obtain ⟨last, written, ended⟩ := loop_reverses positive narrow
    (by rw [List.length_nil, Nat.zero_add]; exact few) widths size
  have ends := ends_of_loop positive widths ended
  have widths' : ∀ other ∈ (row :: rest).reverse, other.length = arrayWidth.toInt.toNat :=
    fun other member => widths other (List.mem_reverse.mp member)
  have same : (row :: rest).flatten.length = (row :: rest).reverse.flatten.length := by
    rw [length_flatten_rows widths, length_flatten_rows widths', List.length_reverse]
  simp only [bind, Except.bind, List.nil_append, written, same] at ends
  rw [Block.readRange_holding (Nat.zero_add _).le, List.drop_zero, List.take_length] at ends
  exact ends

/-- Where the width is too large for the way back, or there are too many rows. -/
theorem ends_undefined (positive : 1 ≤ arrayWidth.toInt)
    (widths : ∀ other ∈ row :: rest, other.length = arrayWidth.toInt.toNat)
    (bad : (rest ≠ [] ∧ 2 ^ 30 < arrayWidth.toInt) ∨
      (arrayWidth.toInt ≤ 2 ^ 30 ∧ 2 ^ 32 ≤ (row :: rest).length)) :
    Ends (row :: rest).flatten arrayWidth (.error .undefined) := by
  have size : (List.replicate (row :: rest).flatten.length ([] : ByteString)).length =
      arrayWidth.toInt.toNat * (rest.length + 1) := by
    rw [List.length_replicate, length_flatten_rows widths, List.length_cons]
  rcases bad with ⟨more, wide⟩ | ⟨narrow, many⟩
  · have failed := @copyRow_wide arrayWidth [] rest row _ positive wide (by decide) more widths size
    refine @ends_of_loop arrayWidth rest row positive widths (.error .undefined) 0 ?_
    intro rounds enough
    obtain ⟨others, rfl⟩ := Nat.exists_eq_succ_of_ne_zero (Nat.pos_iff_ne_zero.mp enough)
    exact loopWhile_error failed
  · have ended := @loop_many arrayWidth [] rest row _ positive narrow (by decide)
      (by rw [List.length_nil, Nat.zero_add]; exact many) widths size
    exact @ends_of_loop arrayWidth rest row positive widths (.error .undefined) rest.length ended

/-- A negative width is a way out of the new grid. -/
theorem ends_negative (inputGrid : Grid) (negative : arrayWidth.toInt < 0) :
    Ends inputGrid arrayWidth (.error .undefined) := by
  refine ⟨0, fun rounds _ => ?_⟩
  have failed : start inputGrid arrayWidth = .error .undefined := by
    unfold start intValue
    dsimp only
    split
    · have outside : advance inputGrid.length inputGrid.length (-arrayWidth.toInt) =
          .error .undefined := by
        rw [advance, if_neg (by omega)]
      simp only [bind, Except.bind, outside]
    · rfl
  rw [rearrangeGrid, failed]

/-- A grid that does not consist of whole rows is refused. -/
theorem ends_notMultiple {inputGrid : Grid} (positive : 1 ≤ arrayWidth.toInt)
    (within : arrayWidth.toInt.toNat ≤ inputGrid.length)
    (rest : ¬arrayWidth.toInt.toNat ∣ inputGrid.length) :
    Ends inputGrid arrayWidth (.error (.notMultiple arrayWidth)) := by
  refine ⟨0, fun rounds _ => ?_⟩
  have bound := arrayWidth.toInt_lt
  have distance : intValue (-arrayWidth.toInt) = .ok (-arrayWidth.toInt) := by
    rw [intValue, if_pos (by omega)]
  have lastRow : advance inputGrid.length inputGrid.length (-arrayWidth.toInt) =
      .ok ((inputGrid.length : Int) + -arrayWidth.toInt).toNat := by
    rw [advance, if_pos (by omega)]
  have failed : start inputGrid arrayWidth = .error (.notMultiple arrayWidth) := by
    unfold start
    simp only [distance, bind, Except.bind, lastRow]
    rw [if_neg (by omega), if_pos fun whole => rest (Nat.dvd_of_mod_eq_zero whole)]
    rfl
  rw [rearrangeGrid, failed]

end

/-! ### The rows of a grid -/

/-- The rows of a grid, each of this width. -/
def gridRows (grid : Grid) (width : Nat) : List Grid :=
  (List.range (grid.length / width)).map fun row => (grid.drop (width * row)).take width

/-- Rows that are written one after the other are cut again. -/
theorem gridRows_flatten {width : Nat} (positive : 0 < width) {rows : List Grid}
    (widths : ∀ row ∈ rows, row.length = width) : gridRows rows.flatten width = rows := by
  have count : rows.flatten.length / width = rows.length := by
    rw [length_flatten_rows widths, Nat.mul_div_cancel_left _ positive]
  apply List.ext_getElem
  · rw [gridRows, List.length_map, List.length_range, count]
  · intro index _ inside
    have around : rows = rows.take index ++ rows[index] :: rows.drop (index + 1) := by
      rw [List.getElem_cons_drop, List.take_append_drop]
    have before : (rows.take index).length = index := List.length_take_of_le inside.le
    have found := @take_drop_row width (rows.take index) (rows.drop (index + 1)) rows[index]
      (by rwa [← around])
    rw [← around, before] at found
    rw [← found]
    simp [gridRows]

/-- `rearrangeGrid` ends with a grid of the same rows in reverse order, which has the same
values, and turns that grid around again. -/
def ReversesRows (inputGrid : Grid) (arrayWidth : Int32) : Prop :=
  ∃ grid, Ends inputGrid arrayWidth (.ok grid) ∧
    gridRows grid arrayWidth.toInt.toNat = (gridRows inputGrid arrayWidth.toInt.toNat).reverse ∧
    grid.Perm inputGrid ∧ Ends grid arrayWidth (.ok inputGrid)

section

variable {arrayWidth : Int32} {rest : List Grid} {row : Grid}

/-- Rows that are narrow and few are turned around. -/
theorem reversesRows_of_fits (positive : 1 ≤ arrayWidth.toInt)
    (narrow : rest = [] ∨ arrayWidth.toInt ≤ 2 ^ 30) (few : (row :: rest).length < 2 ^ 32)
    (widths : ∀ other ∈ row :: rest, other.length = arrayWidth.toInt.toNat) :
    ReversesRows (row :: rest).flatten arrayWidth := by
  have wide : 0 < arrayWidth.toInt.toNat := by omega
  have widths' : ∀ other ∈ (row :: rest).reverse, other.length = arrayWidth.toInt.toNat :=
    fun other member => widths other (List.mem_reverse.mp member)
  refine ⟨_, ends_reversed positive narrow few widths, ?_, ?_, ?_⟩
  · rw [gridRows_flatten wide widths, gridRows_flatten wide widths']
  · exact (List.reverse_perm _).flatten
  · cases reversed : (row :: rest).reverse with
    | nil => exact absurd (congrArg List.length reversed) (by simp)
    | cons row' rest' =>
        have back : (row' :: rest').reverse = row :: rest := by
          rw [← reversed, List.reverse_reverse]
        have size : (row' :: rest').length = (row :: rest).length := by
          rw [← back, List.length_reverse]
        have narrow' : rest' = [] ∨ arrayWidth.toInt ≤ 2 ^ 30 := by
          rcases narrow with single | narrow
          · left
            rw [single, List.length_cons, List.length_cons] at size
            exact List.length_eq_zero_iff.mp (Nat.succ_injective size)
          · exact .inr narrow
        rw [reversed] at widths'
        rw [← back]
        exact ends_reversed positive narrow' (size ▸ few) widths'

/-- Rows that are too wide or too many are not. -/
theorem not_reversesRows (positive : 1 ≤ arrayWidth.toInt)
    (widths : ∀ other ∈ row :: rest, other.length = arrayWidth.toInt.toNat)
    (bad : (rest ≠ [] ∧ 2 ^ 30 < arrayWidth.toInt) ∨
      (arrayWidth.toInt ≤ 2 ^ 30 ∧ 2 ^ 32 ≤ (row :: rest).length)) :
    ¬ReversesRows (row :: rest).flatten arrayWidth := by
  rintro ⟨grid, ends, _⟩
  have failed := ends.unique (ends_undefined positive widths bad)
  cases failed

end

/-- Two rows are too much for a width of more than 2^30. -/
theorem not_reversesRows_two {arrayWidth : Int32} (wide : 2 ^ 30 < arrayWidth.toInt) :
    ¬ReversesRows (List.replicate (2 * arrayWidth.toInt.toNat) []) arrayWidth := by
  have twoRows : List.replicate (2 * arrayWidth.toInt.toNat) ([] : ByteString) =
      [List.replicate arrayWidth.toInt.toNat [],
        List.replicate arrayWidth.toInt.toNat []].flatten := by
    rw [List.flatten_cons, List.flatten_cons, List.flatten_nil, List.append_nil,
      List.replicate_append_replicate, Nat.two_mul]
  have widths : ∀ row ∈ [List.replicate arrayWidth.toInt.toNat ([] : ByteString),
      List.replicate arrayWidth.toInt.toNat []], row.length = arrayWidth.toInt.toNat := by
    intro row member
    rw [List.mem_cons, List.mem_singleton, or_self] at member
    rw [member, List.length_replicate]
  rw [twoRows]
  exact not_reversesRows (by omega) widths (.inl ⟨List.cons_ne_nil _ _, wide⟩)

/-- Exactly where the iterator can go back by two rows, and the rows can be counted. -/
theorem reversesRows_iff {inputGrid : Grid} {arrayWidth : Int32} (positive : 1 ≤ arrayWidth.toInt)
    (nonempty : 0 < inputGrid.length) (whole : arrayWidth.toInt.toNat ∣ inputGrid.length) :
    ReversesRows inputGrid arrayWidth ↔
      (inputGrid.length = arrayWidth.toInt.toNat ∨ arrayWidth.toInt ≤ 2 ^ 30) ∧
        inputGrid.length / arrayWidth.toInt.toNat < 2 ^ 32 := by
  have wide : 0 < arrayWidth.toInt.toNat := by omega
  obtain ⟨rows, rfl, widths⟩ := exists_rows whole
  cases rows with
  | nil => exact absurd nonempty (Nat.lt_irrefl 0)
  | cons row rest =>
      have size := length_flatten_rows widths
      have single : (row :: rest).flatten.length = arrayWidth.toInt.toNat ↔ rest = [] := by
        rw [size, List.length_cons, Nat.mul_succ]
        constructor
        · intro same
          have none : arrayWidth.toInt.toNat * rest.length = 0 := by omega
          exact List.length_eq_zero_iff.mp ((Nat.mul_eq_zero.mp none).resolve_left wide.ne')
        · rintro rfl
          rw [List.length_nil, Nat.mul_zero, Nat.zero_add]
      have count : (row :: rest).flatten.length / arrayWidth.toInt.toNat =
          (row :: rest).length := by
        rw [size, Nat.mul_div_cancel_left _ wide]
      rw [single, count]
      constructor
      · intro reverses
        by_cases narrow : arrayWidth.toInt ≤ 2 ^ 30
        · refine ⟨.inr narrow, ?_⟩
          by_contra many
          exact not_reversesRows positive widths (.inr ⟨narrow, not_lt.mp many⟩) reverses
        · by_cases one : rest = []
          · subst one
            exact ⟨.inl rfl, by rw [List.length_singleton]; decide⟩
          · exact absurd reverses (not_reversesRows positive widths (.inl ⟨one, not_le.mp narrow⟩))
      · rintro ⟨narrow, few⟩
        exact reversesRows_of_fits positive narrow few widths

/-- Two rows of one value are turned around. -/
theorem reversesRows_two_rows : ReversesRows [[0x61], [0x62]] 1 :=
  (reversesRows_iff (by decide) (by decide) (by decide)).mpr (by decide)

/-- Two rows of 2^30 + 1 values each. -/
theorem two_wide_rows_not_reversed :
    ¬ReversesRows (List.replicate (2 * (1073741825 : Int32).toInt.toNat) []) 1073741825 :=
  not_reversesRows_two (by decide)

end RowReversal

end SmartMetWfs.Handlers
