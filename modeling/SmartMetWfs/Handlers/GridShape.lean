import Mathlib.Data.Rat.Lemmas
import Mathlib.Tactic.Linarith
import Mathlib.Tactic.Positivity
import SmartMetWfs.Handlers.SparseGrid
import SmartMetWfs.Foundation.RowMajor

/-!
# The shape of a sparse grid

On the points of a regular grid the length of the rows is guessed right if there is only one
row, if there are three columns or more, or if there are two and the rows are not too close
together. Else all points are taken for one row. The shape is kept where both guesses are
right and the rows are not too long or too many to be turned around, and where the second one
does not fit at all, which is an error.
-/

namespace SmartMetWfs.Handlers

open Foundation

/-! ### Regular grids -/

/-- A point of a lattice. -/
def latticePoint (origin spacing : LonLat) (column row : Nat) : LonLat :=
  ⟨origin.lon + column * spacing.lon, origin.lat + row * spacing.lat⟩

/-- A regular grid and a value at each of its points. -/
structure RegularGrid where
  width : Nat
  height : Nat
  origin : LonLat
  spacing : LonLat
  value : Nat → Nat → ByteString
  columns : 2 ≤ width
  rows : 1 ≤ height
  lonSpacing : spacing.lon ≠ 0
  latSpacing : spacing.lat ≠ 0

namespace RegularGrid

/-- The points of the grid, row by row. -/
def points (grid : RegularGrid) : List LonLat :=
  rowMajor grid.width grid.height (latticePoint grid.origin grid.spacing)

/-- The values at the points, row by row. -/
def values (grid : RegularGrid) : Grid := rowMajor grid.width grid.height grid.value

/-- The values at multiples of the step, the last row first. -/
def sparse (grid : RegularGrid) (step : Nat) : Grid :=
  (multiplesBelow step grid.height).reverse.flatMap fun row =>
    (multiplesBelow step grid.width).map fun column => grid.value column row

/-- The extraction of the grid ends in this way. -/
def Extracts (grid : RegularGrid) (step : Nat)
    (outcome : Except SparseGridFailure SparseGridResult) : Prop :=
  ∃ enough, ∀ rounds, enough ≤ rounds →
    extractGrid rounds grid.points grid.points grid.values step = some outcome

/-- An error is reported, or the result has the shape and the values of the sparse grid. -/
def KeepsShape (grid : RegularGrid) (step : Nat) : Prop :=
  ∃ outcome, grid.Extracts step outcome ∧
    match outcome with
    | .error failure => failure.isReported = true
    | .ok result => result.xdim.toNat = grid.width ⌈/⌉ step ∧
        result.ydim.toNat = grid.height ⌈/⌉ step ∧ result.grid = grid.sparse step

end RegularGrid

/-- The extents of so many columns and rows are guessed right. -/
def RowsSeen (spacing : LonLat) (width height : Nat) : Prop :=
  height = 1 ∨ 3 ≤ width ∨ (width = 2 ∧ spacing.lon ^ 2 < 10 * spacing.lat ^ 2)

instance (spacing : LonLat) (width height : Nat) : Decidable (RowsSeen spacing width height) :=
  inferInstanceAs (Decidable (_ ∨ _))

/-- How many points are taken for the first row. -/
def guessedWidth (spacing : LonLat) (width height : Nat) : Nat :=
  if RowsSeen spacing width height then width else width * height

/-- The rows of a grid can be turned around with a guess, or it does not fit, which is an error.
The guess is cut to 32 bits and then taken for a number with a sign. -/
def TurnsAround (guess width height : Nat) : Prop :=
  guess % 2 ^ 32 ≠ 0 ∧ guess % 2 ^ 32 < 2 ^ 31 ∧
    (¬guess % 2 ^ 32 ∣ width * height ∨
      (guess % 2 ^ 32 = width ∧ (height = 1 ∨ width ≤ 2 ^ 30) ∧ height < 2 ^ 32))

/-- Every so many points of two columns that are taken for one row: there is only one, or there
is an odd number of them, alternately of either column, that are taken for rows of two. -/
def NothingFits (spacing : LonLat) (height step : Nat) : Prop :=
  2 * height ≤ step ∨
    (step % 2 = 1 ∧ (2 * height) ⌈/⌉ step % 2 = 1 ∧ 3 ≤ (2 * height) ⌈/⌉ step ∧
      11 * (spacing.lon ^ 2 + (step / 2 : Nat) ^ 2 * spacing.lat ^ 2) <
        10 * (spacing.lon ^ 2 + (step / 2 + 1 : Nat) ^ 2 * spacing.lat ^ 2))

/-- Where the rows of the grid are seen, only one point is left, which is an error, or the
sparse grid is turned around; where they are not, nothing fits. -/
def RegularGrid.FitsSparse (grid : RegularGrid) (step : Nat) : Prop :=
  if RowsSeen grid.spacing grid.width grid.height then
    grid.width ⌈/⌉ step * (grid.height ⌈/⌉ step) = 1 ∨
      TurnsAround (guessedWidth grid.spacing (grid.width ⌈/⌉ step) (grid.height ⌈/⌉ step))
        (grid.width ⌈/⌉ step) (grid.height ⌈/⌉ step)
  else NothingFits grid.spacing grid.height step

/-- The first guess is an `unsigned int`, and the sparse grid fits. -/
def RegularGrid.ShapeKept (grid : RegularGrid) (step : Nat) : Prop :=
  guessedWidth grid.spacing grid.width grid.height < 2 ^ 32 ∧ grid.FitsSparse step

instance (guess width height : Nat) : Decidable (TurnsAround guess width height) :=
  inferInstanceAs (Decidable (_ ∧ _ ∧ _))

instance (spacing : LonLat) (height step : Nat) : Decidable (NothingFits spacing height step) :=
  inferInstanceAs (Decidable (_ ∨ _))

instance (grid : RegularGrid) (step : Nat) : Decidable (grid.FitsSparse step) :=
  inferInstanceAs (Decidable (if RowsSeen grid.spacing grid.width grid.height then _ else _))

instance (grid : RegularGrid) (step : Nat) : Decidable (grid.ShapeKept step) :=
  inferInstanceAs (Decidable (_ ∧ _))

/-! ### Guessing the extents -/

section

variable {point : Nat → LonLat}

/-- The first row goes on while the points are near. -/
theorem pointsInRow_eq {compDistance : ℚ} {start count length : Nat} (within : length ≤ count)
    (near : ∀ index < length,
      comparisonDistance (point (start + index)) (point (start + index + 1)) ≤ compDistance)
    (ends : length = count ∨
      compDistance < comparisonDistance (point (start + length)) (point (start + length + 1))) :
    pointsInRow compDistance (point start)
      ((List.range' (start + 1) count).map point) = length := by
  induction length generalizing start count with
  | zero =>
      cases count with
      | zero => rfl
      | succ count =>
          have far := ends.resolve_left (Nat.succ_ne_zero count).symm
          exact if_pos far
  | succ length ih =>
      obtain ⟨count, rfl⟩ : ∃ more, count = more + 1 := ⟨count - 1, by omega⟩
      have first : comparisonDistance (point start) (point (start + 1)) ≤ compDistance :=
        near 0 (Nat.succ_pos _)
      rw [List.range'_succ, List.map_cons, pointsInRow, if_neg (not_lt.mpr first)]
      congr 1
      have shift : ∀ index, start + 1 + index = start + (index + 1) := fun index => by omega
      refine ih (Nat.le_of_succ_le_succ within) (fun index below => ?_) ?_
      · rw [shift]
        exact near (index + 1) (Nat.succ_lt_succ below)
      · rw [shift]
        exact ends.imp_left Nat.succ.inj

/-- Extents are guessed from two points at least. -/
theorem two_of_extents {points : List LonLat} {extents : UInt32 × UInt32}
    (guessed : getDataIndexExtents points points = .ok extents) :
    ∃ first second rest, points = first :: second :: rest := by
  match points with
  | [] => cases guessed
  | [_] => cases guessed
  | first :: second :: rest => exact ⟨first, second, rest, rfl⟩

/-- The first row ends behind so many points. -/
theorem getDataIndexExtents_eq {count length : Nat} (within : length ≤ count)
    (near : ∀ index < length, comparisonDistance (point (index + 1)) (point (index + 2)) ≤
      comparisonDistance (point 0) (point 1) * (11 / 10))
    (ends : length = count ∨ comparisonDistance (point 0) (point 1) * (11 / 10) <
      comparisonDistance (point (length + 1)) (point (length + 2))) :
    getDataIndexExtents ((List.range (count + 2)).map point) ((List.range (count + 2)).map point) =
      extentsOf (length + 2) (count + 2) := by
  have firstTwo : (List.range (count + 2)).map point =
      point 0 :: point 1 :: (List.range' (1 + 1) count).map point := by
    rw [List.range_eq_range', List.range'_succ, List.range'_succ]
    rfl
  have together : ∀ points : List LonLat,
      List.zipWith LonLat.mk (points.map LonLat.lon) (points.map LonLat.lat) = points := by
    intro points
    rw [List.zipWith_map, List.zipWith_self]
    exact List.map_id _
  have passed :=
    pointsInRow_eq within (fun index below => by rw [Nat.add_comm 1]; exact near index below)
    (ends.imp_right fun far => by rw [Nat.add_comm 1]; exact far)
  rw [firstTwo]
  simp only [getDataIndexExtents, List.map_cons, together]
  rw [passed, List.length_cons, List.length_cons, List.length_map, List.length_range',
    Nat.add_comm 2]

/-! ### The extents of a lattice -/

variable {origin spacing : LonLat} {width height : Nat}

/-- The distance of neighbours in a row. -/
theorem comparisonDistance_column (column row : Nat) :
    comparisonDistance (latticePoint origin spacing column row)
      (latticePoint origin spacing (column + 1) row) =
      spacing.lon ^ 2 := by
  simp only [comparisonDistance, latticePoint, Nat.cast_add, Nat.cast_one]
  ring

/-- The distance from the end of a row to the start of the next one. -/
theorem comparisonDistance_row (column row : Nat) :
    comparisonDistance (latticePoint origin spacing column row)
      (latticePoint origin spacing 0 (row + 1)) =
      (column * spacing.lon) ^ 2 + spacing.lat ^ 2 := by
  simp only [comparisonDistance, latticePoint, Nat.cast_add, Nat.cast_one, Nat.cast_zero]
  ring

/-- The points by their index. -/
theorem rowMajor_lattice (positive : 0 < width) :
    rowMajor width height (latticePoint origin spacing) =
      (List.range (width * height)).map fun index =>
      latticePoint origin spacing (index % width) (index / width) :=
  rowMajor_eq_map positive height _

/-- To the next column it is one spacing. -/
theorem comparisonDistance_inRow {index : Nat} (within : index + 1 < width) :
    comparisonDistance (latticePoint origin spacing (index % width) (index / width))
      (latticePoint origin spacing ((index + 1) % width) ((index + 1) / width)) =
        spacing.lon ^ 2 := by
  have before : index < width := Nat.lt_of_succ_lt within
  rw [Nat.mod_eq_of_lt before, Nat.div_eq_of_lt before, Nat.mod_eq_of_lt within,
    Nat.div_eq_of_lt within]
  exact comparisonDistance_column _ _

/-- From the last column it is back to the first one of the next row. -/
theorem comparisonDistance_nextRow (last : Nat) :
    comparisonDistance (latticePoint origin spacing (last % (last + 1)) (last / (last + 1)))
      (latticePoint origin spacing ((last + 1) % (last + 1)) ((last + 1) / (last + 1))) =
      (last * spacing.lon) ^ 2 + spacing.lat ^ 2 := by
  rw [Nat.mod_eq_of_lt (Nat.lt_succ_self _), Nat.div_eq_of_lt (Nat.lt_succ_self _), Nat.mod_self,
    Nat.div_self (Nat.succ_pos _)]
  exact comparisonDistance_row _ _

/-- Where rows are seen the way back is too long. -/
theorem jumps_of_seen {last : Nat} (seen : RowsSeen spacing (last + 1) height) (columns : 1 ≤ last)
    (lonSpacing : spacing.lon ≠ 0) :
    height = 1 ∨ spacing.lon ^ 2 * (11 / 10) < (last * spacing.lon) ^ 2 + spacing.lat ^ 2 := by
  have square : 0 < spacing.lon ^ 2 := by positivity
  rcases seen with one | wide | ⟨two, apart⟩
  · exact .inl one
  · have twoColumns : (2 : ℚ) ≤ last := by
      exact_mod_cast (by omega : 2 ≤ last)
    right
    nlinarith [mul_le_mul twoColumns twoColumns (by norm_num) (by linarith), sq_nonneg spacing.lat]
  · obtain rfl : last = 1 := by omega
    right
    norm_num
    linarith

/-- Where rows can be seen the extents are those of the grid. -/
theorem getDataIndexExtents_seen (origin : LonLat) (positive : 1 ≤ width)
    (points : 2 ≤ width * height)
    (seen : RowsSeen spacing width height) (lonSpacing : spacing.lon ≠ 0) :
    getDataIndexExtents (rowMajor width height (latticePoint origin spacing))
      (rowMajor width height (latticePoint origin spacing)) = extentsOf width (width * height) := by
  have columns : 2 ≤ width := by
    rcases seen with rfl | wide | ⟨two, _⟩
    · omega
    · omega
    · omega
  have high : 0 < height := Nat.pos_of_mul_pos_left (by omega : 0 < width * height)
  obtain ⟨length, rfl⟩ : ∃ length, width = length + 2 := ⟨width - 2, by omega⟩
  obtain ⟨count, size⟩ : ∃ count, (length + 2) * height = count + 2 :=
    ⟨(length + 2) * height - 2, by omega⟩
  have square : 0 < spacing.lon ^ 2 := by positivity
  have within : length ≤ count := by
    have atLeast := Nat.le_mul_of_pos_right (length + 2) high
    omega
  rw [rowMajor_lattice (Nat.succ_pos _), size]
  refine getDataIndexExtents_eq within (fun index below => ?_) ?_
  · rw [comparisonDistance_inRow (by omega), comparisonDistance_inRow (by omega)]
    linarith
  · rw [comparisonDistance_inRow (by omega), comparisonDistance_nextRow]
    refine (jumps_of_seen seen (Nat.succ_pos _) lonSpacing).imp_left fun one => ?_
    rw [one] at size
    omega

/-- If all points are near the one before, they are one row. -/
theorem getDataIndexExtents_joined {point : Nat → LonLat} {count : Nat} (atLeast : 2 ≤ count)
    (near : ∀ index, comparisonDistance (point (index + 1)) (point (index + 2)) ≤
      comparisonDistance (point 0) (point 1) * (11 / 10)) :
    getDataIndexExtents ((List.range count).map point) ((List.range count).map point) =
      extentsOf count count := by
  obtain ⟨more, rfl⟩ : ∃ more, count = more + 2 := ⟨count - 2, by omega⟩
  exact getDataIndexExtents_eq (Nat.le_refl more) (fun index _ => near index) (.inl rfl)

/-- Where rows cannot be seen all points are taken for one row. -/
theorem getDataIndexExtents_unseen (origin : LonLat) (positive : 1 ≤ width) (high : 1 ≤ height)
    (unseen : ¬RowsSeen spacing width height) :
    getDataIndexExtents (rowMajor width height (latticePoint origin spacing))
      (rowMajor width height (latticePoint origin spacing)) =
      extentsOf (width * height) (width * height) := by
  rw [RowsSeen, not_or, not_or, not_and, not_lt] at unseen
  obtain ⟨rowsDiffer, few, close⟩ := unseen
  have points : 2 ≤ width * height :=
    Nat.le_trans (by omega : 2 ≤ height) (Nat.le_mul_of_pos_left _ positive)
  rw [rowMajor_lattice positive]
  refine getDataIndexExtents_joined points fun index => ?_
  obtain rfl | rfl : width = 1 ∨ width = 2 := by omega
  · simp only [Nat.mod_one, Nat.div_one]
    rw [comparisonDistance_row 0 (index + 1), comparisonDistance_row 0 0]
    have square := sq_nonneg spacing.lat
    norm_num
    linarith
  · have closeRows := close rfl
    have square := sq_nonneg spacing.lon
    rw [show comparisonDistance _ _ = spacing.lon ^ 2 from comparisonDistance_column 0 0]
    rcases Nat.mod_two_eq_zero_or_one index with even | odd
    · rw [show (index + 1) % 2 = 1 by omega, show (index + 2) % 2 = 0 by omega,
        show (index + 2) / 2 = (index + 1) / 2 + 1 by omega, comparisonDistance_row]
      norm_num
      linarith
    · rw [show (index + 1) % 2 = 0 by omega, show (index + 2) % 2 = 0 + 1 by omega,
        show (index + 2) / 2 = (index + 1) / 2 by omega, comparisonDistance_column]
      linarith

/-! ### Two columns in one row -/

/-- The points of two columns, row by row. -/
def zigzag (origin spacing : LonLat) (index : Nat) : LonLat :=
  latticePoint origin spacing (index % 2) (index / 2)

/-- With an even step the points go down one column. -/
theorem comparisonDistance_zigzag_even {step : Nat} (even : step % 2 = 0) (index : Nat) :
    comparisonDistance (zigzag origin spacing (index * step))
      (zigzag origin spacing ((index + 1) * step)) =
      ((step / 2 : Nat) * spacing.lat) ^ 2 := by
  obtain ⟨half, rfl⟩ : ∃ half, step = 2 * half := ⟨step / 2, by omega⟩
  have place : ∀ count : Nat, zigzag origin spacing (count * (2 * half)) =
      latticePoint origin spacing 0 (count * half) := by
    intro count
    rw [zigzag, Nat.mul_left_comm, Nat.mul_mod_right, Nat.mul_div_cancel_left _ Nat.two_pos]
  rw [place, place, Nat.mul_div_cancel_left _ Nat.two_pos]
  simp only [comparisonDistance, latticePoint]
  push_cast
  ring

/-- With an odd step the points change between the columns. -/
theorem zigzag_odd {step : Nat} (odd : step % 2 = 1) (count : Nat) :
    zigzag origin spacing (2 * count * step) = latticePoint origin spacing 0 (count * step) ∧
      zigzag origin spacing ((2 * count + 1) * step) =
        latticePoint origin spacing 1 (count * step + step / 2) := by
  rw [zigzag, zigzag, Nat.add_mul, Nat.mul_assoc, Nat.one_mul]
  constructor
  · rw [Nat.mul_mod_right, Nat.mul_div_cancel_left _ Nat.two_pos]
  · rw [show (2 * (count * step) + step) % 2 = 1 by omega,
      show (2 * (count * step) + step) / 2 = count * step + step / 2 by omega]

/-- To the other column it is half a step. -/
theorem comparisonDistance_zigzag_there {step : Nat} (odd : step % 2 = 1) (count : Nat) :
    comparisonDistance (zigzag origin spacing (2 * count * step))
      (zigzag origin spacing ((2 * count + 1) * step)) =
      spacing.lon ^ 2 + (step / 2 : Nat) ^ 2 * spacing.lat ^ 2 := by
  rw [(zigzag_odd odd count).1, (zigzag_odd odd count).2]
  simp only [comparisonDistance, latticePoint]
  push_cast
  ring

/-- And back it is the rest of the step. -/
theorem comparisonDistance_zigzag_back {step : Nat} (odd : step % 2 = 1) (count : Nat) :
    comparisonDistance (zigzag origin spacing ((2 * count + 1) * step))
      (zigzag origin spacing ((2 * count + 2) * step)) =
      spacing.lon ^ 2 + (step / 2 + 1 : Nat) ^ 2 * spacing.lat ^ 2 := by
  have rows : (count + 1) * step = count * step + step / 2 + (step / 2 + 1) := by
    rw [Nat.succ_mul]
    omega
  rw [(zigzag_odd odd count).2, show 2 * count + 2 = 2 * (count + 1) by omega,
    (zigzag_odd odd (count + 1)).1, rows]
  simp only [comparisonDistance, latticePoint]
  push_cast
  ring

/-- The points are taken for one row, or for rows of two. -/
theorem getDataIndexExtents_zigzag {step count : Nat} (atLeast : 2 ≤ count) :
    getDataIndexExtents ((List.range count).map fun index => zigzag origin spacing (index * step))
      ((List.range count).map fun index => zigzag origin spacing (index * step)) =
      if step % 2 = 1 ∧ 3 ≤ count ∧
          11 * (spacing.lon ^ 2 + (step / 2 : Nat) ^ 2 * spacing.lat ^ 2) <
            10 * (spacing.lon ^ 2 + (step / 2 + 1 : Nat) ^ 2 * spacing.lat ^ 2) then
        extentsOf 2 count
      else extentsOf count count := by
  rcases Nat.mod_two_eq_zero_or_one step with even | odd
  · rw [if_neg (by omega)]
    refine getDataIndexExtents_joined atLeast fun index => ?_
    rw [comparisonDistance_zigzag_even even,
      show comparisonDistance _ (zigzag origin spacing (1 * step)) = _ from
      comparisonDistance_zigzag_even even 0]
    linarith [sq_nonneg ((step / 2 : Nat) * spacing.lat)]
  · have there : comparisonDistance (zigzag origin spacing (0 * step))
        (zigzag origin spacing (1 * step)) = _ :=
      comparisonDistance_zigzag_there odd 0
    have back : comparisonDistance (zigzag origin spacing (1 * step))
        (zigzag origin spacing (2 * step)) = _ :=
      comparisonDistance_zigzag_back odd 0
    obtain ⟨more, rfl⟩ : ∃ more, count = more + 2 := ⟨count - 2, by omega⟩
    by_cases far : 11 * (spacing.lon ^ 2 + (step / 2 : Nat) ^ 2 * spacing.lat ^ 2) <
        10 * (spacing.lon ^ 2 + (step / 2 + 1 : Nat) ^ 2 * spacing.lat ^ 2)
    · have extents :=
        @getDataIndexExtents_eq (fun index => zigzag origin spacing (index * step)) more 0
        (Nat.zero_le more) nofun (.inr (by rw [there, back]; linarith))
      rw [extents]
      split
      · rfl
      · next few =>
          obtain rfl : more = 0 := by
            by_contra several
            exact few ⟨odd, by omega, far⟩
          rfl
    · rw [if_neg fun all => far all.2.2]
      refine getDataIndexExtents_joined atLeast fun index => ?_
      rw [there]
      rcases Nat.even_or_odd' index with ⟨half, rfl | rfl⟩
      · rw [comparisonDistance_zigzag_back odd]
        linarith
      · rw [show 2 * half + 1 + 1 = 2 * (half + 1) by omega,
          show 2 * half + 1 + 2 = 2 * (half + 1) + 1 by omega, comparisonDistance_zigzag_there odd]
        have square : 0 ≤ spacing.lon ^ 2 + (step / 2 : Nat) ^ 2 * spacing.lat ^ 2 := by positivity
        linarith

/-! ### What is kept -/

/-- The points that are kept, by their index. -/
theorem makeSparseGrid_map {α : Type} (entry : Nat → α) (size step : Nat)
    (extents : UInt32 × UInt32) :
    makeSparseGrid ((List.range size).map entry) step extents =
      ((List.range size).filter fun index =>
        decide (index / extents.1.toNat % step = 0) &&
          decide (index % extents.1.toNat % step = 0)).map entry := by
  have indexed : ((List.range size).map entry).zipIdx =
      (List.range size).map fun index => (entry index, index) := by
    refine List.ext_getElem (by simp) fun index _ _ => ?_
    simp
  rw [makeSparseGrid, indexed, List.filter_map, List.map_map]
  rfl

/-- With the right extents a grid is kept. -/
theorem makeSparseGrid_seen {α : Type} (positive : 0 < width) {step : Nat} (stepPositive : 0 < step)
    {extents : UInt32 × UInt32} (first : extents.1.toNat = width) (entry : Nat → Nat → α) :
    makeSparseGrid (rowMajor width height entry) step extents =
      rowMajor (width ⌈/⌉ step) (height ⌈/⌉ step) fun column row => entry (column * step)
        (row * step) := by
  rw [rowMajor_eq_map positive, makeSparseGrid_map, first, thin_rowMajor positive stepPositive]

/-- With all points in one row every so many of them are kept. -/
theorem makeSparseGrid_joined {α : Type} {step : Nat} (stepPositive : 0 < step) (entry : Nat → α)
    {size : Nat} {extents : UInt32 × UInt32} (first : extents.1.toNat = size) :
    makeSparseGrid ((List.range size).map entry) step extents =
      (List.range (size ⌈/⌉ step)).map fun index => entry (index * step) := by
  have kept : ((List.range size).filter fun index =>
      decide (index / size % step = 0) && decide (index % size % step = 0)) =
        multiplesBelow step size := by
    refine List.filter_congr fun index member => ?_
    have below := List.mem_range.mp member
    rw [Nat.div_eq_of_lt below, Nat.mod_eq_of_lt below, Nat.zero_mod]
    rfl
  rw [makeSparseGrid_map, first, kept, multiplesBelow_eq stepPositive, List.map_map]
  rfl

end

/-- A length that is an `unsigned int` stays what it is. -/
theorem extentsOf_of_lt {rowLength : Nat} (positive : 0 < rowLength) (few : rowLength < 2 ^ 32)
    (size : Nat) :
    ∃ extents, extentsOf rowLength size = .ok extents ∧ extents.1.toNat = rowLength := by
  have same : (UInt32.ofNat rowLength).toNat = rowLength := by
    rw [UInt32.toNat_ofNat', Nat.mod_eq_of_lt few]
  refine ⟨_, if_neg fun zero => ?_, same⟩
  rw [zero] at same
  exact positive.ne same

/-- A row whose length has no 32 bits left is none. -/
theorem extentsOf_eq_error {rowLength : Nat} (zero : rowLength % 2 ^ 32 = 0) (size : Nat) :
    extentsOf rowLength size = .error .noRowLength := by
  have same : UInt32.ofNat rowLength = 0 := by
    rw [← UInt32.toNat_inj, UInt32.toNat_ofNat', zero]
    rfl
  exact if_pos same

/-- The extents for a row whose length has some. -/
theorem extentsOf_eq_ok {rowLength : Nat} (nonzero : rowLength % 2 ^ 32 ≠ 0) (size : Nat) :
    extentsOf rowLength size =
      .ok (UInt32.ofNat rowLength, UInt32.ofNat (size / (rowLength % 2 ^ 32))) := by
  have same : (UInt32.ofNat rowLength).toNat = rowLength % 2 ^ 32 := UInt32.toNat_ofNat'
  rw [extentsOf, if_neg, same]
  intro zero
  rw [zero] at same
  exact nonzero same.symm

/-- A length as an `int`. -/
theorem toInt_toInt32 (length : UInt32) :
    length.toInt32.toInt =
      if length.toNat < 2 ^ 31 then (length.toNat : Int) else length.toNat - 2 ^ 32 := by
  have signed : length.toInt32.toInt = (length.toNat : Int).bmod (2 ^ 32) := by
    rw [← Int32.toInt_toBitVec, BitVec.toInt_eq_toNat_bmod]
    rfl
  have bound : length.toNat < 2 ^ 32 := UInt32.toNat_lt length
  rw [signed, Int.bmod_def]
  split <;> omega

/-! ### The result -/

namespace RegularGrid

variable {grid : RegularGrid} {step : Nat} {extents : UInt32 × UInt32}

/-- There is one outcome at most. -/
theorem Extracts.unique {outcome outcome' : Except SparseGridFailure SparseGridResult}
    (extracts : grid.Extracts step outcome) (extracts' : grid.Extracts step outcome') :
    outcome = outcome' := by
  obtain ⟨enough, ended⟩ := extracts
  obtain ⟨enough', ended'⟩ := extracts'
  have first := ended (max enough enough') (Nat.le_max_left _ _)
  have second := ended' (max enough enough') (Nat.le_max_right _ _)
  exact Option.some.inj (first.symm.trans second)

/-- One outcome decides. -/
theorem Extracts.keepsShape_iff_error {failure : SparseGridFailure}
    (extracts : grid.Extracts step (.error failure)) :
    grid.KeepsShape step ↔ failure.isReported = true := by
  refine ⟨fun ⟨outcome, extracts', right⟩ => ?_, fun reported => ⟨_, extracts, reported⟩⟩
  obtain rfl := extracts.unique extracts'
  exact right

/-- A result keeps the shape when its extents and its values are right. -/
theorem Extracts.keepsShape_iff_ok {result : SparseGridResult}
    (extracts : grid.Extracts step (.ok result)) :
    grid.KeepsShape step ↔ result.xdim.toNat = grid.width ⌈/⌉ step ∧
      result.ydim.toNat = grid.height ⌈/⌉ step ∧ result.grid = grid.sparse step := by
  refine ⟨fun ⟨outcome, extracts', right⟩ => ?_, fun right => ⟨_, extracts, right⟩⟩
  obtain rfl := extracts.unique extracts'
  exact right

/-- Without extents nothing is extracted. -/
theorem extracts_of_error {failure : SparseGridFailure}
    (failed : extractExtents grid.points grid.points step = .error failure) :
    grid.Extracts step (.error failure) :=
  ⟨0, fun rounds _ => by rw [extractGrid, failed]⟩

/-- The second guess decides what the rows are turned around with. -/
theorem extractExtents_eq (positive : 0 < step)
    (guessed : getDataIndexExtents grid.points grid.points = .ok extents)
    {resulting : UInt32 × UInt32}
    (again : getDataIndexExtents (makeSparseGrid grid.points step extents)
      (makeSparseGrid grid.points step extents) = .ok resulting) :
    ∃ result, extractExtents grid.points grid.points step = .ok (extents, result) ∧
      result.xdim = resulting.1 ∧ result.ydim = resulting.2 := by
  obtain ⟨first, second, rest, points⟩ := two_of_extents again
  rw [points] at again
  unfold extractExtents
  rw [if_neg (by omega)]
  simp only [guessed, again, points, List.map_cons, gridCorners, bind, Except.bind]
  exact ⟨_, rfl, rfl, rfl⟩

/-- Without extents of the sparse grid there are none. -/
theorem extractExtents_error (positive : 0 < step)
    (guessed : getDataIndexExtents grid.points grid.points = .ok extents)
    {failure : SparseGridFailure}
    (failed : getDataIndexExtents (makeSparseGrid grid.points step extents)
      (makeSparseGrid grid.points step extents) = .error failure) :
    grid.Extracts step (.error failure) := by
  apply extracts_of_error
  unfold extractExtents
  rw [if_neg (by omega)]
  simp only [guessed, failed, bind, Except.bind]

/-- One point alone has no extents, which is an error. -/
theorem keepsShape_of_single (positive : 0 < step)
    (guessed : getDataIndexExtents grid.points grid.points = .ok extents)
    (single : (makeSparseGrid grid.points step extents).length = 1) : grid.KeepsShape step := by
  obtain ⟨point, only⟩ := List.length_eq_one_iff.mp single
  have failed : getDataIndexExtents (makeSparseGrid grid.points step extents)
      (makeSparseGrid grid.points step extents) = .error .emptyResultGrid := by
    rw [only]
    rfl
  exact (extractExtents_error positive guessed failed).keepsShape_iff_error.mpr rfl

/-- The end of `rearrangeGrid` is the end of the extraction. -/
theorem extracts_of_ends {result : SparseGridResult}
    (extracted : extractExtents grid.points grid.points step = .ok (extents, result))
    {outcome : Except RowReversal.Fault Grid}
    (ends : RowReversal.Ends (makeSparseGrid grid.values step extents) result.xdim.toInt32
      outcome) :
    grid.Extracts step (result.withGrid outcome) := by
  obtain ⟨enough, ended⟩ := ends
  refine ⟨enough, fun rounds more => ?_⟩
  rw [extractGrid, extracted]
  dsimp only
  rw [ended rounds more]
  rfl

/-- Rows of the guessed length are turned around, or cannot be. -/
theorem keepsShape_iff_of_rows {result : SparseGridResult}
    (extracted : extractExtents grid.points grid.points step = .ok (extents, result))
    {row : Grid} {rest : List Grid}
    (whole : (row :: rest).flatten = makeSparseGrid grid.values step extents)
    (positive : 1 ≤ result.xdim.toInt32.toInt)
    (widths : ∀ other ∈ row :: rest, other.length = result.xdim.toInt32.toInt.toNat) :
    grid.KeepsShape step ↔ (rest = [] ∨ result.xdim.toInt32.toInt ≤ 2 ^ 30) ∧
      (row :: rest).length < 2 ^ 32 ∧ result.xdim.toNat = grid.width ⌈/⌉ step ∧
        result.ydim.toNat = grid.height ⌈/⌉ step ∧
          (row :: rest).reverse.flatten = grid.sparse step := by
  by_cases fits : (rest = [] ∨ result.xdim.toInt32.toInt ≤ 2 ^ 30) ∧ (row :: rest).length < 2 ^ 32
  · have reversed := RowReversal.ends_reversed positive fits.1 fits.2 widths
    rw [whole] at reversed
    rw [(extracts_of_ends extracted reversed).keepsShape_iff_ok, and_iff_right fits.1,
      and_iff_right fits.2]
  · have bad : (rest ≠ [] ∧ 2 ^ 30 < result.xdim.toInt32.toInt) ∨
        (result.xdim.toInt32.toInt ≤ 2 ^ 30 ∧ 2 ^ 32 ≤ (row :: rest).length) := by
      by_cases narrow : result.xdim.toInt32.toInt ≤ 2 ^ 30
      · exact .inr ⟨narrow, not_lt.mp fun few => fits ⟨.inr narrow, few⟩⟩
      · refine .inl ⟨?_, not_le.mp narrow⟩
        rintro rfl
        exact fits ⟨.inl rfl, by rw [List.length_singleton]; decide⟩
    have undefined := RowReversal.ends_undefined positive widths bad
    rw [whole] at undefined
    rw [(extracts_of_ends extracted undefined).keepsShape_iff_error]
    exact iff_of_false Bool.false_ne_true fun ⟨narrow, few, _⟩ => fits ⟨narrow, few⟩

/-- Where the guess divides the number of values they are rows of its length. -/
theorem keepsShape_iff_of_dvd {result : SparseGridResult}
    (extracted : extractExtents grid.points grid.points step = .ok (extents, result))
    {guess size : Nat} (values : (makeSparseGrid grid.values step extents).length = size)
    (some : 0 < size) (zero : guess ≠ 0) (whole : guess ∣ size)
    (length : result.xdim.toNat = guess) (width : result.xdim.toInt32.toInt = guess)
    (ydim : result.ydim = UInt32.ofNat (size / guess)) :
    grid.KeepsShape step ↔ guess = grid.width ⌈/⌉ step ∧ size / guess = grid.height ⌈/⌉ step ∧
      (grid.height ⌈/⌉ step = 1 ∨ guess ≤ 2 ^ 30) ∧ grid.height ⌈/⌉ step < 2 ^ 32 ∧
      (RowReversal.gridRows (makeSparseGrid grid.values step extents) guess).reverse.flatten =
        grid.sparse step := by
  have natWidth : result.xdim.toInt32.toInt.toNat = guess := by rw [width, Int.toNat_natCast]
  obtain ⟨rows, flat, widths⟩ := RowReversal.exists_rows (values ▸ whole)
  have count : size = guess * rows.length := by
    rw [← values, ← flat, RowReversal.length_flatten_rows widths]
  have quotient : size / guess = rows.length := by
    rw [count, Nat.mul_div_cancel_left _ (Nat.pos_of_ne_zero zero)]
  have rowsAre : RowReversal.gridRows (makeSparseGrid grid.values step extents) guess = rows := by
    rw [← flat]
    exact RowReversal.gridRows_flatten (Nat.pos_of_ne_zero zero) widths
  obtain ⟨row, rest, rfl⟩ : ∃ row rest, rows = row :: rest := by
    apply List.exists_cons_of_ne_nil
    rintro rfl
    rw [List.length_nil, Nat.mul_zero] at count
    exact some.ne' count
  have alone : rest = [] ↔ (row :: rest).length = 1 := by
    rw [List.length_cons, Nat.add_eq_right, List.length_eq_zero_iff]
  rw [← natWidth] at widths
  rw [keepsShape_iff_of_rows extracted flat (by omega) widths, quotient, rowsAre, length, alone]
  constructor
  · intro ⟨narrow, few, sameWidth, sameHeight, sameValues⟩
    have count : (row :: rest).length = grid.height ⌈/⌉ step := by
      rw [← sameHeight, ydim, quotient]
      exact (UInt32.toNat_ofNat'.trans (Nat.mod_eq_of_lt few)).symm
    rw [← count]
    exact ⟨sameWidth, rfl, narrow.imp_right fun narrow => by omega, few, sameValues⟩
  · intro ⟨sameWidth, sameHeight, narrow, few, sameValues⟩
    rw [← sameHeight] at narrow few
    refine ⟨narrow.imp_right fun narrow => by omega, few, sameWidth, ?_, sameValues⟩
    rw [ydim, ← sameHeight, quotient]
    exact UInt32.toNat_ofNat'.trans (Nat.mod_eq_of_lt few)

/-- The shape is kept if the guess cannot be the length of rows, or if it is the right one and
the rows are turned around. -/
theorem keepsShape_iff_of_guess (positive : 0 < step)
    (guessed : getDataIndexExtents grid.points grid.points = .ok extents) {guess size : Nat}
    (again : getDataIndexExtents (makeSparseGrid grid.points step extents)
      (makeSparseGrid grid.points step extents) = extentsOf guess size)
    (values : (makeSparseGrid grid.values step extents).length = size) (some : 0 < size)
    (within : guess ≤ size) :
    grid.KeepsShape step ↔ guess % 2 ^ 32 ≠ 0 ∧ guess % 2 ^ 32 < 2 ^ 31 ∧
      (¬guess % 2 ^ 32 ∣ size ∨
        (guess % 2 ^ 32 = grid.width ⌈/⌉ step ∧ size / (guess % 2 ^ 32) = grid.height ⌈/⌉ step ∧
          (grid.height ⌈/⌉ step = 1 ∨ guess % 2 ^ 32 ≤ 2 ^ 30) ∧ grid.height ⌈/⌉ step < 2 ^ 32 ∧
          (RowReversal.gridRows (makeSparseGrid grid.values step extents)
            (guess % 2 ^ 32)).reverse.flatten = grid.sparse step)) := by
  by_cases zero : guess % 2 ^ 32 = 0
  · rw [extentsOf_eq_error zero] at again
    refine iff_of_false ?_ fun all => all.1 zero
    rw [(extractExtents_error positive guessed again).keepsShape_iff_error]
    exact Bool.false_ne_true
  rw [and_iff_right zero]
  rw [extentsOf_eq_ok zero] at again
  obtain ⟨result, extracted, xdim, ydim⟩ := extractExtents_eq positive guessed again
  have length : result.xdim.toNat = guess % 2 ^ 32 := by
    rw [xdim]
    exact UInt32.toNat_ofNat'
  have width := toInt_toInt32 result.xdim
  rw [length] at width
  have notMore : guess % 2 ^ 32 ≤ size := (Nat.mod_le _ _).trans within
  have bound : guess % 2 ^ 32 < 2 ^ 32 := Nat.mod_lt _ (Nat.two_pow_pos 32)
  by_cases signed : guess % 2 ^ 32 < 2 ^ 31
  · rw [and_iff_right signed]
    rw [if_pos signed] at width
    have natWidth : result.xdim.toInt32.toInt.toNat = guess % 2 ^ 32 := by
      rw [width, Int.toNat_natCast]
    have wide : 1 ≤ result.xdim.toInt32.toInt := by omega
    by_cases whole : guess % 2 ^ 32 ∣ size
    · rw [or_iff_right (not_not.mpr whole)]
      exact keepsShape_iff_of_dvd extracted values some zero whole length width ydim
    · refine iff_of_true ?_ (.inl whole)
      have refused := RowReversal.ends_notMultiple wide (by rw [natWidth, values]; exact notMore)
        (by rw [natWidth, values]; exact whole)
      exact (extracts_of_ends extracted refused).keepsShape_iff_error.mpr rfl
  · refine iff_of_false ?_ fun all => signed all.1
    rw [if_neg signed] at width
    have undefined := RowReversal.ends_negative (makeSparseGrid grid.values step extents)
      (show result.xdim.toInt32.toInt < 0 by omega)
    rw [(extracts_of_ends extracted undefined).keepsShape_iff_error]
    exact Bool.false_ne_true

/-- The rows of the sparse grid. -/
def sparseRows (grid : RegularGrid) (step : Nat) : List Grid :=
  (List.range (grid.height ⌈/⌉ step)).map fun row =>
    (List.range (grid.width ⌈/⌉ step)).map fun column => grid.value (column * step) (row * step)

/-- The sparse grid has its rows from the last one. -/
theorem sparse_eq (positive : 0 < step) :
    grid.sparse step = (grid.sparseRows step).reverse.flatten := by
  rw [sparse, sparseRows, multiplesBelow_eq positive,
    multiplesBelow_eq positive, ← List.map_reverse,
    List.flatMap_map, ← List.map_reverse, ← List.flatMap_def]
  simp only [List.map_map]
  rfl

/-- In a sparse grid rows are seen as in one with its spacing. -/
theorem rowsSeen_sparse (positive : 0 < step) (spacing : LonLat) (width height : Nat) :
    RowsSeen ⟨step * spacing.lon, step * spacing.lat⟩ width height ↔
      RowsSeen spacing width height := by
  have square : (0 : ℚ) < (step : ℚ) ^ 2 := by positivity
  have scaled : (step * spacing.lon) ^ 2 < 10 * (step * spacing.lat) ^ 2 ↔
      spacing.lon ^ 2 < 10 * spacing.lat ^ 2 := by
    rw [mul_pow, mul_pow, mul_left_comm, mul_lt_mul_iff_right₀ square]
  rw [RowsSeen, RowsSeen, scaled]

/-- The points of the sparse grid are a grid again. -/
theorem sparsePoints_of_seen (positive : 0 < step) (first : extents.1.toNat = grid.width) :
    makeSparseGrid grid.points step extents =
      rowMajor (grid.width ⌈/⌉ step) (grid.height ⌈/⌉ step)
        (latticePoint grid.origin ⟨step * grid.spacing.lon, step * grid.spacing.lat⟩) := by
  have columns := grid.columns
  rw [points, makeSparseGrid_seen (by omega) positive first]
  congr 1
  funext column row
  simp only [latticePoint, Nat.cast_mul, mul_assoc]

/-- The values of the sparse grid are its rows. -/
theorem sparseValues_of_seen (positive : 0 < step) (first : extents.1.toNat = grid.width) :
    makeSparseGrid grid.values step extents = (grid.sparseRows step).flatten := by
  have columns := grid.columns
  rw [values, makeSparseGrid_seen (by omega) positive first, rowMajor, List.flatMap_def]
  rfl

theorem length_of_mem_sparseRows {row : Grid} (member : row ∈ grid.sparseRows step) :
    row.length = grid.width ⌈/⌉ step := by
  obtain ⟨number, _, rfl⟩ := List.mem_map.mp member
  rw [List.length_map, List.length_range]

theorem length_sparseRows : (grid.sparseRows step).length = grid.height ⌈/⌉ step := by
  rw [sparseRows, List.length_map, List.length_range]

/-- What is guessed from the points of the sparse grid. -/
theorem sparseExtents_eq (positive : 0 < step)
    (several : 2 ≤ grid.width ⌈/⌉ step * (grid.height ⌈/⌉ step)) :
    getDataIndexExtents
        (rowMajor (grid.width ⌈/⌉ step) (grid.height ⌈/⌉ step)
          (latticePoint grid.origin ⟨step * grid.spacing.lon, step * grid.spacing.lat⟩))
        (rowMajor (grid.width ⌈/⌉ step) (grid.height ⌈/⌉ step)
          (latticePoint grid.origin ⟨step * grid.spacing.lon, step * grid.spacing.lat⟩)) =
      extentsOf (guessedWidth grid.spacing (grid.width ⌈/⌉ step) (grid.height ⌈/⌉ step))
        (grid.width ⌈/⌉ step * (grid.height ⌈/⌉ step)) := by
  have columns := grid.columns
  have wide := ceilDiv_pos positive (by omega : 0 < grid.width)
  have high := ceilDiv_pos positive grid.rows
  have lonSpacing : (step : ℚ) * grid.spacing.lon ≠ 0 :=
    mul_ne_zero (by positivity) grid.lonSpacing
  have scaled := rowsSeen_sparse positive grid.spacing (grid.width ⌈/⌉ step) (grid.height ⌈/⌉ step)
  unfold guessedWidth
  split
  · next seen =>
      exact getDataIndexExtents_seen grid.origin wide several (scaled.mpr seen) lonSpacing
  · next unseen =>
      exact getDataIndexExtents_unseen grid.origin wide high fun seen => unseen (scaled.mp seen)

/-- Where the rows of the grid are seen the sparse grid has to be turned around. -/
theorem keepsShape_of_seen (positive : 0 < step) (few : grid.width < 2 ^ 32)
    (seen : RowsSeen grid.spacing grid.width grid.height) :
    grid.KeepsShape step ↔ grid.width ⌈/⌉ step * (grid.height ⌈/⌉ step) = 1 ∨
      TurnsAround (guessedWidth grid.spacing (grid.width ⌈/⌉ step) (grid.height ⌈/⌉ step))
        (grid.width ⌈/⌉ step) (grid.height ⌈/⌉ step) := by
  have columns := grid.columns
  have wide := ceilDiv_pos positive (by omega : 0 < grid.width)
  have high := ceilDiv_pos positive grid.rows
  have area := Nat.mul_pos wide high
  obtain ⟨extents, isExtents, first⟩ := extentsOf_of_lt (by omega) few (grid.width * grid.height)
  have guessed : getDataIndexExtents grid.points grid.points = .ok extents :=
    (getDataIndexExtents_seen grid.origin (by omega)
      (Nat.le_trans columns (Nat.le_mul_of_pos_right _ grid.rows)) seen grid.lonSpacing).trans
        isExtents
  by_cases single : grid.width ⌈/⌉ step * (grid.height ⌈/⌉ step) = 1
  · refine iff_of_true (keepsShape_of_single positive guessed ?_) (.inl single)
    obtain ⟨oneColumn, oneRow⟩ := mul_eq_one.mp single
    rw [sparsePoints_of_seen positive first, oneColumn, oneRow]
    rfl
  · rw [or_iff_right single]
    have several : 2 ≤ grid.width ⌈/⌉ step * (grid.height ⌈/⌉ step) := by omega
    have again := sparseExtents_eq positive several
    rw [← sparsePoints_of_seen positive first] at again
    have size : (makeSparseGrid grid.values step extents).length =
        grid.width ⌈/⌉ step * (grid.height ⌈/⌉ step) := by
      rw [sparseValues_of_seen positive first,
        RowReversal.length_flatten_rows fun row member => length_of_mem_sparseRows member,
        length_sparseRows]
    have within : guessedWidth grid.spacing (grid.width ⌈/⌉ step) (grid.height ⌈/⌉ step) ≤
        grid.width ⌈/⌉ step * (grid.height ⌈/⌉ step) := by
      unfold guessedWidth
      split
      · exact Nat.le_mul_of_pos_right _ high
      · exact Nat.le_refl _
    rw [keepsShape_iff_of_guess positive guessed again size area within, TurnsAround]
    refine and_congr_right fun _ => and_congr_right fun _ => or_congr_right ?_
    apply and_congr_right
    intro sameWidth
    have rows : RowReversal.gridRows (makeSparseGrid grid.values step extents)
        (grid.width ⌈/⌉ step) = grid.sparseRows step := by
      rw [sparseValues_of_seen positive first]
      exact RowReversal.gridRows_flatten wide fun row member => length_of_mem_sparseRows member
    rw [sameWidth, rows, ← sparse_eq positive, Nat.mul_div_cancel_left _ wide]
    simp only [true_and, and_true]

/-- Rows are not seen in two columns whose rows are close together. -/
theorem twoColumns_of_unseen (unseen : ¬RowsSeen grid.spacing grid.width grid.height) :
    grid.width = 2 ∧ 2 ≤ grid.height ∧ 10 * grid.spacing.lat ^ 2 ≤ grid.spacing.lon ^ 2 := by
  rw [RowsSeen, not_or, not_or, not_and, not_lt] at unseen
  obtain ⟨rowsDiffer, few, close⟩ := unseen
  have columns := grid.columns
  have rows := grid.rows
  have two : grid.width = 2 := by omega
  exact ⟨two, by omega, close two⟩

/-- Of two columns that are taken for a row every second point of a step is kept. -/
theorem sparsePoints_of_twoColumns (positive : 0 < step) (two : grid.width = 2)
    (first : extents.1.toNat = 2 * grid.height) :
    makeSparseGrid grid.points step extents =
      (List.range ((2 * grid.height) ⌈/⌉ step)).map fun index =>
        zigzag grid.origin grid.spacing (index * step) := by
  rw [points, two, rowMajor_lattice Nat.two_pos, makeSparseGrid_joined positive _ first]
  rfl

theorem length_sparseValues_of_twoColumns (positive : 0 < step) (two : grid.width = 2)
    (first : extents.1.toNat = 2 * grid.height) :
    (makeSparseGrid grid.values step extents).length = (2 * grid.height) ⌈/⌉ step := by
  rw [values, two, rowMajor_eq_map Nat.two_pos, makeSparseGrid_joined positive _ first,
    List.length_map, List.length_range]

/-- Two columns are thinned to one, or not at all. -/
theorem ceilDiv_two (positive : 0 < step) : step = 1 ∨ 2 ⌈/⌉ step ≤ 1 := by
  rw [ceilDiv_le_iff_le_mul positive]
  omega

/-- Where all points are taken for one row nothing may fit. -/
theorem keepsShape_of_unseen (positive : 0 < step) (few : 2 * grid.height < 2 ^ 32)
    (unseen : ¬RowsSeen grid.spacing grid.width grid.height) :
    grid.KeepsShape step ↔ NothingFits grid.spacing grid.height step := by
  have columns := grid.columns
  obtain ⟨two, rows, close⟩ := twoColumns_of_unseen unseen
  obtain ⟨extents, isExtents, first⟩ := extentsOf_of_lt (by omega) few (2 * grid.height)
  have guessed : getDataIndexExtents grid.points grid.points = .ok extents := by
    have joined := getDataIndexExtents_unseen grid.origin (by omega) grid.rows unseen
    rw [← isExtents, ← two]
    exact joined
  have size := length_sparseValues_of_twoColumns positive two first
  have some := ceilDiv_pos positive (by omega : 0 < 2 * grid.height)
  have onlyOne : (2 * grid.height) ⌈/⌉ step ≤ 1 ↔ 2 * grid.height ≤ step := by
    rw [ceilDiv_le_iff_le_mul positive, Nat.mul_one]
  have notMore : (2 * grid.height) ⌈/⌉ step ≤ 2 * grid.height := by
    rw [ceilDiv_le_iff_le_mul positive]
    exact Nat.le_mul_of_pos_left _ positive
  unfold NothingFits
  by_cases single : 2 * grid.height ≤ step
  · refine iff_of_true (keepsShape_of_single positive guessed ?_) (.inl single)
    rw [sparsePoints_of_twoColumns positive two first, List.length_map, List.length_range]
    exact Nat.le_antisymm (onlyOne.mpr single) some
  · rw [or_iff_right single]
    have several : 2 ≤ (2 * grid.height) ⌈/⌉ step := by
      have notOne := mt onlyOne.mp single
      omega
    have again := @getDataIndexExtents_zigzag grid.origin grid.spacing step _ several
    rw [← sparsePoints_of_twoColumns positive two first] at again
    split at again
    · next taken =>
        obtain ⟨odd, three, far⟩ := taken
        have sparseStep : step ≠ 1 := by
          rintro rfl
          norm_num at far
          linarith
        have oneColumn := (ceilDiv_two positive).resolve_left sparseStep
        rw [keepsShape_iff_of_guess positive guessed again size some several, two]
        have cut : 2 % 2 ^ 32 = 2 := rfl
        rw [cut, Nat.dvd_iff_mod_eq_zero]
        constructor
        · intro ⟨_, _, right⟩
          rcases right with refused | ⟨sameWidth, _⟩
          · exact ⟨odd, by omega, three, far⟩
          · omega
        · intro ⟨_, rest, _⟩
          exact ⟨by decide, by decide, .inl (by omega)⟩
    · next joined =>
        refine iff_of_false ?_ fun fits => joined ⟨fits.1, fits.2.2.1, fits.2.2.2⟩
        rw [keepsShape_iff_of_guess positive guessed again size some (Nat.le_refl _), two,
          Nat.mod_eq_of_lt (by omega), Nat.div_self some]
        intro ⟨_, _, right⟩
        obtain ⟨sameWidth, sameHeight, _⟩ := right.resolve_left fun refused => refused (dvd_refl _)
        rcases ceilDiv_two positive with rfl | few
        · rw [ceilDiv_one] at sameHeight
          omega
        · omega

/-- Where the first guess is an `unsigned int` the shape is kept exactly if the sparse grid fits. -/
theorem keepsShape_iff_of_lt (positive : 0 < step)
    (few : guessedWidth grid.spacing grid.width grid.height < 2 ^ 32) :
    grid.KeepsShape step ↔ grid.FitsSparse step := by
  unfold FitsSparse
  unfold guessedWidth at few
  split at few
  · next seen =>
      rw [if_pos seen]
      exact keepsShape_of_seen positive few seen
  · next unseen =>
      rw [if_neg unseen]
      rw [(twoColumns_of_unseen unseen).1] at few
      exact keepsShape_of_unseen positive few unseen

/-- This is enough for the shape to be kept, and nothing less is, unless the first guess is cut
to 32 bits. -/
theorem keepsShape_iff (grid : RegularGrid) {step : Nat} (positive : 0 < step) :
    (grid.ShapeKept step → grid.KeepsShape step) ∧
      (guessedWidth grid.spacing grid.width grid.height < 2 ^ 32 →
        grid.KeepsShape step → grid.ShapeKept step) :=
  ⟨fun ⟨few, fits⟩ => (keepsShape_iff_of_lt positive few).mpr fits,
    fun few kept => ⟨few, (keepsShape_iff_of_lt positive few).mp kept⟩⟩

/-- A grid of so many columns and rows, one degree apart. -/
def ofDegrees (width height : Nat) (columns : 2 ≤ width) (rows : 1 ≤ height) : RegularGrid where
  width := width
  height := height
  origin := ⟨20, 60⟩
  spacing := ⟨1, 1⟩
  value := fun column row => [UInt8.ofNat column, UInt8.ofNat row]
  columns := columns
  rows := rows
  lonSpacing := one_ne_zero
  latSpacing := one_ne_zero

/-- A grid of six columns keeps its shape. -/
theorem sixColumns_kept : (ofDegrees 6 4 (by decide) (by decide)).KeepsShape 2 :=
  (keepsShape_iff _ (by decide)).1 (by decide +kernel)

/-- The first column of two, in every second of three rows, becomes one row of two points. -/
theorem firstColumn_turned : ¬(ofDegrees 2 3 (by decide) (by decide)).KeepsShape 2 := by
  rw [keepsShape_of_seen (by decide) (by decide) (.inr (.inr ⟨rfl, by decide +kernel⟩))]
  decide +kernel

end RegularGrid

end SmartMetWfs.Handlers
