import Mathlib.Order.Interval.Set.Basic
import SmartMetWfs.Handlers.GridForecast

/-!
# Rows of the locations

`extract_forecast` hands the first free row from one location to the next. What
`processGridQuery` returns is the last row it has come to plus one, and the last row is the
first free one if there are no times: a location without times leaves a row out.
-/

namespace SmartMetWfs.Handlers

open Foundation

variable {Number : Type}

/-- A location: the services at it, and its query with the result code. -/
structure LocationQuery (Number : Type) where
  services : GridServices Number
  result : Int
  gridQuery : GridQuery Number

/-- The number of forecast times of a location. -/
def LocationQuery.times (location : LocationQuery Number) : Nat :=
  location.gridQuery.forecastTimeList.keys.length

/-- `extract_forecast`: the cells of each location. -/
def GridForecast.extractForecast (enabled : Bool) : Nat → List (LocationQuery Number) →
    Except GridFailure (List (List Cell))
  | _, [] => .ok []
  | rowCount, location :: locations => do
      let (cells, next) ←
        processGridQuery location.services enabled location.result location.gridQuery rowCount
      let table ← GridForecast.extractForecast enabled next locations
      .ok (cells :: table)

/-- The rows of the cells. -/
def cellRows (cells : List Cell) : Set Nat := {row | ∃ cell ∈ cells, cell.row = row}

/-! ### What is asked for -/

/-- Each location has as many rows as times, from the row on where the one before it ends. -/
def Adjacent : Nat → List (LocationQuery Number) → List (List Cell) → Prop
  | _, [], [] => True
  | first, location :: locations, cells :: table =>
      cellRows cells = Set.Ico first (first + location.times) ∧
        Adjacent (first + location.times) locations table
  | _, _, _ => False

/-- The rows are given to the locations one after the other from the first row on, and none
of the table is left out. -/
structure RowsAllocated (locations : List (LocationQuery Number)) (table : List (List Cell)) :
    Prop where
  adjacent : Adjacent 0 locations table
  owned : ∀ used ∈ cellRows table.flatten, ∀ row ≤ used, ∃ cells ∈ table, row ∈ cellRows cells

/-- No location with times comes after one without. -/
def TimesFirst (locations : List (LocationQuery Number)) : Prop :=
  locations.Pairwise fun earlier later => earlier.times = 0 → later.times = 0

/-! ### The rows of one location -/

/-- The loops have come to these rows since the start. -/
structure ComesTo (start : Filling) (rows : Set Nat) (filling : Filling) : Prop where
  reached : cellRows filling.cells = cellRows start.cells ∪ rows
  lastRow : ∀ bound, filling.lastRow ≤ bound ↔ start.lastRow ≤ bound ∧ ∀ row ∈ rows, row ≤ bound

namespace ComesTo

theorem refl (start : Filling) : ComesTo start ∅ start where
  reached := (Set.union_empty _).symm
  lastRow _ := (and_iff_left fun _ member => member.elim).symm

theorem trans {start middle filling : Filling} {first second : Set Nat}
    (before : ComesTo start first middle) (after : ComesTo middle second filling) :
    ComesTo start (first ∪ second) filling where
  reached := by rw [after.reached, before.reached, Set.union_assoc]
  lastRow bound := by
    rw [after.lastRow, before.lastRow, and_assoc]
    refine and_congr_right fun _ => ⟨fun both row member => ?_, fun all => ⟨?_, ?_⟩⟩
    · exact member.elim (both.1 row) (both.2 row)
    · exact fun row member => all row (.inl member)
    · exact fun row member => all row (.inr member)

end ComesTo

/-- A loop that comes to a row in each round. -/
theorem comesTo_of_foldlM {ε α : Type} {step : Filling → α → Except ε Filling} {rowOf : α → Set Nat}
    {items : List α} {start last : Filling}
    (rounds : ∀ filling, ∀ item ∈ items, ∀ next, step filling item = .ok next →
      ComesTo filling (rowOf item) next)
    (ends : items.foldlM step start = .ok last) :
    ComesTo start {row | ∃ item ∈ items, row ∈ rowOf item} last := by
  induction items generalizing start with
  | nil =>
      cases ends
      simpa using ComesTo.refl last
  | cons item items ih =>
      rw [List.foldlM_cons] at ends
      obtain ⟨next, first, rest⟩ := ok_of_bind ends
      have whole := (rounds start item List.mem_cons_self next first).trans
        (ih (fun filling other member => rounds filling other (List.mem_cons_of_mem _ member)) rest)
      simpa [Set.union_def] using whole

/-- The rows from the first free one on, one for each time. -/
theorem ComesTo.cell {filling : Filling} {col row generationId geometryId : Nat}
    {text : Option ByteString} :
    ComesTo filling {row} ⟨filling.cells ++ [⟨col, row, text⟩], max row filling.lastRow,
      generationId, geometryId⟩ where
  reached := by
    ext other
    simp only [cellRows, Set.mem_union, Set.mem_ofPred_eq, List.mem_append, List.mem_singleton,
      or_and_right, exists_or, exists_eq_left, Set.mem_singleton_iff, eq_comm]
  lastRow bound := by
    rw [max_le_iff, and_comm]
    exact and_congr_right fun _ => ⟨fun le other same => same.symm ▸ le, fun all => all row rfl⟩

/-- The rows of the times follow one another. -/
theorem times_range (rows tLen : Nat) :
    {row | ∃ t ∈ List.range tLen, row ∈ ({rows + t} : Set Nat)} = Set.Ico rows (rows + tLen) := by
  ext row
  simp only [Set.mem_ofPred_eq, List.mem_range, Set.mem_singleton_iff, Set.mem_Ico]
  constructor
  · rintro ⟨t, less, rfl⟩
    omega
  · intro range
    exact ⟨row - rows, by omega, by omega⟩

/-- Rounds that all come to the same rows. -/
theorem same_rounds {α : Type} {items : List α} (some : items ≠ []) (rows : Set Nat) :
    {row | ∃ item ∈ items, row ∈ rows} = rows := by
  obtain ⟨item, member⟩ := List.exists_mem_of_ne_nil items some
  ext row
  exact ⟨fun ⟨_, _, inRows⟩ => inRows, fun inRows => ⟨item, member, inRows⟩⟩

/-- The values of a parameter fill its rows. -/
theorem setDataValues_comesTo {services : GridServices Number} {param : QueryParameter Number}
    {vLen tLen col rows : Nat} {start last : Filling} (some : 0 < vLen)
    (ends : setDataValues services param vLen tLen col rows start = .ok last) :
    ComesTo start (Set.Ico rows (rows + tLen)) last := by
  have nonempty : List.range vLen ≠ [] := by simpa using some.ne'
  have round : ∀ filling, ∀ v ∈ List.range vLen, ∀ next, (List.range tLen).foldlM
      (setDataValue services param vLen col rows v) filling = .ok next →
        ComesTo filling (Set.Ico rows (rows + tLen)) next := by
    intro filling v _ next round
    rw [← times_range]
    refine comesTo_of_foldlM (fun filling t _ next step => ?_) round
    obtain ⟨values, _, rest⟩ := ok_of_bind step
    cases rest
    exact ComesTo.cell
  rw [← same_rounds nonempty (Set.Ico rows (rows + tLen))]
  exact comesTo_of_foldlM round ends

/-- The special values of a parameter fill its rows. -/
theorem setSpecialValues_comesTo {services : GridServices Number} {gridQuery : GridQuery Number}
    {param : QueryParameter Number} {col rows : Nat} {start last : Filling}
    (ends : setSpecialValues services gridQuery param col rows start = .ok last) :
    ComesTo start (Set.Ico rows (rows + gridQuery.forecastTimeList.keys.length)) last := by
  have sameRows : {row | ∃ time ∈ gridQuery.forecastTimeList.keys.zipIdx,
      row ∈ ({rows + time.2} : Set Nat)} =
        Set.Ico rows (rows + gridQuery.forecastTimeList.keys.length) := by
    rw [← times_range,
      List.range_eq_range', ← List.zipIdx_map_snd 0 gridQuery.forecastTimeList.keys]
    ext row
    simp only [Set.mem_ofPred_eq, List.mem_map, exists_exists_and_eq_and]
  rw [← sameRows]
  refine comesTo_of_foldlM (fun filling time _ next step => ?_) ends
  obtain ⟨text, _, rest⟩ := ok_of_bind step
  cases rest
  exact ComesTo.cell

/-- A parameter fills its rows, whichever kind it is. -/
theorem setParameter_comesTo {services : GridServices Number} {gridQuery : GridQuery Number}
    {rowCount : Nat} {param : QueryParameter Number × Nat} {start last : Filling}
    (ends : setParameter services gridQuery rowCount start param = .ok last) :
    ComesTo start (Set.Ico rowCount (rowCount + gridQuery.forecastTimeList.keys.length)) last := by
  unfold setParameter at ends
  split at ends
  · next data => exact setDataValues_comesTo (of_decide_eq_true data).1 ends
  · exact setSpecialValues_comesTo ends

/-- The cells of a location and the next free row. -/
theorem processGridQuery_rows {location : LocationQuery Number} {enabled : Bool}
    {rowCount next : Nat}
    {cells : List Cell} (some : location.gridQuery.parameterList ≠ [])
    (ends : processGridQuery location.services enabled location.result location.gridQuery rowCount =
      .ok (cells, next)) :
    cellRows cells = Set.Ico rowCount (rowCount + location.times) ∧
      next = rowCount + max location.times 1 := by
  unfold processGridQuery at ends
  split at ends
  · cases ends
  split at ends
  · cases ends
  split at ends
  · cases ends
  next filling filled =>
    cases ends
    have nonempty : location.gridQuery.parameterList.zipIdx ≠ [] := by simpa using some
    have comes := comesTo_of_foldlM (fun _ _ _ _ => setParameter_comesTo) filled
    rw [same_rounds nonempty] at comes
    have none : cellRows ([] : List Cell) = ∅ := by simp [cellRows]
    refine ⟨by rw [comes.reached, none, Set.empty_union]; rfl, ?_⟩
    -- The last row is the least bound of the first free row and the rows of the times.
    have last : ∀ bound, filling.lastRow ≤ bound ↔ rowCount + (location.times - 1) ≤ bound := by
      intro bound
      rw [comes.lastRow]
      constructor
      · rintro ⟨below, rows⟩
        cases times : location.times with
        | zero => simpa using below
        | succ more =>
            refine rows (rowCount + more) ⟨Nat.le_add_right _ _, ?_⟩
            change rowCount + more < rowCount + location.times
            omega
      · intro below
        refine ⟨le_trans (Nat.le_add_right _ _) below, fun row ⟨_, less⟩ => ?_⟩
        change row < rowCount + location.times at less
        omega
    have same := le_antisymm ((last _).mpr le_rfl) ((last _).mp le_rfl)
    omega

/-! ### The rows of all locations -/

/-- The rows that the locations are given, each starting at the next free row. -/
theorem GridForecast.extractForecast_cons {enabled : Bool} {rowCount : Nat}
    {location : LocationQuery Number}
    {locations : List (LocationQuery Number)} {table : List (List Cell)}
    (some : location.gridQuery.parameterList ≠ [])
    (ends : GridForecast.extractForecast enabled rowCount (location :: locations) = .ok table) :
    ∃ cells rest, table = cells :: rest ∧
      cellRows cells = Set.Ico rowCount (rowCount + location.times) ∧
      GridForecast.extractForecast enabled (rowCount + max location.times 1) locations =
        .ok rest := by
  rw [GridForecast.extractForecast] at ends
  obtain ⟨⟨cells, next⟩, processed, more⟩ := ok_of_bind ends
  obtain ⟨rest, others, whole⟩ := ok_of_bind more
  cases whole
  obtain ⟨rows, rfl⟩ := processGridQuery_rows some processed
  exact ⟨cells, rest, rfl, rows, others⟩

/-- Locations without times have no rows, wherever they are. -/
theorem adjacent_of_no_times {enabled : Bool} {rowCount first : Nat}
    {locations : List (LocationQuery Number)} {table : List (List Cell)}
    (some : ∀ location ∈ locations, location.gridQuery.parameterList ≠ [])
    (none : ∀ location ∈ locations, location.times = 0)
    (ends : GridForecast.extractForecast enabled rowCount locations = .ok table) :
    Adjacent first locations table ∧ ∀ cells ∈ table, cellRows cells = ∅ := by
  induction locations generalizing rowCount first table with
  | nil =>
      cases ends
      exact ⟨trivial, fun _ member => (List.not_mem_nil member).elim⟩
  | cons location locations ih =>
      obtain ⟨cells, rest, rfl, rows, others⟩ :=
        GridForecast.extractForecast_cons (some location List.mem_cons_self) ends
      have noTimes := none location List.mem_cons_self
      obtain ⟨adjacent, empty⟩ :=
        ih (fun other member => some other (List.mem_cons_of_mem _ member))
        (fun other member => none other (List.mem_cons_of_mem _ member)) others
      have noRows : cellRows cells = ∅ := by rw [rows, noTimes, Nat.add_zero, Set.Ico_self]
      refine ⟨⟨?_, adjacent⟩, List.forall_mem_cons.mpr ⟨noRows, empty⟩⟩
      rw [noRows, noTimes, Nat.add_zero, Set.Ico_self]

/-- Behind a row that is left out only locations without times are where they should be. -/
theorem no_times_of_adjacent {enabled : Bool} {rowCount first : Nat} (behind : first < rowCount)
    {locations : List (LocationQuery Number)} {table : List (List Cell)}
    (some : ∀ location ∈ locations, location.gridQuery.parameterList ≠ [])
    (ends : GridForecast.extractForecast enabled rowCount locations = .ok table)
    (adjacent : Adjacent first locations table) : ∀ location ∈ locations, location.times = 0 := by
  induction locations generalizing rowCount first table with
  | nil => exact fun _ member => (List.not_mem_nil member).elim
  | cons location locations ih =>
      obtain ⟨cells, rest, rfl, rows, others⟩ :=
        GridForecast.extractForecast_cons (some location List.mem_cons_self) ends
      obtain ⟨sameRows, adjacentRest⟩ := adjacent
      have noTimes : location.times = 0 := by
        by_contra times
        have inRange : first ∈ Set.Ico first (first + location.times) := ⟨le_rfl, by omega⟩
        rw [← sameRows, rows] at inRange
        exact absurd inRange.1 (not_le.mpr behind)
      refine List.forall_mem_cons.mpr ⟨noTimes, ?_⟩
      exact ih (by omega) (fun other member => some other (List.mem_cons_of_mem _ member)) others
        adjacentRest

/-- The rows of the locations follow one another when every location has times, or is the last. -/
theorem adjacent_iff {enabled : Bool} {rowCount : Nat}
    {locations : List (LocationQuery Number)} {table : List (List Cell)}
    (some : ∀ location ∈ locations, location.gridQuery.parameterList ≠ [])
    (ends : GridForecast.extractForecast enabled rowCount locations = .ok table) :
    Adjacent rowCount locations table ↔ TimesFirst locations := by
  induction locations generalizing rowCount table with
  | nil =>
      cases ends
      exact iff_of_true trivial .nil
  | cons location locations ih =>
      have someRest := fun other member => some other (List.mem_cons_of_mem location member)
      obtain ⟨cells, rest, rfl, rows, others⟩ :=
        GridForecast.extractForecast_cons (some location List.mem_cons_self) ends
      unfold TimesFirst
      rw [List.pairwise_cons, Adjacent, and_iff_right rows]
      by_cases noTimes : location.times = 0
      · constructor
        · intro adjacent
          have noneBehind := no_times_of_adjacent (by omega) someRest others adjacent
          refine ⟨fun other member _ => noneBehind other member, ?_⟩
          exact List.pairwise_of_forall_mem_list fun _ _ other member _ => noneBehind other member
        · rintro ⟨noneBehind, _⟩
          exact (adjacent_of_no_times someRest (fun other member => noneBehind other member noTimes)
            others).1
      · have oneStep : max location.times 1 = location.times := by omega
        rw [oneStep] at others
        rw [ih someRest others]
        exact (and_iff_right fun _ _ none => absurd none noTimes).symm

/-- If the rows are adjacent none is left out. -/
theorem owned_of_adjacent {first : Nat} {locations : List (LocationQuery Number)}
    {table : List (List Cell)} (adjacent : Adjacent first locations table) :
    ∀ used ∈ cellRows table.flatten, ∀ row, first ≤ row → row ≤ used →
      ∃ cells ∈ table, row ∈ cellRows cells := by
  induction locations generalizing first table with
  | nil =>
      cases table with
      | nil => rintro _ ⟨cell, member, _⟩; cases member
      | cons cells table => exact adjacent.elim
  | cons location locations ih =>
      cases table with
      | nil => exact adjacent.elim
      | cons cells table =>
          obtain ⟨rows, adjacentRest⟩ := adjacent
          intro used inTable row fromFirst upTo
          by_cases here : row < first + location.times
          · refine ⟨cells, List.mem_cons_self, ?_⟩
            rw [rows]
            exact ⟨fromFirst, here⟩
          · have behind : used ∈ cellRows table.flatten := by
              obtain ⟨cell, member, same⟩ := inTable
              rcases List.mem_append.mp (List.flatten_cons ▸ member) with inCells | inRest
              · have inRows : used ∈ cellRows cells := ⟨cell, inCells, same⟩
                rw [rows] at inRows
                have := inRows.2
                omega
              · exact ⟨cell, inRest, same⟩
            obtain ⟨others, member, inOthers⟩ :=
              ih adjacentRest used behind row (not_lt.mp here) upTo
            exact ⟨others, List.mem_cons_of_mem _ member, inOthers⟩

/-- The rows are allocated to the locations as asked for just if no location with forecast
times comes after one without. -/
theorem GridForecast.extractForecast_allocates_iff {enabled : Bool}
    {locations : List (LocationQuery Number)}
    {table : List (List Cell)}
    (some : ∀ location ∈ locations, location.gridQuery.parameterList ≠ [])
    (returns : GridForecast.extractForecast enabled 0 locations = .ok table) :
    RowsAllocated locations table ↔ TimesFirst locations := by
  rw [← adjacent_iff some returns]
  refine ⟨RowsAllocated.adjacent, fun adjacent => ⟨adjacent, fun used inTable row upTo => ?_⟩⟩
  exact owned_of_adjacent adjacent used inTable row (Nat.zero_le _) upTo

/-- A location with a forecast time for each of the given texts. -/
def sampleLocation (texts : List ByteString) : LocationQuery Int where
  services :=
    { valueByLocation := fun _ _ => none
      valueByLocationAndTime := fun _ _ _ => none
      isAdditionalParameter := fun _ => false
      producerName := fun _ => none
      generationTime := fun _ => none
      producerNames := fun _ => []
      formatNumber := fun number _ => intDecimal number
      missingText := ascii "NaN"
      haveModelArea := false }
  result := 0
  gridQuery :=
    { parameterList := [⟨ascii "Temperature", -1, texts.map fun text =>
        ⟨[], 1, 1, 1, 1, 0, 1, -1, 0, [⟨none, text⟩]⟩⟩]
      forecastTimeList :=
        texts.foldl (fun times _ => OrderedSet.insert times.entries.length times) .empty
      producerNameList := [] }

/-- The rows are allocated when only the last location has no times. -/
theorem sampleLocations_allocated :
    RowsAllocated [sampleLocation [ascii "1", ascii "2"], sampleLocation []]
      [[⟨0, 0, some (ascii "1")⟩, ⟨0, 1, some (ascii "2")⟩], []] := by
  have returns :
      GridForecast.extractForecast true 0
          [sampleLocation [ascii "1", ascii "2"], sampleLocation []] =
        .ok [[⟨0, 0, some (ascii "1")⟩, ⟨0, 1, some (ascii "2")⟩], []] := by rfl
  refine (GridForecast.extractForecast_allocates_iff ?_ returns).mpr ?_
  · simp [sampleLocation]
  · exact List.pairwise_pair.mpr fun none => absurd none (by decide)

/-- The location between the others has no times. The second row is nobody's. -/
theorem sampleLocations_leave_row_out :
    GridForecast.extractForecast true 0 [sampleLocation [ascii "1"], sampleLocation [],
      sampleLocation [ascii "2"]] =
      .ok [[⟨0, 0, some (ascii "1")⟩], [], [⟨0, 2, some (ascii "2")⟩]] ∧
    ¬RowsAllocated [sampleLocation [ascii "1"], sampleLocation [], sampleLocation [ascii "2"]]
      [[⟨0, 0, some (ascii "1")⟩], [], [⟨0, 2, some (ascii "2")⟩]] := by
  refine ⟨by rfl, fun allocated => ?_⟩
  obtain ⟨cells, member, cell, inCells, row⟩ :=
    allocated.owned 2 ⟨⟨0, 2, some (ascii "2")⟩, by simp, rfl⟩ 1 (by decide)
  simp only [List.mem_cons, List.not_mem_nil, or_false] at member
  rcases member with rfl | rfl | rfl
  · cases List.mem_singleton.mp inCells
    cases row
  · cases inCells
  · cases List.mem_singleton.mp inCells
    cases row

end SmartMetWfs.Handlers
