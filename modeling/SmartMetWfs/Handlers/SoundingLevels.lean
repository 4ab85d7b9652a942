import SmartMetWfs.Handlers.SoundingRows

/-!
# The levels of a sounding table

A row of a sounding table belongs to one level just if in each sounding the levels of every
measurand begin those of the first one, since the rows are filled by position only.
-/

namespace SmartMetWfs.Handlers

open Foundation

variable {Number DateTime : Type} {ctx : SoundingContext Number DateTime}
  {first : List (SoundingDatum Number)} {columns : List (List (SoundingDatum Number))}
  {group : SoundingGroup Number DateTime}

/-! ### The cells of a row -/

/-- A cell of a row is the value of a column. -/
theorem mem_columnCells {place row : Nat} {entry : Nat × SoundingCell Number}
    (member : entry ∈ columnCells ctx place columns row) :
    ∃ index column datum, columns[index]? = some column ∧ column[row]? = some datum ∧
      entry = ctx.cellOf (place + index) datum := by
  induction columns generalizing place with
  | nil => cases member
  | cons column columns ih =>
      rcases List.mem_append.mp member with here | later
      · obtain ⟨datum, isDatum, rfl⟩ := Option.map_eq_some_iff.mp (Option.mem_toList.mp here)
        exact ⟨0, column, datum, rfl, isDatum, rfl⟩
      · obtain ⟨index, other, datum, isColumn, isDatum, rfl⟩ := ih later
        exact ⟨index + 1, other, datum, isColumn, isDatum, by rw [Nat.add_assoc, Nat.add_comm 1]⟩

/-- The measured values of a row are those of the columns. -/
theorem measured_columnCells (place row : Nat) :
    (columnCells ctx place columns row).filterMap (fun entry => entry.2.measuredDatum) =
      rowAt columns row := by
  induction columns generalizing place with
  | nil => rfl
  | cons column columns ih =>
      rw [columnCells, List.filterMap_append, ih, rowAt_cons]
      cases column[row]? <;> rfl

/-- The pressure adds no measured value. -/
theorem measured_rowCells (row : Nat) :
    (rowCells ctx columns row).filterMap (fun entry => entry.2.measuredDatum) =
      rowAt columns row := by
  have ofPressure :
      (pressureCells ctx columns row).filterMap (fun entry => entry.2.measuredDatum) = [] := by
    unfold pressureCells
    split
    · rfl
    · cases levelDatum columns row <;> rfl
  rw [rowCells, List.filterMap_append, ofPressure, measured_columnCells, List.nil_append]

/-- Every cell has been written from a datum of its row. -/
theorem datum_mem_rowAt {row : Nat} {entry : Nat × SoundingCell Number}
    (member : entry ∈ rowCells ctx columns row) : entry.2.datum ∈ rowAt columns row := by
  rcases List.mem_append.mp member with pressure | measured
  · unfold pressureCells at pressure
    split at pressure
    · cases pressure
    · obtain ⟨datum, isDatum, rfl⟩ := Option.map_eq_some_iff.mp (Option.mem_toList.mp pressure)
      obtain ⟨column, isFirst, isDatum⟩ := Option.bind_eq_some_iff.mp isDatum
      exact mem_rowAt.mpr ⟨column, List.mem_of_head? isFirst, isDatum⟩
  · obtain ⟨_, column, datum, isColumn, isDatum, rfl⟩ := mem_columnCells measured
    exact mem_rowAt.mpr ⟨column, List.mem_of_getElem? isColumn, isDatum⟩

/-- Every value of a row has a cell. -/
theorem exists_cell {row : Nat} {datum : SoundingDatum Number}
    (member : datum ∈ rowAt columns row) :
    ∃ entry ∈ rowCells ctx columns row, entry.2.datum = datum := by
  have measured : (rowCells ctx columns row).filterMap _ = rowAt columns row :=
    measured_rowCells row
  rw [← measured] at member
  obtain ⟨⟨place, cell⟩, inRow, isDatum⟩ := List.mem_filterMap.mp member
  refine ⟨_, inRow, ?_⟩
  cases cell with
  | pressure _ => cases isDatum
  | measured _ _ _ => exact Option.some.inj isDatum

/-! ### The rows of a group -/

/-- The rows by their numbers. -/
theorem map_range_rows (rows : List (SoundingTableRow Number)) :
    (List.range rows.length).map (fun rowNo => rows[rowNo]?.getD emptyRow) = rows := by
  refine List.ext_getElem (by simp) fun rowNo within _ => ?_
  simp at within
  simp [within]

/-- What holds of all rows holds of all numbers below the height. -/
theorem TableHolds.forall_rows {rows : List (SoundingTableRow Number)}
    (holds : TableHolds ctx columns rows)
    {good : SoundingTableRow Number → Prop} :
    (∀ row ∈ rows, good row) ↔ ∀ rowNo < height columns, good (rows[rowNo]?.getD emptyRow) := by
  conv_lhs => rw [← map_range_rows rows]
  rw [List.forall_mem_map, holds.length]
  simp only [List.mem_range]

/-- Each datum is in one row. -/
theorem TableHolds.measured_perm {rows : List (SoundingTableRow Number)}
    (holds : TableHolds ctx columns rows) :
    (rows.flatMap SoundingTableRow.measured).Perm columns.flatten := by
  have byRows : rows.flatMap SoundingTableRow.measured =
      (List.range rows.length).flatMap (rowAt columns) := by
    conv_lhs => rw [← map_range_rows rows]
    rw [List.flatMap_map]
    congr 1
    funext rowNo
    rw [SoundingTableRow.measured, (holds.row rowNo).cells, measured_rowCells]
  rw [byRows, holds.length]
  exact flatMap_rowAt_perm le_rfl

/-- The rows are of one level when the levels are those of the first column. -/
theorem GroupHolds.levels_iff (holds : GroupHolds ctx (first :: columns) group) :
    group.RowsOfOneLevel ↔ LevelsOfFirst (first :: columns) := by
  have ofSounding : ∀ rowNo, ∀ datum ∈ rowAt (first :: columns) rowNo,
      datum.soundingId = group.soundingId := by
    intro rowNo datum member
    obtain ⟨column, isColumn, isDatum⟩ := mem_rowAt.mp member
    exact (holds.shape column isColumn).sounding datum (List.mem_of_getElem? isDatum)
  have others : LevelsOfFirst (first :: columns) ↔
      ∀ column ∈ columns, column.map SoundingDatum.levelNo <+: first.map SoundingDatum.levelNo := by
    simp [LevelsOfFirst]
  rw [SoundingGroup.RowsOfOneLevel, holds.table.forall_rows, others, ← rowsAgree_iff]
  refine forall₂_congr fun rowNo _ => ?_
  have level := (holds.table.row rowNo).level
  rw [(holds.table.row rowNo).cells]
  constructor
  · rintro ⟨source, isSource, _, cells⟩
    rw [isSource] at level
    refine ⟨source.datum, level.symm, fun datum member => ?_⟩
    obtain ⟨entry, inRow, rfl⟩ := exists_cell member
    exact (cells entry inRow).2
  · rintro ⟨head, isHead, same⟩
    obtain ⟨source, isSource, rfl⟩ := Option.map_eq_some_iff.mp (level.trans isHead)
    refine ⟨source, isSource, ?_, fun entry inRow => ?_⟩
    · exact ofSounding rowNo _ (mem_rowAt.mpr ⟨first, List.mem_cons_self, isHead⟩)
    · exact ⟨ofSounding rowNo _ (datum_mem_rowAt inRow), same _ (datum_mem_rowAt inRow)⟩

/-! ### The names of a group -/

/-- The names of a column are those of its first value. -/
theorem columnNames_of_head {datum : SoundingDatum Number} (isFirst : first.head? = some datum) :
    columnNames ctx first = ctx.paramNames datum.measurandId (ctx.shows datum.measurandId) := by
  rw [columnNames, isFirst]

/-- A measurand whose value is not shown is listed by its quality. -/
theorem columnNames_of_hidden {datum : SoundingDatum Number} (named : columnNames ctx first ≠ [])
    (isFirst : first.head? = some datum) (hidden : (ctx.shows datum.measurandId).1 = false) :
    ∃ name, columnNames ctx first = [⟨name, true⟩] := by
  rw [columnNames_of_head isFirst, SoundingContext.paramNames, hidden] at named ⊢
  cases found : ctx.meteoParameterMap.find datum.measurandId with
  | none => simp [found] at named
  | some param =>
      cases quality : (ctx.shows datum.measurandId).2 with
      | false => simp [found, quality] at named
      | true => exact ⟨param.qcName, rfl⟩

/-- The pressure is named when the first column shows it. -/
theorem pressureNames_of_head {datum : SoundingDatum Number} (isFirst : first.head? = some datum) :
    pressureNames ctx (first :: columns) =
      if ctx.pressureParameterName ≠ [] ∧ (ctx.shows datum.measurandId).1 = true then
        [⟨ctx.pressureParameterName, false⟩]
      else [] := by
  have atTop : levelDatum (first :: columns) 0 = some datum :=
    List.head?_eq_getElem?.symm.trans isFirst
  rw [pressureNames, atTop]

/-- The names at the places of a row. -/
def placeNames (ctx : SoundingContext Number DateTime)
    (columns : List (List (SoundingDatum Number))) :
    List (List SoundingParam) :=
  (if ctx.pressureParameterName = [] then [] else [[⟨ctx.pressureParameterName, false⟩]]) ++
    columns.map (columnNames ctx)

/-- Every cell has the names of its place. -/
theorem placeNames_of_mem (shape : ∀ column ∈ columns, ColumnOf ctx group.soundingId column)
    {row : Nat}
    {entry : Nat × SoundingCell Number} (member : entry ∈ rowCells ctx columns row) :
    (placeNames ctx columns)[entry.1]? = some (entry.2.names ctx) := by
  rcases List.mem_append.mp member with pressure | measured
  · unfold pressureCells at pressure
    split at pressure
    · cases pressure
    · next asked =>
        obtain ⟨datum, _, rfl⟩ := Option.map_eq_some_iff.mp (Option.mem_toList.mp pressure)
        simp [placeNames, asked, SoundingCell.names]
  · obtain ⟨index, column, datum, isColumn, isDatum, rfl⟩ := mem_columnCells measured
    have ofColumn : columnNames ctx column =
        ctx.paramNames datum.measurandId (ctx.shows datum.measurandId) := by
      have isOf := shape column (List.mem_of_getElem? isColumn)
      obtain ⟨head, rest, rfl⟩ := List.exists_cons_of_ne_nil isOf.nonempty
      rw [columnNames_of_head rfl, isOf.measurand head rfl datum (List.mem_of_getElem? isDatum)]
    have atPlace : (placeNames ctx columns)[ctx.firstPlace + index]? =
        (columns.map (columnNames ctx))[index]? := by
      unfold placeNames SoundingContext.firstPlace
      split
      · rw [List.nil_append, Nat.zero_add]
      · rw [Nat.add_comm]
        rfl
    rw [SoundingContext.cellOf, atPlace, List.getElem?_map, isColumn]
    exact congrArg some ofColumn

/-- The columns are those of the names when the pressure comes with a value. -/
theorem GroupHolds.columns_iff (holds : GroupHolds ctx (first :: columns) group) :
    group.ColumnsOfNames ctx ↔ PressureWithValue ctx (first :: columns) := by
  have shape := holds.shape first List.mem_cons_self
  obtain ⟨datum, others, rfl⟩ := List.exists_cons_of_ne_nil shape.nonempty
  have pressure : pressureNames ctx ((datum :: others) :: columns) = _ := pressureNames_of_head rfl
  constructor
  · rintro ⟨names, listed, placed⟩ asked _ ⟨⟩ _ ⟨⟩
    by_contra notShown
    obtain ⟨qcName, onlyQuality⟩ :=
      columnNames_of_hidden shape.named List.head?_cons (Bool.eq_false_iff.mpr notShown)
    rw [if_neg fun all => notShown all.2] at pressure
    have firstRow := (holds.table.forall_rows.mp placed) 0
      (lt_height_iff.mpr ⟨_, List.mem_cons_self, Nat.succ_pos _⟩)
    rw [(holds.table.row 0).cells] at firstRow
    have pressureCell :
        (0, SoundingCell.pressure datum) ∈ rowCells ctx ((datum :: others) :: columns) 0 := by
      rw [rowCells, pressureCells, if_neg asked]
      exact List.mem_cons_self
    obtain ⟨first, names, rfl⟩ : ∃ first rest, names = first :: rest := by
      cases names with
      | nil => cases firstRow _ pressureCell
      | cons first rest => exact ⟨first, rest, rfl⟩
    cases firstRow _ pressureCell
    rw [holds.names, soundingNames, pressure, List.flatMap_cons, onlyQuality] at listed
    cases listed
  · intro shown
    refine ⟨placeNames ctx ((datum :: others) :: columns), ?_, ?_⟩
    · rw [holds.names, placeNames, List.flatten_append, soundingNames, List.flatMap_def, pressure]
      by_cases asked : ctx.pressureParameterName = []
      · simp [asked]
      · simp [asked, shown asked _ rfl datum rfl]
    · rw [holds.table.forall_rows]
      intro rowNo _ entry member
      rw [(holds.table.row rowNo).cells] at member
      exact placeNames_of_mem holds.shape member

/-! ### The whole answer -/

/-- A sounding has a column. -/
theorem ne_nil_of_mem_soundingColumns {dataContainer : List (SoundingDatum Number)}
    (member : columns ∈ soundingColumns dataContainer) : columns ≠ [] := by
  obtain ⟨sounding, isSounding, rfl⟩ := List.mem_map.mp member
  exact List.splitBy_ne_nil.mpr (List.ne_nil_of_mem_splitBy isSounding)

/-- The columns have all values, in their order. -/
theorem flatMap_soundingColumns (dataContainer : List (SoundingDatum Number)) :
    (soundingColumns dataContainer).flatMap List.flatten = dataContainer := by
  rw [soundingColumns, List.flatMap_map]
  simp only [List.flatten_splitBy]
  rw [List.flatMap_id']
  exact List.flatten_splitBy _ _

/-- The groups have all values. -/
theorem measured_perm {soundings : List (List (List (SoundingDatum Number)))}
    {groups : List (SoundingGroup Number DateTime)}
    (all : List.Forall₂ (GroupHolds ctx) soundings groups) :
    (groups.flatMap fun group => group.obsReturnArray.flatMap SoundingTableRow.measured).Perm
      (soundings.flatMap List.flatten) := by
  induction all with
  | nil => exact .nil
  | cons holds _ ih =>
      rw [List.flatMap_cons, List.flatMap_cons]
      exact holds.table.measured_perm.append ih

/-- The rows are those of the levels when the levels agree and the pressure comes with a value. -/
theorem fillSoundingData_rows_iff [Zero Number] {dataContainer : List (SoundingDatum Number)}
    {groups : List (SoundingGroup Number DateTime)}
    (ran : fillSoundingData ctx dataContainer = .ok groups) :
    RowsOfLevels ctx dataContainer groups ↔ LevelsAgree ctx dataContainer := by
  have all := fillSoundingData_holds ran
  have once := measured_perm all
  rw [flatMap_soundingColumns] at once
  have levels : (∀ group ∈ groups, group.RowsOfOneLevel) ↔
      ∀ columns ∈ soundingColumns dataContainer, LevelsOfFirst columns := by
    refine forall_iff_of_forall₂ all fun columns member group holds => ?_
    obtain ⟨first, rest, rfl⟩ := List.exists_cons_of_ne_nil (ne_nil_of_mem_soundingColumns member)
    exact holds.levels_iff
  have names : (∀ group ∈ groups, group.ColumnsOfNames ctx) ↔
      ∀ columns ∈ soundingColumns dataContainer, PressureWithValue ctx columns := by
    refine forall_iff_of_forall₂ all fun columns member group holds => ?_
    obtain ⟨first, rest, rfl⟩ := List.exists_cons_of_ne_nil (ne_nil_of_mem_soundingColumns member)
    exact holds.columns_iff
  constructor
  · intro rows
    exact ⟨levels.mp rows.levels, names.mp rows.columns⟩
  · intro agree
    exact ⟨levels.mpr agree.levels, once, names.mpr agree.pressure⟩

/-- The temperature and the humidity are asked for, of one sounding. -/
def temperatureAndHumidity : SoundingContext Int Int where
  stationPosition := fun _ => some (60, 25)
  meteoParameterMap :=
    (OrderedMap.empty.set 1 ⟨[116], [], true, false⟩).set 2 ⟨[114, 104], [], true, false⟩
  radioSoundingMap := OrderedMap.empty.set 7 ⟨101104, 0, 0, 0, 1⟩
  epoch := id
  missingValue := [78, 97, 78]
  pressureParameterName := []

/-- A value of a measurand on a level. -/
def valueOnLevel (measurandId levelNo : Int) : SoundingDatum Int :=
  ⟨7, measurandId, levelNo, levelNo, [48], 1000 - levelNo, 0, 0, 0, [49], []⟩

/-- Two quantities at the same two levels. -/
theorem sameLevels_filled : RowsOfLevels temperatureAndHumidity
    [valueOnLevel 1 1, valueOnLevel 1 2, valueOnLevel 2 1, valueOnLevel 2 2]
    [⟨7, ⟨101104, 0, 0, 0, 1⟩, [⟨[116], false⟩, ⟨[114, 104], false⟩],
      [⟨some ⟨valueOnLevel 1 1, 0, (60, 25)⟩,
          (OrderedMap.empty.set 0 (.measured (valueOnLevel 1 1) true false)).set 1
            (.measured (valueOnLevel 2 1) true false)⟩,
        ⟨some ⟨valueOnLevel 1 2, 0, (60, 25)⟩,
          (OrderedMap.empty.set 0 (.measured (valueOnLevel 1 2) true false)).set 1
            (.measured (valueOnLevel 2 2) true false)⟩]⟩] := by
  have cut : soundingColumns [valueOnLevel 1 1, valueOnLevel 1 2, valueOnLevel 2 1,
      valueOnLevel 2 2] =
      [[[valueOnLevel 1 1, valueOnLevel 1 2], [valueOnLevel 2 1, valueOnLevel 2 2]]] := rfl
  refine (fillSoundingData_rows_iff rfl).mpr ⟨?_, ?_⟩
  · rw [cut, List.forall_mem_singleton]
    rintro _ ⟨⟩
    decide
  · intro columns _ asked
    exact absurd rfl asked

/-- The humidity has no value on the first level: it goes to the row of that level. -/
theorem humidityFromSecondLevel_misplaced :
    [valueOnLevel 1 1, valueOnLevel 1 2, valueOnLevel 2 2].Pairwise (fun before after =>
      [before.soundingId, before.measurandId, before.levelNo] ≤
        [after.soundingId, after.measurandId, after.levelNo]) ∧
    ∃ groups, fillSoundingData temperatureAndHumidity
        [valueOnLevel 1 1, valueOnLevel 1 2, valueOnLevel 2 2] = .ok groups ∧
      ¬RowsOfLevels temperatureAndHumidity [valueOnLevel 1 1, valueOnLevel 1 2, valueOnLevel 2 2]
        groups := by
  refine ⟨by decide, _, rfl, fun rows => ?_⟩
  obtain ⟨source, isSource, _, same⟩ := rows.levels _ List.mem_cons_self _ List.mem_cons_self
  cases isSource
  have humidity := (same (1, .measured (valueOnLevel 2 2) true false)
    (List.mem_cons_of_mem _ List.mem_cons_self)).2
  exact absurd humidity (by decide)

end SmartMetWfs.Handlers
