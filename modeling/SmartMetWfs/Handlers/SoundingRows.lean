import SmartMetWfs.Handlers.SoundingTable
import SmartMetWfs.Foundation.SideBySide

/-!
# The rows of a sounding table

The loop of `fill_sounding_data` leaves a group for each sounding, whose table is the
columns of the measurands side by side. From this follows when each row belongs to one
level.
-/

namespace SmartMetWfs.Handlers

open Foundation

variable {Number DateTime : Type} {ctx : SoundingContext Number DateTime}

/-! ### The table of some columns -/

/-- The datum of the first column in a row. -/
def levelDatum (columns : List (List (SoundingDatum Number))) (row : Nat) :
    Option (SoundingDatum Number) :=
  columns.head?.bind fun column => column[row]?

/-- The place of the first measurand. -/
def SoundingContext.firstPlace (ctx : SoundingContext Number DateTime) : Nat :=
  if ctx.pressureParameterName = [] then 0 else 1

/-- The cell of a measurand at its place in a row. -/
def SoundingContext.cellOf (ctx : SoundingContext Number DateTime) (place : Nat)
    (datum : SoundingDatum Number) : Nat × SoundingCell Number :=
  (place, .measured datum (ctx.shows datum.measurandId).1 (ctx.shows datum.measurandId).2)

/-- The cell of the pressure, if it is asked for. -/
def pressureCells (ctx : SoundingContext Number DateTime)
    (columns : List (List (SoundingDatum Number)))
    (row : Nat) : List (Nat × SoundingCell Number) :=
  if ctx.pressureParameterName = [] then []
  else ((levelDatum columns row).map fun datum => (0, .pressure datum)).toList

/-- The cells of the columns that reach the row. -/
def columnCells (ctx : SoundingContext Number DateTime) :
    Nat → List (List (SoundingDatum Number)) → Nat → List (Nat × SoundingCell Number)
  | _, [], _ => []
  | place, column :: columns, row =>
      (column[row]?.map (ctx.cellOf place)).toList ++ columnCells ctx (place + 1) columns row

/-- All cells of a row with their places. -/
def rowCells (ctx : SoundingContext Number DateTime) (columns : List (List (SoundingDatum Number)))
    (row : Nat) : List (Nat × SoundingCell Number) :=
  pressureCells ctx columns row ++ columnCells ctx ctx.firstPlace columns row

/-- The last column has the last cell of the row. -/
theorem columnCells_concat (place : Nat) (columns : List (List (SoundingDatum Number)))
    (column : List (SoundingDatum Number)) (row : Nat) :
    columnCells ctx place (columns ++ [column]) row = columnCells ctx place columns row ++
      (column[row]?.map (ctx.cellOf (place + columns.length))).toList := by
  induction columns generalizing place with
  | nil => simp [columnCells]
  | cons first columns ih =>
      rw [List.cons_append, columnCells, columnCells, ih, List.append_assoc, List.length_cons,
        Nat.add_right_comm, Nat.add_assoc]

/-- The cells of columns stand before the next place. -/
theorem columnCells_below {place : Nat} {columns : List (List (SoundingDatum Number))} {row : Nat}
    {entry : Nat × SoundingCell Number} (member : entry ∈ columnCells ctx place columns row) :
    entry.1 < place + columns.length := by
  induction columns generalizing place with
  | nil => cases member
  | cons column columns ih =>
      rw [List.length_cons]
      rcases List.mem_append.mp member with here | later
      · obtain ⟨datum, _, rfl⟩ := Option.map_eq_some_iff.mp (Option.mem_toList.mp here)
        exact Nat.lt_add_of_pos_right (Nat.succ_pos _)
      · have below := ih later
        omega

/-- The cell of the pressure stands before the columns. -/
theorem pressureCells_below {columns : List (List (SoundingDatum Number))} {row : Nat}
    {entry : Nat × SoundingCell Number} (member : entry ∈ pressureCells ctx columns row) :
    entry.1 < ctx.firstPlace := by
  unfold pressureCells at member
  split at member
  · cases member
  · next asked =>
      obtain ⟨datum, _, rfl⟩ := Option.map_eq_some_iff.mp (Option.mem_toList.mp member)
      rw [SoundingContext.firstPlace, if_neg asked]
      exact Nat.one_pos

/-- All cells stand before the next place. -/
theorem rowCells_below {columns : List (List (SoundingDatum Number))} {row : Nat}
    {entry : Nat × SoundingCell Number} (member : entry ∈ rowCells ctx columns row) :
    entry.1 < ctx.firstPlace + columns.length := by
  rcases List.mem_append.mp member with pressure | measured
  · exact Nat.lt_add_right _ (pressureCells_below pressure)
  · exact columnCells_below measured

/-- A row of the table of some columns. -/
structure RowHolds (ctx : SoundingContext Number DateTime)
    (columns : List (List (SoundingDatum Number)))
    (rowNo : Nat) (row : SoundingTableRow Number) : Prop where
  level : row.level.map LevelSource.datum = levelDatum columns rowNo
  cells : row.data.entries = rowCells ctx columns rowNo

/-- The table of some columns. Behind the last row nothing has been written. -/
structure TableHolds (ctx : SoundingContext Number DateTime)
    (columns : List (List (SoundingDatum Number))) (rows : List (SoundingTableRow Number)) :
      Prop where
  length : rows.length = height columns
  row : ∀ rowNo, RowHolds ctx columns rowNo (rows[rowNo]?.getD emptyRow)

/-- An empty column changes nothing. -/
theorem RowHolds.column {columns : List (List (SoundingDatum Number))} {rowNo : Nat}
    {row : SoundingTableRow Number} (holds : RowHolds ctx columns rowNo row) :
    RowHolds ctx (columns ++ [[]]) rowNo row := by
  have sameLevel : levelDatum (columns ++ [[]]) rowNo = levelDatum columns rowNo := by
    cases columns <;> rfl
  refine ⟨holds.level.trans sameLevel.symm, holds.cells.trans ?_⟩
  unfold rowCells pressureCells
  rw [sameLevel, columnCells_concat]
  exact congrArg _ (List.append_nil _).symm

/-- A new column is empty. -/
theorem TableHolds.column {columns : List (List (SoundingDatum Number))}
    {rows : List (SoundingTableRow Number)} (holds : TableHolds ctx columns rows) :
    TableHolds ctx (columns ++ [[]]) rows where
  length := by
    rw [holds.length, height_append]
    exact (max_eq_left (Nat.zero_le _)).symm
  row := fun rowNo => (holds.row rowNo).column

/-- An empty table holds no columns. -/
theorem TableHolds.nil : TableHolds ctx [] [] where
  length := rfl
  row := fun _ =>
    ⟨rfl, by simp [emptyRow, OrderedMap.empty, rowCells, pressureCells, levelDatum, columnCells]⟩

section

variable {columns : List (List (SoundingDatum Number))} {column : List (SoundingDatum Number)}
  {datum : SoundingDatum Number} {filling : SoundingFilling Number DateTime} {rowNo : Nat}
  {row : SoundingTableRow Number}

/-- A row that the datum is not written to. -/
theorem RowHolds.pass (holds : RowHolds ctx (columns ++ [column]) rowNo row)
    (elsewhere : rowNo ≠ column.length) :
      RowHolds ctx (columns ++ [column ++ [datum]]) rowNo row := by
  have same : (column ++ [datum])[rowNo]? = column[rowNo]? := by
    rw [List.getElem?_append]
    split
    · rfl
    · rw [List.getElem?_eq_none (by simp; omega), List.getElem?_eq_none (by omega)]
  have sameLevel : levelDatum (columns ++ [column ++ [datum]]) rowNo =
      levelDatum (columns ++ [column]) rowNo := by
    cases columns with
    | nil => exact same
    | cons first columns => rfl
  refine ⟨holds.level.trans sameLevel.symm, holds.cells.trans ?_⟩
  unfold rowCells pressureCells
  rw [sameLevel, columnCells_concat, columnCells_concat, same]

/-- The cell of a datum is the last of its row. -/
theorem entries_of_writeDatum {cells : List (Nat × SoundingCell Number)}
    (written : row.data.entries = cells)
    (below : ∀ entry ∈ cells, entry.1 < ctx.firstPlace + columns.length)
    (shown : (filling.showValue, filling.showDataQuality) = ctx.shows datum.measurandId) :
    (row.data.set (ctx.firstPlace + columns.length)
      (.measured datum filling.showValue filling.showDataQuality)).entries =
      cells ++ [ctx.cellOf (ctx.firstPlace + columns.length) datum] := by
  rw [OrderedMap.entries_set_of_greatest (by rwa [written]), written,
    SoundingContext.cellOf, ← shown]

/-- The place of the last column. -/
theorem place_eq (count : filling.paramcount = columns.length + 1) :
    (if ctx.pressureParameterName = [] then filling.paramcount - 1 else filling.paramcount) =
      ctx.firstPlace + columns.length := by
  unfold SoundingContext.firstPlace
  split <;> omega

/-- The row that the datum is written to. -/
theorem RowHolds.write (holds : RowHolds ctx (columns ++ [column]) column.length row)
    (count : filling.paramcount = columns.length + 1)
    (shown : (filling.showValue, filling.showDataQuality) = ctx.shows datum.measurandId) :
    RowHolds ctx (columns ++ [column ++ [datum]]) column.length
      (writeDatum ctx filling datum row) := by
  have atEnd : (column ++ [datum])[column.length]? = some datum := List.getElem?_concat_length
  have noneBefore : column[column.length]? = none := List.getElem?_eq_none (Nat.le_refl _)
  have cellsBefore := holds.cells
  rw [rowCells, columnCells_concat, noneBefore] at cellsBefore
  unfold writeDatum
  rw [place_eq count]
  cases columns with
  | nil =>
      rw [if_pos (show filling.paramcount = 1 from count)]
      refine ⟨atEnd.symm, ?_⟩
      have blank : row.data.entries = [] := by
        rw [cellsBefore, pressureCells]
        simp [levelDatum, columnCells]
      have leveled : (setLevelInfo ctx filling datum row).data.entries =
          pressureCells ctx [column ++ [datum]] column.length := by
        unfold setLevelInfo pressureCells
        by_cases asked : ctx.pressureParameterName = []
        · simp [asked, blank]
        · rw [if_pos asked, if_neg asked, OrderedMap.entries_set_of_greatest (by simp [blank]),
            blank, count]
          simp [levelDatum]
      refine (entries_of_writeDatum leveled (fun entry member => ?_) shown).trans ?_
      · exact pressureCells_below member
      · rw [rowCells, List.nil_append, columnCells, atEnd]
        rfl
  | cons first columns =>
      rw [if_neg (by rw [count, List.length_cons]; omega)]
      refine ⟨holds.level,
        (entries_of_writeDatum cellsBefore (fun entry member => ?_) shown).trans ?_⟩
      · rw [Option.map_none, Option.toList_none, List.append_nil] at member
        exact rowCells_below member
      · rw [rowCells, columnCells_concat, atEnd, Option.map_none, Option.toList_none,
          List.append_nil, List.append_assoc]
        rfl

/-- The row that is written, and the others. -/
theorem getElem?_writeRow {rows : List (SoundingTableRow Number)} {dataId : Nat}
    {write : SoundingTableRow Number → SoundingTableRow Number} :
    (writeRow rows dataId write)[rowNo]?.getD emptyRow =
      if rowNo = dataId then write (rows[dataId]?.getD emptyRow) else rows[rowNo]?.getD
        emptyRow := by
  have grown : ∀ place : Nat,
      (rows ++ List.replicate (dataId + 1 - rows.length) emptyRow)[place]?.getD emptyRow =
      rows[place]?.getD emptyRow := by
    intro place
    rw [List.getElem?_append]
    split
    · rfl
    · rw [List.getElem?_replicate, List.getElem?_eq_none (by omega)]
      split <;> rfl
  rw [writeRow, List.getElem?_modify]
  by_cases here : rowNo = dataId
  · subst here
    have within : rowNo < (rows ++ List.replicate (rowNo + 1 - rows.length) emptyRow).length := by
      rw [List.length_append, List.length_replicate]
      omega
    rw [if_pos rfl, ← grown, List.getElem?_eq_getElem within]
    exact if_pos rfl
  · rw [if_neg here, ← grown]
    simp only [if_neg (Ne.symm here), id_map']

/-- A value that is written is in its row and column. -/
theorem TableHolds.write {rows : List (SoundingTableRow Number)}
    (holds : TableHolds ctx (columns ++ [column]) rows)
    (count : filling.paramcount = columns.length + 1)
    (shown : (filling.showValue, filling.showDataQuality) = ctx.shows datum.measurandId) :
    TableHolds ctx (columns ++ [column ++ [datum]])
      (writeRow rows column.length (writeDatum ctx filling datum)) where
  length := by
    have before := holds.length
    rw [height_append] at before
    rw [writeRow, List.length_modify, List.length_append, List.length_replicate, height_append]
    simp only [height, List.length_append, List.length_singleton] at before ⊢
    omega
  row := fun rowNo => by
    rw [getElem?_writeRow]
    by_cases here : rowNo = column.length
    · rw [if_pos here, here]
      exact (holds.row _).write count shown
    · rw [if_neg here]
      exact (holds.row rowNo).pass here

end

/-! ### The group of a sounding -/

/-- The names of a column. -/
def columnNames (ctx : SoundingContext Number DateTime) (column : List (SoundingDatum Number)) :
    List SoundingParam :=
  match column.head? with
  | some datum => ctx.paramNames datum.measurandId (ctx.shows datum.measurandId)
  | none => []

/-- The name of the pressure is listed if the first measurand shows its value. -/
def pressureNames (ctx : SoundingContext Number DateTime)
    (columns : List (List (SoundingDatum Number))) :
    List SoundingParam :=
  match levelDatum columns 0 with
  | some datum =>
      if ctx.pressureParameterName ≠ [] ∧ (ctx.shows datum.measurandId).1 = true then
        [⟨ctx.pressureParameterName, false⟩]
      else []
  | none => []

/-- The names of the pressure and of the columns. -/
def soundingNames (ctx : SoundingContext Number DateTime)
    (columns : List (List (SoundingDatum Number))) :
    List SoundingParam :=
  pressureNames ctx columns ++ columns.flatMap (columnNames ctx)

/-- A column of a sounding: data of one measurand, something of which is shown. -/
structure ColumnOf (ctx : SoundingContext Number DateTime) (soundingId : Int)
    (column : List (SoundingDatum Number)) : Prop where
  named : columnNames ctx column ≠ []
  sounding : ∀ datum ∈ column, datum.soundingId = soundingId
  measurand : ∀ first ∈ column.head?, ∀ datum ∈ column, datum.measurandId = first.measurandId

/-- What a group holds of its columns. -/
structure GroupHolds (ctx : SoundingContext Number DateTime)
    (columns : List (List (SoundingDatum Number))) (group : SoundingGroup Number DateTime) :
      Prop where
  shape : ∀ column ∈ columns, ColumnOf ctx group.soundingId column
  names : group.obsParamList = soundingNames ctx columns
  table : TableHolds ctx columns group.obsReturnArray

/-- A column has a value. -/
theorem ColumnOf.nonempty {soundingId : Int} {column : List (SoundingDatum Number)}
    (shape : ColumnOf ctx soundingId column) : column ≠ [] := by
  rintro rfl
  exact shape.named rfl

/-- A value of the same quantity belongs to the column. -/
theorem ColumnOf.concat {soundingId : Int} {column : List (SoundingDatum Number)}
    {last datum : SoundingDatum Number} (shape : ColumnOf ctx soundingId column)
    (ends : column.getLast? = some last) (sameSounding : datum.soundingId = soundingId)
    (sameMeasurand : datum.measurandId = last.measurandId) :
      ColumnOf ctx soundingId (column ++ [datum]) := by
  have sameHead : (column ++ [datum]).head? = column.head? :=
    List.head?_append_of_ne_nil _ shape.nonempty
  refine ⟨?_, ?_, ?_⟩
  · unfold columnNames
    rw [sameHead]
    exact shape.named
  · intro other member
    rcases List.mem_append.mp member with before | here
    · exact shape.sounding other before
    · rw [List.mem_singleton.mp here, sameSounding]
  · intro first isFirst other member
    rw [sameHead] at isFirst
    rcases List.mem_append.mp member with before | here
    · exact shape.measurand first isFirst other before
    · rw [List.mem_singleton.mp here, sameMeasurand]
      exact shape.measurand first isFirst last (List.mem_of_getLast? ends)

/-- With a column something is listed. -/
theorem length_soundingNames_ne_zero {columns : List (List (SoundingDatum Number))}
    {column : List (SoundingDatum Number)} (member : column ∈ columns)
    (named : columnNames ctx column ≠ []) : (soundingNames ctx columns).length ≠ 0 := by
  obtain ⟨name, isName⟩ := List.exists_mem_of_ne_nil _ named
  have listed : name ∈ soundingNames ctx columns :=
    List.mem_append_right _ (List.mem_flatMap.mpr ⟨column, member, isName⟩)
  exact (List.length_pos_of_mem listed).ne'

/-- A datum more in the last column leaves the names. -/
theorem soundingNames_concat {columns : List (List (SoundingDatum Number))}
    {column : List (SoundingDatum Number)} (nonempty : column ≠ []) (datum : SoundingDatum Number) :
    soundingNames ctx (columns ++ [column ++ [datum]]) =
      soundingNames ctx (columns ++ [column]) := by
  have sameNames : columnNames ctx (column ++ [datum]) = columnNames ctx column := by
    unfold columnNames
    rw [List.head?_append_of_ne_nil _ nonempty]
  have sameLevel :
      levelDatum (columns ++ [column ++ [datum]]) 0 = levelDatum (columns ++ [column]) 0 := by
    cases columns with
    | nil => exact List.getElem?_append_left (List.length_pos_iff.mpr nonempty)
    | cons first columns => rfl
  unfold soundingNames pressureNames
  rw [sameLevel, List.flatMap_append, List.flatMap_append, List.flatMap_singleton,
    List.flatMap_singleton, sameNames]

/-- `set_group_parameters` lists the names of one measurand more. -/
theorem setGroupParameters_names {columns : List (List (SoundingDatum Number))}
    {datum : SoundingDatum Number} {obsParamList : List SoundingParam}
    {showValue showDataQuality : Bool}
    (named : ∀ column ∈ columns, columnNames ctx column ≠ [])
    (set : ctx.setGroupParameters (soundingNames ctx columns) datum.measurandId =
      .ok (obsParamList, showValue, showDataQuality)) :
    (showValue, showDataQuality) = ctx.shows datum.measurandId ∧
      columnNames ctx [datum] ≠ [] ∧ obsParamList = soundingNames ctx (columns ++ [[datum]]) := by
  unfold SoundingContext.setGroupParameters at set
  split at set
  · cases set
  · next param found =>
      split at set
      · cases set
      · next shown =>
          have shows : ctx.shows datum.measurandId = (param.showValue, param.showDataQuality) := by
            rw [SoundingContext.shows, found]
          have ofColumn : columnNames ctx [datum] =
              (if param.showValue then [⟨param.name, false⟩] else []) ++
                if param.showDataQuality then [⟨param.qcName, true⟩] else [] := by
            simp [columnNames, SoundingContext.paramNames, found, shows]
          cases set
          refine ⟨shows.symm, ?_, ?_⟩
          · rw [ofColumn]
            cases value : param.showValue <;> cases quality : param.showDataQuality <;>
              simp_all
          · cases columns with
            | nil =>
                by_cases value : param.showValue = true <;>
                  simp [soundingNames, pressureNames, levelDatum, ofColumn, shows, value]
            | cons first columns =>
                have lists : (soundingNames ctx (first :: columns)).length ≠ 0 :=
                  length_soundingNames_ne_zero List.mem_cons_self (named first List.mem_cons_self)
                have samePressure : pressureNames ctx (first :: columns ++ [[datum]]) =
                    pressureNames ctx (first :: columns) := rfl
                simp only [lists, false_and, if_false, List.nil_append, List.append_assoc]
                rw [soundingNames, soundingNames, samePressure, List.flatMap_append,
                  List.flatMap_singleton, ofColumn, List.append_assoc]

/-! ### The loop -/

/-- The data so far, cut where the sounding and the measurand change. The last column is that
of the last measurand. -/
def CutInto (dataContainer : List (SoundingDatum Number))
    (finished : List (List (List (SoundingDatum Number))))
    (columns : List (List (SoundingDatum Number)))
    (column : List (SoundingDatum Number)) : Prop :=
  ∃ soundings sounding, dataContainer.splitBy sameSounding = soundings ++ [sounding] ∧
    soundings.map (fun data => data.splitBy sameMeasurand) = finished ∧
    sounding.splitBy sameMeasurand = columns ++ [column]

section

variable {dataContainer : List (SoundingDatum Number)}
  {finished : List (List (List (SoundingDatum Number)))}
  {columns : List (List (SoundingDatum Number))} {column : List (SoundingDatum Number)}
  {last datum : SoundingDatum Number}

/-- The cut gives the columns of each sounding. -/
theorem CutInto.soundingColumns_eq (cut : CutInto dataContainer finished columns column) :
    soundingColumns dataContainer = finished ++ [columns ++ [column]] := by
  obtain ⟨soundings, sounding, cutSoundings, rfl, cutColumns⟩ := cut
  rw [soundingColumns, cutSoundings, List.map_append, List.map_singleton, cutColumns]

/-- The first value is a column by itself. -/
theorem CutInto.first (datum : SoundingDatum Number) : CutInto [datum] [] [] [datum] :=
  ⟨[], [datum], rfl, rfl, rfl⟩

/-- A value of the same sounding and quantity joins the column. -/
theorem CutInto.sameColumn (cut : CutInto dataContainer finished columns column)
    (ends : column.getLast? = some last) (sounding : last.soundingId = datum.soundingId)
    (measurand : last.measurandId = datum.measurandId) :
    CutInto (dataContainer ++ [datum]) finished columns (column ++ [datum]) := by
  obtain ⟨soundings, current, cutSoundings, cutFinished, cutColumns⟩ := cut
  have currentEnds := getLast?_of_splitBy cutColumns ends
  exact ⟨soundings, current ++ [datum],
    splitBy_concat_of_related cutSoundings currentEnds (decide_eq_true sounding), cutFinished,
    splitBy_concat_of_related cutColumns ends (decide_eq_true measurand)⟩

/-- Another quantity begins a column. -/
theorem CutInto.nextColumn (cut : CutInto dataContainer finished columns column)
    (ends : column.getLast? = some last) (sounding : last.soundingId = datum.soundingId)
    (measurand : last.measurandId ≠ datum.measurandId) :
    CutInto (dataContainer ++ [datum]) finished (columns ++ [column]) [datum] := by
  obtain ⟨soundings, current, cutSoundings, cutFinished, cutColumns⟩ := cut
  have currentEnds := getLast?_of_splitBy cutColumns ends
  exact ⟨soundings, current ++ [datum],
    splitBy_concat_of_related cutSoundings currentEnds (decide_eq_true sounding), cutFinished,
    splitBy_concat_of_unrelated cutColumns ends (decide_eq_false measurand)⟩

/-- Another sounding begins with a column of its own. -/
theorem CutInto.nextSounding (cut : CutInto dataContainer finished columns column)
    (ends : column.getLast? = some last) (sounding : last.soundingId ≠ datum.soundingId) :
    CutInto (dataContainer ++ [datum]) (finished ++ [columns ++ [column]]) [] [datum] := by
  obtain ⟨soundings, current, cutSoundings, cutFinished, cutColumns⟩ := cut
  have currentEnds := getLast?_of_splitBy cutColumns ends
  refine ⟨soundings ++ [current], [datum],
    splitBy_concat_of_unrelated cutSoundings currentEnds (decide_eq_false sounding), ?_, rfl⟩
  rw [List.map_append, cutFinished, List.map_singleton, cutColumns]

end

/-- The state of the loop after the data so far. -/
inductive SoundingFilled (ctx : SoundingContext Number DateTime) :
    List (SoundingDatum Number) → SoundingFilling Number DateTime → Prop
  | start {filling : SoundingFilling Number DateTime} (finished : filling.finished = [])
      (group : filling.group = none) : SoundingFilled ctx [] filling
  | within {dataContainer : List (SoundingDatum Number)}
      {finished : List (List (List (SoundingDatum Number)))}
      {columns : List (List (SoundingDatum Number))} {column : List (SoundingDatum Number)}
      {last : SoundingDatum Number} {filling : SoundingFilling Number DateTime}
      {group : SoundingGroup Number DateTime}
      (cut : CutInto dataContainer finished columns column)
      (done : List.Forall₂ (GroupHolds ctx) finished filling.finished)
      (current : filling.group = some group) (holds : GroupHolds ctx (columns ++ [column]) group)
      (ends : column.getLast? = some last)
        (measurand : filling.currentMeasId = some last.measurandId)
      (shown : (filling.showValue, filling.showDataQuality) = ctx.shows last.measurandId)
      (dataId : filling.dataId = column.length) (count : filling.paramcount = columns.length + 1) :
      SoundingFilled ctx dataContainer filling

/-- A column is open for a datum. -/
structure ReadyFor (ctx : SoundingContext Number DateTime) (datum : SoundingDatum Number)
    (columns : List (List (SoundingDatum Number))) (column : List (SoundingDatum Number))
    (filling : SoundingFilling Number DateTime) (group : SoundingGroup Number DateTime) : Prop where
  shape : ∀ other ∈ columns ++ [column ++ [datum]], ColumnOf ctx group.soundingId other
  names : group.obsParamList = soundingNames ctx (columns ++ [column ++ [datum]])
  table : TableHolds ctx (columns ++ [column]) group.obsReturnArray
  measurand : filling.currentMeasId = some datum.measurandId
  shown : (filling.showValue, filling.showDataQuality) = ctx.shows datum.measurandId
  dataId : filling.dataId = column.length
  count : filling.paramcount = columns.length + 1

section

variable {dataContainer : List (SoundingDatum Number)}
  {finished : List (List (List (SoundingDatum Number)))}
  {columns : List (List (SoundingDatum Number))} {column : List (SoundingDatum Number)}
  {last datum : SoundingDatum Number} {filling opened next : SoundingFilling Number DateTime}
  {group current : SoundingGroup Number DateTime}

/-- What is ready for a value is filled with it. -/
theorem ReadyFor.filled (ready : ReadyFor ctx datum columns column filling group)
    (cut : CutInto (dataContainer ++ [datum]) finished columns (column ++ [datum]))
    (done : List.Forall₂ (GroupHolds ctx) finished filling.finished)
    (stored : storeDatum ctx filling group datum = .ok next) :
    SoundingFilled ctx (dataContainer ++ [datum]) next := by
  unfold storeDatum at stored
  split at stored
  · cases stored
  · cases stored
    refine .within cut done rfl ⟨ready.shape, ready.names, ?_⟩ List.getLast?_concat ready.measurand
      ready.shown ?_ ready.count
    · rw [ready.dataId]
      exact ready.table.write ready.count ready.shown
    · rw [List.length_append, ← ready.dataId]
      rfl

/-- A value of the same sounding stays in the group. -/
theorem openGroup_same (current : filling.group = some group)
    (same : group.soundingId = datum.soundingId)
    {result : SoundingFilling Number DateTime × SoundingGroup Number DateTime}
    (ran : openGroup ctx filling datum = .ok result) : result = (filling, group) := by
  unfold openGroup at ran
  split at ran
  · cases ran
  · simp only [current, same, if_true] at ran
    exact (Except.ok.inj ran).symm

/-- A value of another sounding opens a group. -/
theorem openGroup_next (changes : ∀ group ∈ filling.group, group.soundingId ≠ datum.soundingId)
    (ran : openGroup ctx filling datum = .ok (opened, group)) :
    opened.finished = filling.finished ++ filling.group.toList ∧ opened.paramcount = 0 ∧
      group.soundingId = datum.soundingId ∧ group.obsParamList = [] ∧
        group.obsReturnArray = [] := by
  unfold openGroup at ran
  split at ran
  · cases ran
  · cases before : filling.group with
    | none =>
        simp only [before] at ran
        cases ran
        exact ⟨rfl, rfl, rfl, rfl, rfl⟩
    | some other =>
        simp only [before, changes other before, if_false] at ran
        cases ran
        exact ⟨rfl, rfl, rfl, rfl, rfl⟩

/-- A value of the same quantity stays in the column. -/
theorem openColumn_same (named : group.obsParamList.length ≠ 0)
    (same : filling.currentMeasId = some datum.measurandId) :
    openColumn ctx filling group datum = .ok (filling, group) := by
  unfold openColumn
  rw [if_neg (by simp [named, same])]

/-- A value of another quantity opens a column. -/
theorem openColumn_next (shape : ∀ other ∈ columns, ColumnOf ctx current.soundingId other)
    (names : current.obsParamList = soundingNames ctx columns)
    (table : TableHolds ctx columns current.obsReturnArray)
    (same : current.soundingId = datum.soundingId) (count : filling.paramcount = columns.length)
    (changes : current.obsParamList.length = 0 ∨ filling.currentMeasId ≠ some datum.measurandId)
    (ran : openColumn ctx filling current datum = .ok (opened, group)) :
    opened.finished = filling.finished ∧ ReadyFor ctx datum columns [] opened group := by
  unfold openColumn at ran
  rw [if_pos changes, names] at ran
  obtain ⟨⟨obsParamList, showValue, showDataQuality⟩, set, rest⟩ := ok_of_bind ran
  cases rest
  obtain ⟨shown, named, listed⟩ :=
    setGroupParameters_names (fun other member => (shape other member).named) set
  refine ⟨rfl, ⟨fun other member => ?_, listed, table.column, rfl, shown, rfl, ?_⟩⟩
  · rcases List.mem_append.mp member with before | here
    · exact shape other before
    · rw [List.mem_singleton.mp here]
      exact ⟨named, by simp [same], by simp⟩
  · exact congrArg (· + 1) count

/-- The first datum of a sounding. -/
theorem SoundingFilled.nextSounding {finished : List (List (List (SoundingDatum Number)))}
    (cut : CutInto (dataContainer ++ [datum]) finished [] [datum])
    (done : List.Forall₂ (GroupHolds ctx) finished (filling.finished ++ filling.group.toList))
    (changes : ∀ group ∈ filling.group, group.soundingId ≠ datum.soundingId)
    (ran : fillDatum ctx filling datum = .ok next) :
      SoundingFilled ctx (dataContainer ++ [datum]) next := by
  obtain ⟨⟨opened, group⟩, atGroup, ran⟩ := ok_of_bind ran
  obtain ⟨⟨ready, listed⟩, atColumn, stored⟩ := ok_of_bind ran
  obtain ⟨finishedGroups, count, sameSounding, noNames, noRows⟩ := openGroup_next changes atGroup
  have shape : ∀ other ∈ ([] : List (List (SoundingDatum Number))),
      ColumnOf ctx group.soundingId other :=
    nofun
  have table : TableHolds ctx [] group.obsReturnArray := by
    rw [noRows]
    exact .nil
  obtain ⟨sameFinished, isReady⟩ := openColumn_next shape noNames table sameSounding count
    (.inl (congrArg List.length noNames)) atColumn
  refine isReady.filled cut ?_ stored
  rwa [sameFinished, finishedGroups]

/-- One more value keeps everything filled. -/
theorem SoundingFilled.step (filled : SoundingFilled ctx dataContainer filling)
    (ran : fillDatum ctx filling datum = .ok next) :
      SoundingFilled ctx (dataContainer ++ [datum]) next := by
  cases filled with
  | start finished group =>
      refine .nextSounding (.first datum) ?_ (by simp [group]) ran
      rw [finished, group]
      exact .nil
  | @within _ finished columns column last _ group cut done current holds ends measurand shown
    dataId count =>
      have lastShape := holds.shape column (List.mem_append_right _ (List.mem_singleton_self _))
      have lastSounding := lastShape.sounding last (List.mem_of_getLast? ends)
      have named : group.obsParamList.length ≠ 0 := by
        rw [holds.names]
        exact length_soundingNames_ne_zero (List.mem_append_right _ (List.mem_singleton_self _))
          lastShape.named
      by_cases same : group.soundingId = datum.soundingId
      · obtain ⟨_, atGroup, ran⟩ := ok_of_bind ran
        cases openGroup_same current same atGroup
        obtain ⟨⟨opened, listed⟩, atColumn, stored⟩ := ok_of_bind ran
        by_cases sameMeasurand : last.measurandId = datum.measurandId
        · rw [openColumn_same named (by rw [measurand, sameMeasurand])] at atColumn
          cases atColumn
          refine ReadyFor.filled ⟨fun other member => ?_, ?_, holds.table, ?_, ?_, dataId, count⟩
            (cut.sameColumn ends (lastSounding.trans same) sameMeasurand) done stored
          · rcases List.mem_append.mp member with before | here
            · exact holds.shape other (List.mem_append_left _ before)
            · rw [List.mem_singleton.mp here]
              exact lastShape.concat ends same.symm sameMeasurand.symm
          · rw [holds.names, soundingNames_concat lastShape.nonempty]
          · rw [measurand, sameMeasurand]
          · rw [shown, sameMeasurand]
        · obtain ⟨sameFinished, isReady⟩ := openColumn_next holds.shape holds.names holds.table same
            (by rw [count, List.length_append]; rfl)
            (.inr fun isSame => sameMeasurand (Option.some.inj (measurand.symm.trans isSame)))
              atColumn
          refine isReady.filled (cut.nextColumn ends (lastSounding.trans same) sameMeasurand)
            ?_ stored
          rwa [sameFinished]
      · refine .nextSounding (cut.nextSounding ends (by rwa [lastSounding])) ?_ ?_ ran
        · rw [current]
          exact List.rel_append done (.cons holds .nil)
        · intro other isCurrent
          rw [current] at isCurrent
          cases isCurrent
          exact same

/-- The groups of the answer are the tables of the soundings. -/
theorem fillSoundingData_holds [Zero Number] {groups : List (SoundingGroup Number DateTime)}
    (ran : fillSoundingData ctx dataContainer = .ok groups) :
    List.Forall₂ (GroupHolds ctx) (soundingColumns dataContainer) groups := by
  obtain ⟨filling, looped, result⟩ := ok_of_bind ran
  cases result
  have meets : Meets (fun _ => True)
      (dataContainer.foldlM (fillDatum ctx) ⟨[], none, none, 0, 0, false, false, 0, (0, 0)⟩)
      (SoundingFilled ctx dataContainer) := by
    refine Meets.foldlM (SoundingFilled ctx) dataContainer
      (.start rfl rfl) fun done datum _ state _ filled => ?_
    cases stepped : fillDatum ctx state datum with
    | error failure => exact Meets.error trivial
    | ok next => exact filled.step stepped
  have filled := meets.of_ok looped
  cases filled with
  | start finished group =>
      rw [finished, group]
      exact .nil
  | within cut done current holds =>
      rw [cut.soundingColumns_eq, current]
      exact List.rel_append done (.cons holds .nil)

end

end SmartMetWfs.Handlers
