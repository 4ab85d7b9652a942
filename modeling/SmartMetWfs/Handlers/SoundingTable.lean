import SmartMetWfs.Handlers.SoundingSelection
import SmartMetWfs.Foundation.Outcomes
import SmartMetWfs.Core.ByteString
import Mathlib.Data.List.SplitBy

/-!
# The table of a sounding

The data of the soundings come as one list, ordered by sounding, measurand and level.
`fill_sounding_data` turns it into a table for each sounding: it opens a new table where the
sounding changes and a new column where the measurand changes, and goes down the rows from
the first one in each column. The level is written to a row along with the first column.
-/

namespace SmartMetWfs.Handlers

open Foundation

/-- A row of the data container. The texts are what `toString` makes of the values. -/
structure SoundingDatum (Number : Type) where
  soundingId : Int
  measurandId : Int
  levelNo : Int
  levelTime : Int
  altitude : ByteString
  pressure : Number
  latitude : Number
  longitude : Number
  significance : Nat
  dataValue : ByteString
  dataQuality : ByteString

/-- An item of `MeteoParameterMap`. -/
structure MeteoParameter where
  name : ByteString
  qcName : ByteString
  showValue : Bool
  showDataQuality : Bool

/-- `SoundingContext`. The epoch of a sounding is that of its message time. -/
structure SoundingContext (Number DateTime : Type) where
  stationPosition : Int → Option (Number × Number)
  meteoParameterMap : OrderedMap Int MeteoParameter
  radioSoundingMap : RadioSoundingMap DateTime
  epoch : DateTime → Int
  missingValue : ByteString
  pressureParameterName : ByteString

/-- What the level of a row has been written from. -/
structure LevelSource (Number : Type) where
  datum : SoundingDatum Number
  sEpoch : Int
  stationPosition : Number × Number

/-- What a cell of a row has been written from. -/
inductive SoundingCell (Number : Type)
  | pressure (datum : SoundingDatum Number)
  | measured (datum : SoundingDatum Number) (showValue showDataQuality : Bool)

/-- A row of `obsReturnArray`. -/
structure SoundingTableRow (Number : Type) where
  level : Option (LevelSource Number)
  data : OrderedMap Nat (SoundingCell Number)

/-- An item of `obsParamList`. -/
structure SoundingParam where
  name : ByteString
  isQCParameter : Bool
  deriving DecidableEq

/-- A group of the answer: a sounding, the names of its columns and its rows. -/
structure SoundingGroup (Number DateTime : Type) where
  soundingId : Int
  sounding : RadioSounding DateTime
  obsParamList : List SoundingParam
  obsReturnArray : List (SoundingTableRow Number)

/-- Why the table cannot be filled. -/
inductive SoundingFailure
  | unknownSounding (soundingId : Int)
  | unknownParameter (measurandId : Int)
  | nothingToShow (measurandId : Int)
  | invalidParameterCount
  deriving DecidableEq

/-- The variables of `fill_sounding_data`: the groups before the current one, and the current
group once there is one. -/
structure SoundingFilling (Number DateTime : Type) where
  finished : List (SoundingGroup Number DateTime)
  group : Option (SoundingGroup Number DateTime)
  currentMeasId : Option Int
  dataId : Nat
  paramcount : Nat
  showValue : Bool
  showDataQuality : Bool
  sEpoch : Int
  stationPosition : Number × Number

/-- The value that a cell was made of. -/
def SoundingCell.datum {Number : Type} : SoundingCell Number → SoundingDatum Number
  | .pressure datum => datum
  | .measured datum _ _ => datum

/-! ### The loop -/

section

variable {Number DateTime : Type}

/-- `set_group_parameters`: the names of a measurand are added to the list. Before the first
value the name of the pressure is. -/
def SoundingContext.setGroupParameters (ctx : SoundingContext Number DateTime)
    (obsParamList : List SoundingParam)
    (measurandId : Int) : Except SoundingFailure (List SoundingParam × Bool × Bool) :=
  match ctx.meteoParameterMap.find measurandId with
  | none => .error (.unknownParameter measurandId)
  | some param =>
      if !param.showValue && !param.showDataQuality then .error (.nothingToShow measurandId)
      else
        let pressure : List SoundingParam :=
          if obsParamList.length = 0 ∧ ctx.pressureParameterName ≠ [] then
            [⟨ctx.pressureParameterName, false⟩]
          else []
        let value : List SoundingParam :=
          if param.showValue then pressure ++ [⟨param.name, false⟩] else []
        let quality : List SoundingParam :=
          if param.showDataQuality then [⟨param.qcName, true⟩] else []
        .ok (obsParamList ++ value ++ quality, param.showValue, param.showDataQuality)

/-- A row that nothing has been written to. -/
def emptyRow : SoundingTableRow Number := ⟨none, .empty⟩

/-- Write to a row of `obsReturnArray`, which grows as far as needed. -/
def writeRow (rows : List (SoundingTableRow Number)) (dataId : Nat)
    (write : SoundingTableRow Number → SoundingTableRow Number) : List (SoundingTableRow Number) :=
  (rows ++ List.replicate (dataId + 1 - rows.length) emptyRow).modify dataId write

/-- `set_level_info` -/
def setLevelInfo (ctx : SoundingContext Number DateTime) (filling : SoundingFilling Number DateTime)
    (datum : SoundingDatum Number) (row : SoundingTableRow Number) : SoundingTableRow Number where
  level := some ⟨datum, filling.sEpoch, filling.stationPosition⟩
  data :=
    if ctx.pressureParameterName ≠ [] then row.data.set (filling.paramcount - 1) (.pressure datum)
    else row.data

/-- What is written to the row of a datum. -/
def writeDatum (ctx : SoundingContext Number DateTime) (filling : SoundingFilling Number DateTime)
    (datum : SoundingDatum Number) (row : SoundingTableRow Number) : SoundingTableRow Number :=
  let row := if filling.paramcount = 1 then setLevelInfo ctx filling datum row else row
  let column :=
    if ctx.pressureParameterName = [] then filling.paramcount - 1 else filling.paramcount
  { row with
    data := row.data.set column (.measured datum filling.showValue filling.showDataQuality) }

/-- A group is opened if the sounding changes. -/
def openGroup (ctx : SoundingContext Number DateTime) (filling : SoundingFilling Number DateTime)
    (datum : SoundingDatum Number) :
    Except SoundingFailure (SoundingFilling Number DateTime × SoundingGroup Number DateTime) :=
  match ctx.radioSoundingMap.find datum.soundingId with
  | none => .error (.unknownSounding datum.soundingId)
  | some sounding =>
      let opened : SoundingFilling Number DateTime × SoundingGroup Number DateTime :=
        ({ filling with
            finished := filling.finished ++ filling.group.toList
            dataId := 0
            paramcount := 0
            sEpoch := ctx.epoch sounding.messageTime
            stationPosition :=
              (ctx.stationPosition sounding.stationId).getD filling.stationPosition },
          ⟨datum.soundingId, sounding, [], []⟩)
      match filling.group with
      | none => .ok opened
      | some group => if group.soundingId =
        datum.soundingId then .ok (filling, group) else .ok opened

/-- A column is opened if the measurand changes, and in a new group. -/
def openColumn (ctx : SoundingContext Number DateTime) (filling : SoundingFilling Number DateTime)
    (group : SoundingGroup Number DateTime) (datum : SoundingDatum Number) :
    Except SoundingFailure (SoundingFilling Number DateTime × SoundingGroup Number DateTime) :=
  if group.obsParamList.length = 0 ∨ filling.currentMeasId ≠ some datum.measurandId then do
    let (obsParamList, showValue, showDataQuality) ←
      ctx.setGroupParameters group.obsParamList datum.measurandId
    .ok
      ({ filling with
          currentMeasId := some datum.measurandId
          showValue := showValue
          showDataQuality := showDataQuality
          dataId := 0
          paramcount := filling.paramcount + 1 },
        { group with obsParamList := obsParamList })
  else .ok (filling, group)

/-- A datum is written to its row. -/
def storeDatum (ctx : SoundingContext Number DateTime) (filling : SoundingFilling Number DateTime)
    (group : SoundingGroup Number DateTime) (datum : SoundingDatum Number) :
    Except SoundingFailure (SoundingFilling Number DateTime) :=
  if filling.paramcount < 1 then .error .invalidParameterCount
  else .ok
    { filling with
      group := some { group with
        obsReturnArray :=
          writeRow group.obsReturnArray filling.dataId (writeDatum ctx filling datum) }
      dataId := filling.dataId + 1 }

/-- The body of the loop of `fill_sounding_data`. -/
def fillDatum (ctx : SoundingContext Number DateTime) (filling : SoundingFilling Number DateTime)
    (datum : SoundingDatum Number) : Except SoundingFailure (SoundingFilling Number DateTime) := do
  let (filling, group) ← openGroup ctx filling datum
  let (filling, group) ← openColumn ctx filling group datum
  storeDatum ctx filling group datum

/-- `fill_sounding_data`: the groups of the answer. The position is the origin at first. -/
def fillSoundingData [Zero Number] (ctx : SoundingContext Number DateTime)
    (dataContainer : List (SoundingDatum Number)) :
    Except SoundingFailure (List (SoundingGroup Number DateTime)) := do
  let filling ← dataContainer.foldlM (fillDatum ctx) ⟨[], none, none, 0, 0, false, false, 0, (0, 0)⟩
  .ok (filling.finished ++ filling.group.toList)

/-! ### What is asked for -/

/-- What is shown of a measurand: its value, its quality. -/
def SoundingContext.shows (ctx : SoundingContext Number DateTime) (measurandId : Int) :
    Bool × Bool :=
  match ctx.meteoParameterMap.find measurandId with
  | some param => (param.showValue, param.showDataQuality)
  | none => (false, false)

/-- The names of a measurand that is shown so. -/
def SoundingContext.paramNames (ctx : SoundingContext Number DateTime) (measurandId : Int)
    (shows : Bool × Bool) : List SoundingParam :=
  match ctx.meteoParameterMap.find measurandId with
  | some param => (if shows.1 then [⟨param.name, false⟩] else []) ++
      if shows.2 then [⟨param.qcName, true⟩] else []
  | none => []

/-- The names under which a cell is to be listed. -/
def SoundingCell.names (ctx : SoundingContext Number DateTime) :
    SoundingCell Number → List SoundingParam
  | .pressure _ => [⟨ctx.pressureParameterName, false⟩]
  | .measured datum showValue showDataQuality =>
      ctx.paramNames datum.measurandId (showValue, showDataQuality)

/-- The value of a cell, if it was measured. -/
def SoundingCell.measuredDatum : SoundingCell Number → Option (SoundingDatum Number)
  | .pressure _ => none
  | .measured datum _ _ => some datum

/-- The data that the cells of a row have been written from, except for the pressure. -/
def SoundingTableRow.measured (row : SoundingTableRow Number) : List (SoundingDatum Number) :=
  row.data.entries.filterMap fun entry => entry.2.measuredDatum

/-- Each row has a level of the sounding, and its cells are of this level. -/
def SoundingGroup.RowsOfOneLevel (group : SoundingGroup Number DateTime) : Prop :=
  ∀ row ∈ group.obsReturnArray, ∃ source, row.level = some source ∧
    source.datum.soundingId = group.soundingId ∧ ∀ entry ∈ row.data.entries,
      entry.2.datum.soundingId = group.soundingId ∧ entry.2.datum.levelNo = source.datum.levelNo

/-- The list of names is made of those of the columns: the cells of a column are listed under
the names at its place. -/
def SoundingGroup.ColumnsOfNames (ctx : SoundingContext Number DateTime)
    (group : SoundingGroup Number DateTime) : Prop :=
  ∃ columns : List (List SoundingParam), group.obsParamList = columns.flatten ∧
    ∀ row ∈ group.obsReturnArray, ∀ entry ∈ row.data.entries,
      columns[entry.1]? = some (entry.2.names ctx)

/-- The rows belong to one level, each datum is in one row, and in the column of its names. -/
structure RowsOfLevels (ctx : SoundingContext Number DateTime)
    (dataContainer : List (SoundingDatum Number)) (groups : List (SoundingGroup Number DateTime)) :
    Prop where
  levels : ∀ group ∈ groups, group.RowsOfOneLevel
  once : (groups.flatMap fun group =>
    group.obsReturnArray.flatMap SoundingTableRow.measured).Perm dataContainer
  columns : ∀ group ∈ groups, group.ColumnsOfNames ctx

/-- Whether two values are of one sounding. -/
def sameSounding (first second : SoundingDatum Number) : Bool :=
  first.soundingId = second.soundingId

/-- Whether two values are of one quantity. -/
def sameMeasurand (first second : SoundingDatum Number) : Bool :=
  first.measurandId = second.measurandId

/-- The data of each sounding, cut where the measurand changes. -/
def soundingColumns (dataContainer : List (SoundingDatum Number)) :
    List (List (List (SoundingDatum Number))) :=
  (dataContainer.splitBy sameSounding).map fun sounding => sounding.splitBy sameMeasurand

/-- The levels of every measurand begin those of the first one. -/
def LevelsOfFirst (columns : List (List (SoundingDatum Number))) : Prop :=
  ∀ first ∈ columns.head?, ∀ column ∈ columns,
    column.map SoundingDatum.levelNo <+: first.map SoundingDatum.levelNo

/-- If the pressure is asked for, the first measurand shows its value. -/
def PressureWithValue (ctx : SoundingContext Number DateTime)
    (columns : List (List (SoundingDatum Number))) : Prop :=
  ctx.pressureParameterName ≠ [] → ∀ first ∈ columns.head?, ∀ datum ∈ first.head?,
    (ctx.shows datum.measurandId).1 = true

/-- The levels of a sounding are those of its first column. -/
structure LevelsAgree (ctx : SoundingContext Number DateTime)
    (dataContainer : List (SoundingDatum Number)) : Prop where
  levels : ∀ columns ∈ soundingColumns dataContainer, LevelsOfFirst columns
  pressure : ∀ columns ∈ soundingColumns dataContainer, PressureWithValue ctx columns

end

end SmartMetWfs.Handlers
