import Mathlib.Data.List.Sort
import Mathlib.Data.Prod.Lex
import SmartMetWfs.Foundation.Stretches
import SmartMetWfs.Handlers.MastGroups
import SmartMetWfs.Handlers.ObservationParameters

/-!
# What the groups of a mast query hold

The data container of a mast query is ordered by station, time, measurand and level, and
`fill_mast_data` starts a group where one of the first three changes. The rows of a group
are then those of its station, time and measurand. Whether their values and quality codes
are shown is noted when a group of a requested measurand is started. A group of another
measurand leaves the note of the group before it.

The texts of numbers and times, and the transformation of coordinates, are left open.
-/

namespace SmartMetWfs.Handlers

open Foundation

/-! ### The requested parameters -/

/-- Why the parameters are refused. -/
inductive MastParameterError
  | noParameter
  | qualityCodeNotAllowed (name : ByteString)
  | unknownParameter (name : ByteString)
  | alreadyGiven (name errParamName : ByteString)

/-- What the configuration and the observation engine know about the names of parameters. -/
structure MastNames where
  supportQCParameters : Bool
  /-- `obs_engine->getParameterId`, for the station type of the query. -/
  getParameterId : ByteString → UInt64

/-- The first quality code among the names. -/
def firstQCParameter (names : List ByteString) : Option ByteString := names.find? isQCParameter

/-- `check_duplicate_meteo_parameter`. -/
def MastParameter.checkDuplicate (item : MastParameter) (name : ByteString) (isQCParameter : Bool) :
    Except MastParameterError Unit :=
  if (item.showValue && !isQCParameter) || (item.showQualityCode && isQCParameter) then
    throw (.alreadyGiven name (if isQCParameter then item.paramQCName else item.paramName))
  else pure ()

/-- `update_meteo_parameter`. -/
def MastParameter.update (item : MastParameter) (name : ByteString) (isQCParameter : Bool) :
    MastParameter :=
  if isQCParameter then { item with paramQCName := name, showQualityCode := true }
  else { item with paramName := name, showValue := true }

/-- A parameter that was named once. -/
def MastParameter.initial (paramId : UInt64) (name : ByteString) (isQCParameter : Bool) :
    MastParameter where
  paramId := paramId
  paramName := if isQCParameter then [] else name
  paramQCName := if isQCParameter then name else []
  showValue := !isQCParameter
  showQualityCode := isQCParameter

/-- No parameter was named. -/
def MastParameterMap.empty : MastParameterMap := ⟨.empty, List.forall_mem_nil _⟩

/-- A parameter under its own identifier. -/
def MastParameterMap.set (item : MastParameter) (parameters : MastParameterMap) :
    MastParameterMap where
  map := parameters.map.set (decimal item.paramId.toNat) item
  keyed entry member := by
    rcases OrderedMap.mem_set.mp member with rfl | old
    · rfl
    · exact parameters.keyed entry old.1

/-- One round of the loop over the requested names. -/
def requestParameter (names : MastNames) (parameters : MastParameterMap) (name : ByteString) :
    Except MastParameterError MastParameterMap :=
  let paramId := names.getParameterId name
  if paramId = 0 then throw (.unknownParameter name)
  else
    let isQC := isQCParameter name
    match parameters.map.find (decimal paramId.toNat) with
    | some item => do
        item.checkDuplicate name isQC
        pure (parameters.set (item.update name isQC))
    | none => pure (parameters.set (.initial paramId name isQC))

/-- `get_meteo_parameters`, of the names in the request. -/
def getMeteoParameters (names : MastNames) (paramNames : List ByteString) :
    Except MastParameterError MastParameterMap :=
  if paramNames = [] then throw .noParameter
  else
    match firstQCParameter paramNames, names.supportQCParameters with
    | some name, false => throw (.qualityCodeNotAllowed name)
    | _, _ => paramNames.foldlM (requestParameter names) .empty

/-- Values or quality codes are shown of every parameter. -/
def MastParameterMap.Shows (parameters : MastParameterMap) : Prop :=
  ∀ entry ∈ parameters.map.entries, entry.2.showValue = true ∨ entry.2.showQualityCode = true

/-- A parameter that shows something keeps all showing. -/
theorem MastParameterMap.Shows.set {parameters : MastParameterMap} (showing : parameters.Shows)
    {item : MastParameter} (own : item.showValue = true ∨ item.showQualityCode = true) :
    (parameters.set item).Shows := by
  intro entry member
  rcases OrderedMap.mem_set.mp member with rfl | old
  · exact own
  · exact showing entry old.1

/-- A name that is requested keeps all showing. -/
theorem requestParameter_shows {names : MastNames} {parameters after : MastParameterMap}
    {name : ByteString} (showing : parameters.Shows)
    (ran : requestParameter names parameters name = .ok after) : after.Shows := by
  unfold requestParameter at ran
  dsimp only at ran
  split at ran
  · cases ran
  · split at ran
    · next item found =>
        obtain ⟨_, _, stored⟩ := ok_of_bind ran
        cases stored
        apply showing.set
        rcases showing _ (OrderedMap.find_eq_some.mp found) with value | quality
        · cases isQCParameter name
          · exact .inl rfl
          · exact .inr rfl
        · cases isQCParameter name
          · exact .inl rfl
          · exact .inr rfl
    · cases ran
      apply showing.set
      cases isQCParameter name
      · exact .inl rfl
      · exact .inr rfl

/-- Every parameter that was requested shows something. -/
theorem getMeteoParameters_shows {names : MastNames} {paramNames : List ByteString}
    {parameters : MastParameterMap}
    (requested : getMeteoParameters names paramNames = .ok parameters) : parameters.Shows := by
  have loop : ∀ (paramNames : List ByteString) (before : MastParameterMap), before.Shows →
      paramNames.foldlM (requestParameter names) before = .ok parameters → parameters.Shows := by
    intro paramNames
    induction paramNames with
    | nil =>
        intro before showing ran
        cases ran
        exact showing
    | cons name paramNames ih =>
        intro before showing ran
        rw [List.foldlM_cons] at ran
        obtain ⟨middle, stepped, rest⟩ := ok_of_bind ran
        exact ih middle (requestParameter_shows showing stepped) rest
  have none : MastParameterMap.empty.Shows := List.forall_mem_nil _
  unfold getMeteoParameters at requested
  split at requested
  · cases requested
  · split at requested
    · cases requested
    · exact loop paramNames .empty none requested

/-! ### The data container and the loop -/

/-- What a row belongs to. -/
structure MastKey (τ : Type) where
  stationId : Nat
  dataTime : τ
  measurandId : Nat

variable {τ H : Type}

/-- The order of the data query: by station, by time and by measurand. -/
def MastKey.lex (key : MastKey τ) : Nat ×ₗ τ ×ₗ Nat :=
  toLex (key.stationId, toLex (key.dataTime, key.measurandId))

/-- A key is known by its place in the order. -/
theorem MastKey.lex_injective :
    Function.Injective (MastKey.lex : MastKey τ → Nat ×ₗ τ ×ₗ Nat) := by
  rintro ⟨stationId, dataTime, measurandId⟩ ⟨stationId', dataTime', measurandId'⟩ same
  obtain ⟨rfl, rest⟩ := Prod.mk.inj (toLex.injective same)
  obtain ⟨rfl, rfl⟩ := Prod.mk.inj (toLex.injective rest)
  rfl

instance MastKey.instLinearOrder [LinearOrder τ] : LinearOrder (MastKey τ) :=
  LinearOrder.lift' MastKey.lex MastKey.lex_injective

/-- A row of the data container, with the texts of its value and of its quality code. -/
structure MastRecord (τ H : Type) extends MastKey τ where
  dataLevel : H
  dataValue : ByteString
  dataQuality : ByteString

/-- The rows as `addOrderBy` orders them. -/
structure MastContainer (τ H : Type) [LinearOrder τ] [LE H] where
  records : List (MastRecord τ H)
  ordered : records.Pairwise fun first second => first.toMastKey < second.toMastKey ∨
    (first.toMastKey = second.toMastKey ∧ first.dataLevel ≤ second.dataLevel)

/-- A station, with its formal name in the language of the query. -/
structure MastStation (H : Type) where
  fmisid : Nat
  geoid : Int
  wmo : Int
  name : ByteString
  region : ByteString
  latitude : H
  longitude : H
  elevation : H

/-- What is known for formatting the result, with the conversions of numbers and times. -/
structure MastContext (τ H : Type) where
  stations : List (MastStation H)
  names : MastNames
  paramNames : List ByteString
  parameters : MastParameterMap
  requested : getMeteoParameters names paramNames = .ok parameters
  transformation : H → H → Option (ByteString × ByteString)
  showHeight : Bool
  /-- The number `0.0`. -/
  zero : H
  /-- `toString` of a time. -/
  timeText : τ → ByteString
  timeText_injective : Function.Injective timeText
  /-- `toString` of a level, with one decimal. -/
  levelText : H → ByteString
  /-- `std::to_string` of a floating point number. -/
  doubleText : H → ByteString
  /-- `std::to_string` of the whole part of a number. -/
  wholeText : H → ByteString
  stod : ByteString → Option H
  /-- `std::stod` throws if no number can be read. -/
  stod_empty : stod [] = none

/-- What a group says about its station besides the identifier. -/
structure StationInfo where
  geoid : Option ByteString
  wmo : Option ByteString
  name : Option ByteString
  region : Option ByteString
  coordinates : ByteString × ByteString
  elevation : ByteString
  height : Option ByteString

/-- A text that is written unless it is empty or one of these. -/
def unlessIn (excluded : List ByteString) (text : ByteString) : Option ByteString :=
  if text = [] ∨ text ∈ excluded then none else some text

/-- Whether values and quality codes are shown. -/
structure Shown where
  showValue : Bool
  showDataQuality : Bool
  deriving DecidableEq

/-- Nothing is shown. -/
def Shown.nothing : Shown := ⟨false, false⟩

/-- The local variables of `fill_mast_data` with the height of the station and the top
heights of the groups. -/
structure MastLoop (H : Type) where
  state : MastState StationInfo
  bottomHeight : H
  topHeights : OrderedMap Nat ByteString

/-- A new station, measurand or time. -/
def MastState.StartsGroup {σ : Type} (state : MastState σ) (row : MastRow) : Prop :=
  state.currentFmisid ≠ row.stationId ∨ state.currentMeasurandId ≠ row.measurandId ∨
    state.currentDataTime ≠ row.dataTime

instance MastState.instDecidableStartsGroup {σ : Type} (state : MastState σ) (row : MastRow) :
    Decidable (state.StartsGroup row) :=
  inferInstanceAs (Decidable (_ ∨ _ ∨ _))

namespace MastContext

variable (ctx : MastContext τ H)

/-- The last station with this identifier, as the loop over all stations finds it. -/
def station (fmisid : ByteString) : Option (MastStation H) :=
  (ctx.stations.filter fun station => decimal station.fmisid = fmisid).getLast?

/-- `set_2D_coord` of two texts. -/
def set2DCoord (sx sy : ByteString) : Option (ByteString × ByteString) := do
  let x ← ctx.stod sx
  let y ← ctx.stod sy
  ctx.transformation x y

/-- `set_station_info`, which fails where `set_2D_coord` throws. The texts of a station that
is not found are empty. -/
def setStationInfo (fmisid : ByteString) : Option StationInfo :=
  let text (read : MastStation H → ByteString) : ByteString := (ctx.station fmisid).elim [] read
  let elevation := text fun station => ctx.wholeText station.elevation
  (ctx.set2DCoord (text fun station => ctx.doubleText station.latitude)
      (text fun station => ctx.doubleText station.longitude)).map fun coordinates =>
    { geoid := unlessIn [ascii "0"] (text fun station => intDecimal station.geoid)
      wmo := unlessIn [ascii "0", ascii "NaN"] (text fun station => intDecimal station.wmo)
      name := unlessIn [] (text MastStation.name)
      region := unlessIn [] (text MastStation.region)
      coordinates
      elevation
      height := if ctx.showHeight then some elevation else none }

/-- The height that `set_station_info` leaves. -/
def setBottomHeight (fmisid : ByteString) (bottomHeight : H) : H :=
  (ctx.station fmisid).elim bottomHeight MastStation.elevation

/-- The texts of a row. -/
def row (record : MastRecord τ H) : MastRow where
  stationId := decimal record.stationId
  measurandId := decimal record.measurandId
  dataTime := ctx.timeText record.dataTime
  dataLevel := ctx.levelText record.dataLevel
  dataValue := record.dataValue
  dataQuality := record.dataQuality

/-- One round of the loop over the rows. -/
def fillRecord [Add H] (loop : MastLoop H) (record : MastRecord τ H) :
    Except MastError (MastLoop H) :=
  let row := ctx.row record
  let bottomHeight := if loop.state.StartsGroup row
    then ctx.setBottomHeight row.stationId loop.bottomHeight else loop.bottomHeight
  (fillMastRow ctx.parameters ctx.setStationInfo loop.state row).map fun state =>
    { state
      bottomHeight
      topHeights := loop.topHeights.set state.groupId
        (ctx.wholeText (bottomHeight + record.dataLevel)) }

/-- `fill_mast_data` with the heights. -/
def fillRecords [Add H] (featureId : FeatureID) (records : List (MastRecord τ H)) :
    Except MastError (MastLoop H) :=
  records.foldlM ctx.fillRecord ⟨.start featureId, ctx.zero, .empty⟩

end MastContext

/-! ### What the groups should hold -/

/-- A group of the result but for its identifier. -/
structure MastContent where
  station : Option (ByteString × StationInfo)
  phenomenonTime : Option ByteString
  resultTime : Option ByteString
  obsParamList : List ObsParam
  data : List MastData
  topHeight : Option ByteString

/-- What is written of a group. -/
def MastGroup.content (group : MastGroup StationInfo) (topHeight : Option ByteString) :
    MastContent where
  station := group.station
  phenomenonTime := group.phenomenonTime
  resultTime := group.resultTime
  obsParamList := group.obsParamList
  data := group.data.entries.map Prod.snd
  topHeight := topHeight

/-- The groups in the order of their numbers. -/
def MastLoop.contents (loop : MastLoop H) : List MastContent :=
  loop.state.groups.entries.map fun entry => entry.2.content (loop.topHeights.find entry.1)

namespace MastContext

variable (ctx : MastContext τ H)

/-- The values of a record that are shown. -/
def data (shown : Shown) (record : MastRecord τ H) : MastData where
  time := ctx.timeText record.dataTime
  level := ctx.levelText record.dataLevel
  value := if shown.showValue then some record.dataValue else none
  quality := if shown.showDataQuality then some record.dataQuality else none

/-- The group of a station, a time and a measurand with these rows. -/
def content [Add H] (shown : Shown) (key : MastKey τ) (records : List (MastRecord τ H)) :
    MastContent where
  station := (ctx.setStationInfo (decimal key.stationId)).map (decimal key.stationId, ·)
  phenomenonTime := some (ctx.timeText key.dataTime)
  resultTime := some (ctx.timeText key.dataTime)
  obsParamList :=
    (ctx.parameters.map.find (decimal key.measurandId)).elim [] MastParameter.obsParams
  data := records.map (ctx.data shown)
  topHeight := do
    let station ← ctx.station (decimal key.stationId)
    let top ← records.getLast?
    pure (ctx.wholeText (station.elevation + top.dataLevel))

/-- What is noted when a group is started. -/
def note (shown : Shown) (key : MastKey τ) : Shown :=
  (ctx.parameters.map.find (decimal key.measurandId)).elim shown fun param =>
    ⟨param.showValue, param.showQualityCode⟩

/-- What a group alone shows: nothing if its measurand was not requested. -/
def ownContent [Add H] (key : MastKey τ) (records : List (MastRecord τ H)) : MastContent :=
  ctx.content (ctx.note .nothing key) key records

/-- There is one group for every station, time and measurand, in order. It holds their rows
by level and depends on nothing else. -/
structure Partition [LinearOrder τ] [LE H] [Add H] (container : MastContainer τ H)
    (featureId : FeatureID) (keys : List (MastKey τ)) (final : MastLoop H) : Prop where
  filled : ctx.fillRecords featureId container.records = .ok final
  increasing : keys.Pairwise (· < ·)
  mem_keys : ∀ key, key ∈ keys ↔ ∃ record ∈ container.records, record.toMastKey = key
  numberMatched : final.state.numberMatched = keys.length
  contents : final.contents = keys.map fun key =>
    ctx.ownContent key (container.records.filter fun record => record.toMastKey = key)
  byLevel : ∀ key, (container.records.filter fun record => record.toMastKey = key).Pairwise
    fun lower upper => lower.dataLevel ≤ upper.dataLevel

/-- The station is among the known ones and its coordinates can be converted. -/
def KnowsStation (key : MastKey τ) : Prop :=
  ∃ station, ctx.station (decimal key.stationId) = some station ∧
    (ctx.set2DCoord (ctx.doubleText station.latitude) (ctx.doubleText station.longitude)).isSome

/-- The quantity of the key was requested. -/
def Requests (key : MastKey τ) : Prop :=
  (ctx.parameters.map.find (decimal key.measurandId)).isSome

end MastContext

/-! ### One group -/

/-- What the loop shows at the moment. -/
def MastState.shown {σ : Type} (state : MastState σ) : Shown :=
  ⟨state.showValue, state.showDataQuality⟩

/-- A row goes to its group or begins one. -/
theorem fillMastRow_eq {σ : Type} (parameters : MastParameterMap)
    (stationInfo : ByteString → Option σ) (state : MastState σ) (row : MastRow) :
    fillMastRow parameters stationInfo state row = if state.StartsGroup row
      then (startGroup parameters stationInfo state row).map (addData · row)
      else pure (addData state row) := rfl

/-- A group that is started: nothing fails if its station is described and if something is
shown of every parameter. -/
theorem startGroup_eq {σ : Type} {parameters : MastParameterMap} (showing : parameters.Shows)
    {stationInfo : ByteString → Option σ} {state : MastState σ} {row : MastRow} {info : σ}
    (described : stationInfo row.stationId = some info)
    (fresh : state.groups.find state.numberMatched = none) :
    ∃ featureId ownId, startGroup parameters stationInfo state row = .ok
      { numberMatched := state.numberMatched + 1
        currentFmisid := row.stationId
        currentMeasurandId := row.measurandId
        currentDataTime := row.dataTime
        dataId := 0
        groupId := state.numberMatched
        showValue := (parameters.map.find row.measurandId).elim state.showValue
          MastParameter.showValue
        showDataQuality := (parameters.map.find row.measurandId).elim state.showDataQuality
          MastParameter.showQualityCode
        featureId
        groups := state.groups.set state.numberMatched
          { station := some (row.stationId, info)
            phenomenonTime := some row.dataTime
            resultTime := some row.dataTime
            obsParamList := (parameters.map.find row.measurandId).elim [] MastParameter.obsParams
            featureId := ownId
            data := .empty } } := by
  simp only [startGroup, described, fresh, setGroupParameters]
  cases found : parameters.map.find row.measurandId with
  | none => exact ⟨_, _, rfl⟩
  | some param =>
      have shown : ¬ (!param.showValue && !param.showQualityCode) = true := by
        rcases showing _ (OrderedMap.find_eq_some.mp found) with value | quality
        · rw [value]
          exact Bool.false_ne_true
        · rw [quality, Bool.not_true, Bool.and_false]
          exact Bool.false_ne_true
      dsimp only
      rw [if_neg shown]
      exact ⟨_, _, rfl⟩

namespace MastContext

variable {ctx : MastContext τ H} {record : MastRecord τ H}

/-- A station that is known has its details. -/
theorem setStationInfo_of_knows {key : MastKey τ} (known : ctx.KnowsStation key) :
    ∃ info, ctx.setStationInfo (decimal key.stationId) = some info := by
  obtain ⟨station, found, converts⟩ := known
  obtain ⟨coordinates, converted⟩ := Option.isSome_iff_exists.mp converts
  unfold setStationInfo
  simp only [found, Option.elim_some, converted]
  exact ⟨_, rfl⟩

/-- The empty texts of a station that is not known are no coordinates. -/
theorem setStationInfo_of_not_knows {key : MastKey τ} (unknown : ¬ ctx.KnowsStation key) :
    ctx.setStationInfo (decimal key.stationId) = none := by
  unfold setStationInfo
  cases found : ctx.station (decimal key.stationId) with
  | none =>
      refine Option.map_eq_none_iff.mpr ?_
      simp only [Option.elim_none, set2DCoord, ctx.stod_empty]
      rfl
  | some station =>
      refine Option.map_eq_none_iff.mpr (Option.not_isSome_iff_eq_none.mp fun converts => ?_)
      exact unknown ⟨station, found, converts⟩

/-- A station that is not known fails the query. -/
theorem startGroup_of_not_knows {state : MastState StationInfo}
    (unknown : ¬ ctx.KnowsStation record.toMastKey) :
    startGroup ctx.parameters ctx.setStationInfo state (ctx.row record) =
      .error (.stationInfo (decimal record.stationId)) := by
  have undescribed : ctx.setStationInfo (ctx.row record).stationId = none :=
    setStationInfo_of_not_knows unknown
  simp only [startGroup, undescribed]
  rfl

/-- The text with which the loop starts is no station's. -/
theorem startsGroup_of_start {state : MastState StationInfo}
    (fmisid : state.currentFmisid = ascii "FooBarFmisid") (ctx : MastContext τ H)
    (record : MastRecord τ H) : state.StartsGroup (ctx.row record) := by
  have letter : (70 : UInt8) ∈ ascii "FooBarFmisid" := by decide
  left
  rw [fmisid]
  exact ne_decimal_of_mem letter (by decide) record.stationId

section Loop

variable [Add H] {shown : Shown} {key : MastKey τ} {records : List (MastRecord τ H)}
  {group : MastGroup StationInfo} {state after : MastState StationInfo}
  {earlier : List (Nat × MastGroup StationInfo)}

/-- The group holds these rows. -/
structure Holds (ctx : MastContext τ H) (shown : Shown) (key : MastKey τ)
    (records : List (MastRecord τ H)) (dataId : Nat) (group : MastGroup StationInfo) : Prop where
  content : ∀ top, group.content top = { ctx.content shown key records with topHeight := top }
  below : ∀ entry ∈ group.data.entries, entry.1 < dataId

/-- A group that holds its records holds one more. -/
theorem Holds.add {dataId : Nat} (holds : Holds ctx shown key records dataId group)
    (record : MastRecord τ H) :
    Holds ctx shown key (records ++ [record]) (dataId + 1)
      { group with data := group.data.set dataId (ctx.data shown record) } := by
  have entries := OrderedMap.entries_set_of_greatest holds.below (ctx.data shown record)
  refine ⟨fun top => ?_, fun entry member => ?_⟩
  · have old := holds.content top
    have data : group.data.entries.map Prod.snd = records.map (ctx.data shown) :=
      congrArg MastContent.data old
    have added : (group.data.set dataId (ctx.data shown record)).entries.map Prod.snd =
        (records ++ [record]).map (ctx.data shown) := by
      rw [entries, List.map_append, List.map_append, data]
      rfl
    calc MastGroup.content { group with data := group.data.set dataId (ctx.data shown record) } top
        = { group.content top with data := (records ++ [record]).map (ctx.data shown) } := by
          rw [← added]
          rfl
      _ = { ctx.content shown key (records ++ [record]) with topHeight := top } := by
          rw [old]
          rfl
  · change entry ∈ (group.data.set dataId (ctx.data shown record)).entries at member
    rw [entries] at member
    rcases List.mem_append.mp member with old | new
    · exact (holds.below entry old).trans (Nat.lt_succ_self _)
    · rw [List.mem_singleton.mp new]
      exact Nat.lt_succ_self _

/-- The current group holds these rows, after the earlier groups. -/
structure Filling (ctx : MastContext τ H) (state : MastState StationInfo) (key : MastKey τ)
    (records : List (MastRecord τ H)) (earlier : List (Nat × MastGroup StationInfo))
    (group : MastGroup StationInfo) : Prop where
  groups : state.groups.entries = earlier ++ [(state.groupId, group)]
  counted : state.numberMatched = earlier.length + 1
  numbered : state.numberMatched = state.groupId + 1
  fmisid : state.currentFmisid = decimal key.stationId
  measurandId : state.currentMeasurandId = decimal key.measurandId
  dataTime : state.currentDataTime = ctx.timeText key.dataTime
  holds : Holds ctx state.shown key records state.dataId group

/-- The last group is filled with one more record. -/
theorem Filling.add (filling : Filling ctx state key records earlier group)
    (record : MastRecord τ H) :
    ∃ filled, Filling ctx (addData state (ctx.row record)) key (records ++ [record]) earlier
      filled := by
  have current : state.groups.find state.groupId = some group := by
    rw [OrderedMap.find_eq_some, filling.groups]
    exact List.mem_append_right _ List.mem_cons_self
  have groups : (addData state (ctx.row record)).groups.entries =
      earlier ++ [(state.groupId, { group with
        data := group.data.set state.dataId (ctx.data state.shown record) })] := by
    unfold addData
    rw [current]
    exact OrderedMap.entries_set_of_last filling.groups _
  exact ⟨_, groups, filling.counted, filling.numbered, filling.fmisid, filling.measurandId,
    filling.dataTime, filling.holds.add record⟩

/-- A row of a known station starts a group of its own. -/
theorem startGroup_of_knows (counted : state.numberMatched = state.groups.entries.length)
    (below : ∀ entry ∈ state.groups.entries, entry.1 < state.numberMatched)
    (known : ctx.KnowsStation record.toMastKey) :
    ∃ after group, startGroup ctx.parameters ctx.setStationInfo state (ctx.row record) = .ok after ∧
      after.shown = ctx.note state.shown record.toMastKey ∧
        Filling ctx after record.toMastKey [] state.groups.entries group := by
  obtain ⟨info, described⟩ := setStationInfo_of_knows known
  have fresh : state.groups.find state.numberMatched = none := by
    refine Option.eq_none_iff_forall_not_mem.mpr fun old found => ?_
    exact lt_irrefl _ (below _ (OrderedMap.find_eq_some.mp found))
  have ofRow : ctx.setStationInfo (ctx.row record).stationId = some info := described
  obtain ⟨featureId, ownId, started⟩ :=
    startGroup_eq (getMeteoParameters_shows ctx.requested) ofRow fresh
  refine ⟨_, _, started, ?_, OrderedMap.entries_set_of_greatest below _, ?_, rfl, rfl, rfl, rfl, ?_⟩
  · unfold note MastState.shown
    change Shown.mk ((ctx.parameters.map.find (decimal record.measurandId)).elim _ _)
      ((ctx.parameters.map.find (decimal record.measurandId)).elim _ _) = _
    cases ctx.parameters.map.find (decimal record.measurandId) <;> rfl
  · exact congrArg Nat.succ counted
  · refine ⟨fun top => ?_, List.forall_mem_nil _⟩
    have station : (ctx.setStationInfo (decimal record.stationId)).map
        (decimal record.stationId, ·) = some (decimal record.stationId, info) := by
      rw [described]
      rfl
    unfold content
    rw [station]
    rfl

/-! ### The loop -/

variable {loop : MastLoop H} {front : List (Stretch Shown (MastRecord τ H))}
  {last : Stretch Shown (MastRecord τ H)}

/-- The group of a stretch of rows, with what its start found noted. -/
def stretchContent (ctx : MastContext τ H) (stretch : Stretch Shown (MastRecord τ H)) :
    MastContent :=
  ctx.content stretch.carried stretch.head.toMastKey stretch.items

/-- The loop is filling the group of the last stretch. -/
structure Writing (ctx : MastContext τ H) (loop : MastLoop H)
    (front : List (Stretch Shown (MastRecord τ H))) (last : Stretch Shown (MastRecord τ H))
    (earlier : List (Nat × MastGroup StationInfo)) (group : MastGroup StationInfo) : Prop where
  filling : Filling ctx loop.state last.head.toMastKey last.items earlier group
  shown : loop.state.shown = last.carried
  written : earlier.map (fun entry => entry.2.content (loop.topHeights.find entry.1)) =
    front.map ctx.stretchContent
  top : loop.topHeights.find loop.state.groupId = (ctx.stretchContent last).topHeight
  known : ctx.KnowsStation last.head.toMastKey
  height : ∀ station, ctx.station (decimal last.head.stationId) = some station →
    loop.bottomHeight = station.elevation

/-- The loop has written the groups of these stretches. -/
inductive Writes (ctx : MastContext τ H) (loop : MastLoop H) :
    List (Stretch Shown (MastRecord τ H)) → Prop
  | start (counted : loop.state.numberMatched = 0) (groups : loop.state.groups.entries = [])
      (fmisid : loop.state.currentFmisid = ascii "FooBarFmisid")
      (shown : loop.state.shown = .nothing) : Writes ctx loop []
  | writing {front : List (Stretch Shown (MastRecord τ H))} {last : Stretch Shown (MastRecord τ H)}
      {earlier : List (Nat × MastGroup StationInfo)} {group : MastGroup StationInfo}
      (writing : Writing ctx loop front last earlier group) : Writes ctx loop (front ++ [last])

/-- The groups before the current one have smaller numbers. -/
theorem Filling.below (filling : Filling ctx state key records earlier group) :
    ∀ entry ∈ earlier, entry.1 < state.groupId := by
  have sorted := state.groups.sorted
  rw [filling.groups] at sorted
  exact fun entry member => (List.pairwise_append.mp sorted).2.2 entry member _ List.mem_cons_self

/-- The number of the next group is a new one. -/
theorem Filling.next_fresh (filling : Filling ctx state key records earlier group) :
    state.numberMatched = state.groups.entries.length ∧
      ∀ entry ∈ state.groups.entries, entry.1 < state.numberMatched := by
  rw [filling.groups]
  refine ⟨by rw [filling.counted, List.length_append, List.length_singleton], ?_⟩
  intro entry member
  rw [filling.numbered]
  rcases List.mem_append.mp member with old | new
  · exact Nat.lt_succ_of_lt (filling.below entry old)
  · rw [List.mem_singleton.mp new]
    exact Nat.lt_succ_self _

/-- The contents of the earlier groups stay when the top height of the current one is set. -/
theorem contents_set {topHeights : OrderedMap Nat ByteString} {groupId : Nat}
    (below : ∀ entry ∈ earlier, entry.1 < groupId) (top : ByteString) :
    earlier.map (fun entry => entry.2.content ((topHeights.set groupId top).find entry.1)) =
      earlier.map fun entry => entry.2.content (topHeights.find entry.1) := by
  refine List.map_congr_left fun entry member => ?_
  rw [OrderedMap.find_set_ne (below entry member).ne]

/-- The contents of all groups that the loop has written. -/
theorem Writing.contents {earlier : List (Nat × MastGroup StationInfo)}
    (writing : Writing ctx loop front last earlier group) :
    loop.contents = (front ++ [last]).map ctx.stretchContent := by
  rw [MastLoop.contents, writing.filling.groups, List.map_append, List.map_append, writing.written]
  apply congrArg
  rw [List.map_singleton, List.map_singleton, writing.top, writing.filling.holds.content,
    writing.shown]
  rfl

/-- What the loop has written are its stretches. -/
theorem Writes.contents {written : List (Stretch Shown (MastRecord τ H))}
    (writes : Writes ctx loop written) :
    loop.contents = written.map ctx.stretchContent ∧ loop.state.numberMatched = written.length := by
  cases writes with
  | start counted groups _ _ =>
      rw [MastLoop.contents, groups]
      exact ⟨rfl, counted⟩
  | writing writing =>
      have sameLength := congrArg List.length writing.written
      rw [List.length_map, List.length_map] at sameLength
      rw [writing.filling.counted, sameLength, List.length_append]
      exact ⟨writing.contents, rfl⟩

/-- The remembered texts are those of the head of the last stretch. -/
theorem Filling.startsGroup_iff (filling : Filling ctx state key records earlier group)
    (record : MastRecord τ H) :
    state.StartsGroup (ctx.row record) ↔ key ≠ record.toMastKey := by
  rw [← not_iff_not, not_not, MastState.StartsGroup, filling.fmisid, filling.measurandId,
    filling.dataTime, not_or, not_or, not_not, not_not, not_not]
  constructor
  · rintro ⟨station, measurand, time⟩
    obtain ⟨stationId, dataTime, measurandId⟩ := key
    obtain rfl : stationId = record.stationId := decimal_injective station
    obtain rfl : measurandId = record.measurandId := decimal_injective measurand
    obtain rfl : dataTime = record.dataTime := ctx.timeText_injective time
    rfl
  · rintro rfl
    exact ⟨rfl, rfl, rfl⟩

/-- A row of the same station, time and measurand goes into the current group. -/
theorem Writing.continue {earlier : List (Nat × MastGroup StationInfo)}
    (writing : Writing ctx loop front last earlier group)
    (same : last.head.toMastKey = record.toMastKey) :
    ∃ next filled, ctx.fillRecord loop record = .ok next ∧
      Writing ctx next front { last with tail := last.tail ++ [record] } earlier filled := by
  have continues : ¬ loop.state.StartsGroup (ctx.row record) := by
    rw [writing.filling.startsGroup_iff, not_not]
    exact same
  obtain ⟨filled, filling⟩ := writing.filling.add record
  simp only [fillRecord, fillMastRow_eq, if_neg continues]
  refine ⟨_, filled, rfl, filling, writing.shown, ?_, ?_, writing.known, writing.height⟩
  · exact (contents_set writing.filling.below _).trans writing.written
  · obtain ⟨station, found, _⟩ := writing.known
    change (loop.topHeights.set loop.state.groupId _).find loop.state.groupId = _
    rw [OrderedMap.find_set_self, writing.height station found]
    simp only [stretchContent, content, found, Stretch.items, ← List.cons_append,
      List.getLast?_concat]
    rfl

/-- A row of another station, time or measurand starts a group. -/
theorem fillRecord_starts {written : List (Stretch Shown (MastRecord τ H))}
    (starts : loop.state.StartsGroup (ctx.row record))
    (counted : loop.state.numberMatched = loop.state.groups.entries.length)
    (below : ∀ entry ∈ loop.state.groups.entries, entry.1 < loop.state.numberMatched)
    (contents : loop.contents = written.map ctx.stretchContent)
    (known : ctx.KnowsStation record.toMastKey) :
    ∃ next group, ctx.fillRecord loop record = .ok next ∧
      Writing ctx next written ⟨ctx.note loop.state.shown record.toMastKey, record, []⟩
        loop.state.groups.entries group := by
  obtain ⟨after, empty, started, shown, opened⟩ := startGroup_of_knows counted below known
  obtain ⟨group, filling⟩ := opened.add record
  have height : ∀ station, ctx.station (decimal record.stationId) = some station →
      ctx.setBottomHeight (ctx.row record).stationId loop.bottomHeight = station.elevation := by
    intro station found
    change (ctx.station (decimal record.stationId)).elim _ _ = _
    rw [found]
    rfl
  simp only [fillRecord, fillMastRow_eq, if_pos starts, started]
  refine ⟨_, group, rfl, filling, shown, ?_, ?_, known, height⟩
  · exact (contents_set opened.below _).trans contents
  · obtain ⟨station, found, _⟩ := known
    change (loop.topHeights.set after.groupId _).find after.groupId = _
    rw [OrderedMap.find_set_self, height station found]
    simp only [stretchContent, content, found]
    rfl

/-- Where a row starts a group its station has to be known. -/
theorem fillRecord_of_not_knows (starts : loop.state.StartsGroup (ctx.row record))
    (unknown : ¬ ctx.KnowsStation record.toMastKey) :
    ∃ failure, ctx.fillRecord loop record = .error failure := by
  simp only [fillRecord, fillMastRow_eq, if_pos starts, startGroup_of_not_knows unknown]
  exact ⟨_, rfl⟩

variable [LinearOrder τ]

/-- One row: the loop writes on if the station is known. -/
theorem Writes.next {written : List (Stretch Shown (MastRecord τ H))}
    (writes : Writes ctx loop written) (record : MastRecord τ H) :
    (ctx.KnowsStation record.toMastKey ∧ ∃ next, ctx.fillRecord loop record = .ok next ∧
        Writes ctx next (addItem MastRecord.toMastKey ctx.note .nothing written record)) ∨
      (¬ ctx.KnowsStation record.toMastKey ∧
        ∃ failure, ctx.fillRecord loop record = .error failure) := by
  cases writes with
  | start counted groups fmisid shown =>
      have starts := startsGroup_of_start fmisid ctx record
      by_cases known : ctx.KnowsStation record.toMastKey
      · have contents : loop.contents = ([] : List (Stretch Shown (MastRecord τ H))).map
            ctx.stretchContent := by
          rw [MastLoop.contents, groups]
          rfl
        have matched : loop.state.numberMatched = loop.state.groups.entries.length := by
          rw [counted, groups]
          rfl
        have below : ∀ entry ∈ loop.state.groups.entries, entry.1 < loop.state.numberMatched := by
          rw [groups]
          exact List.forall_mem_nil _
        obtain ⟨next, group, ran, writing⟩ := fillRecord_starts starts matched below contents known
        rw [shown] at writing
        exact .inl ⟨known, next, ran, .writing writing⟩
      · exact .inr ⟨known, fillRecord_of_not_knows starts known⟩
  | @writing front last earlier group writing =>
      by_cases same : last.head.toMastKey = record.toMastKey
      · obtain ⟨next, filled, ran, writing'⟩ := writing.continue same
        rw [addItem_same same]
        exact .inl ⟨same ▸ writing.known, next, ran, .writing writing'⟩
      · have starts := (writing.filling.startsGroup_iff record).mpr same
        by_cases known : ctx.KnowsStation record.toMastKey
        · obtain ⟨matched, below⟩ := writing.filling.next_fresh
          obtain ⟨next, group', ran, writing'⟩ :=
            fillRecord_starts starts matched below writing.contents known
          rw [writing.shown] at writing'
          rw [addItem_other same]
          exact .inl ⟨known, next, ran, .writing writing'⟩
        · exact .inr ⟨known, fillRecord_of_not_knows starts known⟩

/-- The loop goes on writing stretches while the stations are known. -/
theorem Writes.run {written : List (Stretch Shown (MastRecord τ H))}
    (writes : Writes ctx loop written) (records : List (MastRecord τ H)) :
    ((∀ record ∈ records, ctx.KnowsStation record.toMastKey) ∧
        ∃ final, records.foldlM ctx.fillRecord loop = .ok final ∧
          Writes ctx final
            (records.foldl (addItem MastRecord.toMastKey ctx.note .nothing) written)) ∨
      ((∃ record ∈ records, ¬ ctx.KnowsStation record.toMastKey) ∧
        ∃ failure, records.foldlM ctx.fillRecord loop = .error failure) := by
  induction records generalizing loop written with
  | nil => exact .inl ⟨List.forall_mem_nil _, loop, rfl, writes⟩
  | cons record records ih =>
      rw [List.foldlM_cons, List.foldl_cons]
      rcases writes.next record with ⟨known, next, ran, writes'⟩ | ⟨unknown, failure, failed⟩
      · rw [ran]
        rcases ih writes' with ⟨others, final, rest, written'⟩ | ⟨⟨other, member, unknown⟩, failed⟩
        · exact .inl ⟨List.forall_mem_cons.mpr ⟨known, others⟩, final, rest, written'⟩
        · exact .inr ⟨⟨other, List.mem_cons_of_mem _ member, unknown⟩, failed⟩
      · rw [failed]
        exact .inr ⟨⟨record, List.mem_cons_self, unknown⟩, failure, rfl⟩

/-- The loop writes a group for every stretch of rows, unless it meets a station that is not
known. -/
theorem fillRecords_outcome (ctx : MastContext τ H) (featureId : FeatureID)
    (records : List (MastRecord τ H)) :
    ((∀ record ∈ records, ctx.KnowsStation record.toMastKey) ∧
        ∃ final, ctx.fillRecords featureId records = .ok final ∧
          Writes ctx final (stretches MastRecord.toMastKey ctx.note .nothing records)) ∨
      ((∃ record ∈ records, ¬ ctx.KnowsStation record.toMastKey) ∧
        ∃ failure, ctx.fillRecords featureId records = .error failure) := by
  have start : Writes ctx (⟨.start featureId, ctx.zero, .empty⟩ : MastLoop H) [] :=
    .start rfl rfl rfl rfl
  exact start.run records

end Loop

/-! ### What is noted -/

section Notes

variable {ctx : MastContext τ H} {shown : Shown} {key : MastKey τ} {keys : List (MastKey τ)}

/-- A quantity that was not requested changes nothing that is shown. -/
theorem note_of_not_requests (unknown : ¬ ctx.Requests key) (shown : Shown) :
    ctx.note shown key = shown := by
  have none : ctx.parameters.map.find (decimal key.measurandId) = none :=
    Option.not_isSome_iff_eq_none.mp unknown
  rw [note, none]
  rfl

/-- A requested measurand overwrites what was noted before. -/
theorem note_of_requests (requested : ctx.Requests key) (shown other : Shown) :
    ctx.note shown key = ctx.note other key := by
  obtain ⟨param, found⟩ := Option.isSome_iff_exists.mp requested
  rw [note, note, found]
  rfl

/-- A quantity that was requested shows something. -/
theorem note_ne_nothing (requested : ctx.Requests key) (shown : Shown) :
    ctx.note shown key ≠ .nothing := by
  obtain ⟨param, found⟩ := Option.isSome_iff_exists.mp requested
  rw [note, found]
  intro nothing
  obtain ⟨value, quality⟩ := Shown.mk.inj nothing
  have either := getMeteoParameters_shows ctx.requested _ (OrderedMap.find_eq_some.mp found)
  rw [value, quality] at either
  exact either.elim Bool.false_ne_true Bool.false_ne_true

/-- Nothing is shown after a key when nothing was before and it was not requested. -/
theorem note_eq_nothing_iff :
    ctx.note shown key = .nothing ↔ shown = .nothing ∧ ¬ ctx.Requests key := by
  by_cases requested : ctx.Requests key
  · exact iff_of_false (note_ne_nothing requested shown) fun both => both.2 requested
  · rw [note_of_not_requests requested]
    exact (and_iff_left requested).symm

/-- Nothing is shown after several keys when none was requested. -/
theorem foldl_note_eq_nothing_iff :
    keys.foldl ctx.note shown = .nothing ↔ shown = .nothing ∧ ∀ key ∈ keys, ¬ ctx.Requests key := by
  induction keys generalizing shown with
  | nil => exact (and_iff_left (List.forall_mem_nil _)).symm
  | cons key keys ih =>
      rw [List.foldl_cons, ih, note_eq_nothing_iff, and_assoc, List.forall_mem_cons]

/-- What is noted for a group is its own unless its measurand was not requested and that of
a group before it was. -/
theorem carriedInto_eq_own_iff [LinearOrder τ] :
    carriedInto ctx.note .nothing keys key = ctx.note .nothing key ↔
      ∀ earlier ∈ keys, earlier < key → ctx.Requests earlier → ctx.Requests key := by
  rw [carriedInto]
  by_cases requested : ctx.Requests key
  · exact iff_of_true (note_of_requests requested _ _) fun _ _ _ _ => requested
  · rw [note_of_not_requests requested, note_of_not_requests requested, foldl_note_eq_nothing_iff,
      and_iff_right rfl]
    constructor
    · intro none earlier member before isRequested
      exact absurd isRequested (none earlier (List.mem_filter.mpr ⟨member, decide_eq_true before⟩))
    · intro none earlier member isRequested
      obtain ⟨inKeys, before⟩ := List.mem_filter.mp member
      exact requested (none earlier inKeys (of_decide_eq_true before) isRequested)

/-- The data of a row tell what is shown. -/
theorem data_injective {other : Shown} {record : MastRecord τ H}
    (same : ctx.data shown record = ctx.data other record) : shown = other := by
  obtain ⟨showValue, showDataQuality⟩ := shown
  obtain ⟨showValue', showDataQuality'⟩ := other
  obtain ⟨_, _, value, quality⟩ := MastData.mk.inj same
  have values : showValue = showValue' := by
    cases showValue <;> cases showValue' <;> cases value <;> rfl
  have qualities : showDataQuality = showDataQuality' := by
    cases showDataQuality <;> cases showDataQuality' <;> cases quality <;> rfl
  rw [values, qualities]

/-- The same records are written alike only when the same is shown. -/
theorem content_eq_iff [Add H] {other : Shown} {records : List (MastRecord τ H)}
    (some : records ≠ []) :
    ctx.content shown key records = ctx.content other key records ↔ shown = other := by
  constructor
  · intro same
    obtain ⟨record, others, rfl⟩ := List.exists_cons_of_ne_nil some
    exact data_injective (List.cons.inj (congrArg MastContent.data same)).1
  · rintro rfl
    rfl

end Notes

/-! ### The partition -/

section Partition

variable {ctx : MastContext τ H} [LinearOrder τ] [LE H] {container : MastContainer τ H}
  {featureId : FeatureID}

/-- No row of a measurand that was not requested comes after a row of one that was. -/
def RequestedLast (ctx : MastContext τ H) (container : MastContainer τ H) : Prop :=
  ∀ earlier ∈ container.records, ∀ later ∈ container.records,
    earlier.toMastKey ≤ later.toMastKey → ctx.Requests earlier.toMastKey →
      ctx.Requests later.toMastKey

/-- The records of a key are in the order of their levels. -/
theorem byLevel (container : MastContainer τ H) (key : MastKey τ) :
    (container.records.filter fun record => record.toMastKey = key).Pairwise
      fun lower upper => lower.dataLevel ≤ upper.dataLevel := by
  refine (container.ordered.filter _).imp_of_mem fun {lower upper} lowerMem upperMem ordered => ?_
  have lowerKey : lower.toMastKey = key := of_decide_eq_true (List.mem_filter.mp lowerMem).2
  have upperKey : upper.toMastKey = key := of_decide_eq_true (List.mem_filter.mp upperMem).2
  rcases ordered with before | ⟨_, level⟩
  · rw [lowerKey, upperKey] at before
    exact absurd before (lt_irrefl key)
  · exact level

variable [Add H]

/-- The groups of the keys are their own under this condition only. -/
theorem contents_eq_own_iff {keys : List (MastKey τ)}
    (mem_keys : ∀ key, key ∈ keys ↔ ∃ record ∈ container.records, record.toMastKey = key) :
    keys.map (fun key => ctx.content (carriedInto ctx.note .nothing keys key) key
        (container.records.filter fun record => record.toMastKey = key)) =
      keys.map (fun key => ctx.ownContent key
        (container.records.filter fun record => record.toMastKey = key)) ↔
      RequestedLast ctx container := by
  rw [List.map_inj_left]
  have nonempty : ∀ key ∈ keys,
      container.records.filter (fun record => record.toMastKey = key) ≠ [] := by
    intro key member
    obtain ⟨record, inRecords, isKey⟩ := (mem_keys key).mp member
    exact List.ne_nil_of_mem (List.mem_filter.mpr ⟨inRecords, decide_eq_true isKey⟩)
  constructor
  · intro own earlier earlierMem later laterMem ordered requested
    rcases ordered.eq_or_lt with same | before
    · exact same ▸ requested
    · have laterKey := (mem_keys later.toMastKey).mpr ⟨later, laterMem, rfl⟩
      have earlierKey := (mem_keys earlier.toMastKey).mpr ⟨earlier, earlierMem, rfl⟩
      have same := (content_eq_iff (nonempty _ laterKey)).mp (own _ laterKey)
      exact carriedInto_eq_own_iff.mp same _ earlierKey before requested
  · intro requestedLast key member
    refine (content_eq_iff (nonempty key member)).mpr (carriedInto_eq_own_iff.mpr ?_)
    intro earlier earlierMem before requested
    obtain ⟨record, inRecords, rfl⟩ := (mem_keys key).mp member
    obtain ⟨other, otherIn, rfl⟩ := (mem_keys earlier).mp earlierMem
    exact requestedLast other otherIn record inRecords before.le requested

/-- The groups that are written, key by key. -/
theorem contents_of_known (featureId : FeatureID)
    (known : ∀ record ∈ container.records, ctx.KnowsStation record.toMastKey) :
    ∃ (keys : List (MastKey τ)) (final : MastLoop H),
      ctx.fillRecords featureId container.records = .ok final ∧ keys.Pairwise (· < ·) ∧
      (∀ key, key ∈ keys ↔ ∃ record ∈ container.records, record.toMastKey = key) ∧
      final.state.numberMatched = keys.length ∧
      final.contents = keys.map fun key => ctx.content (carriedInto ctx.note .nothing keys key) key
        (container.records.filter fun record => record.toMastKey = key) := by
  have sorted : container.records.Pairwise fun first second =>
      first.toMastKey ≤ second.toMastKey :=
    container.ordered.imp fun ordered => ordered.elim le_of_lt fun same => same.1.le
  obtain ⟨keys, classified⟩ : ∃ keys, Classified MastRecord.toMastKey ctx.note .nothing
      container.records (stretches MastRecord.toMastKey ctx.note .nothing container.records) keys :=
    stretches_classified sorted
  rcases fillRecords_outcome ctx featureId container.records with
    ⟨_, final, ran, writes⟩ | ⟨⟨record, member, unknown⟩, _⟩
  · obtain ⟨contents, counted⟩ := writes.contents
    refine ⟨keys, final, ran, classified.increasing, classified.mem_keys, ?_, ?_⟩
    · have sameLength := congrArg List.length classified.stretches_eq
      rw [List.length_map, List.length_map] at sameLength
      exact counted.trans sameLength
    · exact contents.trans (classified.map_eq ctx.content)
  · exact absurd (known record member) unknown

/-- What a partition needs. -/
theorem Partition.needs {keys : List (MastKey τ)} {final : MastLoop H}
    (partition : ctx.Partition container featureId keys final) :
    (∀ record ∈ container.records, ctx.KnowsStation record.toMastKey) ∧
      RequestedLast ctx container := by
  rcases fillRecords_outcome ctx featureId container.records with
    ⟨known, _⟩ | ⟨_, failure, failed⟩
  · obtain ⟨keys', final', ran, increasing, mem_keys, _, contents⟩ :=
      contents_of_known featureId known
    obtain rfl : final = final' := Except.ok.inj (partition.filled.symm.trans ran)
    obtain rfl : keys = keys' := partition.increasing.eq_of_mem_iff increasing fun key =>
      (partition.mem_keys key).trans (mem_keys key).symm
    exact ⟨known, (contents_eq_own_iff mem_keys).mp (contents.symm.trans partition.contents)⟩
  · rw [partition.filled] at failed
    cases failed

/-- The groups partition the result exactly if all stations are known and no row of a
measurand that was not requested comes after a row of one that was. -/
theorem partition_iff (ctx : MastContext τ H) (container : MastContainer τ H)
    (featureId : FeatureID) :
    (∃ keys final, ctx.Partition container featureId keys final) ↔
      (∀ record ∈ container.records, ctx.KnowsStation record.toMastKey) ∧
        RequestedLast ctx container := by
  constructor
  · rintro ⟨keys, final, partition⟩
    exact partition.needs
  · rintro ⟨known, requestedLast⟩
    obtain ⟨keys, final, ran, increasing, mem_keys, counted, contents⟩ :=
      contents_of_known featureId known
    exact ⟨keys, final, ran, increasing, mem_keys, counted,
      contents.trans ((contents_eq_own_iff mem_keys).mpr requestedLast), byLevel container⟩

end Partition

end MastContext

/-! ### A row that was not requested -/

/-- A mast, in whole degrees and metres. -/
def mast : MastStation Int where
  fmisid := 101000
  geoid := 0
  wmo := 0
  name := ascii "Kumpula"
  region := ascii "Helsinki"
  latitude := 60
  longitude := 25
  elevation := 26

/-- A request of temperatures, at one time. -/
def temperatureContext : MastContext Unit Int where
  stations := [mast]
  names := ⟨true, fun name => if name = ascii "TA" then 1 else 0⟩
  paramNames := [ascii "TA"]
  parameters := MastParameterMap.empty.set (.initial 1 (ascii "TA") false)
  requested := rfl
  transformation x y := some (intDecimal x ++ ascii ".00000", intDecimal y ++ ascii ".00000")
  showHeight := false
  zero := 0
  timeText _ := ascii "2020-01-01T00:00:00Z"
  timeText_injective := Function.injective_of_subsingleton _
  levelText level := intDecimal level ++ ascii ".0"
  doubleText number := intDecimal number ++ ascii ".000000"
  wholeText := intDecimal
  stod text := if text = ascii "60.000000" then some 60
    else if text = ascii "25.000000" then some 25 else none
  stod_empty := rfl

/-- A temperature and, after it, something that was not requested. -/
def twoMeasurands : MastContainer Unit Int where
  records := [⟨⟨101000, (), 1⟩, 2, ascii "-3.5", ascii "1"⟩,
    ⟨⟨101000, (), 2⟩, 2, ascii "87.0", ascii "1"⟩]
  ordered := by
    refine List.pairwise_pair.mpr (.inl ?_)
    decide

/-- The value of a measurand that was not requested is shown after a temperature. -/
theorem unrequestedValue_shown :
    ¬ ∃ keys final, temperatureContext.Partition twoMeasurands latlonRequest keys final := by
  rintro ⟨keys, final, partition⟩
  have requested : temperatureContext.Requests ⟨101000, (), 2⟩ :=
    partition.needs.2 _ List.mem_cons_self _ (List.mem_cons_of_mem _ List.mem_cons_self)
      (by decide) rfl
  exact Bool.false_ne_true requested

end SmartMetWfs.Handlers
