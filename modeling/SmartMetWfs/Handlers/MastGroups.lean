import SmartMetWfs.Core.Decimal
import SmartMetWfs.Foundation.Outcomes
import SmartMetWfs.Handlers.LocationParameters

/-!
# Member groups of a mast query

`StoredMastQueryHandler::fill_mast_data` goes through the rows of a sorted result and
starts a member group whenever the station, the measurand or the time changes. One
feature identifier is edited for all groups: a few parameters of the request are erased
before the first row, and every group replaces the station, the time and the meteo
parameters of the group before it.

How the station of a group is described is left to `stationInfo`, which fails where
`set_station_info` throws.
-/

namespace SmartMetWfs.Handlers

open Foundation Parameters

def pBeginTime : ByteString := ascii "beginTime"
def pEndTime : ByteString := ascii "endTime"
def pTimeStep : ByteString := ascii "timeStep"
def pNumOfStations : ByteString := ascii "numOfStations"

/-- The options `StoredMastQueryHandler` gives to `SupportsLocationParameters`. -/
def mastOptions : LocationOptions where
  supportKeywords := false
  includeFmisids := true
  includeGeoids := true
  includeWmos := true
  includeLpnns := false

/-- The tuple of a requested parameter. -/
structure MastParameter where
  paramId : UInt64
  paramName : ByteString
  paramQCName : ByteString
  showValue : Bool
  showQualityCode : Bool

/-- `MastParameterMap`: the requested parameters by the texts of their identities. -/
structure MastParameterMap where
  map : OrderedMap ByteString MastParameter
  keyed : ∀ entry ∈ map.entries, entry.1 = decimal entry.2.paramId.toNat

/-- The texts of a row of the result. -/
structure MastRow where
  stationId : ByteString
  measurandId : ByteString
  dataTime : ByteString
  dataLevel : ByteString
  dataValue : ByteString
  dataQuality : ByteString

/-- One value of a mast. -/
structure MastData where
  time : ByteString
  level : ByteString
  value : Option ByteString
  quality : Option ByteString

/-- A column by its name. -/
structure ObsParam where
  name : ByteString
  isQCParameter : Bool

/-- A group of the output hash; an identifier is kept as the `FeatureID` whose text it is. -/
structure MastGroup (σ : Type) where
  station : Option (ByteString × σ)
  phenomenonTime : Option ByteString
  resultTime : Option ByteString
  obsParamList : List ObsParam
  featureId : Option FeatureID
  data : OrderedMap Nat MastData

/-- A group before it has anything. -/
def MastGroup.new {σ : Type} : MastGroup σ := ⟨none, none, none, [], none, .empty⟩

/-- Why the groups cannot be made. -/
inductive MastError
  | stationInfo (fmisid : ByteString)
  | cannotSolve (measurandId : ByteString)

/-- The local variables of `fill_mast_data`, with the groups of the output hash. -/
structure MastState (σ : Type) where
  numberMatched : Nat
  currentFmisid : ByteString
  currentMeasurandId : ByteString
  currentDataTime : ByteString
  dataId : Nat
  groupId : Nat
  showValue : Bool
  showDataQuality : Bool
  featureId : FeatureID
  groups : OrderedMap Nat (MastGroup σ)

variable {σ : Type}

/-- The loop before its first row. -/
def MastState.start (featureId : FeatureID) : MastState σ where
  numberMatched := 0
  currentFmisid := ascii "FooBarFmisid"
  currentMeasurandId := ascii "FooBarMeasurandId"
  currentDataTime := ascii "FooBarTime"
  dataId := 0
  groupId := 0
  showValue := false
  showDataQuality := false
  featureId := featureId
  groups := .empty

/-- The parameters of a group as they are listed: the value, then its quality code. -/
def MastParameter.obsParams (param : MastParameter) : List ObsParam :=
  (if param.showValue then [⟨param.paramName, false⟩] else []) ++
    (if param.showQualityCode then [⟨param.paramQCName, true⟩] else [])

/-- `set_group_parameters` for the group in `groups` that has just been started. A measurand
that was not requested is only reported. -/
def setGroupParameters (parameters : MastParameterMap) (measurandId : ByteString)
    (group : MastGroup σ) (state : MastState σ) : Except MastError (MastState σ) :=
  match parameters.map.find measurandId with
  | some param =>
      let featureId := param.obsParams.foldl
        (fun id obsParam => id.addParam pMeteoParameters (.string obsParam.name)) state.featureId
      if !param.showValue && !param.showQualityCode then throw (.cannotSolve measurandId)
      else pure { state with
        showValue := param.showValue
        showDataQuality := param.showQualityCode
        featureId
        groups := state.groups.set state.groupId
          { group with obsParamList := param.obsParams, featureId := some featureId } }
  | none => pure { state with groups := state.groups.set state.groupId group }

/-- `erase_param` and `add_param` of one name. -/
def replaceParam (name : ByteString) (value : ByteString) (id : FeatureID) : FeatureID :=
  (id.eraseParam name).addParam name (.string value)

/-- A row with a new station, measurand or time starts a group. -/
def startGroup (parameters : MastParameterMap) (stationInfo : ByteString → Option σ)
    (state : MastState σ) (row : MastRow) : Except MastError (MastState σ) :=
  let groupId := state.numberMatched
  let featureId := replaceParam pNumOfStations (ascii "1")
    (replaceParam pFmisids row.stationId state.featureId)
  match stationInfo row.stationId with
  | none => throw (.stationInfo row.stationId)
  | some station =>
      let featureId := replaceParam pEndTime row.dataTime (replaceParam pBeginTime row.dataTime
        (replaceParam pTimeStep (ascii "1") featureId))
      let group := { (state.groups.find groupId).getD .new with
        station := some (row.stationId, station)
        phenomenonTime := some row.dataTime
        resultTime := some row.dataTime }
      setGroupParameters parameters row.measurandId group
        { state with
          numberMatched := state.numberMatched + 1
          currentFmisid := row.stationId
          currentMeasurandId := row.measurandId
          currentDataTime := row.dataTime
          dataId := 0
          groupId
          featureId := featureId.eraseParam pMeteoParameters }

/-- The values of a row go into the current group. -/
def addData (state : MastState σ) (row : MastRow) : MastState σ :=
  let group := (state.groups.find state.groupId).getD .new
  { state with
    dataId := state.dataId + 1
    groups := state.groups.set state.groupId { group with
      data := group.data.set state.dataId
        { time := row.dataTime
          level := row.dataLevel
          value := if state.showValue then some row.dataValue else none
          quality := if state.showDataQuality then some row.dataQuality else none } } }

/-- One round of the loop over the rows. -/
def fillMastRow (parameters : MastParameterMap) (stationInfo : ByteString → Option σ)
    (state : MastState σ) (row : MastRow) : Except MastError (MastState σ) :=
  if state.currentFmisid ≠ row.stationId ∨ state.currentMeasurandId ≠ row.measurandId ∨
      state.currentDataTime ≠ row.dataTime then
    (startGroup parameters stationInfo state row).map (addData · row)
  else pure (addData state row)

/-- `fill_mast_data`. -/
def fillMastData (parameters : MastParameterMap) (stationInfo : ByteString → Option σ)
    (rows : List MastRow) (featureId : FeatureID) : Except MastError (MastState σ) :=
  rows.foldlM (fillMastRow parameters stationInfo) (.start featureId)

/-- The parameters that `query` erases before the loop. -/
def mastRequestErased : List ByteString := [pBoundingBox, pPlaces, pGeoids, pWmos]

/-- The part of `query` that prepares the identifier and fills the groups. -/
def mastGroups (parameters : MastParameterMap) (stationInfo : ByteString → Option σ)
    (rows : List MastRow) (request : FeatureID) : Except MastError (MastState σ) :=
  fillMastData parameters stationInfo rows
    (mastRequestErased.foldl (fun id name => id.eraseParam name) request)

/-! ### The parameters of a group -/

/-- The parameters a group sets to one value. -/
def mastGroupSet (fmisid time : ByteString) : List (ByteString × Value) :=
  [(pFmisids, .string fmisid), (pNumOfStations, .string (ascii "1")),
    (pTimeStep, .string (ascii "1")), (pBeginTime, .string time), (pEndTime, .string time)]

/-- The parameters that a group has of its own. -/
def mastGroupKeys : List ByteString :=
  [pFmisids, pNumOfStations, pTimeStep, pBeginTime, pEndTime, pMeteoParameters]

/-- The parameters that are erased before the loop or by a group. -/
def mastErased : List ByteString := mastRequestErased ++ mastGroupKeys

/-- What a group adds to its identifier. -/
def mastAdded (fmisid time : ByteString) (obsParamList : List ObsParam) :
    List (ByteString × Value) :=
  mastGroupSet fmisid time ++
    obsParamList.map fun obsParam => (pMeteoParameters, .string obsParam.name)

/-- Up to the parameters of a group, the running identifier is the prepared request. -/
def Frame (request params : ValueMap) : Prop :=
  params.eraseAll mastGroupKeys = request.eraseAll mastErased

/-- Whatever the groups before have set, a group's parameters are the request's with its
own in place of those erased. -/
theorem Frame.partParams_eq {request params : ValueMap} (frame : Frame request params)
    (fmisid time : ByteString) (obsParamList : List ObsParam) :
    ((params.replaceAll (mastGroupSet fmisid time)).erase pMeteoParameters).insertAll
        (obsParamList.map fun obsParam => (pMeteoParameters, Value.string obsParam.name)) =
      partParams request mastErased (mastAdded fmisid time obsParamList) := by
  have distinct : ((mastGroupSet fmisid time).map Prod.fst).Nodup := by
    change [pFmisids, pNumOfStations, pTimeStep, pBeginTime, pEndTime].Nodup
    decide
  have meteo : ∀ pair ∈ mastGroupSet fmisid time, pair.1 ≠ pMeteoParameters := by
    intro pair member
    have key : pair.1 ∈ [pFmisids, pNumOfStations, pTimeStep, pBeginTime, pEndTime] :=
      List.mem_map_of_mem member
    have others : ∀ key ∈ [pFmisids, pNumOfStations, pTimeStep, pBeginTime, pEndTime],
        key ≠ pMeteoParameters := by decide
    exact others pair.1 key
  rw [Multimap.replaceAll_eq distinct, Multimap.erase_insertAll meteo, ← Multimap.insertAll_append]
  exact congrArg (Multimap.insertAll (mastAdded fmisid time obsParamList)) frame

/-- Only these are added. -/
theorem mem_mastAdded {fmisid time : ByteString} {obsParamList : List ObsParam}
    {entry : ByteString × Value} (member : entry ∈ mastAdded fmisid time obsParamList) :
    entry.1 ∈ mastGroupKeys := by
  rcases List.mem_append.mp member with set | listed
  · have key : entry.1 ∈ [pFmisids, pNumOfStations, pTimeStep, pBeginTime, pEndTime] :=
      List.mem_map_of_mem set
    exact List.mem_append_left [pMeteoParameters] key
  · obtain ⟨obsParam, _, rfl⟩ := List.mem_map.mp listed
    exact List.mem_append_right [pFmisids, pNumOfStations, pTimeStep, pBeginTime, pEndTime]
      List.mem_cons_self

/-- A group's own parameters do not disturb the frame. -/
theorem frame_partParams (request : ValueMap) (fmisid time : ByteString)
    (obsParamList : List ObsParam) :
    Frame request (partParams request mastErased (mastAdded fmisid time obsParamList)) := by
  rw [Frame, partParams, Multimap.eraseAll_insertAll fun _ => mem_mastAdded, mastErased,
    Multimap.eraseAll_append, Multimap.eraseAll_eraseAll]

/-! ### The loop over the rows -/

/-- The group's identifier holds the request's parameters with the group's own station,
time and parameters. -/
def HoldsOwn (request : FeatureID) (group : MastGroup σ) (id : FeatureID) : Prop :=
  ∃ fmisid station time, group.station = some (fmisid, station) ∧
    group.phenomenonTime = some time ∧ group.resultTime = some time ∧
      id.params = partParams request.params mastErased (mastAdded fmisid time group.obsParamList)

/-- Some group has an identifier. -/
def HasIdentifier (state : MastState σ) : Prop :=
  ∃ groupId group id, state.groups.find groupId = some group ∧ group.featureId = some id

/-- What the loop keeps true. -/
structure Filled (parameters : MastParameterMap) (request : FeatureID) (state : MastState σ) :
    Prop where
  frame : Frame request.params state.featureId.params
  fresh : ∀ groupId group, state.groups.find groupId = some group →
    state.numberMatched ≤ groupId → group.featureId = none
  groups : ∀ groupId group id, state.groups.find groupId = some group →
    group.featureId = some id → HoldsOwn request group id
  named : (parameters.map.find state.currentMeasurandId).isSome → HasIdentifier state

/-- Data go into a group without touching its identifier. -/
theorem find_addData {state : MastState σ} {row : MastRow} {groupId : Nat} {group : MastGroup σ}
    (found : (addData state row).groups.find groupId = some group) :
    ∃ data, group = { (state.groups.find groupId).getD .new with data } := by
  change (state.groups.set state.groupId _).find groupId = some group at found
  by_cases same : groupId = state.groupId
  · subst same
    rw [OrderedMap.find_set_self] at found
    exact ⟨_, (Option.some.inj found).symm⟩
  · rw [OrderedMap.find_set_ne same] at found
    rw [found]
    exact ⟨group.data, rfl⟩

/-- Values that are added leave the identifier. -/
theorem hasIdentifier_addData {state : MastState σ} {row : MastRow} :
    HasIdentifier (addData state row) ↔ HasIdentifier state := by
  constructor
  · intro ⟨groupId, group, id, found, named⟩
    obtain ⟨data, rfl⟩ := find_addData found
    cases old : state.groups.find groupId with
    | none =>
        rw [old] at named
        cases named
    | some group =>
        rw [old] at named
        exact ⟨groupId, group, id, old, named⟩
  · intro ⟨groupId, group, id, found, named⟩
    by_cases same : groupId = state.groupId
    · subst same
      refine ⟨state.groupId, _, id, OrderedMap.find_set_self _ _ _, ?_⟩
      rw [found]
      exact named
    · exact ⟨groupId, group, id, (OrderedMap.find_set_ne same _ _).trans found, named⟩

/-- A row of the same group keeps it filled. -/
theorem Filled.addData {parameters : MastParameterMap} {request : FeatureID} {state : MastState σ}
    (filled : Filled parameters request state) (row : MastRow) :
    Filled parameters request (addData state row) := by
  refine ⟨filled.frame, fun groupId group found unused =>
    ?_, fun groupId group id found named => ?_, fun requested => ?_⟩
  · obtain ⟨data, rfl⟩ := find_addData found
    cases old : state.groups.find groupId with
    | none => rfl
    | some group => exact filled.fresh groupId group old unused
  · obtain ⟨data, rfl⟩ := find_addData found
    cases old : state.groups.find groupId with
    | none =>
        rw [old] at named
        cases named
    | some group =>
        rw [old] at named
        exact filled.groups groupId group id old named
  · exact hasIdentifier_addData.mpr (filled.named requested)

/-- The identifiers after a group has been started: a requested measurand gives the group
the running identifier, any other leaves it without one. -/
inductive Identified (parameters : MastParameterMap) (row : MastRow) (before after : MastState σ)
    (group : MastGroup σ) : Prop
  | requested (param : MastParameter)
      (found : parameters.map.find row.measurandId = some param)
      (listed : group.obsParamList = param.obsParams)
      (own : group.featureId = some after.featureId)
      (params : after.featureId.params = ((before.featureId.params.replaceAll (mastGroupSet
        row.stationId row.dataTime)).erase pMeteoParameters).insertAll
          (param.obsParams.map fun obsParam => (pMeteoParameters, Value.string obsParam.name)))
  | unknown (absent : parameters.map.find row.measurandId = none)
      (kept : group.featureId = ((before.groups.find before.numberMatched).getD .new).featureId)
      (params : after.featureId.params = (before.featureId.params.replaceAll (mastGroupSet
        row.stationId row.dataTime)).erase pMeteoParameters)

/-- A group that is started has its station and its identifier. -/
theorem startGroup_ok {parameters : MastParameterMap} {stationInfo : ByteString → Option σ}
    {state after : MastState σ} {row : MastRow}
    (started : startGroup parameters stationInfo state row = .ok after) :
    after.numberMatched = state.numberMatched + 1 ∧
      after.currentMeasurandId = row.measurandId ∧
      ∃ station group, after.groups = state.groups.set state.numberMatched group ∧
        group.station = some (row.stationId, station) ∧ group.phenomenonTime = some row.dataTime ∧
        group.resultTime = some row.dataTime ∧ Identified parameters row state after group := by
  unfold startGroup at started
  cases known : stationInfo row.stationId with
  | none =>
      rw [known] at started
      cases started
  | some station =>
      rw [known] at started
      simp only [setGroupParameters] at started
      cases requested : parameters.map.find row.measurandId with
      | none =>
          rw [requested] at started
          cases started
          exact ⟨rfl, rfl, station, _, rfl, rfl, rfl, rfl, .unknown requested rfl rfl⟩
      | some param =>
          rw [requested] at started
          dsimp only at started
          split at started
          · cases started
          · cases started
            refine ⟨rfl, rfl, station, _, rfl, rfl, rfl, rfl, .requested param requested rfl rfl ?_⟩
            exact congrArg FeatureID.params (FeatureID.foldl_addParam pMeteoParameters _ _ _)

/-- The group about to be started has no identifier. -/
theorem Filled.unnamed {parameters : MastParameterMap} {request : FeatureID} {state : MastState σ}
    (filled : Filled parameters request state) :
    ((state.groups.find state.numberMatched).getD .new).featureId = none := by
  cases old : state.groups.find state.numberMatched with
  | none => rfl
  | some group => exact filled.fresh _ group old le_rfl

/-- A new group keeps the others filled. -/
theorem Filled.startGroup {parameters : MastParameterMap} {request : FeatureID}
    {stationInfo : ByteString → Option σ} {state after : MastState σ} {row : MastRow}
    (filled : Filled parameters request state)
    (started : startGroup parameters stationInfo state row = .ok after) :
    Filled parameters request after := by
  obtain ⟨matched, measurand, station, group, groups, isStation, isTime, isResultTime,
      identified⟩ :=
    startGroup_ok started
  have own : after.groups.find state.numberMatched = some group := by
    rw [groups, OrderedMap.find_set_self]
  have others : ∀ groupId, groupId ≠ state.numberMatched →
      after.groups.find groupId = state.groups.find groupId := by
    intro groupId other
    rw [groups, OrderedMap.find_set_ne other]
  refine ⟨?_, fun groupId group' found unused => ?_, fun groupId group' id found named => ?_,
    fun requested => ?_⟩
  · cases identified with
    | requested param _ _ _ params =>
        rw [params, filled.frame.partParams_eq]
        exact frame_partParams _ _ _ _
    | unknown _ _ params =>
        rw [params]
        have unlisted := filled.frame.partParams_eq row.stationId row.dataTime []
        exact Eq.mpr (congrArg (Frame request.params) unlisted)
          (frame_partParams request.params row.stationId row.dataTime [])
  · rw [matched] at unused
    have other : groupId ≠ state.numberMatched := by omega
    exact filled.fresh groupId group' ((others groupId other).symm.trans found) (by omega)
  · by_cases same : groupId = state.numberMatched
    · subst same
      obtain rfl := Option.some.inj (own.symm.trans found)
      cases identified with
      | requested param _ listed isId params =>
          obtain rfl := Option.some.inj (isId.symm.trans named)
          refine ⟨row.stationId, station, row.dataTime, isStation, isTime, isResultTime, ?_⟩
          rw [params, listed, filled.frame.partParams_eq]
      | unknown _ kept _ =>
          rw [kept, filled.unnamed] at named
          cases named
    · exact filled.groups groupId group' id ((others groupId same).symm.trans found) named
  · cases identified with
    | requested param _ _ isId _ => exact ⟨state.numberMatched, group, _, own, isId⟩
    | unknown absent _ _ =>
        rw [measurand, absent] at requested
        cases requested

/-- A started group has an identifier when its measurand was requested, and no group loses
one. -/
theorem Filled.hasIdentifier_startGroup {parameters : MastParameterMap} {request : FeatureID}
    {stationInfo : ByteString → Option σ} {state after : MastState σ} {row : MastRow}
    (filled : Filled parameters request state)
    (started : Handlers.startGroup parameters stationInfo state row = .ok after) :
    HasIdentifier after ↔
      HasIdentifier state ∨ (parameters.map.find row.measurandId).isSome := by
  obtain ⟨_, _, station, group, groups, _, _, _, identified⟩ := startGroup_ok started
  constructor
  · intro ⟨groupId, group', id, found, named⟩
    rw [groups] at found
    by_cases same : groupId = state.numberMatched
    · rw [same, OrderedMap.find_set_self] at found
      obtain rfl := Option.some.inj found
      cases identified with
      | requested param isRequested _ _ _ => exact .inr (isRequested ▸ rfl)
      | unknown _ kept _ =>
          rw [kept, filled.unnamed] at named
          cases named
    · rw [OrderedMap.find_set_ne same] at found
      exact .inl ⟨groupId, group', id, found, named⟩
  · rintro (⟨groupId, group', id, found, named⟩ | isRequested)
    · have other : groupId ≠ state.numberMatched := by
        rintro rfl
        rw [filled.fresh _ group' found le_rfl] at named
        cases named
      refine ⟨groupId, group', id, ?_, named⟩
      rw [groups, OrderedMap.find_set_ne other, found]
    · cases identified with
      | requested param _ _ isId _ =>
          refine ⟨state.numberMatched, group, _, ?_, isId⟩
          rw [groups, OrderedMap.find_set_self]
      | unknown absent _ _ =>
          rw [absent] at isRequested
          cases isRequested

/-- One row: a row of a requested measurand belongs to a group with an identifier. -/
theorem Filled.next {parameters : MastParameterMap} {request : FeatureID}
    {stationInfo : ByteString → Option σ} {state after : MastState σ} {row : MastRow}
    (filled : Filled parameters request state)
    (ran : fillMastRow parameters stationInfo state row = .ok after) :
    Filled parameters request after ∧
      (HasIdentifier after ↔
        HasIdentifier state ∨ (parameters.map.find row.measurandId).isSome) := by
  unfold fillMastRow at ran
  split at ran
  · obtain ⟨middle, started, added⟩ := ok_of_bind ran
    cases added
    exact ⟨(filled.startGroup started).addData row,
      hasIdentifier_addData.trans (filled.hasIdentifier_startGroup started)⟩
  · next same =>
      cases ran
      rw [not_or, not_or, not_not, not_not] at same
      refine ⟨filled.addData row, hasIdentifier_addData.trans (or_iff_left_of_imp ?_).symm⟩
      rw [← same.2.1]
      exact filled.named

/-- All rows keep the groups filled. -/
theorem Filled.run {parameters : MastParameterMap} {request : FeatureID}
    {stationInfo : ByteString → Option σ} (rows : List MastRow) {state after : MastState σ}
    (filled : Filled parameters request state)
    (ran : rows.foldlM (fillMastRow parameters stationInfo) state = .ok after) :
    Filled parameters request after ∧
      (HasIdentifier after ↔
        HasIdentifier state ∨ ∃ row ∈ rows, (parameters.map.find row.measurandId).isSome) := by
  induction rows generalizing state with
  | nil =>
      cases ran
      refine ⟨filled, (or_iff_left ?_).symm⟩
      intro ⟨row, member, _⟩
      cases member
  | cons row rows ih =>
      rw [List.foldlM_cons] at ran
      obtain ⟨middle, stepped, ranRest⟩ := ok_of_bind ran
      obtain ⟨filled', has'⟩ := filled.next stepped
      obtain ⟨filled'', has''⟩ := ih filled' ranRest
      refine ⟨filled'', has''.trans ?_⟩
      rw [has', or_assoc, List.exists_mem_cons_iff]

/-- The text with which the loop starts is no measurand's. -/
theorem MastParameterMap.find_start (parameters : MastParameterMap) :
    parameters.map.find (ascii "FooBarMeasurandId") = none := by
  refine Option.eq_none_iff_forall_not_mem.mpr fun param found => ?_
  have keyed : ascii "FooBarMeasurandId" = decimal param.paramId.toNat :=
    parameters.keyed _ (OrderedMap.find_eq_some.mp found)
  have letter : (70 : UInt8) ∈ ascii "FooBarMeasurandId" := by decide
  exact ne_decimal_of_mem letter (by decide) _ keyed

/-- The groups of a result are filled. -/
theorem mastGroups_filled {parameters : MastParameterMap} {request : FeatureID}
    {stationInfo : ByteString → Option σ} {rows : List MastRow} {state : MastState σ}
    (ran : mastGroups parameters stationInfo rows request = .ok state) :
    Filled parameters request state ∧
      (HasIdentifier state ↔ ∃ row ∈ rows, (parameters.map.find row.measurandId).isSome) := by
  rw [mastGroups, FeatureID.foldl_eraseParam] at ran
  have start : Filled parameters request (MastState.start (σ := σ) (request.withParams
      (request.params.eraseAll mastRequestErased))) := by
    refine ⟨?_, fun _ _ found => ?_, fun _ _ _ found => ?_, fun requested => ?_⟩
    · exact (Multimap.eraseAll_append mastRequestErased mastGroupKeys request.params).symm
    · cases found
    · cases found
    · change (parameters.map.find (ascii "FooBarMeasurandId")).isSome at requested
      rw [parameters.find_start] at requested
      cases requested
  obtain ⟨filled, has⟩ := start.run rows ran
  refine ⟨filled, has.trans (or_iff_right ?_)⟩
  intro ⟨_, _, _, found, _⟩
  cases found

/-! ### What is read back -/

/-- The parameters that say which data a mast identifier asks for. -/
def mastNames : List ByteString :=
  locationParams mastOptions ++ [pBoundingBox, pBeginTime, pEndTime, pMeteoParameters]

/-- The identifier of a group asks for the group's own station, time and parameters. -/
def NamesOwnData (caseSensitiveParams : Bool) (group : MastGroup σ) (id : FeatureID) : Prop :=
  ∃ fmisid station time, group.station = some (fmisid, station) ∧
    group.phenomenonTime = some time ∧ group.resultTime = some time ∧
    (∀ name ∈ locationParams mastOptions ++ [pBoundingBox],
      readBack caseSensitiveParams id.params name =
        if name = pFmisids then [.string fmisid] else []) ∧
    readBack caseSensitiveParams id.params pBeginTime = [.string time] ∧
    readBack caseSensitiveParams id.params pEndTime = [.string time] ∧
    readBack caseSensitiveParams id.params pMeteoParameters =
      group.obsParamList.map fun obsParam => .string obsParam.name

/-- The names of a mast query are told apart. -/
theorem distinguished_mastNames (caseSensitiveParams : Bool) :
    Distinguished caseSensitiveParams (mastNames ++ [pNumOfStations, pTimeStep]) := by
  cases caseSensitiveParams <;> decide

/-- The values a group adds under a name. -/
def mastValues (fmisid time : ByteString) (obsParamList : List ObsParam) (name : ByteString) :
    List Value :=
  ((mastAdded fmisid time obsParamList).filter fun entry => entry.1 = name).map Prod.snd

theorem mastValues_ne {fmisid time : ByteString} {obsParamList : List ObsParam}
    {name : ByteString} (other : pMeteoParameters ≠ name) :
    mastValues fmisid time obsParamList name =
      ((mastGroupSet fmisid time).filter fun entry => entry.1 = name).map Prod.snd := by
  have unlisted : (obsParamList.map fun obsParam =>
      (pMeteoParameters, Value.string obsParam.name)).filter (fun entry => entry.1 = name) =
        [] := by
    refine List.filter_eq_nil_iff.mpr fun entry member => ?_
    obtain ⟨obsParam, _, rfl⟩ := List.mem_map.mp member
    exact fun same => other (of_decide_eq_true same)
  rw [mastValues, mastAdded, List.filter_append, unlisted, List.append_nil]

/-- The quantities are those of the columns. -/
theorem mastValues_meteo (fmisid time : ByteString) (obsParamList : List ObsParam) :
    mastValues fmisid time obsParamList pMeteoParameters =
      obsParamList.map fun obsParam => .string obsParam.name := by
  have unset : (mastGroupSet fmisid time).filter (fun entry => entry.1 = pMeteoParameters) = [] :=
    rfl
  rw [mastValues, mastAdded, List.filter_append, unset, List.nil_append, List.filter_eq_self.mpr,
    List.map_map]
  · rfl
  · intro entry member
    obtain ⟨obsParam, _, rfl⟩ := List.mem_map.mp member
    exact decide_eq_true rfl

/-- The values a group adds are those an identifier of its own has. -/
theorem mastValues_location {fmisid time : ByteString} {obsParamList : List ObsParam} :
    ∀ name ∈ locationParams mastOptions ++ [pBoundingBox],
      mastValues fmisid time obsParamList name =
        if name = pFmisids then [.string fmisid] else [] := by
  have others : ∀ name ∈ locationParams mastOptions ++ [pBoundingBox],
      pMeteoParameters ≠ name := by decide
  intro name member
  rw [mastValues_ne (others name member)]
  have cases_of : name = pPlaces ∨ name = pLatlons ∨ name = pFmisids ∨ name = pGeoids ∨
      name = pWmos ∨ name = pBoundingBox := by
    change name ∈ [pPlaces, pLatlons, pFmisids, pGeoids, pWmos, pBoundingBox] at member
    simpa using member
  rcases cases_of with rfl | rfl | rfl | rfl | rfl | rfl <;> rfl

/-- An identifier names its group's own data exactly when the request has nothing left
under the names that say which data are asked for. -/
theorem HoldsOwn.namesOwnData_iff {caseSensitiveParams : Bool} {request : FeatureID}
    {group : MastGroup σ} {id : FeatureID} (holds : HoldsOwn request group id) :
    NamesOwnData caseSensitiveParams group id ↔
      ∀ name ∈ mastNames, NothingLeft caseSensitiveParams request.params mastErased name := by
  obtain ⟨fmisid, station, time, isStation, isTime, isResultTime, params⟩ := holds
  have reads : ∀ name ∈ mastNames, readBack caseSensitiveParams id.params name =
      mastValues fmisid time group.obsParamList name ↔
        NothingLeft caseSensitiveParams request.params mastErased name := by
    intro name member
    rw [params]
    refine readBack_partParams (fun _ added => List.mem_append_right _ (mem_mastAdded added)) ?_
    have known : ∀ other ∈ mastErased, other ∈ mastNames ++ [pNumOfStations, pTimeStep] := by
      decide
    exact fun other erased => (distinguished_mastNames caseSensitiveParams).eq (known other erased)
      (List.mem_append_left _ member)
  have beginTime : mastValues fmisid time group.obsParamList pBeginTime = [.string time] := by
    rw [mastValues_ne (by decide)]
    rfl
  have endTime : mastValues fmisid time group.obsParamList pEndTime = [.string time] := by
    rw [mastValues_ne (by decide)]
    rfl
  have located : ∀ name ∈ locationParams mastOptions ++ [pBoundingBox], name ∈ mastNames := by
    decide
  constructor
  · intro ⟨fmisid', station', time', isStation', isTime', _, location, begins, ends, meteo⟩
    obtain ⟨rfl, rfl⟩ := Prod.mk.inj (Option.some.inj (isStation.symm.trans isStation'))
    obtain rfl := Option.some.inj (isTime.symm.trans isTime')
    intro name member
    refine (reads name member).mp ?_
    have cases_of : name ∈ locationParams mastOptions ++ [pBoundingBox] ∨
        name = pBeginTime ∨ name = pEndTime ∨ name = pMeteoParameters := by
      have listed : ∀ name ∈ mastNames, name ∈ locationParams mastOptions ++ [pBoundingBox] ∨
        name = pBeginTime ∨ name = pEndTime ∨ name = pMeteoParameters := by decide
      exact listed name member
    rcases cases_of with isLocation | rfl | rfl | rfl
    · rw [location name isLocation, mastValues_location name isLocation]
    · rw [begins, beginTime]
    · rw [ends, endTime]
    · rw [meteo, mastValues_meteo]
  · intro nothingLeft
    have own : ∀ name ∈ mastNames, readBack caseSensitiveParams id.params name =
        mastValues fmisid time group.obsParamList name :=
      fun name member => (reads name member).mpr (nothingLeft name member)
    refine ⟨fmisid, station, time, isStation, isTime, isResultTime, fun name isLocation => ?_,
      ?_, ?_, ?_⟩
    · rw [own name (located name isLocation), mastValues_location name isLocation]
    · rw [own pBeginTime (by decide), beginTime]
    · rw [own pEndTime (by decide), endTime]
    · rw [own pMeteoParameters (by decide), mastValues_meteo]

/-- The identifiers of all member groups name their groups' own data exactly when no row
is of a requested measurand, so that there are no identifiers, or the request has nothing
left under the names that say which data are asked for. -/
theorem mastGroups_nameOwnData_iff {caseSensitiveParams : Bool} {parameters : MastParameterMap}
    {stationInfo : ByteString → Option σ} {rows : List MastRow} {request : FeatureID}
    {state : MastState σ} (ran : mastGroups parameters stationInfo rows request = .ok state) :
    (∀ groupId group id, state.groups.find groupId = some group → group.featureId = some id →
        NamesOwnData caseSensitiveParams group id) ↔
      (∀ row ∈ rows, parameters.map.find row.measurandId = none) ∨
        ∀ name ∈ mastNames, NothingLeft caseSensitiveParams request.params mastErased name := by
  obtain ⟨filled, has⟩ := mastGroups_filled ran
  constructor
  · intro own
    by_cases requested : ∃ row ∈ rows, (parameters.map.find row.measurandId).isSome
    · obtain ⟨groupId, group, id, found, named⟩ := has.mpr requested
      exact .inr ((filled.groups groupId group id found named).namesOwnData_iff.mp
        (own groupId group id found named))
    · refine .inl fun row member => Option.not_isSome_iff_eq_none.mp fun isRequested => ?_
      exact requested ⟨row, member, isRequested⟩
  · rintro (none | nothingLeft) groupId group id found named
    · obtain ⟨row, member, requested⟩ := has.mp ⟨groupId, group, id, found, named⟩
      rw [none row member] at requested
      cases requested
    · exact (filled.groups groupId group id found named).namesOwnData_iff.mpr nothingLeft

/-- The temperature, requested by its name. -/
def temperatureOnly : MastParameterMap where
  map := OrderedMap.empty.set (decimal 1) ⟨1, ascii "TA", [], true, false⟩
  keyed := by decide

/-- A measurement at a mast. -/
def mastRow : MastRow where
  stationId := ascii "101000"
  measurandId := decimal 1
  dataTime := ascii "2020-01-01T00:00:00Z"
  dataLevel := ascii "2.0"
  dataValue := ascii "-3.5"
  dataQuality := ascii "1"

/-- A request by coordinates. -/
def latlonRequest : FeatureID where
  storedQueryId := ascii "fmi::observations::mast"
  params := Multimap.insertAll [(pLatlons, .double ⟨.replicate 8 0⟩),
    (pLatlons, .double ⟨.replicate 8 0⟩), (pMeteoParameters, .string (ascii "TA"))] .empty
  seqId := 0

/-- It has a result. -/
theorem latlonRequest_ran : ∃ state : MastState Unit,
    mastGroups temperatureOnly (fun _ => some ()) [mastRow] latlonRequest = .ok state := ⟨_, rfl⟩

/-- Its groups name their own data. -/
theorem mastGroups_nameOwnData_sample :
    ∃ state : MastState Unit,
      mastGroups temperatureOnly (fun _ => some ()) [mastRow] latlonRequest = .ok state ∧
        ((∀ groupId group id, state.groups.find groupId = some group →
            group.featureId = some id → NamesOwnData true group id) ↔
          (∀ row ∈ [mastRow], temperatureOnly.map.find row.measurandId = none) ∨
            ∀ name ∈ mastNames, NothingLeft true latlonRequest.params mastErased name) := by
  obtain ⟨state, ran⟩ := latlonRequest_ran
  exact ⟨state, ran, mastGroups_nameOwnData_iff ran⟩

/-- The coordinates of the request stay in the identifier of the group of a mast. -/
theorem coordinates_leftInGroup :
    ∃ state : MastState Unit,
      mastGroups temperatureOnly (fun _ => some ()) [mastRow] latlonRequest = .ok state ∧
        ¬ ∀ groupId group id, state.groups.find groupId = some group →
          group.featureId = some id → NamesOwnData true group id := by
  obtain ⟨state, ran⟩ := latlonRequest_ran
  refine ⟨state, ran, fun own => ?_⟩
  obtain ⟨filled, has⟩ := mastGroups_filled ran
  obtain ⟨groupId, group, id, found, named⟩ := has.mpr ⟨mastRow, List.mem_cons_self, by decide⟩
  have nothingLeft := (filled.groups groupId group id found named).namesOwnData_iff.mp
    (own groupId group id found named) pLatlons (by decide)
  exact absurd nothingLeft (by decide)

end SmartMetWfs.Handlers
