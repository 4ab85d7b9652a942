import SmartMetWfs.Handlers.LocationParameters

/-!
# Groups of observations

`StoredObsQueryHandler::assign_groups` gives every station of a result a group when
groups are to be separate, and an identifier to every group and to every parameter of
it. One feature identifier goes through both loops: what a group's identifier holds
depends on what the loops have erased and added before.

An identifier is kept as the `FeatureID` whose text it is.
-/

namespace SmartMetWfs.Handlers

open Foundation Parameters

/-- `StoredObsQueryHandler::SiteRec`. -/
structure SiteRec where
  groupId : Nat
  indInGroup : Nat
  rowIndexVect : List Nat
  deriving DecidableEq

/-- `StoredObsQueryHandler::GroupRec`. -/
structure GroupRec where
  featureId : Option FeatureID
  paramIds : OrderedMap ByteString FeatureID

/-- A group before it has anything. -/
def GroupRec.new : GroupRec := ⟨none, .empty⟩

/-- `place_params`. -/
def placeParams : List ByteString :=
  [pWmos, pLpnns, pFmisids, pPlaces, pLatlons, pGeoids, pKeyword, pBoundingBox]

/-- The containers of `assign_groups` and its running identifier. -/
structure Assignment where
  groupCnt : Nat
  siteMap : OrderedMap ByteString SiteRec
  groupMap : OrderedMap Nat GroupRec
  featureId : FeatureID

/-- The identifiers of the parameters of a group; the identifier of the last parameter
is left behind. -/
def assignParamIds (paramNames : List ByteString) (groupId : Nat) (state : Assignment) :
    Assignment :=
  paramNames.foldl (fun state paramName =>
    let featureId := (state.featureId.eraseParam pMeteoParameters).addParam pMeteoParameters
      (.string paramName)
    let group := (state.groupMap.find groupId).getD .new
    { state with
      featureId
      groupMap := state.groupMap.set groupId
        { group with paramIds := group.paramIds.set paramName featureId } }) state

/-- One station of separate groups. -/
def assignSeparate (paramNames : List ByteString) (state : Assignment)
    (item : ByteString × SiteRec) : Assignment :=
  let (fmisid, site) := item
  let groupId := state.groupCnt
  let erased := placeParams.foldl (fun id placeParam => id.eraseParam placeParam) state.featureId
  let featureId := erased.addParam pFmisids (.string fmisid)
  let group := (state.groupMap.find groupId).getD .new
  assignParamIds paramNames groupId
    { groupCnt := groupId + 1
      siteMap := state.siteMap.set fmisid { site with groupId, indInGroup := 0 }
      groupMap := state.groupMap.set groupId { group with featureId := some featureId }
      featureId }

/-- One station of the common group; the counter numbers the stations. -/
def assignCommon (state : Assignment) (item : ByteString × SiteRec) : Assignment :=
  { state with
    groupCnt := state.groupCnt + 1
    siteMap := state.siteMap.set item.1
      { item.2 with groupId := 0, indInGroup := state.groupCnt } }

/-- `assign_groups`, called with an empty `group_map`. -/
def assignGroups (separateGroups : Bool) (siteMap : OrderedMap ByteString SiteRec)
    (featureId : FeatureID) (paramNames : List ByteString) : Assignment :=
  let start : Assignment := ⟨0, siteMap, .empty, featureId⟩
  if separateGroups then siteMap.entries.foldl (assignSeparate paramNames) start
  else
    let state := siteMap.entries.foldl assignCommon start
    let group := (state.groupMap.find 0).getD .new
    assignParamIds paramNames 0
      { state with groupMap := state.groupMap.set 0 { group with featureId := some featureId } }

/-! ### What the identifiers should hold -/

/-- The request's parameters with all location parameters replaced by one station. -/
def stationParams (caseSensitiveParams : Bool) (request : ValueMap) (fmisid : ByteString) :
    ValueMap :=
  (withoutNames caseSensitiveParams placeParams request).insert pFmisids (.string fmisid)

/-- The same with one parameter in place of the requested ones. -/
def stationParamParams (caseSensitiveParams : Bool) (request : ValueMap)
    (fmisid paramName : ByteString) : ValueMap :=
  (withoutNames caseSensitiveParams [pMeteoParameters]
    (stationParams caseSensitiveParams request fmisid)).insert pMeteoParameters (.string paramName)

/-- Every station has a group of its own, and the identifiers of the group and of its
parameters ask for exactly the data they are attached to. -/
def NamesRightData (caseSensitiveParams : Bool) (request : FeatureID)
    (siteMap : OrderedMap ByteString SiteRec) (paramNames : List ByteString) : Prop :=
  ∀ (index : Nat) (fmisid : ByteString) (site : SiteRec),
    siteMap.entries[index]? = some (fmisid, site) →
      (assignGroups true siteMap request paramNames).siteMap.find fmisid =
          some { site with groupId := index, indInGroup := 0 } ∧
        ∃ group, (assignGroups true siteMap request paramNames).groupMap.find index = some group ∧
          group.featureId =
            some (request.withParams (stationParams caseSensitiveParams request.params fmisid)) ∧
          ∀ paramName ∈ paramNames, group.paramIds.find paramName = some (request.withParams
            (stationParamParams caseSensitiveParams request.params fmisid paramName))

/-! ### The loop over the parameters -/

/-- The parameters left behind by the loop over the parameters. -/
def leftParams (paramNames : List ByteString) (params : ValueMap) : ValueMap :=
  match paramNames.getLast? with
  | none => params
  | some paramName => params.replace pMeteoParameters (.string paramName)

/-- The last name is the one that is left in the parameters. -/
theorem leftParams_concat (paramNames : List ByteString) (paramName : ByteString)
    (params : ValueMap) :
    leftParams (paramNames ++ [paramName]) params =
      params.replace pMeteoParameters (.string paramName) := by
  rw [leftParams, List.getLast?_concat]

/-- What is left is replaced. -/
theorem replace_leftParams (paramNames : List ByteString) (params : ValueMap) (value : Value) :
    (leftParams paramNames params).replace pMeteoParameters value =
      params.replace pMeteoParameters value := by
  unfold leftParams
  split
  · rfl
  · exact Multimap.replace_replace _ _ _ _

/-- What the loop over the parameters of a group does. -/
structure ParamIdsAssigned (paramNames : List ByteString) (groupId : Nat) (group : GroupRec)
    (before after : Assignment) : Prop where
  groupCnt : after.groupCnt = before.groupCnt
  siteMap : after.siteMap = before.siteMap
  otherGroups : ∀ other, other ≠ groupId →
    after.groupMap.find other = before.groupMap.find other
  featureId : after.featureId =
    before.featureId.withParams (leftParams paramNames before.featureId.params)
  ownGroup : ∃ group', after.groupMap.find groupId = some group' ∧
    group'.featureId = group.featureId ∧
    ∀ paramName ∈ paramNames, group'.paramIds.find paramName = some (before.featureId.withParams
      (before.featureId.params.replace pMeteoParameters (.string paramName)))

/-- Every column of a group gets its identifier. -/
theorem assignParamIds_spec (paramNames : List ByteString) {groupId : Nat} {group : GroupRec}
    {state : Assignment} (found : state.groupMap.find groupId = some group) :
    ParamIdsAssigned paramNames groupId group state (assignParamIds paramNames groupId state) := by
  induction paramNames using List.reverseRecOn with
  | nil => exact ⟨rfl, rfl, fun _ _ => rfl, rfl, group, found, rfl, fun _ member => by cases member⟩
  | append_singleton paramNames paramName ih =>
      obtain ⟨group', found', sameId, stored⟩ := ih.ownGroup
      have last : ((assignParamIds paramNames groupId state).featureId.eraseParam
          pMeteoParameters).addParam pMeteoParameters (.string paramName) =
            state.featureId.withParams
              (state.featureId.params.replace pMeteoParameters (.string paramName)) := by
        rw [ih.featureId, FeatureID.replaceParam_withParams, replace_leftParams]
      rw [assignParamIds, List.foldl_append]
      change ParamIdsAssigned _ _ _ _ (List.foldl _ (assignParamIds paramNames groupId state) _)
      refine ⟨ih.groupCnt, ih.siteMap, fun other distinct => ?_, ?_, ?_⟩
      · rw [← ih.otherGroups other distinct]
        exact OrderedMap.find_set_ne distinct _ _
      · rw [leftParams_concat]
        exact last
      · refine ⟨_, OrderedMap.find_set_self _ _ _, ?_, fun other member => ?_⟩
        · rw [found']
          exact sameId
        · rw [found', last]
          change (OrderedMap.set paramName _ group'.paramIds).find other = _
          by_cases same : other = paramName
          · rw [same, OrderedMap.find_set_self]
          · rw [OrderedMap.find_set_ne same]
            rcases List.mem_append.mp member with earlier | new
            · exact stored other earlier
            · exact absurd (List.mem_singleton.mp new) same

/-! ### The loop over the stations -/

/-- The request's parameters other than the location parameters, as the loops leave them
behind: after the first station the last parameter stands for the requested ones. -/
def carriedParams (request : ValueMap) (paramNames : List ByteString) (index : Nat) : ValueMap :=
  if index = 0 then request.eraseAll placeParams
  else leftParams paramNames (request.eraseAll placeParams)

/-- The parameters a station's identifier is given. -/
def assignedParams (request : ValueMap) (paramNames : List ByteString) (index : Nat)
    (fmisid : ByteString) : ValueMap :=
  (carriedParams request paramNames index).insert pFmisids (.string fmisid)

/-- The parameters the identifier of a parameter is given. -/
def assignedParamParams (request : ValueMap) (fmisid paramName : ByteString) : ValueMap :=
  ((request.eraseAll placeParams).insert pFmisids (.string fmisid)).replace pMeteoParameters
    (.string paramName)

/-- The state of the loop over the stations after the stations of `done`. -/
structure Assigned (request : FeatureID) (paramNames : List ByteString)
    (done : List (ByteString × SiteRec)) (state : Assignment) : Prop where
  groupCnt : state.groupCnt = done.length
  identity : state.featureId = request.withParams state.featureId.params
  carried : state.featureId.params.eraseAll placeParams =
    carriedParams request.params paramNames done.length
  stations : ∀ (index : Nat) (fmisid : ByteString) (site : SiteRec),
    done[index]? = some (fmisid, site) →
      state.siteMap.find fmisid = some { site with groupId := index, indInGroup := 0 } ∧
        ∃ group, state.groupMap.find index = some group ∧
          group.featureId =
            some (request.withParams (assignedParams request.params paramNames index fmisid)) ∧
          ∀ paramName ∈ paramNames, group.paramIds.find paramName = some (request.withParams
            (assignedParamParams request.params fmisid paramName))

/-- The places can be erased before or after. -/
theorem eraseAll_leftParams (paramNames : List ByteString) (params : ValueMap) :
    (leftParams paramNames params).eraseAll placeParams =
      leftParams paramNames (params.eraseAll placeParams) := by
  unfold leftParams
  split
  · rfl
  · exact Multimap.eraseAll_replace (by decide) _ _

/-- What is left twice is left once. -/
theorem leftParams_leftParams (paramNames : List ByteString) (params : ValueMap) :
    leftParams paramNames (leftParams paramNames params) = leftParams paramNames params := by
  unfold leftParams
  cases paramNames.getLast? with
  | none => rfl
  | some paramName => exact Multimap.replace_replace _ _ _ _

/-- Whatever the parameters left behind, the next station carries the last one on. -/
theorem carriedParams_succ (request : ValueMap) (paramNames : List ByteString) (index : Nat)
    (fmisid : ByteString) :
    (leftParams paramNames (assignedParams request paramNames index fmisid)).eraseAll placeParams =
      carriedParams request paramNames (index + 1) := by
  rw [eraseAll_leftParams, assignedParams, Multimap.eraseAll_insert (by decide), carriedParams,
    carriedParams, if_neg (Nat.succ_ne_zero index)]
  split
  · rw [Multimap.eraseAll_eraseAll]
  · rw [eraseAll_leftParams, Multimap.eraseAll_eraseAll, leftParams_leftParams]

/-- The parameters of a column are those of its group with its name. -/
theorem replace_assignedParams (request : ValueMap) (paramNames : List ByteString) (index : Nat)
    (fmisid paramName : ByteString) :
    (assignedParams request paramNames index fmisid).replace pMeteoParameters (.string paramName) =
      assignedParamParams request fmisid paramName := by
  rw [assignedParams, assignedParamParams, Multimap.replace_insert (by decide),
    Multimap.replace_insert (by decide), carriedParams]
  split
  · rfl
  · rw [replace_leftParams]

/-- One more group is assigned. -/
theorem Assigned.next {request : FeatureID} {paramNames : List ByteString}
    {done : List (ByteString × SiteRec)} {state : Assignment}
    (assigned : Assigned request paramNames done state) {item : ByteString × SiteRec}
    (fresh : ∀ earlier ∈ done, earlier.1 ≠ item.1) :
    Assigned request paramNames (done ++ [item]) (assignSeparate paramNames state item) := by
  obtain ⟨fmisid, site⟩ := item
  have own : (placeParams.foldl (fun id placeParam => id.eraseParam placeParam)
      state.featureId).addParam pFmisids (.string fmisid) =
        request.withParams (assignedParams request.params paramNames done.length fmisid) := by
    rw [FeatureID.foldl_eraseParam, assigned.carried, assigned.identity]
    rfl
  let before : Assignment :=
    { groupCnt := state.groupCnt + 1
      siteMap := state.siteMap.set fmisid { site with groupId := state.groupCnt, indInGroup := 0 }
      groupMap := state.groupMap.set state.groupCnt
        { (state.groupMap.find state.groupCnt).getD .new with
          featureId := some (request.withParams
            (assignedParams request.params paramNames done.length fmisid)) }
      featureId := request.withParams
        (assignedParams request.params paramNames done.length fmisid) }
  have step : assignSeparate paramNames state (fmisid, site) =
      assignParamIds paramNames state.groupCnt before := by
    change assignParamIds paramNames state.groupCnt _ = _
    rw [own]
  have spec : ParamIdsAssigned paramNames state.groupCnt _ before
      (assignParamIds paramNames state.groupCnt before) :=
    assignParamIds_spec paramNames (OrderedMap.find_set_self _ _ _)
  rw [step]
  refine ⟨?_, ?_, ?_, fun index fmisid' site' found => ?_⟩
  · rw [spec.groupCnt, List.length_append]
    exact congrArg (· + 1) assigned.groupCnt
  · rw [spec.featureId]
    rfl
  · rw [spec.featureId, List.length_append]
    exact carriedParams_succ request.params paramNames done.length fmisid
  · rw [spec.siteMap]
    by_cases last : index = done.length
    · subst last
      rw [List.getElem?_concat_length, Option.some.injEq, Prod.mk.injEq] at found
      obtain ⟨rfl, rfl⟩ := found
      refine ⟨?_, ?_⟩
      · change (state.siteMap.set fmisid _).find fmisid = _
        rw [OrderedMap.find_set_self, assigned.groupCnt]
      · obtain ⟨group, stands, sameId, stored⟩ := spec.ownGroup
        refine ⟨group, assigned.groupCnt ▸ stands, sameId, fun paramName member => ?_⟩
        rw [stored paramName member]
        exact congrArg (fun params => some (request.withParams params))
          (replace_assignedParams request.params paramNames done.length fmisid paramName)
    · have inside : index < done.length := by
        have bound := (List.getElem?_eq_some_iff.mp found).1
        rw [List.length_append, List.length_singleton] at bound
        omega
      rw [List.getElem?_append_left inside] at found
      obtain ⟨site_eq, group, stands, rest⟩ := assigned.stations index fmisid' site' found
      have earlier : fmisid' ≠ fmisid := fresh _ (List.mem_of_getElem? found)
      have foreign : index ≠ state.groupCnt := assigned.groupCnt ▸ last
      refine ⟨?_, group, ?_, rest⟩
      · change (state.siteMap.set fmisid _).find fmisid' = _
        rw [OrderedMap.find_set_ne earlier, site_eq]
      · rw [spec.otherGroups index foreign]
        change (state.groupMap.set state.groupCnt _).find index = _
        rw [OrderedMap.find_set_ne foreign, stands]

/-- All groups are assigned one after the other. -/
theorem Assigned.run {request : FeatureID} {paramNames : List ByteString}
    (rest done : List (ByteString × SiteRec))
    (distinct : (done ++ rest).Pairwise fun first second => first.1 < second.1)
    {state : Assignment} (assigned : Assigned request paramNames done state) :
    Assigned request paramNames (done ++ rest) (rest.foldl (assignSeparate paramNames) state) := by
  induction rest generalizing done state with
  | nil => rwa [List.append_nil]
  | cons item rest ih =>
      have fresh : ∀ earlier ∈ done, earlier.1 ≠ item.1 := fun earlier member =>
        ((List.pairwise_append.mp distinct).2.2 earlier member item List.mem_cons_self).ne
      rw [List.append_cons] at distinct ⊢
      exact ih (done ++ [item]) distinct (assigned.next fresh)

/-- Separate groups of any result. -/
theorem assigned_assignGroups (request : FeatureID) (siteMap : OrderedMap ByteString SiteRec)
    (paramNames : List ByteString) :
    Assigned request paramNames siteMap.entries (assignGroups true siteMap request paramNames) := by
  have start : Assigned request paramNames [] ⟨0, siteMap, .empty, request⟩ :=
    ⟨rfl, rfl, rfl, fun _ _ _ found => by cases found⟩
  exact start.run siteMap.entries [] siteMap.sorted

/-! ### When the identifiers name the right data -/

/-- The names are told apart. -/
theorem distinguished_meteo (caseSensitiveParams : Bool) :
    Distinguished caseSensitiveParams (pMeteoParameters :: placeParams) := by
  cases caseSensitiveParams <;> decide

/-- The first group has the parameters of its station. -/
theorem assignedParams_zero {caseSensitiveParams : Bool} {request : ValueMap}
    {paramNames : List ByteString} {fmisid : ByteString} :
    assignedParams request paramNames 0 fmisid = stationParams caseSensitiveParams request fmisid ↔
      ∀ name ∈ placeParams, NothingLeft caseSensitiveParams request placeParams name :=
  Multimap.insert_cancel.trans eraseAll_eq_withoutNames

/-- The later stations ask for the requested parameters when these are the last one. -/
theorem assignedParams_succ {caseSensitiveParams : Bool} {request : ValueMap}
    {paramNames : List ByteString} {index : Nat} {fmisid : ByteString}
    (nothingLeft : ∀ name ∈ placeParams, NothingLeft caseSensitiveParams request placeParams name) :
    assignedParams request paramNames (index + 1) fmisid =
        stationParams caseSensitiveParams request fmisid ↔
      ∀ last ∈ paramNames.getLast?, request.equalRange pMeteoParameters = [.string last] := by
  have meteo : pMeteoParameters ∉ placeParams := by decide
  refine Multimap.insert_cancel.trans ?_
  rw [← eraseAll_eq_withoutNames.mpr nothingLeft, carriedParams, if_neg (Nat.succ_ne_zero index),
    leftParams]
  cases paramNames.getLast? with
  | none => exact ⟨fun _ last member => (by cases member), fun _ => rfl⟩
  | some last =>
      have unchanged : (request.eraseAll placeParams).equalRange pMeteoParameters =
          request.equalRange pMeteoParameters := by
        rw [Multimap.equalRange_eraseAll, if_neg meteo]
      refine Multimap.replace_eq_self.trans ?_
      rw [unchanged]
      exact ⟨fun alone other member => Option.some.inj member ▸ alone, fun alone => alone last rfl⟩

/-- With nothing left the column has the parameters of its station. -/
theorem assignedParamParams_eq {caseSensitiveParams : Bool} {request : ValueMap}
    {fmisid paramName : ByteString}
    (nothingLeft : ∀ name ∈ placeParams, NothingLeft caseSensitiveParams request placeParams name) :
    assignedParamParams request fmisid paramName =
        stationParamParams caseSensitiveParams request fmisid paramName ↔
      NothingLeft caseSensitiveParams request [pMeteoParameters] pMeteoParameters := by
  have foreign : ∀ name ∈ placeParams, RequestParameterMap.key caseSensitiveParams name ≠
      RequestParameterMap.key caseSensitiveParams pMeteoParameters := by
    intro name member same
    have equal := (distinguished_meteo caseSensitiveParams).eq (List.mem_cons_of_mem _ member)
      List.mem_cons_self same
    exact absurd (equal ▸ member) (by decide)
  refine Multimap.insert_cancel.trans ?_
  rw [stationParams, ← eraseAll_eq_withoutNames.mpr nothingLeft]
  refine eraseAll_eq_withoutNames.trans (List.forall_mem_singleton.trans ⟨?_, ?_⟩)
  · intro left entry member sameKey
    refine left entry (Multimap.mem_insertEntry.mpr (.inr (Multimap.mem_eraseAll.mpr
      ⟨member, fun place => foreign entry.1 place sameKey⟩))) sameKey
  · intro left entry member sameKey
    rcases Multimap.mem_insertEntry.mp member with rfl | old
    · exact absurd sameKey (foreign pFmisids (by decide))
    · exact left entry (Multimap.mem_eraseAll.mp old).1 sameKey

/-- Every location parameter of the request is spelt as it is registered, and so are the
meteo parameters if any are asked for; from the second station on, the requested ones
are just the last of those asked for. -/
def Requestable (caseSensitiveParams : Bool) (request : ValueMap)
    (siteMap : OrderedMap ByteString SiteRec) (paramNames : List ByteString) : Prop :=
  (∀ name ∈ placeParams, NothingLeft caseSensitiveParams request placeParams name) ∧
    (paramNames ≠ [] →
      NothingLeft caseSensitiveParams request [pMeteoParameters] pMeteoParameters) ∧
    (2 ≤ siteMap.entries.length →
      ∀ last ∈ paramNames.getLast?, request.equalRange pMeteoParameters = [.string last])

/-- The identifiers of separate groups name the right data exactly when there is no
station or the request is `Requestable`. -/
theorem namesRightData_iff (caseSensitiveParams : Bool) (request : FeatureID)
    (siteMap : OrderedMap ByteString SiteRec) (paramNames : List ByteString) :
    NamesRightData caseSensitiveParams request siteMap paramNames ↔
      siteMap.entries = [] ∨ Requestable caseSensitiveParams request.params siteMap paramNames := by
  have assigned := assigned_assignGroups request siteMap paramNames
  have params_inj : ∀ {left right : ValueMap},
      some (request.withParams left) = some (request.withParams right) → left = right :=
    fun same => congrArg FeatureID.params (Option.some.inj same)
  constructor
  · intro right
    cases sites : siteMap.entries with
    | nil => exact .inl rfl
    | cons first rest =>
        refine .inr ?_
        obtain ⟨fmisid, site⟩ := first
        have stands : siteMap.entries[0]? = some (fmisid, site) := by rw [sites]; rfl
        obtain ⟨_, group, found, named, params⟩ := right 0 fmisid site stands
        obtain ⟨_, group', found', named', params'⟩ := assigned.stations 0 fmisid site stands
        obtain rfl := Option.some.inj (found.symm.trans found')
        have nothingLeft := assignedParams_zero.mp (params_inj (named'.symm.trans named))
        refine ⟨nothingLeft, fun asked => ?_, fun several => ?_⟩
        · obtain ⟨paramName, member⟩ := List.exists_mem_of_ne_nil paramNames asked
          exact (assignedParamParams_eq nothingLeft).mp
            (params_inj ((params' paramName member).symm.trans (params paramName member)))
        · obtain ⟨⟨fmisid', site'⟩, stands⟩ : ∃ item, siteMap.entries[1]? = some item :=
            ⟨_, List.getElem?_eq_getElem several⟩
          obtain ⟨_, group, found, named, _⟩ := right 1 fmisid' site' stands
          obtain ⟨_, group', found', named', _⟩ := assigned.stations 1 fmisid' site' stands
          obtain rfl := Option.some.inj (found.symm.trans found')
          exact (assignedParams_succ nothingLeft).mp (params_inj (named'.symm.trans named))
  · rintro (none | ⟨nothingLeft, meteo, later⟩) index fmisid site stands
    · rw [none] at stands
      cases stands
    · obtain ⟨own, group, found, named, params⟩ := assigned.stations index fmisid site stands
      refine ⟨own, group, found, named.trans ?_, fun paramName member => ?_⟩
      · refine congrArg (fun params => some (request.withParams params)) ?_
        cases index with
        | zero => exact assignedParams_zero.mpr nothingLeft
        | succ index =>
            have bound := (List.getElem?_eq_some_iff.mp stands).1
            exact (assignedParams_succ nothingLeft).mpr (later (by omega))
      · refine (params paramName member).trans
          (congrArg (fun params => some (request.withParams params)) ?_)
        exact (assignedParamParams_eq nothingLeft).mpr (meteo (List.ne_nil_of_mem member))

/-- Temperature and wind speed of a place. -/
def observationRequest : FeatureID where
  storedQueryId := ascii "fmi::observations::weather"
  params := Multimap.insertAll [(pPlaces, .string (ascii "Helsinki")),
    (pMeteoParameters, .string (ascii "t2m")), (pMeteoParameters, .string (ascii "ws"))] .empty
  seqId := 0

/-- Two stations with a row each. -/
def twoStations : OrderedMap ByteString SiteRec :=
  (OrderedMap.empty.set (ascii "100971") ⟨0, 0, [0]⟩).set (ascii "101004") ⟨0, 0, [1]⟩

/-- The identifier of the second station asks for the wind speed only. -/
theorem secondStation_asksForLastParam :
    ¬ NamesRightData true observationRequest twoStations [ascii "t2m", ascii "ws"] := by
  intro right
  have nothingLeft : ∀ name ∈ placeParams,
      NothingLeft true observationRequest.params placeParams name := by decide
  obtain ⟨_, group, found, named, _⟩ := right 1 (ascii "101004") ⟨0, 0, [1]⟩ rfl
  obtain ⟨_, group', found', named', _⟩ := (assigned_assignGroups observationRequest twoStations
    [ascii "t2m", ascii "ws"]).stations 1 (ascii "101004") ⟨0, 0, [1]⟩ rfl
  obtain rfl := Option.some.inj (found.symm.trans found')
  have same := congrArg FeatureID.params (Option.some.inj (named'.symm.trans named))
  have lastOnly := (assignedParams_succ nothingLeft).mp same (ascii "ws") rfl
  exact absurd lastOnly (by decide)

end SmartMetWfs.Handlers
