import SmartMetWfs.Handlers.LocationParameters

/-!
# Groups of forecasts

`StoredForecastQueryHandler::query` sorts the sites of a result into groups, one group
for each site or one for all. The identifier of a group is made anew from the request
for every group: the location parameters listed in the handler are erased and the
group's sites added. The handler registers more location parameters than it lists.
-/

namespace SmartMetWfs.Handlers

open Foundation Parameters

/-- `P_PARAM` of `StoredForecastQueryHandler`. -/
def pParam : ByteString := ascii "param"

/-- The options `StoredForecastQueryHandler` gives to `SupportsLocationParameters`. -/
def forecastOptions : LocationOptions where
  supportKeywords := true
  includeFmisids := true
  includeGeoids := true
  includeWmos := true
  includeLpnns := true

/-- `location_params` of `StoredForecastQueryHandler::query`. -/
def forecastLocationParams : List ByteString := [pPlaces, pLatlons, pGeoids, pKeyword]

/-- `geo_id_set`: the sites of the rows of a result. -/
def geoIdSet (rows : List ByteString) : OrderedSet ByteString :=
  rows.foldl (fun set geoId => OrderedSet.insert geoId set) .empty

/-- `group_map` and `num_groups` after the loop over the sites. -/
def groupSites (separateGroups : Bool) (geoIds : List ByteString) :
    Multimap Nat ByteString × Nat :=
  geoIds.foldl (fun (groupMap, numGroups) geoId =>
    (groupMap.insert numGroups geoId, if separateGroups then numGroups + 1 else numGroups))
    (.empty, 0)

/-- A group of the result, as far as identifiers are concerned. -/
structure ForecastGroup where
  featureId : FeatureID
  paramList : List (ByteString × FeatureID)

/-- The identifiers of the parameters in `set_group_info`. -/
def setGroupInfo (featureId : FeatureID) (names : List ByteString) :
    FeatureID × List (ByteString × FeatureID) :=
  names.foldl (fun (featureId, paramList) name =>
    let featureId := (featureId.eraseParam pParam).addParam pParam (.string name)
    (featureId, paramList ++ [(name, featureId)])) (featureId, [])

/-- One round of the loop over the groups. -/
def forecastGroup (queryId : ByteString) (params : RequestParameterMap Value) (sqId : UInt32)
    (names : List ByteString) (sites : List ByteString) : ForecastGroup :=
  let featureId : FeatureID := ⟨queryId, params.getMap true, sqId⟩
  let featureId := forecastLocationParams.foldl (fun id name => id.eraseParam name) featureId
  let featureId := sites.foldl (fun id geoId => id.addParam pGeoids (.string geoId)) featureId
  ⟨featureId, (setGroupInfo featureId names).2⟩

/-- The sites of the groups of a result. -/
def sitesOfGroups (separateGroups : Bool) (rows : List ByteString) : List (List ByteString) :=
  let geoIds := (geoIdSet rows).keys
  let (groupMap, numGroups) := groupSites separateGroups geoIds
  let numGroups := if !separateGroups && !geoIds.isEmpty then numGroups + 1 else numGroups
  (List.range numGroups).map fun groupId => groupMap.equalRange groupId

/-- The groups of a result whose rows belong to the given sites. -/
def forecastGroups (separateGroups : Bool) (queryId : ByteString)
    (params : RequestParameterMap Value) (sqId : UInt32) (names rows : List ByteString) :
    List ForecastGroup :=
  (sitesOfGroups separateGroups rows).map (forecastGroup queryId params sqId names)

/-! ### What is read back -/

/-- The location parameters that are read back from an identifier are the given sites. -/
def NamesOnlySites (caseSensitiveParams : Bool) (featureId : FeatureID)
    (sites : List ByteString) : Prop :=
  ∀ name ∈ locationParams forecastOptions,
    readBack caseSensitiveParams featureId.params name =
      if name = pGeoids then sites.map Value.string else []

/-- The parameters of the identifier of a group. -/
theorem forecastGroup_params (queryId : ByteString) (params : RequestParameterMap Value)
    (sqId : UInt32) (names sites : List ByteString) :
    (forecastGroup queryId params sqId names sites).featureId.params =
      partParams (params.getMap true) forecastLocationParams
        (sites.map fun geoId => (pGeoids, .string geoId)) := by
  rw [forecastGroup, FeatureID.foldl_eraseParam, FeatureID.foldl_addParam]
  rfl

/-- The names of locations are told apart. -/
theorem distinguished_locationParams (caseSensitiveParams : Bool) :
    Distinguished caseSensitiveParams (locationParams forecastOptions) := by
  cases caseSensitiveParams <;> decide

/-- A group's identifier names only the group's sites exactly when every location
parameter of the request is among those the handler lists. -/
theorem namesOnlySites_iff (caseSensitiveParams : Bool) (queryId : ByteString)
    (params : RequestParameterMap Value) (sqId : UInt32) (names sites : List ByteString) :
    NamesOnlySites caseSensitiveParams (forecastGroup queryId params sqId names sites).featureId
        sites ↔
      ∀ name ∈ locationParams forecastOptions,
        NothingLeft caseSensitiveParams (params.getMap true) forecastLocationParams name := by
  refine forall₂_congr fun name member => ?_
  have addedListed : ∀ entry ∈ sites.map fun geoId => (pGeoids, Value.string geoId),
      entry.1 ∈ forecastLocationParams := by
    have geoids : pGeoids ∈ forecastLocationParams := by decide
    intro entry added
    obtain ⟨geoId, _, rfl⟩ := List.mem_map.mp added
    exact geoids
  have listed : ∀ name ∈ forecastLocationParams, name ∈ locationParams forecastOptions := by decide
  have spelled : ∀ other ∈ forecastLocationParams,
      RequestParameterMap.key caseSensitiveParams other =
        RequestParameterMap.key caseSensitiveParams name → other = name := fun other isListed =>
    (distinguished_locationParams caseSensitiveParams).eq (listed other isListed) member
  rw [forecastGroup_params, ← readBack_partParams addedListed spelled]
  refine iff_of_eq (congrArg _ ?_)
  by_cases same : name = pGeoids
  · subst same
    rw [if_pos rfl, List.filter_eq_self.mpr]
    · rw [List.map_map]
      rfl
    · intro entry added
      obtain ⟨geoId, _, rfl⟩ := List.mem_map.mp added
      exact decide_eq_true rfl
  · rw [if_neg same, List.filter_eq_nil_iff.mpr]
    · rfl
    · intro entry added
      obtain ⟨geoId, _, rfl⟩ := List.mem_map.mp added
      exact fun equal => same (of_decide_eq_true equal).symm

/-! ### The sites of the groups -/

/-- The set has the locations of the rows. -/
theorem mem_geoIdSet {rows : List ByteString} {geoId : ByteString} :
    geoId ∈ (geoIdSet rows).keys ↔ geoId ∈ rows := by
  rw [geoIdSet, OrderedSet.mem_keys_foldl_insert]
  exact or_iff_left List.not_mem_nil

/-- Separate groups have one location each. -/
theorem groupSites_separate (geoIds : List ByteString) :
    (groupSites true geoIds).2 = geoIds.length ∧
      ∀ groupId, (groupSites true geoIds).1.equalRange groupId = geoIds[groupId]?.toList := by
  induction geoIds using List.reverseRecOn with
  | nil => exact ⟨rfl, fun groupId => rfl⟩
  | append_singleton geoIds geoId ih =>
      obtain ⟨counted, ranges⟩ := ih
      rw [groupSites, List.foldl_append]
      change (groupSites true geoIds).2 + 1 = _ ∧ ∀ groupId, ((groupSites true geoIds).1.insert
        (groupSites true geoIds).2 geoId).equalRange groupId = _
      refine ⟨by rw [counted, List.length_append]; rfl, fun groupId => ?_⟩
      rw [Multimap.equalRange_insert, ranges, counted]
      rcases lt_trichotomy groupId geoIds.length with before | same | after
      · rw [List.getElem?_append_left before, if_neg before.ne', List.append_nil]
      · subst same
        rw [List.getElem?_concat_length, List.getElem?_eq_none le_rfl, if_pos rfl]
        rfl
      · rw [if_neg after.ne, List.getElem?_eq_none after.le, List.getElem?_eq_none]
        · rfl
        · rw [List.length_append]
          exact after

/-- A common group has all locations. -/
theorem groupSites_common (geoIds : List ByteString) :
    (groupSites false geoIds).2 = 0 ∧ (groupSites false geoIds).1.equalRange 0 = geoIds := by
  induction geoIds using List.reverseRecOn with
  | nil => exact ⟨rfl, rfl⟩
  | append_singleton geoIds geoId ih =>
      obtain ⟨counted, ranges⟩ := ih
      rw [groupSites, List.foldl_append]
      change (groupSites false geoIds).2 = _ ∧ ((groupSites false geoIds).1.insert
        (groupSites false geoIds).2 geoId).equalRange 0 = _
      refine ⟨counted, ?_⟩
      rw [Multimap.equalRange_insert, ranges, counted, if_pos rfl]

/-- Separate groups have one site each, a common group has them all. -/
theorem sitesOfGroups_eq (separateGroups : Bool) (rows : List ByteString) :
    sitesOfGroups separateGroups rows =
      if separateGroups then (geoIdSet rows).keys.map fun geoId => [geoId]
      else if (geoIdSet rows).keys = [] then [] else [(geoIdSet rows).keys] := by
  cases separateGroups with
  | true =>
      obtain ⟨counted, ranges⟩ := groupSites_separate (geoIdSet rows).keys
      change (List.range (groupSites true (geoIdSet rows).keys).2).map
        (fun groupId => (groupSites true (geoIdSet rows).keys).1.equalRange groupId) = _
      rw [counted, if_pos rfl]
      refine List.ext_getElem (by simp) fun index first second => ?_
      have bound : index < (geoIdSet rows).keys.length := by simpa using second
      rw [List.getElem_map, List.getElem_map, List.getElem_range, ranges,
        List.getElem?_eq_getElem bound]
      rfl
  | false =>
      obtain ⟨counted, ranges⟩ := groupSites_common (geoIdSet rows).keys
      change (List.range (if (!(geoIdSet rows).keys.isEmpty) = true then
        (groupSites false (geoIdSet rows).keys).2 + 1
          else (groupSites false (geoIdSet rows).keys).2)).map _ = _
      rw [counted, if_neg Bool.false_ne_true]
      cases sites : (geoIdSet rows).keys with
      | nil => rfl
      | cons first rest =>
          rw [if_neg (List.cons_ne_nil _ _)]
          change [_] = _
          rw [← sites]
          exact congrArg (fun range => [range]) ranges

/-- Without rows there are no groups. -/
theorem sitesOfGroups_eq_nil {separateGroups : Bool} {rows : List ByteString} :
    sitesOfGroups separateGroups rows = [] ↔ rows = [] := by
  have none : (geoIdSet rows).keys = [] ↔ rows = [] := by
    simp only [List.eq_nil_iff_forall_not_mem, mem_geoIdSet]
  rw [sitesOfGroups_eq, ← none]
  split
  · exact List.map_eq_nil_iff
  · split
    · next empty => exact ⟨fun _ => empty, fun _ => rfl⟩
    · next nonempty => exact ⟨fun absurd_ => (by cases absurd_), fun empty => absurd empty nonempty⟩

/-- The identifier of every group of a result names only the sites of the group. -/
def GroupsNameOwnSites (caseSensitiveParams separateGroups : Bool) (queryId : ByteString)
    (params : RequestParameterMap Value) (sqId : UInt32) (names rows : List ByteString) : Prop :=
  ∀ (groupId : Nat) (group : ForecastGroup) (sites : List ByteString),
    (forecastGroups separateGroups queryId params sqId names rows)[groupId]? = some group →
      (sitesOfGroups separateGroups rows)[groupId]? = some sites →
        NamesOnlySites caseSensitiveParams group.featureId sites

/-- The identifiers name only the sites of their groups exactly when the result has no
rows or every location parameter of the request is among those the handler lists. -/
theorem groupsNameOwnSites_iff (caseSensitiveParams separateGroups : Bool)
    (queryId : ByteString) (params : RequestParameterMap Value) (sqId : UInt32)
    (names rows : List ByteString) :
    GroupsNameOwnSites caseSensitiveParams separateGroups queryId params sqId names rows ↔
      rows = [] ∨ ∀ name ∈ locationParams forecastOptions,
        NothingLeft caseSensitiveParams (params.getMap true) forecastLocationParams name := by
  constructor
  · intro named
    cases groups : sitesOfGroups separateGroups rows with
    | nil => exact .inl (sitesOfGroups_eq_nil.mp groups)
    | cons sites rest =>
        refine .inr ((namesOnlySites_iff caseSensitiveParams queryId params sqId names sites).mp ?_)
        refine named 0 _ sites ?_ (by rw [groups]; rfl)
        rw [forecastGroups, groups]
        rfl
  · rintro (none | nothingLeft) groupId group sites isGroup isSites
    · rw [sitesOfGroups_eq_nil.mpr none] at isSites
      cases isSites
    · rw [forecastGroups, List.getElem?_map, isSites] at isGroup
      obtain rfl := Option.some.inj isGroup
      exact (namesOnlySites_iff caseSensitiveParams queryId params sqId names sites).mpr nothingLeft

/-- A request for the forecast of a station. -/
def stationRequest : RequestParameterMap Value :=
  (RequestParameterMap.empty true).insertValue pFmisids (.int 100971)

/-- The station of the request stays in the identifier of the group of its site. -/
theorem station_leftInGroup :
    ¬ GroupsNameOwnSites true false (ascii "fmi::forecast") stationRequest 0 [ascii "t2m"]
      [ascii "658225"] := by
  intro named
  have only : NamesOnlySites true (forecastGroup (ascii "fmi::forecast") stationRequest 0
      [ascii "t2m"] [ascii "658225"]).featureId [ascii "658225"] := by
    have sites : sitesOfGroups false [ascii "658225"] = [[ascii "658225"]] := by decide
    refine named 0 _ _ ?_ (by rw [sites]; rfl)
    rw [forecastGroups, sites]
    rfl
  have nothingLeft := (namesOnlySites_iff true _ _ _ _ _).mp only pFmisids (by decide)
  exact absurd nothingLeft (by decide)

end SmartMetWfs.Handlers
