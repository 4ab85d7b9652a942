import Mathlib.Data.List.Dedup
import SmartMetWfs.Handlers.ForecastTimes

/-!
# Stations of forecasts

`extract_forecast` puts the rows of the requested locations one behind the other into the
result table. `query` finds the locations again by the geoids that are printed in the rows,
so that two locations with one geoid become one station.
-/

namespace SmartMetWfs.Handlers

open Foundation

variable {DateTime : Type}

/-- A requested location, as its rows show it: the printed geoid and, for each height or level
and time, an instant. -/
structure ForecastLocation (DateTime : Type) where
  geoId : ByteString
  epochs : List DateTime
  someRow : epochs ≠ []

/-- `set_location_rows`. -/
def setLocationRows (rows : List (ByteString × DateTime)) (loc : ForecastLocation DateTime) :
    List (ByteString × DateTime) :=
  rows ++ loc.epochs.map fun epoch => (loc.geoId, epoch)

/-- The loop of `extract_forecast`. -/
def extractForecastRows (locations : List (ForecastLocation DateTime)) :
    List (ByteString × DateTime) :=
  locations.foldl setLocationRows []

/-- The rows as a table; other cells are empty. -/
def tableOf [Top DateTime] (rows : List (ByteString × DateTime)) : ForecastTable DateTime where
  numRows := rows.length
  geoId i := (rows[i]?.map Prod.fst).getD []
  epoch i := (rows[i]?.map Prod.snd).getD ⊤

/-- `num_groups` after the loop over the sites. -/
def numGroups (separateGroups : Bool) (rows : List ByteString) : Nat :=
  let geoIds := (geoIdSet rows).keys
  let numGroups := (groupSites separateGroups geoIds).2
  if !separateGroups && !geoIds.isEmpty then numGroups + 1 else numGroups

/-- What `query` writes for a table. -/
structure ForecastResult (DateTime : Type) where
  numMatched : Nat
  groups : List (GroupData DateTime)

/-- The groups of a table of rows. -/
def forecastResult [LinearOrder DateTime] [BoundedOrder DateTime] (separateGroups : Bool)
    (table : ForecastTable DateTime) : ForecastResult DateTime where
  numMatched := numGroups separateGroups table.geoIds
  groups := (sitesOfGroups separateGroups table.geoIds).map (setGroupData table table.resultMap)

/-! ### Locations with rows of their own -/

/-- The locations with the indices of their rows. -/
def locate : Nat → List (ForecastLocation DateTime) →
    List (ForecastLocation DateTime × List Nat)
  | _, [] => []
  | row, loc :: locations =>
      (loc, List.range' row loc.epochs.length) :: locate (row + loc.epochs.length) locations

/-- A station that is described by the first row of a location. -/
def StationOf (located : ForecastLocation DateTime × List Nat) (station : ByteString × Nat) :
    Prop :=
  station.1 = located.1.geoId ∧ located.2.head? = some station.2

/-- The locations are spread over the groups. A group has a station for each of its locations,
and their rows one location after the other. -/
structure OwnRows (locations : List (ForecastLocation DateTime))
    (result : ForecastResult DateTime) :
    Prop where
  counted : result.numMatched = result.groups.length
  parted : ∃ parts : List (List (ForecastLocation DateTime × List Nat)),
    parts.flatten.Perm (locate 0 locations) ∧
      List.Forall₂ (fun part group => List.Forall₂ StationOf part group.stationList ∧
        group.returnArray = part.flatMap Prod.snd) parts result.groups

/-- The stations are named after the locations. -/
theorem names_of_part {part : List (ForecastLocation DateTime × List Nat)}
    {stations : List (ByteString × Nat)} (written : List.Forall₂ StationOf part stations) :
    stations.map Prod.fst = part.map fun located => located.1.geoId := by
  induction written with
  | nil => rfl
  | cons isStation _ ih => rw [List.map_cons, List.map_cons, isStation.1, ih]

/-- The stations of the groups have the names of their locations. -/
theorem names_of_parts {parts : List (List (ForecastLocation DateTime × List Nat))}
    {groups : List (GroupData DateTime)}
    (written : List.Forall₂ (fun part group => List.Forall₂ StationOf part group.stationList ∧
      group.returnArray = part.flatMap Prod.snd) parts groups) :
    groups.flatMap (fun group => group.stationList.map Prod.fst) =
      parts.flatten.map fun located => located.1.geoId := by
  induction written with
  | nil => rfl
  | cons isGroup _ ih =>
      rw [List.flatten_cons, List.map_append, List.flatMap_cons, names_of_part isGroup.1, ih]

/-! ### The table -/

/-- The rows are the times of each location. -/
theorem extractForecastRows_eq (locations : List (ForecastLocation DateTime)) :
    extractForecastRows locations = locations.flatMap fun loc =>
      loc.epochs.map fun epoch => (loc.geoId, epoch) := by
  have general : ∀ rows, locations.foldl setLocationRows rows = rows ++ locations.flatMap fun loc =>
      loc.epochs.map fun epoch => (loc.geoId, epoch) := by
    induction locations with
    | nil => exact fun rows => (List.append_nil rows).symm
    | cons loc locations ih =>
        intro rows
        rw [List.foldl_cons, ih, setLocationRows, List.flatMap_cons, List.append_assoc]
  exact general []

/-- The locations keep their order. -/
theorem map_fst_locate (row : Nat) (locations : List (ForecastLocation DateTime)) :
    (locate row locations).map Prod.fst = locations := by
  induction locations generalizing row with
  | nil => rfl
  | cons loc locations ih => exact congrArg (loc :: ·) (ih _)

/-- The identifiers keep their order. -/
theorem map_geoId_locate (locations : List (ForecastLocation DateTime)) :
    (locate 0 locations).map (fun located => located.1.geoId) =
      locations.map ForecastLocation.geoId := by
  have firsts := congrArg (List.map ForecastLocation.geoId) (map_fst_locate 0 locations)
  rw [List.map_map] at firsts
  exact firsts

/-- Together the locations have all rows. -/
theorem flatMap_snd_locate (row : Nat) (locations : List (ForecastLocation DateTime)) :
    (locate row locations).flatMap Prod.snd =
      List.range' row (extractForecastRows locations).length := by
  rw [extractForecastRows_eq]
  induction locations generalizing row with
  | nil => rfl
  | cons loc locations ih =>
      rw [locate, List.flatMap_cons, ih, List.flatMap_cons, List.length_append, List.length_map,
        List.range'_append_1]

/-- The rows of a location show its geoid. -/
theorem geoId_of_located {row : Nat} {locations : List (ForecastLocation DateTime)}
    {located : ForecastLocation DateTime × List Nat} (member : located ∈ locate row locations)
    {i : Nat} (isRow : i ∈ located.2) :
    row ≤ i ∧ (extractForecastRows locations)[i - row]?.map Prod.fst = some located.1.geoId := by
  rw [extractForecastRows_eq]
  induction locations generalizing row with
  | nil => cases member
  | cons loc locations ih =>
      rw [List.flatMap_cons]
      rcases List.mem_cons.mp member with rfl | later
      · obtain ⟨atLeast, below⟩ := List.mem_range'_1.mp isRow
        refine ⟨atLeast, ?_⟩
        have inside : i - row < loc.epochs.length := by omega
        rw [List.getElem?_append_left (by rwa [List.length_map]), List.getElem?_map,
          List.getElem?_eq_getElem inside]
        rfl
      · obtain ⟨atLeast, shows⟩ := ih later
        refine ⟨by omega, ?_⟩
        rw [List.getElem?_append_right (by rw [List.length_map]; omega), List.length_map,
          Nat.sub_sub]
        exact shows

/-- A location has a row. -/
theorem rows_ne_nil {row : Nat} {locations : List (ForecastLocation DateTime)}
    {located : ForecastLocation DateTime × List Nat} (member : located ∈ locate row locations) :
    located.2 ≠ [] := by
  induction locations generalizing row with
  | nil => cases member
  | cons loc locations ih =>
      rcases List.mem_cons.mp member with rfl | later
      · intro empty
        exact loc.someRow (List.length_eq_zero_iff.mp (List.range'_eq_nil_iff.mp empty))
      · exact ih later

section

variable {locations : List (ForecastLocation DateTime)}

/-- The first location with a geoid. -/
def locatedAt (locations : List (ForecastLocation DateTime)) (geoId : ByteString) :
    Option (ForecastLocation DateTime × List Nat) :=
  (locate 0 locations).find? fun located => located.1.geoId = geoId

/-- An identifier of the list is located. -/
theorem exists_locatedAt {geoId : ByteString}
    (member : geoId ∈ locations.map ForecastLocation.geoId) :
    ∃ located ∈ locate 0 locations, located.1.geoId = geoId ∧
      locatedAt locations geoId = some located := by
  rw [← map_geoId_locate] at member
  obtain ⟨located, isLocated, same⟩ := List.mem_map.mp member
  cases found : locatedAt locations geoId with
  | none =>
      have different := List.find?_eq_none.mp found located isLocated
      exact absurd (decide_eq_true same) different
  | some other =>
      unfold locatedAt at found
      have same' := List.find?_some found
      exact ⟨other, List.mem_of_find?_eq_some found, of_decide_eq_true same', rfl⟩

/-- A location is found by its identifier when these are distinct. -/
theorem locatedAt_of_mem (distinct : (locations.map ForecastLocation.geoId).Nodup)
    {located : ForecastLocation DateTime × List Nat} (member : located ∈ locate 0 locations) :
    locatedAt locations located.1.geoId = some located := by
  have isSite : located.1.geoId ∈ locations.map ForecastLocation.geoId := by
    rw [← map_geoId_locate]
    exact List.mem_map_of_mem member
  obtain ⟨other, member', same, found⟩ := exists_locatedAt isSite
  rw [← map_geoId_locate] at distinct
  rw [found, List.inj_on_of_nodup_map distinct member' member same]

end

/-! ### Rows with a geoid -/

/-- Of items with keys of their own, those with the key of one are it. -/
theorem flatMap_of_key {α β κ : Type} [DecidableEq κ] {items : List α} (key : α → κ)
    (values : α → List β) (distinct : (items.map key).Nodup) {item : α} (member : item ∈ items) :
    items.flatMap (fun other => if key other = key item then values other else []) =
      values item := by
  obtain ⟨before, after, rfl⟩ := List.append_of_mem member
  rw [List.map_append, List.map_cons, List.nodup_middle, List.nodup_cons] at distinct
  have apart : ∀ other ∈ before ++ after, key other ≠ key item := by
    intro other inRest same
    exact distinct.1 (same ▸ List.map_append ▸ List.mem_map_of_mem inRest)
  have others : ∀ rest : List α, (∀ other ∈ rest, key other ≠ key item) →
      rest.flatMap (fun other => if key other = key item then values other else []) = [] := by
    intro rest different
    exact List.flatMap_eq_nil_iff.mpr fun other inRest => if_neg (different other inRest)
  rw [List.flatMap_append, List.flatMap_cons, if_pos rfl,
    others before fun other inBefore => apart other (List.mem_append_left _ inBefore),
    others after fun other inAfter => apart other (List.mem_append_right _ inAfter),
    List.append_nil, List.nil_append]

section

variable [Top DateTime] (locations : List (ForecastLocation DateTime))

/-- The rows with a geoid are those of the locations with it, one after the other. -/
theorem equalRange_locations (geoId : ByteString) :
    (tableOf (extractForecastRows locations)).resultMap.equalRange geoId =
      (locate 0 locations).flatMap fun located =>
        if located.1.geoId = geoId then located.2 else [] := by
  rw [equalRange_resultMap, List.range_eq_range']
  change (List.range' 0 (extractForecastRows locations).length).filter _ = _
  rw [← flatMap_snd_locate, List.filter_flatMap]
  refine List.flatMap_congr fun located member => ?_
  have shows : ∀ i ∈ located.2, (tableOf (extractForecastRows locations)).geoId i =
      located.1.geoId := by
    intro i isRow
    have shown := (geoId_of_located member isRow).2
    rw [Nat.sub_zero] at shown
    change ((extractForecastRows locations)[i]?.map Prod.fst).getD [] = _
    rw [shown]
    rfl
  split
  · next same =>
      refine List.filter_eq_self.mpr fun i isRow => decide_eq_true ?_
      rw [shows i isRow, same]
  · next different =>
      refine List.filter_eq_nil_iff.mpr fun i isRow => ?_
      rw [decide_eq_true_eq, shows i isRow]
      exact different

/-- The geoids of the rows are those of the locations. -/
theorem mem_geoIds_locations {geoId : ByteString} :
    geoId ∈ (geoIdSet (tableOf (extractForecastRows locations)).geoIds).keys ↔
      geoId ∈ locations.map ForecastLocation.geoId := by
  have rows : (tableOf (extractForecastRows locations)).geoIds =
      (extractForecastRows locations).map Prod.fst := by
    refine List.ext_getElem (by simp [ForecastTable.geoIds, tableOf]) fun i first second => ?_
    have bound : i < (extractForecastRows locations).length := by rwa [List.length_map] at second
    simp [ForecastTable.geoIds, tableOf, List.getElem?_eq_getElem bound]
  rw [mem_geoIdSet, rows, extractForecastRows_eq, List.map_flatMap, List.mem_flatMap, List.mem_map]
  refine exists_congr fun loc => and_congr_right fun _ => ?_
  rw [List.map_map, List.mem_map]
  constructor
  · rintro ⟨_, _, same⟩
    exact same
  · intro same
    obtain ⟨epoch, rest, isEpochs⟩ := List.exists_cons_of_ne_nil loc.someRow
    exact ⟨epoch, isEpochs ▸ List.mem_cons_self, same⟩

end

/-- No location is in the set twice. -/
theorem nodup_geoIdSet (rows : List ByteString) : (geoIdSet rows).keys.Nodup :=
  (List.pairwise_map.mpr (geoIdSet rows).sorted).imp ne_of_lt

/-- The groups have all sites. -/
theorem flatten_sitesOfGroups (separateGroups : Bool) (rows : List ByteString) :
    (sitesOfGroups separateGroups rows).flatten = (geoIdSet rows).keys := by
  rw [sitesOfGroups_eq]
  cases separateGroups with
  | true => rw [if_pos rfl, ← List.flatMap_def, List.flatMap_singleton']
  | false =>
      rw [if_neg Bool.false_ne_true]
      split
      · next empty => exact empty.symm
      · exact List.flatten_singleton

section

variable [LinearOrder DateTime] [BoundedOrder DateTime]

/-- The stations and rows of a group. -/
theorem setGroupData_lists (table : ForecastTable DateTime) (sites : List ByteString) :
    (setGroupData table table.resultMap sites).stationList = sites.flatMap (fun geoId =>
        (table.resultMap.equalRange geoId).head?.toList.map fun i => (geoId, i)) ∧
      (setGroupData table table.resultMap sites).returnArray =
        sites.flatMap table.resultMap.equalRange := by
  have general : ∀ data : GroupData DateTime,
      (sites.foldl (setGroupSite table table.resultMap) data).stationList =
          data.stationList ++ sites.flatMap (fun geoId =>
            (table.resultMap.equalRange geoId).head?.toList.map fun i => (geoId, i)) ∧
        (sites.foldl (setGroupSite table table.resultMap) data).returnArray =
          data.returnArray ++ sites.flatMap table.resultMap.equalRange := by
    induction sites with
    | nil => exact fun data => ⟨(List.append_nil _).symm, (List.append_nil _).symm⟩
    | cons geoId sites ih =>
        intro data
        obtain ⟨stations, rows⟩ := ih (setGroupSite table table.resultMap data geoId)
        rw [List.foldl_cons, stations, rows, setGroupSite, setGroupRow_foldl, List.flatMap_cons,
          List.flatMap_cons]
        exact ⟨List.append_assoc _ _ _, List.append_assoc _ _ _⟩
  exact general ⟨[], [], ⊤, ⊥⟩

/-- The number of groups is that of the rounds. -/
theorem length_groups (separateGroups : Bool) (table : ForecastTable DateTime) :
    (forecastResult separateGroups table).numMatched =
      (forecastResult separateGroups table).groups.length := by
  change _ = ((sitesOfGroups separateGroups table.geoIds).map _).length
  rw [List.length_map]
  exact (List.length_map _).trans List.length_range |>.symm

/-! ### Locations with geoids of their own -/

section

variable {locations : List (ForecastLocation DateTime)}

variable (distinct : (locations.map ForecastLocation.geoId).Nodup)

include distinct

/-- The rows with a geoid are those of its location. -/
theorem equalRange_of_distinct {located : ForecastLocation DateTime × List Nat}
    (member : located ∈ locate 0 locations) :
    (tableOf (extractForecastRows locations)).resultMap.equalRange located.1.geoId = located.2 := by
  rw [← map_geoId_locate] at distinct
  rw [equalRange_locations]
  exact flatMap_of_key (fun other : ForecastLocation DateTime × List Nat => other.1.geoId)
    Prod.snd distinct member

/-- The sites stand for all locations. -/
theorem filterMap_locatedAt_perm :
    ((geoIdSet (tableOf (extractForecastRows locations)).geoIds).keys.filterMap
      (locatedAt locations)).Perm (locate 0 locations) := by
  have sites : (geoIdSet (tableOf (extractForecastRows locations)).geoIds).keys.Perm
      ((locate 0 locations).map fun located => located.1.geoId) := by
    rw [map_geoId_locate]
    apply (List.perm_ext_iff_of_nodup (nodup_geoIdSet _) distinct).mpr
    exact fun geoId => mem_geoIds_locations locations
  refine (sites.filterMap (locatedAt locations)).trans (List.Perm.of_eq ?_)
  rw [List.filterMap_map]
  have each : ∀ located ∈ locate 0 locations,
      (locatedAt locations ∘ fun located => located.1.geoId) located = some located :=
    fun located member => locatedAt_of_mem distinct member
  rw [List.filterMap_congr each, List.filterMap_some]

/-- A group has a station and the rows for each location of its sites. -/
theorem group_of_distinct (sites : List ByteString)
    (known : ∀ geoId ∈ sites, geoId ∈ locations.map ForecastLocation.geoId) :
    List.Forall₂ StationOf (sites.filterMap (locatedAt locations)) (sites.flatMap fun geoId =>
        ((tableOf (extractForecastRows locations)).resultMap.equalRange geoId).head?.toList.map
          fun i => (geoId, i)) ∧
      sites.flatMap (tableOf (extractForecastRows locations)).resultMap.equalRange =
        (sites.filterMap (locatedAt locations)).flatMap Prod.snd := by
  induction sites with
  | nil => exact ⟨.nil, rfl⟩
  | cons geoId sites ih =>
      obtain ⟨isSite, others⟩ := List.forall_mem_cons.mp known
      obtain ⟨located, member, rfl, found⟩ := exists_locatedAt isSite
      obtain ⟨first, rest, isRows⟩ := List.exists_cons_of_ne_nil (rows_ne_nil member)
      obtain ⟨stations, rows⟩ := ih others
      rw [List.filterMap_cons_some found, List.flatMap_cons, List.flatMap_cons, List.flatMap_cons,
        equalRange_of_distinct distinct member, rows]
      refine ⟨?_, rfl⟩
      rw [isRows]
      exact .cons ⟨rfl, by rw [isRows]; rfl⟩ stations

end

/-- Locations with geoids of their own keep their rows. -/
theorem ownRows_of_distinct (separateGroups : Bool) {locations : List (ForecastLocation DateTime)}
    (distinct : (locations.map ForecastLocation.geoId).Nodup) :
    OwnRows locations
      (forecastResult separateGroups (tableOf (extractForecastRows locations))) where
  counted := length_groups separateGroups _
  parted := by
    have flat := flatten_sitesOfGroups separateGroups
        (tableOf (extractForecastRows locations)).geoIds
    refine ⟨(sitesOfGroups separateGroups (tableOf (extractForecastRows locations)).geoIds).map
      (List.filterMap (locatedAt locations)), ?_, ?_⟩
    · rw [← List.filterMap_flatten, flat]
      exact filterMap_locatedAt_perm distinct
    · unfold forecastResult
      rw [List.forall₂_map_left_iff, List.forall₂_map_right_iff, List.forall₂_same]
      intro sites member
      obtain ⟨stations, rows⟩ := setGroupData_lists (tableOf (extractForecastRows locations)) sites
      rw [stations, rows]
      refine group_of_distinct distinct sites fun geoId isSite => ?_
      rw [← mem_geoIds_locations, ← flat]
      exact List.mem_flatten.mpr ⟨sites, member, isSite⟩

/-- The stations of a group are named after its sites. -/
theorem names_of_stations (table : ForecastTable DateTime) {sites : List ByteString}
    (known : ∀ geoId ∈ sites, geoId ∈ table.geoIds) :
    (setGroupData table table.resultMap sites).stationList.map Prod.fst = sites := by
  rw [(setGroupData_lists table sites).1]
  induction sites with
  | nil => rfl
  | cons geoId sites ih =>
      obtain ⟨isSite, others⟩ := List.forall_mem_cons.mp known
      obtain ⟨i, inTable, shows⟩ := List.mem_map.mp isSite
      have isRow : i ∈ table.resultMap.equalRange geoId := by
        rw [equalRange_resultMap]
        exact List.mem_filter.mpr ⟨inTable, decide_eq_true shows⟩
      obtain ⟨first, rest, isRows⟩ := List.exists_cons_of_ne_nil (List.ne_nil_of_mem isRow)
      rw [List.flatMap_cons, List.map_append, ih others, isRows]
      rfl

/-- There is a station for each site of the table. -/
theorem names_of_result (separateGroups : Bool) (table : ForecastTable DateTime) :
    (forecastResult separateGroups table).groups.flatMap
      (fun group => group.stationList.map Prod.fst) = (geoIdSet table.geoIds).keys := by
  have flat := flatten_sitesOfGroups separateGroups table.geoIds
  rw [forecastResult, List.flatMap_map, ← flat, ← List.flatMap_id']
  refine List.flatMap_congr fun sites member => names_of_stations table fun geoId isSite => ?_
  rw [← mem_geoIdSet, ← flat]
  exact List.mem_flatten.mpr ⟨sites, member, isSite⟩

/-- Locations whose rows are kept have geoids of their own. -/
theorem distinct_of_ownRows {separateGroups : Bool} {locations : List (ForecastLocation DateTime)}
    (own : OwnRows locations
      (forecastResult separateGroups (tableOf (extractForecastRows locations)))) :
    (locations.map ForecastLocation.geoId).Nodup := by
  obtain ⟨parts, parted, written⟩ := own.parted
  have names := parted.map fun located => located.1.geoId
  rw [← names_of_parts written, names_of_result, map_geoId_locate] at names
  exact names.nodup_iff.mp (nodup_geoIdSet _)

/-- The rows of all locations are kept just if their printed geoids are distinct. -/
theorem ownRows_iff (separateGroups : Bool) (locations : List (ForecastLocation DateTime)) :
    OwnRows locations (forecastResult separateGroups (tableOf (extractForecastRows locations))) ↔
      (locations.map ForecastLocation.geoId).Nodup :=
  ⟨distinct_of_ownRows, ownRows_of_distinct separateGroups⟩

end

/-- Two nearby coordinates, for which the nearest place is the same. -/
def nearbyCoordinates : List (ForecastLocation (WithBot (WithTop Int))) :=
  [⟨ascii "658225", [((5 : Int) : WithTop Int)], List.cons_ne_nil _ _⟩,
    ⟨ascii "658225", [((10 : Int) : WithTop Int)], List.cons_ne_nil _ _⟩]

/-- They become one station. -/
theorem nearbyCoordinates_merged :
    ¬ OwnRows nearbyCoordinates
      (forecastResult true (tableOf (extractForecastRows nearbyCoordinates))) := by
  intro own
  exact absurd (distinct_of_ownRows own) (by decide)

end SmartMetWfs.Handlers
