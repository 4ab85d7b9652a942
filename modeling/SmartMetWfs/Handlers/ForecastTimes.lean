import Mathlib.Order.WithBot
import SmartMetWfs.Foundation.Extremes
import SmartMetWfs.Handlers.ForecastGroups

/-!
# Time extents of groups of forecasts

`set_group_data` writes the stations and the rows of a group and keeps the first and the
last instant of its rows. The rows come site by site in the order of the site names, but
the two instants are started anew at row 0 of the table, wherever its site stands in
that order.
-/

namespace SmartMetWfs.Handlers

open Foundation

/-- The columns of a result table that decide the extent of its groups. -/
structure ForecastTable (DateTime : Type) where
  numRows : Nat
  /-- `query.result->get(ind_geoid, i)` -/
  geoId : Nat → ByteString
  /-- The instant that `set_row_data` reads from column `ind_epoch`. -/
  epoch : Nat → DateTime

namespace ForecastTable

variable {DateTime : Type} (table : ForecastTable DateTime)

/-- The sites of the rows. -/
def geoIds : List ByteString := (List.range table.numRows).map table.geoId

/-- `result_map`: the rows of a site. -/
def resultMap : Multimap ByteString Nat :=
  Multimap.empty.insertAll ((List.range table.numRows).map fun i => (table.geoId i, i))

end ForecastTable

/-- What `set_group_data` writes: stations with their first row, rows, and the extent. -/
structure GroupData (DateTime : Type) where
  stationList : List (ByteString × Nat)
  returnArray : List Nat
  phenomenonStartTime : DateTime
  phenomenonEndTime : DateTime

section Loop

variable {DateTime : Type} [LinearOrder DateTime] [BoundedOrder DateTime]

/-- The body of the loop over the rows of a site. -/
def setGroupRow (table : ForecastTable DateTime) (data : GroupData DateTime) (i : Nat) :
    GroupData DateTime where
  stationList := data.stationList
  returnArray := data.returnArray ++ [i]
  phenomenonStartTime :=
    if i = 0 then table.epoch i else min data.phenomenonStartTime (table.epoch i)
  phenomenonEndTime :=
    if i = 0 then table.epoch i else max data.phenomenonEndTime (table.epoch i)

/-- The body of the loop over the sites. The station is described by its first row. -/
def setGroupSite (table : ForecastTable DateTime) (resultMap : Multimap ByteString Nat)
    (data : GroupData DateTime) (geoId : ByteString) : GroupData DateTime :=
  let rowRange := resultMap.equalRange geoId
  let station := rowRange.head?.toList.map fun i => (geoId, i)
  rowRange.foldl (setGroupRow table) { data with stationList := data.stationList ++ station }

/-- `StoredForecastQueryHandler::set_group_data`. The bounds of the order are
`POS_INFINITY` and `NEG_INFINITY`. -/
def setGroupData (table : ForecastTable DateTime) (resultMap : Multimap ByteString Nat)
    (siteRange : List ByteString) : GroupData DateTime :=
  siteRange.foldl (setGroupSite table resultMap) ⟨[], [], ⊤, ⊥⟩

/-- `StoredGridForecastQueryHandler::set_group_data`, the same loops. -/
def setGridGroupData (table : ForecastTable DateTime) (resultMap : Multimap ByteString Nat)
    (siteRange : List ByteString) : GroupData DateTime :=
  setGroupData table resultMap siteRange

end Loop

/-! ### The rows of a group -/

section Rows

variable {DateTime : Type} (table : ForecastTable DateTime)

/-- The rows of a group with the given sites. -/
def rowsOf (sites : List ByteString) : Set Nat :=
  {i | i < table.numRows ∧ table.geoId i ∈ sites}

/-- The rows of a location. -/
theorem equalRange_resultMap (geoId : ByteString) :
    table.resultMap.equalRange geoId =
      (List.range table.numRows).filter fun i => table.geoId i = geoId := by
  rw [ForecastTable.resultMap, Multimap.equalRange_insertAll, Multimap.equalRange_empty,
    List.nil_append, List.filter_map, List.map_map]
  refine (List.map_id _).trans (List.filter_congr fun i _ => decide_eq_decide.mpr Iff.rfl)

/-- The rows of a group in the order of the loops. -/
def visited (sites : List ByteString) : List Nat := sites.flatMap table.resultMap.equalRange

/-- The rows that are visited are those of the locations. -/
theorem mem_visited {sites : List ByteString} {i : Nat} :
    i ∈ visited table sites ↔ i ∈ rowsOf table sites := by
  simp only [visited, List.mem_flatMap, equalRange_resultMap, List.mem_filter, List.mem_range,
    decide_eq_true_eq, rowsOf, Set.mem_ofPred_eq]
  constructor
  · rintro ⟨_, member, inTable, rfl⟩
    exact ⟨inTable, member⟩
  · intro ⟨inTable, member⟩
    exact ⟨_, member, inTable, rfl⟩

variable [LinearOrder DateTime]

/-- Each row adds its time to those of the group. -/
theorem setGroupRow_foldl (rows : List Nat) (data : GroupData DateTime) :
    rows.foldl (setGroupRow table) data =
      { stationList := data.stationList
        returnArray := data.returnArray ++ rows
        phenomenonStartTime := runningFrom 0 min table.epoch data.phenomenonStartTime rows
        phenomenonEndTime := runningFrom 0 max table.epoch data.phenomenonEndTime rows } := by
  induction rows generalizing data with
  | nil => simp [runningFrom]
  | cons i rows ih =>
      rw [List.foldl_cons, ih]
      simp [setGroupRow, runningFrom]

/-- The rows and the extent do not depend on where one site ends and the next begins. -/
theorem setGroupSite_foldl (sites : List ByteString) (data : GroupData DateTime) :
    ∃ stations, sites.foldl (setGroupSite table table.resultMap) data =
      { stationList := stations
        returnArray := data.returnArray ++ visited table sites
        phenomenonStartTime :=
          runningFrom 0 min table.epoch data.phenomenonStartTime (visited table sites)
        phenomenonEndTime :=
          runningFrom 0 max table.epoch data.phenomenonEndTime (visited table sites) } := by
  induction sites generalizing data with
  | nil => exact ⟨data.stationList, by simp [visited, runningFrom]⟩
  | cons geoId sites ih =>
      obtain ⟨stations, rest⟩ := ih (setGroupSite table table.resultMap data geoId)
      refine ⟨stations, ?_⟩
      rw [List.foldl_cons, rest, setGroupSite, setGroupRow_foldl]
      simp [visited, runningFrom]

end Rows

/-! ### The extent of a group -/

section Extent

variable {DateTime : Type} (table : ForecastTable DateTime)

/-- The locations of a group are in order. -/
theorem sorted_sites {separateGroups : Bool} {groupId : Nat} {sites : List ByteString}
    (isGroup : (sitesOfGroups separateGroups table.geoIds)[groupId]? = some sites) :
    sites.Pairwise (· < ·) ∧ ∀ geoId ∈ sites, ∃ i < table.numRows, table.geoId i = geoId := by
  have sorted : (geoIdSet table.geoIds).keys.Pairwise (· < ·) :=
    List.pairwise_map.mpr (geoIdSet table.geoIds).sorted
  have ofRows : ∀ geoId ∈ (geoIdSet table.geoIds).keys,
      ∃ i < table.numRows, table.geoId i = geoId := by
    intro geoId member
    obtain ⟨i, inTable, same⟩ := List.mem_map.mp (mem_geoIdSet.mp member)
    exact ⟨i, List.mem_range.mp inTable, same⟩
  have member := List.mem_of_getElem? isGroup
  rw [sitesOfGroups_eq] at member
  cases separateGroups with
  | true =>
      obtain ⟨geoId, isSite, rfl⟩ := List.mem_map.mp member
      refine ⟨List.pairwise_singleton _ _, fun other isOther => ?_⟩
      exact ofRows other (List.mem_singleton.mp isOther ▸ isSite)
  | false =>
      rw [if_neg Bool.false_ne_true] at member
      split at member
      · cases member
      · obtain rfl := List.mem_singleton.mp member
        exact ⟨sorted, ofRows⟩

/-- The rows that the running instants know of at the end: all of them, or those of the
sites from that of row 0 on. -/
def keptRows (sites : List ByteString) : Set Nat :=
  {i ∈ rowsOf table sites | 0 ∈ rowsOf table sites → table.geoId 0 ≤ table.geoId i}

/-- Row 0 is the first of its site, and its site comes after all lesser ones. -/
theorem visited_split {sites : List ByteString} (sorted : sites.Pairwise (· < ·))
    (first : 0 ∈ rowsOf table sites) :
    ∃ before after, visited table sites = before ++ 0 :: after ∧ 0 ∉ after ∧
      {i | i ∈ 0 :: after} = keptRows table sites := by
  obtain ⟨inTable, member⟩ := first
  obtain ⟨lesser, greater, rfl⟩ := List.append_of_mem member
  obtain ⟨rows, positive⟩ := Nat.exists_eq_succ_of_ne_zero inTable.ne'
  obtain ⟨_, fromFirst, below⟩ := List.pairwise_append.mp sorted
  obtain ⟨above, _⟩ := List.pairwise_cons.mp fromFirst
  obtain ⟨after, fromRow, unmarked⟩ : ∃ after,
      visited table (table.geoId 0 :: greater) = 0 :: after ∧ 0 ∉ after := by
    refine ⟨((List.range rows).map Nat.succ).filter (fun i => table.geoId i = table.geoId 0) ++
      visited table greater, ?_, fun again => ?_⟩
    · rw [visited, List.flatMap_cons, equalRange_resultMap, positive, List.range_succ_eq_map,
        List.filter_cons_of_pos]
      · rfl
      · exact decide_eq_true rfl
    · rcases List.mem_append.mp again with sameSite | later
      · simp at sameSite
      · exact lt_irrefl _ (above _ ((mem_visited table).mp later).2)
  refine ⟨visited table lesser, after, ?_, unmarked, ?_⟩
  · rw [← fromRow]
    exact List.flatMap_append
  · rw [← fromRow]
    ext i
    rw [Set.mem_ofPred_eq, mem_visited]
    constructor
    · intro ⟨isRow, site⟩
      refine ⟨⟨isRow, List.mem_append_right _ site⟩, fun _ => ?_⟩
      rcases List.mem_cons.mp site with same | later
      · exact same.ge
      · exact (above _ later).le
    · intro ⟨⟨isRow, site⟩, notBefore⟩
      refine ⟨isRow, (List.mem_append.mp site).resolve_left fun before => ?_⟩
      exact (below _ before _ (List.mem_cons_self ..)).not_ge (notBefore ⟨inTable, member⟩)

/-- The rows of one site belong together, whichever of them is row 0. -/
theorem keptRows_singleton (geoId : ByteString) :
    keptRows table [geoId] = rowsOf table [geoId] := by
  ext i
  refine ⟨And.left, fun isRow => ⟨isRow, fun first => ?_⟩⟩
  rw [List.mem_singleton.mp first.2, List.mem_singleton.mp isRow.2]

/-- Every row is that of some location. -/
theorem mem_rowsOf_geoIds {i : Nat} :
    i ∈ rowsOf table (geoIdSet table.geoIds).keys ↔ i < table.numRows := by
  refine ⟨And.left, fun inTable => ⟨inTable, mem_geoIdSet.mpr ?_⟩⟩
  exact List.mem_map_of_mem (List.mem_range.mpr inTable)

/-- A group has a row. -/
theorem visited_ne_nil {separateGroups : Bool} {groupId : Nat} {sites : List ByteString}
    (isGroup : (sitesOfGroups separateGroups table.geoIds)[groupId]? = some sites) :
    visited table sites ≠ [] := by
  obtain ⟨_, ofRows⟩ := sorted_sites table isGroup
  have someSite : sites ≠ [] := by
    have member := List.mem_of_getElem? isGroup
    rw [sitesOfGroups_eq] at member
    split at member
    · obtain ⟨geoId, _, rfl⟩ := List.mem_map.mp member
      exact List.cons_ne_nil _ _
    · split at member
      · cases member
      · next nonempty => exact List.mem_singleton.mp member ▸ nonempty
  obtain ⟨geoId, rest, rfl⟩ := List.exists_cons_of_ne_nil someSite
  obtain ⟨i, inTable, same⟩ := ofRows geoId (List.mem_cons_self ..)
  exact List.ne_nil_of_mem ((mem_visited table).mpr ⟨inTable, same ▸ List.mem_cons_self ..⟩)

variable [LinearOrder DateTime] [BoundedOrder DateTime]

/-- The extent that is written is that of the rows kept. -/
theorem setGroupData_keptRows {sites : List ByteString} (sorted : sites.Pairwise (· < ·))
    (nonempty : visited table sites ≠ []) :
    IsLeast (table.epoch '' keptRows table sites)
        (setGroupData table table.resultMap sites).phenomenonStartTime ∧
      IsGreatest (table.epoch '' keptRows table sites)
        (setGroupData table table.resultMap sites).phenomenonEndTime := by
  obtain ⟨stations, written⟩ := setGroupSite_foldl table sites ⟨[], [], ⊤, ⊥⟩
  rw [setGroupData, written]
  by_cases first : 0 ∈ rowsOf table sites
  · obtain ⟨before, after, split, unmarked, kept⟩ := visited_split table sorted first
    rw [← kept, split]
    exact ⟨isLeast_runningFrom_marked before unmarked,
      isGreatest_runningFrom_marked before unmarked⟩
  · have kept : {i | i ∈ visited table sites} = keptRows table sites := by
      ext i
      rw [Set.mem_ofPred_eq, mem_visited]
      exact ⟨fun isRow => ⟨isRow, fun isFirst => absurd isFirst first⟩, And.left⟩
    have unmarked : 0 ∉ visited table sites := fun isFirst => first ((mem_visited table).mp isFirst)
    rw [← kept]
    exact ⟨isLeast_runningFrom_unmarked unmarked nonempty,
      isGreatest_runningFrom_unmarked unmarked nonempty⟩

/-- Every group of a result gets the first and the last instant of its rows. -/
def GroupsHaveOwnExtent
    (setData : ForecastTable DateTime → Multimap ByteString Nat → List ByteString →
      GroupData DateTime) (separateGroups : Bool) : Prop :=
  ∀ (groupId : Nat) (sites : List ByteString),
    (sitesOfGroups separateGroups table.geoIds)[groupId]? = some sites →
      IsLeast (table.epoch '' rowsOf table sites)
          (setData table table.resultMap sites).phenomenonStartTime ∧
        IsGreatest (table.epoch '' rowsOf table sites)
          (setData table table.resultMap sites).phenomenonEndTime

/-- No row of a site before that of row 0 is earlier or later than all the rows of the
sites from there on. -/
def LesserSitesWithin : Prop :=
  ∀ i < table.numRows, table.geoId i < table.geoId 0 →
    (∃ j < table.numRows, table.geoId 0 ≤ table.geoId j ∧ table.epoch j ≤ table.epoch i) ∧
      ∃ j < table.numRows, table.geoId 0 ≤ table.geoId j ∧ table.epoch i ≤ table.epoch j

/-- A group has its own extent exactly when no row forgotten at row 0 lies outside of it. -/
theorem ownExtent_iff {sites : List ByteString} (sorted : sites.Pairwise (· < ·))
    (nonempty : visited table sites ≠ []) :
    (IsLeast (table.epoch '' rowsOf table sites)
          (setGroupData table table.resultMap sites).phenomenonStartTime ∧
        IsGreatest (table.epoch '' rowsOf table sites)
          (setGroupData table table.resultMap sites).phenomenonEndTime) ↔
      ∀ i ∈ rowsOf table sites, (∃ j ∈ keptRows table sites, table.epoch j ≤ table.epoch i) ∧
        ∃ j ∈ keptRows table sites, table.epoch i ≤ table.epoch j := by
  obtain ⟨least, greatest⟩ := setGroupData_keptRows table sorted nonempty
  have sub : table.epoch '' keptRows table sites ⊆ table.epoch '' rowsOf table sites :=
    Set.image_mono fun i kept => kept.1
  rw [isLeast_iff_of_subset least sub, isGreatest_iff_of_subset greatest sub]
  simp only [Set.forall_mem_image, Set.exists_mem_image]
  exact ⟨fun ⟨starts, ends⟩ i isRow => ⟨starts isRow, ends isRow⟩,
    fun within => ⟨fun i isRow => (within i isRow).1, fun i isRow => (within i isRow).2⟩⟩

/-- Separate groups always have the extent of their rows. A common group has it exactly
when the rows of the sites before that of row 0 lie within the extent of the others. -/
theorem groupsHaveOwnExtent_iff (separateGroups : Bool) :
    GroupsHaveOwnExtent table setGroupData separateGroups ∧
        GroupsHaveOwnExtent table setGridGroupData separateGroups ↔
      separateGroups = true ∨ LesserSitesWithin table := by
  have twin : GroupsHaveOwnExtent table setGridGroupData separateGroups =
      GroupsHaveOwnExtent table setGroupData separateGroups := rfl
  rw [twin, and_self]
  cases separateGroups with
  | true =>
      refine iff_of_true (fun groupId sites isGroup => ?_) (.inl rfl)
      apply (ownExtent_iff table (sorted_sites table isGroup).1
        (visited_ne_nil table isGroup)).mpr
      have member := List.mem_of_getElem? isGroup
      rw [sitesOfGroups_eq, if_pos rfl] at member
      obtain ⟨geoId, _, rfl⟩ := List.mem_map.mp member
      intro i isRow
      rw [keptRows_singleton]
      exact ⟨⟨i, isRow, le_rfl⟩, i, isRow, le_rfl⟩
  | false =>
      rw [or_iff_right Bool.false_ne_true]
      constructor
      · intro own i inTable _
        have isGroup : (sitesOfGroups false table.geoIds)[0]? =
            some (geoIdSet table.geoIds).keys := by
          have someSite := List.ne_nil_of_mem ((mem_rowsOf_geoIds table).mpr inTable).2
          rw [sitesOfGroups_eq, if_neg Bool.false_ne_true, if_neg someSite]
          rfl
        have first := (mem_rowsOf_geoIds table).mpr (Nat.zero_lt_of_lt inTable)
        obtain ⟨⟨j, ⟨isRow, fromFirst⟩, earlier⟩, k, ⟨isRow', fromFirst'⟩, later⟩ :=
          (ownExtent_iff table (sorted_sites table isGroup).1 (visited_ne_nil table isGroup)).mp
            (own 0 _ isGroup) i ((mem_rowsOf_geoIds table).mpr inTable)
        exact ⟨⟨j, isRow.1, fromFirst first, earlier⟩, k, isRow'.1, fromFirst' first, later⟩
      · intro within groupId sites isGroup
        apply (ownExtent_iff table (sorted_sites table isGroup).1
          (visited_ne_nil table isGroup)).mpr
        have member := List.mem_of_getElem? isGroup
        rw [sitesOfGroups_eq, if_neg Bool.false_ne_true] at member
        split at member
        · cases member
        · obtain rfl := List.mem_singleton.mp member
          intro i isRow
          by_cases lesser : table.geoId i < table.geoId 0
          · obtain ⟨⟨j, inTable, fromFirst, earlier⟩, k, inTable', fromFirst', later⟩ :=
              within i isRow.1 lesser
            exact ⟨⟨j, ⟨(mem_rowsOf_geoIds table).mpr inTable, fun _ => fromFirst⟩, earlier⟩,
              k, ⟨(mem_rowsOf_geoIds table).mpr inTable', fun _ => fromFirst'⟩, later⟩
          · have kept : i ∈ keptRows table (geoIdSet table.geoIds).keys :=
              ⟨isRow, fun _ => not_lt.mp lesser⟩
            exact ⟨⟨i, kept, le_rfl⟩, i, kept, le_rfl⟩

end Extent

/-- Two sites of one common group, the first row being that of the greater name. -/
def twoSites : ForecastTable (WithBot (WithTop Int)) where
  numRows := 2
  geoId i := if i = 0 then ascii "658225" else ascii "634963"
  epoch i := if i = 0 then ((10 : Int) : WithTop Int) else ((5 : Int) : WithTop Int)

/-- The earlier instant of the second row is forgotten when row 0 is visited. -/
theorem twoSites_startsLate : ¬ GroupsHaveOwnExtent twoSites setGroupData false := by
  intro own
  have sites : sitesOfGroups false twoSites.geoIds = [[ascii "634963", ascii "658225"]] := by
    decide
  obtain ⟨⟨_, starts⟩, _⟩ := own 0 _ (by rw [sites]; rfl)
  have second : (1 : Nat) ∈ rowsOf twoSites [ascii "634963", ascii "658225"] := by
    constructor <;> decide
  have early := starts (Set.mem_image_of_mem _ second)
  exact absurd early (by decide)

end SmartMetWfs.Handlers
