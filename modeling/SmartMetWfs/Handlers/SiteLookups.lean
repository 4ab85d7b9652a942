import SmartMetWfs.Handlers.ObservationSites

/-!
# Lookups of sites

A location is looked up under the text that its geoid has with five decimals; the sites
are registered under those with one. Every lookup succeeds for a query exactly when none
is made or these texts agree.
-/

namespace SmartMetWfs.Handlers

open Foundation

variable {Cell Time Location TimeZone : Type}

/-! ### The first rows of the sites -/

section

variable (visitor : Nat → Cell → ByteString) (result : ObsResult Cell Time)

/-- The first row of a site, whose values stand for those of the site. -/
def firstRow (fmisid : ByteString) : Option Nat :=
  (List.range result.rows).find? fun row => visitor 0 (result.cell fmisidInd row) = fmisid

/-- The rows of a site. -/
def siteRows (fmisid : ByteString) : List Nat :=
  (List.range result.rows).filter fun row => visitor 0 (result.cell fmisidInd row) = fmisid

/-- An index of the rows by their sites. -/
def Indexes (siteMap : OrderedMap ByteString SiteRec) : Prop :=
  ∀ fmisid, (siteMap.find fmisid).map SiteRec.rowIndexVect =
    if siteRows visitor result fmisid = [] then none else some (siteRows visitor result fmisid)

/-- The index has the rows of each site. -/
theorem indexes_indexSites : Indexes visitor result (indexSites visitor result) := by
  have loop : ∀ (rows : List Nat) (fmisid : ByteString),
      ((rows.foldl (fun siteMap row =>
        let fmisid := visitor 0 (result.cell fmisidInd row)
        let site := (siteMap.find fmisid).getD ⟨0, 0, []⟩
        siteMap.set fmisid { site with rowIndexVect := site.rowIndexVect ++ [row] })
          (OrderedMap.empty : OrderedMap ByteString SiteRec)).find fmisid).map
            SiteRec.rowIndexVect =
        let own := rows.filter fun row => visitor 0 (result.cell fmisidInd row) = fmisid
        if own = [] then none else some own := by
    intro rows
    induction rows using List.reverseRecOn with
    | nil => exact fun _ => rfl
    | append_singleton rows row ih =>
        intro fmisid
        have before := ih fmisid
        rw [List.foldl_append, List.filter_append]
        dsimp only [List.foldl_cons, List.foldl_nil] at before ⊢
        rw [OrderedMap.find_set]
        by_cases own : fmisid = visitor 0 (result.cell fmisidInd row)
        · subst own
          rw [if_pos rfl, List.filter_singleton, decide_eq_true rfl]
          rw [cond_true, if_neg (List.append_ne_nil_of_right_ne_nil _ (List.cons_ne_nil row [])),
            Option.map_some]
          refine congrArg (fun rows => some (rows ++ [row])) ?_
          split at before
          · next none =>
              rw [none, Option.map_eq_none_iff.mp before]
              rfl
          · obtain ⟨site, found, rows_eq⟩ := Option.map_eq_some_iff.mp before
            rw [found]
            exact rows_eq
        · rw [if_neg own, List.filter_singleton, decide_eq_false (Ne.symm own), cond_false,
            List.append_nil]
          exact before
  exact loop (List.range result.rows)

/-- The first row of a site. -/
theorem head?_siteRows (fmisid : ByteString) :
    (siteRows visitor result fmisid).head? = firstRow visitor result fmisid :=
  List.head?_filter

variable {visitor result}

/-- A site of the index has a first row. -/
theorem Indexes.head? {siteMap : OrderedMap ByteString SiteRec}
    (indexes : Indexes visitor result siteMap) {item : ByteString × SiteRec}
    (member : item ∈ siteMap.entries) :
    ∃ row, item.2.rowIndexVect.head? = some row ∧ firstRow visitor result item.1 = some row := by
  have rows := indexes item.1
  rw [OrderedMap.find_eq_some.mpr member, Option.map_some] at rows
  split at rows
  · cases rows
  · next some =>
      rw [Option.some.injEq] at rows
      rw [rows, head?_siteRows]
      rw [← List.head?_eq_none_iff, head?_siteRows] at some
      obtain ⟨row, found⟩ := Option.ne_none_iff_exists'.mp some
      exact ⟨row, found, found⟩

/-- A site with a first row is in the index. -/
theorem Indexes.exists_site {siteMap : OrderedMap ByteString SiteRec}
    (indexes : Indexes visitor result siteMap) {fmisid : ByteString} {row : Nat}
    (first : firstRow visitor result fmisid = some row) :
    ∃ item ∈ siteMap.entries, item.1 = fmisid ∧ item.2.rowIndexVect.head? = some row := by
  have rows := indexes fmisid
  have some : siteRows visitor result fmisid ≠ [] := by
    rw [← head?_siteRows] at first
    intro none
    rw [none] at first
    cases first
  rw [if_neg some] at rows
  obtain ⟨site, found, rows_eq⟩ := Option.map_eq_some_iff.mp rows
  refine ⟨(fmisid, site), OrderedMap.find_eq_some.mp found, rfl, ?_⟩
  rw [rows_eq, head?_siteRows, first]

end

/-! ### The groups keep the sites -/

/-- The groups of a result: every site is in one of them, and each has identifiers for
the parameters. -/
structure Grouped (numGroups : Nat) (paramNames : List ByteString) (assignment : Assignment) :
    Prop where
  site : ∀ item ∈ assignment.siteMap.entries, item.2.groupId < numGroups
  group : ∀ groupId < numGroups, ∃ group, assignment.groupMap.find groupId = some group ∧
    ∀ name ∈ paramNames, ∃ id, group.paramIds.find name = some id

/-- The sites with their rows. -/
def SameRows (before after : OrderedMap ByteString SiteRec) : Prop :=
  ∀ fmisid, (after.find fmisid).map SiteRec.rowIndexVect =
    (before.find fmisid).map SiteRec.rowIndexVect

/-- The same rows are indexed. -/
theorem SameRows.indexes {visitor : Nat → Cell → ByteString} {result : ObsResult Cell Time}
    {before after : OrderedMap ByteString SiteRec} (same : SameRows before after)
    (indexes : Indexes visitor result before) : Indexes visitor result after :=
  fun fmisid => (same fmisid).trans (indexes fmisid)

/-- A site that is stored again keeps its rows. -/
theorem SameRows.set {before after : OrderedMap ByteString SiteRec} (same : SameRows before after)
    {item : ByteString × SiteRec} (member : item ∈ before.entries) {site : SiteRec}
    (rows : site.rowIndexVect = item.2.rowIndexVect) : SameRows before (after.set item.1 site) := by
  intro fmisid
  rw [OrderedMap.find_set]
  by_cases own : fmisid = item.1
  · rw [if_pos own, own, OrderedMap.find_eq_some.mpr member]
    exact congrArg some rows
  · rw [if_neg own]
    exact same fmisid

/-- The identifiers of columns leave the sites. -/
theorem siteMap_assignParamIds (paramNames : List ByteString) (groupId : Nat) (state : Assignment) :
    (assignParamIds paramNames groupId state).siteMap = state.siteMap := by
  unfold assignParamIds
  exact List.foldlRecOn (motive := fun after : Assignment => after.siteMap = state.siteMap)
    paramNames _ rfl fun _ same _ _ => same

/-- The groups leave the rows of the sites. -/
theorem sameRows_assignGroups (separateGroups : Bool) (siteMap : OrderedMap ByteString SiteRec)
    (featureId : FeatureID) (paramNames : List ByteString) :
    SameRows siteMap (assignGroups separateGroups siteMap featureId paramNames).siteMap := by
  have start : SameRows siteMap siteMap := fun _ => rfl
  unfold assignGroups
  cases separateGroups with
  | true =>
      rw [if_pos rfl]
      refine List.foldlRecOn (motive := fun state : Assignment => SameRows siteMap state.siteMap)
        siteMap.entries _ start fun state same item member => ?_
      unfold assignSeparate
      rw [siteMap_assignParamIds]
      exact same.set member rfl
  | false =>
      rw [if_neg Bool.false_ne_true, siteMap_assignParamIds]
      exact List.foldlRecOn (motive := fun state : Assignment => SameRows siteMap state.siteMap)
        siteMap.entries _ start fun state same item member => same.set member rfl

/-- Separate groups are as many as sites. -/
theorem grouped_separate (siteMap : OrderedMap ByteString SiteRec) (featureId : FeatureID)
    (paramNames : List ByteString) : Grouped siteMap.entries.length paramNames
      (assignGroups true siteMap featureId paramNames) := by
  have assigned := assigned_assignGroups featureId siteMap paramNames
  refine ⟨fun item member => ?_, fun groupId below => ?_⟩
  · have same := sameRows_assignGroups true siteMap featureId paramNames item.1
    have stored := OrderedMap.find_eq_some.mpr member
    rw [stored] at same
    obtain ⟨site, found, _⟩ := Option.map_eq_some_iff.mp same.symm
    obtain ⟨index, below, located⟩ := List.getElem_of_mem (OrderedMap.find_eq_some.mp found)
    have at_index : siteMap.entries[index]? = some (item.1, site) :=
      List.getElem?_eq_some_iff.mpr ⟨below, located⟩
    have renumbered := (assigned.stations index item.1 site at_index).1
    rw [stored, Option.some.injEq] at renumbered
    rw [renumbered]
    exact below
  · obtain ⟨item, at_index⟩ : ∃ item, siteMap.entries[groupId]? = some item :=
      ⟨_, List.getElem?_eq_getElem below⟩
    obtain ⟨_, group, found, _, params⟩ := assigned.stations groupId item.1 item.2 at_index
    exact ⟨group, found, fun name member => ⟨_, params name member⟩⟩

/-- All sites are in the first group. -/
theorem groupId_assignCommon {items : List (ByteString × SiteRec)} {start : Assignment}
    (rest : ∀ item ∈ start.siteMap.entries, item ∈ items ∨ item.2.groupId = 0) :
    ∀ item ∈ (items.foldl assignCommon start).siteMap.entries, item.2.groupId = 0 := by
  induction items generalizing start with
  | nil => exact fun item member => (rest item member).resolve_left List.not_mem_nil
  | cons first items ih =>
      refine ih fun item member => ?_
      rcases OrderedMap.mem_set.mp member with new | ⟨stored, distinct⟩
      · exact .inr (congrArg (fun entry => entry.2.groupId) new)
      · refine (rest item stored).imp_left fun inItems => ?_
        exact (List.mem_cons.mp inItems).resolve_left fun same =>
          distinct (congrArg Prod.fst same)

/-- There is one common group if there is a site. -/
theorem grouped_common (siteMap : OrderedMap ByteString SiteRec) (featureId : FeatureID)
    (paramNames : List ByteString) : Grouped (if siteMap.entries = [] then 0 else 1) paramNames
      (assignGroups false siteMap featureId paramNames) := by
  have common : ∀ item ∈ (siteMap.entries.foldl assignCommon
      ⟨0, siteMap, .empty, featureId⟩).siteMap.entries, item.2.groupId = 0 :=
    groupId_assignCommon fun item member => .inl member
  have same := sameRows_assignGroups false siteMap featureId paramNames
  refine ⟨fun item member => ?_, fun groupId below => ?_⟩
  · have rows := same item.1
    rw [OrderedMap.find_eq_some.mpr member] at rows
    obtain ⟨site, found, _⟩ := Option.map_eq_some_iff.mp rows.symm
    rw [if_neg (List.ne_nil_of_mem (OrderedMap.find_eq_some.mp found))]
    unfold assignGroups at member
    rw [if_neg Bool.false_ne_true, siteMap_assignParamIds] at member
    rw [common item member]
    exact Nat.one_pos
  · split at below
    · cases below
    · rw [Nat.lt_one_iff.mp below]
      let state := siteMap.entries.foldl assignCommon ⟨0, siteMap, .empty, featureId⟩
      let group : GroupRec := { (state.groupMap.find 0).getD .new with featureId := some featureId }
      let before : Assignment := { state with groupMap := state.groupMap.set 0 group }
      have spec : ParamIdsAssigned paramNames 0 group before (assignParamIds paramNames 0 before) :=
        assignParamIds_spec paramNames (OrderedMap.find_set_self _ _ _)
      obtain ⟨group', found, _, params⟩ := spec.ownGroup
      exact ⟨group', found, fun name member => ⟨_, params name member⟩⟩

/-! ### The run over the result -/

/-- The coordinates of every site have a text. -/
def LatLonKnown (visitor : Nat → Cell → ByteString) (result : ObsResult Cell Time) : Prop :=
  ∀ fmisid row, firstRow visitor result fmisid = some row →
    visitor 5 (result.cell latInd row) ≠ [] ∧ visitor 5 (result.cell lonInd row) ≠ []

/-- The text of every geoid with five decimals is that of some geoid with one, and is not
empty. -/
def SitesFound (visitor : Nat → Cell → ByteString) (result : ObsResult Cell Time) : Prop :=
  ∀ fmisid row, firstRow visitor result fmisid = some row →
    visitor 5 (result.cell geoidInd row) ≠ [] ∧
      ∃ other otherRow, firstRow visitor result other = some otherRow ∧
        visitor 1 (result.cell geoidInd otherRow) = visitor 5 (result.cell geoidInd row)

/-- The services fail in tolerated ways only. -/
structure Answers (tolerated : ObsFailure → Prop) (services : ObsServices Time Location TimeZone) :
    Prop where
  set2DCoord : ∀ sx sy reason, services.set2DCoord sx sy = .error reason →
    tolerated (.service reason)
  getTzForSite : ∀ longitude latitude tzName reason,
    services.getTzForSite longitude latitude tzName = .error reason → tolerated (.service reason)
  formatLocalTime : ∀ epoch tzp reason,
    services.formatLocalTime epoch tzp = .error reason → tolerated (.service reason)
  locationParameter : ∀ geoLoc name tzName precision reason,
    services.locationParameter geoLoc name tzName precision = .error reason →
      tolerated (.service reason)
  timeParameter : ∀ name epoch geoLoc tzName reason,
    services.timeParameter name epoch geoLoc tzName = .error reason → tolerated (.service reason)

section

variable {tolerated : ObsFailure → Prop} {ctx : ResultContext Cell Time Location TimeZone}
  {sites : OrderedMap ByteString (Option Location)}

/-- A service answers, or fails for a reason that is allowed. -/
theorem meets_ask {α : Type} {answer : Except ByteString α}
    (allowed : ∀ reason, answer = .error reason → tolerated (.service reason)) :
    Meets tolerated (ask answer) fun _ => True := by
  cases answer with
  | error reason => exact allowed reason rfl
  | ok _ => trivial

/-- The sites after the stations of `done`. -/
structure Registered (ctx : ResultContext Cell Time Location TimeZone)
    (done : List (ByteString × SiteRec)) (sites : OrderedMap ByteString (Option Location)) :
      Prop where
  latLon : ∀ item ∈ done, ∀ row, item.2.rowIndexVect.head? = some row →
    ctx.text 5 latInd row ≠ [] ∧ ctx.text 5 lonInd row ≠ []
  find : ∀ geoid, (∃ geoLoc, sites.find geoid = some geoLoc) ↔
    geoid ≠ [] ∧ ∃ item ∈ done, ∃ row, item.2.rowIndexVect.head? = some row ∧
      ctx.text 1 geoidInd row = geoid

/-- A station with coordinates registers its geoid if that has a text. -/
theorem Registered.next {done : List (ByteString × SiteRec)}
    (registered : Registered ctx done sites)
    {item : ByteString × SiteRec} {row : Nat} (first : item.2.rowIndexVect.head? = some row)
    (known : ctx.text 5 latInd row ≠ [] ∧ ctx.text 5 lonInd row ≠ []) (geoLoc : Option Location) :
    Registered ctx (done ++ [item]) (if ctx.text 1 geoidInd row ≠ [] then
      sites.set (ctx.text 1 geoidInd row) geoLoc else sites) where
  latLon := by
    intro other member otherRow otherFirst
    rcases List.mem_append.mp member with earlier | new
    · exact registered.latLon other earlier otherRow otherFirst
    · rw [List.mem_singleton.mp new, first, Option.some.injEq] at otherFirst
      exact otherFirst ▸ known
  find := by
    intro geoid
    have split : (∃ other ∈ done ++ [item], ∃ row, other.2.rowIndexVect.head? = some row ∧
        ctx.text 1 geoidInd row = geoid) ↔
          (∃ other ∈ done, ∃ row, other.2.rowIndexVect.head? = some row ∧
            ctx.text 1 geoidInd row = geoid) ∨ ctx.text 1 geoidInd row = geoid := by
      simp only [List.mem_append, List.mem_singleton, or_and_right, exists_or, exists_eq_left,
        first, Option.some.injEq, exists_eq_left']
    rw [split, and_or_left, ← registered.find geoid]
    by_cases own : geoid = ctx.text 1 geoidInd row
    · subst own
      split
      · next named =>
          rw [OrderedMap.find_set_self]
          exact iff_of_true ⟨_, rfl⟩ (.inr ⟨named, rfl⟩)
      · next unnamed => exact (or_iff_left fun new => unnamed new.1).symm
    · rw [or_iff_left fun new : _ ∧ _ => own new.2.symm]
      split
      · rw [OrderedMap.find_set_ne own]
      · rfl

/-- A station is set, or a service fails. -/
theorem setStation_meets (answers : Answers tolerated ctx.services) {list : StationList Location}
    {done : List (ByteString × SiteRec)} (registered : Registered ctx done list.sites)
    {item : ByteString × SiteRec} {row : Nat} (first : item.2.rowIndexVect.head? = some row)
    (unknown : ¬ (ctx.text 5 latInd row ≠ [] ∧ ctx.text 5 lonInd row ≠ []) →
      tolerated .latLonQuery) :
    Meets tolerated (setStation ctx list item) fun after =>
      Registered ctx (done ++ [item]) after.sites := by
  unfold setStation
  rw [first]
  dsimp only
  split
  · next known =>
      refine (meets_ask (answers.set2DCoord _ _)).bind fun coord _ => ?_
      exact Meets.pure (registered.next first known _)
  · next unknownHere => exact unknown unknownHere

/-- The stations are set, or a service fails. -/
theorem setStationList_meets (answers : Answers tolerated ctx.services)
    {siteMap : OrderedMap ByteString SiteRec} (indexes : Indexes ctx.visitor ctx.result siteMap)
    (unknown : tolerated .latLonQuery ∨ LatLonKnown ctx.visitor ctx.result) :
    Meets tolerated (setStationList ctx siteMap) fun list =>
      Registered ctx siteMap.entries list.sites := by
  unfold setStationList
  refine Meets.foldlM (fun done (list : StationList Location) => Registered ctx done list.sites)
    siteMap.entries ?_ fun done item rest list split registered => ?_
  · refine ⟨fun _ member => (nomatch member), fun geoid => iff_of_false nofun ?_⟩
    rintro ⟨_, _, member, _⟩
    cases member
  · have member : item ∈ siteMap.entries := by
      rw [split]
      exact List.mem_append_right _ List.mem_cons_self
    obtain ⟨row, first, firstRow⟩ := indexes.head? member
    refine setStation_meets answers registered first fun unknownHere => ?_
    exact unknown.resolve_right fun known => unknownHere (known item.1 row firstRow)

/-- The site of a row is found for every parameter that needs it. -/
def Located (ctx : ResultContext Cell Time Location TimeZone)
    (sites : OrderedMap ByteString (Option Location)) (row1 : Nat) : Prop :=
  ∀ entry ∈ ctx.paramIndex, entry.p.ind < 0 →
    ∃ geoLoc, sites.find (ctx.text 5 geoidInd row1) = some geoLoc

/-- A value is set unless its location is asked for and missing. -/
theorem setObservationValue_meets (answers : Answers tolerated ctx.services) {rowNum : Nat}
    {geoid : ByteString} {entry : ExtParamIndexEntry}
    (missing : entry.p.ind < 0 → sites.find geoid = none → tolerated (.unknownSite geoid)) :
    Meets tolerated (setObservationValue ctx sites rowNum geoid entry) fun _ =>
      entry.p.ind < 0 → ∃ geoLoc, sites.find geoid = some geoLoc := by
  unfold setObservationValue
  dsimp only
  split
  · next column => exact Meets.ok fun negative => absurd column (Int.not_le.mpr negative)
  · next negative =>
      split
      · next notFound => exact missing (Int.not_le.mp negative) notFound
      · next found => exact Meets.ok fun _ => ⟨_, found⟩
      · next geoLoc found =>
          have located : entry.p.ind < 0 → ∃ geoLoc, sites.find geoid = some geoLoc :=
            fun _ => ⟨_, found⟩
          split
          · exact (meets_ask (answers.locationParameter _ _ _ _)).bind fun _ _ => Meets.pure located
          · split
            · exact (meets_ask (answers.timeParameter _ _ _ _)).bind fun _ _ => Meets.pure located
            · exact Meets.ok located

/-- A row is set unless its location is asked for and missing. -/
theorem setRowObservations_meets (answers : Answers tolerated ctx.services) {row1 : Nat}
    (rowNum : Nat) (missing : (∃ entry ∈ ctx.paramIndex, entry.p.ind < 0) →
      sites.find (ctx.text 5 geoidInd row1) = none →
        tolerated (.unknownSite (ctx.text 5 geoidInd row1))) :
    Meets tolerated (setRowObservations ctx sites row1 rowNum) fun _ => Located ctx sites row1 := by
  unfold setRowObservations
  refine (meets_ask (answers.getTzForSite _ _ _)).bind fun _ _ => ?_
  refine (meets_ask (answers.set2DCoord _ _)).bind fun _ _ => ?_
  refine (meets_ask (answers.formatLocalTime _ _)).bind fun _ _ => ?_
  refine (Meets.mapM fun entry member => ?_).bind fun _ located => Meets.pure located
  exact setObservationValue_meets answers fun negative => missing ⟨entry, member, negative⟩

/-- A site is set unless its location is asked for and missing. -/
theorem setSiteObservations_meets (answers : Answers tolerated ctx.services) {site : SiteRec}
    {row1 : Nat} (first : site.rowIndexVect.head? = some row1)
    (missing : (∃ entry ∈ ctx.paramIndex, entry.p.ind < 0) →
      sites.find (ctx.text 5 geoidInd row1) = none →
        tolerated (.unknownSite (ctx.text 5 geoidInd row1))) :
    Meets tolerated (setSiteObservations ctx sites site) fun _ => Located ctx sites row1 := by
  unfold setSiteObservations
  rw [first]
  refine (Meets.mapM fun rowNum _ => setRowObservations_meets answers rowNum missing).imp ?_
  exact fun _ each => each row1 (List.mem_of_mem_head? first)

/-- The site map and the locations looked up in. -/
structure Searchable (tolerated : ObsFailure → Prop)
    (ctx : ResultContext Cell Time Location TimeZone)
    (sites : OrderedMap ByteString (Option Location)) (assignment : Assignment) : Prop where
  answers : Answers tolerated ctx.services
  named : ∀ entry ∈ ctx.paramIndex, entry.p.name ∈ ctx.request.paramNames
  first : ∀ item ∈ assignment.siteMap.entries, ∃ row, item.2.rowIndexVect.head? = some row
  missing : ∀ item ∈ assignment.siteMap.entries, ∀ row, item.2.rowIndexVect.head? = some row →
    (∃ entry ∈ ctx.paramIndex, entry.p.ind < 0) →
      sites.find (ctx.text 5 geoidInd row) = none →
        tolerated (.unknownSite (ctx.text 5 geoidInd row))

/-- The columns of a group are set. -/
theorem setObsGroupInfo_meets {group : GroupRec}
    (named : ∀ entry ∈ ctx.paramIndex, entry.p.name ∈ ctx.request.paramNames)
    (identified : ∀ name ∈ ctx.request.paramNames, ∃ id, group.paramIds.find name = some id) :
    Meets tolerated (setObsGroupInfo ctx group) fun _ => ∀ entry ∈ ctx.paramIndex, True := by
  unfold setObsGroupInfo
  refine Meets.mapM fun entry member => ?_
  obtain ⟨id, found⟩ := identified entry.p.name (named entry member)
  unfold atKey
  rw [found]
  trivial

/-- A group is set when its sites can be searched. -/
theorem setGroup_meets {assignment : Assignment}
    (searchable : Searchable tolerated ctx sites assignment)
    {numGroups groupId : Nat} (grouped : Grouped numGroups ctx.request.paramNames assignment)
    (below : groupId < numGroups) :
    Meets tolerated (setGroup ctx sites assignment groupId) fun _ =>
      ∀ item ∈ assignment.siteMap.entries, item.2.groupId = groupId →
        ∀ row, item.2.rowIndexVect.head? = some row → Located ctx sites row := by
  obtain ⟨group, found, identified⟩ := grouped.group groupId below
  unfold setGroup atKey
  rw [found]
  refine (setObsGroupInfo_meets searchable.named identified).bind fun _ _ => ?_
  have each : ∀ item ∈ assignment.siteMap.entries.filter fun item => item.2.groupId = groupId,
      Meets tolerated (setSiteObservations ctx sites item.2) fun _ =>
        ∀ row, item.2.rowIndexVect.head? = some row → Located ctx sites row := by
    intro item member
    have stored := (List.mem_filter.mp member).1
    obtain ⟨row, first⟩ := searchable.first item stored
    refine (setSiteObservations_meets searchable.answers first
      (searchable.missing item stored row first)).imp fun _ located other otherFirst => ?_
    rw [first, Option.some.injEq] at otherFirst
    exact otherFirst ▸ located
  refine (Meets.mapM each).bind fun _ located => Meets.pure fun item member own => ?_
  exact located item (List.mem_filter.mpr ⟨member, decide_eq_true own⟩)

end

/-! ### When every site is found -/

section

variable (query : ObsQuery Cell) (result : ObsResult Cell Time)

/-- The cells as they are written for the query. -/
def ObsQuery.written : Nat → Cell → ByteString := query.visitor query.request.missingText

/-- The parameters are accepted, and with them one that has no column. -/
def ObsQuery.LooksUpSites : Prop :=
  (∃ added, addParameters query.names query.request = .ok added ∧ added.haveMeteoParam = true) ∧
    ∃ name ∈ query.request.paramNames, WithoutColumn query.names query.request.stationType name

/-- No lookup of a site fails, whatever the services answer. -/
def SitesNeverMissing (Location TimeZone : Type) : Prop :=
  ∀ (services : ObsServices Time Location TimeZone) (geoid : ByteString),
    query.run services (some result) ≠ .error (.unknownSite geoid)

end

section

variable {query : ObsQuery Cell} {result : ObsResult Cell Time} {tolerated : ObsFailure → Prop}

/-- The result is written, or a service fails. -/
theorem writeResult_meets {ctx : ResultContext Cell Time Location TimeZone} (separateGroups : Bool)
    (featureId : FeatureID) (answers : Answers tolerated ctx.services)
    (named : ∀ entry ∈ ctx.paramIndex, entry.p.name ∈ ctx.request.paramNames)
    (unknown : tolerated .latLonQuery ∨ LatLonKnown ctx.visitor ctx.result)
    (missing : LatLonKnown ctx.visitor ctx.result → (∃ entry ∈ ctx.paramIndex, entry.p.ind < 0) →
      (∀ geoid, tolerated (.unknownSite geoid)) ∨ SitesFound ctx.visitor ctx.result) :
    Meets tolerated (writeResult ctx separateGroups featureId) fun _ =>
      (∃ entry ∈ ctx.paramIndex, entry.p.ind < 0) → SitesFound ctx.visitor ctx.result := by
  let siteMap := indexSites ctx.visitor ctx.result
  let assignment := assignGroups separateGroups siteMap featureId ctx.request.paramNames
  have indexes : Indexes ctx.visitor ctx.result assignment.siteMap :=
    (sameRows_assignGroups _ _ _ _).indexes (indexes_indexSites _ _)
  have grouped : Grouped (if separateGroups = true then siteMap.entries.length
      else if siteMap.entries = [] then 0 else 1) ctx.request.paramNames assignment := by
    cases separateGroups with
    | true => exact grouped_separate _ _ _
    | false => exact grouped_common _ _ _
  unfold writeResult
  refine (setStationList_meets answers indexes unknown).bind fun list registered => ?_
  have known : LatLonKnown ctx.visitor ctx.result := by
    intro fmisid row firstRow
    obtain ⟨item, member, _, first⟩ := indexes.exists_site firstRow
    exact registered.latLon item member row first
  have searchable : Searchable tolerated ctx list.sites assignment := by
    refine ⟨answers, named, fun item member => ?_, fun item member row first asked notFound => ?_⟩
    · obtain ⟨row, first, _⟩ := indexes.head? member
      exact ⟨row, first⟩
    · refine (missing known asked).elim (fun allowed => allowed _) fun found => ?_
      obtain ⟨row', first', firstRow⟩ := indexes.head? member
      rw [first, Option.some.injEq] at first'
      subst first'
      obtain ⟨nonempty, other, otherRow, otherFirst, same⟩ := found item.1 row firstRow
      obtain ⟨otherItem, otherMember, _, otherHead⟩ := indexes.exists_site otherFirst
      obtain ⟨geoLoc, located⟩ := (registered.find _).mpr
        ⟨nonempty, otherItem, otherMember, otherRow, otherHead, same⟩
      rw [ResultContext.text, located] at notFound
      cases notFound
  refine (Meets.mapM fun groupId member =>
    setGroup_meets searchable grouped (List.mem_range.mp member)).bind fun _ located => ?_
  refine Meets.pure fun asked fmisid row firstRow => ?_
  obtain ⟨item, member, _, first⟩ := indexes.exists_site firstRow
  obtain ⟨entry, inIndex, negative⟩ := asked
  have found := located item.2.groupId (List.mem_range.mpr (grouped.site item member)) item member
    rfl row first entry inIndex negative
  obtain ⟨nonempty, other, otherMember, otherRow, otherFirst, same⟩ := (registered.find _).mp found
  obtain ⟨row', otherFirst', firstRow'⟩ := indexes.head? otherMember
  rw [otherFirst, Option.some.injEq] at otherFirst'
  subst otherFirst'
  exact ⟨nonempty, other.1, otherRow, firstRow', same⟩

/-- Services that answer whatever they are asked, and know no location. -/
def willingServices (Time Location TimeZone : Type) [Inhabited TimeZone] :
    ObsServices Time Location TimeZone where
  set2DCoord := fun sx sy => .ok (sx, sy)
  stol := fun _ => .ok 0
  idSearch := fun _ _ => .ok none
  area := fun _ => []
  getTzForSite := fun _ _ _ => .ok default
  epochTime := fun _ => 0
  formatLocalTime := fun _ _ => .ok []
  locationParameter := fun _ _ _ _ => .ok []
  timeParameter := fun _ _ _ _ => .ok []

/-- Services that always answer never fail. -/
theorem answers_willingServices [Inhabited TimeZone] :
    Answers tolerated (willingServices Time Location TimeZone) where
  set2DCoord := fun _ _ _ fails => nomatch fails
  getTzForSite := fun _ _ _ _ fails => nomatch fails
  formatLocalTime := fun _ _ _ fails => nomatch fails
  locationParameter := fun _ _ _ _ _ fails => nomatch fails
  timeParameter := fun _ _ _ _ _ fails => nomatch fails

/-- The parameters noted have an entry without a column if one of the names has none. -/
theorem Noted.exists_iff {names : ObsNames} {stationType : ByteString} {done : List ByteString}
    {paramIndex : List ExtParamIndexEntry} (noted : Noted names stationType done paramIndex) :
    (∃ entry ∈ paramIndex, entry.p.ind < 0) ↔ ∃ name ∈ done,
      WithoutColumn names stationType name := by
  constructor
  · rintro ⟨entry, member, negative⟩
    exact ⟨entry.p.name, noted.named entry member, noted.withoutColumn entry member negative⟩
  · rintro ⟨name, member, without⟩
    obtain ⟨entry, inIndex, _, negative⟩ := noted.noted name member without
    exact ⟨entry, inIndex, negative⟩

/-- With parameters that are accepted the query runs to its result. -/
theorem run_of_accepted {services : ObsServices Time Location TimeZone} {added : AddedParameters}
    (accepted : addParameters query.names query.request = .ok added)
    (haveMeteoParam : added.haveMeteoParam = true) : query.run services (some result) =
      writeResult (query.context services result added) query.separateGroups query.featureId := by
  unfold ObsQuery.run
  rw [accepted]
  change (if added.haveMeteoParam = true then _ else _) = _
  rw [if_pos haveMeteoParam]

/-- Whatever the services answer, no lookup fails where the sites are found. -/
theorem run_meets (services : ObsServices Time Location TimeZone)
    (condition : query.LooksUpSites → LatLonKnown query.written result →
      SitesFound query.written result) :
    Meets (fun failure => ∀ geoid, failure ≠ .unknownSite geoid)
      (query.run services (some result)) fun _ => True := by
  unfold ObsQuery.run
  have accepted := addParameters_meets query.names query.request
  cases added_eq : addParameters query.names query.request with
  | error failure =>
      rw [added_eq] at accepted
      exact accepted
  | ok added =>
      rw [added_eq] at accepted
      change Meets _ (if added.haveMeteoParam = true then _ else _) _
      split
      · next haveMeteoParam =>
          refine (writeResult_meets _ _ ?_ accepted.named (.inl fun _ => nofun)
            fun known asked => .inr ?_).imp fun _ _ => trivial
          · exact ⟨fun _ _ _ _ _ => nofun, fun _ _ _ _ _ _ => nofun, fun _ _ _ _ _ => nofun,
              fun _ _ _ _ _ _ _ => nofun, fun _ _ _ _ _ _ _ => nofun⟩
          · exact condition ⟨⟨added, added_eq, haveMeteoParam⟩, accepted.exists_iff.mp asked⟩ known
      · exact fun _ => nofun

/-- No lookup of a site fails exactly when the query makes none, or the coordinates of
some site have no text, or every geoid is registered under the text it is looked up by. -/
theorem sitesNeverMissing_iff [Inhabited TimeZone] (query : ObsQuery Cell)
    (result : ObsResult Cell Time) :
    SitesNeverMissing query result Location TimeZone ↔
      (query.LooksUpSites → LatLonKnown query.written result →
        SitesFound query.written result) := by
  constructor
  · rintro never ⟨⟨added, accepted, haveMeteoParam⟩, without⟩ known
    have noted := (addParameters_meets query.names query.request).of_ok accepted
    let ctx := query.context (willingServices Time Location TimeZone) result added
    have written : Meets (fun failure => ∃ geoid, failure = .unknownSite geoid)
        (writeResult ctx query.separateGroups query.featureId) fun _ =>
          (∃ entry ∈ ctx.paramIndex, entry.p.ind < 0) → SitesFound query.written result :=
      writeResult_meets _ _ answers_willingServices noted.named (.inr known) fun _ _ =>
        .inl fun geoid => ⟨geoid, rfl⟩
    have run := @run_of_accepted Cell Time Location TimeZone query result
      (willingServices Time Location TimeZone) added accepted haveMeteoParam
    cases ended : writeResult ctx query.separateGroups query.featureId with
    | error failure =>
        rw [ended] at written
        obtain ⟨geoid, rfl⟩ := written
        exact absurd (run.trans ended) (never _ geoid)
    | ok hash => exact written.of_ok ended (noted.exists_iff.mpr without)
  · intro condition services geoid failed
    have written := run_meets services condition
    rw [failed] at written
    exact written geoid rfl

end

/-! ### A station without a geoid -/

/-- Values of a time series, the numbers only whole ones. -/
inductive SampleCell
  | none
  | string (text : ByteString)
  | int (value : Int)
  | double (whole : Int)

/-- How the cells of the samples are written. -/
def sampleVisitor : StringVisitor SampleCell
  | missingText, _, .none => missingText
  | _, _, .string text => text
  | _, _, .int value => intDecimal value
  | _, 0, .double whole => intDecimal whole
  | _, precision + 1, .double whole =>
      intDecimal whole ++ ascii "." ++ List.replicate (precision + 1) 48

/-- Temperature and the region, with nothing written for missing values. -/
def regionQuery : ObsQuery SampleCell where
  names := {
    supportQcParameters := false
    optionsMap := .empty
    defaultOptionItem := {}
    isParameter := fun name _ => name = ascii "t2m"
    special := fun _ => false
    isSpecialParameter := fun name => name = ascii "region"
    isLocationParameter := fun name => name = ascii "region"
    isTimeParameter := fun _ => false }
  separateGroups := false
  visitor := sampleVisitor
  request := {
    paramNames := [ascii "t2m", ascii "region"]
    stationType := ascii "opendata"
    supportQualityInfo := false
    missingText := []
    tzName := ascii "UTC"
    language := ascii "eng"
    showHeight := false }
  featureId := observationRequest

/-- One row, of a station without a geoid. -/
def stationWithoutGeoid : ObsResult SampleCell Unit where
  rows := 1
  cell := fun column _ =>
    if column = fmisidInd then .double 100971
    else if column = geoidInd then .none
    else if column = lonInd then .double 25
    else if column = latInd then .double 60
    else .string (ascii "Kaisaniemi")
  time := fun _ => ()

/-- The site of a station without a geoid is not registered but looked up. -/
theorem stationWithoutGeoid_missing :
    ¬ SitesNeverMissing regionQuery stationWithoutGeoid Unit Unit := by
  intro never
  exact never (willingServices Unit Unit Unit) [] rfl

end SmartMetWfs.Handlers
