import SmartMetWfs.Handlers.ContourMembers

/-!
# Members and leaves

The members of a contour response should be the non-empty leaves of supported types, in
order. Collections add members for leaves of other types too, a polygon without rings in
a multipolygon cannot be parsed, and the index of the members is an `unsigned int`.
-/

namespace SmartMetWfs.Handlers

open Foundation

variable {Number Time Values : Type}

/-! ### What the members should be -/

section

variable (ctx : ContourContext Number Time Values)

/-- The first ring is the exterior one. -/
def patchOf (rings : List (List (Number × Number))) : PolygonPatch :=
  ⟨formatCoordinates ctx (rings.headD []), rings.tail.map (formatCoordinates ctx)⟩

/-- The shape of a leaf, written over the one that is there. -/
def shaped (leaf : Geometry Number) (result : ContourResultHash Values) :
    ContourResultHash Values :=
  match leaf with
  | .polygon rings => { result with surfaceMembers := some [patchOf ctx rings] }
  | .multiPolygon polygons => { result with surfaceMembers := some (polygons.map (patchOf ctx)) }
  | .linearRing points => { result with surfaceMembers := some [patchOf ctx [points]] }
  | .lineString points => { result with isolines := some [formatCoordinates ctx points] }
  | .multiLineString lines => { result with isolines := some (lines.map (formatCoordinates ctx)) }
  | .collection _ => result
  | .other _ _ => result

/-- The member of a leaf. -/
def memberOf (values : Values) (time : Time) (leaf : Geometry Number) : WfsMember Values where
  phenomenonTime := ctx.formatLocalTime time
  analysisTime := ctx.origintimeTimestamp
  modificationTime := ctx.modificationtimeTimestamp
  featureOfInterestShape := ctx.featureOfInterestShape
  result := shaped ctx leaf { timestamp := ctx.formatLocalTime time, values := some values }

/-- The members for leaves that are selected from the geometries. -/
def membersFor (select : Geometry Number → List (Geometry Number))
    (queryResults : List (ContourQueryResult Number Time Values)) : List (WfsMember Values) :=
  queryResults.flatMap fun resultItem => resultItem.areaGeoms.flatMap fun areaGeom =>
    (select areaGeom.2).map (memberOf ctx resultItem.values areaGeom.1)

end

/-- The leaves that there should be members for. -/
def Geometry.contours (geometry : Geometry Number) : List (Geometry Number) :=
  geometry.leaves.filter fun leaf => !leaf.isEmpty && leaf.isSupported

/-- A member has a part for its geometry, and that is not empty. -/
def WfsMember.HasPart (member : WfsMember Values) : Prop :=
  (∃ patch patches, member.result.surfaceMembers = some (patch :: patches)) ∨
    ∃ isoline isolines, member.result.isolines = some (isoline :: isolines)

/-- The members are those of the non-empty leaves of supported types, and are counted. -/
def MembersCorrespond (ctx : ContourContext Number Time Values)
    (queryResults : List (ContourQueryResult Number Time Values)) : Prop :=
  ∃ hash, parseQueryResults ctx queryResults = .ok hash ∧
    hash.wfsMembers = membersFor ctx Geometry.contours queryResults ∧
    (∀ member ∈ hash.wfsMembers, member.HasPart) ∧
    hash.numberMatched = decimal hash.wfsMembers.length ∧
    hash.numberReturned = decimal hash.wfsMembers.length

/-- The collections have no other leaves than empty ones and those of supported types, no
multipolygon that is not empty has a polygon without rings, and the members can be
counted. -/
structure Expressible (queryResults : List (ContourQueryResult Number Time Values)) : Prop where
  supported : ∀ resultItem ∈ queryResults, ∀ areaGeom ∈ resultItem.areaGeoms,
    ∀ geometries, areaGeom.2 = .collection geometries →
      ∀ leaf ∈ Geometry.leavesOf geometries, leaf.isEmpty = false → leaf.isSupported = true
  ringed : ∀ resultItem ∈ queryResults, ∀ areaGeom ∈ resultItem.areaGeoms,
    ∀ polygons, .multiPolygon polygons ∈ areaGeom.2.leaves →
      (Geometry.multiPolygon polygons).isEmpty = false → [] ∉ polygons
  counted : (queryResults.flatMap fun resultItem =>
    resultItem.areaGeoms.flatMap fun areaGeom => areaGeom.2.contours).length < 2 ^ 32

/-! ### Parsing -/

/-- Every polygon of the geometry has a ring. -/
def Geometry.Ringed : Geometry Number → Prop
  | .polygon rings => rings ≠ []
  | .multiPolygon polygons => [] ∉ polygons
  | _ => True

section

variable {ctx : ContourContext Number Time Values}

/-- A polygon is parsed when it has a ring. -/
theorem parsePolygon_yields (rings : List (List (Number × Number))) :
    Yields (parsePolygon ctx rings) (rings ≠ []) (patchOf ctx rings) := by
  cases rings with
  | nil =>
      exact (Yields.error _ _).congr (iff_of_false id fun nonempty => nonempty rfl) fun _ => rfl
  | cons exteriorRing interiorRings =>
      exact (Yields.ok _).congr (iff_of_true trivial (List.cons_ne_nil _ _)) fun _ => rfl

/-- A geometry is parsed to its shape when its polygons have rings. -/
theorem parseGeometry_yields (leaf : Geometry Number) (result : ContourResultHash Values) :
    Yields (parseGeometry ctx leaf result) leaf.Ringed (shaped ctx leaf result) := by
  cases leaf with
  | polygon rings =>
      exact (parsePolygon_yields rings).map fun patch =>
        { result with surfaceMembers := some [patch] }
  | multiPolygon polygons =>
      refine ((Yields.mapM parsePolygon_yields polygons).map fun patches =>
        { result with surfaceMembers := some patches }).congr ?_ fun _ => rfl
      exact ⟨fun all member => all [] member rfl, fun none rings member empty =>
        none (empty ▸ member)⟩
  | linearRing points =>
      refine ((parsePolygon_yields [points]).map fun patch =>
        { result with surfaceMembers := some [patch] }).congr ?_ fun _ => rfl
      exact iff_of_true (List.cons_ne_nil _ _) trivial
  | lineString points => exact Yields.ok _
  | multiLineString lines => exact Yields.ok _
  | collection geometries => exact Yields.ok _
  | other type empty => exact Yields.ok _

/-- Parsing again changes nothing. -/
theorem shaped_shaped (leaf : Geometry Number) (result : ContourResultHash Values) :
    shaped ctx leaf (shaped ctx leaf result) = shaped ctx leaf result := by
  cases leaf <;> rfl

end

/-! ### Collections -/

mutual

/-- A geometry is empty when all its leaves are. -/
theorem isEmpty_iff : ∀ geometry : Geometry Number,
    geometry.isEmpty = true ↔ ∀ leaf ∈ geometry.leaves, leaf.isEmpty = true
  | .collection geometries => allEmpty_iff geometries
  | .polygon _ => by simp only [Geometry.leaves, List.forall_mem_singleton]
  | .multiPolygon _ => by simp only [Geometry.leaves, List.forall_mem_singleton]
  | .linearRing _ => by simp only [Geometry.leaves, List.forall_mem_singleton]
  | .lineString _ => by simp only [Geometry.leaves, List.forall_mem_singleton]
  | .multiLineString _ => by simp only [Geometry.leaves, List.forall_mem_singleton]
  | .other _ _ => by simp only [Geometry.leaves, List.forall_mem_singleton]

/-- All geometries are empty when all leaves are. -/
theorem allEmpty_iff : ∀ geometries : List (Geometry Number),
    Geometry.allEmpty geometries = true ↔
      ∀ leaf ∈ Geometry.leavesOf geometries, leaf.isEmpty = true
  | [] => iff_of_true rfl fun _ member => nomatch member
  | geometry :: rest => by
      rw [Geometry.allEmpty, Geometry.leavesOf, Bool.and_eq_true, List.forall_mem_append,
        isEmpty_iff geometry, allEmpty_iff rest]

end

/-- The leaves that are not empty. -/
def nonEmpty (leaves : List (Geometry Number)) : List (Geometry Number) :=
  leaves.filter fun leaf => !leaf.isEmpty

/-- The leaves that are not empty. -/
theorem mem_nonEmpty {leaves : List (Geometry Number)} {leaf : Geometry Number} :
    leaf ∈ nonEmpty leaves ↔ leaf ∈ leaves ∧ leaf.isEmpty = false := by
  rw [nonEmpty, List.mem_filter, Bool.not_eq_true']

/-- Empty geometries have empty leaves only. -/
theorem nonEmpty_leavesOf {geometries : List (Geometry Number)}
    (empty : Geometry.allEmpty geometries = true) :
      nonEmpty (Geometry.leavesOf geometries) = [] := by
  refine List.filter_eq_nil_iff.mpr fun leaf member => ?_
  rw [(allEmpty_iff geometries).mp empty leaf member]
  exact Bool.false_ne_true

section

variable {ctx : ContourContext Number Time Values}

/-- Without leaves nothing is added. -/
theorem noLeaves_yields (results : List (ContourResultHash Values)) :
    Yields (.ok results : Except NullPointer _)
      (∀ part ∈ ([] : List (Geometry Number)), part.Ringed)
      (results ++ ([] : List (Geometry Number)).map fun part => shaped ctx part {}) := by
  refine (Yields.ok results).congr (iff_of_true trivial fun _ member => nomatch member) fun _ => ?_
  exact (List.append_nil results).symm

/-- A leaf that is dug out. -/
theorem handleLeaf_yields {leaf : Geometry Number} (isLeaf : leaf.leaves = [leaf])
    (results : List (ContourResultHash Values)) :
    Yields (if leaf.isEmpty = true then .ok results
        else do
          let result ← parseGeometry ctx leaf {}
          return results ++ [result])
      (∀ part ∈ nonEmpty leaf.leaves, part.Ringed)
      (results ++ (nonEmpty leaf.leaves).map fun part => shaped ctx part {}) := by
  rw [isLeaf, nonEmpty, List.filter_singleton]
  cases empty : leaf.isEmpty with
  | true => exact noLeaves_yields results
  | false =>
      refine ((parseGeometry_yields leaf {}).map fun result => results ++ [result]).congr ?_
        fun _ => rfl
      exact List.forall_mem_singleton.symm

mutual

/-- A geometry adds the shapes of its leaves when their polygons have rings. -/
theorem handleGeometry_yields : ∀ (geometry : Geometry Number)
    (results : List (ContourResultHash Values)),
    Yields (handleGeometry ctx results geometry) (∀ leaf ∈ nonEmpty geometry.leaves, leaf.Ringed)
      (results ++ (nonEmpty geometry.leaves).map fun leaf => shaped ctx leaf {})
  | .collection geometries, results => by
      rw [handleGeometry]
      split
      · next empty =>
          rw [Geometry.leaves, nonEmpty_leavesOf empty]
          exact noLeaves_yields results
      · exact handleGeometryCollection_yields geometries results
  | .polygon _, results => handleLeaf_yields rfl results
  | .multiPolygon _, results => handleLeaf_yields rfl results
  | .linearRing _, results => handleLeaf_yields rfl results
  | .lineString _, results => handleLeaf_yields rfl results
  | .multiLineString _, results => handleLeaf_yields rfl results
  | .other _ _, results => handleLeaf_yields rfl results

/-- The results are those of the leaves that are not empty, of whatever type. -/
theorem handleGeometryCollection_yields : ∀ (geometries : List (Geometry Number))
    (results : List (ContourResultHash Values)),
    Yields (handleGeometryCollection ctx results geometries)
      (∀ leaf ∈ nonEmpty (Geometry.leavesOf geometries), leaf.Ringed)
      (results ++ (nonEmpty (Geometry.leavesOf geometries)).map fun leaf => shaped ctx leaf {})
  | [], results => noLeaves_yields results
  | geometry :: rest, results => by
      rw [handleGeometryCollection, Geometry.leavesOf, nonEmpty, List.filter_append]
      refine ((handleGeometry_yields geometry results).bind
        (handleGeometryCollection_yields rest _)).congr List.forall_mem_append.symm fun _ => ?_
      rw [List.map_append, List.append_assoc]
      rfl

end

end

/-! ### The members -/

/-- The leaves that a member is written for. -/
def Geometry.parsed : Geometry Number → List (Geometry Number)
  | .collection geometries => nonEmpty (Geometry.leavesOf geometries)
  | leaf => if leaf.isEmpty = false ∧ leaf.isSupported = true then [leaf] else []

/-- The members written, and those that can be found where they were written. -/
structure Wrote (written : List (WfsMember Values)) (list : MemberList Values) : Prop where
  index : list.index = UInt32.ofNat written.length
  length : list.members.length = min written.length (2 ^ 32)
  members : written.length ≤ 2 ^ 32 → list.members = written

theorem length_putAt {α : Type} (blank : α) (items : List α) (index : Nat) (item : α) :
    (putAt blank items index item).length = max items.length (index + 1) := by
  rw [putAt, List.length_set, List.length_append, List.length_replicate]
  omega

theorem putAt_length {α : Type} (blank : α) (items : List α) (item : α) :
    putAt blank items items.length item = items ++ [item] := by
  have one : items.length + 1 - items.length = 1 := by omega
  rw [putAt, one, List.replicate_one, List.set_append_right _ _ (Nat.le_refl _), Nat.sub_self]
  rfl

section

variable {ctx : ContourContext Number Time Values}

/-- The index is the number of members in 32 bits. -/
theorem Wrote.index_toNat {written : List (WfsMember Values)} {list : MemberList Values}
    (wrote : Wrote written list) : list.index.toNat = written.length % 2 ^ 32 := by
  rw [wrote.index]
  exact UInt32.toNat_ofNat'

/-- One more member. Only before the index starts again is it known to be found there. -/
theorem Wrote.add {written : List (WfsMember Values)} {list : MemberList Values}
    (wrote : Wrote written list) {geomTimestamp : ByteString} {result : ContourResultHash Values}
    {member : WfsMember Values} (isMember : written.length < 2 ^ 32 → member = {
      phenomenonTime := geomTimestamp
      analysisTime := ctx.origintimeTimestamp
      modificationTime := ctx.modificationtimeTimestamp
      featureOfInterestShape := ctx.featureOfInterestShape
      result }) :
    Wrote (written ++ [member]) (addMember ctx geomTimestamp list result) where
  index := by
    rw [addMember, wrote.index, List.length_append]
    exact (UInt32.ofNat_add written.length 1).symm
  length := by
    rw [addMember, length_putAt, wrote.index_toNat, wrote.length, List.length_append,
      List.length_singleton]
    omega
  members := by
    intro bound
    rw [List.length_append, List.length_singleton] at bound
    have same := wrote.members (by omega)
    have index : list.index.toNat = list.members.length := by
      rw [wrote.index_toNat, same]
      omega
    rw [addMember, index, putAt_length, same, isMember (by omega)]

/-- The members of a collection, from the results dug out of it. -/
theorem Wrote.addAll (values : Values) (time : Time) (leaves : List (Geometry Number))
    {written : List (WfsMember Values)} {list : MemberList Values} (wrote : Wrote written list) :
    Wrote (written ++ leaves.map (memberOf ctx values time))
      ((leaves.map fun leaf => shaped ctx leaf {}).foldl (fun list res =>
        addMember ctx (ctx.formatLocalTime time) list
          { res with timestamp := ctx.formatLocalTime time, values := some values }) list) := by
  induction leaves generalizing written list with
  | nil =>
      rw [List.map_nil, List.append_nil]
      exact wrote
  | cons leaf leaves ih =>
      rw [List.map_cons, List.append_cons]
      refine ih (wrote.add fun _ => ?_)
      cases leaf <;> rfl

/-- Nothing of an empty geometry is parsed. -/
theorem parsed_of_isEmpty {geometry : Geometry Number} (empty : geometry.isEmpty = true) :
    geometry.parsed = [] := by
  unfold Geometry.parsed
  split
  · exact nonEmpty_leavesOf empty
  · rw [empty]
    exact if_neg fun both => Bool.false_ne_true both.1.symm

/-- A geometry that is supported is parsed itself. -/
theorem parsed_of_isSupported {geometry : Geometry Number} (filled : geometry.isEmpty = false)
    (supported : geometry.isSupported = true) : geometry.parsed = [geometry] := by
  unfold Geometry.parsed
  split
  · cases supported
  · exact if_pos ⟨filled, supported⟩

/-- One geometry adds the members of its parsed leaves, if each can be parsed. -/
theorem parseAreaGeom_yields (values : Values) (list : MemberList Values)
    (areaGeom : Time × Geometry Number) :
    ∃ after, Yields (parseAreaGeom ctx values list areaGeom)
        (∀ leaf ∈ areaGeom.2.parsed, leaf.Ringed) after ∧
      ∀ written, Wrote written list →
        Wrote (written ++ areaGeom.2.parsed.map (memberOf ctx values areaGeom.1)) after := by
  obtain ⟨time, geometry⟩ := areaGeom
  have nothing : geometry.parsed = [] → Yields (.ok list : Except NullPointer (MemberList Values))
        (∀ leaf ∈ geometry.parsed, leaf.Ringed) list ∧
      ∀ written, Wrote written list →
        Wrote (written ++ geometry.parsed.map (memberOf ctx values time)) list := by
    intro none
    rw [none]
    refine ⟨(Yields.ok list).congr (iff_of_true trivial fun _ member => nomatch member) fun _ =>
      rfl, fun written wrote => ?_⟩
    rw [List.map_nil, List.append_nil]
    exact wrote
  unfold parseAreaGeom
  dsimp only
  split
  · next empty => exact ⟨list, nothing (parsed_of_isEmpty empty)⟩
  · next filled =>
      split
      · next supported =>
          rw [parsed_of_isSupported (Bool.eq_false_iff.mpr filled) supported]
          refine ⟨_, (((parseGeometry_yields geometry _).bind
            ((parseGeometry_yields geometry _).map fun result =>
              addMember ctx (ctx.formatLocalTime time) list result)).congr ?_ fun _ => rfl), ?_⟩
          · rw [and_self_iff]
            exact List.forall_mem_singleton.symm
          · intro written wrote
            refine wrote.add fun small => ?_
            have behind : list.members[list.index.toNat]? = none := by
              rw [wrote.index_toNat, wrote.members (Nat.le_of_lt small), Nat.mod_eq_of_lt small]
              exact List.getElem?_eq_none (Nat.le_refl _)
            rw [behind, shaped_shaped]
            rfl
      · next unsupported =>
          cases geometry with
          | collection geometries =>
              refine ⟨_, (handleGeometryCollection_yields geometries []).map fun results =>
                results.foldl (fun list res => addMember ctx (ctx.formatLocalTime time) list
                  { res with timestamp := ctx.formatLocalTime time, values := some values }) list,
                fun written wrote => ?_⟩
              exact wrote.addAll values time _
          | other type empty => exact ⟨list, nothing (if_neg fun both => unsupported both.2)⟩
          | polygon rings => exact absurd rfl unsupported
          | multiPolygon polygons => exact absurd rfl unsupported
          | linearRing points => exact absurd rfl unsupported
          | lineString points => exact absurd rfl unsupported
          | multiLineString lines => exact absurd rfl unsupported

/-- The loops over the results and their geometries. -/
theorem parseQueryResults_succeeds (queryResults : List (ContourQueryResult Number Time Values)) :
    (∃ hash, parseQueryResults ctx queryResults = .ok hash) ↔
      ∀ resultItem ∈ queryResults, ∀ areaGeom ∈ resultItem.areaGeoms,
        ∀ leaf ∈ areaGeom.2.parsed, leaf.Ringed := by
  have loops : (∃ list, queryResults.foldlM (fun list resultItem =>
      resultItem.areaGeoms.foldlM (parseAreaGeom ctx resultItem.values) list) ⟨[], 0⟩ = .ok list) ↔
        ∀ resultItem ∈ queryResults, ∀ areaGeom ∈ resultItem.areaGeoms,
          ∀ leaf ∈ areaGeom.2.parsed, leaf.Ringed := by
    refine foldlM_succeeds_iff fun list resultItem _ =>
      foldlM_succeeds_iff fun list areaGeom _ => ?_
    obtain ⟨_, yields, _⟩ := parseAreaGeom_yields resultItem.values list areaGeom
    exact yields.succeeds_iff
  rw [← loops]
  unfold parseQueryResults
  constructor
  · rintro ⟨hash, ran⟩
    obtain ⟨list, looped, _⟩ := ok_of_bind ran
    exact ⟨list, looped⟩
  · rintro ⟨list, looped⟩
    rw [looped]
    exact ⟨_, rfl⟩

/-- The geometries of a result write their members. -/
theorem areaGeoms_wrote (values : Values) (areaGeoms : List (Time × Geometry Number))
    {written : List (WfsMember Values)} {list : MemberList Values} (wrote : Wrote written list) :
    Meets (fun _ => True) (areaGeoms.foldlM (parseAreaGeom ctx values) list)
      (Wrote (written ++ areaGeoms.flatMap fun areaGeom =>
        areaGeom.2.parsed.map (memberOf ctx values areaGeom.1))) := by
  refine Meets.foldlM (fun done => Wrote (written ++ done.flatMap fun areaGeom =>
    areaGeom.2.parsed.map (memberOf ctx values areaGeom.1))) areaGeoms ?_ ?_
  · rw [List.flatMap_nil, List.append_nil]
    exact wrote
  · intro done areaGeom rest list _ wroteDone
    rw [List.flatMap_append, List.flatMap_singleton, ← List.append_assoc]
    obtain ⟨after, yields, adds⟩ := parseAreaGeom_yields values list areaGeom
    cases ran : parseAreaGeom ctx values list areaGeom with
    | error failure => trivial
    | ok next =>
        rw [((yields next).mp ran).2]
        exact adds _ wroteDone

/-- All results write their members. -/
theorem parseQueryResults_wrote {queryResults : List (ContourQueryResult Number Time Values)}
    {hash : ContourHash Values} (ran : parseQueryResults ctx queryResults = .ok hash) :
    ∃ list, Wrote (membersFor ctx Geometry.parsed queryResults) list ∧
      hash = ⟨list.members, decimal list.index.toNat, decimal list.index.toNat⟩ := by
  have loops : Meets (fun _ => True) (queryResults.foldlM (fun list resultItem =>
      resultItem.areaGeoms.foldlM (parseAreaGeom ctx resultItem.values) list) ⟨[], 0⟩)
        (Wrote (membersFor ctx Geometry.parsed queryResults)) := by
    refine Meets.foldlM (fun done => Wrote (membersFor ctx Geometry.parsed done)) queryResults
      ⟨rfl, rfl, fun _ => rfl⟩ fun done resultItem rest list _ wrote => ?_
    rw [membersFor, List.flatMap_append, List.flatMap_singleton]
    exact areaGeoms_wrote resultItem.values resultItem.areaGeoms wrote
  unfold parseQueryResults at ran
  obtain ⟨list, looped, whole⟩ := ok_of_bind ran
  exact ⟨list, loops.of_ok looped, (Except.ok.inj whole).symm⟩

end

/-! ### When the members correspond to the leaves -/

/-- A leaf of a supported type that is not empty gives a member its part. -/
theorem hasPart_memberOf {ctx : ContourContext Number Time Values} {values : Values} {time : Time}
    {leaf : Geometry Number} (filled : leaf.isEmpty = false) :
    (memberOf ctx values time leaf).HasPart ↔ leaf.isSupported = true := by
  cases leaf with
  | polygon rings => exact iff_of_true (.inl ⟨_, _, rfl⟩) rfl
  | multiPolygon polygons =>
      cases polygons with
      | nil => cases filled
      | cons polygon polygons => exact iff_of_true (.inl ⟨_, _, rfl⟩) rfl
  | linearRing points => exact iff_of_true (.inl ⟨_, _, rfl⟩) rfl
  | lineString points => exact iff_of_true (.inr ⟨_, _, rfl⟩) rfl
  | multiLineString lines =>
      cases lines with
      | nil => cases filled
      | cons line lines => exact iff_of_true (.inr ⟨_, _, rfl⟩) rfl
  | collection geometries =>
      refine iff_of_false ?_ Bool.false_ne_true
      rintro (⟨_, _, part⟩ | ⟨_, _, part⟩) <;> cases part
  | other type empty =>
      refine iff_of_false ?_ Bool.false_ne_true
      rintro (⟨_, _, part⟩ | ⟨_, _, part⟩) <;> cases part

/-- A member is that of a leaf of some geometry. -/
theorem mem_membersFor {ctx : ContourContext Number Time Values}
    {select : Geometry Number → List (Geometry Number)}
    {queryResults : List (ContourQueryResult Number Time Values)} {member : WfsMember Values} :
    member ∈ membersFor ctx select queryResults ↔ ∃ resultItem ∈ queryResults,
      ∃ areaGeom ∈ resultItem.areaGeoms, ∃ leaf ∈ select areaGeom.2,
        memberOf ctx resultItem.values areaGeom.1 leaf = member := by
  simp only [membersFor, List.mem_flatMap, List.mem_map]

theorem length_membersFor (ctx : ContourContext Number Time Values)
    (select : Geometry Number → List (Geometry Number))
    (queryResults : List (ContourQueryResult Number Time Values)) :
    (membersFor ctx select queryResults).length = (queryResults.flatMap fun resultItem =>
      resultItem.areaGeoms.flatMap fun areaGeom => select areaGeom.2).length := by
  simp only [membersFor, List.length_flatMap, List.length_map]

/-- Only a collection has other leaves than itself. -/
theorem leaves_eq_self {geometry : Geometry Number}
    (isLeaf : ∀ geometries, geometry ≠ .collection geometries) :
    geometry.leaves = [geometry] := by
  cases geometry with
  | collection geometries => exact absurd rfl (isLeaf geometries)
  | _ => simp only [Geometry.leaves]

/-- The leaves of a geometry that are parsed: of a collection those of all types. -/
theorem mem_parsed {geometry leaf : Geometry Number} : leaf ∈ geometry.parsed ↔
    leaf ∈ geometry.leaves ∧ leaf.isEmpty = false ∧
      ((∃ geometries, geometry = .collection geometries) ∨ leaf.isSupported = true) := by
  unfold Geometry.parsed
  split
  · next geometries =>
      rw [mem_nonEmpty, Geometry.leaves]
      exact and_congr_right fun _ => (and_iff_left (.inl ⟨geometries, rfl⟩)).symm
  · next isLeaf =>
      have isLeaf : ∀ geometries, geometry ≠ .collection geometries := isLeaf
      have notCollection : ¬ ∃ geometries, geometry = .collection geometries :=
        not_exists.mpr isLeaf
      rw [leaves_eq_self isLeaf, or_iff_right notCollection, List.mem_singleton]
      split
      · next both =>
          rw [List.mem_singleton]
          exact ⟨fun same => ⟨same, same ▸ both⟩, And.left⟩
      · next neither =>
          refine iff_of_false List.not_mem_nil ?_
          rintro ⟨same, both⟩
          exact neither (same ▸ both)

/-- The leaves parsed are the wanted ones if all that a collection has are supported. -/
theorem parsed_eq_contours {geometry : Geometry Number}
    (supported : ∀ leaf ∈ geometry.parsed, leaf.isSupported = true) :
    geometry.parsed = geometry.contours := by
  by_cases isLeaf : ∀ geometries, geometry ≠ .collection geometries
  · have alone := leaves_eq_self isLeaf
    cases geometry with
    | collection geometries => exact absurd rfl (isLeaf geometries)
    | _ =>
        rw [Geometry.contours, alone, List.filter_singleton]
        simp only [Geometry.parsed, cond_eq_ite, Bool.and_eq_true, Bool.not_eq_true']
  · obtain ⟨geometries, same⟩ := not_forall.mp isLeaf
    obtain rfl := not_not.mp same
    refine List.filter_congr fun leaf member => ?_
    cases empty : leaf.isEmpty with
    | true => rfl
    | false =>
        rw [supported leaf (mem_nonEmpty.mpr ⟨member, empty⟩)]
        rfl

/-- Where all types are supported the members are those of all leaves that are not empty. -/
theorem membersFor_parsed (ctx : ContourContext Number Time Values)
    {queryResults : List (ContourQueryResult Number Time Values)}
    (supported : ∀ resultItem ∈ queryResults, ∀ areaGeom ∈ resultItem.areaGeoms,
      ∀ leaf ∈ areaGeom.2.parsed, leaf.isSupported = true) :
    membersFor ctx Geometry.parsed queryResults =
      membersFor ctx Geometry.contours queryResults := by
  refine List.flatMap_congr fun resultItem itemMember => ?_
  refine List.flatMap_congr fun areaGeom geomMember => ?_
  exact congrArg (List.map _)
    (parsed_eq_contours (supported resultItem itemMember areaGeom geomMember))

/-- A polygon that is not empty has a ring. -/
theorem ringed_of_filled {leaf : Geometry Number} (filled : leaf.isEmpty = false)
    (multi : ∀ polygons, leaf = .multiPolygon polygons → [] ∉ polygons) : leaf.Ringed := by
  cases leaf with
  | polygon rings =>
      rintro rfl
      cases filled
  | multiPolygon polygons => exact multi polygons rfl
  | linearRing points => trivial
  | lineString points => trivial
  | multiLineString lines => trivial
  | collection geometries => trivial
  | other type empty => trivial

/-- Results can be expressed when all their leaves can. -/
theorem expressible_iff {queryResults : List (ContourQueryResult Number Time Values)} :
    Expressible queryResults ↔
      (∀ resultItem ∈ queryResults, ∀ areaGeom ∈ resultItem.areaGeoms, ∀ leaf ∈ areaGeom.2.parsed,
        leaf.isSupported = true ∧ leaf.Ringed) ∧
      (queryResults.flatMap fun resultItem =>
        resultItem.areaGeoms.flatMap fun areaGeom => areaGeom.2.contours).length < 2 ^ 32 := by
  constructor
  · intro expressible
    refine ⟨fun resultItem itemMember areaGeom geomMember leaf member => ?_, expressible.counted⟩
    obtain ⟨inLeaves, filled, given⟩ := mem_parsed.mp member
    refine ⟨?_, ringed_of_filled filled ?_⟩
    · refine given.elim (fun ⟨geometries, isCollection⟩ => ?_) id
      rw [isCollection, Geometry.leaves] at inLeaves
      exact expressible.supported resultItem itemMember areaGeom geomMember geometries isCollection
        leaf inLeaves filled
    · rintro polygons rfl
      exact expressible.ringed resultItem itemMember areaGeom geomMember polygons inLeaves filled
  · rintro ⟨each, counted⟩
    refine ⟨?_, ?_, counted⟩
    · intro resultItem itemMember areaGeom geomMember geometries isCollection leaf inLeaves filled
      refine (each resultItem itemMember areaGeom geomMember leaf (mem_parsed.mpr
        ⟨?_, filled, .inl ⟨geometries, isCollection⟩⟩)).1
      rw [isCollection, Geometry.leaves]
      exact inLeaves
    · intro resultItem itemMember areaGeom geomMember polygons inLeaves filled
      exact (each resultItem itemMember areaGeom geomMember _
        (mem_parsed.mpr ⟨inLeaves, filled, .inr rfl⟩)).2

/-- The members correspond to the leaves exactly when the results are `Expressible`. -/
theorem membersCorrespond_iff (ctx : ContourContext Number Time Values)
    (queryResults : List (ContourQueryResult Number Time Values)) :
    MembersCorrespond ctx queryResults ↔ Expressible queryResults := by
  rw [expressible_iff, ← length_membersFor ctx]
  constructor
  · rintro ⟨hash, ran, members, parts, numberMatched, _⟩
    obtain ⟨list, wrote, rfl⟩ := parseQueryResults_wrote ran
    have counted : list.members.length = list.index.toNat := (decimal_injective numberMatched).symm
    have small : (membersFor ctx Geometry.parsed queryResults).length < 2 ^ 32 := by
      have index := wrote.index_toNat
      have length := wrote.length
      omega
    have written := wrote.members (Nat.le_of_lt small)
    refine ⟨fun resultItem itemMember areaGeom geomMember leaf member => ⟨?_, ?_⟩, ?_⟩
    · have inMembers : memberOf ctx resultItem.values areaGeom.1 leaf ∈ list.members := by
        rw [written]
        exact mem_membersFor.mpr ⟨resultItem, itemMember, areaGeom, geomMember, leaf, member, rfl⟩
      exact (hasPart_memberOf (mem_parsed.mp member).2.1).mp (parts _ inMembers)
    · exact (parseQueryResults_succeeds queryResults).mp ⟨_, ran⟩ resultItem itemMember areaGeom
        geomMember leaf member
    · rw [← members, written]
      exact small
  · rintro ⟨each, counted⟩
    have same := membersFor_parsed ctx fun resultItem itemMember areaGeom geomMember leaf member =>
      (each resultItem itemMember areaGeom geomMember leaf member).1
    have succeeds : ∃ hash, parseQueryResults ctx queryResults = .ok hash :=
      (parseQueryResults_succeeds queryResults).mpr
        fun resultItem itemMember areaGeom geomMember leaf member =>
          (each resultItem itemMember areaGeom geomMember leaf member).2
    obtain ⟨hash, ran⟩ := succeeds
    obtain ⟨list, wrote, rfl⟩ := parseQueryResults_wrote ran
    rw [same] at wrote
    have members := wrote.members (Nat.le_of_lt counted)
    have number : list.index.toNat = list.members.length := by
      rw [wrote.index_toNat, members, Nat.mod_eq_of_lt counted]
    refine ⟨_, ran, members, fun member inMembers => ?_, congrArg decimal number,
      congrArg decimal number⟩
    have inMembers : member ∈ membersFor ctx Geometry.parsed queryResults := by
      rw [same, ← members]
      exact inMembers
    obtain ⟨resultItem, itemMember, areaGeom, geomMember, leaf, parsed, rfl⟩ :=
      mem_membersFor.mp inMembers
    exact (hasPart_memberOf (mem_parsed.mp parsed).2.1).mpr
      (each resultItem itemMember areaGeom geomMember leaf parsed).1

/-! ### A point in a collection -/

/-- A context for samples. -/
def sampleContours : ContourContext Nat Nat Unit where
  double2string := fun number _ => decimal number
  latLonOrder := false
  precision := 1
  formatLocalTime := decimal
  origintimeTimestamp := []
  modificationtimeTimestamp := []
  featureOfInterestShape := []

/-- An isoline and a point (type 1). -/
def lineAndPoint : List (ContourQueryResult Nat Nat Unit) :=
  [⟨[(720, .collection [.lineString [(1, 2), (3, 4)], .other 1 false])], ()⟩]

/-- A member is written for the point too. -/
theorem lineAndPoint_adds : ¬ MembersCorrespond sampleContours lineAndPoint := by
  rintro ⟨hash, ran, members, _⟩
  cases ran
  have lengths := congrArg List.length members
  exact absurd lengths (by decide)

end SmartMetWfs.Handlers
