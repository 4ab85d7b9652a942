import SmartMetWfs.FeatureID.Identifier
import SmartMetWfs.Parameters.StoredQuery

/-!
# Location parameters in feature identifiers

`SupportsLocationParameters` registers the parameters that name places, some of them
only for the handlers that ask for them. A feature identifier carries the parameters
of a request under their names as they are spelt; whoever resolves the identifier
reads them through a `RequestParameterMap`, which may fold the letter case.

A handler makes the identifier of a part of a result from the identifier of the whole
request: it erases some parameters and adds others. What then reads back under a name
is what was added exactly when the request has no parameter of that name left over.
-/

namespace SmartMetWfs

open Foundation

namespace Parameters.RequestParameterMap

variable {ν : Type}

/-- The key under which a name is kept. -/
def key (caseSensitiveParams : Bool) (name : ByteString) : ByteString :=
  if caseSensitiveParams then name else asciiTolowerCopy name

/-- The map of the parameters of a feature identifier. -/
def ofMap (params : Multimap ByteString ν) (caseSensitiveParams : Bool) : RequestParameterMap ν :=
  params.entries.foldl (fun result item => result.insertValue item.1 item.2)
    (.empty caseSensitiveParams)

/-- `get_values`: the values under a name. -/
def getValues (map : RequestParameterMap ν) (name : ByteString) : List ν :=
  (map.params.equalRange (key map.caseSensitiveParams name)).map ParamInfo.value

/-- The values are inserted one after the other. -/
theorem foldl_insertValue (items : List (ByteString × ν)) (map : RequestParameterMap ν) :
    items.foldl (fun result item => result.insertValue item.1 item.2) map =
      { map with
        params := map.params.insertAll (items.map fun item =>
          (key map.caseSensitiveParams item.1, ⟨item.1, item.2⟩)) } := by
  induction items generalizing map with
  | nil => rfl
  | cons item items ih => exact ih (map.insertValue item.1 item.2)

/-- The values under a name are those that were inserted under a spelling of it. -/
theorem getValues_foldl_insertValue (items : List (ByteString × ν)) (caseSensitiveParams : Bool)
    (name : ByteString) :
    (items.foldl (fun result item => result.insertValue item.1 item.2)
        (empty caseSensitiveParams)).getValues name =
      (items.filter fun item =>
        key caseSensitiveParams item.1 = key caseSensitiveParams name).map Prod.snd := by
  rw [foldl_insertValue]
  change ((Multimap.empty.insertAll _).equalRange (key caseSensitiveParams name)).map _ = _
  rw [Multimap.equalRange_insertAll, Multimap.equalRange_empty, List.nil_append, List.filter_map,
    List.map_map, List.map_map]
  refine congrArg (List.map Prod.snd) (List.filter_congr fun item _ => ?_)
  exact decide_eq_decide.mpr Iff.rfl

/-- The values read back under a name are those of all its spellings. -/
theorem getValues_ofMap (params : Multimap ByteString ν) (caseSensitiveParams : Bool)
    (name : ByteString) :
    (ofMap params caseSensitiveParams).getValues name =
      (params.entries.filter fun entry =>
        key caseSensitiveParams entry.1 = key caseSensitiveParams name).map Prod.snd :=
  getValues_foldl_insertValue params.entries caseSensitiveParams name

end Parameters.RequestParameterMap

namespace Handlers

open Parameters

/-! ### The registered names -/

def pPlaces : ByteString := ascii "places"
def pLatlons : ByteString := ascii "latlons"
def pGeoids : ByteString := ascii "geoids"
def pKeyword : ByteString := ascii "keyword"
def pFmisids : ByteString := ascii "fmisids"
def pWmos : ByteString := ascii "wmos"
def pLpnns : ByteString := ascii "lpnns"

/-- `SupportsBoundingBox::P_BOUNDING_BOX`. -/
def pBoundingBox : ByteString := ascii "boundingBox"

/-- The name of the parameter for the quantities. -/
def pMeteoParameters : ByteString := ascii "meteoParameters"

/-- The option bits of `SupportsLocationParameters`. -/
structure LocationOptions where
  supportKeywords : Bool
  includeFmisids : Bool
  includeGeoids : Bool
  includeWmos : Bool
  includeLpnns : Bool

/-- The registered parameters whose values `get_location_options` turns into locations. -/
def locationParams (options : LocationOptions) : List ByteString :=
  [pPlaces, pLatlons] ++ (if options.includeFmisids then [pFmisids] else []) ++
    (if options.includeGeoids then [pGeoids] else []) ++
    (if options.includeWmos then [pWmos] else []) ++
    (if options.includeLpnns then [pLpnns] else []) ++
    (if options.supportKeywords then [pKeyword] else [])

/-! ### Reading a part's identifier back -/

/-- The values that are read back under a name when an identifier is resolved. -/
def readBack (caseSensitiveParams : Bool) (params : ValueMap) (name : ByteString) : List Value :=
  (RequestParameterMap.ofMap params caseSensitiveParams).getValues name

/-- No two of the names are kept under one key. -/
def Distinguished (caseSensitiveParams : Bool) (names : List ByteString) : Prop :=
  (names.map (RequestParameterMap.key caseSensitiveParams)).Nodup

instance (caseSensitiveParams : Bool) (names : List ByteString) :
    Decidable (Distinguished caseSensitiveParams names) :=
  inferInstanceAs (Decidable (List.Nodup _))

/-- Every parameter of the request that reads back under the name is one of the erased. -/
def NothingLeft (caseSensitiveParams : Bool) (request : ValueMap) (erased : List ByteString)
    (name : ByteString) : Prop :=
  ∀ entry ∈ request.entries, RequestParameterMap.key caseSensitiveParams entry.1 =
    RequestParameterMap.key caseSensitiveParams name → entry.1 ∈ erased

instance (caseSensitiveParams : Bool) (request : ValueMap) (erased : List ByteString) :
    DecidablePred (NothingLeft caseSensitiveParams request erased) := fun _ =>
  inferInstanceAs (Decidable (∀ entry ∈ request.entries, _))

/-- The parameters that do not read back under one of the names. -/
def withoutNames (caseSensitiveParams : Bool) (names : List ByteString) (params : ValueMap) :
    ValueMap :=
  ⟨params.entries.filter fun entry => RequestParameterMap.key caseSensitiveParams entry.1 ∉
    names.map (RequestParameterMap.key caseSensitiveParams), params.sorted.filter _⟩

/-- The parameters of a part: some of the request's are erased, others are added. -/
def partParams (request : ValueMap) (erased : List ByteString)
    (added : List (ByteString × Value)) : ValueMap :=
  (request.eraseAll erased).insertAll added

/-- Names that are told apart are equal when their keys are. -/
theorem Distinguished.eq {caseSensitiveParams : Bool} {names : List ByteString}
    (distinguished : Distinguished caseSensitiveParams names) {first second : ByteString}
    (firstIn : first ∈ names) (secondIn : second ∈ names)
    (same : RequestParameterMap.key caseSensitiveParams first =
      RequestParameterMap.key caseSensitiveParams second) : first = second :=
  List.inj_on_of_nodup_map distinguished firstIn secondIn same

/-- Erasing names removes what reads back under them if and only if nothing is left. -/
theorem eraseAll_eq_withoutNames {caseSensitiveParams : Bool} {names : List ByteString}
    {params : ValueMap} :
    params.eraseAll names = withoutNames caseSensitiveParams names params ↔
      ∀ name ∈ names, NothingLeft caseSensitiveParams params names name := by
  constructor
  · intro same name member entry inParams sameKey
    by_contra kept
    have left : entry ∈ (withoutNames caseSensitiveParams names params).entries :=
      same ▸ Multimap.mem_eraseAll.mpr ⟨inParams, kept⟩
    have foreign := of_decide_eq_true (List.mem_filter.mp left).2
    exact foreign (sameKey ▸ List.mem_map_of_mem member)
  · intro nothingLeft
    refine Multimap.ext ?_
    rw [Multimap.entries_eraseAll]
    refine List.filter_congr fun entry inParams => decide_eq_decide.mpr (not_congr ⟨?_, ?_⟩)
    · exact List.mem_map_of_mem
    · intro reads
      obtain ⟨name, member, sameKey⟩ := List.mem_map.mp reads
      exact nothingLeft name member entry inParams sameKey.symm

/-- The parameters of a part are those that stay and those that were added. -/
theorem mem_partParams {request : ValueMap} {erased : List ByteString}
    {added : List (ByteString × Value)} {entry : ByteString × Value} :
    entry ∈ (partParams request erased added).entries ↔
      entry ∈ added ∨ (entry ∈ request.entries ∧ entry.1 ∉ erased) := by
  rw [partParams, (Multimap.insertAll_perm added (request.eraseAll erased)).mem_iff,
    List.mem_append, Multimap.mem_eraseAll]

/-- What stands under a name in a part's parameters. -/
theorem equalRange_partParams (request : ValueMap) (erased : List ByteString)
    (added : List (ByteString × Value)) (name : ByteString) :
    (partParams request erased added).equalRange name =
      (if name ∈ erased then [] else request.equalRange name) ++
        (added.filter fun entry => entry.1 = name).map Prod.snd := by
  rw [partParams, Multimap.equalRange_insertAll, Multimap.equalRange_eraseAll]
  refine congrArg₂ (· ++ ·) ?_ (congrArg (List.map Prod.snd) (List.filter_congr fun entry _ => ?_))
  · by_cases gone : name ∈ erased
    · rw [if_pos gone, if_pos gone]
    · rw [if_neg gone, if_neg gone]
  · exact decide_eq_decide.mpr Iff.rfl

/-- Under a name, exactly the added values are read back if and only if the request has
nothing left over there. -/
theorem readBack_partParams {caseSensitiveParams : Bool} {request : ValueMap}
    {erased : List ByteString} {added : List (ByteString × Value)} {name : ByteString}
    (addedErased : ∀ entry ∈ added, entry.1 ∈ erased)
    (spelled : ∀ other ∈ erased, RequestParameterMap.key caseSensitiveParams other =
      RequestParameterMap.key caseSensitiveParams name → other = name) :
    readBack caseSensitiveParams (partParams request erased added) name =
        (added.filter fun entry => entry.1 = name).map Prod.snd ↔
      NothingLeft caseSensitiveParams request erased name := by
  have sameFilter : (added.filter fun entry => RequestParameterMap.key caseSensitiveParams entry.1 =
      RequestParameterMap.key caseSensitiveParams name) =
        added.filter fun entry => entry.1 = name := by
    refine List.filter_congr fun entry member => ?_
    rw [decide_eq_decide]
    exact ⟨spelled entry.1 (addedErased entry member), congrArg _⟩
  rw [readBack, RequestParameterMap.getValues_ofMap]
  constructor
  · intro readAdded entry member sameKey
    by_contra kept
    -- an entry that is left makes the list read back longer than the list of the added values
    have longer := congrArg List.length readAdded
    rw [partParams, List.length_map, List.length_map, ← sameFilter,
      ((Multimap.insertAll_perm added (request.eraseAll erased)).filter _).length_eq,
      List.filter_append, List.length_append] at longer
    have left : entry ∈ (request.eraseAll erased).entries.filter fun entry =>
        RequestParameterMap.key caseSensitiveParams entry.1 =
          RequestParameterMap.key caseSensitiveParams name :=
      List.mem_filter.mpr ⟨Multimap.mem_eraseAll.mpr ⟨member, kept⟩, decide_eq_true sameKey⟩
    have some_left := List.length_pos_of_mem left
    omega
  · intro nothingLeft
    have exactSpelling : ((partParams request erased added).entries.filter fun entry =>
        RequestParameterMap.key caseSensitiveParams entry.1 =
          RequestParameterMap.key caseSensitiveParams name).map Prod.snd =
        (partParams request erased added).equalRange name := by
      refine congrArg (List.map Prod.snd) (List.filter_congr fun entry member => ?_)
      rw [decide_eq_decide]
      refine ⟨fun sameKey => ?_, congrArg _⟩
      rcases mem_partParams.mp member with new | ⟨old, kept⟩
      · exact spelled entry.1 (addedErased entry new) sameKey
      · exact absurd (nothingLeft entry old sameKey) kept
    have gone : (if name ∈ erased then [] else request.equalRange name) = [] := by
      split
      · rfl
      · next kept =>
          refine List.eq_nil_iff_forall_not_mem.mpr fun value member => kept ?_
          exact nothingLeft (name, value) (Multimap.mem_equalRange.mp member) rfl
    rw [exactSpelling, equalRange_partParams, gone, List.nil_append]

end Handlers

end SmartMetWfs
