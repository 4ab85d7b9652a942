import SmartMetWfs.BStream.Unambiguous
import SmartMetWfs.FeatureID.Identifier

/-!
# Cache keys

The key under which the response to a query is cached is a feature identifier made of
the resolved parameters and of markers that are added to them: the language, the debug
flag if it is set and, for a stored query, the data source and the qualifier of the
handler if there is one. `AdHocQuery` makes its keys itself and leaves the last two out.

Keys are compared here as what they are made of: two keys are equal exactly when their
queries are `Indistinct`.
-/

namespace SmartMetWfs

open Foundation OBStream IBStream

/-! ### Identifiers determine what they name -/

namespace FeatureID

variable (base64 : Base64) (sha1 : Digest)

/-- An identifier can be made when the parameters can be written. -/
theorem getId_ok {self : FeatureID} (writable : self.params.Writable) :
    ∃ id, self.getId base64 sha1 = .ok id := by
  obtain ⟨stream, ran, _⟩ := putFields_run writable
  exact ⟨pack base64 sha1 stream.rawData, by rw [getId, ran]; rfl⟩

/-- The fields are known by their bits. -/
theorem fieldBits_injective {first second : FeatureID} {rest rest' : List Bool}
    (valid : first.params.Writable ∧ first.params.Storable)
    (valid' : second.params.Writable ∧ second.params.Storable)
    (storable : Storable first.storedQueryId) (storable' : Storable second.storedQueryId)
    (same : first.fieldBits ++ rest = second.fieldBits ++ rest') :
    first.storedQueryId = second.storedQueryId ∧ first.params = second.params := by
  have numbers : PrefixFree (fun _ : UInt64 => True) fun value => unsignedBits value.toNat :=
    prefixFree_of_consumes fun value _ => getUnsigned_consumes value
  simp only [fieldBits, List.append_assoc] at same
  have same := List.append_cancel_left (List.append_cancel_left same)
  obtain ⟨ids, same⟩ := stringBits_prefixFree _ _ _ _ storable storable' same
  obtain ⟨_, same⟩ := numbers _ _ _ _ trivial trivial same
  exact ⟨ids, (valueMapBits_prefixFree _ _ _ _ valid valid' same).1⟩

/-- One identifier names one stored query with one map of parameters. -/
theorem getId_injective {first second : FeatureID} {id : ByteString}
    (valid : first.params.Writable ∧ first.params.Storable)
    (valid' : second.params.Writable ∧ second.params.Storable)
    (storable : Storable first.storedQueryId) (storable' : Storable second.storedQueryId)
    (made : first.getId base64 sha1 = .ok id) (made' : second.getId base64 sha1 = .ok id) :
    first.storedQueryId = second.storedQueryId ∧ first.params = second.params := by
  obtain ⟨stream, ran, padding, shown⟩ := putFields_run valid.1
  obtain ⟨stream', ran', padding', shown'⟩ := putFields_run valid'.1
  rw [getId, ran] at made
  rw [getId, ran'] at made'
  have packed : pack base64 sha1 stream.rawData = pack base64 sha1 stream'.rawData :=
    (Except.ok.inj made).trans (Except.ok.inj made').symm
  have nonempty : ∀ stream : OBStream, 0 < stream.rawData.length := by
    intro stream
    rw [rawData_length]
    exact Nat.succ_pos _
  have raw : stream.rawData = stream'.rawData := by
    apply Except.ok.inj (ε := CreateError)
    rw [← unpack_pack base64 sha1 (nonempty stream), ← unpack_pack base64 sha1 (nonempty stream'),
      packed]
  rw [raw, shown'] at shown
  exact fieldBits_injective valid valid' storable storable' shown.symm

end FeatureID

/-- `StoredQuery` and the derived `AdHocQuery`. -/
inductive QueryClass
  | storedQuery
  | adHocQuery
  deriving DecidableEq

/-- What a query is made of when its cache key is made. Only queries whose parameters can
be written get so far, and a string has a size that can be stored. -/
structure KeyedQuery where
  queryClass : QueryClass
  id : ByteString
  params : ValueMap
  dataSource : ByteString
  language : ByteString
  debugFormat : Bool
  cacheKeyQualifier : ByteString
  present : ∀ entry ∈ params.entries, entry.2 ≠ .empty
  params_storable : params.Storable
  id_storable : Storable id
  dataSource_storable : Storable dataSource
  language_storable : Storable language
  qualifier_storable : Storable cacheKeyQualifier

namespace KeyedQuery

/-- The debug format is marked in the identifier. -/
def addDebugFormat (self : KeyedQuery) (featureId : FeatureID) : FeatureID :=
  if self.debugFormat then featureId.addParam (ascii "debugFormat") (.int 1) else featureId

/-- The identifier made in `create_from_kvp`, `create_from_xml` and `create_from_feature_id`. -/
def storedQueryFeatureId (self : KeyedQuery) : FeatureID :=
  let featureId : FeatureID := ⟨self.id, self.params, 0⟩
  let featureId := featureId.addParam (ascii "source") (.string self.dataSource)
  let featureId := featureId.addParam (ascii "language") (.string self.language)
  let featureId := self.addDebugFormat featureId
  if self.cacheKeyQualifier ≠ [] then
    featureId.addParam (ascii "cacheKeyQualifier") (.string self.cacheKeyQualifier)
  else featureId

/-- The identifier made in `process_parms` and `create_bbox_query_from_kvp`. -/
def adHocQueryFeatureId (self : KeyedQuery) : FeatureID :=
  let featureId : FeatureID := ⟨self.id, self.params, 0⟩
  self.addDebugFormat (featureId.addParam (ascii "language") (.string self.language))

/-- The identifier that the key of the cache is made of. -/
def cacheFeatureId (self : KeyedQuery) : FeatureID :=
  match self.queryClass with
  | .storedQuery => self.storedQueryFeatureId
  | .adHocQuery => self.adHocQueryFeatureId

variable (base64 : Base64) (sha1 : Digest)

/-- `get_cache_key`. -/
def getCacheKey (self : KeyedQuery) : Except StreamError ByteString :=
  self.cacheFeatureId.getId base64 sha1

/-- The queries ask for the same data in the same form. -/
structure SameRequest (first second : KeyedQuery) : Prop where
  id : first.id = second.id
  params : first.params = second.params
  dataSource : first.dataSource = second.dataSource
  language : first.language = second.language
  debugFormat : first.debugFormat = second.debugFormat
  cacheKeyQualifier : first.cacheKeyQualifier = second.cacheKeyQualifier

/-- Equal keys are keys of the same request. -/
def Separated (first second : KeyedQuery) : Prop :=
  ∀ key, first.getCacheKey base64 sha1 = .ok key → second.getCacheKey base64 sha1 = .ok key →
    first.SameRequest second

/-! ### The markers -/

/-- The data source of a stored query. -/
def sourceMarker (self : KeyedQuery) : List Value :=
  if self.queryClass = .storedQuery then [.string self.dataSource] else []

/-- The mark of the debug format. -/
def debugFormatMarker (self : KeyedQuery) : List Value := if self.debugFormat then [.int 1] else []

/-- The qualifier of a stored query, if it has one. -/
def qualifierMarker (self : KeyedQuery) : List Value :=
  if self.queryClass = .storedQuery ∧ self.cacheKeyQualifier ≠ [] then
    [.string self.cacheKeyQualifier]
  else []

/-- The values agree up to fractions of a second. -/
def SameSeconds (first second : List Value) : Prop :=
  first.map Value.dropFraction = second.map Value.dropFraction

instance (first second : List Value) : Decidable (SameSeconds first second) :=
  inferInstanceAs (Decidable (_ = _))

/-- The queries agree in everything their class has room for in a key: the parameters of
every name, up to fractions of a second, followed by the marker of that name. -/
structure Indistinct (first second : KeyedQuery) : Prop where
  id : first.id = second.id
  language : first.language = second.language
  params : ∀ name, name ∉ [ascii "source", ascii "debugFormat", ascii "cacheKeyQualifier"] →
    SameSeconds (first.params.equalRange name) (second.params.equalRange name)
  source : SameSeconds (first.params.equalRange (ascii "source") ++ first.sourceMarker)
    (second.params.equalRange (ascii "source") ++ second.sourceMarker)
  debugFormat : SameSeconds
    (first.params.equalRange (ascii "debugFormat") ++ first.debugFormatMarker)
    (second.params.equalRange (ascii "debugFormat") ++ second.debugFormatMarker)
  cacheKeyQualifier : SameSeconds
    (first.params.equalRange (ascii "cacheKeyQualifier") ++ first.qualifierMarker)
    (second.params.equalRange (ascii "cacheKeyQualifier") ++ second.qualifierMarker)

/-- All markers with their names. -/
def markers (self : KeyedQuery) : List (ByteString × Value) :=
  (self.sourceMarker.map fun value => (ascii "source", value)) ++
    ((ascii "language", .string self.language) ::
      ((self.debugFormatMarker.map fun value => (ascii "debugFormat", value)) ++
        self.qualifierMarker.map fun value => (ascii "cacheKeyQualifier", value)))

/-- Both classes make their keys of the parameters and the markers. -/
theorem cacheFeatureId_eq (self : KeyedQuery) :
    self.cacheFeatureId = ⟨self.id, self.params.insertAll self.markers, 0⟩ := by
  unfold cacheFeatureId storedQueryFeatureId adHocQueryFeatureId addDebugFormat markers sourceMarker
    debugFormatMarker qualifierMarker
  cases self.queryClass with
  | adHocQuery => cases self.debugFormat <;> rfl
  | storedQuery =>
      by_cases empty : self.cacheKeyQualifier = []
      · simp only [empty, ne_eq, not_true_eq_false, and_false, if_false]
        cases self.debugFormat <;> rfl
      · simp only [empty, ne_eq, not_false_eq_true, and_self, if_true]
        cases self.debugFormat <;> rfl

/-- The marker of a name. -/
def marker (self : KeyedQuery) (name : ByteString) : List Value :=
  if name = ascii "source" then self.sourceMarker
  else if name = ascii "language" then [.string self.language]
  else if name = ascii "debugFormat" then self.debugFormatMarker
  else if name = ascii "cacheKeyQualifier" then self.qualifierMarker
  else []

/-- The values that stand under a name in a key: parameters first, then the marker. -/
theorem equalRange_markers (self : KeyedQuery) (name : ByteString) :
    (self.params.insertAll self.markers).equalRange name =
      self.params.equalRange name ++ self.marker name := by
  have selected : ∀ (own : ByteString) (values : List Value),
      (Multimap.empty.insertAll (values.map fun value => (own, value))).equalRange name =
        if name = own then values else [] := by
    intro own values
    rw [Multimap.equalRange_insertAll, Multimap.equalRange_empty, List.nil_append]
    by_cases same : name = own
    · subst same
      simp [List.filter_map, Function.comp_def]
    · simp [List.filter_map, Function.comp_def, same, Ne.symm same]
  have split : self.params.insertAll self.markers =
      (((self.params.insertAll (self.sourceMarker.map fun value =>
        (ascii "source", value))).insertAll
        ([Value.string self.language].map fun value => (ascii "language", value))).insertAll
          (self.debugFormatMarker.map fun value => (ascii "debugFormat", value))).insertAll
            (self.qualifierMarker.map fun value => (ascii "cacheKeyQualifier", value)) := by
    simp only [← Multimap.insertAll_append, markers, List.append_assoc]
    rfl
  have appended : ∀ (map : ValueMap) (own : ByteString) (values : List Value),
      (map.insertAll (values.map fun value => (own, value))).equalRange name =
        map.equalRange name ++ if name = own then values else [] := by
    intro map own values
    rw [← selected, Multimap.equalRange_insertAll, Multimap.equalRange_insertAll]
    rfl
  rw [split, appended, appended, appended, appended, marker]
  by_cases source : name = ascii "source"
  · subst source
    simp only [if_true, List.append_assoc]
    rw [if_neg (by decide), if_neg (by decide), if_neg (by decide)]
    simp only [List.append_nil]
  by_cases language : name = ascii "language"
  · subst language
    simp only [if_true, source, if_false, List.append_assoc]
    rw [if_neg (by decide), if_neg (by decide)]
    simp only [List.append_nil, List.nil_append]
  by_cases debugFormat : name = ascii "debugFormat"
  · subst debugFormat
    simp only [if_true, source, language, if_false, List.append_assoc]
    rw [if_neg (by decide)]
    simp only [List.append_nil, List.nil_append]
  · simp only [source, language, debugFormat, if_false, List.append_nil]

/-! ### Equal keys -/

/-- The identifier behind a key as far as it is written. -/
def writtenFeatureId (self : KeyedQuery) : FeatureID :=
  ⟨self.id, (self.params.insertAll self.markers).mapValues Value.dropFraction, 0⟩

/-- The key is the identifier of what has been written. -/
theorem getCacheKey_eq (self : KeyedQuery) :
    self.getCacheKey base64 sha1 = self.writtenFeatureId.getId base64 sha1 := by
  rw [getCacheKey, cacheFeatureId_eq]
  simp only [FeatureID.getId, FeatureID.putFields, writtenFeatureId, putValueMap_dropFraction]

/-- The markers can be written and stored. -/
theorem markers_valid (self : KeyedQuery) :
    ∀ entry ∈ self.markers, entry.2 ≠ .empty ∧ SmartMetWfs.Storable entry.1 ∧ entry.2.Storable := by
  have named : ∀ name ∈ [ascii "source", ascii "language", ascii "debugFormat",
      ascii "cacheKeyQualifier"], SmartMetWfs.Storable name := by
    simp only [SmartMetWfs.Storable]
    decide
  simp only [List.forall_mem_cons] at named
  obtain ⟨source, language, debugFormat, qualifier, -⟩ := named
  intro entry member
  simp only [markers, List.mem_append, List.mem_cons, List.mem_map] at member
  rcases member with ⟨value, inMarker, rfl⟩ | rfl | ⟨value, inMarker, rfl⟩ | ⟨value, inMarker, rfl⟩
  · unfold sourceMarker at inMarker
    split at inMarker
    · cases List.mem_singleton.mp inMarker
      exact ⟨nofun, source, self.dataSource_storable⟩
    · cases inMarker
  · exact ⟨nofun, language, self.language_storable⟩
  · unfold debugFormatMarker at inMarker
    split at inMarker
    · cases List.mem_singleton.mp inMarker
      exact ⟨nofun, debugFormat, trivial⟩
    · cases inMarker
  · unfold qualifierMarker at inMarker
    split at inMarker
    · cases List.mem_singleton.mp inMarker
      exact ⟨nofun, qualifier, self.qualifier_storable⟩
    · cases inMarker

/-- What has been written can be written and stored. -/
theorem writtenFeatureId_valid (self : KeyedQuery) :
    self.writtenFeatureId.params.Writable ∧ self.writtenFeatureId.params.Storable := by
  have valid : ∀ entry ∈ (self.params.insertAll self.markers).entries,
      entry.2 ≠ .empty ∧ SmartMetWfs.Storable entry.1 ∧ entry.2.Storable := by
    intro entry member
    rcases List.mem_append.mp ((Multimap.insertAll_perm _ _).mem_iff.mp member) with marker | param
    · exact self.markers_valid entry marker
    · exact ⟨self.present entry param, self.params_storable entry param⟩
  constructor
  · intro entry member
    obtain ⟨original, inMap, rfl⟩ := List.mem_map.mp member
    exact Value.dropFraction_writable (valid original inMap).1
  · intro entry member
    obtain ⟨original, inMap, rfl⟩ := List.mem_map.mp member
    obtain ⟨_, name, value⟩ := valid original inMap
    exact ⟨name, Value.dropFraction_storable value⟩

/-- Equal keys are made of the same written identifier. -/
theorem sameKey_iff_written (first second : KeyedQuery) :
    (∃ key, first.getCacheKey base64 sha1 = .ok key ∧ second.getCacheKey base64 sha1 = .ok key) ↔
      first.writtenFeatureId = second.writtenFeatureId := by
  rw [getCacheKey_eq, getCacheKey_eq]
  constructor
  · intro ⟨key, made, made'⟩
    obtain ⟨ids, params⟩ := FeatureID.getId_injective base64 sha1 first.writtenFeatureId_valid
      second.writtenFeatureId_valid first.id_storable second.id_storable made made'
    exact congrArg₂ (fun id params => FeatureID.mk id params 0) ids params
  · intro same
    obtain ⟨key, made⟩ := FeatureID.getId_ok base64 sha1 first.writtenFeatureId_valid.1
    exact ⟨key, made, same ▸ made⟩

/-- What is written is equal when it is equal name by name. -/
theorem written_eq_iff (first second : KeyedQuery) :
    first.writtenFeatureId = second.writtenFeatureId ↔ first.id = second.id ∧ ∀ name,
      SameSeconds (first.params.equalRange name ++ first.marker name)
        (second.params.equalRange name ++ second.marker name) := by
  constructor
  · intro same
    refine ⟨congrArg FeatureID.storedQueryId same, fun name => ?_⟩
    have ranges := congrArg (fun featureId => featureId.params.equalRange name) same
    simp only [writtenFeatureId, Multimap.equalRange_mapValues, equalRange_markers] at ranges
    exact ranges
  · intro ⟨ids, ranges⟩
    apply congrArg₂ (fun id params => FeatureID.mk id params 0) ids
    apply Multimap.ext_equalRange
    intro name
    rw [Multimap.equalRange_mapValues, Multimap.equalRange_mapValues, equalRange_markers,
      equalRange_markers]
    exact ranges name

/-- The language is the last value of both. -/
theorem sameSeconds_append_language (first second : List Value) (language language' : ByteString) :
    SameSeconds (first ++ [.string language]) (second ++ [.string language']) ↔
      SameSeconds first second ∧ language = language' := by
  simp only [SameSeconds, List.map_append, List.map_cons, List.map_nil, Value.dropFraction]
  constructor
  · intro same
    obtain ⟨values, last⟩ := List.append_inj' same rfl
    exact ⟨values, Value.string.inj (List.cons.inj last).1⟩
  · rintro ⟨values, last⟩
    rw [values, last]

/-- The same is written for queries that are indistinct. -/
theorem written_eq_iff_indistinct (first second : KeyedQuery) :
    first.writtenFeatureId = second.writtenFeatureId ↔ first.Indistinct second := by
  rw [written_eq_iff]
  constructor
  · intro ⟨id, ranges⟩
    have language := (sameSeconds_append_language _ _ _ _).mp (ranges (ascii "language"))
    refine ⟨id, language.2, fun name other => ?_, ranges (ascii "source"),
      ranges (ascii "debugFormat"), ranges (ascii "cacheKeyQualifier")⟩
    by_cases isLanguage : name = ascii "language"
    · exact isLanguage ▸ language.1
    · simp only [List.mem_cons, List.not_mem_nil, or_false, not_or] at other
      have range := ranges name
      simpa only [marker, if_neg isLanguage, if_neg other.1, if_neg other.2.1, if_neg other.2.2,
        List.append_nil] using range
  · intro same
    refine ⟨same.id, fun name => ?_⟩
    by_cases source : name = ascii "source"
    · exact source ▸ same.source
    by_cases debugFormat : name = ascii "debugFormat"
    · exact debugFormat ▸ same.debugFormat
    by_cases qualifier : name = ascii "cacheKeyQualifier"
    · exact qualifier ▸ same.cacheKeyQualifier
    have params := same.params name (by
      simp only [List.mem_cons, List.not_mem_nil, or_false, not_or]
      exact ⟨source, debugFormat, qualifier⟩)
    by_cases isLanguage : name = ascii "language"
    · subst isLanguage
      exact (sameSeconds_append_language _ _ _ _).mpr ⟨params, same.language⟩
    · simpa only [marker, if_neg source, if_neg isLanguage, if_neg debugFormat, if_neg qualifier,
        List.append_nil] using params

/-- The keys of two queries are told apart as far as their classes have room for what
differs: equal keys are keys of one request exactly when indistinct queries are. -/
theorem separated_iff (first second : KeyedQuery) :
    Separated base64 sha1 first second ↔
      (first.Indistinct second → first.SameRequest second) := by
  rw [← written_eq_iff_indistinct, ← sameKey_iff_written base64 sha1]
  constructor
  · intro separated ⟨key, made, made'⟩
    exact separated key made made'
  · intro same key made made'
    exact same ⟨key, made, made'⟩

/-- An ad hoc query of the data source `dataSource`. -/
def sourceQuery (dataSource : ByteString) (storable : SmartMetWfs.Storable dataSource) :
    KeyedQuery where
  queryClass := .adHocQuery
  id := ascii "opendata_observations"
  params := .empty
  dataSource := dataSource
  language := ascii "eng"
  debugFormat := false
  cacheKeyQualifier := []
  present := List.forall_mem_nil _
  params_storable := List.forall_mem_nil _
  id_storable := by simp only [SmartMetWfs.Storable]; decide +kernel
  dataSource_storable := storable
  language_storable := by simp only [SmartMetWfs.Storable]; decide
  qualifier_storable := by simp only [SmartMetWfs.Storable]; decide

/-- Ad hoc queries of two data sources share their key. -/
theorem adHocSources_notSeparated :
    ¬ Separated .standard Sha1.digest
      (sourceQuery (ascii "querydata") (by simp only [SmartMetWfs.Storable]; decide))
      (sourceQuery (ascii "grid") (by simp only [SmartMetWfs.Storable]; decide)) := by
  intro separated
  have indistinct := (written_eq_iff_indistinct
    (sourceQuery (ascii "querydata") (by simp only [SmartMetWfs.Storable]; decide))
    (sourceQuery (ascii "grid") (by simp only [SmartMetWfs.Storable]; decide))).mpr
      ⟨rfl, rfl, fun _ _ => rfl, rfl, rfl, rfl⟩
  obtain ⟨key, made, made'⟩ := (sameKey_iff_written .standard Sha1.digest _ _).mpr indistinct
  exact absurd (separated key made made').dataSource (by decide)

end KeyedQuery

end SmartMetWfs
