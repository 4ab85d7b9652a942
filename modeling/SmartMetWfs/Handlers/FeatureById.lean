import SmartMetWfs.FeatureID.Reissue
import SmartMetWfs.Handlers.LocationParameters
import SmartMetWfs.Parameters.Redirects
import Mathlib.Logic.Relation
import Mathlib.Tactic.Ring

/-!
# Queries by feature identifier

`GetFeatureById` passes a request on to the stored query that a feature identifier names,
with the parameters that are packed into it. These may name `GetFeatureById` again and hold
another identifier, so that its handler calls itself. An identifier is longer than the one
inside it by a sixth at least, so that the calls end after a number of them that grows with
the logarithm of its length. Between an issued identifier and the query it was issued for
nothing is lost, the cache key included.
-/

namespace SmartMetWfs

open Foundation

/-! ### Parameters with their names -/

namespace Parameters.RequestParameterMap

variable {ν : Type}

/-- The parameters are inserted one after the other. -/
theorem ofMap_eq (params : Multimap ByteString ν) (caseSensitiveParams : Bool) :
    ofMap params caseSensitiveParams =
      ⟨caseSensitiveParams, Multimap.empty.insertAll (params.entries.map fun item =>
        (key caseSensitiveParams item.1, ⟨item.1, item.2⟩))⟩ :=
  foldl_insertValue params.entries (.empty caseSensitiveParams)

/-- The pairs that `get_map` lists, in the order in which it inserts them. -/
theorem getMap_true_eq (map : RequestParameterMap ν) :
    map.getMap true = Multimap.empty.insertAll (map.params.entries.map fun item =>
      (item.2.realName, item.2.value)) :=
  (Multimap.insertAll_map map.params.entries (fun item => item.2.realName)
    (fun item => item.2.value) .empty).symm

/-- The keys are those of the names, and names with one key are spelt alike. -/
structure Spelt (map : RequestParameterMap ν) : Prop where
  keyed : ∀ item ∈ map.params.entries, item.1 = key map.caseSensitiveParams item.2.realName
  alike : ∀ first ∈ map.params.entries, ∀ second ∈ map.params.entries,
    first.1 = second.1 → first.2.realName = second.2.realName

/-- Parameters that are spelt alike are what is made of the list of them. -/
theorem ofMap_getMap {map : RequestParameterMap ν} (spelt : map.Spelt) :
    ofMap (map.getMap true) map.caseSensitiveParams = map := by
  rw [ofMap_eq]
  obtain ⟨caseSensitiveParams, params⟩ := map
  congr 1
  apply Multimap.ext_equalRange
  intro found
  rw [Multimap.equalRange_insertAll, Multimap.equalRange_empty, List.nil_append, List.filter_map,
    List.map_map]
  -- All parameters of the key have one name, and `get_map` keeps the order among them.
  have named : ∃ name, ∀ pair ∈ params.entries.map fun item => (item.2.realName, item.2.value),
      decide (key caseSensitiveParams pair.1 = found) → pair.1 = name := by
    by_cases present : ∃ item ∈ params.entries, item.1 = found
    · obtain ⟨item, member, rfl⟩ := present
      refine ⟨item.2.realName, fun pair inPairs sameKey => ?_⟩
      obtain ⟨other, inParams, rfl⟩ := List.mem_map.mp inPairs
      apply spelt.alike other inParams item member
      rw [spelt.keyed other inParams]
      exact of_decide_eq_true sameKey
    · refine ⟨[], fun pair inPairs sameKey => absurd ?_ present⟩
      obtain ⟨other, inParams, rfl⟩ := List.mem_map.mp inPairs
      refine ⟨other, inParams, ?_⟩
      rw [spelt.keyed other inParams]
      exact of_decide_eq_true sameKey
  obtain ⟨name, ofName⟩ := named
  have kept := Multimap.filter_insertAll ofName
  rw [← getMap_true_eq ⟨caseSensitiveParams, params⟩, List.filter_map] at kept
  refine (congrArg (List.map _) ((List.filter_congr fun pair _ => ?_).trans kept)).trans ?_
  · exact decide_eq_decide.mpr Iff.rfl
  · rw [List.map_map, Multimap.equalRange]
    refine congrArg (List.map _) (List.filter_congr fun item member => ?_)
    apply decide_eq_decide.mpr
    rw [spelt.keyed item member]

end Parameters.RequestParameterMap

namespace Handlers

open Parameters

/-! ### Handlers that are executed -/

/-- The virtual function `query` of a handler: the one of `GetFeatureByIdHandler`, or another,
which is given the query, the language and the host name and writes a text. -/
inductive QueryFunction
  | getFeatureById
  | own (query : QueryMembers → ByteString → Option ByteString → Except ByteString ByteString)

/-- Stored queries with what is done to answer them, by the name they are stored under. -/
structure ExecutableQueries extends StoredQueries where
  queryFunction : ByteString → QueryFunction
  useCaseSensitiveParams : Bool

/-- A query object and the function of its handler. -/
structure ExecutableQuery where
  object : StoredQueryObject
  queryFunction : QueryFunction

/-- Why a feature cannot be given again. -/
inductive ExecuteFailure
  | notSingle (name : ByteString)
  | notCreated (error : FeatureID.CreateError)
  | notFound (failure : CreateFailure)
  | thrown (what : ByteString)
  | notWritten (error : StreamError)

section Execution

variable (base64 : Base64) (sha1 : Digest) (dates : DateTimeLibrary)
  (getString : Value → Option ByteString) (queries : ExecutableQueries)

/-- `create_from_feature_id`. -/
def createFromFeatureId (featureIdStr : ByteString) (origQuery : QueryMembers) :
    Except ExecuteFailure ExecutableQuery := do
  let featureId ← (FeatureID.createFromId base64 sha1 dates featureIdStr).mapError .notCreated
  let queryId := featureId.storedQueryId
  let params := RequestParameterMap.ofMap featureId.params queries.useCaseSensitiveParams
  let handler ← (queries.getHandlerByName queryId).mapError .notFound
  let cacheKeyQualifier ← (handler.getCacheKeyQualifier params).mapError .thrown
  let cacheFeatureId := storedQueryFeatureId queryId params handler.dataSource origQuery.language
    origQuery.debugFormat cacheKeyQualifier
  let cacheKey ← (cacheFeatureId.getId base64 sha1).mapError .notWritten
  return {
    object := ⟨{ id := queryId
                 cacheKey
                 language := origQuery.language
                 params := some params
                 origParams := some params
                 skippedParams := []
                 debugFormat := origQuery.debugFormat
                 staleSeconds := handler.expiresSeconds }, some handler⟩
    queryFunction := queries.queryFunction (asciiTolowerCopy queryId) }

/-- The parameter of `GetFeatureByIdHandler`. -/
def featureIdOf (query : QueryMembers) : Option ByteString :=
  query.params.bind fun params => getSingleString getString params (ascii "feature_id")

/-- The query that `GetFeatureByIdHandler::query` executes. -/
def identifiedQuery (query : QueryMembers) : Except ExecuteFailure ExecutableQuery :=
  match featureIdOf getString query with
  | none => .error (.notSingle (ascii "feature_id"))
  | some id => createFromFeatureId base64 sha1 dates queries id query

variable (language : ByteString) (hostname : Option ByteString)

/-- `StoredQuery::execute`; nothing when handlers call each other more often than there is fuel. -/
def execute : Nat → ExecutableQuery → Option (Except ExecuteFailure ByteString)
  | 0, _ => none
  | fuel + 1, query =>
      match query.queryFunction with
      | .own answer =>
          some ((answer query.object.members language hostname).mapError .thrown)
      | .getFeatureById =>
          match identifiedQuery base64 sha1 dates getString queries query.object.members with
          | .error failure => some (.error failure)
          | .ok identified => execute fuel identified

/-- The handler of a query is the one of `GetFeatureById` and executes another query. -/
def CallsFor (query identified : ExecutableQuery) : Prop :=
  query.queryFunction = .getFeatureById ∧
    identifiedQuery base64 sha1 dates getString queries query.object.members = .ok identified

end Execution

/-! ### Identifiers inside identifiers -/

section Nesting

variable {base64 : Base64} {sha1 : Digest} {dates : DateTimeLibrary}
  {getString : Value → Option ByteString} {queries : ExecutableQueries}

/-- The bytes behind an identifier, of which there is one at least. -/
theorem unpack_length (decodes : base64.ThreeOfFour) {id rawId : ByteString}
    (unpacked : FeatureID.unpack base64 sha1 id = .ok rawId) :
    4 * (rawId.length + 20) + 12 ≤ 3 * id.length ∧ 1 ≤ rawId.length := by
  unfold FeatureID.unpack at unpacked
  by_cases begins : id.take FeatureID.idPrefix.length ≠ FeatureID.idPrefix
  · rw [if_pos begins] at unpacked
    cases unpacked
  · rw [if_neg begins] at unpacked
    cases decoded : base64.decode ((id.drop 4).map FeatureID.fromIdChar) with
    | none =>
        simp only [decoded] at unpacked
        cases unpacked
    | some whole =>
        have short := decodes _ _ decoded
        rw [List.length_map, List.length_drop] at short
        simp only [decoded] at unpacked
        by_cases enough : whole.length < FeatureID.shaDigestLength + 1
        · rw [if_pos enough] at unpacked
          cases unpacked
        · rw [if_neg enough] at unpacked
          split at unpacked
          · cases unpacked
          · cases unpacked
            rw [List.length_drop]
            unfold FeatureID.shaDigestLength at enough ⊢
            constructor <;> omega

/-- The fields that are read are no longer than the identifier. -/
theorem getFields_fits (bound : Nat) (id : ByteString) :
    ReturnsUnder (AtMost IBStream.remaining bound)
      (fun result : FeatureID => ∀ entry ∈ result.params.entries, entry.2.Fits bound)
      (FeatureID.getFields dates id) := by
  have strings := IBStream.getString_shrinks.returnsUnder bound
  have numbers := IBStream.getUnsigned_shrinks.returnsUnder bound
  have query : ReturnsUnder (AtMost IBStream.remaining bound)
      (fun result : FeatureID => ∀ entry ∈ result.params.entries, entry.2.Fits bound)
      (FeatureID.getQuery dates) :=
    strings.bind fun storedQueryId _ => numbers.bind fun _ _ =>
      (getValueMap_fits dates bound).bind fun params fits => .pure fits
  refine (strings.mapError _).bind fun typeName _ => ?_
  split
  · exact .throw _
  · refine (numbers.mapError _).bind fun revision _ => ?_
    split
    · exact .throw _
    · exact query.mapError _

/-- A string among the parameters of an identifier is shorter than the identifier. -/
theorem createFromId_fits (decodes : base64.ThreeOfFour) {id : ByteString}
    {result : FeatureID} (created : FeatureID.createFromId base64 sha1 dates id = .ok result) :
    32 ≤ id.length ∧ ∀ entry ∈ result.params.entries, ∀ text, entry.2 = .string text →
      7 * text.length + 184 ≤ 6 * id.length := by
  unfold FeatureID.createFromId at created
  obtain ⟨rawId, unpacked, decoded⟩ := ok_of_bind created
  obtain ⟨step, read, same⟩ := ok_of_bind decoded
  cases same
  obtain ⟨short, nonempty⟩ := unpack_length decodes unpacked
  refine ⟨by omega, fun entry member text isString => ?_⟩
  have begins : AtMost IBStream.remaining (8 * rawId.length) (IBStream.new rawId) := by
    unfold AtMost IBStream.remaining
    rw [length_bitsBetween]
    exact Nat.sub_le _ _
  have fits := (getFields_fits (8 * rawId.length) id _ _ _ begins read).1 entry member
  rw [isString] at fits
  unfold Value.Fits at fits
  omega

/-- What an identified query is made of. -/
structure IsIdentified (id : ByteString) (origQuery : QueryMembers) (identified : ExecutableQuery)
    (featureId : FeatureID) : Prop where
  accepted : FeatureID.createFromId base64 sha1 dates id = .ok featureId
  params : identified.object.members.params =
    some (.ofMap featureId.params queries.useCaseSensitiveParams)
  language : identified.object.members.language = origQuery.language
  debugFormat : identified.object.members.debugFormat = origQuery.debugFormat

/-- A query that is created is the one that the identifier names. -/
theorem isIdentified_of_created {id : ByteString} {origQuery : QueryMembers}
    {identified : ExecutableQuery}
    (created : createFromFeatureId base64 sha1 dates queries id origQuery = .ok identified) :
    ∃ featureId, @IsIdentified base64 sha1 dates queries id origQuery identified featureId := by
  obtain ⟨featureId, accepted, created⟩ := ok_of_bind created
  obtain ⟨handler, _, created⟩ := ok_of_bind created
  obtain ⟨cacheKeyQualifier, _, created⟩ := ok_of_bind created
  obtain ⟨cacheKey, _, created⟩ := ok_of_bind created
  cases created
  exact ⟨featureId, ok_of_mapError accepted, rfl, rfl, rfl⟩

/-- A query that is identified is the one that its identifier names. -/
theorem isIdentified_of_query {query : QueryMembers} {identified : ExecutableQuery}
    (identifies : identifiedQuery base64 sha1 dates getString queries query = .ok identified) :
    ∃ id featureId, featureIdOf getString query = some id ∧
      @IsIdentified base64 sha1 dates queries id query identified featureId := by
  unfold identifiedQuery at identifies
  split at identifies
  · cases identifies
  · next id single =>
      obtain ⟨featureId, isIdentified⟩ := isIdentified_of_created identifies
      exact ⟨id, featureId, single, isIdentified⟩

/-- The values of a parameter map are those that were put in. -/
theorem value_mem_of_ofMap {params : ValueMap} {caseSensitiveParams : Bool} {key : ByteString}
    {info : ParamInfo Value}
    (inRange : info ∈ (RequestParameterMap.ofMap params caseSensitiveParams).params.equalRange
      key) :
    (info.realName, info.value) ∈ params.entries := by
  rw [RequestParameterMap.ofMap_eq, Multimap.equalRange_insertAll, Multimap.equalRange_empty,
    List.nil_append] at inRange
  obtain ⟨pair, selected, rfl⟩ := List.mem_map.mp inRange
  obtain ⟨item, member, rfl⟩ := List.mem_map.mp (List.mem_filter.mp selected).1
  exact member

/-- The length of the identifier that a query holds. -/
def idLength (getString : Value → Option ByteString) (query : ExecutableQuery) : Nat :=
  ((featureIdOf getString query.object.members).map List.length).getD 0

/-- An identifier is longer than the one inside it by a sixth, and has 32 characters at least. -/
theorem idLength_shrinks (decodes : base64.ThreeOfFour)
    (onlyStrings : ∀ value text, getString value = some text → value = .string text)
    {query identified : ExecutableQuery}
    (identifies : identifiedQuery base64 sha1 dates getString queries query.object.members =
      .ok identified) :
    32 ≤ idLength getString query ∧ 7 * idLength getString identified ≤
      6 * idLength getString query := by
  obtain ⟨id, featureId, single, isIdentified⟩ := isIdentified_of_query identifies
  obtain ⟨long, fits⟩ := createFromId_fits decodes isIdentified.accepted
  have outer : idLength getString query = id.length := by
    unfold idLength
    rw [single]
    rfl
  refine ⟨outer ▸ long, ?_⟩
  rw [outer]
  cases inner : featureIdOf getString identified.object.members with
  | none =>
      unfold idLength
      rw [inner]
      exact Nat.zero_le _
  | some text =>
      have inside : idLength getString identified = text.length := by
        unfold idLength
        rw [inner]
        rfl
      rw [inside]
      unfold featureIdOf at inner
      rw [isIdentified.params, Option.bind_some] at inner
      unfold getSingleString at inner
      split at inner
      · next info only =>
          have member := @value_mem_of_ofMap featureId.params queries.useCaseSensitiveParams _ info
            (only ▸ List.mem_singleton_self info)
          have := fits _ member text (onlyStrings _ _ inner)
          omega
      · cases inner

/-- So many calls are more than an identifier of this length has room for. -/
def Exceeds (calls length : Nat) : Prop := 6 ^ calls * length < 32 * 7 ^ calls

/-- A length exceeds itself. -/
theorem exceeds_self (length : Nat) : Exceeds length length := by
  have grows : ∀ count : Nat, 6 ^ count * count ≤ 6 * 7 ^ count := by
    intro count
    induction count with
    | zero => exact Nat.zero_le _
    | succ count ih =>
        have smaller : 6 ^ count ≤ 7 ^ count := Nat.pow_le_pow_left (by decide) count
        calc 6 ^ (count + 1) * (count + 1) = 6 * (6 ^ count * count) + 6 * 6 ^ count := by ring
          _ ≤ 6 * (6 * 7 ^ count) + 6 * 7 ^ count := by omega
          _ = 6 * 7 ^ (count + 1) := by ring
  have positive : 0 < 7 ^ length := Nat.pow_pos (by decide)
  have := grows length
  unfold Exceeds
  omega

/-- One call less is enough for the identifier inside. -/
theorem Exceeds.inside {calls outer inner : Nat} (exceeds : Exceeds (calls + 1) outer)
    (shorter : 7 * inner ≤ 6 * outer) : Exceeds calls inner := by
  have scaled : 7 * (6 ^ calls * inner) < 7 * (32 * 7 ^ calls) :=
    calc 7 * (6 ^ calls * inner) = 6 ^ calls * (7 * inner) := by ring
      _ ≤ 6 ^ calls * (6 * outer) := Nat.mul_le_mul_left _ shorter
      _ = 6 ^ (calls + 1) * outer := by ring
      _ < 32 * 7 ^ (calls + 1) := exceeds
      _ = 7 * (32 * 7 ^ calls) := by ring
  exact Nat.lt_of_mul_lt_mul_left scaled

variable (base64 sha1 dates getString queries) in
/-- The query is answered by its own handler, or refused by the one of `GetFeatureById`. -/
def EndsWithOutcome (language : ByteString) (hostname : Option ByteString) (query : ExecutableQuery)
    (outcome : Except ExecuteFailure ByteString) : Prop :=
  (∃ answer, query.queryFunction = .own answer ∧
    outcome = (answer query.object.members language hostname).mapError .thrown) ∨
  (query.queryFunction = .getFeatureById ∧ ∃ failure, outcome = .error failure ∧
    identifiedQuery base64 sha1 dates getString queries query.object.members = .error failure)

/-- A query ends at once or its handler executes another one. -/
theorem execute_cases (language : ByteString) (hostname : Option ByteString)
    (query : ExecutableQuery) :
    (∃ outcome, EndsWithOutcome base64 sha1 dates getString queries language hostname query
      outcome ∧
      ∀ fuel, execute base64 sha1 dates getString queries language hostname (fuel + 1) query =
        some outcome) ∨
    ∃ identified, CallsFor base64 sha1 dates getString queries query identified ∧
      ∀ fuel, execute base64 sha1 dates getString queries language hostname (fuel + 1) query =
        execute base64 sha1 dates getString queries language hostname fuel identified := by
  cases function : query.queryFunction with
  | own answer =>
      refine .inl ⟨_, .inl ⟨answer, function, rfl⟩, fun fuel => ?_⟩
      simp only [execute, function]
  | getFeatureById =>
      cases identifies :
        identifiedQuery base64 sha1 dates getString queries query.object.members with
      | error failure =>
          refine .inl ⟨.error failure, .inr ⟨function, failure, rfl, identifies⟩, fun fuel => ?_⟩
          simp only [execute, function, identifies]
      | ok identified =>
          refine .inr ⟨identified, ⟨function, identifies⟩, fun fuel => ?_⟩
          simp only [execute, function, identifies]

/-- With more fuel than calls the last query that is called for gives the outcome. -/
theorem execute_ends (decodes : base64.ThreeOfFour)
    (onlyStrings : ∀ value text, getString value = some text → value = .string text)
    (language : ByteString) (hostname : Option ByteString) {calls : Nat} {query : ExecutableQuery}
    (exceeds : Exceeds calls (idLength getString query)) :
    ∃ outcome last,
      Relation.ReflTransGen (CallsFor base64 sha1 dates getString queries) query last ∧
      EndsWithOutcome base64 sha1 dates getString queries language hostname last outcome ∧
      ∀ fuel, calls < fuel →
        execute base64 sha1 dates getString queries language hostname fuel query =
          some outcome := by
  induction calls generalizing query with
  | zero =>
      rcases execute_cases language hostname query with ⟨outcome, ends, ran⟩ | ⟨identified,
        called, _⟩
      · refine ⟨outcome, query, .refl, ends, fun fuel enough => ?_⟩
        obtain ⟨more, rfl⟩ := Nat.exists_eq_succ_of_ne_zero (Nat.ne_of_gt enough)
        exact ran more
      · have := (idLength_shrinks decodes onlyStrings called.2).1
        unfold Exceeds at exceeds
        omega
  | succ calls ih =>
      rcases execute_cases language hostname query with ⟨outcome, ends, ran⟩ | ⟨identified,
        called, ran⟩
      · refine ⟨outcome, query, .refl, ends, fun fuel enough => ?_⟩
        obtain ⟨more, rfl⟩ :=
          Nat.exists_eq_succ_of_ne_zero (Nat.ne_of_gt (Nat.zero_lt_of_lt enough))
        exact ran more
      · have shorter := (idLength_shrinks decodes onlyStrings called.2).2
        obtain ⟨outcome, last, follows, ends, rest⟩ := ih (exceeds.inside shorter)
        refine ⟨outcome, last, .head called follows, ends, fun fuel enough => ?_⟩
        obtain ⟨more, rfl⟩ :=
          Nat.exists_eq_succ_of_ne_zero (Nat.ne_of_gt (Nat.zero_lt_of_lt enough))
        exact (ran more).trans (rest more (Nat.lt_of_succ_lt_succ enough))

/-- The query that is called answers in the form of the request. -/
theorem CallsFor.same_form {query identified : ExecutableQuery}
    (called : CallsFor base64 sha1 dates getString queries query identified) :
    identified.object.members.language = query.object.members.language ∧
      identified.object.members.debugFormat = query.object.members.debugFormat := by
  obtain ⟨_, _, _, isIdentified⟩ := isIdentified_of_query called.2
  exact ⟨isIdentified.language, isIdentified.debugFormat⟩

/-- However identifiers are packed into each other, the handlers stop calling each other after
so many calls as the length of the first one has room for, a number that is there for every
length. The outcome is that of the last query called for, which is in the language and the
format of the first. -/
theorem feature_by_id_ends (decodes : base64.ThreeOfFour)
    (onlyStrings : ∀ value text, getString value = some text → value = .string text)
    (language : ByteString) (hostname : Option ByteString) (query : ExecutableQuery) :
    (∃ calls, Exceeds calls (idLength getString query)) ∧
    ∃ outcome last,
      Relation.ReflTransGen (CallsFor base64 sha1 dates getString queries) query last ∧
      last.object.members.language = query.object.members.language ∧
      last.object.members.debugFormat = query.object.members.debugFormat ∧
      EndsWithOutcome base64 sha1 dates getString queries language hostname last outcome ∧
      ∀ calls, Exceeds calls (idLength getString query) → ∀ fuel, calls < fuel →
        execute base64 sha1 dates getString queries language hostname fuel query =
          some outcome := by
  have room := exceeds_self (idLength getString query)
  refine ⟨⟨_, room⟩, ?_⟩
  obtain ⟨outcome, last, follows, ends, ran⟩ :=
    @execute_ends base64 sha1 dates getString queries decodes onlyStrings language hostname _ _ room
  have sameForm : last.object.members.language = query.object.members.language ∧
      last.object.members.debugFormat = query.object.members.debugFormat := by
    clear ends ran
    induction follows with
    | refl => exact ⟨rfl, rfl⟩
    | tail _ called ih => exact ⟨called.same_form.1.trans ih.1, called.same_form.2.trans ih.2⟩
  refine ⟨outcome, last, follows, sameForm.1, sameForm.2, ends, fun calls exceeds fuel enough => ?_⟩
  obtain ⟨outcome', _, _, _, ran'⟩ :=
    @execute_ends base64 sha1 dates getString queries decodes onlyStrings language hostname _
      _ exceeds
  rw [ran' fuel enough]
  -- Both outcomes are found with as much fuel as either takes.
  have enough' : calls < max fuel (idLength getString query + 1) :=
    Nat.lt_of_lt_of_le enough (Nat.le_max_left _ _)
  exact (ran' _ enough').symm.trans (ran _ (Nat.le_max_right _ _))

end Nesting

/-! ### Identifiers of queries that were made -/

section Issued

variable {base64 : Base64} {sha1 : Digest} {dates : DateTimeLibrary} {queries : ExecutableQueries}
  {language outputFormat : ByteString} {request : QueryRequest}

/-- The parameters of a query are packed into an identifier and unpacked without loss. -/
structure Packable (queries : ExecutableQueries) (queryId : ByteString)
    (params : RequestParameterMap Value) : Prop where
  caseSensitive : params.caseSensitiveParams = queries.useCaseSensitiveParams
  spelt : params.Spelt
  writable : ValueMap.Writable (params.getMap true)
  short : ValueMap.ShortStrings (params.getMap true)
  shortId : queryId.length < 2 ^ 32

/-- An identifier that was issued for packable parameters gives them back. -/
theorem Packable.accepted {queryId : ByteString} {params : RequestParameterMap Value}
    (packable : Packable queries queryId params) {seqId : UInt32} {id : ByteString}
    (issued : FeatureID.getId base64 sha1 ⟨queryId, params.getMap true, seqId⟩ = .ok id) :
    ∃ result, FeatureID.createFromId base64 sha1 dates id = .ok result ∧
      result.storedQueryId = queryId ∧
      RequestParameterMap.ofMap result.params queries.useCaseSensitiveParams = params := by
  obtain ⟨id', got, result, accepted, sameId, sameParams⟩ :=
    @FeatureID.roundTrips_of_short base64 sha1 dates ⟨queryId, params.getMap true, seqId⟩
      packable.writable packable.shortId packable.short
  cases issued.symm.trans got
  refine ⟨result, accepted, sameId, ?_⟩
  rw [sameParams, ← packable.caseSensitive]
  exact RequestParameterMap.ofMap_getMap packable.spelt

/-- An accepted identifier names the query that its handler has a cache key for. -/
theorem createFromFeatureId_ok {id : ByteString} {origQuery : QueryMembers} {result : FeatureID}
    {handler : StoredQueryHandler} {cacheKeyQualifier cacheKey : ByteString}
    {params : RequestParameterMap Value}
    (accepted : FeatureID.createFromId base64 sha1 dates id = .ok result)
    (unpacked : RequestParameterMap.ofMap result.params queries.useCaseSensitiveParams = params)
    (found : queries.getHandlerByName result.storedQueryId = .ok handler)
    (qualified : handler.getCacheKeyQualifier params = .ok cacheKeyQualifier)
    (written : (storedQueryFeatureId result.storedQueryId params handler.dataSource
      origQuery.language origQuery.debugFormat cacheKeyQualifier).getId base64 sha1 =
        .ok cacheKey) :
    createFromFeatureId base64 sha1 dates queries id origQuery =
      .ok { object := ⟨{ id := result.storedQueryId
                         cacheKey
                         language := origQuery.language
                         params := some params
                         origParams := some params
                         skippedParams := []
                         debugFormat := origQuery.debugFormat
                         staleSeconds := handler.expiresSeconds }, some handler⟩
            queryFunction := queries.queryFunction (asciiTolowerCopy result.storedQueryId) } := by
  unfold createFromFeatureId
  rw [accepted]
  change ((queries.getHandlerByName result.storedQueryId).mapError _).bind _ = _
  rw [unpacked, found]
  change ((handler.getCacheKeyQualifier params).mapError _).bind _ = _
  rw [qualified]
  change ((FeatureID.getId base64 sha1 (storedQueryFeatureId result.storedQueryId params
    handler.dataSource origQuery.language origQuery.debugFormat cacheKeyQualifier)).mapError _).bind
      _ = _
  rw [written]
  rfl

end Issued

/-! ### Samples -/

/-- Only strings are read as strings. -/
theorem eq_string_of_stringOf :
    ∀ value text, stringOf value = some text → value = .string text := by
  intro value text found
  cases value with
  | string other =>
      cases found
      rfl
  | empty | bool _ | int _ | uint _ | double _ | ptime _ | point _ | bbox _ => cases found

/-- `GetFeatureById` next to the stored queries of a data set. -/
def featureQueries : ExecutableQueries where
  handlerMap := (sampleQueries stringOf).handlerMap.set (ascii "getfeaturebyid")
    (sampleHandler (textSource (ascii "feature_id")) noRedirect)
  queryFunction name :=
    if name = ascii "getfeaturebyid" then .getFeatureById else .own fun query _ _ => .ok query.id
  useCaseSensitiveParams := false

/-- The identifier of the query behind the data set, for its two names. -/
def waveFeatureId : FeatureID := ⟨ascii "wave", waveQuery.params.getMap true, 0⟩

/-- Its parameters can be written. -/
theorem waveFeatureId_writable : waveFeatureId.params.Writable := by decide

/-- Its parameters can be packed. -/
theorem waveQuery_packable :
    Packable featureQueries (ascii "wave") waveQuery.params where
  caseSensitive := rfl
  spelt := ⟨by decide, by decide⟩
  writable := waveFeatureId_writable
  short := by decide
  shortId := by decide

/-- There is a cache key for the query. -/
theorem waveCacheKey_written : ∃ cacheKey,
    (storedQueryFeatureId (ascii "wave") waveQuery.params (ascii "querydata") (ascii "eng") true
      []).getId .standard Sha1.digest = .ok cacheKey :=
  FeatureID.getId_ok .standard Sha1.digest (by decide)

/-- A query of `GetFeatureById` for an identifier. -/
def featureQuery (id : ByteString) : ExecutableQuery where
  object := ⟨{ QueryMembers.new with
    language := ascii "eng"
    params := some ((RequestParameterMap.empty false).insertValue (ascii "feature_id")
      (.string id))
    debugFormat := true }, none⟩
  queryFunction := .getFeatureById

/-- A query for an issued identifier calls for the query that it names. -/
theorem featureQuery_ends :
    ∃ id identified,
      CallsFor .standard Sha1.digest .strict stringOf featureQueries (featureQuery id)
        identified ∧
      (∃ calls, Exceeds calls (idLength stringOf (featureQuery id))) ∧
      ∃ outcome last,
        Relation.ReflTransGen (CallsFor .standard Sha1.digest .strict stringOf featureQueries)
          (featureQuery id) last ∧
        last.object.members.language = (featureQuery id).object.members.language ∧
        last.object.members.debugFormat = (featureQuery id).object.members.debugFormat ∧
        EndsWithOutcome .standard Sha1.digest .strict stringOf featureQueries (ascii "eng") none
          last outcome ∧
        ∀ calls, Exceeds calls (idLength stringOf (featureQuery id)) → ∀ fuel, calls < fuel →
          execute .standard Sha1.digest .strict stringOf featureQueries (ascii "eng") none fuel
            (featureQuery id) = some outcome := by
  obtain ⟨cacheKey, written⟩ := waveCacheKey_written
  obtain ⟨id, issued⟩ := FeatureID.getId_ok .standard Sha1.digest waveFeatureId_writable
  obtain ⟨result, accepted, sameId, unpacked⟩ := waveQuery_packable.accepted issued
  have identified := @createFromFeatureId_ok .standard Sha1.digest .strict featureQueries id
    (featureQuery id).object.members result waveHandler [] cacheKey waveQuery.params accepted
    unpacked (sameId ▸ rfl) rfl (sameId ▸ written)
  exact ⟨id, _, ⟨rfl, identified⟩,
    feature_by_id_ends Base64.standard_threeOfFour eq_string_of_stringOf (ascii "eng") none
      (featureQuery id)⟩

end Handlers

end SmartMetWfs
