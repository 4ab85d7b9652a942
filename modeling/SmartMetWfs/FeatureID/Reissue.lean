import SmartMetWfs.BStream.Reading
import SmartMetWfs.FeatureID.CacheKey

/-!
# Identifiers that are issued again

What `create_from_id` makes of an identifier is a query whose own identifier can be issued
again, whoever has put the bytes of the first one together. The identifiers that are issued
for it differ in their sequence numbers only, and the one without a sequence number stands
for all identifiers that name the same query with the same parameters.
-/

namespace SmartMetWfs.FeatureID

open Foundation OBStream IBStream

variable {base64 : Base64} {sha1 : Digest} {dates : DateTimeLibrary}

/-! ### What is accepted -/

/-- The fields that are read can be written again. -/
theorem getFields_writable (whole : dates.WholeSeconds) (id : ByteString) :
    Returns (fun result : FeatureID => result.params.Writable ∧ result.seqId = 0)
      (getFields dates id) := by
  have query : Returns (fun result : FeatureID => result.params.Writable ∧ result.seqId = 0)
      (getQuery dates) :=
    .seq fun storedQueryId => .seq fun _ =>
      (getValueMap_writable whole).bind fun params writable => .pure ⟨writable, rfl⟩
  refine .seq fun typeName => ?_
  split
  · exact .throw _
  · refine .seq fun revision => ?_
    split
    · exact .throw _
    · exact query.mapError _

/-- Whatever the bytes of the identifier, the parameters can be written. -/
theorem createFromId_writable (whole : dates.WholeSeconds) {id : ByteString} {result : FeatureID}
    (created : createFromId base64 sha1 dates id = .ok result) :
    result.params.Writable ∧ result.seqId = 0 := by
  unfold createFromId at created
  obtain ⟨rawId, _, decoded⟩ := ok_of_bind created
  obtain ⟨step, read, same⟩ := ok_of_bind decoded
  cases same
  exact getFields_writable whole id _ _ _ read

/-- A short text can be stored. -/
theorem storable_of_short {text : ByteString} (short : text.length < 2 ^ 32) : Storable text :=
  Nat.lt_trans short (by decide)

/-- A map with short strings can be stored. -/
theorem map_storable_of_short {map : ValueMap} (short : map.ShortStrings) : map.Storable := by
  intro entry member
  obtain ⟨shortName, shortValue⟩ := short entry member
  refine ⟨storable_of_short shortName, ?_⟩
  cases value : entry.2 with
  | string text =>
      rw [value] at shortValue
      exact storable_of_short shortValue
  | point p =>
      rw [value] at shortValue
      exact storable_of_short shortValue
  | bbox b =>
      rw [value] at shortValue
      exact storable_of_short shortValue
  | empty | bool _ | int _ | uint _ | double _ | ptime _ => trivial

/-! ### Issuing again -/

/-- An identifier with any sequence number is accepted as the query it is issued for. -/
theorem createFromId_issued (whole : dates.WholeSeconds) {id : ByteString} {result : FeatureID}
    (created : createFromId base64 sha1 dates id = .ok result) (seqId : UInt32) :
    ∃ issued, { result with seqId }.getId base64 sha1 = .ok issued ∧
      createFromId base64 sha1 dates issued = .ok result := by
  obtain ⟨writable, noSequence⟩ := createFromId_writable whole created
  obtain ⟨shortId, short⟩ := createFromId_short base64 sha1 created
  obtain ⟨issued, got, again, accepted, sameId, sameParams⟩ :=
    @roundTrips_of_short base64 sha1 dates { result with seqId } writable shortId short
  have sameSequence : again.seqId = result.seqId := by
    rw [noSequence, (createFromId_writable whole accepted).2]
  refine ⟨issued, got, ?_⟩
  rw [accepted]
  cases again
  cases result
  cases sameId
  cases sameParams
  cases sameSequence
  rfl

/-- An accepted identifier can be issued again, under any sequence number, and is accepted
again as the same query. Two accepted identifiers are issued again as the same identifier
exactly when they name the same query with the same parameters. -/
theorem accepted_issued_again (whole : dates.WholeSeconds) {id : ByteString} {result : FeatureID}
    (created : createFromId base64 sha1 dates id = .ok result) :
    (∀ seqId, ∃ issued, { result with seqId }.getId base64 sha1 = .ok issued ∧
      createFromId base64 sha1 dates issued = .ok result) ∧
    ∀ other result', createFromId base64 sha1 dates other = .ok result' →
      (result.getId base64 sha1 = result'.getId base64 sha1 ↔
        result.storedQueryId = result'.storedQueryId ∧ result.params = result'.params) := by
  refine ⟨createFromId_issued whole created, ?_⟩
  intro other result' created'
  obtain ⟨writable, noSequence⟩ := createFromId_writable whole created
  obtain ⟨writable', noSequence'⟩ := createFromId_writable whole created'
  obtain ⟨shortId, short⟩ := createFromId_short base64 sha1 created
  obtain ⟨shortId', short'⟩ := createFromId_short base64 sha1 created'
  constructor
  · intro same
    obtain ⟨issued, got⟩ := getId_ok base64 sha1 writable
    exact getId_injective base64 sha1 ⟨writable, map_storable_of_short short⟩
      ⟨writable', map_storable_of_short short'⟩ (storable_of_short shortId)
      (storable_of_short shortId') got (same ▸ got)
  · intro ⟨sameId, sameParams⟩
    obtain ⟨storedQueryId, params, seqId⟩ := result
    obtain ⟨storedQueryId', params', seqId'⟩ := result'
    cases sameId
    cases sameParams
    cases noSequence
    cases noSequence'
    rfl

/-- An identifier with a sequence number, and the one it is issued again as. -/
theorem sampleId_issued_again :
    ∃ id result, createFromId .standard Sha1.digest .strict id = .ok result ∧
      ((∀ seqId, ∃ issued, { result with seqId }.getId .standard Sha1.digest = .ok issued ∧
        createFromId .standard Sha1.digest .strict issued = .ok result) ∧
      ∀ other result', createFromId .standard Sha1.digest .strict other = .ok result' →
        (result.getId .standard Sha1.digest = result'.getId .standard Sha1.digest ↔
          result.storedQueryId = result'.storedQueryId ∧ result.params = result'.params)) := by
  have roundTrips :
      (FeatureID.mk (ascii "q") sampleMap 3).RoundTrips .standard Sha1.digest .strict :=
    roundTrips_of_short .standard Sha1.digest .strict sampleMap_writable (by decide) (by decide)
  obtain ⟨id, _, result, created, _, _⟩ := roundTrips
  exact ⟨id, result, created, accepted_issued_again DateTimeLibrary.strict_wholeSeconds created⟩

end SmartMetWfs.FeatureID
