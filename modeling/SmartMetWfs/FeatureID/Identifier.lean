import SmartMetWfs.BStream.RoundTrip
import SmartMetWfs.Foundation.Encodings
import SmartMetWfs.Foundation.Outcomes

/-!
# Feature identifiers

A feature identifier packs a stored query identifier, a sequence number and the
query parameters into a bit stream, puts a digest in front of the bytes and writes
the whole in Base64 with three characters exchanged. `create_from_id` takes the
layers off again and checks each of them on the way.
-/

namespace SmartMetWfs

open Foundation OBStream IBStream

/-- `FeatureID`. -/
structure FeatureID where
  storedQueryId : ByteString
  params : ValueMap
  seqId : UInt32

namespace FeatureID

/-- What the digest is salted with. -/
def magic : ByteString := ascii "SDGHWGFWLBFVLDSBVDSvdlvdNnc"

/-- The revision of the format. -/
def featureIdRevision : UInt32 := 1

/-- `FeatureID::prefix`. -/
def idPrefix : ByteString := ascii "WFS-"

/-- The length of the digest in bytes. -/
def shaDigestLength : Nat := 20

/-- The checks of `create_from_id` that name the identifier in their message. -/
inductive Defect where
  | mustBeginWithPrefix
  | notEnoughData
  | hashError
  | incorrectType
  | revisionMismatch
  deriving DecidableEq

/-- What `create_from_id` throws. -/
inductive CreateError where
  | invalid (id : ByteString) (defect : Defect)
  | failedToParse (id : ByteString)
  | base64
  | stream (error : StreamError)

/-- The message of an error; what the helper libraries throw is passed on as a failed
operation. -/
def CreateError.what : CreateError → ByteString
  | .invalid id defect =>
      let reason := match defect with
        | .mustBeginWithPrefix =>
            (ascii "invalid feature id '", ascii "': must begin WITH '" ++ idPrefix ++ ascii "'")
        | .notEnoughData => (ascii "invalid feature id '", ascii "': not enough data")
        | .hashError => (ascii "invalid feature id '", ascii "': hash error")
        | .incorrectType => (ascii "invalid feature ID '", ascii "': incorrect type")
        | .revisionMismatch => (ascii "invalid feature ID '", ascii "': revision mismatch")
      ascii "SmartMet::Plugin::WFS::FeatureID::create_feature_id(): " ++ reason.1 ++ id ++ reason.2
  | .failedToParse _ => ascii "Failed to parse feature ID!"
  | .base64 | .stream _ => ascii "Operation failed!"

/-- The substitution of `get_id`. -/
def toIdChar (c : UInt8) : UInt8 :=
  if c = 43 then 46 else if c = 47 then 95 else if c = 61 then 45 else c

/-- The substitution of `create_from_id`. -/
def fromIdChar (c : UInt8) : UInt8 :=
  if c = 46 then 43 else if c = 95 then 47 else if c = 45 then 61 else c

/-- Substituting there and back changes no Base64 character: the three characters
used instead are outside the alphabet. -/
theorem fromIdChar_toIdChar {c : UInt8} (base64 : IsBase64Char c) :
    fromIdChar (toIdChar c) = c := by
  revert c
  decide +kernel

variable (base64 : Base64) (sha1 : Digest)

/-- What `get_id` writes to its stream. -/
def putFields (self : FeatureID) : Put Unit := do
  putString (ascii "SQ")
  putUnsigned featureIdRevision.toUInt64
  putString self.storedQueryId
  putUnsigned self.seqId.toUInt64
  putValueMap self.params

/-- The digest over the magic text and the written bytes. -/
def digestOf (rawData : ByteString) : ByteString := (sha1 (magic ++ rawData)).toList

/-- Digest, Base64, substitution and prefix around the written bytes. -/
def pack (rawData : ByteString) : ByteString :=
  idPrefix ++ (base64.encode (digestOf sha1 rawData ++ rawData)).map toIdChar

/-- `get_id`. -/
def getId (self : FeatureID) : Except StreamError ByteString := do
  let (_, stream) ← self.putFields OBStream.new
  pure (pack base64 sha1 stream.rawData)

/-- The first part of `create_from_id`: the written bytes behind an identifier. -/
def unpack (id : ByteString) : Except CreateError ByteString := do
  if id.take idPrefix.length ≠ idPrefix then
    throw (.invalid id .mustBeginWithPrefix)
  match base64.decode ((id.drop 4).map fromIdChar) with
  | none => throw .base64
  | some rawId =>
      if rawId.length < shaDigestLength + 1 then
        throw (.invalid id .notEnoughData)
      let sha := rawId.take shaDigestLength
      let rawId := rawId.drop shaDigestLength
      if digestOf sha1 rawId ≠ sha then
        throw (.invalid id .hashError)
      pure rawId

/-- The fields that a failure to read reports as a parse failure. -/
def getQuery (dates : DateTimeLibrary) : Get FeatureID := do
  let storedQueryId ← getString
  let _ ← getUnsigned
  let params ← getValueMap dates
  pure ⟨storedQueryId, params, 0⟩

/-- The second part of `create_from_id`: the fields of the stream. -/
def getFields (dates : DateTimeLibrary) (id : ByteString) :
    StateT IBStream (Except CreateError) FeatureID := do
  let typeName ← mapError .stream getString
  if typeName ≠ ascii "SQ" then
    throw (.invalid id .incorrectType)
  let revision ← mapError .stream getUnsigned
  if revision.toUInt32 ≠ featureIdRevision then
    throw (.invalid id .revisionMismatch)
  mapError (fun _ => .failedToParse id) (getQuery dates)

/-- `create_from_id`. -/
def createFromId (dates : DateTimeLibrary) (id : ByteString) : Except CreateError FeatureID := do
  let rawId ← unpack base64 sha1 id
  let (result, _) ← getFields dates id (IBStream.new rawId)
  pure result

/-! ### Editing the parameters -/

/-- `add_param`. -/
def addParam (name : ByteString) (value : Value) (self : FeatureID) : FeatureID :=
  { self with params := self.params.insert name value }

/-- `erase_param`. -/
def eraseParam (name : ByteString) (self : FeatureID) : FeatureID :=
  { self with params := self.params.erase name }

/-- The identifier of the same query with other parameters. -/
def withParams (params : ValueMap) (self : FeatureID) : FeatureID := { self with params }

/-- Parameters that are erased one after the other are erased together. -/
theorem foldl_eraseParam (names : List ByteString) (self : FeatureID) :
    names.foldl (fun self name => self.eraseParam name) self =
      self.withParams (self.params.eraseAll names) := by
  induction names generalizing self with
  | nil => rfl
  | cons name names ih => exact ih (self.eraseParam name)

/-- Adding a value for each item of a list. -/
theorem foldl_addParam {α : Type} (name : ByteString) (value : α → Value) (items : List α)
    (self : FeatureID) :
    items.foldl (fun self item => self.addParam name (value item)) self =
      self.withParams (self.params.insertAll (items.map fun item => (name, value item))) := by
  induction items generalizing self with
  | nil => rfl
  | cons item items ih => exact ih (self.addParam name (value item))

/-- A parameter that is erased and added is replaced. -/
theorem replaceParam_withParams (name : ByteString) (value : Value) (params : ValueMap)
    (self : FeatureID) :
    ((self.withParams params).eraseParam name).addParam name value =
      self.withParams (params.replace name value) := rfl

/-! ### The layers -/

/-- Unpacking undoes packing, whatever the digest, for every payload. -/
theorem unpack_pack {rawData : ByteString} (nonempty : 0 < rawData.length) :
    unpack base64 sha1 (pack base64 sha1 rawData) = .ok rawData := by
  have digestLength : (digestOf sha1 rawData).length = shaDigestLength := Vector.length_toList
  have substituted : ((pack base64 sha1 rawData).drop 4).map fromIdChar =
      base64.encode (digestOf sha1 rawData ++ rawData) := by
    change ((base64.encode (digestOf sha1 rawData ++ rawData)).map toIdChar).map fromIdChar = _
    rw [List.map_map]
    refine (List.map_congr_left fun c member => ?_).trans (List.map_id _)
    exact fromIdChar_toIdChar (base64.encode_alphabet _ c member)
  have enough : ¬ (digestOf sha1 rawData ++ rawData).length < shaDigestLength + 1 := by
    rw [List.length_append, digestLength]
    omega
  have digest :
      (digestOf sha1 rawData ++ rawData).take shaDigestLength = digestOf sha1 rawData := by
    rw [← digestLength, List.take_left]
  have payload : (digestOf sha1 rawData ++ rawData).drop shaDigestLength = rawData := by
    rw [← digestLength, List.drop_left]
  have begins : ¬ (pack base64 sha1 rawData).take idPrefix.length ≠ idPrefix :=
    not_not.mpr List.take_left
  unfold unpack
  rw [if_neg begins, substituted, base64.decode_encode]
  simp only [if_neg enough, digest, payload, ne_eq, not_true_eq_false, if_false]
  rfl

/-- The fields in the order in which they are written. -/
def fieldBits (self : FeatureID) : List Bool :=
  stringBits (ascii "SQ") ++ (unsignedBits featureIdRevision.toUInt64.toNat ++
    (stringBits self.storedQueryId ++ (unsignedBits self.seqId.toUInt64.toNat ++
      valueMapBits self.params)))

/-- The fields are written. -/
theorem putFields_emits {self : FeatureID} (writable : self.params.Writable) :
    Emits written self.putFields self.fieldBits :=
  (putString_emits _).seq ((putUnsigned_emits _).seq ((putString_emits _).seq
    ((putUnsigned_emits _).seq (putValueMap_emits writable.ne_empty))))

/-- The fields are read back when every string among them is short; the sequence
number is dropped. -/
theorem getFields_consumes (dates : DateTimeLibrary) (id : ByteString) {self : FeatureID}
    (writable : self.params.Writable) (shortId : self.storedQueryId.length < 2 ^ 32)
    (short : self.params.ShortStrings) :
    Consumes remaining (getFields dates id) self.fieldBits { self with seqId := 0 } := by
  have query : Consumes remaining (getQuery dates) (stringBits self.storedQueryId ++
      (unsignedBits self.seqId.toUInt64.toNat ++ valueMapBits self.params))
        { self with seqId := 0 } :=
    (getString_consumes shortId).bind ((getUnsigned_consumes _).bind
      ((getValueMap_consumes dates writable short).bind_pure fun params =>
        FeatureID.mk self.storedQueryId params 0))
  apply ((getString_consumes (by decide)).mapError _).bind
  apply ((getUnsigned_consumes featureIdRevision.toUInt64).mapError _).bind
  exact query.mapError _

/-- Whatever the identifier, the strings that come out of it are short. -/
theorem getFields_short (dates : DateTimeLibrary) (id : ByteString) :
    Returns (fun result : FeatureID => result.storedQueryId.length < 2 ^ 32 ∧
      result.params.ShortStrings) (getFields dates id) := by
  have query : Returns (fun result : FeatureID => result.storedQueryId.length < 2 ^ 32 ∧
      result.params.ShortStrings) (getQuery dates) :=
    getString_short.bind fun storedQueryId shortId => .seq fun _ =>
      (getValueMap_short dates).bind fun params short => .pure ⟨shortId, short⟩
  refine .seq fun typeName => ?_
  split
  · exact .throw _
  · refine .seq fun revision => ?_
    split
    · exact .throw _
    · exact query.mapError _

/-! ### The round trip -/

/-- What has been written begins with the bits of the fields. -/
theorem putFields_run {self : FeatureID} (writable : self.params.Writable) :
    ∃ stream, self.putFields OBStream.new = .ok ((), stream) ∧
      ∃ padding, (IBStream.new stream.rawData).remaining = self.fieldBits ++ padding := by
  obtain ⟨stream, ran, written_eq⟩ := (putFields_emits writable).run OBStream.new
  rw [new_written, List.nil_append] at written_eq
  obtain ⟨padding, shown⟩ := remaining_rawData stream
  exact ⟨stream, ran, padding, written_eq ▸ shown⟩

/-- The identifier of `self` names its stored query and its parameters. -/
def RoundTrips (dates : DateTimeLibrary) (self : FeatureID) : Prop :=
  ∃ id, self.getId base64 sha1 = .ok id ∧
    ∃ result, createFromId base64 sha1 dates id = .ok result ∧
      result.storedQueryId = self.storedQueryId ∧ result.params = self.params

/-- An identifier with short strings is read back. -/
theorem roundTrips_of_short (dates : DateTimeLibrary) {self : FeatureID}
    (writable : self.params.Writable) (shortId : self.storedQueryId.length < 2 ^ 32)
    (short : self.params.ShortStrings) : self.RoundTrips base64 sha1 dates := by
  obtain ⟨stream, ran, padding, shown⟩ := putFields_run writable
  have got : self.getId base64 sha1 = .ok (pack base64 sha1 stream.rawData) := by
    unfold getId
    rw [ran]
    rfl
  obtain ⟨rest, read, _⟩ := getFields_consumes dates (pack base64 sha1 stream.rawData) writable
    shortId short (IBStream.new stream.rawData) padding shown
  have nonempty : 0 < stream.rawData.length := by
    rw [rawData_length]
    exact Nat.succ_pos _
  refine ⟨_, got, { self with seqId := 0 }, ?_, rfl, rfl⟩
  unfold createFromId
  rw [unpack_pack base64 sha1 nonempty]
  change (getFields dates _ (IBStream.new stream.rawData) >>= fun step => pure step.1) = _
  rw [read]
  rfl

/-- An identifier that is read has short strings. -/
theorem createFromId_short {dates : DateTimeLibrary} {id : ByteString} {result : FeatureID}
    (created : createFromId base64 sha1 dates id = .ok result) :
    result.storedQueryId.length < 2 ^ 32 ∧ result.params.ShortStrings := by
  unfold createFromId at created
  obtain ⟨rawId, _, decoded⟩ := ok_of_bind created
  obtain ⟨step, read, same⟩ := ok_of_bind decoded
  cases same
  exact getFields_short dates id _ _ _ read

/-- The identifier of a stored query with writable parameters gives both back exactly
when no string in it is too long to be read. -/
theorem roundTrips_iff (dates : DateTimeLibrary) {self : FeatureID}
    (writable : self.params.Writable) :
    self.RoundTrips base64 sha1 dates ↔
      self.storedQueryId.length < 2 ^ 32 ∧ self.params.ShortStrings := by
  constructor
  · intro ⟨id, _, result, created, sameId, sameParams⟩
    rw [← sameId, ← sameParams]
    exact createFromId_short base64 sha1 created
  · intro ⟨shortId, short⟩
    exact roundTrips_of_short base64 sha1 dates writable shortId short

/-- The sample is read back when its strings are short. -/
theorem roundTrips_iff_sample :
    (FeatureID.mk (ascii "q") sampleMap 3).RoundTrips .standard Sha1.digest .strict ↔
      (ascii "q").length < 2 ^ 32 ∧ sampleMap.ShortStrings :=
  roundTrips_iff .standard Sha1.digest .strict sampleMap_writable

/-- A stored query identifier one byte longer than can be read. -/
def longQueryId : FeatureID := ⟨List.replicate (2 ^ 32) 0, .empty, 0⟩

/-- An identifier with a long query id is not read back. -/
theorem not_roundTrips_longQueryId :
    longQueryId.params.Writable ∧ ¬ longQueryId.RoundTrips .standard Sha1.digest .strict := by
  refine ⟨ValueMap.writable_empty, ?_⟩
  intro ⟨id, _, result, created, sameId, _⟩
  have bound := (createFromId_short .standard Sha1.digest created).1
  rw [sameId, longQueryId, List.length_replicate] at bound
  exact Nat.lt_irrefl _ bound

end FeatureID

end SmartMetWfs
