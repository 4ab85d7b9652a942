import SmartMetWfs.Parameters.StoredQueryConfig
import SmartMetWfs.Xml.Numerals

/-!
# Integer parameters

An integer parameter is read by `StoredQueryParamDef::readValue` from a KVP request and by
the extractor of its XML type from an XML request. The first goes through `Fmi::stoi`,
which is for `int`, where the second uses `std::stol`; and where the first refuses
negative numbers for an unsigned parameter, the second lets them wrap around.
-/

namespace SmartMetWfs.Parameters

open Xml

/-- The conversions of `readValue`, which are made elsewhere. Those to integers read a
decimal literal whose number is in the range of the type, and refuse one that is not. -/
structure TextConversions where
  stod : ByteString → Option Double
  stoi : ByteString → Option Int32
  stoul : ByteString → Option UInt64
  string2ptime : ByteString → Option DateTime
  string2bool : ByteString → Option Bool
  point : ByteString → Option Point
  boundingBox : ByteString → Option BoundingBox
  stoi_text : ∀ literal : DecimalLiteral, stoi literal.text =
    if -2 ^ 31 ≤ literal.value ∧ literal.value < 2 ^ 31 then some (Int32.ofInt literal.value)
    else none
  stoul_text : ∀ literal : DecimalLiteral, stoul literal.text =
    if 0 ≤ literal.value ∧ literal.value < 2 ^ 64 then some (UInt64.ofNat literal.value.toNat)
    else none

/-- `StoredQueryParamDef::readValue`. -/
def StoredQueryParamDef.readValue (conversions : TextConversions)
    (paramDef : StoredQueryParamDef) (value : ByteString) : Option Value :=
  match paramDef.valueType with
  | .double => (conversions.stod value).map .double
  | .int => (conversions.stoi value).map fun read => .int read.toInt64
  | .uint => (conversions.stoul value).map .uint
  | .time => (conversions.string2ptime value).map .ptime
  | .bool => (conversions.string2bool value).map .bool
  | .string => some (.string value)
  | .point => (conversions.point value).map .point
  | .bbox => (conversions.boundingBox value).map .bbox
  | .undefined => none

/-- The two integer types of parameters. -/
inductive IntegerKind where
  | int
  | uint
  deriving DecidableEq

namespace IntegerKind

/-- The type of value that a parameter of the kind is declared with. -/
def valueType : IntegerKind → ValueType
  | int => .int
  | uint => .uint

/-- The XML type of the same width: `long` and `unsignedLong`. -/
def xmlType : IntegerKind → XmlType
  | int => .integer (-2 ^ 63) (2 ^ 63 - 1)
  | uint => .unsignedInteger 0 (2 ^ 64 - 1)

/-- The documented range: 64 bits, with a sign or without. -/
def InRange : IntegerKind → Int → Prop
  | int, value => -2 ^ 63 ≤ value ∧ value < 2 ^ 63
  | uint, value => 0 ≤ value ∧ value < 2 ^ 64

/-- The numbers that are read alike: those of an `int` or outside of 64 bits; those that
are not negative or whose magnitude is outside of 64 bits. -/
def ReadAlike : IntegerKind → Int → Prop
  | int, value => (-2 ^ 31 ≤ value ∧ value < 2 ^ 31) ∨ ¬ (-2 ^ 63 ≤ value ∧ value < 2 ^ 63)
  | uint, value => 0 ≤ value ∨ value ≤ -2 ^ 64

end IntegerKind

/-- They are those that the extractors are registered for. -/
example : findType (ascii "xsi:long") = some IntegerKind.int.xmlType ∧
    findType (ascii "xsi:unsignedLong") = some IntegerKind.uint.xmlType := ⟨rfl, rfl⟩

/-- Conversions of which those to integers are the ones of the standard library. -/
def standardIntegers (others : ValueConversions) : ValueConversions :=
  { others with stol := SmartMetWfs.stol, stoul := SmartMetWfs.stoul }

section Reading

variable (conversions : TextConversions) (others : ValueConversions) (kind : IntegerKind)
  (paramDef : StoredQueryParamDef)

/-- What is made of a literal in a KVP request and in an XML element. -/
def readKvp (literal : DecimalLiteral) : Option Value :=
  paramDef.readValue conversions literal.text

/-- The value in a document. -/
def readXml (elem : Node) : Option (List Value) :=
  kind.xmlType.extract (standardIntegers others) elem

/-- Both readings fail or yield the same value, and in the documented range none fails. -/
def MeansTheSame (literal : DecimalLiteral) (elem : Node) : Prop :=
  ((readKvp conversions paramDef literal = none ∧ readXml others kind elem = none) ∨
      ∃ value, readKvp conversions paramDef literal = some value ∧
        readXml others kind elem = some [value]) ∧
    (kind.InRange literal.value →
      (readKvp conversions paramDef literal).isSome ∧ (readXml others kind elem).isSome)

variable {conversions others kind paramDef} {literal : DecimalLiteral} {elem : Node}

/-- A signed parameter of a request has 32 bits. -/
theorem readKvp_int (declared : paramDef.valueType = .int) :
    readKvp conversions paramDef literal =
      if -2 ^ 31 ≤ literal.value ∧ literal.value < 2 ^ 31 then
        some (.int (Int64.ofInt literal.value))
      else none := by
  rw [readKvp, StoredQueryParamDef.readValue, declared]
  change (conversions.stoi literal.text).map _ = _
  rw [conversions.stoi_text]
  split
  · next range =>
      have widened : (Int32.ofInt literal.value).toInt64 = Int64.ofInt literal.value := by
        apply Int64.toInt_inj.mp
        rw [Int32.toInt_toInt64, Int32.toInt_ofInt_of_le range.1 range.2,
          Int64.toInt_ofInt_of_le (by omega) (by omega)]
      exact congrArg (fun value => some (Value.int value)) widened
  · rfl

/-- An unsigned parameter of a request has 64 bits. -/
theorem readKvp_uint (declared : paramDef.valueType = .uint) :
    readKvp conversions paramDef literal =
      if 0 ≤ literal.value ∧ literal.value < 2 ^ 64 then
        some (.uint (UInt64.ofNat literal.value.toNat))
      else none := by
  rw [readKvp, StoredQueryParamDef.readValue, declared]
  change (conversions.stoul literal.text).map _ = _
  rw [conversions.stoul_text]
  split <;> rfl

/-- A signed value of a document has 64 bits. -/
theorem readXml_int (content : extractText elem = some literal.text) :
    readXml others .int elem =
      if -2 ^ 63 ≤ literal.value ∧ literal.value < 2 ^ 63 then
        some [.int (Int64.ofInt literal.value)]
      else none := by
  change (do
    let content ← extractText elem
    let intVal ← SmartMetWfs.stol content
    if -2 ^ 63 ≤ intVal.toInt ∧ intVal.toInt ≤ 2 ^ 63 - 1 then pure [Value.int intVal]
      else none) = _
  rw [content]
  change (SmartMetWfs.stol literal.text).bind _ = _
  rw [literal.stol_text]
  split
  · have fits := Int64.toInt_lt (Int64.ofInt literal.value)
    exact if_pos ⟨Int64.le_toInt _, by omega⟩
  · rfl

/-- An unsigned value of a document has 64 bits, and a minus sign wraps it around. -/
theorem readXml_uint (content : extractText elem = some literal.text) :
    readXml others .uint elem =
      if literal.magnitude < 2 ^ 64 then
        some [.uint (UInt64.ofNat (if literal.sign = .minus then 2 ^ 64 - literal.magnitude
          else literal.magnitude))]
      else none := by
  change (do
    let content ← extractText elem
    let uintVal ← SmartMetWfs.stoul content
    if 0 ≤ uintVal.toNat ∧ uintVal.toNat ≤ 2 ^ 64 - 1 then pure [Value.uint uintVal]
      else none) = _
  rw [content]
  change (SmartMetWfs.stoul literal.text).bind _ = _
  rw [literal.stoul_text]
  split
  · exact if_pos ⟨Nat.zero_le _, Nat.le_sub_one_of_lt (UInt64.toNat_lt _)⟩
  · rfl

/-- An integer literal means the same in both kinds of request exactly when its number is
read alike. -/
theorem meansTheSame_iff (declared : paramDef.valueType = kind.valueType)
    (content : extractText elem = some literal.text) :
    MeansTheSame conversions others kind paramDef literal elem ↔ kind.ReadAlike literal.value := by
  cases kind with
  | int =>
      rw [MeansTheSame, readKvp_int declared, readXml_int content, IntegerKind.ReadAlike,
        IntegerKind.InRange]
      by_cases small : -2 ^ 31 ≤ literal.value ∧ literal.value < 2 ^ 31
      · have wide : -2 ^ 63 ≤ literal.value ∧ literal.value < 2 ^ 63 := by omega
        rw [if_pos small, if_pos wide]
        exact iff_of_true ⟨.inr ⟨_, rfl, rfl⟩, fun _ => ⟨rfl, rfl⟩⟩ (.inl small)
      · rw [if_neg small]
        by_cases wide : -2 ^ 63 ≤ literal.value ∧ literal.value < 2 ^ 63
        · refine iff_of_false ?_ (fun alike => alike.elim small fun outside => outside wide)
          intro ⟨_, accepted⟩
          exact absurd (accepted wide).1 Bool.false_ne_true
        · rw [if_neg wide]
          exact iff_of_true ⟨.inl ⟨rfl, rfl⟩, fun inRange => absurd inRange wide⟩ (.inr wide)
  | uint =>
      rw [MeansTheSame, readKvp_uint declared, readXml_uint content, IntegerKind.ReadAlike,
        IntegerKind.InRange]
      obtain ⟨negative, value⟩ | ⟨positive, value⟩ := literal.value_cases
      · rw [value, if_pos negative]
        by_cases zero : literal.magnitude = 0
        · rw [zero]
          exact iff_of_true ⟨.inr ⟨_, rfl, rfl⟩, fun _ => ⟨rfl, rfl⟩⟩ (.inl le_rfl)
        · rw [if_neg (by omega)]
          by_cases small : literal.magnitude < 2 ^ 64
          · rw [if_pos small]
            refine iff_of_false ?_ (by omega)
            intro ⟨same, _⟩
            rcases same with ⟨_, refused⟩ | ⟨_, accepted, _⟩
            · cases refused
            · cases accepted
          · rw [if_neg small]
            refine iff_of_true ⟨.inl ⟨rfl, rfl⟩, fun inRange => ?_⟩ (by omega)
            omega
      · rw [value, if_neg positive]
        by_cases small : literal.magnitude < 2 ^ 64
        · rw [if_pos (by omega), if_pos small]
          exact iff_of_true ⟨.inr ⟨_, rfl, rfl⟩, fun _ => ⟨rfl, rfl⟩⟩ (by omega)
        · rw [if_neg (by omega), if_neg small]
          refine iff_of_true ⟨.inl ⟨rfl, rfl⟩, fun inRange => ?_⟩ (by omega)
          omega

end Reading

/-- Conversions of literals that refuse every other type. -/
def literalConversions : TextConversions where
  stod _ := none
  stoi text := (scanInteger text).bind fun (negative, magnitude) =>
    let value := signedValue negative magnitude
    if -2 ^ 31 ≤ value ∧ value < 2 ^ 31 then some (Int32.ofInt value) else none
  stoul text := (scanInteger text).bind fun (negative, magnitude) =>
    let value := signedValue negative magnitude
    if 0 ≤ value ∧ value < 2 ^ 64 then some (UInt64.ofNat value.toNat) else none
  string2ptime _ := none
  string2bool _ := none
  point _ := none
  boundingBox _ := none
  stoi_text literal := by
    rw [literal.scanInteger_text]
    rfl
  stoul_text literal := by
    rw [literal.scanInteger_text]
    rfl

/-- Conversions of XML values that refuse every other type. -/
def noOthers : ValueConversions where
  stol _ := none
  stoul _ := none
  stod _ := none
  string2bool _ := none
  parseTime _ := none

/-- A number of seconds that takes more than 32 bits. -/
def longLiteral : DecimalLiteral where
  sign := .none
  digits := ascii "6311433600"
  nonempty := by decide
  decimal := List.all_eq_true.mp (by decide)

/-- An element with the literal for its text. -/
def literalElement (literal : DecimalLiteral) : Node :=
  .element (ascii "seconds") none [] [.text literal.text]

/-- A long literal means the same in both forms when they read it alike. -/
theorem meansTheSame_longLiteral :
    MeansTheSame literalConversions noOthers .uint ⟨.uint, false, 0, 0⟩ longLiteral
        (literalElement longLiteral) ↔
      IntegerKind.uint.ReadAlike longLiteral.value :=
  meansTheSame_iff rfl rfl

/-- The KVP form of an `int` parameter refuses what its XML form accepts. -/
theorem longLiteral_refused :
    ¬ MeansTheSame literalConversions noOthers .int ⟨.int, false, 0, 0⟩ longLiteral
        (literalElement longLiteral) := by
  intro ⟨_, accepted⟩
  have inRange : IntegerKind.int.InRange longLiteral.value := by
    constructor <;> decide
  have kvp := (accepted inRange).1
  rw [readKvp_int rfl, if_neg (by decide)] at kvp
  exact absurd kvp Bool.false_ne_true

end SmartMetWfs.Parameters
