import SmartMetWfs.Core.Value
import SmartMetWfs.Foundation.Outcomes
import SmartMetWfs.Xml.Document

/-!
# Values of XML elements

`ParameterExtractor` finds by the name of an XML type how the values of a parameter are
read from its element. A list has as many values as its text has items, a position two
and every other type one.
-/

namespace SmartMetWfs.Xml

open Foundation

/-- The conversions of texts that values are made with. -/
structure ValueConversions where
  stol : ByteString → Option Int64
  stoul : ByteString → Option UInt64
  stod : ByteString → Option Double
  string2bool : ByteString → Option Bool
  parseTime : ByteString → Option DateTime

/-! ### Texts -/

/-- Whether a byte is white space of the C locale. -/
def isSpace (byte : UInt8) : Bool := byte = 32 || (9 ≤ byte && byte ≤ 13)

/-- White space has no case. -/
theorem isSpace_asciiTolower (byte : UInt8) : isSpace (asciiTolower byte) = isSpace byte := by
  revert byte
  decide +kernel

/-- `boost::algorithm::trim_copy`. -/
def trimCopy (text : ByteString) : ByteString :=
  ((text.dropWhile isSpace).reverse.dropWhile isSpace).reverse

/-- Of a run of separators the last one is kept. -/
def compressTokens (isSeparator : UInt8 → Bool) : ByteString → ByteString
  | [] => []
  | [byte] => [byte]
  | byte :: next :: rest =>
      if isSeparator byte && isSeparator next then compressTokens isSeparator (next :: rest)
      else byte :: compressTokens isSeparator (next :: rest)

/-- `boost::algorithm::split` with `token_compress_on`; there is always an item. -/
def splitCompressed (isSeparator : UInt8 → Bool) (text : ByteString) : List ByteString :=
  (compressTokens isSeparator text).splitOnP isSeparator

/-- `is_any_of`. -/
def isAnyOf (separators : ByteString) (byte : UInt8) : Bool := separators.contains byte

/-- The text of a child; there may be no elements among the children. -/
def childText : Node → Option ByteString
  | .element _ _ _ _ => none
  | .attr _ _ => some []
  | .text value => some value

/-- `extract_text`. -/
def extractText (element : Node) : Option ByteString :=
  (element.children.mapM childText).map List.flatten

/-- `get_child_elements`. -/
def getChildElements (element : Node) (ns name : ByteString) : List Node :=
  element.children.filter fun child =>
    child.getNodeType = .elementNode && child.namespaceUri = some ns && child.getLocalName = name

/-! ### GML types -/

/-- The namespace of GML. -/
def gmlNamespaceUri : ByteString := ascii "http://www.opengis.net/gml/3.2"

/-- The labels of the axes and of their units. -/
structure GmlSRSInformationGroup where
  axisLabels : List ByteString
  uomLabels : List ByteString

/-- The reference system, its dimension and the labels. -/
structure GmlSRSReferenceGroup where
  srsName : Option ByteString
  srsDimension : Option Nat
  srsInfo : Option GmlSRSInformationGroup

/-- The coordinates of a position, with its reference. -/
structure GmlDirectPositionType where
  srsReference : GmlSRSReferenceGroup
  data : List Double

/-- The corners of an envelope, with its reference. -/
structure GmlEnvelopeType where
  lowerCorner : GmlDirectPositionType
  upperCorner : GmlDirectPositionType
  srsReference : GmlSRSReferenceGroup

/-- `read_gml_srs_info_group`: the two attributes come together or not at all. -/
def readGmlSrsInfoGroup (element : Node) : Option (Option GmlSRSInformationGroup) :=
  match element.getAttribute (ascii "axisLabels"), element.getAttribute (ascii "uomLabels") with
  | some axisLabels, some uomLabels =>
      some (some ⟨splitCompressed (isAnyOf (ascii " \t")) (trimCopy axisLabels),
        splitCompressed (isAnyOf (ascii " \t")) (trimCopy uomLabels)⟩)
  | none, none => some none
  | _, _ => none

variable (conversions : ValueConversions)

/-- A dimension is kept in an `unsigned`. -/
def readGmlSrsReferenceGroup (element : Node) : Option GmlSRSReferenceGroup := do
  let srsInfo ← readGmlSrsInfoGroup element
  match element.getAttribute (ascii "srsDimension") with
  | none => pure ⟨element.getAttribute (ascii "srsName"), none, srsInfo⟩
  | some text => do
      let srsDimension ← conversions.stoul text
      pure ⟨element.getAttribute (ascii "srsName"), some srsDimension.toUInt32.toNat, srsInfo⟩

/-- `read_gml_direct_position_type`: the numbers in the text of the element. -/
def readGmlDirectPositionType (element : Node) : Option GmlDirectPositionType := do
  let srsReference ← readGmlSrsReferenceGroup conversions element
  let content ← extractText element
  let data ← (splitCompressed (isAnyOf (ascii " \t\r\n")) (trimCopy content)).mapM conversions.stod
  if srsReference.srsDimension = none ∨ srsReference.srsDimension = some data.length then
    pure ⟨srsReference, data⟩
  else none

/-- The corners of an envelope: elements of their own or two positions. -/
def readGmlCorners (element : Node) :
    Option (GmlDirectPositionType × GmlDirectPositionType) :=
  match getChildElements element gmlNamespaceUri (ascii "lowerCorner"),
      getChildElements element gmlNamespaceUri (ascii "upperCorner") with
  | [lower], [upper] => do
      let lowerCorner ← readGmlDirectPositionType conversions lower
      let upperCorner ← readGmlDirectPositionType conversions upper
      pure (lowerCorner, upperCorner)
  | _, _ =>
      match getChildElements element gmlNamespaceUri (ascii "pos") with
      | [lower, upper] => do
          let lowerCorner ← readGmlDirectPositionType conversions lower
          let upperCorner ← readGmlDirectPositionType conversions upper
          pure (lowerCorner, upperCorner)
      | _ => none

/-- The dimension is set to the number of coordinates, as far as an `unsigned` holds it. -/
def readGmlEnvelopeType (element : Node) : Option GmlEnvelopeType := do
  let corners ← readGmlCorners conversions element
  let srsReference ← readGmlSrsReferenceGroup conversions element
  if corners.1.data.length = corners.2.data.length ∧ (srsReference.srsDimension = none ∨
      srsReference.srsDimension = some corners.1.data.length) then
    pure ⟨corners.1, corners.2,
      { srsReference with srsDimension := some (UInt32.ofNat corners.1.data.length).toNat }⟩
  else none

/-! ### The extractors -/

/-- How the values of an element are read. -/
inductive XmlType
  | string
  | integer (lowerLimit upperLimit : Int)
  | unsignedInteger (lowerLimit upperLimit : Nat)
  | boolean
  | double
  | dateTime
  | nameList
  | doubleList
  | integerList
  | gmlPos
  | gmlEnvelope

/-- The text of the element as a signed number within the limits. -/
def extractInteger (elem : Node) (lowerLimit upperLimit : Int) : Option (List Value) := do
  let content ← extractText elem
  let intVal ← conversions.stol content
  if lowerLimit ≤ intVal.toInt ∧ intVal.toInt ≤ upperLimit then pure [.int intVal] else none

/-- The text of the element as an unsigned number within the limits. -/
def extractUnsignedInteger (elem : Node) (lowerLimit upperLimit : Nat) : Option (List Value) := do
  let content ← extractText elem
  let uintVal ← conversions.stoul content
  if lowerLimit ≤ uintVal.toNat ∧ uintVal.toNat ≤ upperLimit then pure [.uint uintVal] else none

/-- The items of a list; the separators depend on its type. -/
def listItems (separators : ByteString) (elem : Node) : Option (List ByteString) :=
  (extractText elem).map fun content => splitCompressed (isAnyOf separators) (trimCopy content)

/-- The coordinates of the only position in the element. -/
def extractGmlPos (elem : Node) : Option (List Value) :=
  match getChildElements elem gmlNamespaceUri (ascii "pos") with
  | [child] => do
      let pos ← readGmlDirectPositionType conversions child
      match pos.data with
      | [first, second] => pure [.double first, .double second]
      | _ => none
  | _ => none

/-- The bounding box of the only envelope in the element. -/
def extractGmlEnvelope (elem : Node) : Option (List Value) :=
  match getChildElements elem gmlNamespaceUri (ascii "Envelope") with
  | [child] => do
      let envelope ← readGmlEnvelopeType conversions child
      if envelope.srsReference.srsDimension = some 2 then
        match envelope.lowerCorner.data, envelope.upperCorner.data with
        | xMin :: yMin :: _, xMax :: yMax :: _ =>
            pure [.bbox ⟨xMin, yMin, xMax, yMax,
              envelope.srsReference.srsName.getD (ascii "EPSG::4326")⟩]
        | _, _ => none
      else none
  | _ => none

/-- What each type of XML reads from an element. -/
def XmlType.extract (elem : Node) : XmlType → Option (List Value)
  | .string => (extractText elem).map fun content => [.string content]
  | .integer lowerLimit upperLimit => extractInteger conversions elem lowerLimit upperLimit
  | .unsignedInteger lowerLimit upperLimit =>
      extractUnsignedInteger conversions elem lowerLimit upperLimit
  | .boolean => ((extractText elem).bind conversions.string2bool).map fun value => [.bool value]
  | .double => ((extractText elem).bind conversions.stod).map fun value => [.double value]
  | .dateTime => ((extractText elem).bind fun content =>
      conversions.parseTime (trimCopy content)).map fun value => [.ptime value]
  | .nameList => (listItems (ascii " \t\r\n") elem).map fun parts => parts.map .string
  | .doubleList => (listItems (ascii " ") elem).bind fun parts =>
      parts.mapM fun part => (conversions.stod part).map .double
  | .integerList => (listItems (ascii " ") elem).bind fun parts =>
      parts.mapM fun part => (conversions.stol part).map .int
  | .gmlPos => extractGmlPos conversions elem
  | .gmlEnvelope => extractGmlEnvelope conversions elem

/-- The types that are known by their names. -/
def paramExtractorMap : List (ByteString × XmlType) :=
  [(ascii "string", .string),
    (ascii "byte", .integer (-2 ^ 7) (2 ^ 7 - 1)),
    (ascii "short", .integer (-2 ^ 15) (2 ^ 15 - 1)),
    (ascii "int", .integer (-2 ^ 31) (2 ^ 31 - 1)),
    (ascii "long", .integer (-2 ^ 63) (2 ^ 63 - 1)),
    (ascii "integer", .integer (-2 ^ 63) (2 ^ 63 - 1)),
    (ascii "unsignedByte", .unsignedInteger 0 (2 ^ 8 - 1)),
    (ascii "unsignedShort", .unsignedInteger 0 (2 ^ 16 - 1)),
    (ascii "unsignedInt", .unsignedInteger 0 (2 ^ 32 - 1)),
    (ascii "unsignedLong", .unsignedInteger 0 (2 ^ 64 - 1)),
    (ascii "unsignedInteger", .unsignedInteger 0 (2 ^ 64 - 1)),
    (ascii "negativeInteger", .integer (-2 ^ 63) (-1)),
    (ascii "nonNegativeInteger", .integer 0 (2 ^ 63 - 1)),
    (ascii "nonPositiveInteger", .integer (-2 ^ 63) 0),
    (ascii "positiveInteger", .integer 1 (2 ^ 63 - 1)),
    (ascii "boolean", .boolean),
    (ascii "float", .double),
    (ascii "double", .double),
    (ascii "dateTime", .dateTime),
    (ascii "NameList", .nameList),
    (ascii "doubleList", .doubleList),
    (ascii "integerList", .integerList),
    (ascii "pos", .gmlPos),
    (ascii "Envelope", .gmlEnvelope),
    (ascii "language", .string)]

/-- The name of a type without its namespace. -/
def typeName (xmlType : ByteString) : ByteString :=
  if 58 ∈ xmlType then (xmlType.dropWhile fun byte => byte ≠ 58).drop 1 else xmlType

/-- The type under its name without the prefix. -/
def findType (xmlType : ByteString) : Option XmlType :=
  (paramExtractorMap.find? fun entry => entry.1 = typeName xmlType).map Prod.snd

/-- Why an element gives no values. -/
inductive ExtractFailure
  | noHandler (xmlType : ByteString)
  | notRead (xmlType : ByteString) (element : Node)

/-- `extract_param`. -/
def extractParam (element : Node) (xmlType : ByteString) : Except ExtractFailure (List Value) :=
  match findType xmlType with
  | none => throw (.noHandler xmlType)
  | some type =>
      match type.extract conversions element with
      | none => throw (.notRead xmlType element)
      | some values => pure values

/-! ### How many values there are -/

/-- The number of values of an element that can be read. -/
def XmlType.itemCount (elem : Node) : XmlType → Nat
  | .nameList => ((listItems (ascii " \t\r\n") elem).getD []).length
  | .doubleList => ((listItems (ascii " ") elem).getD []).length
  | .integerList => ((listItems (ascii " ") elem).getD []).length
  | .gmlPos => 2
  | _ => 1

variable {conversions}

theorem extractInteger_length {elem : Node} {lowerLimit upperLimit : Int} {values : List Value}
    (extracted : extractInteger conversions elem lowerLimit upperLimit = some values) :
    values.length = 1 := by
  obtain ⟨content, _, rest⟩ := Option.bind_eq_some_iff.mp extracted
  obtain ⟨intVal, _, checked⟩ := Option.bind_eq_some_iff.mp rest
  split at checked
  · cases checked
    rfl
  · cases checked

theorem extractUnsignedInteger_length {elem : Node} {lowerLimit upperLimit : Nat}
    {values : List Value}
    (extracted : extractUnsignedInteger conversions elem lowerLimit upperLimit = some values) :
    values.length = 1 := by
  obtain ⟨content, _, rest⟩ := Option.bind_eq_some_iff.mp extracted
  obtain ⟨uintVal, _, checked⟩ := Option.bind_eq_some_iff.mp rest
  split at checked
  · cases checked
    rfl
  · cases checked

theorem extractGmlPos_length {elem : Node} {values : List Value}
    (extracted : extractGmlPos conversions elem = some values) : values.length = 2 := by
  unfold extractGmlPos at extracted
  split at extracted
  · obtain ⟨pos, _, data⟩ := Option.bind_eq_some_iff.mp extracted
    split at data
    · cases data
      rfl
    · cases data
  · cases extracted

theorem extractGmlEnvelope_length {elem : Node} {values : List Value}
    (extracted : extractGmlEnvelope conversions elem = some values) : values.length = 1 := by
  unfold extractGmlEnvelope at extracted
  split at extracted
  · obtain ⟨envelope, _, data⟩ := Option.bind_eq_some_iff.mp extracted
    split at data
    · split at data
      · cases data
        rfl
      · cases data
    · cases data
  · cases extracted

/-- The values of a list type are those of its items. -/
theorem length_of_listItems {separators : ByteString} {elem : Node}
    {read : List ByteString → Option (List Value)} {values : List Value}
    (same : ∀ parts values, read parts = some values → values.length = parts.length)
    (extracted : (listItems separators elem).bind read = some values) :
    values.length = ((listItems separators elem).getD []).length := by
  obtain ⟨parts, items, values'⟩ := Option.bind_eq_some_iff.mp extracted
  rw [items, Option.getD_some]
  exact same parts values values'

/-- An element that can be read has as many values as its type says. -/
theorem XmlType.extract_length {type : XmlType} {elem : Node} {values : List Value}
    (extracted : type.extract conversions elem = some values) :
    values.length = type.itemCount elem := by
  cases type with
  | integer => exact extractInteger_length extracted
  | unsignedInteger => exact extractUnsignedInteger_length extracted
  | gmlPos => exact extractGmlPos_length extracted
  | gmlEnvelope => exact extractGmlEnvelope_length extracted
  | nameList =>
      obtain ⟨parts, items, rfl⟩ := Option.map_eq_some_iff.mp extracted
      rw [itemCount, items, Option.getD_some, List.length_map]
  | doubleList => exact length_of_listItems (fun _ _ => length_of_mapM) extracted
  | integerList => exact length_of_listItems (fun _ _ => length_of_mapM) extracted
  | string | boolean | double | dateTime =>
      obtain ⟨value, _, rfl⟩ := Option.map_eq_some_iff.mp extracted
      rfl

theorem extractParam_length {element : Node} {xmlType : ByteString} {values : List Value}
    (extracted : extractParam conversions element xmlType = .ok values) :
    ∃ type, findType xmlType = some type ∧ values.length = type.itemCount element := by
  unfold extractParam at extracted
  split at extracted
  · cases extracted
  · next type found =>
      split at extracted
      · cases extracted
      · next read =>
          cases extracted
          exact ⟨type, found, XmlType.extract_length read⟩

end SmartMetWfs.Xml
