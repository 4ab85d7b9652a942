import SmartMetWfs.Xml.Numerals

/-!
# Accesses to an envelope

`extract_gml_envelope` dereferences the dimension of an envelope and indexes the coordinates
of its corners. The dimension may be given at the envelope and at each of its corners, or
nowhere.
-/

namespace SmartMetWfs.Xml

open Foundation

/-- What is undefined. -/
inductive EnvelopeAccess
  | emptyDimension
  | pastCoordinates (ind : Nat)

/-- What the reading of an envelope ends with if it yields no value. -/
inductive EnvelopeFailure
  | exception
  | undefined (access : EnvelopeAccess)

/-- `*srs_dimension`. -/
def dereferenceDimension : Option Nat → Except EnvelopeFailure Nat
  | some srsDimension => .ok srsDimension
  | none => .error (.undefined .emptyDimension)

/-- `data[ind]`. -/
def coordinateAt (data : List Double) (ind : Nat) : Except EnvelopeFailure Double :=
  match data[ind]? with
  | some coordinate => .ok coordinate
  | none => .error (.undefined (.pastCoordinates ind))

section

variable (conversions : ValueConversions)

/-- The body of `extract_gml_envelope` for the envelope that has been read. -/
def boundingBoxOf (envelope : GmlEnvelopeType) : Except EnvelopeFailure (List Value) := do
  let srsDimension ← dereferenceDimension envelope.srsReference.srsDimension
  if srsDimension = 2 then
    let xMin ← coordinateAt envelope.lowerCorner.data 0
    let yMin ← coordinateAt envelope.lowerCorner.data 1
    let xMax ← coordinateAt envelope.upperCorner.data 0
    let yMax ← coordinateAt envelope.upperCorner.data 1
    return [.bbox ⟨xMin, yMin, xMax, yMax, envelope.srsReference.srsName.getD (ascii "EPSG::4326")⟩]
  else .error .exception

/-- `extract_gml_envelope` with its accesses. -/
def accessGmlEnvelope (elem : Node) : Except EnvelopeFailure (List Value) :=
  match getChildElements elem gmlNamespaceUri (ascii "Envelope") with
  | [child] =>
      match readGmlEnvelopeType conversions child with
      | some envelope => boundingBoxOf envelope
      | none => .error .exception
  | _ => .error .exception

/-- The elements that an envelope is read from. -/
structure EnvelopeParts where
  envelope : Node
  lower : Node
  upper : Node

/-- The elements of the corners. -/
def cornersOf (envelope : Node) : Option EnvelopeParts :=
  match getChildElements envelope gmlNamespaceUri (ascii "lowerCorner"),
      getChildElements envelope gmlNamespaceUri (ascii "upperCorner") with
  | [lower], [upper] => some ⟨envelope, lower, upper⟩
  | _, _ =>
      match getChildElements envelope gmlNamespaceUri (ascii "pos") with
      | [lower, upper] => some ⟨envelope, lower, upper⟩
      | _ => none

/-- The only envelope of a parameter, and its corners. -/
def envelopeParts (elem : Node) : Option EnvelopeParts :=
  match getChildElements elem gmlNamespaceUri (ascii "Envelope") with
  | [envelope] => cornersOf envelope
  | _ => none

/-- The coordinates of a corner. -/
def coordinatesOf (corner : Node) : Option (List Double) := do
  let content ← extractText corner
  (splitCompressed (isAnyOf (ascii " \t\r\n")) (trimCopy content)).mapM conversions.stod

/-- The dimension of an element, if it is given, is this number. -/
def DimensionIs (read : UInt64 → Nat) (number : Nat) (element : Node) : Prop :=
  ∀ text, element.getAttribute (ascii "srsDimension") = some text →
    (conversions.stoul text).map read = some number

/-- Of the labels of axes and of units both or none are given. -/
def LabelsPaired (element : Node) : Prop :=
  (element.getAttribute (ascii "axisLabels")).isSome =
    (element.getAttribute (ascii "uomLabels")).isSome

instance (element : Node) : Decidable (LabelsPaired element) := inferInstanceAs (Decidable (_ = _))

end

/-! ### What is read -/

variable {conversions : ValueConversions}

/-- The group is read when both labels are there or neither is. -/
theorem readGmlSrsInfoGroup_isSome {element : Node} :
    (∃ srsInfo, readGmlSrsInfoGroup element = some srsInfo) ↔ LabelsPaired element := by
  unfold readGmlSrsInfoGroup LabelsPaired
  cases element.getAttribute (ascii "axisLabels") with
  | none =>
      cases element.getAttribute (ascii "uomLabels") with
      | none => exact iff_of_true ⟨_, rfl⟩ rfl
      | some uomLabels => exact iff_of_false (fun ⟨_, read⟩ => nomatch read) nofun
  | some axisLabels =>
      cases element.getAttribute (ascii "uomLabels") with
      | none => exact iff_of_false (fun ⟨_, read⟩ => nomatch read) nofun
      | some uomLabels => exact iff_of_true ⟨_, rfl⟩ rfl

/-- Without the attribute the dimension is any number. -/
theorem dimensionIs_of_none {read : UInt64 → Nat} {number : Nat} {element : Node}
    (absent : element.getAttribute (ascii "srsDimension") = none) :
    DimensionIs conversions read number element := by
  intro text given
  rw [absent] at given
  cases given

/-- With the attribute the dimension is the number that is read. -/
theorem dimensionIs_iff {read : UInt64 → Nat} {number : Nat} {element : Node} {text : ByteString}
    (given : element.getAttribute (ascii "srsDimension") = some text) :
    DimensionIs conversions read number element ↔
      (conversions.stoul text).map read = some number := by
  refine ⟨fun isNumber => isNumber text given, fun isNumber other given' => ?_⟩
  obtain rfl := Option.some.inj (given.symm.trans given')
  exact isNumber

/-- A reference without a dimension or with this one. -/
def ReferenceFits (srsReference : GmlSRSReferenceGroup) (number : Nat) : Prop :=
  srsReference.srsDimension = none ∨ srsReference.srsDimension = some number

/-- A reference of the right dimension is read when the labels are paired and the dimension is that
number. -/
theorem readGmlSrsReferenceGroup_fits {element : Node} {number : Nat} :
    (∃ srsReference, readGmlSrsReferenceGroup conversions element = some srsReference ∧
        ReferenceFits srsReference number) ↔
      LabelsPaired element ∧
        DimensionIs conversions (fun value => value.toUInt32.toNat) number element := by
  rw [← readGmlSrsInfoGroup_isSome]
  unfold readGmlSrsReferenceGroup
  cases readGmlSrsInfoGroup element with
  | none => exact iff_of_false (fun ⟨_, read, _⟩ => nomatch read) fun ⟨⟨_, read⟩, _⟩ => nomatch read
  | some srsInfo =>
      rw [and_iff_right ⟨srsInfo, rfl⟩]
      cases given : element.getAttribute (ascii "srsDimension") with
      | none => exact iff_of_true ⟨_, rfl, .inl rfl⟩ (dimensionIs_of_none given)
      | some text =>
          rw [dimensionIs_iff given]
          change (∃ srsReference, (conversions.stoul text).bind _ = _ ∧ _) ↔ _
          cases conversions.stoul text with
          | none => exact iff_of_false (fun ⟨_, read, _⟩ => nomatch read) nofun
          | some value =>
              constructor
              · rintro ⟨srsReference, read, fits⟩
                cases read
                exact fits.resolve_left (Option.some_ne_none _)
              · exact fun isNumber => ⟨_, rfl, .inr isNumber⟩

/-- The name of the reference system is the attribute as it stands. -/
theorem srsName_of_read {element : Node} {srsReference : GmlSRSReferenceGroup}
    (read : readGmlSrsReferenceGroup conversions element = some srsReference) :
    srsReference.srsName = element.getAttribute (ascii "srsName") := by
  obtain ⟨srsInfo, _, rest⟩ := Option.bind_eq_some_iff.mp read
  split at rest
  · cases rest
    rfl
  · obtain ⟨srsDimension, _, rest⟩ := Option.bind_eq_some_iff.mp rest
    cases rest
    rfl

/-- The coordinates of a position. -/
theorem readGmlDirectPositionType_data {corner : Node} {data : List Double} :
    (∃ pos, readGmlDirectPositionType conversions corner = some pos ∧ pos.data = data) ↔
      coordinatesOf conversions corner = some data ∧ LabelsPaired corner ∧
        DimensionIs conversions (fun value => value.toUInt32.toNat) data.length corner := by
  rw [← readGmlSrsReferenceGroup_fits]
  constructor
  · rintro ⟨pos, read, rfl⟩
    obtain ⟨srsReference, isReference, rest⟩ := Option.bind_eq_some_iff.mp read
    obtain ⟨content, isContent, rest⟩ := Option.bind_eq_some_iff.mp rest
    obtain ⟨data, isData, checked⟩ := Option.bind_eq_some_iff.mp rest
    split at checked
    · next fits =>
        cases checked
        refine ⟨?_, srsReference, isReference, fits⟩
        unfold coordinatesOf
        rw [isContent]
        exact isData
    · cases checked
  · rintro ⟨coordinates, srsReference, isReference, fits⟩
    obtain ⟨content, isContent, isData⟩ := Option.bind_eq_some_iff.mp coordinates
    refine ⟨⟨srsReference, data⟩, ?_, rfl⟩
    unfold readGmlDirectPositionType
    rw [isReference, isContent]
    change ((splitCompressed _ (trimCopy content)).mapM conversions.stod).bind _ = _
    rw [isData]
    exact if_pos fits

/-- The elements of the corners are where the corners are read. -/
theorem readGmlCorners_eq (envelope : Node) :
    readGmlCorners conversions envelope = (cornersOf envelope).bind fun parts =>
      (readGmlDirectPositionType conversions parts.lower).bind fun lowerCorner =>
        (readGmlDirectPositionType conversions parts.upper).map fun upperCorner =>
          (lowerCorner, upperCorner) := by
  have both : ∀ lower upper : Node, (do
      let lowerCorner ← readGmlDirectPositionType conversions lower
      let upperCorner ← readGmlDirectPositionType conversions upper
      pure (lowerCorner, upperCorner)) = (readGmlDirectPositionType conversions lower).bind
        fun lowerCorner => (readGmlDirectPositionType conversions upper).map fun upperCorner =>
          (lowerCorner, upperCorner) := by
    intro lower upper
    cases readGmlDirectPositionType conversions lower with
    | none => rfl
    | some lowerCorner => exact (Option.map_eq_bind ..).symm
  unfold readGmlCorners cornersOf
  generalize getChildElements envelope gmlNamespaceUri (ascii "lowerCorner") = lowers
  generalize getChildElements envelope gmlNamespaceUri (ascii "upperCorner") = uppers
  generalize getChildElements envelope gmlNamespaceUri (ascii "pos") = positions
  rcases lowers with _ | ⟨lower, _ | ⟨second, lowers⟩⟩ <;>
    rcases uppers with _ | ⟨upper, _ | ⟨second', uppers⟩⟩ <;>
    first
    | exact both _ _
    | rcases positions with _ | ⟨first, _ | ⟨second'', _ | ⟨third, positions⟩⟩⟩ <;>
        first
        | exact both _ _
        | rfl

/-- The parts name the envelope they were found in. -/
theorem envelope_of_cornersOf {envelope : Node} {parts : EnvelopeParts}
    (found : cornersOf envelope = some parts) : parts.envelope = envelope := by
  unfold cornersOf at found
  split at found
  · cases found
    rfl
  · split at found
    · cases found
      rfl
    · cases found

/-- An envelope that is read, with the elements it is read from. -/
structure ReadFrom (conversions : ValueConversions) (parts : EnvelopeParts)
    (envelope : GmlEnvelopeType) : Prop where
  lower : ∃ pos, readGmlDirectPositionType conversions parts.lower = some pos ∧
    pos.data = envelope.lowerCorner.data
  upper : ∃ pos, readGmlDirectPositionType conversions parts.upper = some pos ∧
    pos.data = envelope.upperCorner.data
  reference : ∃ srsReference, readGmlSrsReferenceGroup conversions parts.envelope =
    some srsReference ∧
    ReferenceFits srsReference envelope.lowerCorner.data.length
  sameLength : envelope.lowerCorner.data.length = envelope.upperCorner.data.length
  dimension : envelope.srsReference.srsDimension =
    some (UInt32.ofNat envelope.lowerCorner.data.length).toNat
  srsName : envelope.srsReference.srsName = parts.envelope.getAttribute (ascii "srsName")

/-- An envelope that is read has two corners and is read from them. -/
theorem readFrom_of_read {element : Node} {envelope : GmlEnvelopeType}
    (read : readGmlEnvelopeType conversions element = some envelope) :
    ∃ parts, cornersOf element = some parts ∧ ReadFrom conversions parts envelope := by
  obtain ⟨corners, isCorners, rest⟩ := Option.bind_eq_some_iff.mp read
  obtain ⟨srsReference, isReference, checked⟩ := Option.bind_eq_some_iff.mp rest
  rw [readGmlCorners_eq] at isCorners
  obtain ⟨parts, isParts, rest⟩ := Option.bind_eq_some_iff.mp isCorners
  obtain ⟨lowerCorner, isLower, rest⟩ := Option.bind_eq_some_iff.mp rest
  obtain ⟨upperCorner, isUpper, rfl⟩ := Option.map_eq_some_iff.mp rest
  split at checked
  · next fits =>
      cases checked
      have isEnvelope := envelope_of_cornersOf isParts
      refine ⟨parts, isParts, ⟨lowerCorner, isLower, rfl⟩, ⟨upperCorner, isUpper, rfl⟩, ?_, fits.1,
        rfl, ?_⟩
      · rw [isEnvelope]
        exact ⟨srsReference, isReference, fits.2⟩
      · have named := srsName_of_read isReference
        rw [isEnvelope]
        exact named
  · cases checked

/-- An envelope is read from elements that agree. -/
theorem exists_readFrom {element : Node} {parts : EnvelopeParts}
    (isParts : cornersOf element = some parts)
    {lowerCorner upperCorner : GmlDirectPositionType}
    (isLower : readGmlDirectPositionType conversions parts.lower = some lowerCorner)
    (isUpper : readGmlDirectPositionType conversions parts.upper = some upperCorner)
    (sameLength : lowerCorner.data.length = upperCorner.data.length)
    (reference : ∃ srsReference,
      readGmlSrsReferenceGroup conversions parts.envelope = some srsReference ∧
        ReferenceFits srsReference lowerCorner.data.length) :
    ∃ envelope, readGmlEnvelopeType conversions element = some envelope ∧
      envelope.lowerCorner = lowerCorner ∧ envelope.upperCorner = upperCorner := by
  obtain ⟨srsReference, isReference, fits⟩ := reference
  rw [envelope_of_cornersOf isParts] at isReference
  refine ⟨⟨lowerCorner, upperCorner, { srsReference with
    srsDimension := some (UInt32.ofNat lowerCorner.data.length).toNat }⟩, ?_, rfl, rfl⟩
  unfold readGmlEnvelopeType
  rw [readGmlCorners_eq, isParts, Option.bind_some, isLower, Option.bind_some, isUpper,
    isReference]
  exact if_pos ⟨sameLength, fits⟩

/-! ### Accesses -/

theorem two_of_length {data : List Double} (two : 2 ≤ data.length) :
    ∃ first second rest, data = first :: second :: rest := by
  rcases data with _ | ⟨first, _ | ⟨second, rest⟩⟩
  · exact absurd two (Nat.not_succ_le_zero 1)
  · exact absurd two (Nat.not_succ_le_self 1)
  · exact ⟨first, second, rest, rfl⟩

/-- Nothing follows the second of two numbers. -/
theorem nil_of_length_two {first second : Double} {rest : List Double}
    (two : (first :: second :: rest).length = 2) : rest = [] :=
  List.length_eq_zero_iff.mp (Nat.add_right_cancel (m := 2) (two.trans (Nat.zero_add 2).symm))

/-- What an envelope with two or more coordinates yields, and what others do. -/
theorem boundingBoxOf_cases {parts : EnvelopeParts} {envelope : GmlEnvelopeType}
    (readFrom : ReadFrom conversions parts envelope) :
    ((UInt32.ofNat envelope.lowerCorner.data.length).toNat ≠ 2 ∧
        boundingBoxOf envelope = .error .exception) ∨
      ∃ xMin yMin rest xMax yMax rest', (UInt32.ofNat envelope.lowerCorner.data.length).toNat = 2 ∧
        envelope.lowerCorner.data = xMin :: yMin :: rest ∧
        envelope.upperCorner.data = xMax :: yMax :: rest' ∧
        boundingBoxOf envelope = .ok [.bbox ⟨xMin, yMin, xMax, yMax,
          (parts.envelope.getAttribute (ascii "srsName")).getD (ascii "EPSG::4326")⟩] := by
  unfold boundingBoxOf
  rw [readFrom.dimension, readFrom.srsName]
  by_cases isTwo : (UInt32.ofNat envelope.lowerCorner.data.length).toNat = 2
  · right
    have atLeast : 2 ≤ envelope.lowerCorner.data.length := by
      rw [UInt32.toNat_ofNat'] at isTwo
      rw [← isTwo]
      exact Nat.mod_le _ _
    obtain ⟨xMin, yMin, rest, isLower⟩ := two_of_length atLeast
    obtain ⟨xMax, yMax, rest', isUpper⟩ := two_of_length (readFrom.sameLength ▸ atLeast)
    refine ⟨xMin, yMin, rest, xMax, yMax, rest', isTwo, isLower, isUpper, ?_⟩
    change (if (UInt32.ofNat envelope.lowerCorner.data.length).toNat = 2 then _ else _) = _
    rw [if_pos isTwo, isLower, isUpper]
    rfl
  · left
    exact ⟨isTwo, if_neg isTwo⟩

/-- No access is undefined. -/
theorem accessGmlEnvelope_defined (conversions : ValueConversions) (elem : Node)
    (access : EnvelopeAccess) :
      accessGmlEnvelope conversions elem ≠ .error (.undefined access) := by
  unfold accessGmlEnvelope
  split
  · split
    · next envelope read =>
        obtain ⟨parts, _, readFrom⟩ := readFrom_of_read read
        rcases boundingBoxOf_cases readFrom with ⟨_, fails⟩ | ⟨_, _, _, _, _, _, _, _, _, yields⟩
        · rw [fails]
          exact nofun
        · rw [yields]
          exact nofun
    · exact nofun
  · exact nofun

/-- The accesses read what `extractGmlEnvelope` does. -/
theorem accessGmlEnvelope_eq_ok {elem : Node} {values : List Value} :
    accessGmlEnvelope conversions elem = .ok values ↔
      extractGmlEnvelope conversions elem = some values := by
  unfold accessGmlEnvelope extractGmlEnvelope
  generalize getChildElements elem gmlNamespaceUri (ascii "Envelope") = children
  rcases children with _ | ⟨child, _ | ⟨second, children⟩⟩
  · exact iff_of_false nofun nofun
  · dsimp only
    cases read : readGmlEnvelopeType conversions child with
    | none => exact iff_of_false nofun nofun
    | some envelope =>
        obtain ⟨parts, _, readFrom⟩ := readFrom_of_read read
        rw [Option.bind_eq_bind, Option.bind_some, readFrom.dimension]
        rcases boundingBoxOf_cases readFrom with ⟨other, fails⟩ |
          ⟨xMin, yMin, rest, xMax, yMax, rest', isTwo, isLower, isUpper, yields⟩
        · rw [if_neg fun same => other (Option.some.inj same)]
          exact iff_of_false (fun succeeds => nomatch fails.symm.trans succeeds) nofun
        · rw [if_pos (congrArg some isTwo), isLower, isUpper, readFrom.srsName]
          dsimp only
          rw [yields]
          exact ⟨fun same => congrArg some (Except.ok.inj same),
            fun same => congrArg Except.ok (Option.some.inj same)⟩
  · exact iff_of_false nofun nofun

/-! ### What envelopes are accepted -/

namespace EnvelopeParts

/-- The envelope and its corners, each of which may have labels and a dimension. -/
def nodes (parts : EnvelopeParts) : List Node := [parts.envelope, parts.lower, parts.upper]

/-- The box between two corners with two coordinates each. -/
def boundingBox (conversions : ValueConversions) (parts : EnvelopeParts) : Option BoundingBox :=
  match coordinatesOf conversions parts.lower, coordinatesOf conversions parts.upper with
  | some [xMin, yMin], some [xMax, yMax] => some ⟨xMin, yMin, xMax, yMax,
      (parts.envelope.getAttribute (ascii "srsName")).getD (ascii "EPSG::4326")⟩
  | _, _ => none

/-- The dimensions that are given and the numbers of coordinates fit into an `unsigned`. -/
structure WithinUnsigned (conversions : ValueConversions) (parts : EnvelopeParts) : Prop where
  dimension : ∀ node ∈ parts.nodes, ∀ text value,
    node.getAttribute (ascii "srsDimension") = some text → conversions.stoul text = some value →
      value.toNat < 2 ^ 32
  coordinates : ∀ data, coordinatesOf conversions parts.lower = some data → data.length < 2 ^ 32

/-- There is a box when both corners have two coordinates. -/
theorem boundingBox_eq_some {parts : EnvelopeParts} {box : BoundingBox} :
    parts.boundingBox conversions = some box ↔ ∃ xMin yMin xMax yMax,
      coordinatesOf conversions parts.lower = some [xMin, yMin] ∧
      coordinatesOf conversions parts.upper = some [xMax, yMax] ∧
      box = ⟨xMin, yMin, xMax, yMax,
        (parts.envelope.getAttribute (ascii "srsName")).getD (ascii "EPSG::4326")⟩ := by
  unfold boundingBox
  constructor
  · intro isBox
    split at isBox
    · next xMin yMin xMax yMax isLower isUpper =>
        exact ⟨xMin, yMin, xMax, yMax, isLower, isUpper, (Option.some.inj isBox).symm⟩
    · cases isBox
  · rintro ⟨xMin, yMin, xMax, yMax, isLower, isUpper, rfl⟩
    rw [isLower, isUpper]

end EnvelopeParts

/-- Envelopes that are admitted are read, others are refused. -/
def ReadExactly (conversions : ValueConversions) (elem : Node) (admitted : Node → Prop) : Prop :=
  ∀ values, accessGmlEnvelope conversions elem = .ok values ↔ ∃ parts box,
    envelopeParts elem = some parts ∧ (∀ node ∈ parts.nodes, admitted node) ∧
      parts.boundingBox conversions = some box ∧ values = [.bbox box]

/-- An envelope is read safely: no access is undefined, and it is read just if it is admitted
and its corners have two coordinates. -/
structure ReadSafely (conversions : ValueConversions) (elem : Node) (admitted : Node → Prop) :
    Prop where
  defined : ∀ access, accessGmlEnvelope conversions elem ≠ .error (.undefined access)
  exact : ReadExactly conversions elem admitted

/-- A dimension that fits is read as it is. -/
theorem dimensionIs_narrow {element : Node} (fits : ∀ text value,
    element.getAttribute (ascii "srsDimension") = some text → conversions.stoul text = some value →
      value.toNat < 2 ^ 32) (number : Nat) :
    DimensionIs conversions (fun value => value.toUInt32.toNat) number element ↔
      DimensionIs conversions UInt64.toNat number element := by
  cases given : element.getAttribute (ascii "srsDimension") with
  | none => exact iff_of_true (dimensionIs_of_none given) (dimensionIs_of_none given)
  | some text =>
      rw [dimensionIs_iff given, dimensionIs_iff given]
      cases read : conversions.stoul text with
      | none => exact Iff.rfl
      | some value =>
          rw [Option.map_some, Option.map_some, UInt64.toNat_toUInt32,
            Nat.mod_eq_of_lt (fits text value given read)]

/-- The labels are paired and the dimension, if it is given, is two. -/
def Admitted (conversions : ValueConversions) (node : Node) : Prop :=
  LabelsPaired node ∧ DimensionIs conversions UInt64.toNat 2 node

section

variable {parts : EnvelopeParts} (fits : parts.WithinUnsigned conversions)

include fits

/-- Within the numbers that are kept a node is admitted when its labels are paired and its dimension
is two. -/
theorem EnvelopeParts.WithinUnsigned.admitted_iff {node : Node} (member : node ∈ parts.nodes) :
    Admitted conversions node ↔ LabelsPaired node ∧
      DimensionIs conversions (fun value => value.toUInt32.toNat) 2 node := by
  unfold Admitted
  rw [dimensionIs_narrow (fits.dimension node member)]

/-- What is read of two coordinates is between elements that are admitted. -/
theorem ReadFrom.of_two {envelope : GmlEnvelopeType}
    (readFrom : ReadFrom conversions parts envelope)
    (isTwo : (UInt32.ofNat envelope.lowerCorner.data.length).toNat = 2) :
    (∀ node ∈ parts.nodes, Admitted conversions node) ∧ envelope.lowerCorner.data.length = 2 ∧
      coordinatesOf conversions parts.lower = some envelope.lowerCorner.data ∧
      coordinatesOf conversions parts.upper = some envelope.upperCorner.data := by
  obtain ⟨isLower, lowerPaired, lowerDimension⟩ :=
    readGmlDirectPositionType_data.mp readFrom.lower
  obtain ⟨isUpper, upperPaired, upperDimension⟩ :=
    readGmlDirectPositionType_data.mp readFrom.upper
  obtain ⟨paired, dimension⟩ := readGmlSrsReferenceGroup_fits.mp readFrom.reference
  have length : envelope.lowerCorner.data.length = 2 := by
    rw [UInt32.toNat_ofNat', Nat.mod_eq_of_lt (fits.coordinates _ isLower)] at isTwo
    exact isTwo
  refine ⟨fun node member => (fits.admitted_iff member).mpr ?_, length, isLower, isUpper⟩
  rw [← readFrom.sameLength] at upperDimension
  rw [length] at lowerDimension upperDimension dimension
  rcases List.mem_cons.mp member with rfl | member
  · exact ⟨paired, dimension⟩
  · rcases List.mem_cons.mp member with rfl | member
    · exact ⟨lowerPaired, lowerDimension⟩
    · obtain rfl := List.mem_singleton.mp member
      exact ⟨upperPaired, upperDimension⟩

/-- Elements that are admitted are read. -/
theorem exists_read_of_admitted {element : Node} (isParts : cornersOf element = some parts)
    (admitted : ∀ node ∈ parts.nodes, Admitted conversions node) {xMin yMin xMax yMax : Double}
    (isLower : coordinatesOf conversions parts.lower = some [xMin, yMin])
    (isUpper : coordinatesOf conversions parts.upper = some [xMax, yMax]) :
    ∃ envelope, readGmlEnvelopeType conversions element = some envelope ∧
      envelope.lowerCorner.data = [xMin, yMin] ∧ envelope.upperCorner.data = [xMax, yMax] := by
  have narrow := fun node member => (fits.admitted_iff member).mp (admitted node member)
  obtain ⟨lowerCorner, readLower, lowerData⟩ := readGmlDirectPositionType_data.mpr
    ⟨isLower, narrow parts.lower (by simp [EnvelopeParts.nodes])⟩
  obtain ⟨upperCorner, readUpper, upperData⟩ := readGmlDirectPositionType_data.mpr
    ⟨isUpper, narrow parts.upper (by simp [EnvelopeParts.nodes])⟩
  have reference := readGmlSrsReferenceGroup_fits.mpr (narrow parts.envelope List.mem_cons_self)
  obtain ⟨envelope, read, rfl, rfl⟩ := exists_readFrom isParts readLower readUpper
    (by rw [lowerData, upperData]; rfl) (by rw [lowerData]; exact reference)
  exact ⟨envelope, read, lowerData, upperData⟩

end

/-- Within the limits just the admitted envelopes between two coordinates are read. -/
theorem readExactly_of_within {elem : Node}
    (within : ∀ parts, envelopeParts elem = some parts → parts.WithinUnsigned conversions) :
    ReadExactly conversions elem (Admitted conversions) := by
  intro values
  rw [accessGmlEnvelope_eq_ok]
  unfold extractGmlEnvelope
  unfold envelopeParts at within ⊢
  generalize getChildElements elem gmlNamespaceUri (ascii "Envelope") = children at within ⊢
  rcases children with _ | ⟨child, _ | ⟨second, children⟩⟩
  · exact iff_of_false nofun fun ⟨_, _, isParts, _⟩ => nomatch isParts
  · dsimp only at within ⊢
    constructor
    · intro succeeds
      obtain ⟨envelope, read, succeeds⟩ := Option.bind_eq_some_iff.mp succeeds
      obtain ⟨parts, isParts, readFrom⟩ := readFrom_of_read read
      rw [readFrom.dimension, readFrom.srsName] at succeeds
      split at succeeds
      · next isTwo =>
          obtain ⟨admitted, length, lowerData, upperData⟩ :=
            readFrom.of_two (within parts isParts) (Option.some.inj isTwo)
          have length' := readFrom.sameLength.symm.trans length
          split at succeeds
          · next xMin yMin rest xMax yMax rest' isLower isUpper =>
              rw [isLower] at length lowerData
              rw [isUpper] at length' upperData
              obtain rfl := nil_of_length_two length
              obtain rfl := nil_of_length_two length'
              cases succeeds
              exact ⟨parts, _, isParts, admitted, EnvelopeParts.boundingBox_eq_some.mpr
                ⟨xMin, yMin, xMax, yMax, lowerData, upperData, rfl⟩, rfl⟩
          · cases succeeds
      · cases succeeds
    · rintro ⟨parts, box, isParts, admitted, isBox, rfl⟩
      obtain ⟨xMin, yMin, xMax, yMax, isLower, isUpper, rfl⟩ :=
        EnvelopeParts.boundingBox_eq_some.mp isBox
      obtain ⟨envelope, read, lowerData, upperData⟩ :=
        exists_read_of_admitted (within parts isParts) isParts admitted isLower isUpper
      obtain ⟨parts', isParts', readFrom⟩ := readFrom_of_read read
      obtain rfl := Option.some.inj (isParts.symm.trans isParts')
      rw [read, Option.bind_eq_bind, Option.bind_some, readFrom.dimension, readFrom.srsName,
        lowerData, upperData]
      rfl
  · exact iff_of_false nofun fun ⟨_, _, isParts, _⟩ => nomatch isParts

/-- No access is undefined, and within the limits just the admitted envelopes are read. -/
theorem gmlEnvelope_readSafely (conversions : ValueConversions) (elem : Node) :
    (∀ access, accessGmlEnvelope conversions elem ≠ .error (.undefined access)) ∧
      ((∀ parts, envelopeParts elem = some parts → parts.WithinUnsigned conversions) →
        ReadExactly conversions elem (Admitted conversions)) :=
  ⟨accessGmlEnvelope_defined conversions elem, readExactly_of_within⟩

/-! ### An envelope with axis labels -/

/-- The numbers one and two; other texts are not read. -/
def oneOrTwo : ValueConversions where
  stol := SmartMetWfs.stol
  stoul := SmartMetWfs.stoul
  stod text :=
    if text = ascii "1" then some ⟨#v[0, 0, 0, 0, 0, 0, 240, 63]⟩
    else if text = ascii "2" then some ⟨#v[0, 0, 0, 0, 0, 0, 0, 64]⟩
    else none
  string2bool _ := none
  parseTime _ := none

/-- The parts of an envelope with attributes of its own. -/
def envelopeWith (attributes : List (ByteString × ByteString)) : EnvelopeParts :=
  let corner (name content : ByteString) : Node :=
    .element (ascii "gml:" ++ name) (some gmlNamespaceUri) [] [.text content]
  let lower := corner (ascii "lowerCorner") (ascii "1 1")
  let upper := corner (ascii "upperCorner") (ascii "2 2")
  ⟨.element (ascii "gml:Envelope") (some gmlNamespaceUri) attributes [lower, upper], lower, upper⟩

/-- A parameter with the envelope in it. -/
def EnvelopeParts.parameter (parts : EnvelopeParts) : Node :=
  .element (ascii "wfs:Parameter") none [] [parts.envelope]

/-- An envelope with labels of the axes and none of the units. -/
def axisLabelsOnly : EnvelopeParts := envelopeWith [(ascii "axisLabels", ascii "x y")]

/-- It is refused though its corners have two coordinates. -/
theorem axisLabelsOnly_refused : ¬ ReadSafely oneOrTwo axisLabelsOnly.parameter
    (DimensionIs oneOrTwo UInt64.toNat 2) := by
  intro safely
  have isParts : envelopeParts axisLabelsOnly.parameter = some axisLabelsOnly := rfl
  have admitted : ∀ node ∈ axisLabelsOnly.nodes, DimensionIs oneOrTwo UInt64.toNat 2 node := by
    intro node member
    apply dimensionIs_of_none
    revert node
    decide
  have accepted := (safely.exact _).mpr ⟨axisLabelsOnly, _, isParts, admitted, rfl, rfl⟩
  have refused : accessGmlEnvelope oneOrTwo axisLabelsOnly.parameter = .error .exception := rfl
  rw [refused] at accepted
  cases accepted

/-- An envelope that says its dimension. -/
def dimensionGiven : EnvelopeParts := envelopeWith [(ascii "srsDimension", ascii "2")]

/-- Its dimension is within the numbers that are kept. -/
theorem dimensionGiven_within : dimensionGiven.WithinUnsigned oneOrTwo where
  dimension := by
    intro node member text value given read
    rcases List.mem_cons.mp member with rfl | member
    · obtain rfl : ascii "2" = text := Option.some.inj given
      obtain rfl : 2 = value := Option.some.inj read
      decide
    · have absent : ∀ node ∈ [dimensionGiven.lower, dimensionGiven.upper],
          node.getAttribute (ascii "srsDimension") = none := by decide
      rw [absent node member] at given
      cases given
  coordinates := by
    intro data isData
    obtain rfl := Option.some.inj isData
    decide

/-- With a dimension of two it is read. -/
theorem dimensionGiven_read : ∃ box, dimensionGiven.boundingBox oneOrTwo = some box ∧
    accessGmlEnvelope oneOrTwo dimensionGiven.parameter = .ok [.bbox box] := by
  have isParts : envelopeParts dimensionGiven.parameter = some dimensionGiven := rfl
  have readExactly :=
    (gmlEnvelope_readSafely oneOrTwo dimensionGiven.parameter).2 fun parts isParts' =>
    Option.some.inj (isParts.symm.trans isParts') ▸ dimensionGiven_within
  refine ⟨_, rfl, (readExactly _).mpr ⟨dimensionGiven, _, isParts, fun node member => ?_, rfl, rfl⟩⟩
  rcases List.mem_cons.mp member with rfl | member
  · exact ⟨rfl, (dimensionIs_iff rfl).mpr rfl⟩
  · have absent : ∀ node ∈ [dimensionGiven.lower, dimensionGiven.upper],
        LabelsPaired node ∧ node.getAttribute (ascii "srsDimension") = none := by decide
    exact ⟨(absent node member).1, dimensionIs_of_none (absent node member).2⟩

end SmartMetWfs.Xml
