import SmartMetWfs.Core.Decimal
import SmartMetWfs.Handlers.ItemDefinitions
import SmartMetWfs.Parameters.StoredQueryConfig

/-!
# Definitions of parameter types

`StoredQueryParamDef::parse_def` reads the type of a parameter from the configuration: the name
of a type, for an array with its size or the least and the greatest of its sizes in brackets.
White space may stand anywhere between the tokens. `dump` writes a definition. What is accepted
is exactly what the grammar describes, and what is written is read back, apart from the types
that `dump` has no name for.
-/

namespace SmartMetWfs.Parameters

open Handlers Xml

/-! ### Reading -/

/-- `qi::string(word)`: what follows it. -/
def readWord (word src : ByteString) : Option ByteString := word.isPrefixOf? (skipSpaces src)

/-- `type_p`, in the order in which the names are tried. -/
def typeNames : List (ByteString × ValueType) :=
  [(ascii "string", .string), (ascii "integer", .int), (ascii "int", .int), (ascii "uint", .uint),
    (ascii "double", .double), (ascii "time", .time), (ascii "bool", .bool),
    (ascii "point", .point), (ascii "bbox", .bbox)]

/-- The type whose name comes next. -/
def readType (src : ByteString) : Option (ValueType × ByteString) :=
  typeNames.findSome? fun item => (readWord item.1 src).map fun rest => (item.2, rest)

/-- The greatest size, if there are two dots, else that which has been read. -/
def readMaxSize (minSize : Nat) (src : ByteString) : Nat × ByteString :=
  ((readWord (ascii "..") src).bind readUInt).getD (minSize, src)

/-- `array_dim_p`. -/
def readArrayDim (src : ByteString) : Option (Nat × Nat × ByteString) := do
  let (minSize, src) ← readUInt (← readChar 91 src)
  let (maxSize, src) := readMaxSize minSize src
  return (minSize, maxSize, ← readChar 93 src)

namespace StoredQueryParamDef

/-- `param_p` up to the end of the text. -/
def readParam (desc : ByteString) : Option (StoredQueryParamDef × ByteString) :=
  (readType desc).map fun (valueType, src) =>
    match readArrayDim src with
    | some (minSize, maxSize, src) => (⟨valueType, true, minSize, maxSize⟩, src)
    | none => (⟨valueType, false, 1, 1⟩, src)

/-- The call of `qi::phrase_parse`: the text has to end after the definition. -/
def readDefinition (desc : ByteString) : Option StoredQueryParamDef :=
  (readParam desc).bind fun (paramDef, src) => if skipSpaces src = [] then some paramDef else none

/-- The message for a text that is no definition. -/
def unreadable (desc : ByteString) : ByteString :=
  ascii "Failed top parse parameter type specification '" ++ desc ++ ascii "'!"

/-- The message for sizes that are not in order. -/
def invalidSize (desc : ByteString) : ByteString :=
  ascii "Invalid array size specification in '" ++ desc ++ ascii "'!"

/-- `parse_def`. -/
def parseDef (desc : ByteString) : Except ByteString StoredQueryParamDef :=
  match readDefinition desc with
  | none => .error (unreadable desc)
  | some paramDef =>
      if paramDef.isArray = true ∧ paramDef.maxSize < paramDef.minSize then
        .error (invalidSize desc)
      else .ok paramDef

end StoredQueryParamDef

/-! ### Writing -/

/-- The names that `dump` has for types. -/
def ValueType.dumpName : ValueType → ByteString
  | .string => ascii "string"
  | .int => ascii "int"
  | .uint => ascii "uint"
  | .double => ascii "double"
  | .time => ascii "time"
  | .bool => ascii "bool"
  | .undefined | .point | .bbox => ascii "?"

namespace StoredQueryParamDef

/-- The sizes as they are dumped. -/
def dumpSizes (paramDef : StoredQueryParamDef) : ByteString :=
  ascii "[" ++ decimal paramDef.minSize ++
    (if paramDef.maxSize = paramDef.minSize then [] else ascii ".." ++ decimal paramDef.maxSize) ++
    ascii "]"

/-- `dump`. -/
def dump (paramDef : StoredQueryParamDef) : ByteString :=
  paramDef.valueType.dumpName ++ if paramDef.isArray then paramDef.dumpSizes else []

end StoredQueryParamDef

/-! ### The grammar -/

/-- White space and the text, and what comes after it. -/
def Spaced (text src rest : ByteString) : Prop :=
  ∃ blanks : ByteString, (∀ byte ∈ blanks, isSpace byte = true) ∧ src = blanks ++ (text ++ rest)

/-- Digits of a number of 32 bits. -/
def NumberText (number : Nat) (src rest : ByteString) : Prop :=
  ∃ digits : ByteString, digits ≠ [] ∧ (∀ byte ∈ digits, isDecimalDigit byte = true) ∧
    digitsValue digits = number ∧ number < 2 ^ 32 ∧ Spaced digits src rest

/-- Sizes in brackets. -/
inductive SizesText (src rest : ByteString) : Nat → Nat → Prop
  | one {size : Nat} {first second : ByteString} (opens : Spaced (ascii "[") src first)
      (number : NumberText size first second) (closes : Spaced (ascii "]") second rest) :
      SizesText src rest size size
  | range {minSize maxSize : Nat} {first second third fourth : ByteString}
      (opens : Spaced (ascii "[") src first) (least : NumberText minSize first second)
      (dots : Spaced (ascii "..") second third) (greatest : NumberText maxSize third fourth)
      (closes : Spaced (ascii "]") fourth rest) : SizesText src rest minSize maxSize

/-- The text spells the definition. -/
inductive DefinitionText (desc : ByteString) : StoredQueryParamDef → Prop
  | scalar {word rest : ByteString} {valueType : ValueType} (known : (word, valueType) ∈ typeNames)
      (name : Spaced word desc rest) (blank : ∀ byte ∈ rest, isSpace byte = true) :
      DefinitionText desc ⟨valueType, false, 1, 1⟩
  | array {word first rest : ByteString} {valueType : ValueType} {minSize maxSize : Nat}
      (known : (word, valueType) ∈ typeNames) (name : Spaced word desc first)
      (sizes : SizesText first rest minSize maxSize)
      (blank : ∀ byte ∈ rest, isSpace byte = true) :
      DefinitionText desc ⟨valueType, true, minSize, maxSize⟩

/-! ### Tokens -/

theorem skipSpaces_append {blanks text : ByteString} (blank : ∀ byte ∈ blanks, isSpace byte = true)
    (begins : ∀ byte ∈ text.head?, isSpace byte = false) : skipSpaces (blanks ++ text) = text := by
  rw [skipSpaces, List.dropWhile_append_of_pos blank]
  cases text with
  | nil => rfl
  | cons byte text =>
      have solid := begins byte rfl
      simp [solid]

/-- What is skipped are blanks. -/
theorem exists_blanks (src : ByteString) : ∃ blanks : ByteString,
    (∀ byte ∈ blanks, isSpace byte = true) ∧ src = blanks ++ skipSpaces src :=
  ⟨src.takeWhile isSpace, fun _ member => List.mem_takeWhile_imp member,
    List.takeWhile_append_dropWhile.symm⟩

/-- Everything is skipped when there are blanks only. -/
theorem skipSpaces_eq_nil {src : ByteString} :
    skipSpaces src = [] ↔ ∀ byte ∈ src, isSpace byte = true :=
  List.dropWhile_eq_nil_iff

/-- A word is taken off the text that begins with it. -/
theorem isPrefixOf?_eq_some {word text rest : ByteString} :
    word.isPrefixOf? text = some rest ↔ text = word ++ rest := by
  induction word generalizing text with
  | nil => simp [List.isPrefixOf?, eq_comm]
  | cons byte word ih =>
      cases text with
      | nil => simp [List.isPrefixOf?]
      | cons first text =>
          by_cases same : byte = first
          · simp [List.isPrefixOf?, same, ih]
          · simp [List.isPrefixOf?, same, Ne.symm same]

/-- A token that begins with no white space. -/
theorem readWord_iff {word src rest : ByteString} (solid : ∃ byte, word.head? = some byte ∧
    isSpace byte = false) : readWord word src = some rest ↔ Spaced word src rest := by
  rw [readWord, isPrefixOf?_eq_some]
  constructor
  · intro follows
    obtain ⟨blanks, blank, split⟩ := exists_blanks src
    rw [follows] at split
    exact ⟨blanks, blank, split⟩
  · rintro ⟨blanks, blank, rfl⟩
    apply skipSpaces_append blank
    obtain ⟨first, isFirst, notSpace⟩ := solid
    intro byte member
    rw [List.head?_append, isFirst] at member
    cases member
    exact notSpace

/-- A character is read after blanks. -/
theorem readChar_iff {char : UInt8} {src rest : ByteString} (solid : isSpace char = false) :
    readChar char src = some rest ↔ Spaced [char] src rest := by
  rw [← readWord_iff ⟨char, rfl, solid⟩, readWord, isPrefixOf?_eq_some, readChar]
  cases skipSpaces src with
  | nil => simp
  | cons first text =>
      by_cases same : first = char
      · simp [same]
      · simp [same]

/-- The text begins with no digit. -/
def EndsNumber (rest : ByteString) : Prop := ∀ byte ∈ rest.head?, isDecimalDigit byte = false

/-- What is no digit ends a number, with blanks or without. -/
theorem endsNumber_of_spaced {char : UInt8} {word src rest : ByteString}
    (spaced : Spaced (char :: word) src rest) (noDigit : isDecimalDigit char = false) :
    EndsNumber src := by
  obtain ⟨blanks, blank, rfl⟩ := spaced
  intro byte member
  cases blanks with
  | nil =>
      cases member
      exact noDigit
  | cons first blanks =>
      have same : first = byte := Option.some.inj member
      have isBlank := blank first List.mem_cons_self
      rw [same] at isBlank
      apply Bool.eq_false_of_not_eq_true
      intro isDigit
      rw [isSpace_of_isDecimalDigit isDigit] at isBlank
      cases isBlank

/-- A number is read up to its last digit. -/
theorem readUInt_of_numberText {number : Nat} {src rest : ByteString}
    (spelled : NumberText number src rest) (ends : EndsNumber rest) :
    readUInt src = some (number, rest) := by
  obtain ⟨digits, nonempty, areDigits, rfl, small, blanks, blank, rfl⟩ := spelled
  have begins : ∀ byte ∈ (digits ++ rest).head?, isSpace byte = false := by
    intro byte member
    obtain ⟨first, others, rfl⟩ := List.exists_cons_of_ne_nil nonempty
    have same : first = byte := Option.some.inj member
    rw [← same]
    exact isSpace_of_isDecimalDigit (areDigits first List.mem_cons_self)
  have taken : (digits ++ rest).takeWhile isDecimalDigit = digits := by
    rw [List.takeWhile_append_of_pos areDigits]
    cases rest with
    | nil => simp
    | cons byte rest => simp [ends byte rfl]
  have left : (digits ++ rest).dropWhile isDecimalDigit = rest := by
    rw [List.dropWhile_append_of_pos areDigits]
    cases rest with
    | nil => rfl
    | cons byte rest => simp [ends byte rfl]
  rw [readUInt, skipSpaces_append blank begins, taken, left,
    if_neg (not_or.mpr ⟨nonempty, not_le.mpr small⟩)]

/-- A number that is read is written there. -/
theorem numberText_of_readUInt {number : Nat} {src rest : ByteString}
    (ran : readUInt src = some (number, rest)) : NumberText number src rest := by
  rw [readUInt] at ran
  split at ran
  · cases ran
  · next fits =>
      cases ran
      obtain ⟨nonempty, small⟩ := not_or.mp fits
      obtain ⟨blanks, blank, split⟩ := exists_blanks src
      refine ⟨_, nonempty, fun _ member => List.mem_takeWhile_imp member, rfl, not_le.mp small,
        blanks, blank, ?_⟩
      rw [List.takeWhile_append_dropWhile]
      exact split

/-! ### Types -/

/-- The text does not go on with the letter in which `integer` is longer than `int`. -/
def EndsName (rest : ByteString) : Prop := ∀ byte ∈ rest.head?, byte ≠ 101

/-- The name of a type does not begin with a blank. -/
theorem solid_of_mem_typeNames {word : ByteString} {valueType : ValueType}
    (known : (word, valueType) ∈ typeNames) :
    ∃ byte, word.head? = some byte ∧ isSpace byte = false := by
  have all : ∀ item ∈ typeNames, ∃ byte, item.1.head? = some byte ∧ isSpace byte = false := by
    decide
  exact all _ known

/-- A type that is read has its name there. -/
theorem spaced_of_readType {valueType : ValueType} {src rest : ByteString}
    (ran : readType src = some (valueType, rest)) :
    ∃ word, (word, valueType) ∈ typeNames ∧ Spaced word src rest := by
  obtain ⟨⟨word, named⟩, known, found⟩ := List.exists_of_findSome?_eq_some ran
  obtain ⟨left, follows, same⟩ := Option.map_eq_some_iff.mp found
  cases same
  exact ⟨word, known, (readWord_iff (solid_of_mem_typeNames known)).mp follows⟩

/-- The name of a type is read where it ends. -/
theorem readType_of_spaced {word src rest : ByteString} {valueType : ValueType}
    (known : (word, valueType) ∈ typeNames) (name : Spaced word src rest) (ends : EndsName rest) :
    readType src = some (valueType, rest) := by
  have text : skipSpaces src = word ++ rest :=
    isPrefixOf?_eq_some.mp ((readWord_iff (solid_of_mem_typeNames known)).mpr name)
  simp only [readType, readWord, text]
  simp only [typeNames, List.mem_cons, Prod.mk.injEq, List.not_mem_nil, or_false] at known
  rcases known with ⟨rfl, rfl⟩ | ⟨rfl, rfl⟩ | ⟨rfl, rfl⟩ | ⟨rfl, rfl⟩ | ⟨rfl, rfl⟩ | ⟨rfl, rfl⟩ |
    ⟨rfl, rfl⟩ | ⟨rfl, rfl⟩ | ⟨rfl, rfl⟩
  case inr.inr.inl =>
    cases rest with
    | nil => rfl
    | cons byte rest =>
        have other : (101 == byte) = false := beq_eq_false_iff_ne.mpr (ends byte rfl).symm
        simp [typeNames, ascii, List.isPrefixOf?, other]
  all_goals rfl

/-! ### Sizes -/

/-- Sizes are read when they are written there. -/
theorem readArrayDim_iff {src rest : ByteString} {minSize maxSize : Nat} :
    readArrayDim src = some (minSize, maxSize, rest) ↔ SizesText src rest minSize maxSize := by
  constructor
  · intro ran
    simp only [readArrayDim, Option.bind_eq_bind, Option.bind_eq_some_iff] at ran
    obtain ⟨first, opens, ⟨least, second⟩, number, last, closes, same⟩ := ran
    cases same
    have opened := (readChar_iff (by decide)).mp opens
    have spelled := numberText_of_readUInt number
    cases found : (readWord (ascii "..") second).bind readUInt with
    | none =>
        rw [readMaxSize, found, Option.getD_none] at closes ⊢
        exact .one opened spelled ((readChar_iff (by decide)).mp closes)
    | some read =>
        rw [readMaxSize, found, Option.getD_some] at closes ⊢
        obtain ⟨third, dots, greatest⟩ := Option.bind_eq_some_iff.mp found
        exact .range opened spelled ((readWord_iff ⟨46, rfl, by decide⟩).mp dots)
          (numberText_of_readUInt greatest) ((readChar_iff (by decide)).mp closes)
  · intro sizes
    cases sizes with
    | @one first second opens number closes =>
        have opened : readChar 91 src = some first := (readChar_iff (by decide)).mpr opens
        have closed : readChar 93 second = some rest := (readChar_iff (by decide)).mpr closes
        have counted := readUInt_of_numberText number (endsNumber_of_spaced closes (by decide))
        have noDots : readWord (ascii "..") second = none := by
          rw [readWord, isPrefixOf?_eq_some.mp ((readWord_iff ⟨93, rfl, by decide⟩).mpr closes)]
          rfl
        have unread : readMaxSize minSize second = (minSize, second) := by
          rw [readMaxSize, noDots, Option.bind_none, Option.getD_none]
        simp [readArrayDim, opened, counted, unread, closed]
    | @range _ first second third fourth opens least dots greatest closes =>
        have opened : readChar 91 src = some first := (readChar_iff (by decide)).mpr opens
        have closed : readChar 93 fourth = some rest := (readChar_iff (by decide)).mpr closes
        have counted := readUInt_of_numberText least (endsNumber_of_spaced dots (by decide))
        have last := readUInt_of_numberText greatest (endsNumber_of_spaced closes (by decide))
        have dotted : readWord (ascii "..") second = some third :=
          (readWord_iff ⟨46, rfl, by decide⟩).mpr dots
        have read : readMaxSize minSize second = (maxSize, fourth) := by
          rw [readMaxSize, dotted, Option.bind_some, last, Option.getD_some]
        simp [readArrayDim, opened, counted, read, closed]

/-- Blanks end a name. -/
theorem endsName_of_blank {rest : ByteString} (blank : ∀ byte ∈ rest, isSpace byte = true) :
    EndsName rest := by
  rintro byte member rfl
  have isBlank := blank _ (List.mem_of_mem_head? member)
  cases isBlank

/-- Sizes begin with a bracket. -/
theorem SizesText.opens {src rest : ByteString} {minSize maxSize : Nat}
    (sizes : SizesText src rest minSize maxSize) : ∃ first, Spaced (ascii "[") src first := by
  cases sizes with
  | one opens => exact ⟨_, opens⟩
  | range opens => exact ⟨_, opens⟩

/-- Sizes end the name before them. -/
theorem SizesText.endsName {src rest : ByteString} {minSize maxSize : Nat}
    (sizes : SizesText src rest minSize maxSize) : EndsName src := by
  obtain ⟨first, blanks, blank, rfl⟩ := sizes.opens
  intro byte member
  cases blanks with
  | nil =>
      cases member
      decide
  | cons head blanks =>
      exact endsName_of_blank blank byte member

/-! ### Definitions -/

namespace StoredQueryParamDef

/-- A definition that is read is written there. -/
theorem definitionText_of_readDefinition {desc : ByteString} {paramDef : StoredQueryParamDef}
    (parsed : readDefinition desc = some paramDef) : DefinitionText desc paramDef := by
  obtain ⟨⟨found, src⟩, ran, ended⟩ := Option.bind_eq_some_iff.mp parsed
  obtain ⟨⟨valueType, first⟩, typed, same⟩ := Option.map_eq_some_iff.mp ran
  obtain ⟨word, known, name⟩ := spaced_of_readType typed
  dsimp only at same ended
  split_ifs at ended with left
  have blank := skipSpaces_eq_nil.mp left
  cases ended
  split at same
  · next minSize maxSize rest sizes =>
      cases same
      exact .array known name (readArrayDim_iff.mp sizes) blank
  · cases same
    exact .scalar known name blank

/-- A definition that is written there is read. -/
theorem readDefinition_of_definitionText {desc : ByteString} {paramDef : StoredQueryParamDef}
    (spelled : DefinitionText desc paramDef) : readDefinition desc = some paramDef := by
  cases spelled with
  | @scalar word rest valueType known name blank =>
      have noSizes : readArrayDim rest = none := by
        rw [readArrayDim, readChar, skipSpaces_eq_nil.mpr blank]
        rfl
      have typed := readType_of_spaced known name (endsName_of_blank blank)
      simp [readDefinition, readParam, typed, noSizes, skipSpaces_eq_nil.mpr blank]
  | @array word first rest valueType minSize maxSize known name sizes blank =>
      have typed := readType_of_spaced known name sizes.endsName
      have counted := readArrayDim_iff.mpr sizes
      simp [readDefinition, readParam, typed, counted, skipSpaces_eq_nil.mpr blank]

/-- A definition is read exactly when it is written there. -/
theorem readDefinition_iff {desc : ByteString} {paramDef : StoredQueryParamDef} :
    readDefinition desc = some paramDef ↔ DefinitionText desc paramDef :=
  ⟨definitionText_of_readDefinition, readDefinition_of_definitionText⟩

/-- A type without sizes counts as one value, so only the sizes of an array can be disordered. -/
theorem isArray_of_disordered {desc : ByteString} {paramDef : StoredQueryParamDef}
    (spelled : DefinitionText desc paramDef) (disordered : paramDef.maxSize < paramDef.minSize) :
    paramDef.isArray = true := by
  cases spelled with
  | scalar => cases Nat.lt_irrefl 1 disordered
  | array => rfl

/-- A definition whose sizes are in order is accepted. -/
theorem parseDef_of_ordered {desc : ByteString} {paramDef : StoredQueryParamDef}
    (spelled : DefinitionText desc paramDef) (ordered : paramDef.minSize ≤ paramDef.maxSize) :
    parseDef desc = .ok paramDef := by
  simp [parseDef, readDefinition_iff.mpr spelled, ordered]

/-- A definition whose sizes are not in order is refused. -/
theorem parseDef_of_disordered {desc : ByteString} {paramDef : StoredQueryParamDef}
    (spelled : DefinitionText desc paramDef) (disordered : paramDef.maxSize < paramDef.minSize) :
    parseDef desc = .error (invalidSize desc) := by
  have isArray := isArray_of_disordered spelled disordered
  simp [parseDef, readDefinition_iff.mpr spelled, isArray, disordered]

/-- A text that is no definition is refused. -/
theorem parseDef_of_not_spelled {desc : ByteString}
    (noText : ¬∃ paramDef, DefinitionText desc paramDef) :
    parseDef desc = .error (unreadable desc) := by
  cases read : readDefinition desc with
  | none => rw [parseDef, read]
  | some paramDef => exact absurd ⟨paramDef, readDefinition_iff.mp read⟩ noText

/-- The two refusals have different messages. -/
theorem unreadable_ne_invalidSize (desc : ByteString) : unreadable desc ≠ invalidSize desc := by
  intro same
  have heads := congrArg List.head? same
  cases heads

/-- What is accepted is a definition whose sizes are in order. -/
theorem spelled_of_parseDef {desc : ByteString} {paramDef : StoredQueryParamDef}
    (parsed : parseDef desc = .ok paramDef) :
    DefinitionText desc paramDef ∧ paramDef.minSize ≤ paramDef.maxSize := by
  by_cases text : ∃ spelled, DefinitionText desc spelled
  · obtain ⟨spelledDef, spelled⟩ := text
    obtain ordered | disordered := le_or_gt spelledDef.minSize spelledDef.maxSize
    · rw [parseDef_of_ordered spelled ordered] at parsed
      cases parsed
      exact ⟨spelled, ordered⟩
    · rw [parseDef_of_disordered spelled disordered] at parsed
      cases parsed
  · rw [parseDef_of_not_spelled text] at parsed
    cases parsed

/-- `parse_def` accepts the texts of the grammar whose sizes are in order, each with the
definition that it spells. Sizes out of order and texts outside the grammar have their own
errors. -/
theorem parseDef_spec (desc : ByteString) :
    (∀ paramDef, parseDef desc = .ok paramDef ↔
      DefinitionText desc paramDef ∧ paramDef.minSize ≤ paramDef.maxSize) ∧
    (parseDef desc = .error (invalidSize desc) ↔
      ∃ paramDef, DefinitionText desc paramDef ∧ paramDef.maxSize < paramDef.minSize) ∧
    (parseDef desc = .error (unreadable desc) ↔ ¬∃ paramDef, DefinitionText desc paramDef) := by
  refine ⟨fun paramDef => ⟨spelled_of_parseDef, fun text => parseDef_of_ordered text.1 text.2⟩,
    ⟨fun failed => ?_, fun ⟨_, spelled, less⟩ => parseDef_of_disordered spelled less⟩,
    ⟨fun failed => ?_, parseDef_of_not_spelled⟩⟩
  · by_contra noOrder
    by_cases text : ∃ paramDef, DefinitionText desc paramDef
    · obtain ⟨paramDef, spelled⟩ := text
      have ordered := not_lt.mp fun less => noOrder ⟨paramDef, spelled, less⟩
      rw [parseDef_of_ordered spelled ordered] at failed
      cases failed
    · rw [parseDef_of_not_spelled text] at failed
      exact unreadable_ne_invalidSize desc (Except.error.inj failed)
  · rintro ⟨paramDef, spelled⟩
    obtain ordered | disordered := le_or_gt paramDef.minSize paramDef.maxSize
    · rw [parseDef_of_ordered spelled ordered] at failed
      cases failed
    · rw [parseDef_of_disordered spelled disordered] at failed
      exact unreadable_ne_invalidSize desc (Except.error.inj failed).symm

example : parseDef (ascii " integer [ 2 .. 5 ] ") = .ok ⟨.int, true, 2, 5⟩ := rfl

example : parseDef (ascii "int[1...99]") = .error (unreadable (ascii "int[1...99]")) := rfl

end StoredQueryParamDef

/-! ### What is written -/

theorem Spaced.of_append (text rest : ByteString) : Spaced text (text ++ rest) rest :=
  ⟨[], List.forall_mem_nil _, rfl⟩

/-- Sizes have 32 bits. -/
theorem SizesText.bound {src rest : ByteString} {minSize maxSize : Nat}
    (sizes : SizesText src rest minSize maxSize) : maxSize < 2 ^ 32 := by
  cases sizes with
  | one opens number =>
      obtain ⟨digits, nonempty, areDigits, value, small, spaced⟩ := number
      exact small
  | range opens least dots greatest =>
      obtain ⟨digits, nonempty, areDigits, value, small, spaced⟩ := greatest
      exact small

/-- A numeral has the value it was written for. -/
theorem digitsValue_decimal (number : Nat) : digitsValue (decimal number) = number := by
  have back := ofDigitChars_decimal number
  rw [Nat.ofDigitChars_eq_foldl, List.foldl_map] at back
  have same : ∀ byte : UInt8, (Char.ofNat byte.toNat).toNat = byte.toNat := by decide +kernel
  simp only [same] at back
  exact back

/-- A numeral consists of digits. -/
theorem isDecimalDigit_of_mem_decimal {number : Nat} {byte : UInt8}
    (member : byte ∈ decimal number) : isDecimalDigit byte = true := by
  have range := decimal_digit member
  rw [isDecimalDigit, decide_eq_true_eq, UInt8.le_iff_toNat_le, UInt8.le_iff_toNat_le]
  exact range

/-- A numeral of 32 bits is a number. -/
theorem numberText_decimal {number : Nat} (small : number < 2 ^ 32) (rest : ByteString) :
    NumberText number (decimal number ++ rest) rest := by
  have nonempty : decimal number ≠ [] := by simp [decimal, Nat.toDigits_ne_nil]
  exact ⟨decimal number, nonempty, fun byte => isDecimalDigit_of_mem_decimal,
    digitsValue_decimal number, small, .of_append _ _⟩

namespace StoredQueryParamDef

/-- What a text of the configuration can define. -/
structure WellFormed (paramDef : StoredQueryParamDef) : Prop where
  typed : paramDef.valueType ≠ .undefined
  scalar : paramDef.isArray = false → paramDef.minSize = 1 ∧ paramDef.maxSize = 1
  ordered : paramDef.minSize ≤ paramDef.maxSize
  bound : paramDef.isArray = true → paramDef.maxSize < 2 ^ 32

/-- The names are those of proper types. -/
theorem typed_of_mem_typeNames {word : ByteString} {valueType : ValueType}
    (known : (word, valueType) ∈ typeNames) : valueType ≠ .undefined := by
  have all : ∀ item ∈ typeNames, item.2 ≠ .undefined := by decide
  exact all _ known

/-- What is accepted is well formed. -/
theorem wellFormed_of_parseDef {desc : ByteString} {paramDef : StoredQueryParamDef}
    (parsed : parseDef desc = .ok paramDef) : paramDef.WellFormed := by
  obtain ⟨spelled, ordered⟩ := spelled_of_parseDef parsed
  cases spelled with
  | scalar known =>
      refine ⟨typed_of_mem_typeNames known, fun _ => ⟨rfl, rfl⟩, ordered, ?_⟩
      intro isArray
      cases isArray
  | array known name sizes =>
      refine ⟨typed_of_mem_typeNames known, ?_, ordered, fun _ => sizes.bound⟩
      intro isScalar
      cases isScalar

/-- The sizes that are dumped can be read. -/
theorem sizesText_dumpSizes {paramDef : StoredQueryParamDef}
    (ordered : paramDef.minSize ≤ paramDef.maxSize) (small : paramDef.maxSize < 2 ^ 32) :
    SizesText paramDef.dumpSizes [] paramDef.minSize paramDef.maxSize := by
  have smaller := ordered.trans_lt small
  obtain ⟨valueType, isArray, minSize, maxSize⟩ := paramDef
  by_cases same : maxSize = minSize
  · subst same
    rw [dumpSizes, if_pos rfl, List.append_nil, List.append_assoc]
    exact .one (.of_append _ _) (numberText_decimal small _) (.of_append (ascii "]") [])
  · rw [dumpSizes, if_neg same]
    simp only [List.append_assoc]
    exact .range (.of_append _ _) (numberText_decimal smaller _) (.of_append _ _)
      (numberText_decimal small _) (.of_append (ascii "]") [])

/-- A name of the type and then the sizes as `dump` writes them. -/
theorem definitionText_of_wellFormed {paramDef : StoredQueryParamDef} (formed : paramDef.WellFormed)
    {word : ByteString} (known : (word, paramDef.valueType) ∈ typeNames) :
    DefinitionText (word ++ if paramDef.isArray then paramDef.dumpSizes else []) paramDef := by
  obtain ⟨valueType, isArray, minSize, maxSize⟩ := paramDef
  cases isArray with
  | false =>
      obtain ⟨rfl, rfl⟩ := formed.scalar rfl
      exact .scalar known (.of_append word []) (List.forall_mem_nil _)
  | true =>
      have sizes := sizesText_dumpSizes formed.ordered (formed.bound rfl)
      exact .array known (.of_append word _) sizes (List.forall_mem_nil _)

/-- Every proper type has a name. -/
theorem exists_mem_typeNames {valueType : ValueType} (typed : valueType ≠ .undefined) :
    ∃ word, (word, valueType) ∈ typeNames := by
  cases valueType <;> simp [typeNames] at typed ⊢

/-- The definitions that some text of the configuration has. -/
theorem parseDef_range {paramDef : StoredQueryParamDef} :
    (∃ desc, parseDef desc = .ok paramDef) ↔ paramDef.WellFormed := by
  constructor
  · rintro ⟨desc, parsed⟩
    exact wellFormed_of_parseDef parsed
  · intro formed
    obtain ⟨word, known⟩ := exists_mem_typeNames formed.typed
    have spelled := definitionText_of_wellFormed formed known
    exact ⟨_, parseDef_of_ordered spelled formed.ordered⟩

/-- A definition that is written without the name of its type cannot be read. -/
theorem parseDef_unnamed {paramDef : StoredQueryParamDef}
    (unnamed : paramDef.valueType.dumpName = ascii "?") :
    parseDef paramDef.dump = .error (unreadable paramDef.dump) := by
  have untyped : readType paramDef.dump = none := by
    rw [dump, unnamed]
    rfl
  simp [parseDef, readDefinition, readParam, untyped]

/-- The name that is dumped is that of the type. -/
theorem mem_typeNames_dumpName {valueType : ValueType} (typed : valueType ≠ .undefined)
    (noPoint : valueType ≠ .point) (noBox : valueType ≠ .bbox) :
    (valueType.dumpName, valueType) ∈ typeNames := by
  cases valueType <;> simp [typeNames, ValueType.dumpName] at typed noPoint noBox ⊢

/-- What `dump` writes is read back exactly when the type has a name there. -/
theorem parseDef_dump_iff {paramDef : StoredQueryParamDef} :
    parseDef paramDef.dump = .ok paramDef ↔
      paramDef.WellFormed ∧ paramDef.valueType ≠ .point ∧ paramDef.valueType ≠ .bbox := by
  constructor
  · intro parsed
    have named : paramDef.valueType.dumpName ≠ ascii "?" := by
      intro unnamed
      rw [parseDef_unnamed unnamed] at parsed
      cases parsed
    refine ⟨wellFormed_of_parseDef parsed, ?_, ?_⟩
    · intro isPoint
      exact named (by rw [isPoint, ValueType.dumpName])
    · intro isBox
      exact named (by rw [isBox, ValueType.dumpName])
  · rintro ⟨formed, noPoint, noBox⟩
    have known := mem_typeNames_dumpName formed.typed noPoint noBox
    exact parseDef_of_ordered (definitionText_of_wellFormed formed known) formed.ordered

end StoredQueryParamDef

end SmartMetWfs.Parameters
