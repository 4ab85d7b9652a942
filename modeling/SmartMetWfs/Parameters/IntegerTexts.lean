import SmartMetWfs.Parameters.IntegerValues

/-!
# Texts of integers in XML requests

An integer type should take the texts that are a literal of its range between blanks, and
a list the texts that are such literals with blanks between them. The extractors read the
number that a text begins with, and those of lists the one that each part between spaces
begins with. So a text is misread when something else comes after the number, when a
negative number wraps around into the range of an unsigned type, and when the items of a
list are not what stands between its spaces.
-/

namespace SmartMetWfs.Parameters

open Foundation Xml

/-- The types whose values are integers. -/
def IsIntegerType : XmlType → Prop
  | .integer _ _ | .unsignedInteger _ _ | .integerList => True
  | _ => False

/-- What is between the spaces of a list. -/
def spacedParts (content : ByteString) : List ByteString :=
  splitCompressed (isAnyOf (ascii " ")) (trimCopy content)

/-! ### What is meant -/

/-- An item is a literal of 64 bits, and stands for its number. -/
def ItemMeans (item : ByteString) (value : Value) : Prop :=
  ∃ literal : DecimalLiteral, item = literal.text ∧ IntegerKind.int.InRange literal.value ∧
    value = .int (Int64.ofInt literal.value)

/-- The values that the text of an element stands for. -/
def Means : XmlType → ByteString → List Value → Prop
  | .integer lowerLimit upperLimit, content, values =>
      ∃ literal : DecimalLiteral, trimCopy content = literal.text ∧
        (lowerLimit ≤ literal.value ∧ literal.value ≤ upperLimit) ∧
        values = [.int (Int64.ofInt literal.value)]
  | .unsignedInteger lowerLimit upperLimit, content, values =>
      ∃ literal : DecimalLiteral, trimCopy content = literal.text ∧
        (lowerLimit ≤ literal.value ∧ literal.value ≤ upperLimit) ∧
        values = [.uint (UInt64.ofNat literal.value.toNat)]
  | .integerList, content, values => List.Forall₂ ItemMeans (tokens isSpace content) values
  | _, _, _ => False

/-- An element is read as it is meant. -/
def ReadAsMeant (others : ValueConversions) (type : XmlType) (elem : Node) (content : ByteString) :
    Prop :=
  ∀ values, type.extract (standardIntegers others) elem = some values ↔ Means type content values

/-! ### What is misread -/

/-- The text begins with a number in the range. -/
def BeginsWithin (lowerLimit upperLimit : Int) (content : ByteString) : Prop :=
  ∃ negative magnitude, scanInteger content = some (negative, magnitude) ∧
    lowerLimit ≤ signedValue negative magnitude ∧ signedValue negative magnitude ≤ upperLimit

/-- Something other than white space follows the integer. -/
def IsFollowed (content : ByteString) : Prop := ∃ byte ∈ afterInteger content, isSpace byte = false

/-- The text begins with a negative number that is in the range after wrapping around. -/
def WrapsWithin (lowerLimit upperLimit : Nat) (content : ByteString) : Prop :=
  ∃ magnitude, scanInteger content = some (true, magnitude) ∧ 0 < magnitude ∧ magnitude < 2 ^ 64 ∧
    lowerLimit ≤ 2 ^ 64 - magnitude ∧ 2 ^ 64 - magnitude ≤ upperLimit

/-- Every item is an integer of 64 bits. -/
def ListsIntegers (content : ByteString) : Prop :=
  ∀ item ∈ tokens isSpace content,
    ∃ literal : DecimalLiteral, item = literal.text ∧ IntegerKind.int.InRange literal.value

/-- The texts that are read as something they do not mean. -/
def Misread : XmlType → ByteString → Prop
  | .integer lowerLimit upperLimit, content =>
      BeginsWithin lowerLimit upperLimit content ∧ IsFollowed content
  | .unsignedInteger lowerLimit upperLimit, content =>
      BeginsWithin lowerLimit upperLimit content ∧ IsFollowed content ∨
        WrapsWithin lowerLimit upperLimit content
  | .integerList, content =>
      (ListsIntegers content ∧
          ∃ part ∈ spacedParts content, (tokens isSpace part).length ≠ 1) ∨
        (¬ ListsIntegers content ∧
          ∀ part ∈ spacedParts content, BeginsWithin (-2 ^ 63) (2 ^ 63 - 1) part)
  | _, _ => False

/-! ### One integer -/

/-- The literals between blanks are the numbers with only blanks after them. -/
theorem exists_literal_iff (content : ByteString) (holds : Int → Prop) :
    (∃ literal : DecimalLiteral, trimCopy content = literal.text ∧ holds literal.value) ↔
      ∃ negative magnitude, scanInteger content = some (negative, magnitude) ∧
        ¬ IsFollowed content ∧ holds (signedValue negative magnitude) := by
  constructor
  · rintro ⟨literal, trimmed, met⟩
    obtain ⟨scanned, blank⟩ := literal.scanInteger_of_trimCopy trimmed
    refine ⟨_, _, scanned, fun ⟨byte, after, other⟩ => ?_, met⟩
    rw [blank byte after] at other
    cases other
  · rintro ⟨negative, magnitude, scanned, notFollowed, met⟩
    have blank : ∀ byte ∈ afterInteger content, isSpace byte = true := by
      intro byte after
      by_contra other
      exact notFollowed ⟨byte, after, Bool.eq_false_iff.mpr other⟩
    obtain ⟨literal, trimmed, minus, value⟩ := exists_literal_of_blank scanned blank
    refine ⟨literal, trimmed, ?_⟩
    rwa [DecimalLiteral.value, minus, value]

/-- The signed number that a text begins with. -/
theorem stol_eq_some_iff {content : ByteString} {intVal : Int64} :
    stol content = some intVal ↔
      ∃ negative magnitude, scanInteger content = some (negative, magnitude) ∧
        IntegerKind.int.InRange (signedValue negative magnitude) ∧
        intVal.toInt = signedValue negative magnitude := by
  unfold stol
  rw [Option.bind_eq_some_iff]
  constructor
  · rintro ⟨⟨negative, magnitude⟩, scanned, read⟩
    dsimp only at read
    split at read
    · next wide =>
        cases read
        exact ⟨_, _, scanned, wide, Int64.toInt_ofInt_of_le wide.1 wide.2⟩
    · cases read
  · rintro ⟨negative, magnitude, scanned, wide, value⟩
    refine ⟨_, scanned, ?_⟩
    have read : Int64.ofInt (signedValue negative magnitude) = intVal := by
      rw [← value, Int64.ofInt_toInt]
    exact (if_pos wide).trans (congrArg some read)

/-- The unsigned number that a text begins with. -/
theorem stoul_eq_some_iff {content : ByteString} {uintVal : UInt64} :
    stoul content = some uintVal ↔
      ∃ negative magnitude, scanInteger content = some (negative, magnitude) ∧ magnitude < 2 ^ 64 ∧
        uintVal.toNat = if negative ∧ 0 < magnitude then 2 ^ 64 - magnitude else magnitude := by
  unfold stoul
  rw [Option.bind_eq_some_iff]
  have wrapped : ∀ {negative : Bool} {magnitude : Nat}, magnitude < 2 ^ 64 →
      (UInt64.ofNat (if negative then 2 ^ 64 - magnitude else magnitude)).toNat =
        if negative ∧ 0 < magnitude then 2 ^ 64 - magnitude else magnitude := by
    intro negative magnitude small
    rw [UInt64.toNat_ofNat']
    cases negative with
    | false =>
        rw [if_neg Bool.false_ne_true, if_neg fun both => Bool.false_ne_true both.1]
        exact Nat.mod_eq_of_lt small
    | true =>
        rcases Nat.eq_zero_or_pos magnitude with rfl | positive
        · rfl
        · simp only [if_true, true_and, if_pos positive]
          exact Nat.mod_eq_of_lt (by omega)
  constructor
  · rintro ⟨⟨negative, magnitude⟩, scanned, read⟩
    dsimp only at read
    split at read
    · next small =>
        cases read
        exact ⟨_, _, scanned, small, wrapped small⟩
    · cases read
  · rintro ⟨negative, magnitude, scanned, small, value⟩
    refine ⟨_, scanned, ?_⟩
    rw [← wrapped small, UInt64.toNat_inj] at value
    rw [value]
    exact if_pos small

section Single

variable {others : ValueConversions} {elem : Node} {content : ByteString}

/-- A signed type takes the number that the text begins with, if it is in the range. -/
theorem integer_extract_iff (others : ValueConversions) {lowerLimit upperLimit : Int}
    (low : -2 ^ 63 ≤ lowerLimit) (high : upperLimit < 2 ^ 63)
    (text : extractText elem = some content) {values : List Value} :
    (XmlType.integer lowerLimit upperLimit).extract (standardIntegers others) elem = some values ↔
      ∃ negative magnitude, scanInteger content = some (negative, magnitude) ∧
        (lowerLimit ≤ signedValue negative magnitude ∧
          signedValue negative magnitude ≤ upperLimit) ∧
        values = [.int (Int64.ofInt (signedValue negative magnitude))] := by
  change (do
    let content ← extractText elem
    let intVal ← SmartMetWfs.stol content
    if lowerLimit ≤ intVal.toInt ∧ intVal.toInt ≤ upperLimit then pure [Value.int intVal]
      else none) = _ ↔ _
  rw [text]
  change (SmartMetWfs.stol content).bind _ = _ ↔ _
  rw [Option.bind_eq_some_iff]
  constructor
  · rintro ⟨intVal, read, checked⟩
    obtain ⟨negative, magnitude, scanned, _, value⟩ := stol_eq_some_iff.mp read
    split at checked
    · next within =>
        cases checked
        rw [value] at within
        exact ⟨negative, magnitude, scanned, within, by rw [← value, Int64.ofInt_toInt]⟩
    · cases checked
  · rintro ⟨negative, magnitude, scanned, within, rfl⟩
    have wide : IntegerKind.int.InRange (signedValue negative magnitude) := ⟨by omega, by omega⟩
    have value := Int64.toInt_ofInt_of_le wide.1 wide.2
    refine ⟨_, stol_eq_some_iff.mpr ⟨negative, magnitude, scanned, wide, value⟩, ?_⟩
    rw [value]
    exact if_pos within

/-- A signed type is read as meant unless the text is misread. -/
theorem integer_readAsMeant {lowerLimit upperLimit : Int} (low : -2 ^ 63 ≤ lowerLimit)
    (high : upperLimit < 2 ^ 63) (text : extractText elem = some content) :
    ReadAsMeant others (.integer lowerLimit upperLimit) elem content ↔
      ¬ Misread (.integer lowerLimit upperLimit) content := by
  have meant : ∀ values, Means (.integer lowerLimit upperLimit) content values ↔ _ := fun values =>
    exists_literal_iff content (fun value =>
      (lowerLimit ≤ value ∧ value ≤ upperLimit) ∧ values = [.int (Int64.ofInt value)])
  constructor
  · rintro same ⟨⟨negative, magnitude, scanned, within⟩, followed⟩
    have read := (integer_extract_iff others low high text).mpr ⟨negative, magnitude, scanned,
        within, rfl⟩
    obtain ⟨_, _, _, notFollowed, _⟩ := (meant _).mp ((same _).mp read)
    exact notFollowed followed
  · intro notMisread values
    rw [integer_extract_iff others low high text, meant]
    constructor
    · rintro ⟨negative, magnitude, scanned, within, rest⟩
      exact ⟨negative, magnitude, scanned,
        fun followed => notMisread ⟨⟨negative, magnitude, scanned, within⟩, followed⟩, within, rest⟩
    · rintro ⟨negative, magnitude, scanned, _, within, rest⟩
      exact ⟨negative, magnitude, scanned, within, rest⟩

/-- A number that is not below zero is its magnitude. -/
theorem signedValue_of_not_below {negative : Bool} {magnitude : Nat}
    (notBelow : ¬ (negative = true ∧ 0 < magnitude)) :
      signedValue negative magnitude = magnitude := by
  unfold signedValue
  split
  · next isNegative =>
      have zero : magnitude = 0 := Nat.eq_zero_of_not_pos fun positive =>
        notBelow ⟨isNegative, positive⟩
      rw [zero]
      rfl
  · rfl

/-- A number above a limit is not below zero. -/
theorem not_below_of_le_signedValue {negative : Bool} {magnitude lowerLimit : Nat}
    (least : (lowerLimit : Int) ≤ signedValue negative magnitude) :
    ¬ (negative = true ∧ 0 < magnitude) := by
  rintro ⟨rfl, positive⟩
  have below : signedValue true magnitude = -(magnitude : Int) := rfl
  omega

/-- What an unsigned type extracts from a text. -/
theorem unsignedInteger_extract_iff (others : ValueConversions) {lowerLimit upperLimit : Nat}
    (text : extractText elem = some content) {values : List Value} :
    (XmlType.unsignedInteger lowerLimit upperLimit).extract (standardIntegers others) elem =
        some values ↔
      ∃ uintVal, stoul content = some uintVal ∧
        (lowerLimit ≤ uintVal.toNat ∧ uintVal.toNat ≤ upperLimit) ∧ values = [.uint uintVal] := by
  change (do
    let content ← extractText elem
    let uintVal ← SmartMetWfs.stoul content
    if lowerLimit ≤ uintVal.toNat ∧ uintVal.toNat ≤ upperLimit then pure [Value.uint uintVal]
      else none) = _ ↔ _
  rw [text]
  change (SmartMetWfs.stoul content).bind _ = _ ↔ _
  rw [Option.bind_eq_some_iff]
  refine exists_congr fun uintVal => and_congr_right fun _ => ?_
  split
  · next within => rw [and_iff_right within, Option.pure_def, Option.some.injEq, eq_comm]
  · next outside => exact ⟨nofun, fun within => absurd within.1 outside⟩

/-- Where no negative number wraps around, the number itself is read. -/
theorem unsignedInteger_extract_of_not_below (others : ValueConversions)
    {lowerLimit upperLimit : Nat} (high : upperLimit < 2 ^ 64)
    (text : extractText elem = some content) {negative : Bool} {magnitude : Nat}
    (scanned : scanInteger content = some (negative, magnitude))
    (notBelow : ¬ (negative = true ∧ 0 < magnitude)) {values : List Value} :
    (XmlType.unsignedInteger lowerLimit upperLimit).extract (standardIntegers others) elem =
        some values ↔
      ((lowerLimit : Int) ≤ signedValue negative magnitude ∧
        signedValue negative magnitude ≤ upperLimit) ∧
        values = [.uint (UInt64.ofNat (signedValue negative magnitude).toNat)] := by
  rw [unsignedInteger_extract_iff others text, signedValue_of_not_below notBelow, Int.toNat_natCast,
    Nat.cast_le, Nat.cast_le]
  constructor
  · rintro ⟨uintVal, read, within, rfl⟩
    obtain ⟨_, _, scanned', _, value⟩ := stoul_eq_some_iff.mp read
    cases scanned.symm.trans scanned'
    rw [if_neg notBelow] at value
    rw [value] at within
    exact ⟨within, by rw [← value, UInt64.ofNat_toNat]⟩
  · rintro ⟨within, rfl⟩
    have small : magnitude < 2 ^ 64 := Nat.lt_of_le_of_lt within.2 high
    have value : (UInt64.ofNat magnitude).toNat = magnitude := UInt64.toNat_ofNat_of_lt' small
    refine ⟨_, stoul_eq_some_iff.mpr ⟨_, _, scanned, small, ?_⟩, ?_, rfl⟩
    · rw [if_neg notBelow, value]
    · rwa [value]

/-- A negative number that wraps around into the range is read. -/
theorem unsignedInteger_extract_of_below (others : ValueConversions)
    {lowerLimit upperLimit magnitude : Nat}
    (text : extractText elem = some content)
    (scanned : scanInteger content = some (true, magnitude))
    (positive : 0 < magnitude) (small : magnitude < 2 ^ 64)
    (within : lowerLimit ≤ 2 ^ 64 - magnitude ∧ 2 ^ 64 - magnitude ≤ upperLimit) :
    (XmlType.unsignedInteger lowerLimit upperLimit).extract (standardIntegers others) elem =
      some [.uint (UInt64.ofNat (2 ^ 64 - magnitude))] := by
  have value : (UInt64.ofNat (2 ^ 64 - magnitude)).toNat = 2 ^ 64 - magnitude :=
    UInt64.toNat_ofNat_of_lt' (Nat.sub_lt (Nat.two_pow_pos 64) positive)
  refine (unsignedInteger_extract_iff others text).mpr ⟨_, stoul_eq_some_iff.mpr
    ⟨true, magnitude, scanned, small, value.trans (if_pos ⟨rfl, positive⟩).symm⟩, ?_, rfl⟩
  rwa [value]

/-- An unsigned type is read as meant unless the text is misread. -/
theorem unsignedInteger_readAsMeant {lowerLimit upperLimit : Nat} (high : upperLimit < 2 ^ 64)
    (text : extractText elem = some content) :
    ReadAsMeant others (.unsignedInteger lowerLimit upperLimit) elem content ↔
      ¬ Misread (.unsignedInteger lowerLimit upperLimit) content := by
  have meant : ∀ values, Means (.unsignedInteger lowerLimit upperLimit) content values ↔ _ :=
    fun values => exists_literal_iff content (fun value =>
      ((lowerLimit : Int) ≤ value ∧ value ≤ upperLimit) ∧
        values = [.uint (UInt64.ofNat value.toNat)])
  constructor
  · rintro same (⟨⟨negative, magnitude, scanned, within⟩, followed⟩ |
      ⟨magnitude, scanned, positive, small, within⟩)
    · have notBelow := not_below_of_le_signedValue within.1
      have read := (unsignedInteger_extract_of_not_below others high text scanned notBelow).mpr
          ⟨within, rfl⟩
      obtain ⟨_, _, _, notFollowed, _⟩ := (meant _).mp ((same _).mp read)
      exact notFollowed followed
    · have read := unsignedInteger_extract_of_below others text scanned positive small within
      obtain ⟨_, _, scanned', _, least, _⟩ := (meant _).mp ((same _).mp read)
      cases scanned.symm.trans scanned'
      exact not_below_of_le_signedValue least.1 ⟨rfl, positive⟩
  · intro notMisread values
    rw [meant]
    constructor
    · intro read
      obtain ⟨uintVal, isRead, within, _⟩ := (unsignedInteger_extract_iff others text).mp read
      obtain ⟨negative, magnitude, scanned, small, value⟩ := stoul_eq_some_iff.mp isRead
      have notBelow : ¬ (negative = true ∧ 0 < magnitude) := by
        rintro ⟨rfl, positive⟩
        rw [if_pos ⟨rfl, positive⟩] at value
        rw [value] at within
        exact notMisread (.inr ⟨magnitude, scanned, positive, small, within⟩)
      have rest := (unsignedInteger_extract_of_not_below others high text scanned notBelow).mp read
      exact ⟨negative, magnitude, scanned,
        fun followed => notMisread (.inl ⟨⟨negative, magnitude, scanned, rest.1⟩, followed⟩), rest⟩
    · rintro ⟨negative, magnitude, scanned, _, rest⟩
      have notBelow := not_below_of_le_signedValue rest.1.1
      exact (unsignedInteger_extract_of_not_below others high text scanned notBelow).mpr rest

end Single

/-! ### Lists -/

/-- Separators that are compressed leave the same items. -/
theorem tokens_compressTokens {isFirst : UInt8 → Bool}
    (finer : ∀ byte, isFirst byte = true → isSpace byte = true) (before text : ByteString) :
    tokens isSpace (before ++ compressTokens isFirst text) = tokens isSpace (before ++ text) := by
  fun_induction compressTokens isFirst text generalizing before with
  | case1 => rfl
  | case2 => rfl
  | case3 byte next rest both ih =>
      rw [ih]
      obtain ⟨first, second⟩ := Bool.and_eq_true_iff.mp both
      rw [tokens_append_cons (finer next second), tokens_append_cons (finer byte first),
        tokens_cons (finer next second)]
  | case4 byte next rest notBoth ih =>
      have kept := ih (before ++ [byte])
      rwa [List.append_assoc, List.append_assoc] at kept

/-- The items of a list, part by part. -/
theorem flatMap_tokens_spacedParts (content : ByteString) :
    (spacedParts content).flatMap (tokens isSpace) = tokens isSpace content := by
  have finer : ∀ byte, isAnyOf (ascii " ") byte = true → isSpace byte = true := by
    intro byte separates
    have isBlank : byte = 32 := by simpa [isAnyOf, ascii] using separates
    rw [isBlank]
    rfl
  unfold spacedParts splitCompressed
  rw [flatMap_tokens_splitOnP finer, ← List.nil_append (compressTokens _ _),
    tokens_compressTokens finer]
  exact tokens_trim content

/-- What the extractor makes of one part. -/
def PartRead (part : ByteString) (value : Value) : Prop := (stol part).map Value.int = some value

/-- A part is read to the number it begins with. -/
theorem partRead_iff {part : ByteString} {value : Value} :
    PartRead part value ↔ ∃ negative magnitude, scanInteger part = some (negative, magnitude) ∧
      IntegerKind.int.InRange (signedValue negative magnitude) ∧
      value = .int (Int64.ofInt (signedValue negative magnitude)) := by
  unfold PartRead
  rw [Option.map_eq_some_iff]
  constructor
  · rintro ⟨intVal, read, rfl⟩
    obtain ⟨negative, magnitude, scanned, wide, number⟩ := stol_eq_some_iff.mp read
    exact ⟨negative, magnitude, scanned, wide, by rw [← number, Int64.ofInt_toInt]⟩
  · rintro ⟨negative, magnitude, scanned, wide, rfl⟩
    exact ⟨_, stol_eq_some_iff.mpr
      ⟨negative, magnitude, scanned, wide, Int64.toInt_ofInt_of_le wide.1 wide.2⟩, rfl⟩

/-- A part is read when it begins with a number of 64 bits. -/
theorem exists_partRead_iff {part : ByteString} :
    (∃ value, PartRead part value) ↔ BeginsWithin (-2 ^ 63) (2 ^ 63 - 1) part := by
  constructor
  · rintro ⟨value, read⟩
    obtain ⟨negative, magnitude, scanned, wide, _⟩ := partRead_iff.mp read
    exact ⟨negative, magnitude, scanned, wide.1, Int.le_sub_one_of_lt wide.2⟩
  · rintro ⟨negative, magnitude, scanned, least, most⟩
    exact ⟨_, partRead_iff.mpr
      ⟨negative, magnitude, scanned, ⟨least, Int.lt_of_le_sub_one most⟩, rfl⟩⟩

/-- A part that can be read is not blank. -/
theorem tokens_of_partRead {part : ByteString} {value : Value} (read : PartRead part value) :
    tokens isSpace part ≠ [] := by
  obtain ⟨negative, magnitude, scanned, _⟩ := partRead_iff.mp read
  obtain ⟨literal, split, _⟩ := exists_literal_of_scanInteger scanned
  obtain ⟨digit, rest, digits⟩ := List.exists_cons_of_ne_nil literal.nonempty
  have inDigits : digit ∈ literal.digits := digits ▸ List.mem_cons_self ..
  have inRest : digit ∈ part.dropWhile isSpace := by
    rw [split]
    exact List.mem_append_left _ (List.mem_append_right _ inDigits)
  exact tokens_ne_nil ((List.dropWhile_suffix _).subset inRest)
    (isSpace_of_isDecimalDigit (literal.decimal digit inDigits))

/-- An item is read as it is meant, also with blanks around it. -/
theorem partRead_of_itemMeans {part : ByteString} {value : Value}
    (meant : ItemMeans (trimCopy part) value) : PartRead part value := by
  obtain ⟨literal, trimmed, wide, rfl⟩ := meant
  exact partRead_iff.mpr ⟨_, _, (literal.scanInteger_of_trimCopy trimmed).1, wide, rfl⟩

/-- A literal is read to what it means. -/
theorem itemMeans_of_partRead {part : ByteString} {value : Value}
    (isLiteral : ∃ literal : DecimalLiteral, trimCopy part = literal.text ∧
      IntegerKind.int.InRange literal.value) (read : PartRead part value) :
    ItemMeans (trimCopy part) value := by
  obtain ⟨literal, trimmed, wide⟩ := isLiteral
  have meant : ItemMeans (trimCopy part) (.int (Int64.ofInt literal.value)) :=
    ⟨literal, trimmed, wide, rfl⟩
  cases Option.some.inj ((partRead_of_itemMeans meant).symm.trans read)
  exact meant

/-- What means something is a list of integers. -/
theorem exists_literal_of_means {content : ByteString} {values : List Value}
    (meant : List.Forall₂ ItemMeans (tokens isSpace content) values) : ListsIntegers content := by
  intro item inside
  obtain ⟨_, _, literal, text, wide, _⟩ := exists_of_mem_forall₂ meant inside
  exact ⟨literal, text, wide⟩

/-- Where each part is one item, they are the parts without blanks around them. -/
theorem tokens_of_single {content : ByteString}
    (single : ∀ part ∈ spacedParts content, (tokens isSpace part).length = 1) :
    tokens isSpace content = (spacedParts content).map trimCopy := by
  rw [← flatMap_tokens_spacedParts]
  refine flatMap_tokens_of_single fun part inside => ?_
  obtain ⟨item, isItem⟩ := List.length_eq_one_iff.mp (single part inside)
  rw [trim_of_tokens isItem, isItem]

/-- A list is read as meant unless the text is misread. -/
theorem integerList_readAsMeant {others : ValueConversions} {elem : Node} {content : ByteString}
    (text : extractText elem = some content) :
    ReadAsMeant others .integerList elem content ↔ ¬ Misread .integerList content := by
  have extracted :
      ∀ values, XmlType.integerList.extract (standardIntegers others) elem = some values ↔
      List.Forall₂ PartRead (spacedParts content) values := by
    intro values
    change ((listItems (ascii " ") elem).bind fun parts =>
      parts.mapM fun part => (stol part).map Value.int) = _ ↔ _
    rw [listItems, text]
    exact mapM_eq_some_iff
  constructor
  · rintro same (⟨lists, part, inside, notOne⟩ | ⟨notLists, begins⟩)
    · have each : ∀ item ∈ tokens isSpace content, ∃ value, ItemMeans item value := by
        intro item isItem
        obtain ⟨literal, isText, wide⟩ := lists item isItem
        exact ⟨_, literal, isText, wide, rfl⟩
      obtain ⟨values, meant⟩ := exists_forall₂ each
      have read := (extracted values).mp ((same values).mpr meant)
      have some : ∀ part ∈ spacedParts content, tokens isSpace part ≠ [] := by
        intro part inside
        obtain ⟨_, _, partRead⟩ := exists_of_mem_forall₂ read inside
        exact tokens_of_partRead partRead
      have count : ((spacedParts content).flatMap (tokens isSpace)).length =
          (spacedParts content).length := by
        rw [flatMap_tokens_spacedParts, meant.length_eq, read.length_eq]
      rw [tokens_eq_trim some count part inside] at notOne
      exact notOne rfl
    · obtain ⟨values, read⟩ := exists_forall₂ fun part inside =>
        exists_partRead_iff.mpr (begins part inside)
      exact notLists (exists_literal_of_means ((same values).mp ((extracted values).mpr read)))
  · intro notMisread values
    rw [extracted]
    have single_of_lists : ListsIntegers content →
        ∀ part ∈ spacedParts content, (tokens isSpace part).length = 1 := by
      intro lists part inside
      by_contra notOne
      exact notMisread (.inl ⟨lists, part, inside, notOne⟩)
    constructor
    · intro read
      have lists : ListsIntegers content := by
        by_contra notLists
        refine notMisread (.inr ⟨notLists, fun part inside => ?_⟩)
        obtain ⟨value, _, partRead⟩ := exists_of_mem_forall₂ read inside
        exact exists_partRead_iff.mp ⟨value, partRead⟩
      have items := tokens_of_single (single_of_lists lists)
      change List.Forall₂ ItemMeans (tokens isSpace content) values
      rw [items, List.forall₂_map_left_iff]
      have literals : ∀ part ∈ spacedParts content, ∃ literal : DecimalLiteral,
          trimCopy part = literal.text ∧ IntegerKind.int.InRange literal.value := fun part inside =>
        lists _ (items ▸ List.mem_map_of_mem inside)
      exact ((List.forall₂_and_left _ _).mpr ⟨literals, read⟩).imp fun _ _ both =>
        itemMeans_of_partRead both.1 both.2
    · intro meant
      change List.Forall₂ ItemMeans (tokens isSpace content) values at meant
      rw [tokens_of_single (single_of_lists (exists_literal_of_means meant)),
        List.forall₂_map_left_iff] at meant
      exact meant.imp fun _ _ => partRead_of_itemMeans

/-! ### The registered types -/

/-- The limits of a type are numbers of 64 bits. -/
def HasWidth : XmlType → Prop
  | .integer lowerLimit upperLimit => -2 ^ 63 ≤ lowerLimit ∧ upperLimit < 2 ^ 63
  | .unsignedInteger _ upperLimit => upperLimit < 2 ^ 64
  | _ => True

instance : DecidablePred HasWidth := fun type => by
  cases type <;> unfold HasWidth <;> infer_instance

/-- The registered types have limits of 64 bits. -/
theorem hasWidth_of_registered {name : ByteString} {type : XmlType}
    (registered : findType name = some type) : HasWidth type := by
  have all : ∀ entry ∈ paramExtractorMap, HasWidth entry.2 := by decide
  obtain ⟨entry, found, rfl⟩ := Option.map_eq_some_iff.mp registered
  exact all entry (List.mem_of_find?_eq_some found)

/-- A registered integer type reads the text of an element as it is meant exactly when the
text is not one of those that are misread. -/
theorem readAsMeant_iff (others : ValueConversions) {name : ByteString} {type : XmlType}
    (registered : findType name = some type) (isInteger : IsIntegerType type) {elem : Node}
    {content : ByteString} (text : extractText elem = some content) :
    ReadAsMeant others type elem content ↔ ¬ Misread type content := by
  have width := hasWidth_of_registered registered
  cases type with
  | integer => exact integer_readAsMeant width.1 width.2 text
  | unsignedInteger => exact unsignedInteger_readAsMeant width text
  | integerList => exact integerList_readAsMeant text
  | _ => exact isInteger.elim

/-- An element whose text goes on after the number. -/
def followedElement : Node := .element (ascii "count") none [] [.text (ascii "12x")]

/-- A number with a letter behind it is misread. -/
theorem readAsMeant_followedElement :
    ReadAsMeant noOthers (.integer (-2 ^ 31) (2 ^ 31 - 1)) followedElement (ascii "12x") ↔
      ¬ Misread (.integer (-2 ^ 31) (2 ^ 31 - 1)) (ascii "12x") :=
  @readAsMeant_iff noOthers (ascii "xsi:int") _ rfl trivial _ _ rfl

/-- The number is read all the same. -/
theorem followedElement_read :
    ¬ ReadAsMeant noOthers (.integer (-2 ^ 31) (2 ^ 31 - 1)) followedElement (ascii "12x") := by
  intro same
  obtain ⟨literal, trimmed, _⟩ := (same [.int 12]).mp rfl
  have blank := (literal.scanInteger_of_trimCopy trimmed).2 120 (by decide)
  cases blank

end SmartMetWfs.Parameters
