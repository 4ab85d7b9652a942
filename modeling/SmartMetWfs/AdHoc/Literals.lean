import SmartMetWfs.AdHoc.AdHocQuery
import SmartMetWfs.Foundation.Outcomes
import SmartMetWfs.Xml.Operands

/-!
# Literals in the filter expression

The text of a literal becomes an operand of the XPath comparison that is written for its
element. A text that `strtod` reads whole is taken for a number and written as it is, any
other one is put between apostrophes; a comparison that ignores letter case lowers it
first. The operand is well formed and has the literal's value exactly when the text is a
numeral of XPath, or is put between apostrophes and has none.
-/

namespace SmartMetWfs.AdHoc

open Foundation Parameters Xml

variable {ν : Type}

/-- The reader with what `strtod` does. -/
def XmlReader.withStrtod (reader : XmlReader ν) : XmlReader ν :=
  { reader with leavesRest := strtodLeavesRest }

/-- A text that can be placed in an XPath expression as a literal is. -/
def IsPlain (text : ByteString) : Prop :=
  IsNumeral text ∨ ((strtodLeavesRest text = true ∨ text = ascii "NaN") ∧ 39 ∉ text)

/-- The text as it is compared. -/
def IsText (matchCase : Bool) (text value : ByteString) : Prop :=
  value = text ∨ (matchCase = false ∧ value = asciiTolowerCopy text)

/-! ### The operand of a literal -/

/-- A numeral is read to its end, and needs no quotes. -/
theorem numeral_plain {text : ByteString} (isNumeral : IsNumeral text) :
    strtodLeavesRest text = false ∧ text ≠ ascii "NaN" ∧ 39 ∉ text := by
  have bytes := isNumeral.isNumeralByte
  refine ⟨isNumeral.strtodLeavesRest, ?_, fun apostrophe => (bytes 39 apostrophe).ne.2.1 rfl⟩
  rintro rfl
  have letter := bytes 78 (by decide)
  simp [IsNumeralByte, isBlank, isDecimalDigit] at letter

/-- A text that is no number is put into quotes. -/
theorem readLiteral_quoted (reader : XmlReader ν) {text : ByteString}
    (quoted : strtodLeavesRest text = true ∨ text = ascii "NaN") (matchCase : Bool) :
    (readLiteral reader.withStrtod text matchCase).1 =
      39 :: ((if matchCase then text else asciiTolowerCopy text) ++ [39]) := by
  have isQuoted : (reader.withStrtod.leavesRest text || decide (text = ascii "NaN")) = true := by
    rw [Bool.or_eq_true, decide_eq_true_eq]
    exact quoted
  rw [readLiteral, if_pos isQuoted]
  rfl

/-- A number is not put into quotes. -/
theorem readLiteral_unquoted (reader : XmlReader ν) {text : ByteString}
    (unquoted : ¬(strtodLeavesRest text = true ∨ text = ascii "NaN")) (matchCase : Bool) :
    (readLiteral reader.withStrtod text matchCase).1 = text := by
  have notQuoted : ¬(reader.withStrtod.leavesRest text || decide (text = ascii "NaN")) = true := by
    rw [Bool.or_eq_true, decide_eq_true_eq]
    exact unquoted
  rw [readLiteral, if_neg notQuoted]

/-- Between apostrophes there is the value, without apostrophes. -/
theorem isOperand_quoted_iff {text value : ByteString} (size : text.length = value.length) :
    IsOperand (39 :: (text ++ [39])) value ↔ 39 ∉ value ∧ text = value := by
  rw [← readQuoted_append_iff size]
  constructor
  · intro isOperand
    cases isOperand with
    | number isNumeral =>
        exact absurd rfl (isNumeral.isNumeralByte 39 List.mem_cons_self).ne.2.1
    | string _ read => exact read
  · exact .string (.inl rfl)

/-- A text that `strtod` reads whole is an operand when it is a numeral. -/
theorem isOperand_unquoted_iff {text value : ByteString} (whole : strtodLeavesRest text = false) :
    IsOperand text value ↔ IsNumeral text ∧ value = text := by
  constructor
  · intro isOperand
    cases isOperand with
    | number isNumeral => exact ⟨isNumeral, rfl⟩
    | string isQuote _ =>
        rw [strtodRest_of_quote isQuote] at whole
        cases whole
  · rintro ⟨isNumeral, rfl⟩
    exact .number isNumeral

/-- Which values the operand of a literal can have. -/
theorem isOperand_readLiteral_iff (reader : XmlReader ν) {text value : ByteString}
    (matchCase : Bool) (size : value.length = text.length) :
    IsOperand (readLiteral reader.withStrtod text matchCase).1 value ↔
      (IsNumeral text ∧ value = text) ∨
        ((strtodLeavesRest text = true ∨ text = ascii "NaN") ∧ 39 ∉ value ∧
          (if matchCase then text else asciiTolowerCopy text) = value) := by
  by_cases quoted : strtodLeavesRest text = true ∨ text = ascii "NaN"
  · have sameSize : (if matchCase then text else asciiTolowerCopy text).length = value.length := by
      rw [size]
      split
      · rfl
      · exact List.length_map _
    have notNumeral : ¬IsNumeral text := by
      intro isNumeral
      obtain ⟨whole, notNaN, _⟩ := numeral_plain isNumeral
      rw [whole] at quoted
      exact quoted.elim Bool.false_ne_true notNaN
    rw [readLiteral_quoted reader quoted, isOperand_quoted_iff sameSize]
    exact ⟨fun holds => .inr ⟨quoted, holds⟩,
      fun holds => holds.elim (fun both => absurd both.1 notNumeral) And.right⟩
  · rw [readLiteral_unquoted reader quoted]
    have whole : strtodLeavesRest text = false :=
      Bool.eq_false_iff.mpr fun rest => quoted (.inl rest)
    rw [isOperand_unquoted_iff whole]
    exact ⟨.inl, fun holds => holds.elim id fun both => absurd both.1 quoted⟩

/-- An apostrophe has no case. -/
theorem apostrophe_asciiTolowerCopy (text : ByteString) :
    39 ∈ asciiTolowerCopy text ↔ 39 ∈ text := by
  have all : ∀ byte, asciiTolower byte = 39 ↔ byte = 39 := by decide +kernel
  rw [asciiTolowerCopy, List.mem_map]
  constructor
  · rintro ⟨byte, member, same⟩
    exact (all byte).mp same ▸ member
  · exact fun member => ⟨39, member, rfl⟩

/-- The operand has the value of the literal exactly when the text is plain. -/
theorem operand_isText_iff (reader : XmlReader ν) (text : ByteString) (matchCase : Bool) :
    (∃ value, IsOperand (readLiteral reader.withStrtod text matchCase).1 value ∧
      IsText matchCase text value) ↔ IsPlain text := by
  constructor
  · rintro ⟨value, isOperand, isText⟩
    have size : value.length = text.length := by
      rcases isText with rfl | ⟨_, rfl⟩
      · rfl
      · exact List.length_map _
    rcases (isOperand_readLiteral_iff reader matchCase size).mp isOperand with
      ⟨isNumeral, _⟩ | ⟨quoted, absent, _⟩
    · exact .inl isNumeral
    · refine .inr ⟨quoted, ?_⟩
      rcases isText with rfl | ⟨_, rfl⟩
      · exact absent
      · exact fun member => absent ((apostrophe_asciiTolowerCopy text).mpr member)
  · rintro (isNumeral | ⟨quoted, absent⟩)
    · exact ⟨text, (isOperand_readLiteral_iff reader matchCase rfl).mpr (.inl ⟨isNumeral, rfl⟩),
        .inl rfl⟩
    · cases matchCase with
      | true =>
          exact ⟨text, (isOperand_readLiteral_iff reader true rfl).mpr (.inr ⟨quoted, absent, rfl⟩),
            .inl rfl⟩
      | false =>
          have absentLower : 39 ∉ asciiTolowerCopy text := fun member =>
            absent ((apostrophe_asciiTolowerCopy text).mp member)
          exact ⟨asciiTolowerCopy text, (isOperand_readLiteral_iff reader false
            (List.length_map _)).mpr (.inr ⟨quoted, absentLower, rfl⟩), .inr ⟨rfl, rfl⟩⟩

/-- The operand has the text itself as its value: letter case must not have been lowered. -/
theorem operand_text_iff (reader : XmlReader ν) (text : ByteString) (matchCase : Bool) :
    IsOperand (readLiteral reader.withStrtod text matchCase).1 text ↔
      IsPlain text ∧ (IsNumeral text ∨ matchCase = true ∨ asciiTolowerCopy text = text) := by
  rw [isOperand_readLiteral_iff reader matchCase rfl]
  constructor
  · rintro (⟨isNumeral, _⟩ | ⟨quoted, absent, same⟩)
    · exact ⟨.inl isNumeral, .inl isNumeral⟩
    · refine ⟨.inr ⟨quoted, absent⟩, .inr ?_⟩
      cases matchCase with
      | true => exact .inl rfl
      | false => exact .inr same
  · rintro ⟨isNumeral | ⟨quoted, absent⟩, kept⟩
    · exact .inl ⟨isNumeral, rfl⟩
    · rcases kept with isNumeral | rfl | same
      · exact .inl ⟨isNumeral, rfl⟩
      · exact .inr ⟨quoted, absent, rfl⟩
      · refine .inr ⟨quoted, absent, ?_⟩
        rw [same]
        exact ite_self _

/-! ### The operand in the comparison -/

/-- The number of references among children. -/
def references (children : List Element) : Nat :=
  children.countP fun child => child.elementName = ascii "fes:valuereference"

/-- No other literal follows, and no second reference. -/
structure IsLast (before after : List Element) : Prop where
  literals : ∀ child ∈ after, child.elementName ≠ ascii "fes:literal"
  references : references after = 0 ∨ references before = 0 ∧ references after ≤ 1

section

variable {reader : XmlReader ν} {matchCase : Bool}

/-- The reference of a comparison is read. -/
theorem readComparisonChild_reference {comparison : Comparison} {child : Element}
    {value : ByteString}
    (isReference : child.elementName = ascii "fes:valuereference")
    (reads : reader.readString child = some value) (first : comparison.nbOfValueReferences = 0) :
    readComparisonChild reader matchCase comparison child =
      .ok { comparison with
        nbOfValueReferences := 1
        reference := (readValueReference value).1
        isReferenceAttribute := (readValueReference value).2 } := by
  unfold readComparisonChild
  rw [reads]
  simp only [isReference, first, if_true]
  rfl

/-- Other children of a comparison are passed over. -/
theorem readComparisonChild_other {comparison : Comparison} {child : Element} {value : ByteString}
    (notReference : child.elementName ≠ ascii "fes:valuereference")
    (notLiteral : child.elementName ≠ ascii "fes:literal")
    (reads : reader.readString child = some value) :
    readComparisonChild reader matchCase comparison child = .ok comparison := by
  unfold readComparisonChild
  rw [reads]
  simp only [notReference, notLiteral, if_false]

/-- The literal of a comparison is read. -/
theorem readComparisonChild_literal {comparison : Comparison} {child : Element} {text : ByteString}
    (isLiteral : child.elementName = ascii "fes:literal")
    (reads : reader.readString child = some text) :
    readComparisonChild reader matchCase comparison child =
      .ok { comparison with
        limitValue := (readLiteral reader text matchCase).1
        isValueString := comparison.isValueString || (readLiteral reader text matchCase).2 } := by
  have notReference : ¬ascii "fes:literal" = ascii "fes:valuereference" := by decide
  unfold readComparisonChild
  rw [reads]
  simp only [isLiteral, notReference, if_false, if_true]

/-- The first child counts if it is a reference. -/
theorem references_cons (child : Element) (children : List Element) :
    references (child :: children) = references children +
      if child.elementName = ascii "fes:valuereference" then 1 else 0 := by
  rw [references, List.countP_cons]
  simp only [decide_eq_true_eq]
  rfl

/-- A child that has been read has a text. -/
theorem readString_of_ok {comparison result : Comparison} {child : Element}
    (ran : readComparisonChild reader matchCase comparison child = .ok result) :
    ∃ value, reader.readString child = some value := by
  unfold readComparisonChild at ran
  split at ran
  · cases ran
  · next value reads => exact ⟨value, reads⟩

/-- Without references the count of them stays. -/
theorem nbOfValueReferences_foldlM {children : List Element} {comparison result : Comparison}
    (ran : children.foldlM (readComparisonChild reader matchCase) comparison = .ok result)
    (none : references children = 0) :
    result.nbOfValueReferences = comparison.nbOfValueReferences := by
  induction children generalizing comparison with
  | nil =>
      cases ran
      rfl
  | cons child children ih =>
      rw [List.foldlM_cons] at ran
      obtain ⟨next, first, rest⟩ := ok_of_bind ran
      obtain ⟨value, reads⟩ := readString_of_ok first
      rw [references_cons] at none
      have notReference : child.elementName ≠ ascii "fes:valuereference" := by
        intro isReference
        rw [if_pos isReference] at none
        omega
      rw [ih rest (by omega)]
      by_cases isLiteral : child.elementName = ascii "fes:literal"
      · rw [readComparisonChild_literal isLiteral reads] at first
        cases first
        rfl
      · rw [readComparisonChild_other notReference isLiteral reads] at first
        cases first
        rfl

/-- The limit value stays while no literal follows and no second reference. -/
theorem limitValue_foldlM {children : List Element} {comparison result : Comparison}
    (ran : children.foldlM (readComparisonChild reader matchCase) comparison = .ok result)
    (literals : ∀ child ∈ children, child.elementName ≠ ascii "fes:literal")
    (few : references children = 0 ∨
      comparison.nbOfValueReferences = 0 ∧ references children ≤ 1) :
    result.limitValue = comparison.limitValue := by
  induction children generalizing comparison with
  | nil =>
      cases ran
      rfl
  | cons child children ih =>
      rw [List.foldlM_cons] at ran
      obtain ⟨next, first, rest⟩ := ok_of_bind ran
      obtain ⟨value, reads⟩ := readString_of_ok first
      obtain ⟨notLiteral, literalsRest⟩ := List.forall_mem_cons.mp literals
      rw [references_cons] at few
      by_cases isReference : child.elementName = ascii "fes:valuereference"
      · rw [if_pos isReference] at few
        have unread : comparison.nbOfValueReferences = 0 := by
          rcases few with none | ⟨unread, _⟩
          · omega
          · exact unread
        rw [readComparisonChild_reference isReference reads unread] at first
        cases first
        have kept := ih rest literalsRest (.inl (by omega))
        exact kept
      · rw [if_neg isReference] at few
        rw [readComparisonChild_other isReference notLiteral reads] at first
        cases first
        exact ih rest literalsRest few

/-- The limit value of a comparison is the operand of its last literal. -/
theorem limitValue_of_last {before after : List Element} {literal : Element} {text : ByteString}
    {result : Comparison} (isLiteral : literal.elementName = ascii "fes:literal")
    (reads : reader.readString literal = some text) (last : IsLast before after)
    (ran : (before ++ literal :: after).foldlM (readComparisonChild reader matchCase) .start =
      .ok result) :
    result.limitValue = (readLiteral reader text matchCase).1 := by
  rw [List.foldlM_append] at ran
  obtain ⟨atLiteral, readBefore, readRest⟩ := ok_of_bind ran
  rw [List.foldlM_cons, readComparisonChild_literal isLiteral reads] at readRest
  have few := last.references.imp id fun both =>
    And.intro (nbOfValueReferences_foldlM readBefore both.1) both.2
  exact limitValue_foldlM readRest last.literals few

end

/-- How an operand stands in a condition: as it is, or as the argument of a function. -/
def Stands (operand limitValue : ByteString) : Prop :=
  limitValue = operand ∨ limitValue = numberOf operand ∨ limitValue = lowerCaseOf operand

/-- A comparison that is accepted has a reference and a literal. -/
theorem readComparisonOperation_ok {reader : XmlReader ν} {element : Element}
    {condition : ByteString}
    (accepted : readComparisonOperation reader element = .ok condition) :
    ∃ comparison reference limitValue,
      (element.children.filter fun child => child.namespaceUri = fesNamespaceUri).foldlM
        (readComparisonChild reader (readMatchCase element)) .start = .ok comparison ∧
      Stands comparison.limitValue limitValue ∧
      condition = matchFilterExpression (readMatchAction element) reference
        (getComparisonOperation element.elementName) limitValue := by
  obtain ⟨comparison, ran, rest⟩ := ok_of_bind accepted
  dsimp only at rest
  split at rest
  · exact ⟨comparison, _, _, ran, .inr (.inl rfl), (Except.ok.inj rest).symm⟩
  · split at rest
    · refine ⟨comparison, _, _, ran, ?_, (Except.ok.inj rest).symm⟩
      dsimp only
      split
      · exact .inr (.inr rfl)
      · exact .inl rfl
    · exact ⟨comparison, _, _, ran, .inl rfl, (Except.ok.inj rest).symm⟩

/-- The operand for the text of a literal in a comparison element. -/
def literalOperand (reader : XmlReader ν) (element : Element) (text : ByteString) : ByteString :=
  (readLiteral reader.withStrtod text (readMatchCase element)).1

/-- An accepted literal stands in the condition as an operand, and this is well formed and
has the value of the literal exactly when the text is plain; letter case is kept unless
the comparison ignores it. -/
theorem literalOperand_iff (reader : XmlReader ν) {element literal : Element}
    {before after : List Element} {text condition : ByteString}
    (children : (element.children.filter fun child => child.namespaceUri = fesNamespaceUri) =
      before ++ literal :: after)
    (isLiteral : literal.elementName = ascii "fes:literal")
    (reads : reader.readString literal = some text) (last : IsLast before after)
    (accepted : readComparisonOperation reader.withStrtod element = .ok condition) :
    (∃ reference limitValue, Stands (literalOperand reader element text) limitValue ∧
      condition = matchFilterExpression (readMatchAction element) reference
        (getComparisonOperation element.elementName) limitValue) ∧
    ((∃ value, IsOperand (literalOperand reader element text) value ∧
      IsText (readMatchCase element) text value) ↔ IsPlain text) ∧
    (IsOperand (literalOperand reader element text) text ↔ IsPlain text ∧
      (IsNumeral text ∨ readMatchCase element = true ∨ asciiTolowerCopy text = text)) := by
  obtain ⟨comparison, reference, limitValue, ran, stands, isCondition⟩ :=
    readComparisonOperation_ok accepted
  rw [children] at ran
  have readsToo : reader.withStrtod.readString literal = some text := reads
  have isLimit := limitValue_of_last isLiteral readsToo last ran
  rw [isLimit] at stands
  exact ⟨⟨reference, limitValue, stands, isCondition⟩,
    operand_isText_iff reader text (readMatchCase element),
    operand_text_iff reader text (readMatchCase element)⟩

/-! ### A name in a comparison -/

/-- A comparison of a property with a literal. -/
def nameComparison (literal : ByteString) : Element :=
  .mk (ascii "fes:PropertyIsEqualTo") (ascii "PropertyIsEqualTo") fesNamespaceUri [] []
    [.mk (ascii "fes:ValueReference") (ascii "ValueReference") fesNamespaceUri [] (ascii "name") [],
      .mk (ascii "fes:Literal") (ascii "Literal") fesNamespaceUri [] literal []]

/-- A reader of the texts of elements. -/
def elementReader : XmlReader Nat where
  readEnvelope _ := none
  readDateTime _ := none
  readString
    | .mk _ _ _ _ text _ => some text
  checkLimits _ _ _ := true
  leavesRest _ := false

/-- The name stands in the condition as a string. -/
theorem literalOperand_ofName :
    (∃ reference limitValue,
      Stands (literalOperand elementReader (nameComparison (ascii "Oulu")) (ascii "Oulu"))
        limitValue ∧
      ascii "descendant::name = 'Oulu'" = matchFilterExpression .any reference (ascii "=")
        limitValue) ∧
    ((∃ value,
      IsOperand (literalOperand elementReader (nameComparison (ascii "Oulu")) (ascii "Oulu"))
        value ∧ IsText true (ascii "Oulu") value) ↔ IsPlain (ascii "Oulu")) ∧
    (IsOperand (literalOperand elementReader (nameComparison (ascii "Oulu")) (ascii "Oulu"))
      (ascii "Oulu") ↔ IsPlain (ascii "Oulu") ∧
        (IsNumeral (ascii "Oulu") ∨ true = true ∨ asciiTolowerCopy (ascii "Oulu") =
          ascii "Oulu")) := by
  have last : IsLast [.mk (ascii "fes:ValueReference") (ascii "ValueReference") fesNamespaceUri []
      (ascii "name") []] [] := ⟨nofun, .inl rfl⟩
  exact @literalOperand_iff _ elementReader (nameComparison (ascii "Oulu"))
    (.mk (ascii "fes:Literal") (ascii "Literal") fesNamespaceUri [] (ascii "Oulu") []) _ [] _ _
    rfl (by decide) rfl last rfl

/-- An apostrophe ends the string literal, and what follows becomes a part of the expression. -/
theorem apostrophe_endsLiteral :
    readComparisonOperation elementReader.withStrtod (nameComparison (ascii "x' or 'a'='a")) =
      .ok (ascii "descendant::name = 'x' or 'a'='a'") ∧
    literalOperand elementReader (nameComparison (ascii "x' or 'a'='a")) (ascii "x' or 'a'='a") =
      ascii "'x' or 'a'='a'" ∧
    ¬∃ value, IsOperand (ascii "'x' or 'a'='a'") value := by
  refine ⟨rfl, rfl, ?_⟩
  rintro ⟨value, isOperand⟩
  have opened : ascii "'x' or 'a'='a'" = 39 :: ascii "x' or 'a'='a'" := rfl
  have notRead : readQuoted 39 (ascii "x' or 'a'='a'") = none := by decide
  rw [opened] at isOperand
  cases isOperand with
  | number isNumeral => exact absurd rfl (isNumeral.isNumeralByte 39 List.mem_cons_self).ne.2.1
  | string _ read =>
      rw [notRead] at read
      cases read

end SmartMetWfs.AdHoc
