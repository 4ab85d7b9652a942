import SmartMetWfs.Foundation.PrefixCode
import SmartMetWfs.Xml.Numerals

/-!
# Operands of XPath comparisons

An operand is a number or a string literal. A string literal stands between quotes, and a
quote within it is doubled. A number is written in decimal digits, perhaps with a point and
an exponent. `strtod` reads such a number whole, but it reads others as well: numbers in
hexadecimal digits, the names of infinity and of what is not a number.
-/

namespace SmartMetWfs.Xml

/-! ### The grammar -/

/-- White space of XML. -/
def isBlank (byte : UInt8) : Bool := byte = 32 || byte = 9 || byte = 10 || byte = 13

/-- Digits with a point before, between or after them, or none. -/
inductive IsMantissa : ByteString → Prop
  | whole {digits : ByteString} : digits ≠ [] → (∀ digit ∈ digits, isDecimalDigit digit = true) →
      IsMantissa digits
  | point {whole fraction : ByteString} : whole ++ fraction ≠ [] →
      (∀ digit ∈ whole, isDecimalDigit digit = true) →
      (∀ digit ∈ fraction, isDecimalDigit digit = true) → IsMantissa (whole ++ 46 :: fraction)

/-- An exponent with its mark and digits, or none. -/
inductive IsExponent : ByteString → Prop
  | none : IsExponent []
  | some {mark : UInt8} (sign : Sign) {digits : ByteString} : mark = 101 ∨ mark = 69 →
      digits ≠ [] → (∀ digit ∈ digits, isDecimalDigit digit = true) →
      IsExponent (mark :: (sign.text ++ digits))

/-- A numeric literal, perhaps with blanks and a sign before it. -/
inductive IsNumeral : ByteString → Prop
  | mk {blanks : ByteString} (sign : Sign) {mantissa exponent : ByteString} :
      (∀ byte ∈ blanks, isBlank byte = true) → IsMantissa mantissa → IsExponent exponent →
      IsNumeral (blanks ++ (sign.text ++ (mantissa ++ exponent)))

/-- What stands between the opening quote, which has been read, and the closing one at the
end of the text. A doubled quote stands for one. -/
def readQuoted (quote : UInt8) : ByteString → Option ByteString
  | [] => none
  | [byte] => if byte = quote then some [] else none
  | byte :: next :: rest =>
      if byte ≠ quote then (readQuoted quote (next :: rest)).map (byte :: ·)
      else if next = quote then (readQuoted quote rest).map (quote :: ·)
      else none

/-- The first text is an operand whose value is the second: a number stands for itself. -/
inductive IsOperand : ByteString → ByteString → Prop
  | number {numeral : ByteString} : IsNumeral numeral → IsOperand numeral numeral
  | string {quote : UInt8} {body content : ByteString} : quote = 39 ∨ quote = 34 →
      readQuoted quote body = some content → IsOperand (quote :: body) content

/-! ### `strtod` -/

/-- Whether a byte is a hexadecimal digit. -/
def isHexadecimalDigit (byte : UInt8) : Bool :=
  isDecimalDigit byte || decide (65 ≤ byte ∧ byte ≤ 70) || decide (97 ≤ byte ∧ byte ≤ 102)

/-- What follows the digits, with a point or without, that a text begins with. -/
def skipMantissa (isDigit : UInt8 → Bool) (text : ByteString) : Option ByteString :=
  match text.dropWhile isDigit with
  | 46 :: fraction =>
      if text.takeWhile isDigit = [] ∧ fraction.takeWhile isDigit = [] then none
      else some (fraction.dropWhile isDigit)
  | rest => if text.takeWhile isDigit = [] then none else some rest

/-- What follows the exponent that a text begins with, if it does. -/
def skipExponent (small capital : UInt8) : ByteString → ByteString
  | [] => []
  | mark :: rest =>
      let digits := (readSign rest).2
      if (mark = small ∨ mark = capital) ∧ digits.takeWhile isDecimalDigit ≠ [] then
        digits.dropWhile isDecimalDigit
      else mark :: rest

/-- A decimal number: mantissa and exponent. -/
def skipDecimal (text : ByteString) : Option ByteString :=
  (skipMantissa isDecimalDigit text).map (skipExponent 101 69)

/-- A hexadecimal number after its prefix. -/
def skipHexadecimal : ByteString → Option ByteString
  | 48 :: mark :: rest =>
      if mark = 120 ∨ mark = 88 then
        (skipMantissa isHexadecimalDigit rest).map (skipExponent 112 80)
      else none
  | _ => none

/-- What follows a word, in any letter case. -/
def skipWord (word text : ByteString) : Option ByteString :=
  if asciiTolowerCopy (text.take word.length) = word then some (text.drop word.length) else none

/-- What follows the characters in parentheses after `nan`. -/
def skipPayload : ByteString → ByteString
  | 40 :: rest =>
      match rest.dropWhile fun byte => isAsciiLetter byte || isDecimalDigit byte || byte = 95 with
      | 41 :: after => after
      | _ => 40 :: rest
  | text => text

/-- What `strtod` leaves of a text: all of it when it begins with no number. -/
def strtodRest (text : ByteString) : ByteString :=
  let body := (readSign (text.dropWhile isSpace)).2
  (skipWord (ascii "infinity") body <|> skipWord (ascii "inf") body <|>
    (skipWord (ascii "nan") body).map skipPayload <|> skipHexadecimal body <|>
      skipDecimal body).getD text

/-- `strtod` leaves something of a C string, which ends before the first zero. -/
def strtodLeavesRest (text : ByteString) : Bool := strtodRest (text.takeWhile (· ≠ 0)) ≠ []

/-! ### String literals -/

/-- The text with every quote doubled. -/
def doubleQuotes (quote : UInt8) (content : ByteString) : ByteString :=
  content.flatMap fun byte => if byte = quote then [quote, quote] else [byte]

/-- A text without quotes is not changed. -/
theorem doubleQuotes_of_notMem {quote : UInt8} {content : ByteString} (absent : quote ∉ content) :
    doubleQuotes quote content = content := by
  refine (List.flatMap_congr fun byte member => ?_).trans (List.flatMap_singleton' content)
  refine if_neg ?_
  rintro rfl
  exact absent member

theorem length_doubleQuotes (quote : UInt8) (content : ByteString) :
    (doubleQuotes quote content).length = content.length + content.count quote := by
  induction content with
  | nil => rfl
  | cons byte content ih =>
      rw [doubleQuotes, List.flatMap_cons, List.length_append]
      change _ + (doubleQuotes quote content).length = _
      rw [ih]
      by_cases isQuote : byte = quote
      · rw [if_pos isQuote, isQuote, List.count_cons_self]
        simp only [List.length_cons, List.length_nil]
        omega
      · rw [if_neg isQuote, List.count_cons_of_ne isQuote]
        simp only [List.length_cons, List.length_nil]
        omega

/-- A string literal has every quote of its content doubled. -/
theorem readQuoted_eq_some {quote : UInt8} {text content : ByteString}
    (read : readQuoted quote text = some content) :
      text = doubleQuotes quote content ++ [quote] := by
  induction text using readQuoted.induct quote generalizing content with
  | case1 => cases read
  | case2 =>
      rw [readQuoted, if_pos rfl] at read
      cases read
      rfl
  | case3 byte other =>
      rw [readQuoted, if_neg other] at read
      cases read
  | case4 byte next rest other ih =>
      rw [readQuoted, if_pos other] at read
      obtain ⟨inner, readInner, rfl⟩ := Option.map_eq_some_iff.mp read
      rw [doubleQuotes, List.flatMap_cons, if_neg other, ih readInner]
      rfl
  | case5 byte rest isQuote ih =>
      rw [readQuoted, if_neg isQuote, if_pos rfl] at read
      obtain ⟨inner, readInner, rfl⟩ := Option.map_eq_some_iff.mp read
      rw [doubleQuotes, List.flatMap_cons, if_pos rfl, ih readInner, not_not.mp isQuote]
      rfl
  | case6 byte next rest isQuote single =>
      rw [readQuoted, if_neg isQuote, if_neg single] at read
      cases read

/-- A text without quotes is read back. -/
theorem readQuoted_append {quote : UInt8} {text : ByteString} (absent : quote ∉ text) :
    readQuoted quote (text ++ [quote]) = some text := by
  induction text with
  | nil => exact if_pos rfl
  | cons byte text ih =>
      rw [List.mem_cons, not_or] at absent
      have inner := ih absent.2
      obtain ⟨next, rest, split⟩ := List.exists_cons_of_ne_nil (show text ++ [quote] ≠ [] by simp)
      rw [split] at inner
      rw [List.cons_append, split, readQuoted, if_pos (Ne.symm absent.1), inner]
      rfl

/-- A text that has been put between quotes is read as a text of its length only when that
has no quote and is the same. -/
theorem readQuoted_append_iff {quote : UInt8} {text content : ByteString}
    (size : text.length = content.length) :
    readQuoted quote (text ++ [quote]) = some content ↔ quote ∉ content ∧ text = content := by
  constructor
  · intro read
    have doubled := List.append_cancel_right (readQuoted_eq_some read)
    have length := length_doubleQuotes quote content
    rw [← doubled, size] at length
    have absent : quote ∉ content := List.count_eq_zero.mp (by omega)
    exact ⟨absent, doubled.trans (doubleQuotes_of_notMem absent)⟩
  · rintro ⟨absent, rfl⟩
    exact readQuoted_append absent

/-! ### What `strtod` reads whole -/

/-- A word does not begin with another letter. -/
theorem skipWord_of_head {word : ByteString} {letter : UInt8} {text : ByteString}
    (first : ∀ byte ∈ text.head?, asciiTolower byte ≠ letter) :
      skipWord (letter :: word) text = none := by
  refine if_neg fun same => ?_
  cases text with
  | nil => cases same
  | cons byte text => exact first byte rfl (List.cons.inj same).1

/-- The first byte of a number after its sign. -/
def IsNumberStart (byte : UInt8) : Prop := isDecimalDigit byte = true ∨ byte = 46

/-- What begins a number begins neither a word nor a sign, and is no white space. -/
theorem IsNumberStart.no_word {byte : UInt8} (isStart : IsNumberStart byte) :
    asciiTolower byte ≠ 105 ∧ asciiTolower byte ≠ 110 ∧ isSpace byte = false ∧ byte ≠ 43 ∧
      byte ≠ 45 ∧ byte ≠ 0 := by
  unfold IsNumberStart at isStart
  revert byte
  decide +kernel

/-- A text that begins like no number is left whole. -/
theorem strtodRest_of_quote {quote : UInt8} (isQuote : quote = 39 ∨ quote = 34)
    (text : ByteString) :
    strtodLeavesRest (quote :: text) = true := by
  have kept : (quote :: text).takeWhile (· ≠ 0) = quote :: text.takeWhile (· ≠ 0) := by
    rcases isQuote with rfl | rfl <;> rfl
  have none : strtodRest (quote :: text.takeWhile (· ≠ 0)) = quote :: text.takeWhile (· ≠ 0) := by
    rcases isQuote with rfl | rfl <;> rfl
  rw [strtodLeavesRest, kept, none]
  rfl

/-- The sign before a text without sign is read. -/
theorem readSign_text (sign : Sign) {body : ByteString}
    (unsigned : ∀ byte ∈ body.head?, byte ≠ 43 ∧ byte ≠ 45) :
    (readSign (sign.text ++ body)).2 = body := by
  cases sign with
  | plus => rfl
  | minus => rfl
  | none =>
      change (readSign body).2 = body
      unfold readSign
      split
      · exact absurd rfl (unsigned 45 rfl).2
      · exact absurd rfl (unsigned 43 rfl).1
      · rfl

theorem skipMantissa_append {mantissa rest : ByteString} (isMantissa : IsMantissa mantissa)
    (stops : ∀ byte ∈ rest.head?, isDecimalDigit byte = false ∧ byte ≠ 46) :
    skipMantissa isDecimalDigit (mantissa ++ rest) = some rest := by
  have noDigit : ∀ byte ∈ rest.head?, isDecimalDigit byte = false := fun byte first =>
    (stops byte first).1
  unfold skipMantissa
  cases isMantissa with
  | whole some all =>
      obtain ⟨taken, dropped⟩ := Foundation.span_word all noDigit
      rw [taken, dropped]
      split
      · exact absurd rfl (stops 46 rfl).2
      · exact if_neg some
  | @point whole fraction some allWhole allFraction =>
      have stopsAtPoint :
          ∀ byte ∈ (46 :: (fraction ++ rest)).head?, isDecimalDigit byte = false := by
        intro byte first
        cases first
        rfl
      rw [List.append_assoc, List.cons_append]
      obtain ⟨takenWhole, droppedWhole⟩ := Foundation.span_word allWhole stopsAtPoint
      obtain ⟨takenFraction, droppedFraction⟩ := Foundation.span_word allFraction noDigit
      rw [takenWhole, droppedWhole]
      simp only [takenFraction, droppedFraction]
      exact if_neg fun none => some (by rw [none.1, none.2]; rfl)

/-- An exponent is skipped as a whole. -/
theorem skipExponent_self {exponent : ByteString} (isExponent : IsExponent exponent) :
    skipExponent 101 69 exponent = [] := by
  cases isExponent with
  | none => rfl
  | @some mark sign digits isMark nonempty all =>
      have unsigned : ∀ byte ∈ digits.head?, byte ≠ 43 ∧ byte ≠ 45 := by
        intro byte first
        have isStart := IsNumberStart.no_word (.inl (all byte (List.mem_of_mem_head? first)))
        exact ⟨isStart.2.2.2.1, isStart.2.2.2.2.1⟩
      have taken : digits.takeWhile isDecimalDigit = digits := List.takeWhile_eq_self_iff.mpr all
      have dropped : digits.dropWhile isDecimalDigit = [] := List.dropWhile_eq_nil_iff.mpr all
      unfold skipExponent
      simp only [readSign_text sign unsigned, taken, dropped]
      exact if_pos ⟨isMark, nonempty⟩

/-- An exponent cannot belong to the mantissa before it. -/
theorem IsExponent.stops {exponent : ByteString} (isExponent : IsExponent exponent) :
    ∀ byte ∈ exponent.head?, isDecimalDigit byte = false ∧ byte ≠ 46 := by
  cases isExponent with
  | none => exact nofun
  | some sign isMark nonempty all =>
      intro byte first
      cases first
      rcases isMark with rfl | rfl <;> decide

/-- A mantissa begins with a digit or a point. -/
theorem IsMantissa.start {mantissa : ByteString} (isMantissa : IsMantissa mantissa) :
    ∃ byte rest, mantissa = byte :: rest ∧ IsNumberStart byte := by
  cases isMantissa with
  | whole some all =>
      obtain ⟨byte, rest, rfl⟩ := List.exists_cons_of_ne_nil some
      exact ⟨byte, rest, rfl, .inl (all byte List.mem_cons_self)⟩
  | @point whole fraction some allWhole allFraction =>
      cases whole with
      | nil => exact ⟨46, fraction, rfl, .inr rfl⟩
      | cons byte rest =>
        exact ⟨byte, rest ++ 46 :: fraction, rfl, .inl (allWhole byte List.mem_cons_self)⟩

/-- The bytes that numerals are made of. -/
def IsNumeralByte (byte : UInt8) : Prop :=
  isBlank byte = true ∨ isDecimalDigit byte = true ∨ byte = 43 ∨ byte = 45 ∨ byte = 46 ∨
    byte = 101 ∨ byte = 69

/-- No byte of a numeral is a quote or the mark of a hexadecimal number. -/
theorem IsNumeralByte.ne {byte : UInt8} (isByte : IsNumeralByte byte) :
    byte ≠ 0 ∧ byte ≠ 39 ∧ byte ≠ 88 ∧ byte ≠ 120 := by
  refine ⟨?_, ?_, ?_, ?_⟩ <;> rintro rfl <;> simp [IsNumeralByte, isBlank, isDecimalDigit] at isByte

/-- A sign consists of bytes of a numeral. -/
theorem isNumeralByte_sign (sign : Sign) : ∀ byte ∈ sign.text, IsNumeralByte byte := by
  intro byte member
  cases sign with
  | none => cases member
  | plus => exact .inr (.inr (.inl (List.mem_singleton.mp member)))
  | minus => exact .inr (.inr (.inr (.inl (List.mem_singleton.mp member))))

/-- A mantissa consists of bytes of a numeral. -/
theorem IsMantissa.isNumeralByte {mantissa : ByteString} (isMantissa : IsMantissa mantissa) :
    ∀ byte ∈ mantissa, IsNumeralByte byte := by
  intro byte member
  cases isMantissa with
  | whole some all => exact .inr (.inl (all byte member))
  | point some allWhole allFraction =>
      rcases List.mem_append.mp member with inWhole | inRest
      · exact .inr (.inl (allWhole byte inWhole))
      · rcases List.mem_cons.mp inRest with isPoint | inFraction
        · exact .inr (.inr (.inr (.inr (.inl isPoint))))
        · exact .inr (.inl (allFraction byte inFraction))

/-- An exponent consists of bytes of a numeral. -/
theorem IsExponent.isNumeralByte {exponent : ByteString} (isExponent : IsExponent exponent) :
    ∀ byte ∈ exponent, IsNumeralByte byte := by
  intro byte member
  cases isExponent with
  | none => cases member
  | some sign isMark nonempty all =>
      rcases List.mem_cons.mp member with rfl | inRest
      · exact .inr (.inr (.inr (.inr (.inr isMark))))
      · rcases List.mem_append.mp inRest with inSign | inDigits
        · exact isNumeralByte_sign sign byte inSign
        · exact .inr (.inl (all byte inDigits))

/-- A numeral consists of such bytes. -/
theorem IsNumeral.isNumeralByte {numeral : ByteString} (isNumeral : IsNumeral numeral) :
    ∀ byte ∈ numeral, IsNumeralByte byte := by
  obtain ⟨sign, blanks, isMantissa, isExponent⟩ := isNumeral
  intro byte member
  rcases List.mem_append.mp member with inBlanks | inRest
  · exact .inl (blanks byte inBlanks)
  · rcases List.mem_append.mp inRest with inSign | inNumber
    · exact isNumeralByte_sign sign byte inSign
    · rcases List.mem_append.mp inNumber with inMantissa | inExponent
      · exact isMantissa.isNumeralByte byte inMantissa
      · exact isExponent.isNumeralByte byte inExponent

/-- Without the mark there is no hexadecimal number. -/
theorem skipHexadecimal_of_notMem {text : ByteString} (small : 120 ∉ text) (capital : 88 ∉ text) :
    skipHexadecimal text = none := by
  unfold skipHexadecimal
  split
  · next mark rest =>
      refine if_neg ?_
      rintro (rfl | rfl)
      · exact small (List.mem_cons_of_mem _ List.mem_cons_self)
      · exact capital (List.mem_cons_of_mem _ List.mem_cons_self)
  · rfl

/-- `strtod` reads a numeral whole. -/
theorem IsNumeral.strtodLeavesRest {numeral : ByteString} (isNumeral : IsNumeral numeral) :
    strtodLeavesRest numeral = false := by
  have bytes := isNumeral.isNumeralByte
  have whole : numeral.takeWhile (· ≠ 0) = numeral :=
    List.takeWhile_eq_self_iff.mpr fun byte member => decide_eq_true (bytes byte member).ne.1
  obtain @⟨blanks, sign, mantissa, exponent, areBlank, isMantissa, isExponent⟩ := isNumeral
  obtain ⟨first, rest, split, isStart⟩ := isMantissa.start
  obtain ⟨notI, notN, notSpace, notPlus, notMinus, _⟩ := isStart.no_word
  have afterBlanks :
      ∀ byte ∈ (sign.text ++ (mantissa ++ exponent)).head?, isSpace byte = false := by
    intro byte isFirst
    rw [split] at isFirst
    cases sign with
    | none =>
        cases isFirst
        exact notSpace
    | plus =>
        cases isFirst
        rfl
    | minus =>
        cases isFirst
        rfl
  have spaces : ∀ byte ∈ blanks, isSpace byte = true := by
    have all : ∀ byte, isBlank byte = true → isSpace byte = true := by decide +kernel
    exact fun byte member => all byte (areBlank byte member)
  have unsigned : ∀ byte ∈ (mantissa ++ exponent).head?, byte ≠ 43 ∧ byte ≠ 45 := by
    intro byte isFirst
    rw [split] at isFirst
    cases isFirst
    exact ⟨notPlus, notMinus⟩
  have noWord : ∀ {letter : UInt8} (word : ByteString), asciiTolower first ≠ letter →
      skipWord (letter :: word) (mantissa ++ exponent) = none := by
    intro letter word other
    refine skipWord_of_head fun byte isFirst => ?_
    rw [split] at isFirst
    cases isFirst
    exact other
  have noMark : ∀ byte ∈ mantissa ++ exponent, byte ≠ 88 ∧ byte ≠ 120 := fun byte member =>
    (bytes byte (List.mem_append_right _ (List.mem_append_right _ member))).ne.2.2
  have noHexadecimal : skipHexadecimal (mantissa ++ exponent) = none :=
    skipHexadecimal_of_notMem (fun member => (noMark 120 member).2 rfl)
      fun member => (noMark 88 member).1 rfl
  have decimal : skipDecimal (mantissa ++ exponent) = some [] := by
    rw [skipDecimal, skipMantissa_append isMantissa isExponent.stops, Option.map_some,
      skipExponent_self isExponent]
  rw [Xml.strtodLeavesRest, whole, strtodRest, (Foundation.span_word spaces afterBlanks).2,
    readSign_text sign unsigned]
  change decide (Option.getD (skipWord (105 :: _) _ <|> skipWord (105 :: _) _ <|>
    Option.map skipPayload (skipWord (110 :: _) _) <|> _ <|> _) _ ≠ []) = false
  rw [noWord _ notI, noWord _ notI, noWord _ notN, noHexadecimal, decimal]
  rfl

end SmartMetWfs.Xml
