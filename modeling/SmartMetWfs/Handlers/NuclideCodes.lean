import SmartMetWfs.Foundation.PrefixCode
import SmartMetWfs.Foundation.SkippedItems
import SmartMetWfs.Foundation.Tokens
import SmartMetWfs.Xml.Numerals

/-!
# Nuclide codes

`prepareNuclide` trims a parameter, rewrites the letter case by position and tries the result
against a grammar. The grammar skips white space between its parts, and its number has sixteen
bits: `Cs - 137` is a code to it, and `U-99999` is not. What is accepted are the codes of such
numbers with blanks anywhere but between the digits, and the blanks are kept.
-/

namespace SmartMetWfs.Handlers.AirNuclide

open Foundation Xml

/-- `qi::upper` -/
def isUpper (byte : UInt8) : Bool := decide (65 ≤ byte ∧ byte ≤ 90)

/-- `qi::lower` -/
def isLower (byte : UInt8) : Bool := decide (97 ≤ byte ∧ byte ≤ 122)

/-- Whether a byte is a hyphen. -/
def isHyphen (byte : UInt8) : Bool := byte = 45

/-- `qi::ushort_` -/
def readUShort (src : ByteString) : Option ByteString :=
  let src := src.dropWhile isSpace
  let digits := src.takeWhile isDecimalDigit
  if digits = [] ∨ 2 ^ 16 ≤ digitsValue digits then none else some (src.dropWhile isDecimalDigit)

/-- `phrase_parse` of `upper >> *lower >> char_('-') >> ushort_ >> (upper | eps)`: what is left. -/
def parseNuclide (src : ByteString) : Option ByteString := do
  let src ← readItem isSpace isUpper src
  let src ← readItem isSpace isHyphen (readItems isSpace isLower src)
  let src ← readUShort src
  return ((readItem isSpace isUpper src).getD src).dropWhile isSpace

/-- The details, the exception code and the nuclide code of an exception. -/
structure NuclideFault where
  detail : ByteString
  exceptionCode : ByteString
  nuclideCode : ByteString
  deriving DecidableEq

/-- The exception code is the name of the macro here. -/
def tooShort (out : ByteString) : NuclideFault :=
  ⟨ascii "Too short nuclide code. Minimum length is 3.", ascii "WFS_INVALID_PARAMETER_VALUE", out⟩

/-- The refusal of a code that is too long. -/
def tooLong (out : ByteString) : NuclideFault :=
  ⟨ascii "Too long nuclide code. Maximum length is 8.", ascii "InvalidParameterValue", out⟩

/-- The refusal of a code that cannot be read. -/
def unrecognized (out : ByteString) : NuclideFault :=
  ⟨ascii "Unrecognized nuclide code.", ascii "InvalidParameterValue", out⟩

/-- Lower case, but for the first and the last byte. -/
def rewriteCase (out : ByteString) : ByteString :=
  let nuclideUpper := asciiToupperCopy out
  ((asciiTolowerCopy out).set 0 (nuclideUpper.getD 0 0)).set (out.length - 1)
    (nuclideUpper.getD (out.length - 1) 0)

/-- `StoredAirNuclideQueryHandler::prepare_nuclide`. A failed parse leaves the iterator at the
beginning. -/
def prepareNuclide (nuclide : ByteString) : Except NuclideFault ByteString :=
  let out := trimCopy nuclide
  if out.length < 3 then .error (tooShort out)
  else if out.length > 8 then .error (tooLong out)
  else
    let out := rewriteCase out
    let first := (parseNuclide out).getD out
    if first ≠ [] then .error (unrecognized out) else .ok out

/-! ### Codes -/

/-- Letters, a hyphen, digits, and a letter or none. -/
structure NuclideCode where
  first : UInt8
  others : ByteString
  digits : ByteString
  last : Option UInt8
  letters : ∀ byte ∈ first :: others, isAsciiLetter byte = true
  digits_ne_nil : digits ≠ []
  digits_all : ∀ byte ∈ digits, isDecimalDigit byte = true
  last_letter : ∀ byte ∈ last, isAsciiLetter byte = true

namespace NuclideCode

variable (code : NuclideCode)

/-- The code without blanks. -/
def text : ByteString := code.first :: code.others ++ 45 :: (code.digits ++ code.last.toList)

/-- The first and the trailing letter in upper case, the others in lower case. -/
def canonicalText : ByteString :=
  asciiToupper code.first :: asciiTolowerCopy code.others ++
    45 :: (code.digits ++ (code.last.map asciiToupper).toList)

/-- The mass number. -/
def number : Nat := digitsValue code.digits

/-- Behind the number there are letters only. -/
theorem last_letters : ∀ byte ∈ code.last.toList, isAsciiLetter byte = true :=
  fun byte inside => code.last_letter byte (Option.mem_toList.mp inside)

end NuclideCode

/-- The text is the code with blanks anywhere but between its digits. -/
def Spells (text : ByteString) (code : NuclideCode) : Prop :=
  ∃ before after, text = before ++ (code.digits ++ after) ∧
    essential isSpace before = code.first :: code.others ++ [45] ∧
    essential isSpace after = code.last.toList

/-- Length and form of a code that `prepare_nuclide` is to accept. -/
def IsCode (text : ByteString) (code : NuclideCode) : Prop :=
  text = code.text ∧ 3 ≤ text.length ∧ text.length ≤ 8

/-- The trimmed codes without blanks are accepted in their canonical spelling, nothing else is,
and what is accepted is accepted again as it is. -/
def PreparesCodes (nuclide : ByteString) : Prop :=
  (∀ code, IsCode (trimCopy nuclide) code → prepareNuclide nuclide = .ok code.canonicalText) ∧
  ((¬∃ code, IsCode (trimCopy nuclide) code) → ∃ fault, prepareNuclide nuclide = .error fault) ∧
  ∀ out, prepareNuclide nuclide = .ok out → prepareNuclide out = .ok out

/-! ### Classes of bytes -/

section

variable {byte : UInt8}

/-- White space has no case. -/
theorem isSpace_asciiToupper (byte : UInt8) : isSpace (asciiToupper byte) = isSpace byte := by
  revert byte
  decide +kernel

/-- A letter has both cases. -/
theorem letter_case (letter : isAsciiLetter byte = true) :
    isUpper (asciiToupper byte) = true ∧ isLower (asciiTolower byte) = true := by
  revert byte
  decide +kernel

/-- What has a case is a letter. -/
theorem isAsciiLetter_of_case (cased : isUpper byte = true ∨ isLower byte = true) :
    isAsciiLetter byte = true := by
  revert byte
  decide +kernel

/-- A letter is neither white space nor a digit. -/
theorem letter_other (letter : isAsciiLetter byte = true) :
    isSpace byte = false ∧ isDecimalDigit byte = false := by
  revert byte
  decide +kernel

/-- A digit is no letter. -/
theorem not_letter_of_digit (digit : isDecimalDigit byte = true) : isAsciiLetter byte = false :=
  Bool.eq_false_iff.mpr fun letter => by
    rw [(letter_other letter).2] at digit
    cases digit

/-- White space is no letter. -/
theorem not_letter_of_space (space : isSpace byte = true) : isAsciiLetter byte = false :=
  Bool.eq_false_iff.mpr fun letter => by
    rw [(letter_other letter).1] at space
    cases space

end

/-! ### The grammar -/

/-- Digits with blanks in front of them, and no digit after them. -/
theorem readUShort_append {blanks digits behind : ByteString}
    (skipped : ∀ byte ∈ blanks, isSpace byte = true) (nonempty : digits ≠ [])
    (all : ∀ byte ∈ digits, isDecimalDigit byte = true)
    (stops : ∀ byte ∈ behind.head?, isDecimalDigit byte = false) :
    readUShort (blanks ++ (digits ++ behind)) =
      if digitsValue digits < 2 ^ 16 then some behind else none := by
  have left : (blanks ++ (digits ++ behind)).dropWhile isSpace = digits ++ behind := by
    obtain ⟨digit, rest, rfl⟩ := List.exists_cons_of_ne_nil nonempty
    exact dropWhile_append_cons skipped (isSpace_of_isDecimalDigit (all digit List.mem_cons_self))
  obtain ⟨taken, dropped⟩ := span_word all stops
  rw [readUShort, left, taken, dropped]
  by_cases small : digitsValue digits < 2 ^ 16
  · rw [if_pos small, if_neg (by rw [not_or]; exact ⟨nonempty, not_le.mpr small⟩)]
  · rw [if_neg small, if_pos (.inr (not_lt.mp small))]

/-- A number was read, with the blanks in front of it. -/
theorem readUShort_eq_some {src rest : ByteString} (read : readUShort src = some rest) :
    ∃ blanks digits, src = blanks ++ (digits ++ rest) ∧ (∀ byte ∈ blanks, isSpace byte = true) ∧
      digits ≠ [] ∧ (∀ byte ∈ digits, isDecimalDigit byte = true) ∧
        digitsValue digits < 2 ^ 16 := by
  unfold readUShort at read
  dsimp only at read
  split at read
  · cases read
  · next accepted =>
      rw [not_or] at accepted
      cases read
      refine ⟨src.takeWhile isSpace, _, ?_, fun _ => List.mem_takeWhile_imp, accepted.1,
        fun _ => List.mem_takeWhile_imp, not_le.mp accepted.2⟩
      rw [List.takeWhile_append_dropWhile, List.takeWhile_append_dropWhile]

/-- Parts of a text as the grammar has them, in the letter case that it asks for. -/
structure Parts where
  first : UInt8
  lowers : ByteString
  digits : ByteString
  last : Option UInt8
  first_upper : isUpper first = true
  lowers_all : ∀ byte ∈ lowers, isLower byte = true
  digits_ne_nil : digits ≠ []
  digits_all : ∀ byte ∈ digits, isDecimalDigit byte = true
  last_upper : ∀ byte ∈ last, isUpper byte = true

/-- What stands behind the digits does not go on with one. -/
theorem head_of_essential {behind : ByteString} {last : Option UInt8}
    (shown : essential isSpace behind = last.toList)
    (letter : ∀ byte ∈ last, isAsciiLetter byte = true) :
    ∀ byte ∈ behind.head?, isDecimalDigit byte = false := by
  intro byte isFirst
  have inside : byte ∈ behind := List.mem_of_mem_head? isFirst
  by_cases space : isSpace byte = true
  · exact Bool.eq_false_iff.mpr fun digit => by
      rw [isSpace_of_isDecimalDigit digit] at space
      cases space
  · have kept : byte ∈ essential isSpace behind :=
      List.mem_filter.mpr ⟨inside, by simpa using space⟩
    rw [shown, Option.mem_toList] at kept
    exact (letter_other (letter byte kept)).2

/-- A text with such parts is parsed to its end, if its number has sixteen bits. -/
theorem parseNuclide_parts (parts : Parts) {before after : ByteString}
    (beforeShown : essential isSpace before = parts.first :: (parts.lowers ++ [45]))
    (afterShown : essential isSpace after = parts.last.toList) :
    parseNuclide (before ++ (parts.digits ++ after)) =
      if digitsValue parts.digits < 2 ^ 16 then some [] else none := by
  obtain ⟨letters, lettersShown, readFirst⟩ :=
    @readItem_append _ isSpace isUpper _ _ _ beforeShown (parts.digits ++ after)
  rw [if_pos parts.first_upper] at readFirst
  obtain ⟨blanks, blanksShown, readHyphen⟩ :=
    @readItem_readItems _ isSpace isLower isHyphen 45 rfl rfl
    _ _ lettersShown parts.lowers_all (parts.digits ++ after)
  have readNumber := readUShort_append (all_of_essential_nil blanksShown) parts.digits_ne_nil
    parts.digits_all (head_of_essential afterShown fun byte isLast =>
      isAsciiLetter_of_case (.inl (parts.last_upper byte isLast)))
  have readLast : ((readItem isSpace isUpper after).getD after).dropWhile isSpace = [] := by
    cases shown : parts.last with
    | none =>
        rw [shown] at afterShown
        have blank := all_of_essential_nil afterShown
        rw [readItem_of_all blank]
        exact List.dropWhile_eq_nil_iff.mpr blank
    | some last =>
        rw [shown] at afterShown
        obtain ⟨rest, restShown, read⟩ := @readItem_append _ isSpace isUpper _ _ _ afterShown []
        rw [if_pos (parts.last_upper last shown), List.append_nil, List.append_nil] at read
        rw [read]
        exact List.dropWhile_eq_nil_iff.mpr (all_of_essential_nil restShown)
  rw [parseNuclide, readFirst]
  change (readItem isSpace isHyphen (readItems isSpace isLower (letters ++ _)) >>= fun src => _) = _
  rw [readHyphen]
  change (readUShort (blanks ++ _) >>= fun src => _) = _
  rw [readNumber]
  split
  · exact congrArg some readLast
  · rfl

/-- At the end there are blanks, and an upper case letter or none. -/
theorem exists_last {after : ByteString}
    (ended : ((readItem isSpace isUpper after).getD after).dropWhile isSpace = []) :
    ∃ last : Option UInt8, essential isSpace after = last.toList ∧
      ∀ byte ∈ last, isUpper byte = true := by
  have blank := List.dropWhile_eq_nil_iff.mp ended
  cases read : readItem isSpace isUpper after with
  | none =>
      rw [read] at blank
      exact ⟨none, essential_of_all blank, nofun⟩
  | some rest =>
      rw [read, Option.getD_some] at blank
      obtain ⟨consumed, letter, rfl, shown, upper⟩ := readItem_eq_some read
      refine ⟨some letter, ?_, fun byte same => Option.some.inj same ▸ upper⟩
      rw [essential_append, shown, essential_of_all blank]
      rfl

/-- A text that is parsed to its end has such parts. -/
theorem exists_parts {src : ByteString} (parsed : parseNuclide src = some []) :
    ∃ (parts : Parts) (before after : ByteString), src = before ++ (parts.digits ++ after) ∧
      essential isSpace before = parts.first :: (parts.lowers ++ [45]) ∧
      essential isSpace after = parts.last.toList ∧ digitsValue parts.digits < 2 ^ 16 := by
  obtain ⟨afterFirst, readFirst, parsedRest⟩ := Option.bind_eq_some_iff.mp parsed
  obtain ⟨afterHyphen, readHyphen, parsedNumber⟩ := Option.bind_eq_some_iff.mp parsedRest
  obtain ⟨after, readNumber, parsedLast⟩ := Option.bind_eq_some_iff.mp parsedNumber
  obtain ⟨front, first, rfl, firstShown, upper⟩ := readItem_eq_some readFirst
  obtain ⟨lowers, lowersWhole, lower⟩ := @readItems_spec _ isSpace isLower afterFirst
  obtain ⟨hyphens, hyphen, hyphenWhole, hyphenShown, accepted⟩ := readItem_eq_some readHyphen
  obtain ⟨blanks, digits, rfl, blank, nonempty, all, small⟩ := readUShort_eq_some readNumber
  obtain ⟨last, lastShown, lastUpper⟩ := exists_last (Option.some.inj parsedLast)
  refine ⟨⟨first, essential isSpace lowers, digits, last, upper, lower, nonempty, all, lastUpper⟩,
    front ++ (lowers ++ (hyphens ++ blanks)), after, ?_, ?_, lastShown, small⟩
  · rw [lowersWhole, hyphenWhole]
    simp only [List.append_assoc]
  · have isHyphen : hyphen = 45 := of_decide_eq_true accepted
    rw [essential_append, essential_append, essential_append, firstShown, hyphenShown,
      essential_of_all blank, isHyphen]
    rfl

/-! ### The letter case -/

/-- Three bytes or more have two ends. -/
theorem exists_ends {text : ByteString} (long : 3 ≤ text.length) :
    ∃ first middle last, text = first :: (middle ++ [last]) := by
  cases text with
  | nil => exact absurd long (by decide)
  | cons first rest =>
      have nonempty : rest ≠ [] := by
        rintro rfl
        exact absurd long (by rw [List.length_singleton]; decide)
      exact ⟨first, rest.dropLast, rest.getLast nonempty, by rw [List.dropLast_concat_getLast]⟩

/-- The ends are capital, the middle is small. -/
theorem rewriteCase_ends (first : UInt8) (middle : ByteString) (last : UInt8) :
    rewriteCase (first :: (middle ++ [last])) =
      asciiToupper first :: (asciiTolowerCopy middle ++ [asciiToupper last]) := by
  simp [rewriteCase, asciiToupperCopy, asciiTolowerCopy]

theorem length_rewriteCase (text : ByteString) : (rewriteCase text).length = text.length := by
  simp [rewriteCase, asciiTolowerCopy]

/-- Only the case is rewritten. -/
theorem asciiTolowerCopy_rewriteCase {text : ByteString} (long : 3 ≤ text.length) :
    asciiTolowerCopy (rewriteCase text) = asciiTolowerCopy text := by
  obtain ⟨first, middle, last, rfl⟩ := exists_ends long
  rw [rewriteCase_ends]
  simp [asciiTolowerCopy, asciiTolower_asciiToupper, asciiTolower_idempotent]

/-- A rewritten code stays. -/
theorem rewriteCase_idempotent {text : ByteString} (long : 3 ≤ text.length) :
    rewriteCase (rewriteCase text) = rewriteCase text := by
  obtain ⟨first, middle, last, rfl⟩ := exists_ends long
  rw [rewriteCase_ends, rewriteCase_ends, asciiToupper_idempotent, asciiToupper_idempotent,
    asciiTolowerCopy_idempotent]

theorem asciiTolowerCopy_append (text text' : ByteString) :
    asciiTolowerCopy (text ++ text') = asciiTolowerCopy text ++ asciiTolowerCopy text' :=
  List.map_append

/-- A text without letters has no case. -/
theorem asciiTolowerCopy_of_caseless {text : ByteString}
    (all : ∀ byte ∈ text, isAsciiLetter byte = false) : asciiTolowerCopy text = text := by
  refine (List.map_congr_left fun byte inside => ?_).trans (List.map_id text)
  exact asciiTolower_of_not_letter (all byte inside)

/-- Letters alone are essential. -/
theorem essential_letters {text : ByteString} (letters : ∀ byte ∈ text, isAsciiLetter byte = true) :
    essential isSpace text = text :=
  essential_eq_self fun byte inside => (letter_other (letters byte inside)).1

/-- Only the letters are rewritten: the first, the others before the digits, and the last. -/
theorem rewriteCase_spelled (code : NuclideCode) (letters : ByteString) {blanks : ByteString}
    (blank : ∀ byte ∈ blanks, isSpace byte = true) (none : code.last = none → blanks = []) :
    rewriteCase (code.first :: (letters ++ (code.digits ++ (blanks ++ code.last.toList)))) =
      asciiToupper code.first :: (asciiTolowerCopy letters ++
        (code.digits ++ (blanks ++ (code.last.map asciiToupper).toList))) := by
  have digitsKept := asciiTolowerCopy_of_caseless fun byte inside =>
    not_letter_of_digit (code.digits_all byte inside)
  have blanksKept := asciiTolowerCopy_of_caseless fun byte inside =>
    not_letter_of_space (blank byte inside)
  cases shown : code.last with
  | none =>
      rw [none shown]
      have split := List.dropLast_concat_getLast code.digits_ne_nil
      have lastKept : asciiToupper (code.digits.getLast code.digits_ne_nil) =
          code.digits.getLast code.digits_ne_nil :=
        asciiToupper_of_not_letter (not_letter_of_digit (code.digits_all _ (List.getLast_mem _)))
      have frontKept : asciiTolowerCopy code.digits.dropLast = code.digits.dropLast :=
        asciiTolowerCopy_of_caseless fun byte inside =>
          not_letter_of_digit (code.digits_all byte (List.dropLast_subset _ inside))
      have ends := rewriteCase_ends code.first (letters ++ code.digits.dropLast)
        (code.digits.getLast code.digits_ne_nil)
      rw [List.append_assoc, split, lastKept, asciiTolowerCopy_append, frontKept, List.append_assoc,
        split] at ends
      simpa using ends
  | some last =>
      have ends := rewriteCase_ends code.first (letters ++ (code.digits ++ blanks)) last
      rw [asciiTolowerCopy_append, asciiTolowerCopy_append, digitsKept, blanksKept] at ends
      simpa using ends

/-! ### Codes with blanks -/

/-- At both ends there is no blank. -/
structure Trimmed (text : ByteString) : Prop where
  head : ∀ byte ∈ text.head?, isSpace byte = false
  last : ∀ byte ∈ text.getLast?, isSpace byte = false

/-- A trimmed text is trimmed. -/
theorem trimCopy_trimmed (text : ByteString) : Trimmed (trimCopy text) :=
  ⟨trim_head isSpace text, trim_getLast isSpace text⟩

/-- It is not trimmed again. -/
theorem Trimmed.trimCopy_eq {text : ByteString} (trimmed : Trimmed text) : trimCopy text = text :=
  trim_eq_self trimmed.head trimmed.last

/-- The last byte. -/
theorem getLast?_concat (first : UInt8) (middle : ByteString) (last : UInt8) :
    (first :: (middle ++ [last])).getLast? = some last := by
  rw [← List.cons_append, List.getLast?_concat]

/-- A rewritten code stays trimmed. -/
theorem Trimmed.rewriteCase {text : ByteString} (trimmed : Trimmed text) (long : 3 ≤ text.length) :
    Trimmed (rewriteCase text) := by
  obtain ⟨first, middle, last, rfl⟩ := exists_ends long
  rw [rewriteCase_ends]
  constructor
  · intro byte isFirst
    cases isFirst
    rw [isSpace_asciiToupper]
    exact trimmed.head first rfl
  · intro byte isLast
    rw [getLast?_concat] at isLast
    cases isLast
    rw [isSpace_asciiToupper]
    exact trimmed.last last (getLast?_concat first middle last)

/-- No blanks come first in a trimmed text. -/
theorem Trimmed.no_lead {lead text : ByteString} (trimmed : Trimmed (lead ++ text))
    (blank : ∀ byte ∈ lead, isSpace byte = true) : lead = [] := by
  cases lead with
  | nil => rfl
  | cons byte lead =>
      have kept := trimmed.head byte rfl
      rw [blank byte List.mem_cons_self] at kept
      cases kept

/-- No blanks come last in a trimmed text. -/
theorem Trimmed.no_trail {text trail : ByteString} (trimmed : Trimmed (text ++ trail))
    (blank : ∀ byte ∈ trail, isSpace byte = true) : trail = [] := by
  by_contra nonempty
  have isLast : (text ++ trail).getLast? = some (trail.getLast nonempty) := by
    rw [List.getLast?_append, List.getLast?_eq_some_getLast nonempty, Option.some_or]
  have kept := trimmed.last _ isLast
  rw [blank _ (List.getLast_mem nonempty)] at kept
  cases kept

variable {text : ByteString} {code : NuclideCode}

/-- Without blanks at its ends, the text begins with the first letter, and there is nothing
behind the digits or the last letter. -/
theorem Spells.exists_trimmed (spells : Spells text code) (trimmed : Trimmed text) :
    ∃ letters blanks,
      text = code.first :: (letters ++ (code.digits ++ (blanks ++ code.last.toList))) ∧
      essential isSpace letters = code.others ++ [45] ∧ (∀ byte ∈ blanks, isSpace byte = true) ∧
      (code.last = none → blanks = []) := by
  obtain ⟨before, after, rfl, beforeShown, afterShown⟩ := spells
  rw [List.cons_append] at beforeShown
  obtain ⟨lead, letters, rfl, leadBlank, _, lettersShown⟩ := essential_eq_cons beforeShown
  rw [List.append_assoc] at trimmed
  cases trimmed.no_lead leadBlank
  cases shown : code.last with
  | none =>
      rw [shown] at afterShown
      rw [List.nil_append, ← List.append_assoc] at trimmed
      cases trimmed.no_trail (all_of_essential_nil afterShown)
      exact ⟨letters, [], rfl, lettersShown, nofun, fun _ => rfl⟩
  | some last =>
      rw [shown] at afterShown
      obtain ⟨blanks, trail, rfl, blank, _, trailShown⟩ := essential_eq_cons afterShown
      have whole : [] ++ (code.first :: letters ++ (code.digits ++ (blanks ++ last :: trail))) =
          code.first :: letters ++ code.digits ++ blanks ++ [last] ++ trail := by
        simp
      rw [whole] at trimmed
      cases trimmed.no_trail (all_of_essential_nil trailShown)
      exact ⟨letters, blanks, rfl, lettersShown, blank, nofun⟩

/-- The code in the letter case of the grammar. -/
def NuclideCode.parts (code : NuclideCode) : Parts where
  first := asciiToupper code.first
  lowers := asciiTolowerCopy code.others
  digits := code.digits
  last := code.last.map asciiToupper
  first_upper := (letter_case (code.letters _ List.mem_cons_self)).1
  lowers_all byte inside := by
    obtain ⟨other, member, rfl⟩ := List.mem_map.mp inside
    exact (letter_case (code.letters other (List.mem_cons_of_mem _ member))).2
  digits_ne_nil := code.digits_ne_nil
  digits_all := code.digits_all
  last_upper byte inside := by
    obtain ⟨last, isLast, rfl⟩ := Option.map_eq_some_iff.mp inside
    exact (letter_case (code.last_letter last isLast)).1

/-- Blanks can be removed before or after the case. -/
theorem essential_asciiTolowerCopy (text : ByteString) :
    essential isSpace (asciiTolowerCopy text) = asciiTolowerCopy (essential isSpace text) := by
  rw [essential, asciiTolowerCopy, List.filter_map]
  refine congrArg _ (List.filter_congr fun byte _ => ?_)
  exact congrArg (!·) (isSpace_asciiTolower byte)

/-- The code in its canonical spelling. -/
def NuclideCode.canonical (code : NuclideCode) : NuclideCode where
  first := asciiToupper code.first
  others := asciiTolowerCopy code.others
  digits := code.digits
  last := code.last.map asciiToupper
  letters byte inside := by
    rcases List.mem_cons.mp inside with rfl | member
    · exact isAsciiLetter_of_case (.inl code.parts.first_upper)
    · exact isAsciiLetter_of_case (.inr (code.parts.lowers_all byte member))
  digits_ne_nil := code.digits_ne_nil
  digits_all := code.digits_all
  last_letter byte inside := isAsciiLetter_of_case (.inl (code.parts.last_upper byte inside))

/-- The blanks are kept when the letter case is rewritten. -/
theorem Spells.rewriteCase (spells : Spells text code) (trimmed : Trimmed text) :
    Spells (rewriteCase text) code.canonical := by
  obtain ⟨letters, blanks, rfl, lettersShown, blank, none⟩ := spells.exists_trimmed trimmed
  refine ⟨asciiToupper code.first :: asciiTolowerCopy letters,
    blanks ++ (code.last.map asciiToupper).toList, ?_, ?_, ?_⟩
  · exact rewriteCase_spelled code letters blank none
  · have lowered :
        essential isSpace (asciiTolowerCopy letters) = asciiTolowerCopy code.others ++ [45] := by
      rw [essential_asciiTolowerCopy, lettersShown, asciiTolowerCopy_append]
      rfl
    have firstKept : essential isSpace [asciiToupper code.first] = [asciiToupper code.first] := by
      apply essential_letters
      rw [List.forall_mem_singleton]
      exact isAsciiLetter_of_case (.inl code.parts.first_upper)
    rw [← List.singleton_append, essential_append, firstKept, lowered]
    rfl
  · rw [essential_append, essential_of_all blank, List.nil_append]
    exact essential_letters code.canonical.last_letters

/-- After the letter case is rewritten, a code with blanks is parsed to its end, if its number
has sixteen bits. -/
theorem parseNuclide_rewriteCase (spells : Spells text code) (trimmed : Trimmed text) :
    parseNuclide (rewriteCase text) = if code.number < 2 ^ 16 then some [] else none := by
  obtain ⟨before, after, whole, beforeShown, afterShown⟩ := spells.rewriteCase trimmed
  rw [whole]
  exact parseNuclide_parts code.parts beforeShown afterShown

/-- A byte in the letter case of another one that is a letter. -/
theorem letter_of_same {byte other : UInt8} (same : asciiTolower byte = asciiTolower other)
    (cased : isUpper other = true ∨ isLower other = true) : isAsciiLetter byte = true := by
  rw [← isAsciiLetter_asciiTolower, same, isAsciiLetter_asciiTolower]
  exact isAsciiLetter_of_case cased

/-- The essential bytes of a text in another letter case. -/
theorem essential_same {text text' shown : ByteString}
    (same : asciiTolowerCopy text = asciiTolowerCopy text')
    (shown' : essential isSpace text' = shown) :
    asciiTolowerCopy (essential isSpace text) = asciiTolowerCopy shown := by
  rw [← essential_asciiTolowerCopy, same, essential_asciiTolowerCopy, shown']

/-- What is spelt before the hyphen are the letters of the element. -/
theorem exists_letters {before : ByteString} {parts : Parts}
    (same : asciiTolowerCopy (essential isSpace before) =
      asciiTolowerCopy (parts.first :: (parts.lowers ++ [45]))) :
    ∃ first others, essential isSpace before = first :: others ++ [45] ∧
      ∀ byte ∈ first :: others, isAsciiLetter byte = true := by
  obtain ⟨first, rest, shown, firstSame, restSame⟩ := List.map_eq_cons_iff.mp same
  rw [List.map_append] at restSame
  obtain ⟨others, hyphens, rfl, othersSame, hyphenSame⟩ := List.map_eq_append_iff.mp restSame
  have hyphen : [45] = hyphens := eq_of_not_hasLetter hyphenSame.symm (by decide)
  refine ⟨first, others, by rw [shown, ← hyphen, List.cons_append], fun byte inside => ?_⟩
  rcases List.mem_cons.mp inside with rfl | member
  · exact letter_of_same firstSame (.inl parts.first_upper)
  · have lowered : asciiTolower byte ∈ parts.lowers.map asciiTolower := by
      rw [← othersSame]
      exact List.mem_map_of_mem member
    obtain ⟨other, isLower, same⟩ := List.mem_map.mp lowered
    exact letter_of_same same.symm (.inr (parts.lowers_all other isLower))

/-- What is spelt behind the number is its last letter. -/
theorem exists_lastLetter {after : ByteString} {parts : Parts}
    (same : asciiTolowerCopy (essential isSpace after) = asciiTolowerCopy parts.last.toList) :
    ∃ last : Option UInt8, essential isSpace after = last.toList ∧
      ∀ byte ∈ last, isAsciiLetter byte = true := by
  cases shown : parts.last with
  | none =>
      rw [shown] at same
      exact ⟨none, List.map_eq_nil_iff.mp same, nofun⟩
  | some letter =>
      rw [shown] at same
      obtain ⟨last, rest, lastShown, lastSame, restSame⟩ := List.map_eq_cons_iff.mp same
      rw [List.map_eq_nil_iff.mp restSame] at lastShown
      refine ⟨some last, lastShown, fun byte isLast => ?_⟩
      cases isLast
      exact letter_of_same lastSame (.inl (parts.last_upper letter shown))

/-- What is parsed to its end after its letter case is rewritten, is a code with blanks. -/
theorem exists_spelled (long : 3 ≤ text.length)
    (parsed : parseNuclide (rewriteCase text) = some []) :
    ∃ code, Spells text code ∧ code.number < 2 ^ 16 := by
  obtain ⟨parts, before', after', whole, beforeShown, afterShown, small⟩ := exists_parts parsed
  have same := (asciiTolowerCopy_rewriteCase long).symm
  rw [whole, asciiTolowerCopy_append, asciiTolowerCopy_append] at same
  obtain ⟨before, rest, rfl, beforeSame, restSame⟩ := List.map_eq_append_iff.mp same
  obtain ⟨digits, after, rfl, digitsSame, afterSame⟩ := List.map_eq_append_iff.mp restSame
  have caselessDigits : hasLetter parts.digits = false := by
    apply List.any_eq_false.mpr
    intro byte inside
    rw [not_letter_of_digit (parts.digits_all byte inside)]
    exact Bool.false_ne_true
  cases eq_of_not_hasLetter digitsSame.symm caselessDigits
  obtain ⟨first, others, shown, letters⟩ := exists_letters (essential_same beforeSame beforeShown)
  obtain ⟨last, lastShown, lastLetter⟩ := exists_lastLetter (essential_same afterSame afterShown)
  refine ⟨⟨first, others, parts.digits, last, letters, parts.digits_ne_nil, parts.digits_all,
    lastLetter⟩, ⟨before, after, rfl, shown, lastShown⟩, small⟩

/-- The digits of a code with blanks are those of the text. -/
theorem Spells.digits_eq (spells : Spells text code) :
    code.digits = text.filter isDecimalDigit := by
  obtain ⟨before, after, rfl, beforeShown, afterShown⟩ := spells
  have noDigits :
      ∀ part : ByteString, (∀ byte ∈ essential isSpace part, isDecimalDigit byte = false) →
      part.filter isDecimalDigit = [] := by
    intro part others
    apply List.filter_eq_nil_iff.mpr
    intro byte inside digit
    have kept : byte ∈ essential isSpace part :=
      List.mem_filter.mpr ⟨inside, by rw [isSpace_of_isDecimalDigit digit]; rfl⟩
    rw [others byte kept] at digit
    cases digit
  have noneBefore : before.filter isDecimalDigit = [] := by
    apply noDigits
    intro byte inside
    rw [beforeShown] at inside
    rcases List.mem_append.mp inside with letter | hyphen
    · exact (letter_other (code.letters byte letter)).2
    · rw [List.mem_singleton.mp hyphen]
      rfl
  have noneAfter : after.filter isDecimalDigit = [] := by
    apply noDigits
    intro byte inside
    rw [afterShown] at inside
    exact (letter_other (code.last_letters byte inside)).2
  rw [List.filter_append, List.filter_append, noneBefore, noneAfter,
    List.filter_eq_self.mpr code.digits_all, List.nil_append, List.append_nil]

/-! ### What is accepted -/

/-- The text of a code spells it. -/
theorem NuclideCode.text_spells (code : NuclideCode) : Spells code.text code := by
  refine ⟨code.first :: code.others ++ [45], code.last.toList, ?_, ?_, ?_⟩
  · simp [text]
  · rw [essential_append, essential_letters code.letters]
    rfl
  · exact essential_letters code.last_letters

/-- There are no blanks in it. -/
theorem NuclideCode.text_no_blank (code : NuclideCode) :
    ∀ byte ∈ code.text, isSpace byte = false := by
  intro byte inside
  rcases List.mem_append.mp inside with letter | rest
  · exact (letter_other (code.letters byte letter)).1
  · rcases List.mem_cons.mp rest with rfl | rest
    · rfl
    · rcases List.mem_append.mp rest with digit | last
      · exact isSpace_of_isDecimalDigit (code.digits_all byte digit)
      · exact (letter_other (code.last_letters byte last)).1

/-- A text without blanks is the code that it spells. -/
theorem Spells.eq_text (spells : Spells text code) (solid : ∀ byte ∈ text, isSpace byte = false) :
    text = code.text := by
  obtain ⟨before, after, rfl, beforeShown, afterShown⟩ := spells
  rw [List.forall_mem_append, List.forall_mem_append] at solid
  rw [essential_eq_self solid.1] at beforeShown
  rw [essential_eq_self solid.2.2] at afterShown
  rw [beforeShown, afterShown]
  simp [NuclideCode.text]

/-- Rewritten it is the canonical text. -/
theorem NuclideCode.rewriteCase_text (code : NuclideCode) :
    rewriteCase code.text = code.canonicalText := by
  have rewritten := @rewriteCase_spelled code (code.others ++ [45]) [] nofun fun _ => rfl
  have hyphen : asciiTolowerCopy [45] = [45] := rfl
  rw [asciiTolowerCopy_append, hyphen] at rewritten
  simpa [text, canonicalText] using rewritten

/-- A code is accepted when its length is right and it can be parsed. -/
theorem prepareNuclide_eq_ok {nuclide out : ByteString} :
    prepareNuclide nuclide = .ok out ↔
      (3 ≤ (trimCopy nuclide).length ∧ (trimCopy nuclide).length ≤ 8) ∧
        parseNuclide (rewriteCase (trimCopy nuclide)) = some [] ∧
          out = rewriteCase (trimCopy nuclide) := by
  unfold prepareNuclide
  dsimp only
  generalize trimCopy nuclide = text
  by_cases short : text.length < 3
  · rw [if_pos short]
    exact ⟨nofun, fun accepted => absurd short (not_lt.mpr accepted.1.1)⟩
  by_cases long : text.length > 8
  · rw [if_neg short, if_pos long]
    exact ⟨nofun, fun accepted => absurd long (not_lt.mpr accepted.1.2)⟩
  rw [if_neg short, if_neg long]
  have nonempty : rewriteCase text ≠ [] := by
    intro empty
    rw [← length_rewriteCase, empty] at short
    exact short (by decide)
  cases parsed : parseNuclide (rewriteCase text) with
  | none =>
      rw [Option.getD_none, if_pos nonempty]
      exact ⟨nofun, nofun⟩
  | some rest =>
      rw [Option.getD_some]
      by_cases ended : rest = []
      · rw [if_neg (not_not.mpr ended), ended]
        refine ⟨fun ran => ⟨⟨by omega, by omega⟩, rfl, (Except.ok.inj ran).symm⟩,
          fun accepted => ?_⟩
        rw [accepted.2.2]
      · rw [if_pos ended]
        exact ⟨nofun, fun accepted => absurd (Option.some.inj accepted.2.1) ended⟩

/-- What is accepted are the codes with blanks whose number has sixteen bits. -/
theorem prepareNuclide_accepts_iff {nuclide out : ByteString} :
    prepareNuclide nuclide = .ok out ↔
      (3 ≤ (trimCopy nuclide).length ∧ (trimCopy nuclide).length ≤ 8) ∧
        (∃ code, Spells (trimCopy nuclide) code ∧ code.number < 2 ^ 16) ∧
          out = rewriteCase (trimCopy nuclide) := by
  rw [prepareNuclide_eq_ok]
  constructor
  · rintro ⟨size, parsed, same⟩
    exact ⟨size, exists_spelled size.1 parsed, same⟩
  · rintro ⟨size, ⟨code, spells, small⟩, same⟩
    refine ⟨size, ?_, same⟩
    rw [parseNuclide_rewriteCase spells (trimCopy_trimmed nuclide), if_pos small]

/-- What is accepted is accepted again as it is. -/
theorem prepareNuclide_again {nuclide out : ByteString} (ran : prepareNuclide nuclide = .ok out) :
    prepareNuclide out = .ok out := by
  obtain ⟨size, parsed, rfl⟩ := prepareNuclide_eq_ok.mp ran
  have trimmed := ((trimCopy_trimmed nuclide).rewriteCase size.1).trimCopy_eq
  apply prepareNuclide_eq_ok.mpr
  rw [trimmed, length_rewriteCase, rewriteCase_idempotent size.1]
  exact ⟨size, parsed, rfl⟩

/-- The codes with blanks whose number has sixteen bits are accepted. The blanks are kept, the
letters get their canonical case, and the result is accepted again as it is. -/
theorem prepareNuclide_codes (nuclide : ByteString) :
    ((∃ out, prepareNuclide nuclide = .ok out) ↔
      (3 ≤ (trimCopy nuclide).length ∧ (trimCopy nuclide).length ≤ 8) ∧
        ∃ code, Spells (trimCopy nuclide) code ∧ code.number < 2 ^ 16) ∧
    ∀ out, prepareNuclide nuclide = .ok out →
      asciiTolowerCopy out = asciiTolowerCopy (trimCopy nuclide) ∧
        (∀ code, Spells (trimCopy nuclide) code → Spells out code.canonical) ∧
        prepareNuclide out = .ok out := by
  refine ⟨⟨?_, ?_⟩, ?_⟩
  · rintro ⟨out, ran⟩
    obtain ⟨size, accepted, _⟩ := prepareNuclide_accepts_iff.mp ran
    exact ⟨size, accepted⟩
  · rintro ⟨size, accepted⟩
    exact ⟨_, prepareNuclide_accepts_iff.mpr ⟨size, accepted, rfl⟩⟩
  · intro out ran
    have again := prepareNuclide_again ran
    obtain ⟨size, _, rfl⟩ := prepareNuclide_accepts_iff.mp ran
    refine ⟨asciiTolowerCopy_rewriteCase size.1, fun code spells => ?_, again⟩
    exact spells.rewriteCase (trimCopy_trimmed nuclide)

/-- Where only codes without blanks are prepared, a number has sixteen bits exactly if there are
no blanks. -/
theorem PreparesCodes.small_iff {nuclide : ByteString} (prepares : PreparesCodes nuclide)
    {code : NuclideCode} (spells : Spells (trimCopy nuclide) code)
    (size : 3 ≤ (trimCopy nuclide).length ∧ (trimCopy nuclide).length ≤ 8) :
    code.number < 2 ^ 16 ↔ ∀ byte ∈ trimCopy nuclide, isSpace byte = false := by
  obtain ⟨accepts, refuses, _⟩ := prepares
  constructor
  · intro small
    have ran := prepareNuclide_accepts_iff.mpr ⟨size, ⟨code, spells, small⟩, rfl⟩
    by_contra blank
    have none : ¬∃ code, IsCode (trimCopy nuclide) code := by
      rintro ⟨other, same, _⟩
      rw [same] at blank
      exact blank other.text_no_blank
    obtain ⟨fault, failed⟩ := refuses none
    rw [ran] at failed
    cases failed
  · intro solid
    have ran := accepts code ⟨spells.eq_text solid, size⟩
    obtain ⟨_, ⟨other, spells', small⟩, _⟩ := prepareNuclide_accepts_iff.mp ran
    rw [NuclideCode.number, spells.digits_eq, ← spells'.digits_eq]
    exact small

/-- Only codes without blanks are prepared exactly where the number of a code has sixteen bits
if and only if there are none. -/
theorem preparesCodes_iff (nuclide : ByteString) :
    PreparesCodes nuclide ↔
      ∀ code, Spells (trimCopy nuclide) code →
        (3 ≤ (trimCopy nuclide).length ∧ (trimCopy nuclide).length ≤ 8) →
          (code.number < 2 ^ 16 ↔ ∀ byte ∈ trimCopy nuclide, isSpace byte = false) := by
  refine ⟨fun prepares code => prepares.small_iff,
    fun agree => ⟨?_, ?_, fun out => prepareNuclide_again⟩⟩
  · rintro code ⟨same, size⟩
    have spells : Spells (trimCopy nuclide) code := same ▸ code.text_spells
    have small := (agree code spells size).mpr (same ▸ code.text_no_blank)
    apply prepareNuclide_accepts_iff.mpr
    refine ⟨size, ⟨code, spells, small⟩, ?_⟩
    rw [same, code.rewriteCase_text]
  · intro none
    cases ran : prepareNuclide nuclide with
    | error fault => exact ⟨fault, rfl⟩
    | ok out =>
        obtain ⟨size, ⟨code, spells, small⟩, _⟩ := prepareNuclide_accepts_iff.mp ran
        have solid := (agree code spells size).mp small
        exact absurd ⟨code, spells.eq_text solid, size⟩ none

/-- `Cs-137` -/
def caesium137 : NuclideCode where
  first := 67
  others := ascii "s"
  digits := ascii "137"
  last := none
  letters := List.all_eq_true.mp (by decide)
  digits_ne_nil := by decide
  digits_all := List.all_eq_true.mp (by decide)
  last_letter := nofun

/-- With blanks around the hyphen it is accepted as well. -/
theorem blanks_not_prepared : ¬PreparesCodes (ascii "Cs - 137") := by
  intro prepares
  have spells : Spells (trimCopy (ascii "Cs - 137")) caesium137 :=
    ⟨ascii "Cs - ", [], by decide, by decide, by decide⟩
  have solid := ((preparesCodes_iff _).mp prepares caesium137 spells (by decide)).mp (by decide)
  exact absurd (solid 32 (by decide)) (by decide)

end SmartMetWfs.Handlers.AirNuclide
