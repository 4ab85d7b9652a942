import Mathlib.Data.List.TakeWhile
import Mathlib.Tactic.NormNum
import SmartMetWfs.Foundation.PrefixCode
import SmartMetWfs.Foundation.Tokens
import SmartMetWfs.Xml.ParameterExtractor

/-!
# Reading integers

The functions of the standard library that read an integer from a text, with the `long`
and `unsigned long` of 64 bits. They skip blanks before the number and do not look at what
comes after its digits. Reading an unsigned number allows for a minus sign and then wraps
around.
-/

namespace SmartMetWfs

open Foundation Xml

/-- Whether a byte is a decimal digit. -/
def isDecimalDigit (byte : UInt8) : Bool := decide (48 ≤ byte ∧ byte ≤ 57)

/-- The number that a sequence of digits stands for. -/
def digitsValue (digits : ByteString) : Nat :=
  digits.foldl (fun value digit => 10 * value + (digit.toNat - 48)) 0

/-- The sign in front of a number; without one it is positive. -/
def readSign : ByteString → Bool × ByteString
  | 45 :: text => (true, text)
  | 43 :: text => (false, text)
  | text => (false, text)

/-- The sign and the magnitude of the number that a text begins with. -/
def scanInteger (text : ByteString) : Option (Bool × Nat) :=
  let signed := readSign (text.dropWhile isSpace)
  let digits := signed.2.takeWhile isDecimalDigit
  if digits = [] then none else some (signed.1, digitsValue digits)

/-- What comes after that number. -/
def afterInteger (text : ByteString) : ByteString :=
  (readSign (text.dropWhile isSpace)).2.dropWhile isDecimalDigit

/-- The magnitude with its sign. -/
def signedValue (negative : Bool) (magnitude : Nat) : Int :=
  if negative then -(magnitude : Int) else magnitude

/-- `std::stol`. -/
def stol (text : ByteString) : Option Int64 :=
  (scanInteger text).bind fun (negative, magnitude) =>
    let value := signedValue negative magnitude
    if -2 ^ 63 ≤ value ∧ value < 2 ^ 63 then some (Int64.ofInt value) else none

/-- `std::stoul`. The range is that of the magnitude. -/
def stoul (text : ByteString) : Option UInt64 :=
  (scanInteger text).bind fun (negative, magnitude) =>
    if magnitude < 2 ^ 64 then
      some (UInt64.ofNat (if negative then 2 ^ 64 - magnitude else magnitude))
    else none

/-- A digit is no white space. -/
theorem isSpace_of_isDecimalDigit {byte : UInt8} (isDigit : isDecimalDigit byte = true) :
    isSpace byte = false := by
  revert byte
  decide +kernel

/-! ### Decimal literals -/

/-- The sign of a literal, which may be missing. -/
inductive Sign where
  | none
  | plus
  | minus
  deriving DecidableEq

/-- How a sign is written. -/
def Sign.text : Sign → ByteString
  | .none => []
  | .plus => ascii "+"
  | .minus => ascii "-"

/-- An integer as it is written: a sign or none, and decimal digits. -/
structure DecimalLiteral where
  sign : Sign
  digits : ByteString
  nonempty : digits ≠ []
  decimal : ∀ digit ∈ digits, isDecimalDigit digit = true

namespace DecimalLiteral

variable (literal : DecimalLiteral)

/-- The sign and the digits. -/
def text : ByteString := literal.sign.text ++ literal.digits

/-- The number that the digits are. -/
def magnitude : Nat := digitsValue literal.digits

/-- The number with its sign. -/
def value : Int := signedValue (literal.sign = .minus) literal.magnitude

/-- The value is below zero only after a minus sign. -/
theorem value_cases :
    (literal.sign = .minus ∧ literal.value = -(literal.magnitude : Int)) ∨
      (literal.sign ≠ .minus ∧ literal.value = literal.magnitude) := by
  unfold value signedValue
  by_cases negative : literal.sign = .minus
  · exact .inl ⟨negative, if_pos (decide_eq_true negative)⟩
  · exact .inr ⟨negative, if_neg (by simpa using negative)⟩

/-- A literal does not begin with white space. -/
theorem head_text : ∀ byte ∈ literal.text.head?, isSpace byte = false := by
  obtain ⟨sign, digits, nonempty, isDecimal⟩ := literal
  intro byte first
  cases sign with
  | none => exact isSpace_of_isDecimalDigit (isDecimal byte (List.mem_of_mem_head? first))
  | plus | minus =>
      cases first
      rfl

/-- A literal does not end with white space. -/
theorem getLast_text : ∀ byte ∈ literal.text.getLast?, isSpace byte = false := by
  intro byte last
  rw [text, List.getLast?_append, List.getLast?_eq_some_getLast literal.nonempty, Option.some_or]
    at last
  cases last
  exact isSpace_of_isDecimalDigit (literal.decimal _ (List.getLast_mem _))

theorem readSign_append (after : ByteString) :
    readSign (literal.text ++ after) =
      (decide (literal.sign = .minus), literal.digits ++ after) := by
  obtain ⟨sign, digits, nonempty, isDecimal⟩ := literal
  cases sign with
  | plus => rfl
  | minus => rfl
  | none =>
      obtain ⟨first, rest, rfl⟩ := List.exists_cons_of_ne_nil nonempty
      have isDigit := isDecimal first (List.mem_cons_self ..)
      change readSign (first :: (rest ++ after)) = (false, first :: (rest ++ after))
      unfold readSign
      split
      · next minus =>
          cases minus
          exact absurd isDigit (by decide)
      · next plus =>
          cases plus
          exact absurd isDigit (by decide)
      · rfl

/-- A text that begins with a literal, up to blanks. -/
theorem scanInteger_append (before after : ByteString)
    (blank : ∀ byte ∈ before, isSpace byte = true)
    (stops : ∀ byte ∈ after.head?, isDecimalDigit byte = false) :
    scanInteger (before ++ (literal.text ++ after)) =
        some (decide (literal.sign = .minus), literal.magnitude) ∧
      afterInteger (before ++ (literal.text ++ after)) = after := by
  have start : (before ++ (literal.text ++ after)).dropWhile isSpace = literal.text ++ after := by
    rw [List.dropWhile_append_of_pos blank]
    apply dropWhile_eq_self
    intro byte first
    have nonempty : literal.text ≠ [] := List.append_ne_nil_of_right_ne_nil _ literal.nonempty
    rw [List.head?_append_of_ne_nil _ nonempty] at first
    exact literal.head_text byte first
  obtain ⟨digits, rest⟩ := span_word literal.decimal stops
  unfold scanInteger afterInteger
  simp only [start, readSign_append, digits, rest]
  exact ⟨if_neg literal.nonempty, trivial⟩

/-- A literal is scanned to its sign and magnitude. -/
theorem scanInteger_text :
    scanInteger literal.text = some (decide (literal.sign = .minus), literal.magnitude) := by
  have scanned := (literal.scanInteger_append [] [] (by simp) (by simp)).1
  rwa [List.append_nil] at scanned

/-- `std::stol` reads a literal whose value has 64 bits with a sign. -/
theorem stol_text :
    stol literal.text =
      if -2 ^ 63 ≤ literal.value ∧ literal.value < 2 ^ 63 then some (Int64.ofInt literal.value)
      else none := by
  rw [stol, scanInteger_text]
  rfl

/-- `std::stoul` reads a literal whose magnitude has 64 bits; a minus sign wraps it around. -/
theorem stoul_text :
    stoul literal.text =
      if literal.magnitude < 2 ^ 64 then
        some (UInt64.ofNat (if literal.sign = .minus then 2 ^ 64 - literal.magnitude
          else literal.magnitude))
      else none := by
  rw [stoul, scanInteger_text]
  simp

/-- A text that is a literal between blanks. -/
theorem scanInteger_of_trimCopy {content : ByteString} (trimmed : trimCopy content = literal.text) :
    scanInteger content = some (decide (literal.sign = .minus), literal.magnitude) ∧
      ∀ byte ∈ afterInteger content, isSpace byte = true := by
  obtain ⟨before, after, split, blankBefore, blankAfter⟩ := trim_spec isSpace content
  have same : trim isSpace content = literal.text := trimmed
  rw [same] at split
  have stops : ∀ byte ∈ after.head?, isDecimalDigit byte = false := by
    intro byte first
    refine Bool.eq_false_iff.mpr fun isDigit => ?_
    have blank := blankAfter byte (List.mem_of_mem_head? first)
    rw [isSpace_of_isDecimalDigit isDigit] at blank
    cases blank
  obtain ⟨scanned, rest⟩ := literal.scanInteger_append _ _ blankBefore stops
  rw [split, rest]
  exact ⟨scanned, blankAfter⟩

end DecimalLiteral

/-- A text is a sign and what is left after it. -/
theorem readSign_spec (text : ByteString) :
    ∃ sign : Sign, text = sign.text ++ (readSign text).2 ∧
      decide (sign = .minus) = (readSign text).1 := by
  unfold readSign
  split
  · exact ⟨.minus, rfl, rfl⟩
  · exact ⟨.plus, rfl, rfl⟩
  · exact ⟨.none, rfl, rfl⟩

/-- The literal that a scanned number is written with. -/
theorem exists_literal_of_scanInteger {content : ByteString} {negative : Bool} {magnitude : Nat}
    (scanned : scanInteger content = some (negative, magnitude)) :
    ∃ literal : DecimalLiteral, content.dropWhile isSpace = literal.text ++ afterInteger content ∧
      decide (literal.sign = .minus) = negative ∧ literal.magnitude = magnitude := by
  unfold scanInteger at scanned
  dsimp only at scanned
  split at scanned
  · cases scanned
  · next nonempty =>
      obtain ⟨sign, text, minus⟩ := readSign_spec (content.dropWhile isSpace)
      cases scanned
      refine ⟨⟨sign, _, nonempty, fun _ => List.mem_takeWhile_imp⟩, ?_, minus, rfl⟩
      rw [DecimalLiteral.text, List.append_assoc, afterInteger, List.takeWhile_append_dropWhile]
      exact text

/-- A scanned number with nothing but blanks after it is a literal between blanks. -/
theorem exists_literal_of_blank {content : ByteString} {negative : Bool} {magnitude : Nat}
    (scanned : scanInteger content = some (negative, magnitude))
    (blank : ∀ byte ∈ afterInteger content, isSpace byte = true) :
    ∃ literal : DecimalLiteral, trimCopy content = literal.text ∧
      decide (literal.sign = .minus) = negative ∧ literal.magnitude = magnitude := by
  obtain ⟨literal, split, minus, value⟩ := exists_literal_of_scanInteger scanned
  refine ⟨literal, ?_, minus, value⟩
  have trimmed : trim isSpace content = literal.text := by
    rw [trim, split, rdropWhile_append_of_all blank, rdropWhile_eq_self literal.getLast_text]
  exact trimmed

end SmartMetWfs
