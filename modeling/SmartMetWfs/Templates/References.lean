import SmartMetWfs.Core.ByteString
import SmartMetWfs.Foundation.PrefixCode
import SmartMetWfs.Foundation.TemplateForm

/-!
# References in templates

Configuration texts refer to parameters as `${name}`. Two functions of the plugin expand
such texts with loops of the same shape; what they share is the alphabet of the names,
the escape by a backslash and the errors of malformed references.
-/

namespace SmartMetWfs.Templates

/-- The bytes of the characters with a meaning in templates. -/
def backslash : UInt8 := 92
def dollar : UInt8 := 36
def openBrace : UInt8 := 123
def closeBrace : UInt8 := 125
def comma : UInt8 := 44

theorem backslash_ne_dollar : backslash ≠ dollar := by decide

/-- `std::isalnum(c) or c == '_'` of the C locale. -/
def isNameByte (byte : UInt8) : Bool :=
  isAsciiLetter byte || decide (48 ≤ byte ∧ byte ≤ 57) || decide (byte = 95)

/-- What may be written between the braces of a reference. -/
abbrev ParamName := { text : ByteString // ∀ byte ∈ text, isNameByte byte = true }

/-- Why a template is refused. -/
inductive TemplateError where
  | unexpectedEnd
  | missingBrace
  | invalidName
  | tooManyValues (name : ByteString) (count : Nat)
  | missingValue (name : ByteString)
  | scalarExpected (values : List ByteString)
  | listItemWithComma (item : ByteString)
  | badDefinition (src : ByteString)
  | noSuchParameter (name : ByteString)
  deriving DecidableEq

/-- The name up to the closing brace, and what comes after the brace. -/
def readName (src : ByteString) : Except TemplateError (ParamName × ByteString) :=
  match src.dropWhile isNameByte with
  | 125 :: rest => .ok (⟨src.takeWhile isNameByte, fun _ => List.mem_takeWhile_imp⟩, rest)
  | _ => .error .invalidName

/-- A name is read up to the closing brace. -/
theorem readName_eq_ok {src rest : ByteString} {name : ParamName} :
    readName src = .ok (name, rest) ↔ src = name.1 ++ closeBrace :: rest := by
  constructor
  · intro found
    unfold readName at found
    split at found
    · next rest' dropped =>
        cases found
        rw [show closeBrace :: rest = _ from dropped.symm]
        exact (List.takeWhile_append_dropWhile ..).symm
    · cases found
  · rintro rfl
    have stops : ∀ byte ∈ (closeBrace :: rest).head?, isNameByte byte = false := by
      rintro byte ⟨⟩
      decide
    obtain ⟨taken, dropped⟩ := Foundation.span_word name.2 stops
    unfold readName
    rw [dropped]
    exact congrArg (fun name => Except.ok (name, rest)) (Subtype.ext taken)

/-- What the character before a name says: `is_optional` and `is_array` of `subst_ref`,
`may_skip` and `separate_param` of `parse_param_def`. They are never both set. -/
inductive Occurrence where
  | mandatory
  | optional
  | array
  deriving DecidableEq

/-- The character before the name. -/
def Occurrence.spell : Occurrence → ByteString
  | .mandatory => []
  | .optional => ascii "?"
  | .array => ascii "*"

/-- The mark in front of a name. -/
def readOccurrence : ByteString → Occurrence × ByteString
  | 63 :: src => (.optional, src)
  | 42 :: src => (.array, src)
  | src => (.mandatory, src)

/-- A mark is read as it is spelt. -/
theorem readOccurrence_spell (occurrence : Occurrence) (name : ParamName) (rest : ByteString) :
    readOccurrence (occurrence.spell ++ (name.1 ++ closeBrace :: rest)) =
      (occurrence, name.1 ++ closeBrace :: rest) := by
  cases occurrence with
  | optional => rfl
  | array => rfl
  | mandatory =>
      obtain ⟨text, valid⟩ := name
      cases text with
      | nil => rfl
      | cons first text =>
          have isName := valid first (List.mem_cons_self ..)
          change readOccurrence (first :: _) = _
          unfold readOccurrence
          split
          · next flagged =>
              cases flagged
              exact absurd isName (by decide)
          · next flagged =>
              cases flagged
              exact absurd isName (by decide)
          · rfl

/-- The mark and what follows it are the text. -/
theorem spell_readOccurrence (src : ByteString) :
    (readOccurrence src).1.spell ++ (readOccurrence src).2 = src := by
  unfold readOccurrence
  split <;> rfl

/-- The values of a list reference. -/
def joinValues (values : List ByteString) : ByteString := List.intercalate [comma] values

/-- The characters of a `std::string` that its `c_str()` shows. -/
def cStr (text : ByteString) : ByteString := text.takeWhile (· ≠ 0)

/-- A text without the null byte is taken as a whole. -/
theorem cStr_eq {text : ByteString} (nulFree : 0 ∉ text) : cStr text = text := by
  refine List.takeWhile_eq_self_iff.mpr fun byte member => ?_
  exact decide_eq_true fun isNul => nulFree (isNul ▸ member)

end SmartMetWfs.Templates
