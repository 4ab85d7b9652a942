import SmartMetWfs.Handlers.TemplateInit
import SmartMetWfs.Templates.References
import SmartMetWfs.Xml.Numerals

/-!
# Parsing the definition of a template item

`ParameterTemplateItem::parse` reads a definition into an object that may already hold
another one. A text is a reference, the absent mark or a constant; a text that only begins
like a reference is refused. Four fields are cleared before the grammar is tried, so that a
refused definition leaves an item that is neither a constant nor a reference.

The grammar skips white space before each of its characters, but not within a name or a
default.
-/

namespace SmartMetWfs.Handlers

open Foundation Parameters Xml

/-! ### The grammar -/

/-- The text without its leading blanks. -/
def skipSpaces (src : ByteString) : ByteString := src.dropWhile isSpace

/-- `qi::char_(expected)`: what follows it. -/
def readChar (expected : UInt8) (src : ByteString) : Option ByteString :=
  match skipSpaces src with
  | char :: rest => if char = expected then some rest else none
  | [] => none

/-- `name_p`. -/
def readNameWord (src : ByteString) : Option (ByteString × ByteString) :=
  let src := skipSpaces src
  let name := src.takeWhile Templates.isNameByte
  if name = [] then none else some (name, src.dropWhile Templates.isNameByte)

/-- `qi::uint_`, an `unsigned` of 32 bits. -/
def readUInt (src : ByteString) : Option (Nat × ByteString) :=
  let src := skipSpaces src
  let digits := src.takeWhile isDecimalDigit
  if digits = [] ∨ 2 ^ 32 ≤ digitsValue digits then none
  else some (digitsValue digits, src.dropWhile isDecimalDigit)

/-- The text before the closing brace, in `dflt_p` and `gen_ref_p`. -/
def readUntilBrace (src : ByteString) : ByteString × ByteString :=
  let src := skipSpaces src
  (src.takeWhile (· ≠ Templates.closeBrace), src.dropWhile (· ≠ Templates.closeBrace))

/-- `cond_ind_p`. -/
def readIndex (src : ByteString) : Option Nat × ByteString :=
  let index := do
    let (index, rest) ← readUInt (← readChar 91 src)
    return (some index, ← readChar 93 rest)
  index.getD (none, src)

/-- `cond_dflt_p`: a default, a redirection, or neither. -/
def readDefault (src : ByteString) : Option ByteString × Option ByteString × ByteString :=
  match readChar 58 src with
  | some rest =>
      let (text, rest) := readUntilBrace rest
      (some text, none, rest)
  | none =>
      match (readChar 62 src).bind readNameWord with
      | some (name, rest) => (none, some name, rest)
      | none => (none, none, src)

/-- `ref_type_p`: whether the reference is weak. -/
def readRefType (src : ByteString) : Option (Bool × ByteString) :=
  match readChar Templates.dollar src with
  | some rest => some (false, rest)
  | none => (readChar 37 src).map fun rest => (true, rest)

/-- `ref_p`; a question mark before the name is ignored. -/
def readReference (src : ByteString) : Option ConfiguredItem := do
  let (weak, src) ← readRefType src
  let src ← readChar Templates.openBrace src
  let (paramRef, src) ← readNameWord ((readChar 63 src).getD src)
  let (paramInd, src) := readIndex src
  let (defaultValue, redirectName, src) := readDefault src
  let src ← readChar Templates.closeBrace src
  if skipSpaces src = [] then
    some ⟨⟨false, none, some paramRef, paramInd, defaultValue, redirectName⟩, weak⟩
  else none

/-- `absent_p`. -/
def isAbsentMark (src : ByteString) : Bool :=
  match skipSpaces src with
  | 36 :: 123 :: rest => (readChar Templates.closeBrace rest).map skipSpaces = some []
  | _ => false

/-- `gen_ref_p`. -/
def beginsLikeReference (src : ByteString) : Bool :=
  ((readRefType src).bind fun (_, src) => (readChar Templates.openBrace src).bind fun src =>
    readChar Templates.closeBrace (readUntilBrace src).2).isSome

/-! ### The item -/

/-- The item as it is constructed. -/
def ConfiguredItem.initial : ConfiguredItem := ⟨⟨true, none, none, none, none, none⟩, false⟩

namespace ConfiguredItem

/-- What `parse` does to a text first. -/
def clear (configured : ConfiguredItem) : ConfiguredItem :=
  { configured with item := { configured.item with
      plainText := none, paramRef := none, defaultValue := none, paramInd := none } }

/-- `reset`; the redirection stays. -/
def reset (configured : ConfiguredItem) : ConfiguredItem :=
  ⟨{ configured.item with
      absent := false, plainText := none, paramRef := none, paramInd := none,
      defaultValue := none }, false⟩

/-- `parse` of a text: whether it throws, and the item. -/
def parseText (itemDef : ByteString) (allowAbsent : Bool) (configured : ConfiguredItem) :
    Except ByteString Unit × ConfiguredItem :=
  let configured := configured.clear
  let src := trimCopy itemDef
  match readReference src with
  | some ⟨reference, weak⟩ =>
      let configured := configured.reset
      let item := { configured.item with
        absent := false
        paramRef := reference.paramRef
        paramInd := reference.paramInd
        defaultValue := reference.defaultValue
        redirectName := reference.redirectName }
      (.ok (), ⟨item, weak⟩)
  | none =>
      if allowAbsent ∧ isAbsentMark src then
        let configured := configured.reset
        (.ok (), { configured with item := { configured.item with absent := true } })
      else if beginsLikeReference src then (.error src, configured)
      else
        let configured := configured.reset
        (.ok (), { configured with
          item := { configured.item with plainText := some (.string itemDef) } })

/-- `parse` of a value. -/
def parse (itemDef : Value) (allowAbsent : Bool) (configured : ConfiguredItem) :
    Except ByteString Unit × ConfiguredItem :=
  match itemDef with
  | .string text => configured.parseText text allowAbsent
  | itemDef =>
      let item := { configured.item with
        absent := false
        plainText := some itemDef
        paramRef := none
        defaultValue := none
        paramInd := none }
      (.ok (), ⟨item, false⟩)

end ConfiguredItem

end SmartMetWfs.Handlers
