import Mathlib.Data.FinEnum
import Mathlib.Data.List.TakeWhile
import Mathlib.Tactic.Common

/-!
# Form encoding of queries

The query part of a URL is a list of pairs separated by `&`, a pair being a name and a
value separated by `=`. A plus sign stands for a space and `%XX` for the byte with that
hexadecimal code. A writer that codes every byte it counts as unsafe is read back as long as
the percent sign, the plus sign and the two separators are among them.
-/

namespace SmartMetWfs.Foundation.FormEncoding

/-- Upper case hexadecimal digit. -/
def hexDigit (value : UInt8) : UInt8 := if value < 10 then 48 + value else 55 + value

/-- The value of a hexadecimal digit, in either case. -/
def hexValue (digit : UInt8) : Option UInt8 :=
  if 48 ≤ digit ∧ digit ≤ 57 then some (digit - 48)
  else if 65 ≤ digit ∧ digit ≤ 70 then some (digit - 55)
  else if 97 ≤ digit ∧ digit ≤ 102 then some (digit - 87)
  else none

/-- `%XX`. -/
def percent (byte : UInt8) : List UInt8 := [37, hexDigit (byte / 16), hexDigit (byte % 16)]

/-- Decode a name or a value. -/
def decode : List UInt8 → List UInt8
  | [] => []
  | 43 :: rest => 32 :: decode rest
  | 37 :: high :: low :: rest =>
      match hexValue high, hexValue low with
      | some high, some low => (16 * high + low) :: decode rest
      | _, _ => 37 :: decode (high :: low :: rest)
  | byte :: rest => byte :: decode rest

/-- The pieces of a query. An empty query has none. -/
def pieces (query : List UInt8) : List (List UInt8) := if query = [] then [] else query.splitOn 38

/-- Split a piece at its first `=`. -/
def splitPair (piece : List UInt8) : List UInt8 × List UInt8 :=
  (piece.takeWhile (· ≠ 61), (piece.dropWhile (· ≠ 61)).tail)

/-- The pairs of a query. -/
def decodeQuery (query : List UInt8) : List (List UInt8 × List UInt8) :=
  (pieces query).map fun piece => Prod.map decode decode (splitPair piece)

section Encoding

variable (isUnsafe : UInt8 → Bool)

/-- An unsafe byte is written with a percent sign, a space with a plus sign. -/
def encodeByte (byte : UInt8) : List UInt8 :=
  if isUnsafe byte then percent byte else if byte = 32 then [43] else [byte]

/-- The encoded bytes of a text, one after the other. -/
def encode (text : List UInt8) : List UInt8 := text.flatMap (encodeByte isUnsafe)

/-- Name and value are encoded each for itself, with an equals sign between them. -/
def encodePair (pair : List UInt8 × List UInt8) : List UInt8 :=
  encode isUnsafe pair.1 ++ 61 :: encode isUnsafe pair.2

/-- The pairs one after the other with a separator between them. -/
def encodeQuery (pairs : List (List UInt8 × List UInt8)) : List UInt8 :=
  List.intercalate [38] (pairs.map (encodePair isUnsafe))

/-- One more pair comes after a separator unless it is the first. -/
theorem encodeQuery_concat (pairs : List (List UInt8 × List UInt8))
    (pair : List UInt8 × List UInt8) :
    encodeQuery isUnsafe (pairs ++ [pair]) =
      encodeQuery isUnsafe pairs ++ (if pairs = [] then [] else [38]) ++
        encodePair isUnsafe pair := by
  induction pairs with
  | nil => simp [encodeQuery]
  | cons first pairs ih =>
      have nonempty : (pairs ++ [pair]).map (encodePair isUnsafe) ≠ [] := by simp
      rw [if_neg (List.cons_ne_nil _ _), encodeQuery, List.cons_append, List.map_cons,
        List.intercalate_cons_of_ne_nil nonempty]
      change _ ++ encodeQuery isUnsafe (pairs ++ [pair]) = _
      rw [ih]
      cases pairs with
      | nil => simp [encodeQuery]
      | cons second pairs => simp [encodeQuery]

/-- The bytes with a meaning of their own in a query are coded. -/
structure Coded : Prop where
  percentSign : isUnsafe 37 = true
  plus : isUnsafe 43 = true
  ampersand : isUnsafe 38 = true
  equals : isUnsafe 61 = true

end Encoding

/-! ### Reading back -/

/-- The two digits of a byte are read back, and they give the byte. -/
theorem hexValue_hexDigit (byte : UInt8) :
    hexValue (hexDigit (byte / 16)) = some (byte / 16) ∧
      hexValue (hexDigit (byte % 16)) = some (byte % 16) ∧
        16 * (byte / 16) + byte % 16 = byte := by
  revert byte
  decide +kernel

/-- The separators and the plus sign are no hexadecimal digits. -/
theorem percent_plain (byte : UInt8) : 38 ∉ percent byte ∧ 61 ∉ percent byte := by
  revert byte
  decide +kernel

/-- A byte written with a percent sign is decoded to itself. -/
theorem decode_percent (byte : UInt8) (rest : List UInt8) :
    decode (percent byte ++ rest) = byte :: decode rest := by
  obtain ⟨high, low, whole⟩ := hexValue_hexDigit byte
  change decode (37 :: hexDigit (byte / 16) :: hexDigit (byte % 16) :: rest) = _
  rw [decode]
  simp only [high, low, whole]

/-- A byte that is neither a plus sign nor a percent sign stands for itself. -/
theorem decode_plain {byte : UInt8} (notPlus : byte ≠ 43) (notPercent : byte ≠ 37)
    (rest : List UInt8) : decode (byte :: rest) = byte :: decode rest := by
  rw [decode]
  · exact notPlus
  · intro high low rest' isPercent
    exact absurd isPercent notPercent

variable {isUnsafe : UInt8 → Bool}

/-- An encoded text is decoded whatever follows it. -/
theorem decode_encode_append (coded : Coded isUnsafe) (text rest : List UInt8) :
    decode (encode isUnsafe text ++ rest) = text ++ decode rest := by
  induction text with
  | nil => rfl
  | cons byte text ih =>
      rw [encode, List.flatMap_cons, List.append_assoc]
      change decode (encodeByte isUnsafe byte ++ (encode isUnsafe text ++ rest)) = _
      unfold encodeByte
      split
      · rw [decode_percent, ih, List.cons_append]
      · next safeByte =>
          split
          · next isSpace =>
              rw [isSpace]
              exact congrArg (32 :: ·) ih
          · have notPlus : byte ≠ 43 := fun same => safeByte (same ▸ coded.plus)
            have notPercent : byte ≠ 37 := fun same => safeByte (same ▸ coded.percentSign)
            exact (decode_plain notPlus notPercent _).trans (congrArg (byte :: ·) ih)

/-- An encoded text is decoded to itself. -/
theorem decode_encode (coded : Coded isUnsafe) (text : List UInt8) :
    decode (encode isUnsafe text) = text := by
  have decoded := decode_encode_append coded text []
  rwa [List.append_nil, decode, List.append_nil] at decoded

/-- No separator stands in a coded text. -/
theorem separators_not_mem_encode (coded : Coded isUnsafe) (text : List UInt8) :
    38 ∉ encode isUnsafe text ∧ 61 ∉ encode isUnsafe text := by
  have notCoded : ∀ byte, 38 ∉ encodeByte isUnsafe byte ∧ 61 ∉ encodeByte isUnsafe byte := by
    intro byte
    unfold encodeByte
    split
    · exact percent_plain byte
    · next safeByte =>
        split
        · decide
        · exact ⟨fun member => safeByte (List.mem_singleton.mp member ▸ coded.ampersand),
            fun member => safeByte (List.mem_singleton.mp member ▸ coded.equals)⟩
  constructor
  · intro member
    obtain ⟨byte, _, inByte⟩ := List.mem_flatMap.mp member
    exact (notCoded byte).1 inByte
  · intro member
    obtain ⟨byte, _, inByte⟩ := List.mem_flatMap.mp member
    exact (notCoded byte).2 inByte

/-- The first equals sign ends a name that has none itself. -/
theorem splitPair_append {name : List UInt8} (plain : 61 ∉ name) (value : List UInt8) :
    splitPair (name ++ 61 :: value) = (name, value) := by
  have before : ∀ byte ∈ name, decide (byte ≠ 61) = true := fun byte member =>
    decide_eq_true fun same => plain (same ▸ member)
  unfold splitPair
  rw [List.takeWhile_append_of_pos before, List.dropWhile_append_of_pos before]
  simp

/-- An encoded pair is split and decoded to itself. -/
theorem splitPair_encodePair (coded : Coded isUnsafe) (pair : List UInt8 × List UInt8) :
    Prod.map decode decode (splitPair (encodePair isUnsafe pair)) = pair := by
  rw [encodePair, splitPair_append (separators_not_mem_encode coded pair.1).2]
  exact Prod.ext (decode_encode coded pair.1) (decode_encode coded pair.2)

/-- The pieces of a query are its pairs, coded. -/
theorem pieces_encodeQuery (coded : Coded isUnsafe) (pairs : List (List UInt8 × List UInt8)) :
    pieces (encodeQuery isUnsafe pairs) = pairs.map (encodePair isUnsafe) := by
  cases pairs with
  | nil => rfl
  | cons pair pairs =>
      have nonempty : encodeQuery isUnsafe (pair :: pairs) ≠ [] := by
        have someText : encodePair isUnsafe pair ≠ [] :=
          List.append_ne_nil_of_right_ne_nil _ (List.cons_ne_nil _ _)
        rw [encodeQuery, List.map_cons]
        cases pairs with
        | nil => rwa [List.map_nil, List.intercalate_singleton]
        | cons next pairs =>
            rw [List.map_cons, List.intercalate_cons_cons]
            exact List.append_ne_nil_of_left_ne_nil (List.append_ne_nil_of_left_ne_nil someText _) _
      have plain : ∀ piece ∈ (pair :: pairs).map (encodePair isUnsafe), 38 ∉ piece := by
        intro piece member
        obtain ⟨pair, _, rfl⟩ := List.mem_map.mp member
        intro inPiece
        rcases List.mem_append.mp inPiece with inName | inRest
        · exact (separators_not_mem_encode coded pair.1).1 inName
        · rcases List.mem_cons.mp inRest with absurd_ | inValue
          · exact absurd absurd_ (by decide)
          · exact (separators_not_mem_encode coded pair.2).1 inValue
      rw [pieces, if_neg nonempty]
      exact List.splitOn_intercalate 38 plain (List.cons_ne_nil _ _)

/-- A query is read back as the pairs it was written from. -/
theorem decodeQuery_encodeQuery (coded : Coded isUnsafe)
    (pairs : List (List UInt8 × List UInt8)) :
    decodeQuery (encodeQuery isUnsafe pairs) = pairs := by
  rw [decodeQuery, pieces_encodeQuery coded, List.map_map]
  exact (List.map_congr_left fun pair _ => splitPair_encodePair coded pair).trans (List.map_id _)

end SmartMetWfs.Foundation.FormEncoding
