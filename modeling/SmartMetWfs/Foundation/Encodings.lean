import Mathlib.Algebra.Group.Nat.Defs
import Mathlib.Data.List.Basic
import Mathlib.Tactic.Common

/-!
# Base64 and SHA-1

A Base64 codec is known by two laws: decoding undoes encoding, and the encoder
stays in its alphabet. The standard codec satisfies them group by group, three
bytes to four characters. A digest is any function to twenty bytes; SHA-1 is one.
-/

namespace SmartMetWfs.Foundation

/-- `A-Z`, `a-z`, `0-9`, `+`, `/` and the padding character `=`. -/
def IsBase64Char (c : UInt8) : Prop :=
  (65 ≤ c ∧ c ≤ 90) ∨ (97 ≤ c ∧ c ≤ 122) ∨ (48 ≤ c ∧ c ≤ 57) ∨ c = 43 ∨ c = 47 ∨ c = 61

instance : DecidablePred IsBase64Char := fun c => by
  unfold IsBase64Char
  infer_instance

/-- A Base64 codec. Nothing is assumed of what it decodes texts to that it does not
produce itself. -/
structure Base64 where
  encode : List UInt8 → List UInt8
  decode : List UInt8 → Option (List UInt8)
  decode_encode : ∀ data, decode (encode data) = some data
  encode_alphabet : ∀ data, ∀ c ∈ encode data, IsBase64Char c

namespace Base64

/-- The character of a six-bit value. -/
def digit (value : Nat) : UInt8 :=
  if value < 26 then UInt8.ofNat (65 + value)
  else if value < 52 then UInt8.ofNat (71 + value)
  else if value < 62 then UInt8.ofNat (value - 4)
  else if value = 62 then 43
  else 47

/-- The six-bit value of a character. -/
def digitValue (c : UInt8) : Option Nat :=
  if 65 ≤ c ∧ c ≤ 90 then some (c.toNat - 65)
  else if 97 ≤ c ∧ c ≤ 122 then some (c.toNat - 71)
  else if 48 ≤ c ∧ c ≤ 57 then some (c.toNat + 4)
  else if c = 43 then some 62
  else if c = 47 then some 63
  else none

/-- A digit has the value it was written for. -/
theorem digitValue_digit {value : Nat} (small : value < 64) :
    digitValue (digit value) = some value := by
  have all : ∀ index : Fin 64, digitValue (digit index.val) = some index.val := by decide
  exact all ⟨value, small⟩

/-- A digit is in the alphabet. -/
theorem digit_isBase64Char {value : Nat} (small : value < 64) : IsBase64Char (digit value) := by
  have all : ∀ index : Fin 64, IsBase64Char (digit index.val) := by decide
  exact all ⟨value, small⟩

/-- A digit is not taken for padding. -/
theorem digit_ne_padding {value : Nat} (small : value < 64) : digit value ≠ 61 := by
  have all : ∀ index : Fin 64, digit index.val ≠ 61 := by decide
  exact all ⟨value, small⟩

/-- Three bytes are four digits; the last group is filled up with padding. -/
def encodeStandard : List UInt8 → List UInt8
  | [] => []
  | [a] => [digit (a.toNat / 4), digit (a.toNat % 4 * 16), 61, 61]
  | [a, b] =>
      [digit (a.toNat / 4), digit (a.toNat % 4 * 16 + b.toNat / 16), digit (b.toNat % 16 * 4), 61]
  | a :: b :: c :: rest =>
      digit (a.toNat / 4) :: digit (a.toNat % 4 * 16 + b.toNat / 16) ::
        digit (b.toNat % 16 * 4 + c.toNat / 64) :: digit (c.toNat % 64) :: encodeStandard rest

/-- Padding ends the text: two padding characters leave one byte, one leaves two. -/
def decodeStandard : List UInt8 → Option (List UInt8)
  | [] => some []
  | w :: x :: y :: z :: rest => do
      let first ← digitValue w
      let second ← digitValue x
      let a := UInt8.ofNat (first * 4 + second / 16)
      if y = 61 then
        if z = 61 ∧ rest = [] then some [a] else none
      else
        let third ← digitValue y
        let b := UInt8.ofNat (second % 16 * 16 + third / 4)
        if z = 61 then
          if rest = [] then some [a, b] else none
        else
          let fourth ← digitValue z
          let c := UInt8.ofNat (third % 4 * 64 + fourth)
          let decoded ← decodeStandard rest
          some (a :: b :: c :: decoded)
  | _ => none

/-- What has been encoded is decoded again. -/
theorem decodeStandard_encodeStandard (data : List UInt8) :
    decodeStandard (encodeStandard data) = some data := by
  induction data using encodeStandard.induct with
  | case1 => rfl
  | case2 a =>
      have bound := a.toNat_lt
      rw [encodeStandard, decodeStandard, digitValue_digit (by omega), digitValue_digit (by omega)]
      have same : UInt8.ofNat (a.toNat / 4 * 4 + a.toNat % 4 * 16 / 16) = a := by
        rw [show a.toNat / 4 * 4 + a.toNat % 4 * 16 / 16 = a.toNat by omega, UInt8.ofNat_toNat]
      exact congrArg (fun byte => some [byte]) same
  | case3 a b =>
      have boundA := a.toNat_lt
      have boundB := b.toNat_lt
      rw [encodeStandard, decodeStandard, digitValue_digit (by omega), digitValue_digit (by omega)]
      simp only [Option.bind_eq_bind, Option.bind_some,
        if_neg (digit_ne_padding (show b.toNat % 16 * 4 < 64 by omega))]
      rw [digitValue_digit (by omega)]
      have sameA : a.toNat / 4 * 4 + (a.toNat % 4 * 16 + b.toNat / 16) / 16 = a.toNat := by omega
      have sameB : (a.toNat % 4 * 16 + b.toNat / 16) % 16 * 16 + b.toNat % 16 * 4 / 4 =
          b.toNat := by
        omega
      simp only [Option.bind_some, sameA, sameB, UInt8.ofNat_toNat]
      rfl
  | case4 a b c rest ih =>
      have boundA := a.toNat_lt
      have boundB := b.toNat_lt
      have boundC := c.toNat_lt
      rw [encodeStandard, decodeStandard, digitValue_digit (by omega), digitValue_digit (by omega)]
      simp only [Option.bind_eq_bind, Option.bind_some,
        if_neg (digit_ne_padding (show b.toNat % 16 * 4 + c.toNat / 64 < 64 by omega)),
        if_neg (digit_ne_padding (show c.toNat % 64 < 64 by omega))]
      rw [digitValue_digit (by omega), digitValue_digit (by omega), ih]
      have sameA : a.toNat / 4 * 4 + (a.toNat % 4 * 16 + b.toNat / 16) / 16 = a.toNat := by omega
      have sameB : (a.toNat % 4 * 16 + b.toNat / 16) % 16 * 16 +
          (b.toNat % 16 * 4 + c.toNat / 64) / 4 = b.toNat := by omega
      have sameC : (b.toNat % 16 * 4 + c.toNat / 64) % 4 * 64 + c.toNat % 64 = c.toNat := by omega
      simp only [Option.bind_some, sameA, sameB, sameC, UInt8.ofNat_toNat]

/-- An encoded text consists of characters of the alphabet. -/
theorem encodeStandard_alphabet (data : List UInt8) :
    ∀ c ∈ encodeStandard data, IsBase64Char c := by
  induction data using encodeStandard.induct with
  | case1 => exact List.forall_mem_nil _
  | case2 a =>
      have bound := a.toNat_lt
      simp only [encodeStandard, List.forall_mem_cons]
      exact ⟨digit_isBase64Char (by omega), digit_isBase64Char (by omega), by decide, by decide,
        List.forall_mem_nil _⟩
  | case3 a b =>
      have boundA := a.toNat_lt
      have boundB := b.toNat_lt
      simp only [encodeStandard, List.forall_mem_cons]
      exact ⟨digit_isBase64Char (by omega), digit_isBase64Char (by omega),
        digit_isBase64Char (by omega), by decide, List.forall_mem_nil _⟩
  | case4 a b c rest ih =>
      have boundA := a.toNat_lt
      have boundB := b.toNat_lt
      have boundC := c.toNat_lt
      simp only [encodeStandard, List.forall_mem_cons]
      exact ⟨digit_isBase64Char (by omega), digit_isBase64Char (by omega),
        digit_isBase64Char (by omega), digit_isBase64Char (by omega), ih⟩

/-- The standard codec. -/
def standard : Base64 :=
  ⟨encodeStandard, decodeStandard, decodeStandard_encodeStandard, encodeStandard_alphabet⟩

/-- Four characters are decoded to three bytes at most. -/
def ThreeOfFour (codec : Base64) : Prop :=
  ∀ text data, codec.decode text = some data → 4 * data.length ≤ 3 * text.length

/-- The standard encoding makes four characters out of three bytes. -/
theorem standard_threeOfFour : ThreeOfFour standard := by
  intro text
  change ∀ data, decodeStandard text = some data → 4 * data.length ≤ 3 * text.length
  induction text using decodeStandard.induct with
  | case1 =>
      intro data decoded
      cases decoded
      exact Nat.le_refl _
  | case2 w x y z rest ih =>
      intro data decoded
      unfold decodeStandard at decoded
      simp only [Option.bind_eq_bind, Option.bind_eq_some_iff] at decoded
      obtain ⟨first, _, second, _, decoded⟩ := decoded
      split at decoded
      · split at decoded
        · cases decoded
          simp only [List.length_cons, List.length_nil]
          omega
        · cases decoded
      · simp only [Option.bind_eq_some_iff] at decoded
        obtain ⟨third, _, decoded⟩ := decoded
        split at decoded
        · split at decoded
          · cases decoded
            simp only [List.length_cons, List.length_nil]
            omega
          · cases decoded
        · simp only [Option.bind_eq_some_iff] at decoded
          obtain ⟨fourth, _, others, decodedRest, same⟩ := decoded
          cases same
          have := ih others decodedRest
          simp only [List.length_cons]
          omega
  | case3 text notNil notFour =>
      intro data decoded
      unfold decodeStandard at decoded
      split at decoded
      · exact absurd rfl notNil
      · exact absurd rfl (notFour _ _ _ _ _)
      · cases decoded

end Base64

/-- A message digest of twenty bytes. -/
abbrev Digest := List UInt8 → Vector UInt8 20

namespace Sha1

/-- The bits that are shifted out on the left come in on the right. -/
def rotateLeft (word count : UInt32) : UInt32 := (word <<< count) ||| (word >>> (32 - count))

/-- The message, a set bit, zeros and the bit length, filling up whole blocks. -/
def pad (message : List UInt8) : List UInt8 :=
  message ++ [0x80] ++ List.replicate ((119 - message.length % 64) % 64) 0 ++
    (List.range 8).map fun index => UInt8.ofNat (8 * message.length / 256 ^ (7 - index))

/-- The five chaining words. -/
structure Chain where
  a : UInt32
  b : UInt32
  c : UInt32
  d : UInt32
  e : UInt32

/-- The chaining value that a digest begins with. -/
def Chain.initial : Chain := ⟨0x67452301, 0xEFCDAB89, 0x98BADCFE, 0x10325476, 0xC3D2E1F0⟩

/-- The words are added one by one, without carry out of a word. -/
def Chain.add (first second : Chain) : Chain :=
  ⟨first.a + second.a, first.b + second.b, first.c + second.c, first.d + second.d,
    first.e + second.e⟩

/-- One round of a block, with the function and the constant of its index. -/
def Chain.round (chain : Chain) (index : Nat) (word : UInt32) : Chain :=
  let mixed : UInt32 × UInt32 :=
    if index < 20 then ((chain.b &&& chain.c) ||| (~~~chain.b &&& chain.d), 0x5A827999)
    else if index < 40 then (chain.b ^^^ chain.c ^^^ chain.d, 0x6ED9EBA1)
    else if index < 60 then
      ((chain.b &&& chain.c) ||| (chain.b &&& chain.d) ||| (chain.c &&& chain.d), 0x8F1BBCDC)
    else (chain.b ^^^ chain.c ^^^ chain.d, 0xCA62C1D6)
  ⟨rotateLeft chain.a 5 + mixed.1 + chain.e + mixed.2 + word, chain.a, rotateLeft chain.b 30,
    chain.c, chain.d⟩

/-- The big-endian words of a block, extended to one word a round. -/
def schedule (block : List UInt8) : List UInt32 :=
  let words : List UInt32 := (List.range 16).map fun index =>
    (List.range 4).foldl (fun (word : UInt32) offset =>
      (word <<< 8) ||| (block.getD (4 * index + offset) 0).toUInt32) 0
  (List.range 64).foldl (fun words index =>
    words ++ [rotateLeft (words.getD (index + 13) 0 ^^^ words.getD (index + 8) 0 ^^^
      words.getD (index + 2) 0 ^^^ words.getD index 0) 1]) words

/-- The rounds of a block are added to the value before it. -/
def Chain.block (chain : Chain) (block : List UInt8) : Chain :=
  chain.add ((schedule block).zipIdx.foldl (fun chain word => chain.round word.2 word.1) chain)

/-- The SHA-1 digest. -/
def digest : Digest := fun message =>
  let padded := pad message
  let chain := (List.range (padded.length / 64)).foldl
    (fun chain index => chain.block ((padded.drop (64 * index)).take 64)) Chain.initial
  let words := [chain.a, chain.b, chain.c, chain.d, chain.e]
  Vector.ofFn fun index =>
    (words.getD (index.val / 4) 0 >>> UInt32.ofNat (24 - 8 * (index.val % 4))).toUInt8

end Sha1

end SmartMetWfs.Foundation
