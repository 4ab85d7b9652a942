import Mathlib.Algebra.GroupWithZero.Nat
import Mathlib.Data.FinEnum
import Mathlib.Data.List.Lex
import Mathlib.Order.Basic
import Mathlib.Order.Lattice
import Mathlib.Tactic.Common

/-!
# Byte strings

`std::string` is a sequence of bytes compared lexicographically byte by byte.
Letter case is only ever folded for the ASCII letters.
-/

namespace SmartMetWfs

instance instLinearOrderUInt8 : LinearOrder UInt8 where
  le_refl := UInt8.le_refl
  le_trans _ _ _ := UInt8.le_trans
  le_antisymm _ _ := UInt8.le_antisymm
  le_total := UInt8.le_total
  lt_iff_le_not_ge first second := by
    rw [UInt8.not_le]
    exact ⟨fun below => ⟨UInt8.le_of_lt below, below⟩, And.right⟩
  toDecidableLE := inferInstance

/-- `std::string`: bytes, ordered lexicographically. -/
abbrev ByteString := List UInt8

instance instLawfulBEqByteString : LawfulBEq ByteString := inferInstance

/-- The bytes of an ASCII literal of the source. -/
def ascii (text : String) : ByteString := text.toList.map fun char => UInt8.ofNat char.toNat

/-- Only the capital letters of ASCII are changed. -/
def asciiTolower (byte : UInt8) : UInt8 :=
  if 65 ≤ byte ∧ byte ≤ 90 then byte + 32 else byte

/-- `Fmi::ascii_tolower_copy`. -/
def asciiTolowerCopy (text : ByteString) : ByteString := text.map asciiTolower

/-- What is in lower case stays. -/
theorem asciiTolower_idempotent (byte : UInt8) :
    asciiTolower (asciiTolower byte) = asciiTolower byte := by
  revert byte
  decide +kernel

/-- A text in lower case stays. -/
@[simp] theorem asciiTolowerCopy_idempotent (text : ByteString) :
    asciiTolowerCopy (asciiTolowerCopy text) = asciiTolowerCopy text := by
  rw [asciiTolowerCopy, asciiTolowerCopy, List.map_map]
  exact List.map_congr_left fun byte _ => asciiTolower_idempotent byte

/-- Only the small letters of ASCII are changed. -/
def asciiToupper (byte : UInt8) : UInt8 :=
  if 97 ≤ byte ∧ byte ≤ 122 then byte - 32 else byte

/-- `Fmi::ascii_toupper_copy`. -/
def asciiToupperCopy (text : ByteString) : ByteString := text.map asciiToupper

/-- What is in upper case stays. -/
theorem asciiToupper_idempotent (byte : UInt8) :
    asciiToupper (asciiToupper byte) = asciiToupper byte := by
  revert byte
  decide +kernel

/-- The lower case does not depend on the case before. -/
theorem asciiTolower_asciiToupper (byte : UInt8) :
    asciiTolower (asciiToupper byte) = asciiTolower byte := by
  revert byte
  decide +kernel

/-! ### Letters -/

/-- The byte is an ASCII letter. -/
def isAsciiLetter (byte : UInt8) : Bool :=
  decide (65 ≤ byte ∧ byte ≤ 90) || decide (97 ≤ byte ∧ byte ≤ 122)

/-- Whether a text has a letter whose case can be changed. -/
def hasLetter (text : ByteString) : Bool := text.any isAsciiLetter

/-- The other spelling of a letter. -/
def swapCase (byte : UInt8) : UInt8 := if 65 ≤ byte ∧ byte ≤ 90 then byte + 32 else byte - 32

/-- A byte that is no letter has no lower case of its own. -/
theorem asciiTolower_of_not_letter {byte : UInt8} (caseless : isAsciiLetter byte = false) :
    asciiTolower byte = byte := by
  unfold isAsciiLetter at caseless
  rw [Bool.or_eq_false_iff, decide_eq_false_iff_not] at caseless
  exact if_neg caseless.1

/-- A byte that is no letter has no upper case of its own. -/
theorem asciiToupper_of_not_letter {byte : UInt8} (caseless : isAsciiLetter byte = false) :
    asciiToupper byte = byte := by
  unfold isAsciiLetter at caseless
  rw [Bool.or_eq_false_iff, decide_eq_false_iff_not, decide_eq_false_iff_not] at caseless
  exact if_neg caseless.2

/-- The lower case of a letter is a letter, and nothing else is. -/
theorem isAsciiLetter_asciiTolower (byte : UInt8) :
    isAsciiLetter (asciiTolower byte) = isAsciiLetter byte := by
  revert byte
  decide +kernel

/-- A letter has another spelling with the same lower case. -/
theorem swapCase_letter {byte : UInt8} (letter : isAsciiLetter byte = true) :
    swapCase byte ≠ byte ∧ asciiTolower (swapCase byte) = asciiTolower byte := by
  revert byte
  decide +kernel

/-- A text in lower case has a letter when the text has one. -/
@[simp] theorem hasLetter_asciiTolowerCopy (text : ByteString) :
    hasLetter (asciiTolowerCopy text) = hasLetter text := by
  rw [hasLetter, asciiTolowerCopy, List.any_map]
  exact congrArg text.any (funext isAsciiLetter_asciiTolower)

theorem hasLetter_congr {text text' : ByteString}
    (same : asciiTolowerCopy text = asciiTolowerCopy text') : hasLetter text = hasLetter text' := by
  rw [← hasLetter_asciiTolowerCopy, same, hasLetter_asciiTolowerCopy]

/-- A text without letters has one spelling. -/
theorem eq_of_not_hasLetter {text text' : ByteString}
    (same : asciiTolowerCopy text = asciiTolowerCopy text') (caseless : hasLetter text = false) :
    text = text' := by
  have unchanged : ∀ text : ByteString, hasLetter text = false → asciiTolowerCopy text = text := by
    intro text caseless
    refine (List.map_congr_left fun byte member => ?_).trans (List.map_id text)
    exact asciiTolower_of_not_letter (Bool.eq_false_iff.mpr fun letter =>
      Bool.eq_false_iff.mp caseless (List.any_eq_true.mpr ⟨byte, member, letter⟩))
  rw [← unchanged text caseless, same, unchanged text' (hasLetter_congr same ▸ caseless)]

/-- A text with a letter has another spelling. -/
theorem exists_other_spelling {text : ByteString} (cased : hasLetter text = true) :
    ∃ other, other ≠ text ∧ asciiTolowerCopy other = asciiTolowerCopy text := by
  obtain ⟨byte, member, letter⟩ := List.any_eq_true.mp cased
  obtain ⟨before, after, rfl⟩ := List.append_of_mem member
  obtain ⟨distinct, same⟩ := swapCase_letter letter
  refine ⟨before ++ swapCase byte :: after, fun equal => ?_, ?_⟩
  · exact distinct (List.cons.inj (List.append_cancel_left equal)).1
  · simp [asciiTolowerCopy, same]

example : asciiTolowerCopy (ascii "fes:And") = ascii "fes:and" := by decide

end SmartMetWfs
