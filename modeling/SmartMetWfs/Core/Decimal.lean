import SmartMetWfs.Core.ByteString

/-!
# Decimal numerals

The text of a number, as `std::to_string` and `boost::format` write it. Different
numbers have different texts.
-/

namespace SmartMetWfs

/-- The decimal digits of a number. -/
def decimal (number : Nat) : ByteString :=
  (Nat.toDigits 10 number).map fun char => UInt8.ofNat char.toNat

/-- The decimal text of a number with its sign. -/
def intDecimal (number : Int) : ByteString :=
  if number < 0 then ascii "-" ++ decimal number.natAbs else decimal number.natAbs

/-- The code of a digit is between those of zero and nine. -/
theorem digit_toNat {char : Char} (digit : char.isDigit = true) :
    48 ≤ char.toNat ∧ char.toNat ≤ 57 := by
  unfold Char.isDigit at digit
  rw [Bool.and_eq_true, decide_eq_true_eq, decide_eq_true_eq] at digit
  exact digit

/-- A decimal numeral consists of digits. -/
theorem decimal_digit {number : Nat} {byte : UInt8} (member : byte ∈ decimal number) :
    48 ≤ byte.toNat ∧ byte.toNat ≤ 57 := by
  obtain ⟨char, inDigits, rfl⟩ := List.mem_map.mp member
  have range := digit_toNat (Nat.isDigit_of_mem_toDigits (by decide) (by decide) inDigits)
  rw [UInt8.toNat_ofNat']
  omega

/-- A text with a letter is no number. -/
theorem ne_decimal_of_mem {text : ByteString} {byte : UInt8} (member : byte ∈ text)
    (letter : 57 < byte.toNat) (number : Nat) : text ≠ decimal number := by
  rintro rfl
  exact letter.not_ge (decimal_digit member).2

/-- The number is read back off its digits. -/
theorem ofDigitChars_decimal (number : Nat) :
    Nat.ofDigitChars 10 ((decimal number).map fun byte => Char.ofNat byte.toNat) 0 = number := by
  have chars : (decimal number).map (fun byte => Char.ofNat byte.toNat) =
      Nat.toDigits 10 number := by
    rw [decimal, List.map_map]
    refine (List.map_congr_left fun char member => ?_).trans (List.map_id _)
    have range := digit_toNat (Nat.isDigit_of_mem_toDigits (by decide) (by decide) member)
    have small : char.toNat % 256 = char.toNat := Nat.mod_eq_of_lt (by omega)
    change Char.ofNat (UInt8.ofNat char.toNat).toNat = char
    rw [UInt8.toNat_ofNat', small, Char.ofNat_toNat]
  rw [chars, Nat.ofDigitChars_ten_toDigits]

/-- Different numbers have different numerals. -/
theorem decimal_injective : Function.Injective decimal := by
  intro first second same
  rw [← ofDigitChars_decimal first, same, ofDigitChars_decimal second]

example : decimal 1024 = ascii "1024" := by decide

end SmartMetWfs
