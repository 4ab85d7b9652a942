import Mathlib.Data.List.Basic
import Mathlib.Data.Nat.Bitwise
import Mathlib.Tactic.Common

/-!
# Bits of numbers and of byte blocks

A byte block is read as a sequence of bits, the most significant bit of each byte
first. `bitAt` addresses the bits by position, so that setting a single bit of a
block changes the sequence at that position only. Fixed-width numbers are laid
out by `bitsMSB`, again most significant bit first.
-/

namespace SmartMetWfs.Foundation

/-- The low `width` bits of a number, most significant first. -/
def bitsMSB : Nat → Nat → List Bool
  | 0, _ => []
  | width + 1, value => value.testBit width :: bitsMSB width value

/-- The number with these binary digits, most significant first. -/
def ofBitsMSB : List Bool → Nat
  | [] => 0
  | bit :: bits => 2 ^ bits.length * bit.toNat + ofBitsMSB bits

/-- So many bits are a number below that power of two. -/
theorem ofBitsMSB_lt (bits : List Bool) : ofBitsMSB bits < 2 ^ bits.length := by
  induction bits with
  | nil => exact Nat.one_pos
  | cons bit bits ih =>
      rw [ofBitsMSB, List.length_cons, pow_succ]
      have top : 2 ^ bits.length * bit.toNat ≤ 2 ^ bits.length * 1 :=
        Nat.mul_le_mul_left _ (Bool.toNat_le bit)
      omega

/-- The bits of a number depend on its lowest bits only. -/
theorem bitsMSB_congr {width value value' : Nat}
    (same : ∀ index, index < width → value.testBit index = value'.testBit index) :
    bitsMSB width value = bitsMSB width value' := by
  induction width with
  | zero => rfl
  | succ width ih =>
      rw [bitsMSB, bitsMSB, same width width.lt_succ_self,
        ih fun index below => same index (Nat.lt_succ_of_lt below)]

/-- Digits make a number that has these digits. -/
theorem bitsMSB_ofBitsMSB (bits : List Bool) : bitsMSB bits.length (ofBitsMSB bits) = bits := by
  induction bits with
  | nil => rfl
  | cons bit bits ih =>
      have digits : ∀ index, (ofBitsMSB (bit :: bits)).testBit index =
          if index < bits.length then (ofBitsMSB bits).testBit index
          else bit.toNat.testBit (index - bits.length) :=
        Nat.testBit_two_pow_mul_add bit.toNat (ofBitsMSB_lt bits)
      have low : bitsMSB bits.length (ofBitsMSB (bit :: bits)) = bits := by
        refine (bitsMSB_congr fun index below => ?_).trans ih
        rw [digits, if_pos below]
      rw [List.length_cons, bitsMSB, low, digits, if_neg (Nat.lt_irrefl _), Nat.sub_self]
      cases bit <;> rfl

theorem length_bitsMSB (width value : Nat) : (bitsMSB width value).length = width := by
  induction width with
  | zero => rfl
  | succ width ih => rw [bitsMSB, List.length_cons, ih]

/-- The remainder with one more bit has the value of that bit more. -/
theorem mod_two_pow_succ (value width : Nat) :
    value % 2 ^ (width + 1) = value % 2 ^ width + 2 ^ width * (value.testBit width).toNat := by
  rw [Nat.mod_pow_succ, Nat.testBit_eq_decide_div_mod_eq]
  rcases Nat.mod_two_eq_zero_or_one (value / 2 ^ width) with low | high
  · simp [low]
  · simp [high]

/-- The number that is read back is the one that was written, without its higher bits. -/
theorem ofBitsMSB_bitsMSB (width value : Nat) :
    ofBitsMSB (bitsMSB width value) = value % 2 ^ width := by
  induction width with
  | zero => exact (Nat.mod_one value).symm
  | succ width ih =>
      rw [bitsMSB, ofBitsMSB, ih, length_bitsMSB, mod_two_pow_succ, Nat.add_comm]

/-- The bit at a position of a byte block; positions past the block read as zero. -/
def bitAt (data : List UInt8) (position : Nat) : Bool :=
  (data.getD (position / 8) 0).toNat.testBit (7 - position % 8)

/-- The bits at the positions from `first` up to but not including `last`. -/
def bitsBetween (data : List UInt8) (first last : Nat) : List Bool :=
  (List.range' first (last - first)).map (bitAt data)

/-- There are only zeros after the data. -/
theorem bitAt_of_length_le {data : List UInt8} {position : Nat}
    (outside : 8 * data.length ≤ position) : bitAt data position = false := by
  have beyond : data.length ≤ position / 8 := by omega
  simp [bitAt, List.getElem?_eq_none beyond]

/-- A block extended by zero bytes shows the same bits. -/
theorem bitAt_append_zeros (data : List UInt8) (count position : Nat) :
    bitAt (data ++ List.replicate count 0) position = bitAt data position := by
  unfold bitAt
  congr 2
  rw [List.getD_eq_getElem?_getD, List.getD_eq_getElem?_getD]
  by_cases inside : position / 8 < data.length
  · rw [List.getElem?_append_left inside]
  · rw [List.getElem?_append_right (by omega), List.getElem?_eq_none (by omega : data.length ≤ _)]
    rw [List.getElem?_replicate]
    split <;> rfl

/-- Cutting a block off keeps the bits of the bytes that stay. -/
theorem bitAt_take {data : List UInt8} {count position : Nat} (inside : position < 8 * count) :
    bitAt (data.take count) position = bitAt data position := by
  unfold bitAt
  rw [List.getD_eq_getElem?_getD, List.getD_eq_getElem?_getD,
    List.getElem?_take_of_lt (by omega)]

/-- The highest bit shifted to an offset is the only bit that is set. -/
theorem topBit_shiftRight (offset : Nat) (small : offset < 8) (bit : Nat) :
    ((0x80 : UInt8) >>> UInt8.ofNat offset).toNat.testBit bit = decide (bit = 7 - offset) := by
  have powers : ∀ index : Fin 8,
      ((0x80 : UInt8) >>> UInt8.ofNat index.val).toNat = 2 ^ (7 - index.val) := by decide
  rw [powers ⟨offset, small⟩, Nat.testBit_two_pow]
  exact decide_eq_decide.mpr eq_comm

/-- Raising one bit of a block. -/
theorem bitAt_set_or {data : List UInt8} {index offset : Nat} (inside : index < data.length)
    (small : offset < 8) (position : Nat) :
    bitAt (data.set index (data.getD index 0 ||| (0x80 : UInt8) >>> UInt8.ofNat offset)) position =
      (bitAt data position || decide (position = 8 * index + offset)) := by
  unfold bitAt
  by_cases same : position / 8 = index
  · subst same
    rw [List.getD_eq_getElem?_getD, List.getElem?_set_self inside, Option.getD_some,
      UInt8.toNat_or, Nat.testBit_or, topBit_shiftRight offset small]
    congr 1
    exact decide_eq_decide.mpr (by omega)
  · rw [List.getD_eq_getElem?_getD, List.getD_eq_getElem?_getD, List.getElem?_set_ne (Ne.symm same)]
    have elsewhere : position ≠ 8 * index + offset := by omega
    simp [elsewhere]

/-- The first bit of a range stands before the rest of it. -/
theorem bitsBetween_cons {data : List UInt8} {first last : Nat} (nonempty : first < last) :
    bitsBetween data first last = bitAt data first :: bitsBetween data (first + 1) last := by
  unfold bitsBetween
  rw [show last - first = (last - (first + 1)) + 1 by omega, List.range'_succ, List.map_cons]

theorem bitsBetween_nil {data : List UInt8} {first last : Nat} (empty : last ≤ first) :
    bitsBetween data first last = [] := by
  rw [bitsBetween, Nat.sub_eq_zero_of_le empty]
  rfl

/-- A range from the start grows by the bit at its end. -/
theorem bitsBetween_succ (data : List UInt8) (last : Nat) :
    bitsBetween data 0 (last + 1) = bitsBetween data 0 last ++ [bitAt data last] := by
  simp [bitsBetween, List.range'_concat]

/-- A range depends on the bits before its end only. -/
theorem bitsBetween_congr {data data' : List UInt8} {first last : Nat}
    (same : ∀ position, position < last → bitAt data position = bitAt data' position) :
    bitsBetween data first last = bitsBetween data' first last := by
  refine List.map_congr_left fun position member => same position ?_
  have bounds := List.mem_range'_1.mp member
  omega

/-- A range from the start is cut at any position inside it. -/
theorem bitsBetween_split {data : List UInt8} {middle last : Nat} (ordered : middle ≤ last) :
    bitsBetween data 0 last = bitsBetween data 0 middle ++ bitsBetween data middle last := by
  have positions := @List.range'_append_1 0 middle (last - middle)
  rw [Nat.zero_add, Nat.add_sub_of_le ordered] at positions
  unfold bitsBetween
  rw [← List.map_append, Nat.sub_zero, Nat.sub_zero, positions]

theorem length_bitsBetween (data : List UInt8) (first last : Nat) :
    (bitsBetween data first last).length = last - first := by
  simp [bitsBetween]

/-- A range of zeros, when every bit in it is zero. -/
theorem bitsBetween_zeros {data : List UInt8} {first last : Nat}
    (zero : ∀ position, first ≤ position → position < last → bitAt data position = false) :
    bitsBetween data first last = List.replicate (last - first) false := by
  apply List.eq_replicate_iff.mpr
  refine ⟨length_bitsBetween data first last, fun bit member => ?_⟩
  obtain ⟨position, between, rfl⟩ := List.mem_map.mp member
  have bounds := List.mem_range'_1.mp between
  exact zero position bounds.1 (by omega)

/-- A byte in front moves every bit by eight positions. -/
theorem bitAt_cons (byte : UInt8) (data : List UInt8) (position : Nat) :
    bitAt (byte :: data) (8 + position) = bitAt data position := by
  unfold bitAt
  rw [show (8 + position) / 8 = position / 8 + 1 by omega, Nat.add_mod_left, List.getD_cons_succ]

/-- All bits of a block, byte by byte. -/
theorem bitsBetween_all (data : List UInt8) :
    bitsBetween data 0 (8 * data.length) = data.flatMap fun byte => bitsMSB 8 byte.toNat := by
  induction data with
  | nil => rfl
  | cons byte data ih =>
      have firstByte : bitsBetween (byte :: data) 0 8 = bitsMSB 8 byte.toNat := rfl
      have others : bitsBetween (byte :: data) 8 (8 * (byte :: data).length) =
          bitsBetween data 0 (8 * data.length) := by
        unfold bitsBetween
        rw [List.length_cons, Nat.mul_succ, Nat.add_sub_cancel, Nat.sub_zero,
          ← Nat.add_zero 8, ← List.map_add_range', List.map_map]
        exact List.map_congr_left fun position _ => bitAt_cons byte data position
      have ordered : 8 ≤ 8 * (byte :: data).length := by
        rw [List.length_cons]
        omega
      rw [bitsBetween_split ordered, firstByte, others, ih, List.flatMap_cons]

end SmartMetWfs.Foundation
