import SmartMetWfs.BStream.Input
import SmartMetWfs.Foundation.FixedReads

/-!
# Bit layouts of numbers

For each numeric `put_*` and `get_*` method the bits it moves are given as a
function of the number alone, independently of the state of the stream. The put
method emits these bits and the get method consumes exactly them and returns the
number, for every number of its type.
-/

namespace SmartMetWfs

open Foundation OBStream IBStream

/-- A bit is written. -/
theorem bit_emits (val : Bool) : Emits written (OBStream.bit val) [val] := by
  intro before
  exact ⟨(), before.putBit val, rfl, before.putBit_written val⟩

/-! ### Fixed-width fields -/

/-- The mask is shifted to the next bit. -/
theorem halfMask {mask : UInt32} {num : Nat} (value : mask.toNat = 2 ^ (num + 1)) :
    (mask >>> 1).toNat = 2 ^ num := by
  rw [UInt32.toNat_shiftRight, value, show (1 : UInt32).toNat % 32 = 1 from rfl,
    Nat.shiftRight_eq_div_pow, pow_succ]
  exact Nat.mul_div_cancel _ (by decide)

/-- The mask starts with the highest bit. -/
theorem fullMask {num : Nat} (small : num < 32) :
    ((1 : UInt32) <<< UInt32.ofNat num).toNat = 2 ^ num := by
  rw [UInt32.toNat_shiftLeft, UInt32.toNat_ofNat', show (1 : UInt32).toNat = 1 from rfl,
    Nat.shiftLeft_eq, one_mul,
    Nat.mod_eq_of_lt (show num < 2 ^ 32 by omega), Nat.mod_eq_of_lt small]
  exact Nat.mod_eq_of_lt (Nat.pow_lt_pow_right (by decide) small)

/-- A mask of one bit shows that bit. -/
theorem and_mask (value mask : UInt32) {num : Nat} (single : mask.toNat = 2 ^ num) :
    decide (value &&& mask ≠ 0) = value.toNat.testBit num := by
  have masked : (value &&& mask).toNat = (value.toNat.testBit num).toNat * 2 ^ num := by
    rw [UInt32.toNat_and, single, Nat.and_two_pow]
  have zero : value &&& mask = 0 ↔ (value &&& mask).toNat = 0 := UInt32.toNat_inj.symm
  rw [Bool.eq_iff_iff, decide_eq_true_iff, ne_eq, zero, masked]
  cases value.toNat.testBit num <;> simp

/-- The loop writes the bits from the highest one. -/
theorem putBitsLoop_emits (value : UInt32) (num : Nat) :
    ∀ mask : UInt32, mask.toNat = 2 ^ num →
      Emits written (putBitsLoop value num mask) (bitsMSB num value.toNat) := by
  induction num with
  | zero => exact fun mask _ => .pure _
  | succ num ih =>
      intro mask single
      have half := halfMask single
      rw [putBitsLoop, and_mask value _ half]
      exact (bit_emits _).seq (ih _ half)

/-- The bits of a number are written from the highest one. -/
theorem putBits_emits (value : UInt32) {num : Nat} (small : num < 32) :
    Emits written (putBits value num) (bitsMSB num value.toNat) :=
  putBitsLoop_emits value num _ (fullMask small)

/-- A bit that was clear is added. -/
theorem or_mask {result mask : UInt32} {num : Nat} (single : mask.toNat = 2 ^ num)
    (clear : result.toNat % 2 ^ (num + 1) = 0) :
    (result ||| mask).toNat = result.toNat + 2 ^ num := by
  rw [UInt32.toNat_or, single]
  have split : result.toNat = 2 ^ (num + 1) * (result.toNat / 2 ^ (num + 1)) :=
    (Nat.mul_div_cancel' (Nat.dvd_of_mod_eq_zero clear)).symm
  rw [split]
  exact (Nat.two_pow_add_eq_or_of_lt (Nat.pow_lt_pow_right (by decide) num.lt_succ_self) _).symm

/-- The mask loop adds the bits still to come to what it has collected. -/
theorem getBitsLoop_consumes (value num : Nat) :
    ∀ result mask : UInt32, mask.toNat = 2 ^ num → result.toNat % 2 ^ num = 0 →
      result.toNat + 2 ^ num ≤ 2 ^ 32 →
      Consumes remaining (getBitsLoop num result mask) (bitsMSB num value)
        (UInt32.ofNat (result.toNat + value % 2 ^ num)) := by
  induction num with
  | zero =>
      intro result mask _ _ _
      refine (Consumes.pure result).cast rfl ?_
      rw [pow_zero, Nat.mod_one, add_zero, UInt32.ofNat_toNat]
  | succ num ih =>
      intro result mask single clear room
      have half := halfMask single
      have clearHalf : result.toNat % 2 ^ num = 0 :=
        Nat.mod_eq_zero_of_dvd ((pow_dvd_pow 2 num.le_succ).trans (Nat.dvd_of_mod_eq_zero clear))
      have double : 2 ^ (num + 1) = 2 ^ num * 2 := pow_succ 2 num
      have topBit := mod_two_pow_succ value num
      change Consumes remaining _ ([value.testBit num] ++ bitsMSB num value) _
      apply (getBit_consumes (value.testBit num)).bind
      cases bit : value.testBit num with
      | false =>
          refine (ih result (mask >>> 1) half clearHalf (by omega)).cast rfl ?_
          rw [topBit, bit, Bool.toNat_false, mul_zero, add_zero]
      | true =>
          have raised := or_mask half clear
          refine (ih (result ||| mask >>> 1) (mask >>> 1) half ?_ (by omega)).cast rfl ?_
          · rw [raised, Nat.add_mod_right, clearHalf]
          · rw [raised, topBit, bit, Bool.toNat_true, mul_one]
            congr 1
            omega

/-- `get_bits` returns the low bits of the number laid out. -/
theorem getBits_consumes (value : Nat) {num : Nat} (small : num < 32) :
    Consumes remaining (getBits num) (bitsMSB num value) (UInt32.ofNat (value % 2 ^ num)) := by
  refine (getBitsLoop_consumes value num 0 _ (fullMask small) ?_ ?_).cast rfl ?_
  · exact Nat.zero_mod _
  · rw [show (0 : UInt32).toNat = 0 from rfl, zero_add]
    exact Nat.pow_le_pow_right (by decide) small.le
  · rw [show (0 : UInt32).toNat = 0 from rfl, zero_add]

/-- A bit takes one bit. -/
theorem getBit_takes :
    Takes remaining getBit 1 (fun bits => bits.headD false) .unexpectedEnd where
  consumes bits size := by
    obtain ⟨bit, rfl⟩ := List.length_eq_one_iff.mp size
    exact getBit_consumes bit
  exhausted before short := by
    have step := before.getBit_eq
    rwa [List.length_eq_zero_iff.mp (Nat.lt_one_iff.mp short)] at step

/-- The loop ends with the stream when there are too few bits. -/
theorem getBitsLoop_exhausted {num : Nat} :
    ∀ {before : IBStream} (result mask : UInt32), before.remaining.length < num →
      getBitsLoop num result mask before = .error .unexpectedEnd := by
  induction num with
  | zero => exact fun _ _ short => absurd short (Nat.not_lt_zero _)
  | succ num ih =>
      intro before result mask short
      change (getBit before >>= fun step => _) = _
      by_cases enough : 1 ≤ before.remaining.length
      · obtain ⟨after, ran, left⟩ := getBit_takes.run enough
        rw [ran]
        exact ih _ _ (by rw [left, List.length_drop]; omega)
      · rw [getBit_takes.exhausted before (by omega)]
        rfl

/-- `get_bits` takes so many bits, and returns the number with these digits. -/
theorem getBits_takes {num : Nat} (small : num < 32) :
    Takes remaining (getBits num) num (fun bits => UInt32.ofNat (ofBitsMSB bits))
      .unexpectedEnd where
  consumes bits size := by
    have fits : ofBitsMSB bits % 2 ^ num = ofBitsMSB bits :=
      Nat.mod_eq_of_lt (size ▸ ofBitsMSB_lt bits)
    exact (getBits_consumes (ofBitsMSB bits) small).cast (size ▸ bitsMSB_ofBitsMSB bits)
      (by rw [fits])
  exhausted before short := getBitsLoop_exhausted _ _ short

/-- A byte is read. -/
theorem getByte_consumes (byte : UInt8) :
    Consumes remaining getByte (bitsMSB 8 byte.toNat) byte := by
  refine ((getBits_consumes byte.toNat (by decide : 8 < 32)).bind_pure UInt32.toUInt8).cast rfl ?_
  apply UInt8.toNat_inj.mp
  have bound := byte.toNat_lt
  rw [UInt32.toNat_toUInt8, UInt32.toNat_ofNat']
  omega

/-! ### Variable-length numbers -/

/-- Groups of five bits, least significant group first, each after a set bit. -/
def unsignedBits (value : Nat) : List Bool :=
  if value = 0 then [false] else true :: bitsMSB 5 (value % 32) ++ unsignedBits (value / 32)

theorem unsignedBits_zero : unsignedBits 0 = [false] := by rw [unsignedBits, if_pos rfl]

/-- Five bits at a time, the lowest first, each group behind a flag. -/
theorem unsignedBits_pos {value : Nat} (positive : value ≠ 0) :
    unsignedBits value = [true] ++ (bitsMSB 5 (value % 32) ++ unsignedBits (value / 32)) := by
  rw [unsignedBits, if_neg positive]
  rfl

/-- The lowest five bits. -/
theorem lowGroup (value : UInt64) : ((value &&& 0x1F).toUInt32).toNat = value.toNat % 32 := by
  rw [UInt64.toNat_toUInt32, UInt64.toNat_and,
    show (0x1F : UInt64).toNat = 2 ^ 5 - 1 from rfl, Nat.and_two_pow_sub_one_eq_mod]
  omega

/-- The bits above them. -/
theorem nextGroups (value : UInt64) : (value >>> 5).toNat = value.toNat / 32 := by
  rw [UInt64.toNat_shiftRight]
  simp [Nat.shiftRight_eq_div_pow]

/-- An unsigned number is written in groups. -/
theorem putUnsigned_emits (value : UInt64) :
    Emits written (putUnsigned value) (unsignedBits value.toNat) := by
  induction size : value.toNat using Nat.strongRecOn generalizing value with
  | ind count ih =>
      subst size
      rw [putUnsigned]
      by_cases more : value ≠ 0
      · have positive : value.toNat ≠ 0 := fun zero => more (UInt64.toNat_inj.mp zero)
        rw [dif_pos more, unsignedBits_pos positive, decide_eq_true more, ← lowGroup,
          ← nextGroups]
        refine (bit_emits true).seq ((putBits_emits _ (by decide)).seq ?_)
        exact ih _ (by rw [nextGroups]; omega) _ rfl
      · have zero : value = 0 := not_not.mp more
        rw [dif_neg more, zero]
        exact (bit_emits false).cast unsignedBits_zero.symm

/-- Or-ing a group in at an offset above the bits of the result. -/
theorem or_shifted {result : UInt64} {group : UInt32} {offset : Nat}
    (low : result.toNat < 2 ^ offset) (offsetSmall : offset < 64)
    (fits : result.toNat + 2 ^ offset * group.toNat < 2 ^ 64) :
    (result ||| group.toUInt64 <<< UInt64.ofNat offset).toNat =
      result.toNat + 2 ^ offset * group.toNat := by
  rw [UInt64.toNat_or, UInt64.toNat_shiftLeft, UInt32.toNat_toUInt64, UInt64.toNat_ofNat',
    Nat.mod_eq_of_lt (show offset < 2 ^ 64 by omega), Nat.mod_eq_of_lt offsetSmall,
    Nat.shiftLeft_eq, Nat.mul_comm group.toNat, Nat.mod_eq_of_lt (by omega), Nat.or_comm,
    ← Nat.two_pow_add_eq_or_of_lt low, Nat.add_comm]

/-- Or-ing a group in at an offset where the result is still zero. -/
theorem or_group {result : UInt64} {offset value : Nat} (low : result.toNat < 2 ^ offset)
    (fits : result.toNat + 2 ^ offset * value < 2 ^ 64) (positive : value ≠ 0) :
    (result ||| (UInt32.ofNat (value % 32 % 2 ^ 5)).toUInt64 <<< UInt64.ofNat offset).toNat =
      result.toNat + 2 ^ offset * (value % 32) := by
  have whole : 2 ^ offset ≤ 2 ^ offset * value :=
    Nat.le_mul_of_pos_right _ (Nat.pos_of_ne_zero positive)
  have offsetSmall : offset < 64 := by
    by_contra large
    have tooBig : 2 ^ 64 ≤ 2 ^ offset := Nat.pow_le_pow_right (by decide) (not_lt.mp large)
    omega
  have part : 2 ^ offset * (value % 32) ≤ 2 ^ offset * value :=
    Nat.mul_le_mul_left _ (Nat.mod_le _ _)
  have group : (UInt32.ofNat (value % 32 % 2 ^ 5)).toNat = value % 32 := by
    rw [UInt32.toNat_ofNat']
    omega
  rw [or_shifted low offsetSmall (by rw [group]; omega), group]

/-- A group is read to its place in the number. -/
theorem getUnsignedGroup_consumes (result : UInt64) (offset value : Nat) :
    Consumes remaining (getUnsignedGroup (result, offset)) (bitsMSB 5 (value % 32))
      (result ||| (UInt32.ofNat (value % 32 % 2 ^ 5)).toUInt64 <<< UInt64.ofNat offset,
        offset + 5) :=
  (getBits_consumes (value % 32) (by decide : 5 < 32)).bind_pure fun part =>
    (result ||| part.toUInt64 <<< UInt64.ofNat offset, offset + 5)

/-- The groups of a number that fits are added to the result at their offset. -/
theorem getUnsignedLoop_consumes (value : Nat) :
    ∀ (result : UInt64) (offset : Nat), result.toNat < 2 ^ offset →
      result.toNat + 2 ^ offset * value < 2 ^ 64 →
      ∃ finalOffset, Consumes remaining (getUnsignedLoop (result, offset)) (unsignedBits value)
        (UInt64.ofNat (result.toNat + 2 ^ offset * value), finalOffset) := by
  induction value using Nat.strongRecOn with
  | ind value ih =>
      intro result offset low fits
      by_cases positive : value = 0
      · subst positive
        refine ⟨offset, ?_⟩
        rw [unsignedBits_zero, mul_zero, add_zero, UInt64.ofNat_toNat]
        exact .whileFlag_stop _ (getBit_consumes false)
      · rw [unsignedBits_pos positive]
        have next := or_group low fits positive
        have power : 2 ^ (offset + 5) = 2 ^ offset * 32 := pow_add 2 offset 5
        have recombine : 2 ^ offset * (value % 32) + 2 ^ (offset + 5) * (value / 32) =
            2 ^ offset * value := by
          rw [power, Nat.mul_assoc, ← Nat.mul_add, Nat.mod_add_div]
        have groupBound : 2 ^ offset * (value % 32) ≤ 2 ^ offset * 31 :=
          Nat.mul_le_mul_left _ (by omega)
        obtain ⟨finalOffset, rest⟩ := ih (value / 32) (by omega) _ (offset + 5)
          (by rw [next]; omega) (by rw [next]; omega)
        refine ⟨finalOffset, (Consumes.whileFlag_step (getBit_consumes true)
          (getUnsignedGroup_consumes result offset value) rest).cast rfl ?_⟩
        rw [next, Nat.add_assoc, recombine]

/-- `get_unsigned` reads back every 64-bit number. -/
theorem getUnsigned_consumes (value : UInt64) :
    Consumes remaining getUnsigned (unsignedBits value.toNat) value := by
  obtain ⟨finalOffset, loop⟩ := getUnsignedLoop_consumes value.toNat 0 0 (by decide)
    (by simpa using value.toNat_lt)
  refine (loop.bind_pure Prod.fst).cast rfl ?_
  simp

/-- A number of 64 bits is read back. -/
theorem getUnsigned_consumes_ofNat {value : Nat} (small : value < 2 ^ 64) :
    Consumes remaining getUnsigned (unsignedBits value) (UInt64.ofNat value) := by
  refine (getUnsigned_consumes (UInt64.ofNat value)).cast ?_ rfl
  rw [UInt64.toNat_ofNat', Nat.mod_eq_of_lt small]

/-- A number of 64 bits is written in groups. -/
theorem putUnsigned_emits_ofNat {value : Nat} (small : value < 2 ^ 64) :
    Emits written (putUnsigned (UInt64.ofNat value)) (unsignedBits value) := by
  refine (putUnsigned_emits (UInt64.ofNat value)).cast ?_
  rw [UInt64.toNat_ofNat', Nat.mod_eq_of_lt small]

/-! ### Signed numbers -/

/-- The magnitude `put_int` writes. -/
def magnitude (value : Int64) : UInt64 := (if value ≥ 0 then value else -value).toUInt64

/-- The sign bit and the magnitude. -/
def intBits (value : Int64) : List Bool :=
  decide (value < 0) :: unsignedBits (magnitude value).toNat

/-- A signed number is written with its sign. -/
theorem putInt_emits (value : Int64) : Emits written (putInt value) (intBits value) :=
  (bit_emits _).seq (putUnsigned_emits _)

/-- Negating the magnitude of a negative number gives the number, also for the
least one, which is its own magnitude. -/
theorem magnitude_signed (value : Int64) :
    (if decide (value < 0) then -(magnitude value).toInt64 else (magnitude value).toInt64) =
      value := by
  unfold magnitude
  rw [Int64.toInt64_toUInt64]
  by_cases negative : value < 0
  · have notLe : ¬value ≥ 0 := fun le => Int64.not_lt.mpr le negative
    rw [if_neg notLe, if_pos (decide_eq_true negative), Int64.neg_neg]
  · rw [if_pos (Int64.not_lt.mp negative), if_neg (by simpa using negative)]

/-- A signed number is read back. -/
theorem getInt_consumes (value : Int64) : Consumes remaining getInt (intBits value) value := by
  have read : Consumes remaining getInt ([decide (value < 0)] ++ _) _ :=
    (getBit_consumes (decide (value < 0))).bind
      ((getUnsigned_consumes (magnitude value)).bind_pure fun value' =>
        if decide (value < 0) then -value'.toInt64 else value'.toInt64)
  exact read.cast rfl (magnitude_signed value)

end SmartMetWfs
