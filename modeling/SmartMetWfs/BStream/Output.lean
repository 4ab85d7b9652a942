import SmartMetWfs.Core.Value
import SmartMetWfs.Foundation.BitBytes
import SmartMetWfs.Foundation.Multimap
import SmartMetWfs.Foundation.StreamLogic

/-!
# The output bit stream

`OBStream` collects bits in a byte block that grows by a fixed amount. The block
invariant is part of the structure: the current byte lies inside the block and
every bit after the last one written is zero. What a stream has written is read
off the block by position, and each `put_*` method appends a fixed bit list to it.
-/

namespace SmartMetWfs

open Foundation

/-- What the stream classes throw. -/
inductive StreamError where
  | unexpectedEnd
  | unknownTypeCode
  | unsupportedType
  | invalidDateTime
  deriving DecidableEq

/-- The number of bytes by which the block grows. -/
def blockSize : Nat := 256

/-- `OBStream`: a zeroed block of `reserved` bytes, filled up to bit `numBits` of
byte `ind`. -/
structure OBStream where
  reserved : Nat
  data : List UInt8
  ind : Nat
  numBits : Nat
  data_length : data.length = reserved
  ind_lt : ind < reserved
  numBits_le : numBits ≤ 8
  padding : ∀ position, 8 * ind + numBits ≤ position → bitAt data position = false

namespace OBStream

/-- The bits written so far. -/
def written (stream : OBStream) : List Bool :=
  bitsBetween stream.data 0 (8 * stream.ind + stream.numBits)

/-- The constructor. -/
def new : OBStream where
  reserved := blockSize
  data := List.replicate blockSize 0
  ind := 0
  numBits := 0
  data_length := List.length_replicate
  ind_lt := by decide
  numBits_le := Nat.zero_le _
  padding position _ := (bitAt_append_zeros [] blockSize position).trans
    (bitAt_of_length_le (Nat.zero_le _))

/-- `raw_data`: the bytes up to and including the current one. -/
def rawData (stream : OBStream) : ByteString := stream.data.take (stream.ind + 1)

/-- The first half of `put_bit`: once the current byte is full go to the next one,
extending the block by another `BLOCK_SIZE` zero bytes where it ends. -/
def nextByte (stream : OBStream) : OBStream :=
  if full : stream.numBits ≥ 8 then
    if exhausted : stream.ind + 1 ≥ stream.reserved then
      { reserved := stream.reserved + blockSize
        data := stream.data ++ List.replicate blockSize 0
        ind := stream.ind + 1
        numBits := 0
        data_length := by rw [List.length_append, List.length_replicate, stream.data_length]
        ind_lt := by
          have inside := stream.ind_lt
          have grown : 0 < blockSize := by decide
          omega
        numBits_le := Nat.zero_le _
        padding := fun position after => by
          rw [bitAt_append_zeros]
          exact stream.padding position (by have := stream.numBits_le; omega) }
    else
      { stream with
        ind := stream.ind + 1
        numBits := 0
        ind_lt := by omega
        numBits_le := Nat.zero_le _
        padding := fun position after =>
          stream.padding position (by have := stream.numBits_le; omega) }
  else stream

/-- The position is inside a byte after the end of one. -/
theorem nextByte_numBits_lt (stream : OBStream) : stream.nextByte.numBits < 8 := by
  unfold nextByte
  split
  · split <;> exact Nat.zero_lt_succ _
  · omega

/-- The position stays the same. -/
theorem nextByte_position (stream : OBStream) :
    8 * stream.nextByte.ind + stream.nextByte.numBits = 8 * stream.ind + stream.numBits := by
  have bound := stream.numBits_le
  unfold nextByte
  split
  · split <;> simp only [] <;> omega
  · rfl

/-- All bits stay the same. -/
theorem nextByte_bitAt (stream : OBStream) (position : Nat) :
    bitAt stream.nextByte.data position = bitAt stream.data position := by
  unfold nextByte
  split
  · split
    · exact bitAt_append_zeros _ _ _
    · rfl
  · rfl

/-- The second half of `put_bit`: mark the next bit of the current byte. -/
def markBit (stream : OBStream) (room : stream.numBits < 8) (val : Bool) : OBStream where
  reserved := stream.reserved
  data :=
    if val then
      stream.data.set stream.ind
        (stream.data.getD stream.ind 0 ||| (0x80 : UInt8) >>> UInt8.ofNat stream.numBits)
    else stream.data
  ind := stream.ind
  numBits := stream.numBits + 1
  data_length := by
    split
    · rw [List.length_set, stream.data_length]
    · exact stream.data_length
  ind_lt := stream.ind_lt
  numBits_le := room
  padding := fun position after => by
    have zero := stream.padding position (by omega)
    split
    · rw [bitAt_set_or (stream.data_length ▸ stream.ind_lt) room, zero]
      exact decide_eq_false (by omega)
    · exact zero

/-- `put_bit`. -/
def putBit (stream : OBStream) (val : Bool) : OBStream :=
  stream.nextByte.markBit stream.nextByte_numBits_lt val

/-- One more bit is written. -/
theorem markBit_written (stream : OBStream) (room : stream.numBits < 8) (val : Bool) :
    (stream.markBit room val).written = stream.written ++ [val] := by
  have marked : ∀ position,
      bitAt (stream.markBit room val).data position =
        (bitAt stream.data position ||
          (val && decide (position = 8 * stream.ind + stream.numBits))) := by
    intro position
    cases val with
    | false => simp [markBit]
    | true => exact bitAt_set_or (stream.data_length ▸ stream.ind_lt) room position
  have zero : bitAt stream.data (8 * stream.ind + stream.numBits) = false :=
    stream.padding _ le_rfl
  change bitsBetween _ 0 (8 * stream.ind + stream.numBits + 1) = _
  rw [bitsBetween_succ]
  congr 1
  · refine bitsBetween_congr fun position before => ?_
    rw [marked, decide_eq_false (by omega)]
    simp
  · rw [marked, zero]
    simp

/-- `put_bit` appends one bit, also where it starts a byte or grows the block. -/
theorem putBit_written (stream : OBStream) (val : Bool) :
    (stream.putBit val).written = stream.written ++ [val] := by
  unfold putBit
  rw [markBit_written]
  congr 1
  unfold written
  rw [nextByte_position]
  exact bitsBetween_congr fun position _ => stream.nextByte_bitAt position

@[simp] theorem new_written : new.written = [] := bitsBetween_nil le_rfl

end OBStream

/-- A method of `OBStream`: it changes the stream and may throw. -/
abbrev Put := StateT OBStream (Except StreamError)

namespace OBStream

/-- The data type indicators written before a value. -/
def vBool : UInt32 := 1
def vInt : UInt32 := 2
def vUint : UInt32 := 3
def vDouble : UInt32 := 4
def vString : UInt32 := 5
def vPtime : UInt32 := 6
def vPoint : UInt32 := 7
def vBbox : UInt32 := 8

/-- `put_bit` as a method. -/
def bit (val : Bool) : Put Unit := modify fun stream => stream.putBit val

/-- The loop of `put_bits`: `num` more bits, the mask halved before each of them. -/
def putBitsLoop (value : UInt32) : Nat → UInt32 → Put Unit
  | 0, _ => pure ()
  | num + 1, mask => do
      bit (value &&& (mask >>> 1) ≠ 0)
      putBitsLoop value num (mask >>> 1)

/-- `put_bits`. -/
def putBits (value : UInt32) (num : Nat) : Put Unit :=
  putBitsLoop value num ((1 : UInt32) <<< UInt32.ofNat num)

set_option linter.unusedVariables false in
/-- `put_unsigned`: groups of five bits, least significant group first, each after
a set bit. -/
def putUnsigned (value : UInt64) : Put Unit :=
  if more : value ≠ 0 then do
    bit (value ≠ 0)
    putBits (value &&& 0x1F).toUInt32 5
    putUnsigned (value >>> 5)
  else bit false
termination_by value.toNat
decreasing_by
  have positive : value.toNat ≠ 0 := fun zero => more (UInt64.toNat_inj.mp (by simpa using zero))
  rw [UInt64.toNat_shiftRight]
  simp only [UInt64.reduceToNat, Nat.reduceMod, Nat.shiftRight_eq_div_pow]
  omega

/-- `put_int`: the sign and the magnitude; the magnitude of the least value is its
own two's complement negation. -/
def putInt (value : Int64) : Put Unit := do
  bit (value < 0)
  putUnsigned (if value ≥ 0 then value else -value).toUInt64

/-- `put_double`: the leading zero bytes are counted, not written. -/
def putDouble (value : Double) : Put Unit := do
  let bytes := value.bytes.toList
  let first := ((bytes.take 7).takeWhile (· = 0)).length
  putBits (UInt32.ofNat first) 3
  forM (bytes.drop first) fun byte => putBits byte.toUInt32 8

/-- `put_char`. -/
def putChar (c : UInt8) : Put Unit :=
  if c > 126 then do
    putBits 127 7
    putBits c.toUInt32 8
  else putBits c.toUInt32 7

/-- `put_string`. -/
def putString (text : ByteString) : Put Unit := do
  putUnsigned (UInt64.ofNat text.length)
  forM text putChar

/-- `put_ptime`. -/
def putPtime : DateTime → Put Unit
  | .notADateTime => do
      bit false
      bit false
  | .negInfinity => do
      bit false
      bit true
      bit false
  | .posInfinity => do
      bit false
      bit true
      bit true
  | .calendar date time => do
      let sec := time.totalSeconds
      bit true
      putInt (Int64.ofInt date.year)
      putUnsigned (UInt64.ofNat date.month)
      putUnsigned (UInt64.ofNat date.day)
      bit (sec ≠ 0)
      if sec ≠ 0 then
        putUnsigned (UInt64.ofNat sec)

/-- `put_value`. -/
def putValue : Value → Put Unit
  | .bool value => do
      putBits vBool 4
      bit value
  | .int value => do
      putBits vInt 4
      putInt value
  | .uint value => do
      putBits vUint 4
      putUnsigned value
  | .double value => do
      putBits vDouble 4
      putDouble value
  | .string value => do
      putBits vString 4
      putString value
  | .ptime value => do
      putBits vPtime 4
      putPtime value
  | .point p => do
      putBits vPoint 4
      putDouble p.x
      putDouble p.y
      putString p.crs
  | .bbox b => do
      putBits vBbox 4
      putDouble b.xMin
      putDouble b.yMin
      putDouble b.xMax
      putDouble b.yMax
      putString b.crs
  | .empty => throw .unsupportedType

/-- One key of `put_value_map` with the values stored under it. -/
def putValues (arg : Multimap ByteString Value) (key : ByteString) : Put Unit := do
  bit true
  putString key
  forM (arg.equalRange key) fun value => do
    bit true
    putValue value
  bit false

/-- `put_value_map`. -/
def putValueMap (arg : Multimap ByteString Value) : Put Unit := do
  forM arg.keys (putValues arg)
  bit false

end OBStream

end SmartMetWfs
