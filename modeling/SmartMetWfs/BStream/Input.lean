import SmartMetWfs.BStream.Output

/-!
# The input bit stream

`IBStream` reads bits off a byte block until it runs past its end. What is left to
read is again a bit list, so that reading one bit takes the head of that list and
every `get_*` method leaves no more bits than it found. The methods that loop
until a lowered bit are instances of one loop, which ends because each round takes
a bit.
-/

namespace SmartMetWfs

open Foundation

/-- `IBStream`: the next bit is bit `bitPos` of byte `pos`, or the first bit of the
byte after it. -/
structure IBStream where
  data : ByteString
  pos : Nat
  bitPos : Nat
  bitPos_le : bitPos ≤ 8

/-- A method of `IBStream`: it moves the stream on and may throw. -/
abbrev Get := StateT IBStream (Except StreamError)

namespace IBStream

/-- The number of bytes. -/
def length (stream : IBStream) : Nat := stream.data.length

/-- The bits not read yet. -/
def remaining (stream : IBStream) : List Bool :=
  bitsBetween stream.data (8 * stream.pos + stream.bitPos) (8 * stream.length)

theorem start_le : 0 ≤ 8 := Nat.zero_le 8

/-- The constructor. -/
def new (data : ByteString) : IBStream := ⟨data, 0, 0, start_le⟩

/-- The first half of `get_bit`: step over the end of a byte. -/
def nextByte (stream : IBStream) : IBStream :=
  if stream.bitPos ≥ 8 then
    { stream with pos := stream.pos + 1, bitPos := 0, bitPos_le := start_le }
  else stream

/-- The position is inside a byte after the end of one. -/
theorem nextByte_bitPos_lt (stream : IBStream) : stream.nextByte.bitPos < 8 := by
  unfold nextByte
  split
  · exact Nat.zero_lt_succ _
  · omega

/-- Nothing is skipped at the end of a byte. -/
theorem nextByte_remaining (stream : IBStream) :
    stream.nextByte.remaining = stream.remaining := by
  have bound := stream.bitPos_le
  unfold nextByte
  split
  · next full =>
      unfold remaining length
      rw [show 8 * (stream.pos + 1) + 0 = 8 * stream.pos + stream.bitPos by omega]
  · rfl

/-- The second half of `get_bit`: the next bit of the current byte. -/
def currentBit (stream : IBStream) (room : stream.bitPos < 8) :
    Except StreamError (Bool × IBStream) :=
  if stream.pos ≥ stream.length then .error .unexpectedEnd
  else
    let mask := (0x80 : UInt8) >>> UInt8.ofNat stream.bitPos
    .ok (stream.data.getD stream.pos 0 &&& mask ≠ 0,
      { stream with bitPos := stream.bitPos + 1, bitPos_le := room })

/-- `get_bit`. -/
def getBit : Get Bool := fun stream => stream.nextByte.currentBit stream.nextByte_bitPos_lt

/-- The mask shows the bit at its offset. -/
theorem and_mask_ne_zero (byte : UInt8) (offset : Nat) (small : offset < 8) :
    decide (byte &&& (0x80 : UInt8) >>> UInt8.ofNat offset ≠ 0) =
      byte.toNat.testBit (7 - offset) := by
  have all : ∀ (byte : UInt8) (index : Fin 8),
      decide (byte &&& (0x80 : UInt8) >>> UInt8.ofNat index.val ≠ 0) =
        byte.toNat.testBit (7 - index.val) := by decide +kernel
  exact all byte ⟨offset, small⟩

/-- The current bit is the first one that remains. -/
theorem currentBit_eq (stream : IBStream) (room : stream.bitPos < 8) :
    match stream.remaining with
    | [] => stream.currentBit room = .error .unexpectedEnd
    | head :: rest => ∃ after, stream.currentBit room = .ok (head, after) ∧
        after.remaining = rest := by
  unfold currentBit
  by_cases outside : stream.pos ≥ stream.length
  · rw [remaining, bitsBetween_nil (by omega)]
    exact if_pos outside
  · have taken : decide (stream.data.getD stream.pos 0 &&&
        (0x80 : UInt8) >>> UInt8.ofNat stream.bitPos ≠ 0) =
          bitAt stream.data (8 * stream.pos + stream.bitPos) := by
      rw [and_mask_ne_zero _ _ room, bitAt,
        show (8 * stream.pos + stream.bitPos) / 8 = stream.pos by omega,
        show (8 * stream.pos + stream.bitPos) % 8 = stream.bitPos by omega]
    rw [remaining, bitsBetween_cons (by omega)]
    exact ⟨{ stream with bitPos := stream.bitPos + 1, bitPos_le := room },
      (if_neg outside).trans (congrArg (fun bit => Except.ok (bit, _)) taken), rfl⟩

/-- `get_bit` takes the first of the remaining bits, and throws when there is none. -/
theorem getBit_eq (stream : IBStream) :
    match stream.remaining with
    | [] => getBit stream = .error .unexpectedEnd
    | head :: rest => ∃ after, getBit stream = .ok (head, after) ∧ after.remaining = rest := by
  rw [← nextByte_remaining]
  exact stream.nextByte.currentBit_eq _

/-- A bit is read. -/
theorem getBit_consumes (bit : Bool) : Consumes remaining getBit [bit] bit := by
  intro before rest shown
  have step := before.getBit_eq
  rw [shown] at step
  exact step

/-- A bit that is read is gone. -/
theorem getBit_advances : Advances remaining getBit := by
  intro before value after ran
  have step := before.getBit_eq
  split at step
  · rw [step] at ran
    cases ran
  · next head rest shown =>
      obtain ⟨after', ran', viewAfter⟩ := step
      rw [ran'] at ran
      cases ran
      rw [shown, viewAfter]
      exact Nat.lt_succ_self _

/-- The loop of `get_bits`: `num` more bits, the mask halved before each of them. -/
def getBitsLoop : Nat → UInt32 → UInt32 → Get UInt32
  | 0, result, _ => pure result
  | num + 1, result, mask => do
      let bit ← getBit
      getBitsLoop num (if bit then result ||| mask >>> 1 else result) (mask >>> 1)

/-- `get_bits`. -/
def getBits (num : Nat) : Get UInt32 :=
  getBitsLoop num 0 ((1 : UInt32) <<< UInt32.ofNat num)

theorem getBitsLoop_shrinks (num : Nat) :
    ∀ result mask, Shrinks remaining (getBitsLoop num result mask) := by
  induction num with
  | zero => exact fun result mask => .pure _
  | succ num ih => exact fun result mask => getBit_advances.shrinks.bind fun bit => ih _ _

theorem getBits_shrinks (num : Nat) : Shrinks remaining (getBits num) :=
  getBitsLoop_shrinks num _ _

/-- One round of `get_unsigned`: the next group of five bits at the current offset. -/
def getUnsignedGroup (state : UInt64 × Nat) : Get (UInt64 × Nat) := do
  let part ← getBits 5
  pure (state.1 ||| part.toUInt64 <<< UInt64.ofNat state.2, state.2 + 5)

theorem getUnsignedGroup_shrinks (state : UInt64 × Nat) :
    Shrinks remaining (getUnsignedGroup state) :=
  (getBits_shrinks 5).bind fun _ => .pure _

/-- The loop of `get_unsigned` with its result and offset. -/
def getUnsignedLoop (state : UInt64 × Nat) : Get (UInt64 × Nat) :=
  whileFlag getBit getBit_advances getUnsignedGroup getUnsignedGroup_shrinks state

/-- `get_unsigned`. -/
def getUnsigned : Get UInt64 := do
  let state ← getUnsignedLoop (0, 0)
  pure state.1

theorem getUnsigned_shrinks : Shrinks remaining getUnsigned :=
  Shrinks.bind (Advances.whileFlag _).shrinks fun _ => .pure _

/-- `get_int`. -/
def getInt : Get Int64 := do
  let s ← getBit
  let value ← getUnsigned
  let tmp := value.toInt64
  pure (if s then -tmp else tmp)

theorem getInt_shrinks : Shrinks remaining getInt :=
  getBit_advances.shrinks.bind fun _ => getUnsigned_shrinks.bind fun _ => .pure _

/-- A byte is eight bits. -/
def getByte : Get UInt8 := do
  let value ← getBits 8
  pure value.toUInt8

theorem getByte_shrinks : Shrinks remaining getByte :=
  (getBits_shrinks 8).bind fun _ => .pure _

/-- `get_double`: the bytes before `first` stay zero. -/
def getDouble : Get Double := do
  let first ← getBits 3
  let tail ← readTimes getByte (8 - first.toNat)
  pure ⟨Vector.ofFn fun index =>
    if index.val < first.toNat then 0 else tail.getD (index.val - first.toNat) 0⟩

theorem getDouble_shrinks : Shrinks remaining getDouble :=
  (getBits_shrinks 3).bind fun _ => (getByte_shrinks.readTimes _).bind fun _ => .pure _

/-- `get_char`. -/
def getChar : Get UInt8 := do
  let v1 ← getBits 7
  if v1 = 127 then getByte else pure v1.toUInt8

theorem getChar_shrinks : Shrinks remaining getChar := by
  refine (getBits_shrinks 7).bind fun v1 => ?_
  split
  · exact getByte_shrinks
  · exact .pure _

/-- `get_string`: the length is narrowed to 32 bits. -/
def getString : Get ByteString := do
  let len ← getUnsigned
  readTimes getChar len.toUInt32.toNat

theorem getString_shrinks : Shrinks remaining getString :=
  getUnsigned_shrinks.bind fun _ => getChar_shrinks.readTimes _

variable (dates : DateTimeLibrary)

/-- The seconds of a calendar time, absent at midnight. -/
def getSeconds (haveSec : Bool) : Get UInt64 := if haveSec then getUnsigned else pure 0

theorem getSeconds_shrinks (haveSec : Bool) : Shrinks remaining (getSeconds haveSec) := by
  unfold getSeconds
  split
  · exact getUnsigned_shrinks
  · exact .pure _

/-- The calendar branch of `get_ptime`: the year is narrowed to a 32-bit signed
number, the other fields to 32-bit unsigned ones. -/
def getCalendarTime : Get DateTime := do
  let year ← getInt
  let month ← getUnsigned
  let day ← getUnsigned
  let haveSec ← getBit
  let sec ← getSeconds haveSec
  match dates.dateTime year.toInt32.toInt month.toUInt32.toNat day.toUInt32.toNat
      sec.toUInt32.toNat with
  | some time => pure time
  | none => throw .invalidDateTime

/-- `get_ptime`. -/
def getPtime : Get DateTime := do
  if ← getBit then
    getCalendarTime dates
  else if ← getBit then
    if ← getBit then pure .posInfinity else pure .negInfinity
  else pure .notADateTime

theorem getCalendarTime_shrinks : Shrinks remaining (getCalendarTime dates) := by
  refine getInt_shrinks.bind fun year => getUnsigned_shrinks.bind fun month =>
    getUnsigned_shrinks.bind fun day => getBit_advances.shrinks.bind fun haveSec =>
    (getSeconds_shrinks haveSec).bind fun sec => ?_
  split
  · exact .pure _
  · exact .throw _

theorem getPtime_shrinks : Shrinks remaining (getPtime dates) := by
  refine getBit_advances.shrinks.bind fun isTime => ?_
  split
  · exact getCalendarTime_shrinks dates
  · refine getBit_advances.shrinks.bind fun isInfinity => ?_
    split
    · refine getBit_advances.shrinks.bind fun isPositive => ?_
      split <;> exact .pure _
    · exact .pure _

/-- The value of a known type code. -/
def getTypedValue (typeCode : UInt32) : Get Value :=
  if typeCode = OBStream.vBool then do
    let value ← getBit
    pure (.bool value)
  else if typeCode = OBStream.vInt then do
    let value ← getInt
    pure (.int value)
  else if typeCode = OBStream.vUint then do
    let value ← getUnsigned
    pure (.uint value)
  else if typeCode = OBStream.vDouble then do
    let value ← getDouble
    pure (.double value)
  else if typeCode = OBStream.vString then do
    let value ← getString
    pure (.string value)
  else if typeCode = OBStream.vPtime then do
    let value ← getPtime dates
    pure (.ptime value)
  else if typeCode = OBStream.vPoint then do
    let x ← getDouble
    let y ← getDouble
    let crs ← getString
    pure (.point ⟨x, y, crs⟩)
  else if typeCode = OBStream.vBbox then do
    let xMin ← getDouble
    let yMin ← getDouble
    let xMax ← getDouble
    let yMax ← getDouble
    let crs ← getString
    pure (.bbox ⟨xMin, yMin, xMax, yMax, crs⟩)
  else throw .unknownTypeCode

/-- `get_value`. -/
def getValue : Get Value := do
  let typeCode ← getBits 4
  getTypedValue dates typeCode

theorem getTypedValue_shrinks (typeCode : UInt32) :
    Shrinks remaining (getTypedValue dates typeCode) := by
  unfold getTypedValue
  repeat' split
  · exact getBit_advances.shrinks.bind fun _ => .pure _
  · exact getInt_shrinks.bind fun _ => .pure _
  · exact getUnsigned_shrinks.bind fun _ => .pure _
  · exact getDouble_shrinks.bind fun _ => .pure _
  · exact getString_shrinks.bind fun _ => .pure _
  · exact (getPtime_shrinks dates).bind fun _ => .pure _
  · exact getDouble_shrinks.bind fun _ => getDouble_shrinks.bind fun _ =>
      getString_shrinks.bind fun _ => .pure _
  · exact getDouble_shrinks.bind fun _ => getDouble_shrinks.bind fun _ =>
      getDouble_shrinks.bind fun _ => getDouble_shrinks.bind fun _ =>
      getString_shrinks.bind fun _ => .pure _
  · exact .throw _

theorem getValue_shrinks : Shrinks remaining (getValue dates) :=
  (getBits_shrinks 4).bind fun typeCode => getTypedValue_shrinks dates typeCode

/-- The inner loop body of `get_value_map`: one more value of `key`. -/
def getKeyValue (key : ByteString) (result : Multimap ByteString Value) :
    Get (Multimap ByteString Value) := do
  let value ← getValue dates
  pure (result.insert key value)

theorem getKeyValue_shrinks (key : ByteString) (result : Multimap ByteString Value) :
    Shrinks remaining (getKeyValue dates key result) :=
  (getValue_shrinks dates).bind fun _ => .pure _

/-- The outer loop body of `get_value_map`: a key and its values. -/
def getKey (result : Multimap ByteString Value) : Get (Multimap ByteString Value) := do
  let key ← getString
  whileFlag getBit getBit_advances (getKeyValue dates key) (getKeyValue_shrinks dates key) result

theorem getKey_shrinks (result : Multimap ByteString Value) :
    Shrinks remaining (getKey dates result) :=
  getString_shrinks.bind fun _ => (Advances.whileFlag _).shrinks

/-- `get_value_map`. -/
def getValueMap : Get (Multimap ByteString Value) :=
  whileFlag getBit getBit_advances (getKey dates) (getKey_shrinks dates) .empty

end IBStream

end SmartMetWfs
