import Mathlib.Data.List.TakeWhile
import SmartMetWfs.BStream.Numbers

/-!
# Bit layouts of parameter values

Doubles, strings, times, the alternatives of a parameter value and whole parameter
maps, laid out and read back as the numbers are. A string is read back when its
length fits the 32 bits it is narrowed to, and a calendar time when it has no
fraction of a second; `WellFormed` collects these conditions for values and maps.
-/

namespace SmartMetWfs

open Foundation OBStream IBStream

/-! ### Doubles -/

/-- The number of leading zero bytes that are not written. -/
def Double.first (value : Double) : Nat :=
  ((value.bytes.toList.take 7).takeWhile (· = 0)).length

/-- There is a byte that is written, at least. -/
theorem Double.first_lt (value : Double) : value.first < 8 := by
  have bound : value.first ≤ (value.bytes.toList.take 7).length :=
    (List.takeWhile_prefix _).length_le
  rw [List.length_take] at bound
  omega

/-- The bytes that are not written are zero. -/
theorem Double.getElem_of_lt_first (value : Double) {index : Nat} (small : index < 8)
    (skipped : index < value.first) : value.bytes[index] = 0 := by
  have front : (value.bytes.toList.take 7).takeWhile (· = 0) <+: value.bytes.toList :=
    (List.takeWhile_prefix _).trans (List.take_prefix _ _)
  have member : ((value.bytes.toList.take 7).takeWhile (· = 0))[index] ∈
      (value.bytes.toList.take 7).takeWhile (· = 0) := List.getElem_mem skipped
  have zero := List.mem_takeWhile_imp member
  rw [front.getElem skipped] at zero
  simpa using zero

/-- The number of leading zero bytes, and the others. -/
def doubleBits (value : Double) : List Bool :=
  bitsMSB 3 value.first ++
    (value.bytes.toList.drop value.first).flatMap fun byte => bitsMSB 8 byte.toNat

/-- A double is written without its leading zero bytes. -/
theorem putDouble_emits (value : Double) : Emits written (putDouble value) (doubleBits value) := by
  have small : (UInt32.ofNat value.first).toNat = value.first := by
    rw [UInt32.toNat_ofNat', Nat.mod_eq_of_lt (by have := value.first_lt; omega)]
  refine Emits.seq ((putBits_emits (UInt32.ofNat value.first) (by decide)).cast (by rw [small]))
    (Emits.forM _ fun byte _ => ?_)
  exact (putBits_emits byte.toUInt32 (by decide)).cast (by rw [UInt8.toNat_toUInt32])

/-- A double is read back. -/
theorem getDouble_consumes (value : Double) :
    Consumes remaining getDouble (doubleBits value) value := by
  have firstSmall := value.first_lt
  have readFirst : (UInt32.ofNat (value.first % 2 ^ 3)).toNat = value.first := by
    rw [UInt32.toNat_ofNat']
    omega
  have tailLength : (value.bytes.toList.drop value.first).length = 8 - value.first := by
    rw [List.length_drop, Vector.length_toList]
  have readTail : Consumes remaining (readTimes getByte (8 - value.first))
      ((value.bytes.toList.drop value.first).flatMap fun byte => bitsMSB 8 byte.toNat)
      (value.bytes.toList.drop value.first) := by
    rw [← tailLength]
    exact .readTimes _ fun byte _ => getByte_consumes byte
  refine (getBits_consumes value.first (by decide : 3 < 32)).bind ?_
  rw [readFirst]
  refine (readTail.bind_pure _).cast rfl ?_
  cases value with
  | mk bytes =>
      congr 1
      apply Vector.ext
      intro index inside
      rw [Vector.getElem_ofFn]
      by_cases skipped : index < (Double.mk bytes).first
      · rw [if_pos skipped]
        exact (Double.getElem_of_lt_first ⟨bytes⟩ inside skipped).symm
      · rw [if_neg skipped, List.getD_eq_getElem?_getD, List.getElem?_drop,
          Nat.add_sub_cancel' (not_lt.mp skipped)]
        simp [inside]

/-! ### Characters and strings -/

/-- Seven bits, or an escape and eight bits from 127 on. -/
def charBits (c : UInt8) : List Bool :=
  if c > 126 then bitsMSB 7 127 ++ bitsMSB 8 c.toNat else bitsMSB 7 c.toNat

/-- A character is written. -/
theorem putChar_emits (c : UInt8) : Emits written (putChar c) (charBits c) := by
  have low : Emits written (putBits c.toUInt32 7) (bitsMSB 7 c.toNat) :=
    (putBits_emits c.toUInt32 (by decide)).cast (by rw [UInt8.toNat_toUInt32])
  have high : Emits written (putBits c.toUInt32 8) (bitsMSB 8 c.toNat) :=
    (putBits_emits c.toUInt32 (by decide)).cast (by rw [UInt8.toNat_toUInt32])
  unfold putChar charBits
  split
  · exact (putBits_emits 127 (by decide)).seq high
  · exact low

/-- A character is read back. -/
theorem getChar_consumes (c : UInt8) : Consumes remaining getChar (charBits c) c := by
  have bound := c.toNat_lt
  unfold charBits
  by_cases escaped : c > 126
  · rw [if_pos escaped]
    exact (getBits_consumes 127 (by decide : 7 < 32)).bind (getByte_consumes c)
  · have small : c.toNat ≤ 126 := UInt8.le_iff_toNat_le.mp (not_lt.mp escaped)
    have plain : UInt32.ofNat (c.toNat % 2 ^ 7) ≠ 127 := by
      intro same
      have sameNat := congrArg UInt32.toNat same
      rw [UInt32.toNat_ofNat', show (127 : UInt32).toNat = 127 from rfl] at sameNat
      omega
    rw [if_neg escaped]
    have read := (getBits_consumes c.toNat (by decide : 7 < 32)).bind_pure UInt32.toUInt8
    have value : (UInt32.ofNat (c.toNat % 2 ^ 7)).toUInt8 = c := by
      apply UInt8.toNat_inj.mp
      rw [UInt32.toNat_toUInt8, UInt32.toNat_ofNat']
      omega
    rw [← List.append_nil (bitsMSB 7 c.toNat)]
    apply (getBits_consumes c.toNat (by decide : 7 < 32)).bind
    rw [if_neg plain]
    exact (Consumes.pure _).cast rfl value

/-- The length of a string and its characters. -/
def stringBits (text : ByteString) : List Bool :=
  unsignedBits (UInt64.ofNat text.length).toNat ++ text.flatMap charBits

/-- A string is written with its length. -/
theorem putString_emits (text : ByteString) :
    Emits written (putString text) (stringBits text) :=
  (putUnsigned_emits _).seq (.forM _ fun c _ => putChar_emits c)

/-- `get_string` reads back every string whose length fits 32 bits. -/
theorem getString_consumes {text : ByteString} (short : text.length < 2 ^ 32) :
    Consumes remaining getString (stringBits text) text := by
  have length : (UInt64.ofNat text.length).toUInt32.toNat = text.length := by
    rw [UInt64.toNat_toUInt32, UInt64.toNat_ofNat']
    omega
  apply (getUnsigned_consumes _).bind
  rw [length]
  exact .readTimes _ fun c _ => getChar_consumes c

/-! ### Dates and times -/

/-- The seconds of a day follow their presence bit unless they are zero. -/
def secondsBits (seconds : Nat) : List Bool := if seconds ≠ 0 then unsignedBits seconds else []

/-- The special times, or the date and the seconds. -/
def ptimeBits : DateTime → List Bool
  | .notADateTime => [false, false]
  | .negInfinity => [false, true, false]
  | .posInfinity => [false, true, true]
  | .calendar date time =>
      true :: intBits (Int64.ofInt date.year) ++ (unsignedBits date.month ++
        (unsignedBits date.day ++ (decide (time.totalSeconds ≠ 0) ::
          secondsBits time.totalSeconds)))

theorem daysInMonth_le (year : Int) (month : Nat) : daysInMonth year month ≤ 31 := by
  unfold daysInMonth
  split
  · split <;> omega
  · split <;> omega

/-- Month and day have few bits. -/
theorem Date.bounds (date : Date) : date.month ≤ 12 ∧ date.day ≤ 31 :=
  ⟨date.month_mem.2, date.day_mem.2.trans (daysInMonth_le _ _)⟩

/-- A time is written. -/
theorem putPtime_emits (time : DateTime) : Emits written (putPtime time) (ptimeBits time) := by
  cases time with
  | notADateTime => exact (bit_emits false).seq (bit_emits false)
  | negInfinity => exact (bit_emits false).seq ((bit_emits true).seq (bit_emits false))
  | posInfinity => exact (bit_emits false).seq ((bit_emits true).seq (bit_emits true))
  | calendar date time =>
      have dateBounds := date.bounds
      have secondsBound := time.totalSeconds_lt
      have seconds : Emits written
          (if time.totalSeconds ≠ 0 then putUnsigned (UInt64.ofNat time.totalSeconds) else pure ())
          (secondsBits time.totalSeconds) := by
        unfold secondsBits
        split
        · exact putUnsigned_emits_ofNat (by omega)
        · exact .pure _
      exact (bit_emits true).seq ((putInt_emits _).seq
        ((putUnsigned_emits_ofNat (by omega)).seq ((putUnsigned_emits_ofNat (by omega)).seq
          ((bit_emits _).seq seconds))))

variable (dates : DateTimeLibrary)

/-- The seconds are read back when there are any. -/
theorem getSeconds_consumes {seconds : Nat} (small : seconds < 86400) :
    Consumes remaining (getSeconds (decide (seconds ≠ 0))) (secondsBits seconds)
      (UInt64.ofNat seconds) := by
  by_cases midnight : seconds = 0
  · subst midnight
    exact .pure _
  · rw [secondsBits, if_pos midnight, decide_eq_true midnight]
    exact getUnsigned_consumes_ofNat (by omega)

/-- A number of 32 bits survives the conversion. -/
theorem narrowed {value : Nat} (small : value < 2 ^ 32) :
    (UInt64.ofNat value).toUInt32.toNat = value := by
  rw [UInt64.toNat_toUInt32, UInt64.toNat_ofNat']
  omega

/-- `get_ptime` reads back special times and calendar times in whole seconds. -/
theorem getPtime_consumes {time : DateTime} (whole : time.IsWholeSecond) :
    Consumes remaining (getPtime dates) (ptimeBits time) time := by
  cases time with
  | notADateTime => exact (getBit_consumes false).bind ((getBit_consumes false).bind (.pure _))
  | negInfinity =>
      exact (getBit_consumes false).bind ((getBit_consumes true).bind
        ((getBit_consumes false).bind (.pure _)))
  | posInfinity =>
      exact (getBit_consumes false).bind ((getBit_consumes true).bind
        ((getBit_consumes true).bind (.pure _)))
  | calendar date time =>
      have dateBounds := date.bounds
      have secondsBound := time.totalSeconds_lt
      have yearBounds := date.year_mem
      have year : (Int64.ofInt date.year).toInt32.toInt = date.year := by
        rw [Int64.toInt32_ofInt, Int32.toInt_ofInt_of_le (by omega) (by omega)]
      apply (getBit_consumes true).bind
      apply (getInt_consumes _).bind
      apply (getUnsigned_consumes_ofNat (show date.month < 2 ^ 64 by omega)).bind
      apply (getUnsigned_consumes_ofNat (show date.day < 2 ^ 64 by omega)).bind
      apply (getBit_consumes (decide (time.totalSeconds ≠ 0))).bind
      change Consumes remaining _ (secondsBits time.totalSeconds) _
      rw [← List.append_nil (secondsBits time.totalSeconds)]
      apply (getSeconds_consumes secondsBound).bind
      rw [year, narrowed (by omega), narrowed (by omega), narrowed (by omega),
        dates.dateTime_valid date _ secondsBound, TimeOfDay.ofSeconds_totalSeconds whole]
      exact .pure _

/-! ### Values -/

/-- `put_value` takes the value, and a time has no fraction of a second to lose. -/
def Value.Writable : Value → Prop
  | .empty => False
  | .ptime value => value.IsWholeSecond
  | _ => True

/-- The strings in the value fit the 32 bits that `get_string` keeps of a length. -/
def Value.ShortStrings : Value → Prop
  | .string value => value.length < 2 ^ 32
  | .point p => p.crs.length < 2 ^ 32
  | .bbox b => b.crs.length < 2 ^ 32
  | _ => True

instance : DecidablePred Value.Writable
  | .empty => inferInstanceAs (Decidable False)
  | .ptime value => inferInstanceAs (Decidable value.IsWholeSecond)
  | .bool _ | .int _ | .uint _ | .double _ | .string _ | .point _ | .bbox _ =>
      inferInstanceAs (Decidable True)

instance : DecidablePred Value.ShortStrings
  | .string value => inferInstanceAs (Decidable (value.length < 2 ^ 32))
  | .point p => inferInstanceAs (Decidable (p.crs.length < 2 ^ 32))
  | .bbox b => inferInstanceAs (Decidable (b.crs.length < 2 ^ 32))
  | .empty | .bool _ | .int _ | .uint _ | .double _ | .ptime _ => inferInstanceAs (Decidable True)

/-- A value that can be written is not empty. -/
theorem Value.Writable.ne_empty {value : Value} (writable : value.Writable) : value ≠ .empty := by
  rintro rfl
  exact writable

/-- The type of a value and its payload. -/
def valueBits : Value → List Bool
  | .empty => []
  | .bool value => bitsMSB 4 1 ++ [value]
  | .int value => bitsMSB 4 2 ++ intBits value
  | .uint value => bitsMSB 4 3 ++ unsignedBits value.toNat
  | .double value => bitsMSB 4 4 ++ doubleBits value
  | .string value => bitsMSB 4 5 ++ stringBits value
  | .ptime value => bitsMSB 4 6 ++ ptimeBits value
  | .point p => bitsMSB 4 7 ++ (doubleBits p.x ++ (doubleBits p.y ++ stringBits p.crs))
  | .bbox b =>
      bitsMSB 4 8 ++ (doubleBits b.xMin ++ (doubleBits b.yMin ++ (doubleBits b.xMax ++
        (doubleBits b.yMax ++ stringBits b.crs))))

/-- Every value but the empty one can be written. -/
theorem putValue_emits {value : Value} (present : value ≠ .empty) :
    Emits written (putValue value) (valueBits value) := by
  have typeCode : ∀ code : UInt32, Emits written (putBits code 4) (bitsMSB 4 code.toNat) :=
    fun code => putBits_emits code (by decide)
  cases value with
  | empty => exact (present rfl).elim
  | bool value => exact (typeCode vBool).seq (bit_emits value)
  | int value => exact (typeCode vInt).seq (putInt_emits value)
  | uint value => exact (typeCode vUint).seq (putUnsigned_emits value)
  | double value => exact (typeCode vDouble).seq (putDouble_emits value)
  | string value => exact (typeCode vString).seq (putString_emits value)
  | ptime value => exact (typeCode vPtime).seq (putPtime_emits value)
  | point p =>
      exact (typeCode vPoint).seq ((putDouble_emits p.x).seq ((putDouble_emits p.y).seq
        (putString_emits p.crs)))
  | bbox b =>
      exact (typeCode vBbox).seq ((putDouble_emits b.xMin).seq ((putDouble_emits b.yMin).seq
        ((putDouble_emits b.xMax).seq ((putDouble_emits b.yMax).seq (putString_emits b.crs)))))

/-- `get_value` reads back every writable value whose strings are short. -/
theorem getValue_consumes {value : Value} (writable : value.Writable)
    (short : value.ShortStrings) :
    Consumes remaining (getValue dates) (valueBits value) value := by
  have typeCode : ∀ code : Nat, Consumes remaining (getBits 4) (bitsMSB 4 code)
      (UInt32.ofNat (code % 2 ^ 4)) := fun code => getBits_consumes code (by decide)
  cases value with
  | empty => exact writable.elim
  | bool value => exact (typeCode 1).bind ((getBit_consumes value).bind_pure Value.bool)
  | int value => exact (typeCode 2).bind ((getInt_consumes value).bind_pure Value.int)
  | uint value => exact (typeCode 3).bind ((getUnsigned_consumes value).bind_pure Value.uint)
  | double value => exact (typeCode 4).bind ((getDouble_consumes value).bind_pure Value.double)
  | string value => exact (typeCode 5).bind ((getString_consumes short).bind_pure Value.string)
  | ptime value =>
      exact (typeCode 6).bind ((getPtime_consumes dates writable).bind_pure Value.ptime)
  | point p =>
      exact (typeCode 7).bind ((getDouble_consumes p.x).bind ((getDouble_consumes p.y).bind
        ((getString_consumes short).bind_pure fun crs => Value.point ⟨p.x, p.y, crs⟩)))
  | bbox b =>
      exact (typeCode 8).bind ((getDouble_consumes b.xMin).bind ((getDouble_consumes b.yMin).bind
        ((getDouble_consumes b.xMax).bind ((getDouble_consumes b.yMax).bind
          ((getString_consumes short).bind_pure fun crs =>
            Value.bbox ⟨b.xMin, b.yMin, b.xMax, b.yMax, crs⟩)))))

/-! ### Parameter maps -/

/-- A parameter map: values under byte-string names. -/
abbrev ValueMap := Multimap ByteString Value

/-- Every value of the map can be written without loss. -/
def ValueMap.Writable (map : ValueMap) : Prop := ∀ entry ∈ map.entries, entry.2.Writable

/-- The names and the strings of the values are short. -/
def ValueMap.ShortStrings (map : ValueMap) : Prop :=
  ∀ entry ∈ map.entries, entry.1.length < 2 ^ 32 ∧ entry.2.ShortStrings

instance : DecidablePred ValueMap.Writable := fun map => by
  unfold ValueMap.Writable
  infer_instance

instance : DecidablePred ValueMap.ShortStrings := fun map => by
  unfold ValueMap.ShortStrings
  infer_instance

/-- No value of a map that can be written is empty. -/
theorem ValueMap.Writable.ne_empty {map : ValueMap} (writable : map.Writable) :
    ∀ entry ∈ map.entries, entry.2 ≠ .empty :=
  fun entry member => (writable entry member).ne_empty

/-- The empty map can be written. -/
theorem ValueMap.writable_empty : ValueMap.Writable .empty :=
  fun _ member => absurd member List.not_mem_nil

/-- The empty map has short strings. -/
theorem ValueMap.shortStrings_empty : ValueMap.ShortStrings .empty :=
  fun _ member => absurd member List.not_mem_nil

/-- One more value that can be written. -/
theorem ValueMap.Writable.insert {map : ValueMap} (writable : map.Writable) (key : ByteString)
    {value : Value} (new : value.Writable) : ValueMap.Writable (Multimap.insert key value map) := by
  intro entry member
  rcases Multimap.mem_insertEntry.mp member with rfl | old
  · exact new
  · exact writable entry old

/-- One more value with short strings. -/
theorem ValueMap.ShortStrings.insert {map : ValueMap} {key : ByteString} {value : Value}
    (short : map.ShortStrings) (shortKey : key.length < 2 ^ 32) (new : value.ShortStrings) :
    ValueMap.ShortStrings (Multimap.insert key value map) := by
  intro entry member
  rcases Multimap.mem_insertEntry.mp member with rfl | old
  · exact ⟨shortKey, new⟩
  · exact short entry old

/-- A key and the values stored under it. -/
def keyBits (map : ValueMap) (key : ByteString) : List Bool :=
  [true] ++ (stringBits key ++
    (((map.equalRange key).flatMap fun value => [true] ++ valueBits value) ++ [false]))

/-- Every key with its values, and the end. -/
def valueMapBits (map : ValueMap) : List Bool := map.keys.flatMap (keyBits map) ++ [false]

/-- The values of a key are written. -/
theorem putValues_emits {map : ValueMap} (key : ByteString)
    (present : ∀ entry ∈ map.entries, entry.2 ≠ .empty) :
    Emits written (putValues map key) (keyBits map key) :=
  (bit_emits true).seq ((putString_emits key).seq ((Emits.forM _ fun _ member =>
    (bit_emits true).seq (putValue_emits (present _ (Multimap.mem_equalRange.mp member)))).seq
      (bit_emits false)))

/-- `put_value_map` writes every map without empty values. -/
theorem putValueMap_emits {map : ValueMap} (present : ∀ entry ∈ map.entries, entry.2 ≠ .empty) :
    Emits written (putValueMap map) (valueMapBits map) :=
  (Emits.forM _ fun key _ => putValues_emits key present).seq (bit_emits false)

/-- One round of the outer loop adds the values of one key, in order. -/
theorem getKey_consumes {map : ValueMap} (writable : map.Writable) (short : map.ShortStrings)
    {key : ByteString} (member : key ∈ map.keys) (result : ValueMap) :
    Consumes remaining (getKey dates result)
      (stringBits key ++
        (((map.equalRange key).flatMap fun value => [true] ++ valueBits value) ++ [false]))
      (result.insertAll ((map.equalRange key).map fun value => (key, value))) := by
  obtain ⟨sample, stored⟩ := Multimap.mem_keys.mp member
  apply (getString_consumes (short _ stored).1).bind
  rw [Multimap.insertAll_map]
  apply Consumes.whileFlag_items (fun result value => result.insert key value)
    (map.equalRange key) result (getBit_consumes true) (getBit_consumes false)
  intro value inRange accumulator
  have stored := Multimap.mem_equalRange.mp inRange
  exact (getValue_consumes dates (writable _ stored) (short _ stored).2).bind_pure fun value =>
    accumulator.insert key value

/-- `get_value_map` reads back every writable map of short strings. -/
theorem getValueMap_consumes {map : ValueMap} (writable : map.Writable)
    (short : map.ShortStrings) :
    Consumes remaining (getValueMap dates) (valueMapBits map) map := by
  have loop : Consumes remaining (whileFlag getBit getBit_advances (getKey dates)
      (getKey_shrinks dates) .empty) _ _ :=
    Consumes.whileFlag_items
      (fun result key => result.insertAll ((map.equalRange key).map fun value => (key, value)))
      map.keys .empty (getBit_consumes true) (getBit_consumes false)
      fun key member accumulator => getKey_consumes dates writable short member accumulator
  rw [Multimap.insertAll_flatMap, ← Multimap.entries_eq_flatMap_keys,
    Multimap.insertAll_entries] at loop
  exact loop

/-! ### What can be read at all -/

/-- No string that is read is longer than its 32-bit length. -/
theorem getString_short : Returns (fun text => text.length < 2 ^ 32) getString :=
  .seq fun len => (Returns.readTimes getChar _).imp fun text length => by
    rw [length]
    exact len.toUInt32.toNat_lt

/-- A value that is read has short strings. -/
theorem getValue_short : Returns Value.ShortStrings (getValue dates) := by
  refine .seq fun typeCode => ?_
  unfold getTypedValue
  repeat' split
  · exact .seq fun _ => .pure trivial
  · exact .seq fun _ => .pure trivial
  · exact .seq fun _ => .pure trivial
  · exact .seq fun _ => .pure trivial
  · exact getString_short.bind fun _ short => .pure short
  · exact .seq fun _ => .pure trivial
  · exact .seq fun _ => .seq fun _ => getString_short.bind fun _ short => .pure short
  · exact .seq fun _ => .seq fun _ => .seq fun _ => .seq fun _ =>
      getString_short.bind fun _ short => .pure short
  · exact .throw _

/-- A map that is read has short names and values of short strings only. -/
theorem getValueMap_short : Returns ValueMap.ShortStrings (getValueMap dates) := by
  refine Returns.whileFlag (fun result short => ?_) ValueMap.shortStrings_empty
  refine getString_short.bind fun key shortKey => ?_
  refine Returns.whileFlag (fun accumulator shortAccumulator => ?_) short
  exact (getValue_short dates).bind fun value shortValue =>
    .pure (shortAccumulator.insert shortKey shortValue)

end SmartMetWfs
