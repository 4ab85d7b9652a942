import SmartMetWfs.BStream.RoundTrip
import SmartMetWfs.Foundation.PrefixCode

/-!
# What a bit layout determines

What is written of a parameter value determines the value, up to the fraction of a
second of a calendar time, which is not written. Here strings may be of any length a
string can have: unlike reading, writing does not narrow the length of a string.
-/

namespace SmartMetWfs

open Foundation OBStream IBStream

/-! ### From readers to prefix-free layouts -/

/-- Some stream shows the given bits, up to padding. -/
theorem exists_remaining (bits : List Bool) :
    ∃ (stream : IBStream) (padding : List Bool), stream.remaining = bits ++ padding := by
  have emits : Emits written (forM bits OBStream.bit) (bits.flatMap fun val => [val]) :=
    Emits.forM _ fun val _ => bit_emits val
  obtain ⟨stream, _, shown⟩ := emits.run OBStream.new
  obtain ⟨padding, remaining⟩ := remaining_rawData stream
  refine ⟨IBStream.new stream.rawData, padding, remaining.trans ?_⟩
  rw [shown, new_written, List.nil_append, List.flatMap_singleton']

/-- A layout that some reader reads back is prefix-free. -/
theorem prefixFree_of_consumes {α : Type} {valid : α → Prop} {code : α → List Bool}
    {reader : Get α}
    (reads : ∀ value, valid value → Consumes remaining reader (code value) value) :
    PrefixFree valid code := by
  intro first second rest rest' validFirst validSecond same
  obtain ⟨stream, padding, shown⟩ := exists_remaining (code first ++ rest)
  have shown' : stream.remaining = code second ++ (rest' ++ padding) := by
    rw [shown, same, List.append_assoc]
  rw [List.append_assoc] at shown
  obtain ⟨after, read, left⟩ := reads first validFirst stream _ shown
  obtain ⟨after', read', left'⟩ := reads second validSecond stream _ shown'
  have outcome := Except.ok.inj (read.symm.trans read')
  obtain ⟨rfl, rfl⟩ := Prod.mk.inj outcome
  exact ⟨rfl, List.append_cancel_right (left.symm.trans left')⟩

/-! ### Strings -/

/-- A string has a size that a `size_t` holds. -/
def Storable (text : ByteString) : Prop := text.length < 2 ^ 64

/-- No string is the beginning of another one. -/
theorem stringBits_prefixFree : PrefixFree Storable stringBits := by
  have lengths : PrefixFree (fun _ : UInt64 => True) fun value => unsignedBits value.toNat :=
    prefixFree_of_consumes fun value _ => getUnsigned_consumes value
  have chars : PrefixFree (fun _ : UInt8 => True) charBits :=
    prefixFree_of_consumes fun c _ => getChar_consumes c
  intro first second rest rest' storableFirst storableSecond same
  simp only [stringBits, List.append_assoc] at same
  obtain ⟨sizes, same'⟩ := lengths _ _ _ _ trivial trivial same
  have sizes' := congrArg UInt64.toNat sizes
  rw [UInt64.toNat_ofNat', UInt64.toNat_ofNat', Nat.mod_eq_of_lt storableFirst,
    Nat.mod_eq_of_lt storableSecond] at sizes'
  exact chars.flatMap_of_length (fun _ _ => trivial) (fun _ _ => trivial) sizes' same'

/-- No double is the beginning of another one. -/
theorem doubleBits_prefixFree : PrefixFree (fun _ : Double => True) doubleBits :=
  prefixFree_of_consumes fun value _ => getDouble_consumes value

/-! ### Values -/

/-- The strings in a value can be stored. -/
def Value.Storable : Value → Prop
  | .string value => SmartMetWfs.Storable value
  | .point p => SmartMetWfs.Storable p.crs
  | .bbox b => SmartMetWfs.Storable b.crs
  | _ => True

/-- The type code in front of a value. -/
def Value.typeCode : Value → Nat
  | .empty => 0
  | .bool _ => 1
  | .int _ => 2
  | .uint _ => 3
  | .double _ => 4
  | .string _ => 5
  | .ptime _ => 6
  | .point _ => 7
  | .bbox _ => 8

/-- What follows the type code. -/
def Value.payloadBits : Value → List Bool
  | .empty => []
  | .bool value => [value]
  | .int value => intBits value
  | .uint value => unsignedBits value.toNat
  | .double value => doubleBits value
  | .string value => stringBits value
  | .ptime value => ptimeBits value
  | .point p => doubleBits p.x ++ (doubleBits p.y ++ stringBits p.crs)
  | .bbox b =>
      doubleBits b.xMin ++ (doubleBits b.yMin ++ (doubleBits b.xMax ++
        (doubleBits b.yMax ++ stringBits b.crs)))

/-- A value is its type and its payload. -/
theorem valueBits_eq {value : Value} (present : value ≠ .empty) :
    valueBits value = bitsMSB 4 value.typeCode ++ value.payloadBits := by
  cases value with
  | empty => exact absurd rfl present
  | _ => rfl

/-- The payloads of values of one type. -/
theorem payloadBits_prefixFree {first second : Value} {rest rest' : List Bool}
    (writableFirst : first.Writable) (writableSecond : second.Writable)
    (storableFirst : first.Storable) (storableSecond : second.Storable)
    (sameType : first.typeCode = second.typeCode)
    (same : first.payloadBits ++ rest = second.payloadBits ++ rest') :
    first = second ∧ rest = rest' := by
  have ints : PrefixFree (fun _ : Int64 => True) intBits :=
    prefixFree_of_consumes fun value _ => getInt_consumes value
  have uints : PrefixFree (fun _ : UInt64 => True) fun value => unsignedBits value.toNat :=
    prefixFree_of_consumes fun value _ => getUnsigned_consumes value
  have times : PrefixFree DateTime.IsWholeSecond ptimeBits :=
    prefixFree_of_consumes fun value whole => getPtime_consumes .strict whole
  have points := doubleBits_prefixFree.append (doubleBits_prefixFree.append stringBits_prefixFree)
  have boxes := doubleBits_prefixFree.append (doubleBits_prefixFree.append points)
  cases first with
  | empty => exact writableFirst.elim
  | bool value =>
      cases second with
      | bool value' =>
          obtain ⟨heads, tails⟩ := List.cons.inj same
          exact ⟨congrArg Value.bool heads, tails⟩
      | _ => cases sameType
  | int value =>
      cases second with
      | int value' =>
          obtain ⟨equal, rests⟩ := ints value value' rest rest' trivial trivial same
          exact ⟨congrArg Value.int equal, rests⟩
      | _ => cases sameType
  | uint value =>
      cases second with
      | uint value' =>
          obtain ⟨equal, rests⟩ := uints value value' rest rest' trivial trivial same
          exact ⟨congrArg Value.uint equal, rests⟩
      | _ => cases sameType
  | double value =>
      cases second with
      | double value' =>
          obtain ⟨equal, rests⟩ :=
            doubleBits_prefixFree value value' rest rest' trivial trivial same
          exact ⟨congrArg Value.double equal, rests⟩
      | _ => cases sameType
  | string value =>
      cases second with
      | string value' =>
          obtain ⟨equal, rests⟩ :=
            stringBits_prefixFree value value' rest rest' storableFirst storableSecond same
          exact ⟨congrArg Value.string equal, rests⟩
      | _ => cases sameType
  | ptime value =>
      cases second with
      | ptime value' =>
          obtain ⟨equal, rests⟩ := times value value' rest rest' writableFirst writableSecond same
          exact ⟨congrArg Value.ptime equal, rests⟩
      | _ => cases sameType
  | point p =>
      cases second with
      | point p' =>
          obtain ⟨equal, rests⟩ := points (p.x, p.y, p.crs) (p'.x, p'.y, p'.crs) rest rest'
            ⟨trivial, trivial, storableFirst⟩ ⟨trivial, trivial, storableSecond⟩ same
          cases p
          cases p'
          cases equal
          exact ⟨rfl, rests⟩
      | _ => cases sameType
  | bbox b =>
      cases second with
      | bbox b' =>
          obtain ⟨equal, rests⟩ := boxes (b.xMin, b.yMin, b.xMax, b.yMax, b.crs)
            (b'.xMin, b'.yMin, b'.xMax, b'.yMax, b'.crs) rest rest'
            ⟨trivial, trivial, trivial, trivial, storableFirst⟩
            ⟨trivial, trivial, trivial, trivial, storableSecond⟩ same
          cases b
          cases b'
          cases equal
          exact ⟨rfl, rests⟩
      | _ => cases sameType

/-- A type has four bits. -/
theorem typeCode_lt (value : Value) : value.typeCode < 2 ^ 4 := by
  cases value <;> simp only [Value.typeCode] <;> omega

/-- No value is the beginning of another one. -/
theorem valueBits_prefixFree :
    PrefixFree (fun value : Value => value.Writable ∧ value.Storable) valueBits := by
  have codes : PrefixFree (fun code => code < 2 ^ 4) (bitsMSB 4) := by
    apply prefixFree_of_consumes
    intro code small
    apply ((getBits_consumes code (by decide : 4 < 32)).bind_pure UInt32.toNat).cast rfl
    rw [UInt32.toNat_ofNat']
    omega
  intro first second rest rest' validFirst validSecond same
  rw [valueBits_eq validFirst.1.ne_empty, valueBits_eq validSecond.1.ne_empty, List.append_assoc,
    List.append_assoc] at same
  obtain ⟨sameType, same'⟩ := codes _ _ _ _ (typeCode_lt first) (typeCode_lt second) same
  exact payloadBits_prefixFree validFirst.1 validSecond.1 validFirst.2 validSecond.2 sameType same'

/-! ### Maps -/

/-- The names and the strings of the values can be stored. -/
def ValueMap.Storable (map : ValueMap) : Prop :=
  ∀ entry ∈ map.entries, SmartMetWfs.Storable entry.1 ∧ entry.2.Storable

/-- A map as the names with their value lists. -/
def ValueMap.grouped (map : ValueMap) : List (ByteString × List Value) :=
  map.keys.map fun key => (key, map.equalRange key)

/-- A map is known by its keys with their values. -/
theorem ValueMap.grouped_injective {first second : ValueMap}
    (same : first.grouped = second.grouped) : first = second := by
  have keys : first.keys = second.keys := by
    have firsts := congrArg (List.map Prod.fst) same
    simp only [grouped, List.map_map] at firsts
    simpa only [Function.comp_def, List.map_id'] using firsts
  apply Multimap.ext_equalRange
  intro key
  by_cases present : key ∈ first.keys
  · have inFirst : (key, first.equalRange key) ∈ second.grouped :=
      same ▸ List.mem_map_of_mem present
    obtain ⟨key', _, equal⟩ := List.mem_map.mp inFirst
    obtain ⟨rfl, ranges⟩ := Prod.mk.inj equal
    exact ranges.symm
  · rw [Multimap.equalRange_eq_nil present, Multimap.equalRange_eq_nil (keys ▸ present)]

/-- The layout of a map determines the map. -/
theorem valueMapBits_prefixFree :
    PrefixFree (fun map : ValueMap => map.Writable ∧ map.Storable) valueMapBits := by
  have groups := (stringBits_prefixFree.append
    (valueBits_prefixFree.flagged (by decide : true ≠ false))).flagged (by decide : true ≠ false)
  have layout : ∀ map : ValueMap, valueMapBits map = (map.grouped.flatMap fun group =>
      [true] ++ (stringBits group.1 ++ ((group.2.flatMap fun value => [true] ++ valueBits value) ++
        [false]))) ++ [false] := by
    intro map
    rw [ValueMap.grouped, List.flatMap_map]
    rfl
  have valid : ∀ map : ValueMap, map.Writable ∧ map.Storable → ∀ group ∈ map.grouped,
      Storable group.1 ∧ ∀ value ∈ group.2, value.Writable ∧ value.Storable := by
    intro map validMap group member
    obtain ⟨key, present, rfl⟩ := List.mem_map.mp member
    obtain ⟨value, stored⟩ := Multimap.mem_keys.mp present
    refine ⟨(validMap.2 _ stored).1, fun value inRange => ?_⟩
    have stored := Multimap.mem_equalRange.mp inRange
    exact ⟨validMap.1 _ stored, (validMap.2 _ stored).2⟩
  intro first second rest rest' validFirst validSecond same
  rw [layout, layout] at same
  obtain ⟨equal, rests⟩ := groups _ _ rest rest' (valid first validFirst)
    (valid second validSecond) same
  exact ⟨ValueMap.grouped_injective equal, rests⟩

/-! ### Fractions of a second -/

/-- The seconds of a time that was made of seconds. -/
theorem TimeOfDay.totalSeconds_ofSeconds (seconds : Nat) (small : seconds < 86400) :
    (TimeOfDay.ofSeconds seconds small).totalSeconds = seconds :=
  Nat.mul_div_cancel seconds (by decide)

/-- A time without its fraction of a second. -/
def DateTime.dropFraction : DateTime → DateTime
  | .calendar date time => .calendar date (.ofSeconds time.totalSeconds time.totalSeconds_lt)
  | time => time

/-- The value without fractions of a second. -/
def Value.dropFraction : Value → Value
  | .ptime value => .ptime value.dropFraction
  | value => value

/-- It can be written. -/
theorem Value.dropFraction_writable {value : Value} (present : value ≠ .empty) :
    value.dropFraction.Writable := by
  cases value with
  | empty => exact absurd rfl present
  | ptime time =>
      cases time with
      | calendar date time => exact Nat.mul_mod_left _ _
      | _ => trivial
  | _ => trivial

/-- It can be stored when the value can. -/
theorem Value.dropFraction_storable {value : Value} (storable : value.Storable) :
    value.dropFraction.Storable := by
  cases value <;> exact storable

/-- The fraction of a second is not written. -/
theorem putValue_dropFraction (value : Value) : putValue value.dropFraction = putValue value := by
  cases value with
  | ptime time =>
      cases time with
      | calendar date time =>
          simp only [Value.dropFraction, DateTime.dropFraction, putValue, putPtime,
            TimeOfDay.totalSeconds_ofSeconds]
      | _ => rfl
  | _ => rfl

/-- Fractions of a second are not written. -/
theorem putValueMap_dropFraction (map : ValueMap) :
    putValueMap (map.mapValues Value.dropFraction) = putValueMap map := by
  have values : putValues (map.mapValues Value.dropFraction) = putValues map := by
    funext key
    simp only [putValues, Multimap.equalRange_mapValues, List.forM_map, putValue_dropFraction]
  rw [putValueMap, Multimap.keys_mapValues, values]
  rfl

end SmartMetWfs
