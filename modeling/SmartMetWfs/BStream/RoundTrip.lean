import SmartMetWfs.BStream.Values

/-!
# Reading a written stream back

The bytes of `raw_data` show the written bits followed by the zero bits that fill
up the last byte. Every call of a `put_*` method is therefore undone by the
matching `get_*` method at whatever bit offset the calls before it left off, and a
parameter map that follows such calls is read back with the order of the values
under each key.
-/

namespace SmartMetWfs

open Foundation OBStream IBStream

theorem rawData_length (stream : OBStream) : stream.rawData.length = stream.ind + 1 := by
  have inside := stream.ind_lt
  rw [rawData, List.length_take, stream.data_length]
  omega

/-- The bytes show the written bits and zero bits up to the end of the last byte. -/
theorem rawData_bits (stream : OBStream) :
    bitsBetween stream.rawData 0 (8 * stream.rawData.length) =
      stream.written ++
        List.replicate (8 * stream.rawData.length - stream.written.length) false := by
  have numBits_le := stream.numBits_le
  have ordered : 8 * stream.ind + stream.numBits ≤ 8 * (stream.ind + 1) := by omega
  have before :
      bitsBetween stream.rawData 0 (8 * stream.ind + stream.numBits) = stream.written := by
    apply bitsBetween_congr
    intro position before
    exact bitAt_take (by omega)
  have after : bitsBetween stream.rawData (8 * stream.ind + stream.numBits) (8 * (stream.ind + 1)) =
      List.replicate (8 * (stream.ind + 1) - (8 * stream.ind + stream.numBits)) false := by
    apply bitsBetween_zeros
    intro position from_end inside
    exact (bitAt_take inside).trans (stream.padding position from_end)
  rw [rawData_length, bitsBetween_split ordered, before, after, written, length_bitsBetween,
    Nat.sub_zero]

/-- A stream over the written bytes shows the written bits and the bits up to the
end of the last byte. -/
theorem remaining_rawData (stream : OBStream) :
    ∃ padding, (IBStream.new stream.rawData).remaining = stream.written ++ padding :=
  ⟨_, rawData_bits stream⟩

/-- What a writer emits to a new stream, the matching reader gets back from its bytes. -/
theorem read_written {α : Type} {writer : Put Unit} {reader : Get α} {bits : List Bool}
    {value : α} (emits : Emits written writer bits)
    (consumes : Consumes remaining reader bits value) :
    ∃ sink, writer OBStream.new = .ok ((), sink) ∧
      ∃ source, reader (IBStream.new sink.rawData) = .ok (value, source) := by
  obtain ⟨sink, ran, written_eq⟩ := emits.run OBStream.new
  rw [new_written, List.nil_append] at written_eq
  obtain ⟨padding, shown⟩ := remaining_rawData sink
  rw [written_eq] at shown
  obtain ⟨source, read, _⟩ := consumes (IBStream.new sink.rawData) padding shown
  exact ⟨sink, ran, source, read⟩

/-- A call of a `put_*` method. -/
inductive PutCall where
  | bit (value : Bool)
  | bits (value : UInt32) (num : Nat)
  | int (value : Int64)
  | unsigned (value : UInt64)
  | double (value : Double)
  | char (value : UInt8)
  | string (value : ByteString)
  | ptime (value : DateTime)
  | value (value : Value)
  | valueMap (map : ValueMap)

/-- A call of a `get_*` method. -/
inductive GetCall where
  | bit
  | bits (num : Nat)
  | int
  | unsigned
  | double
  | char
  | string
  | ptime
  | value
  | valueMap

namespace PutCall

/-- The call on the stream. -/
def run : PutCall → Put Unit
  | .bit arg => OBStream.bit arg
  | .bits arg num => putBits arg num
  | .int arg => putInt arg
  | .unsigned arg => putUnsigned arg
  | .double arg => putDouble arg
  | .char arg => putChar arg
  | .string arg => putString arg
  | .ptime arg => putPtime arg
  | .value arg => putValue arg
  | .valueMap arg => putValueMap arg

/-- The `get_*` method that matches a `put_*` call. -/
def matching : PutCall → GetCall
  | .bit _ => .bit
  | .bits _ num => .bits num
  | .int _ => .int
  | .unsigned _ => .unsigned
  | .double _ => .double
  | .char _ => .char
  | .string _ => .string
  | .ptime _ => .ptime
  | .value _ => .value
  | .valueMap _ => .valueMap

/-- Bit fields leave a bit of the mask to spare and hold their value; strings, times
and maps are as their `get_*` method needs them. -/
def WellFormed : PutCall → Prop
  | .bits arg num => num < 32 ∧ arg.toNat < 2 ^ num
  | .string arg => arg.length < 2 ^ 32
  | .ptime arg => arg.IsWholeSecond
  | .value arg => arg.Writable ∧ arg.ShortStrings
  | .valueMap arg => arg.Writable ∧ arg.ShortStrings
  | _ => True

/-- The bits that a call writes. -/
def bitsOf : PutCall → List Bool
  | .bit arg => [arg]
  | .bits arg num => bitsMSB num arg.toNat
  | .int arg => intBits arg
  | .unsigned arg => unsignedBits arg.toNat
  | .double arg => doubleBits arg
  | .char arg => charBits arg
  | .string arg => stringBits arg
  | .ptime arg => ptimeBits arg
  | .value arg => valueBits arg
  | .valueMap arg => valueMapBits arg

end PutCall

/-- The value read, as the call that would have written it. -/
def GetCall.run (dates : DateTimeLibrary) : GetCall → Get PutCall
  | .bit => do
      let value ← getBit
      pure (.bit value)
  | .bits num => do
      let value ← getBits num
      pure (.bits value num)
  | .int => do
      let value ← getInt
      pure (.int value)
  | .unsigned => do
      let value ← getUnsigned
      pure (.unsigned value)
  | .double => do
      let value ← getDouble
      pure (.double value)
  | .char => do
      let value ← getChar
      pure (.char value)
  | .string => do
      let value ← getString
      pure (.string value)
  | .ptime => do
      let value ← getPtime dates
      pure (.ptime value)
  | .value => do
      let value ← getValue dates
      pure (.value value)
  | .valueMap => do
      let map ← getValueMap dates
      pure (.valueMap map)

/-- A well-formed call writes its bits. -/
theorem PutCall.run_emits {call : PutCall} (wellFormed : call.WellFormed) :
    Emits written call.run call.bitsOf := by
  cases call with
  | bit value => exact bit_emits value
  | bits value num => exact putBits_emits value wellFormed.1
  | int value => exact putInt_emits value
  | unsigned value => exact putUnsigned_emits value
  | double value => exact putDouble_emits value
  | char value => exact putChar_emits value
  | string value => exact putString_emits value
  | ptime value => exact putPtime_emits value
  | value value => exact putValue_emits wellFormed.1.ne_empty
  | valueMap map => exact putValueMap_emits wellFormed.1.ne_empty

/-- The matching call reads the written value back. -/
theorem GetCall.run_consumes (dates : DateTimeLibrary) {call : PutCall}
    (wellFormed : call.WellFormed) :
    Consumes remaining (call.matching.run dates) call.bitsOf call := by
  cases call with
  | bit value => exact (getBit_consumes value).bind_pure PutCall.bit
  | bits value num =>
      obtain ⟨spare, small⟩ := wellFormed
      have same : UInt32.ofNat (value.toNat % 2 ^ num) = value := by
        rw [Nat.mod_eq_of_lt small, UInt32.ofNat_toNat]
      exact ((getBits_consumes value.toNat spare).bind_pure fun value =>
        PutCall.bits value num).cast rfl (by rw [same])
  | int value => exact (getInt_consumes value).bind_pure PutCall.int
  | unsigned value => exact (getUnsigned_consumes value).bind_pure PutCall.unsigned
  | double value => exact (getDouble_consumes value).bind_pure PutCall.double
  | char value => exact (getChar_consumes value).bind_pure PutCall.char
  | string value => exact (getString_consumes wellFormed).bind_pure PutCall.string
  | ptime value => exact (getPtime_consumes dates wellFormed).bind_pure PutCall.ptime
  | value value => exact (getValue_consumes dates wellFormed.1 wellFormed.2).bind_pure PutCall.value
  | valueMap map =>
      exact (getValueMap_consumes dates wellFormed.1 wellFormed.2).bind_pure PutCall.valueMap

/-- The calls, then the parameter map. -/
def putAfter (calls : List PutCall) (map : ValueMap) : Put Unit := do
  forM calls PutCall.run
  putValueMap map

/-- The matching calls, then the parameter map. -/
def getAfter (dates : DateTimeLibrary) (calls : List GetCall) : Get (List PutCall × ValueMap) := do
  let read ← calls.mapM (GetCall.run dates)
  let map ← getValueMap dates
  pure (read, map)

/-- The bytes of the calls and the map give back what the calls wrote and the map. -/
def ReadsBack (dates : DateTimeLibrary) (calls : List PutCall) (map : ValueMap) : Prop :=
  ∃ sink, putAfter calls map OBStream.new = .ok ((), sink) ∧
    ∃ source, getAfter dates (calls.map PutCall.matching) (IBStream.new sink.rawData) =
      .ok ((calls, map), source)

/-- Calls and maps with short strings are read back. -/
theorem readsBack_of_shortStrings (dates : DateTimeLibrary) {calls : List PutCall}
    {map : ValueMap} (callsWellFormed : ∀ call ∈ calls, call.WellFormed)
    (writable : map.Writable) (short : map.ShortStrings) : ReadsBack dates calls map := by
  have emits : Emits written (putAfter calls map)
      (calls.flatMap PutCall.bitsOf ++ valueMapBits map) :=
    (Emits.forM calls fun call member => PutCall.run_emits (callsWellFormed call member)).seq
      (putValueMap_emits writable.ne_empty)
  have readCalls : Consumes remaining ((calls.map PutCall.matching).mapM (GetCall.run dates))
      (calls.flatMap PutCall.bitsOf) calls := by
    rw [List.mapM_map]
    have readEach := Consumes.mapM calls fun call member =>
      GetCall.run_consumes dates (callsWellFormed call member)
    rw [List.map_id'] at readEach
    exact readEach
  apply read_written emits
  apply readCalls.bind
  exact (getValueMap_consumes dates writable short).bind_pure fun map => (calls, map)

/-- A map that is read back has short strings. -/
theorem ReadsBack.shortStrings {dates : DateTimeLibrary} {calls : List PutCall} {map : ValueMap}
    (readsBack : ReadsBack dates calls map) : map.ShortStrings := by
  obtain ⟨sink, _, source, read⟩ := readsBack
  have returns : Returns (fun result : List PutCall × ValueMap => result.2.ShortStrings)
      (getAfter dates (calls.map PutCall.matching)) :=
    .seq fun read => (getValueMap_short dates).bind fun map short => .pure short
  exact returns _ _ _ read

/-- A string value is short; nothing is asked of a coordinate reference system. -/
def Value.ShortText : Value → Prop
  | .string value => value.length < 2 ^ 32
  | _ => True

/-- The coordinate reference system of a point or a box is short. -/
def Value.ShortCrs : Value → Prop
  | .point p => p.crs.length < 2 ^ 32
  | .bbox b => b.crs.length < 2 ^ 32
  | _ => True

instance : DecidablePred Value.ShortText
  | .string value => inferInstanceAs (Decidable (value.length < 2 ^ 32))
  | .empty | .bool _ | .int _ | .uint _ | .double _ | .ptime _ | .point _ | .bbox _ =>
      inferInstanceAs (Decidable True)

/-- A value has short strings when its text and its reference system are short. -/
theorem Value.shortStrings_iff (value : Value) :
    value.ShortStrings ↔ value.ShortText ∧ value.ShortCrs := by
  cases value with
  | string value => exact (and_iff_left trivial).symm
  | point p => exact (and_iff_right trivial).symm
  | bbox b => exact (and_iff_right trivial).symm
  | _ => exact (and_self_iff).symm

/-- A map of writable values with short names and texts, written after any calls that
are read back, is read back itself exactly when every coordinate reference system in
it is short. -/
theorem readsBack_iff (dates : DateTimeLibrary) {calls : List PutCall} {map : ValueMap}
    (callsWellFormed : ∀ call ∈ calls, call.WellFormed) (writable : map.Writable)
    (shortNames : ∀ entry ∈ map.entries, entry.1.length < 2 ^ 32)
    (shortTexts : ∀ entry ∈ map.entries, entry.2.ShortText) :
    ReadsBack dates calls map ↔ ∀ entry ∈ map.entries, entry.2.ShortCrs := by
  constructor
  · intro readsBack entry member
    exact (entry.2.shortStrings_iff.mp (readsBack.shortStrings entry member).2).2
  · intro shortCrs
    apply readsBack_of_shortStrings dates callsWellFormed writable
    intro entry member
    exact ⟨shortNames entry member,
      entry.2.shortStrings_iff.mpr ⟨shortTexts entry member, shortCrs entry member⟩⟩

/-- Two values of different kinds under one name, the least `int64` among them. -/
def sampleMap : ValueMap :=
  ((Multimap.empty.insert (ascii "x") (.string (ascii "a"))).insert (ascii "x")
    (.int (-9223372036854775808))).insert (ascii "b") (.ptime .posInfinity)

theorem sampleMap_writable : sampleMap.Writable := by decide

/-- The sample is read back when its reference systems are short. -/
theorem readsBack_iff_sample :
    ReadsBack .strict [.bits 5 3, .unsigned 42] sampleMap ↔
      ∀ entry ∈ sampleMap.entries, entry.2.ShortCrs := by
  have callsWellFormed : ∀ call ∈ [PutCall.bits 5 3, .unsigned 42], call.WellFormed :=
    List.forall_mem_cons.mpr ⟨⟨by decide, by decide⟩,
      List.forall_mem_cons.mpr ⟨trivial, List.forall_mem_nil _⟩⟩
  exact readsBack_iff .strict callsWellFormed sampleMap_writable (by decide) (by decide)

/-- A point whose coordinate reference system is one byte longer than can be read. -/
def longCrsMap : ValueMap :=
  Multimap.empty.insert (ascii "p")
    (.point ⟨⟨Vector.replicate 8 0⟩, ⟨Vector.replicate 8 0⟩, List.replicate (2 ^ 32) 0⟩)

/-- The only entry is a point with a long reference system. -/
theorem longCrsMap_entries :
    longCrsMap.entries = [(ascii "p",
      .point ⟨⟨Vector.replicate 8 0⟩, ⟨Vector.replicate 8 0⟩, List.replicate (2 ^ 32) 0⟩)] := rfl

/-- It is not read back. -/
theorem not_readsBack_longCrs :
    longCrsMap.Writable ∧ (∀ entry ∈ longCrsMap.entries, entry.1.length < 2 ^ 32) ∧
      (∀ entry ∈ longCrsMap.entries, entry.2.ShortText) ∧
      ¬ ReadsBack .strict [] longCrsMap := by
  refine ⟨?_, ?_, ?_, ?_⟩
  · exact ValueMap.writable_empty.insert _ trivial
  · rw [longCrsMap_entries]
    exact List.forall_mem_singleton.mpr (by decide)
  · rw [longCrsMap_entries]
    exact List.forall_mem_singleton.mpr trivial
  · intro readsBack
    have short := readsBack.shortStrings
    rw [ValueMap.ShortStrings, longCrsMap_entries, List.forall_mem_singleton] at short
    have bound : (List.replicate (2 ^ 32) (0 : UInt8)).length < 2 ^ 32 := short.2
    rw [List.length_replicate] at bound
    exact Nat.lt_irrefl _ bound

end SmartMetWfs
