import SmartMetWfs.BStream.RoundTrip
import SmartMetWfs.Foundation.MemoryBlocks
import SmartMetWfs.Foundation.Simulations

/-!
# The bit streams over memory blocks

Here the two stream classes are their data members alone: a block of memory that `new`
allocates, and counters of which nothing is known. Every access is checked. The streams with
invariants of `BStream.Output` and `BStream.Input` are mirrored by these, so that no access
ever leaves the block or reads an unwritten cell, and what the bytes hold and how they are
read back is told by the lists of bits.
-/

namespace SmartMetWfs

open Foundation

/-- What ends a method early: an exception, or an access that the code does not notice. -/
inductive StreamFault where
  | thrown (error : StreamError)
  | access (fault : AccessFault)
  deriving DecidableEq

/-- A checked access. -/
def accessing {α : Type} (outcome : Except AccessFault α) : Except StreamFault α :=
  outcome.mapError .access

/-- The data members of `OBStream`. -/
structure OBStreamMembers where
  reserved : Nat
  data : Block UInt8
  ind : Nat
  numBits : Nat

namespace OBStreamMembers

/-- The constructor. -/
def new : Except StreamFault OBStreamMembers := do
  let data ← accessing ((Block.allocate blockSize).write 0 (List.replicate blockSize 0))
  return ⟨blockSize, data, 0, 0⟩

/-- `raw_data` -/
def rawData (stream : OBStreamMembers) : Except StreamFault ByteString :=
  accessing (stream.data.readRange 0 (stream.ind + 1))

/-- The new block of `put_bit`: it gets the bytes of the old one, and zeros behind them. -/
def enlarge (data : Block UInt8) (reserved : Nat) : Except AccessFault (Block UInt8) := do
  let bytes ← data.readRange 0 reserved
  let copied ← (Block.allocate (reserved + blockSize)).write 0 bytes
  copied.write reserved (List.replicate blockSize 0)

/-- The first half of `put_bit`. -/
def nextByte (stream : OBStreamMembers) : Except StreamFault OBStreamMembers :=
  if stream.numBits ≥ 8 then
    if stream.ind + 1 ≥ stream.reserved then do
      let data ← accessing (enlarge stream.data stream.reserved)
      return ⟨stream.reserved + blockSize, data, stream.ind + 1, 0⟩
    else .ok { stream with ind := stream.ind + 1, numBits := 0 }
  else .ok stream

/-- The second half of `put_bit`. -/
def markBit (stream : OBStreamMembers) (val : Bool) : Except StreamFault OBStreamMembers :=
  if val then do
    let byte ← accessing (stream.data.read stream.ind)
    let tmp := (0x80 : UInt8) >>> UInt8.ofNat stream.numBits
    let data ← accessing (stream.data.write stream.ind [byte ||| tmp])
    return { stream with data := data, numBits := stream.numBits + 1 }
  else .ok { stream with numBits := stream.numBits + 1 }

/-- `put_bit` -/
def putBit (val : Bool) : StateT OBStreamMembers (Except StreamFault) Unit := fun stream => do
  let stream ← stream.nextByte
  let stream ← stream.markBit val
  return ((), stream)

/-- The loop of `put_bits`. -/
def putBitsLoop (value : UInt32) : Nat → UInt32 → StateT OBStreamMembers (Except StreamFault) Unit
  | 0, _ => pure ()
  | num + 1, mask => do
      putBit (value &&& (mask >>> 1) ≠ 0)
      putBitsLoop value num (mask >>> 1)

/-- `put_bits` -/
def putBits (value : UInt32) (num : Nat) : StateT OBStreamMembers (Except StreamFault) Unit :=
  putBitsLoop value num ((1 : UInt32) <<< UInt32.ofNat num)

end OBStreamMembers

/-- The data members of `IBStream`. -/
structure IBStreamMembers where
  length : Nat
  pos : Nat
  data : Block UInt8
  bitPos : Nat

namespace IBStreamMembers

/-- The constructor: there is a block even for no bytes. -/
def new (data : ByteString) : Except StreamFault IBStreamMembers := do
  let size := if data.length > 0 then data.length else 1
  let cells ← accessing ((Block.allocate size).write 0 data)
  return ⟨data.length, 0, cells, 0⟩

/-- The first half of `get_bit`. -/
def nextByte (stream : IBStreamMembers) : IBStreamMembers :=
  if stream.bitPos ≥ 8 then { stream with pos := stream.pos + 1, bitPos := 0 } else stream

/-- The second half of `get_bit`. -/
def currentBit (stream : IBStreamMembers) : Except StreamFault (Bool × IBStreamMembers) :=
  if stream.pos ≥ stream.length then .error (.thrown .unexpectedEnd)
  else do
    let mask := (0x80 : UInt8) >>> UInt8.ofNat stream.bitPos
    let byte ← accessing (stream.data.read stream.pos)
    return (byte &&& mask ≠ 0, { stream with bitPos := stream.bitPos + 1 })

/-- `get_bit` -/
def getBit : StateT IBStreamMembers (Except StreamFault) Bool := fun stream =>
  stream.nextByte.currentBit

/-- The loop of `get_bits`. -/
def getBitsLoop : Nat → UInt32 → UInt32 → StateT IBStreamMembers (Except StreamFault) UInt32
  | 0, result, _ => pure result
  | num + 1, result, mask => do
      let bit ← getBit
      getBitsLoop num (if bit then result ||| mask >>> 1 else result) (mask >>> 1)

/-- `get_bits` -/
def getBits (num : Nat) : StateT IBStreamMembers (Except StreamFault) UInt32 :=
  getBitsLoop num 0 ((1 : UInt32) <<< UInt32.ofNat num)

end IBStreamMembers

/-! ### The writer -/

/-- The members of a stream with invariants: its bytes are all written. -/
def OBStream.members (stream : OBStream) : OBStreamMembers :=
  ⟨stream.reserved, Block.holding stream.data, stream.ind, stream.numBits⟩

namespace OBStreamMembers

/-- A new stream is represented by its members. -/
theorem new_eq : new = .ok OBStream.new.members := by
  have filled := Block.write_allocate (List.replicate blockSize (0 : UInt8))
  rw [List.length_replicate] at filled
  rw [new, filled]
  rfl

/-- The members have the data of the stream. -/
theorem rawData_members (stream : OBStream) : stream.members.rawData = .ok stream.rawData := by
  have inside : 0 + (stream.ind + 1) ≤ stream.data.length := by
    have := stream.ind_lt
    rw [stream.data_length]
    omega
  change accessing ((Block.holding stream.data).readRange 0 (stream.ind + 1)) = _
  rw [Block.readRange_holding inside]
  rfl

/-- A block that is full grows by zeros. -/
theorem enlarge_holding (bytes : List UInt8) :
    enlarge (Block.holding bytes) bytes.length =
      .ok (Block.holding (bytes ++ List.replicate blockSize 0)) := by
  have read : (Block.holding bytes).readRange 0 bytes.length = .ok bytes := by
    rw [Block.readRange_holding (Nat.zero_add _).le, List.drop_zero, List.take_length]
  have copied : (Block.allocate (bytes.length + blockSize)).write 0 bytes =
      .ok (Block.holding bytes ++ Block.allocate blockSize) := by
    have written := @Block.write_append UInt8 [] _ bytes (Block.allocate blockSize)
      (Block.length_allocate bytes.length)
    rw [List.nil_append, List.nil_append, Block.allocate_append] at written
    exact written
  have filled : (Block.holding bytes ++ Block.allocate blockSize).write bytes.length
      (List.replicate blockSize 0) =
        .ok (Block.holding (bytes ++ List.replicate blockSize 0)) := by
    have size : (Block.allocate blockSize : Block UInt8).length =
        (List.replicate blockSize (0 : UInt8)).length := by
      rw [Block.length_allocate, List.length_replicate]
    have written := @Block.write_append UInt8 (Block.holding bytes) _ _ [] size
    rw [List.append_nil, List.append_nil, Block.length_holding] at written
    rw [Block.holding_append]
    exact written
  simp only [enlarge, read, copied, filled, bind, Except.bind]

/-- The members go on to the next byte as the stream does. -/
theorem nextByte_members (stream : OBStream) :
    stream.members.nextByte = .ok stream.nextByte.members := by
  unfold nextByte OBStream.nextByte
  by_cases full : stream.numBits ≥ 8
  · rw [if_pos (show stream.members.numBits ≥ 8 from full), dif_pos full]
    by_cases exhausted : stream.ind + 1 ≥ stream.reserved
    · have larger : enlarge stream.members.data stream.members.reserved =
          .ok (Block.holding (stream.data ++ List.replicate blockSize 0)) := by
        rw [← enlarge_holding, stream.data_length]
        rfl
      rw [if_pos (show stream.members.ind + 1 ≥ stream.members.reserved from exhausted),
        dif_pos exhausted, larger]
      rfl
    · rw [if_neg (show ¬stream.members.ind + 1 ≥ stream.members.reserved from exhausted),
        dif_neg exhausted]
      rfl
  · rw [if_neg (show ¬stream.members.numBits ≥ 8 from full), dif_neg full]

/-- The members mark a bit as the stream does. -/
theorem markBit_members (stream : OBStream) (room : stream.numBits < 8) (val : Bool) :
    stream.members.markBit val = .ok (stream.markBit room val).members := by
  cases val with
  | false => rfl
  | true =>
      have inside : stream.ind < stream.data.length := stream.data_length ▸ stream.ind_lt
      have found := Block.read_holding (List.getElem?_eq_getElem inside) []
      rw [List.append_nil] at found
      have kept : stream.data.getD stream.ind 0 = stream.data[stream.ind] := by
        rw [List.getD_eq_getElem?_getD, List.getElem?_eq_getElem inside, Option.getD_some]
      have replaced : ∀ byte : UInt8, (Block.holding stream.data).write stream.ind [byte] =
          .ok (Block.holding (stream.data.set stream.ind byte)) := by
        intro byte
        rw [Block.write_holding inside, List.set_eq_take_append_cons_drop, if_pos inside,
          List.append_assoc]
        rfl
      change (accessing ((Block.holding stream.data).read stream.ind) >>= fun byte => _) = _
      rw [found]
      change (accessing ((Block.holding stream.data).write stream.ind _) >>= fun data => _) = _
      rw [replaced, ← kept]
      rfl

/-- A bit is put into the members as into the stream. -/
theorem putBit_mirrors (val : Bool) :
    Mirrors OBStream.members StreamFault.thrown (putBit val) (OBStream.bit val) := by
  intro before
  change (before.members.nextByte >>= fun stream => _) = _
  rw [nextByte_members]
  change (before.nextByte.members.markBit val >>= fun stream => _) = _
  rw [markBit_members _ before.nextByte_numBits_lt]
  rfl

/-- Bits are put into the members as into the stream. -/
theorem putBits_mirrors (value : UInt32) (num : Nat) :
    Mirrors OBStream.members StreamFault.thrown (putBits value num)
      (OBStream.putBits value num) := by
  unfold putBits OBStream.putBits
  generalize (1 : UInt32) <<< UInt32.ofNat num = mask
  induction num generalizing mask with
  | zero => exact .pure ()
  | succ num ih => exact (putBit_mirrors _).bind fun _ => ih _

end OBStreamMembers

/-! ### The reader -/

/-- The members of a stream over some bytes. -/
def IBStream.members (stream : IBStream) : IBStreamMembers :=
  ⟨stream.length, stream.pos, Block.holding stream.data ++ Block.allocate (1 - stream.length),
    stream.bitPos⟩

namespace IBStreamMembers

theorem new_eq (data : ByteString) : new data = .ok (IBStream.new data).members := by
  have size : (if data.length > 0 then data.length else 1) = data.length + (1 - data.length) := by
    split <;> omega
  have written := @Block.write_append UInt8 [] _ data (Block.allocate (1 - data.length))
    (Block.length_allocate data.length)
  rw [List.nil_append, List.nil_append, Block.allocate_append, ← size] at written
  rw [new]
  simp only [List.length_nil] at written
  simp only [written]
  rfl

theorem nextByte_members (stream : IBStream) :
    stream.members.nextByte = stream.nextByte.members := by
  unfold nextByte IBStream.nextByte
  by_cases full : stream.bitPos ≥ 8
  · rw [if_pos (show stream.members.bitPos ≥ 8 from full), if_pos full]
    rfl
  · rw [if_neg (show ¬stream.members.bitPos ≥ 8 from full), if_neg full]

/-- A byte is read only where there is one. -/
theorem getBit_mirrors : Mirrors IBStream.members StreamFault.thrown getBit IBStream.getBit := by
  intro before
  have room := before.nextByte_bitPos_lt
  change before.members.nextByte.currentBit = ((before.nextByte.currentBit room).map _).mapError _
  rw [nextByte_members]
  generalize before.nextByte = stream at room
  unfold currentBit IBStream.currentBit
  by_cases outside : stream.pos ≥ stream.length
  · rw [if_pos (show stream.members.pos ≥ stream.members.length from outside), if_pos outside]
    rfl
  · have inside : stream.pos < stream.data.length := not_le.mp outside
    have found : stream.members.data.read stream.members.pos =
        .ok (stream.data.getD stream.pos 0) := by
      rw [List.getD_eq_getElem?_getD, List.getElem?_eq_getElem inside, Option.getD_some]
      exact Block.read_holding (List.getElem?_eq_getElem inside) _
    rw [if_neg (show ¬stream.members.pos ≥ stream.members.length from outside), if_neg outside]
    simp only [found]
    rfl

/-- Bits are read from the members as from the stream. -/
theorem getBits_mirrors (num : Nat) :
    Mirrors IBStream.members StreamFault.thrown (getBits num) (IBStream.getBits num) := by
  unfold getBits IBStream.getBits
  generalize (1 : UInt32) <<< UInt32.ofNat num = mask
  generalize (0 : UInt32) = result
  induction num generalizing result mask with
  | zero => exact .pure result
  | succ num ih => exact getBit_mirrors.bind fun bit => ih _ _

end IBStreamMembers

open OBStream IBStream

/-! ### Sequences of calls -/

/-- A call of `put_bit` or `put_bits`. The width is one for which `1 << num` is defined. -/
inductive BitsPut where
  | bit (val : Bool)
  | bits (value : UInt32) (num : Nat) (defined : num < 32)

namespace BitsPut

/-- The bits put: of a number so many low ones, most significant first. -/
def shown : BitsPut → List Bool
  | .bit val => [val]
  | .bits value num _ => bitsMSB num value.toNat

/-- The call on the members. -/
def run : BitsPut → StateT OBStreamMembers (Except StreamFault) Unit
  | .bit val => OBStreamMembers.putBit val
  | .bits value num _ => OBStreamMembers.putBits value num

/-- The same call on a stream with invariants. -/
def call : BitsPut → Put Unit
  | .bit val => OBStream.bit val
  | .bits value num _ => putBits value num

/-- Every call on the members mirrors that on the stream. -/
theorem run_mirrors (put : BitsPut) :
    Mirrors OBStream.members StreamFault.thrown put.run put.call := by
  cases put with
  | bit val => exact OBStreamMembers.putBit_mirrors val
  | bits value num _ => exact OBStreamMembers.putBits_mirrors value num

/-- A call writes the bits that it shows. -/
theorem call_emits (put : BitsPut) : Emits written put.call put.shown := by
  cases put with
  | bit val => exact bit_emits val
  | bits value num defined => exact putBits_emits value defined

end BitsPut

/-- A call of `get_bit` or `get_bits`. -/
inductive BitsGet where
  | bit
  | bits (num : Nat) (defined : num < 32)

namespace BitsGet

/-- The number of bits that a call reads. -/
def width : BitsGet → Nat
  | .bit => 1
  | .bits num _ => num

/-- The value returned, which is 0 or 1 for one bit. -/
def run : BitsGet → StateT IBStreamMembers (Except StreamFault) UInt32
  | .bit => do
      let bit ← IBStreamMembers.getBit
      pure (UInt32.ofNat bit.toNat)
  | .bits num _ => IBStreamMembers.getBits num

/-- The same call on a stream with invariants. -/
def call : BitsGet → Get UInt32
  | .bit => do
      let bit ← getBit
      pure (UInt32.ofNat bit.toNat)
  | .bits num _ => getBits num

theorem run_mirrors (get : BitsGet) :
    Mirrors IBStream.members StreamFault.thrown get.run get.call := by
  cases get with
  | bit => exact IBStreamMembers.getBit_mirrors.bind fun bit => .pure _
  | bits num _ => exact IBStreamMembers.getBits_mirrors num

/-- A call takes as many bits as its width. -/
theorem call_takes (get : BitsGet) :
    Takes remaining get.call get.width (fun bits => UInt32.ofNat (ofBitsMSB bits))
      .unexpectedEnd := by
  cases get with
  | bit =>
      refine ⟨fun bits size => ?_, (getBit_takes.bind_pure _).exhausted⟩
      obtain ⟨bit, rfl⟩ := List.length_eq_one_iff.mp size
      exact ((getBit_takes.bind_pure fun bit => UInt32.ofNat bit.toNat).consumes [bit] size).cast
        rfl
        (by cases bit <;> rfl)
  | bits num defined => exact getBits_takes defined

end BitsGet

/-- `raw_data` after calls on a new stream. -/
def rawDataAfter (puts : List BitsPut) : Except StreamFault ByteString := do
  let stream ← OBStreamMembers.new
  let after ← (forM puts BitsPut.run).run stream
  after.2.rawData

/-- What calls on a new stream over the bytes return. -/
def valuesFrom (bytes : ByteString) (gets : List BitsGet) : Except StreamFault (List UInt32) := do
  let stream ← IBStreamMembers.new bytes
  let after ← (gets.mapM BitsGet.run).run stream
  return after.1

/-- A full byte stays the current one until the next bit, so that only a new stream has no
bits in its current byte. -/
def CurrentUsed (stream : OBStream) : Prop := stream.numBits = 0 → stream.ind = 0

/-- A bit that is written keeps the current byte in use. -/
theorem bit_keeps_currentUsed (val : Bool) : Keeps CurrentUsed (OBStream.bit val) := by
  intro before _ after _ ran unused
  cases ran
  exact absurd unused (Nat.succ_ne_zero _)

/-- Every call keeps the current byte in use. -/
theorem call_keeps_currentUsed (put : BitsPut) : Keeps CurrentUsed put.call := by
  cases put with
  | bit val => exact bit_keeps_currentUsed val
  | bits value num _ =>
      change Keeps CurrentUsed (putBits value num)
      unfold putBits
      generalize (1 : UInt32) <<< UInt32.ofNat num = mask
      induction num generalizing mask with
      | zero => exact .pure ()
      | succ num ih => exact (bit_keeps_currentUsed _).bind fun _ => ih (by omega) _

/-- One byte at least, and no more than the bits need. -/
theorem rawData_length_of_currentUsed {stream : OBStream} (used : CurrentUsed stream) :
    stream.rawData.length = max 1 ((stream.written.length + 7) / 8) := by
  have numBits_le := stream.numBits_le
  rw [rawData_length, written, length_bitsBetween]
  unfold CurrentUsed at used
  omega

/-- Calls on a new stream put the bits shown, with every access inside the block. -/
theorem run_puts (puts : List BitsPut) :
    ∃ stream : OBStream, rawDataAfter puts = .ok stream.rawData ∧
      stream.written = puts.flatMap BitsPut.shown ∧ CurrentUsed stream := by
  have emits := Emits.forM puts fun put _ => put.call_emits
  have mirrors := Mirrors.forM puts BitsPut.run_mirrors
  have keeps := Keeps.forM puts call_keeps_currentUsed
  obtain ⟨stream, ran, written_eq⟩ := emits.run OBStream.new
  refine ⟨stream, ?_, ?_, keeps _ _ _ (fun _ => rfl) ran⟩
  · rw [rawDataAfter, OBStreamMembers.new_eq]
    change ((forM puts BitsPut.run) OBStream.new.members >>= fun after => _) = _
    rw [mirrors.run_ok ran]
    exact OBStreamMembers.rawData_members stream
  · rwa [new_written, List.nil_append] at written_eq

/-- Calls on a new stream return the numbers with the next bits of the bytes, and report the
end of the input exactly where there are not so many bits. -/
theorem valuesFrom_eq (bytes : ByteString) (gets : List BitsGet) :
    valuesFrom bytes gets =
      if (gets.map BitsGet.width).sum ≤ 8 * bytes.length then
        .ok (pieceValues BitsGet.width (fun _ bits => UInt32.ofNat (ofBitsMSB bits)) gets
          (bitsBetween bytes 0 (8 * bytes.length)))
      else .error (.thrown .unexpectedEnd) := by
  have takes := Takes.mapM gets BitsGet.call_takes
  have mirrors := Mirrors.mapM gets BitsGet.run_mirrors
  have size : (IBStream.new bytes).remaining.length = 8 * bytes.length :=
    length_bitsBetween bytes 0 (8 * bytes.length)
  rw [valuesFrom, IBStreamMembers.new_eq]
  change ((gets.mapM BitsGet.run) (IBStream.new bytes).members >>= fun after => _) = _
  split
  · next enough =>
      obtain ⟨after, ran, _⟩ := takes.run (size ▸ enough)
      rw [mirrors.run_ok ran]
      exact congrArg Except.ok (pieceValues_take gets (IBStream.new bytes).remaining)
  · next short =>
      rw [mirrors.run_error (takes.exhausted _ (by omega))]
      rfl

/-- The bytes hold the bits put and zeros up to the end of the last byte, and are read back
as these. -/
theorem rawData_represents (puts : List BitsPut) :
    ∃ bytes, rawDataAfter puts = .ok bytes ∧
      bytes.length = max 1 (((puts.flatMap BitsPut.shown).length + 7) / 8) ∧
      (bytes.flatMap fun byte => bitsMSB 8 byte.toNat) = puts.flatMap BitsPut.shown ++
        List.replicate (8 * bytes.length - (puts.flatMap BitsPut.shown).length) false ∧
      ∀ gets : List BitsGet, valuesFrom bytes gets =
        if (gets.map BitsGet.width).sum ≤ 8 * bytes.length then
          .ok (pieceValues BitsGet.width (fun _ bits => UInt32.ofNat (ofBitsMSB bits)) gets
            (bytes.flatMap fun byte => bitsMSB 8 byte.toNat))
        else .error (.thrown .unexpectedEnd) := by
  obtain ⟨stream, ran, written_eq, used⟩ := run_puts puts
  refine ⟨stream.rawData, ran, ?_, ?_, fun gets => ?_⟩
  · rw [rawData_length_of_currentUsed used, written_eq]
  · rw [← bitsBetween_all, rawData_bits, written_eq]
  · rw [← bitsBetween_all]
    exact valuesFrom_eq stream.rawData gets

example : valuesFrom [0xD0] [.bit, .bits 3 (by decide), .bits 4 (by decide)] = .ok [1, 5, 0] := rfl

end SmartMetWfs
