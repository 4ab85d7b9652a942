import SmartMetWfs.BStream.Values
import SmartMetWfs.Foundation.SourceInvariants

/-!
# What is read from a bit stream

Whatever the bits are, the values that are read from them can be written again, and the
strings among them are no longer than the bits allow: a character takes seven bits at least.
-/

namespace SmartMetWfs

open Foundation IBStream

/-! ### Values that can be written -/

/-- A date and whole seconds make a time of whole seconds. -/
def DateTimeLibrary.WholeSeconds (dates : DateTimeLibrary) : Prop :=
  ∀ year month day seconds time,
    dates.dateTime year month day seconds = some time → time.IsWholeSecond

/-- The strict library makes whole seconds only. -/
theorem DateTimeLibrary.strict_wholeSeconds : DateTimeLibrary.strict.WholeSeconds := by
  intro year month day seconds time made
  unfold DateTimeLibrary.strict at made
  dsimp only at made
  split at made
  · cases made
    exact Nat.mul_mod_left seconds 1000000
  · cases made

section Writable

variable {dates : DateTimeLibrary} (whole : dates.WholeSeconds)

include whole

/-- A date that is read has whole seconds. -/
theorem getCalendarTime_whole : Returns DateTime.IsWholeSecond (getCalendarTime dates) := by
  refine .seq fun year => .seq fun month => .seq fun day => .seq fun haveSec => .seq fun sec => ?_
  split
  · next time made => exact .pure (whole _ _ _ _ time made)
  · exact .throw _

/-- A time that is read has whole seconds. -/
theorem getPtime_whole : Returns DateTime.IsWholeSecond (getPtime dates) := by
  refine .seq fun isTime => ?_
  split
  · exact getCalendarTime_whole whole
  · refine .seq fun isInfinity => ?_
    split
    · refine .seq fun isPositive => ?_
      split <;> exact .pure trivial
    · exact .pure trivial

/-- A value that is read can be written. -/
theorem getValue_writable : Returns Value.Writable (getValue dates) := by
  refine .seq fun typeCode => ?_
  unfold getTypedValue
  repeat' split
  · exact .seq fun _ => .pure trivial
  · exact .seq fun _ => .pure trivial
  · exact .seq fun _ => .pure trivial
  · exact .seq fun _ => .pure trivial
  · exact .seq fun _ => .pure trivial
  · exact (getPtime_whole whole).bind fun _ wholeSecond => .pure wholeSecond
  · exact .seq fun _ => .seq fun _ => .seq fun _ => .pure trivial
  · exact .seq fun _ => .seq fun _ => .seq fun _ => .seq fun _ => .seq fun _ => .pure trivial
  · exact .throw _

/-- A map that is read can be written. -/
theorem getValueMap_writable : Returns ValueMap.Writable (getValueMap dates) := by
  refine Returns.whileFlag (fun result writable => .seq fun key => ?_) ValueMap.writable_empty
  refine Returns.whileFlag (fun accumulator writableAccumulator => ?_) writable
  exact (getValue_writable whole).bind fun value writableValue =>
    .pure (writableAccumulator.insert key writableValue)

end Writable

/-! ### Strings that have been paid for -/

/-- A character takes seven bits or more. -/
theorem getChar_takesAtLeast : TakesAtLeast remaining 7 getChar := by
  refine (getBits_takes (by decide : 7 < 32)).atLeast.bind_shrinks fun v1 => ?_
  split
  · exact getByte_shrinks
  · exact .pure _

/-- A string of so many characters takes seven bits for each of them. -/
theorem getString_fits (bound : Nat) :
    ReturnsUnder (AtMost remaining bound) (fun text => 7 * text.length ≤ bound) getString := by
  refine (getUnsigned_shrinks.returnsUnder bound).bind fun len _ => ?_
  intro before text after kept ran
  have counted : text.length = len.toUInt32.toNat :=
    Returns.readTimes getChar _ before text after ran
  have taken := getChar_takesAtLeast.readTimes _ before text after ran
  unfold AtMost at kept ⊢
  rw [← counted] at taken
  constructor <;> omega

/-- The value is no string, or one that fits into so many bits. -/
def Value.Fits (bound : Nat) : Value → Prop
  | .string text => 7 * text.length ≤ bound
  | _ => True

variable (dates : DateTimeLibrary)

/-- A value that is read is no longer than the stream. -/
theorem getTypedValue_fits (bound : Nat) (typeCode : UInt32) :
    ReturnsUnder (AtMost remaining bound) (Value.Fits bound) (getTypedValue dates typeCode) := by
  have shrinks := (getTypedValue_shrinks dates typeCode).returnsUnder bound
  by_cases isString : typeCode = OBStream.vString
  · subst isString
    exact (getString_fits bound).bind fun text fits => .pure fits
  · intro before value after kept ran
    refine ⟨?_, (shrinks before value after kept ran).2⟩
    have notString : Returns (Value.Fits bound) (getTypedValue dates typeCode) := by
      unfold getTypedValue
      rw [if_neg isString]
      repeat' split
      · exact .seq fun _ => .pure trivial
      · exact .seq fun _ => .pure trivial
      · exact .seq fun _ => .pure trivial
      · exact .seq fun _ => .pure trivial
      · exact .seq fun _ => .pure trivial
      · exact .seq fun _ => .seq fun _ => .seq fun _ => .pure trivial
      · exact .seq fun _ => .seq fun _ => .seq fun _ => .seq fun _ => .seq fun _ => .pure trivial
      · exact .throw _
    exact notString before value after ran

/-- No string in a map that is read is longer than the bits that were there to read. -/
theorem getValueMap_fits (bound : Nat) :
    ReturnsUnder (AtMost remaining bound)
      (fun map : ValueMap => ∀ entry ∈ map.entries, entry.2.Fits bound)
      (getValueMap dates) := by
  have keepsFlag := getBit_advances.shrinks.returnsUnder bound
  have start : ∀ entry ∈ (Multimap.empty : ValueMap).entries, entry.2.Fits bound :=
    fun _ member => absurd member List.not_mem_nil
  refine ReturnsUnder.whileFlag keepsFlag (fun result fits => ?_) start
  refine (getString_shrinks.returnsUnder bound).bind fun key _ => ?_
  refine ReturnsUnder.whileFlag keepsFlag (fun accumulator fitsAccumulator => ?_) fits
  refine ((getBits_shrinks 4).returnsUnder bound).bind (fun typeCode _ =>
    getTypedValue_fits dates bound typeCode)
    |>.bind fun value fitsValue => .pure ?_
  intro entry member
  rcases Multimap.mem_insertEntry.mp member with rfl | old
  · exact fitsValue
  · exact fitsAccumulator entry old

end SmartMetWfs
