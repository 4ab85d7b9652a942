import SmartMetWfs.Core.ByteString
import SmartMetWfs.Core.Decimal
import SmartMetWfs.Foundation.Multiples

/-!
# Time blocks of flash queries

Where queries are restricted, flashes are asked for in whole blocks of time, so that the
answers can be cached. A day has a whole number of blocks, and the first one starts at
midnight. The block that is being filled is left out.
-/

namespace SmartMetWfs.Handlers

open Foundation

/-- `date()` of a time in seconds since a midnight: the days since then. -/
def dateOf (time : Int) : Int := time / 86400

/-- `time_of_day().total_seconds()` -/
def secondOfDay (time : Int) : Int := time % 86400

/-- `Fmi::DateTime(date, Fmi::Seconds(second))` -/
def dateTime (date second : Int) : Int := 86400 * date + second

/-- A number of seconds that divides the day. -/
structure TimeBlock where
  size : Nat
  positive : 0 < size
  divides : size ∣ 86400

/-- The time block size that the constructor accepts. Without restrictions it is a second. -/
def readTimeBlockSize (sqRestrictions : Bool) (timeBlockSize : Option Nat) :
    Except ByteString TimeBlock :=
  let size := if sqRestrictions then timeBlockSize.getD 300 else 1
  if valid : 0 < size ∧ 86400 % size = 0 then
    .ok ⟨size, valid.1, Nat.dvd_of_mod_eq_zero valid.2⟩
  else .error (ascii "Invalid time block size '" ++ decimal size ++ ascii " seconds'!")

/-- `round_time` -/
def roundTime (t0 : Int) (step : Nat) (offset : Int) : Int :=
  let t := t0 + offset
  dateTime (dateOf t) (step * (secondOfDay t / step))

/-- The first and the last time that `query` asks for. -/
structure FlashTimes where
  starttime : Int
  endtime : Int
  deriving DecidableEq

/-- The times of `StoredFlashQueryHandler::query`. A query into the future ends where it
starts. -/
def flashTimes (block : TimeBlock) (begin_ end_ now : Int) : FlashTimes :=
  let last := now - block.size
  let starttime := roundTime begin_ block.size 0
  let endtime := roundTime (min end_ last) block.size (block.size - 1)
  ⟨starttime, max endtime starttime⟩

/-- A block starts here, counted from midnight. -/
def IsBoundary (block : TimeBlock) (time : Int) : Prop :=
  ∃ count : Int, secondOfDay time = block.size * count

namespace TimeBlock

variable (block : TimeBlock)

theorem size_pos : (0 : Int) < block.size := Int.natCast_pos.mpr block.positive

/-- A block divides the day. -/
theorem size_dvd_day : (block.size : Int) ∣ 86400 := Int.natCast_dvd_natCast.mpr block.divides

/-- Blocks are counted through the days. -/
theorem isBoundary_iff (time : Int) : IsBoundary block time ↔ (block.size : Int) ∣ time := by
  have day : (block.size : Int) ∣ 86400 * (time / 86400) :=
    Int.dvd_mul_of_dvd_left block.size_dvd_day
  have split : 86400 * (time / 86400) + time % 86400 = time := Int.mul_ediv_add_emod time 86400
  change (block.size : Int) ∣ time % 86400 ↔ (block.size : Int) ∣ time
  rw [← Int.dvd_add_right day, split]

/-- A time is rounded down to its block. -/
theorem roundTime_eq (time : Int) (offset : Int) :
    roundTime time block.size offset = block.size * ((time + offset) / block.size) :=
  round_within block.size_dvd_day block.size_pos (time + offset)

/-- Without an offset the time is rounded down. -/
theorem isGreatest_roundTime (time : Int) :
    IsGreatest {boundary | IsBoundary block boundary ∧ boundary ≤ time}
      (roundTime time block.size 0) := by
  simp only [block.isBoundary_iff, block.roundTime_eq, Int.add_zero]
  exact isGreatest_multiple block.size_pos time

/-- With almost a block as the offset it is rounded up. -/
theorem isLeast_roundTime (time : Int) :
    IsLeast {boundary | IsBoundary block boundary ∧ time ≤ boundary}
      (roundTime time block.size (block.size - 1)) := by
  simp only [block.isBoundary_iff, block.roundTime_eq]
  exact isLeast_multiple block.size_pos time

/-- What ends a block before now ends by the last boundary before now. -/
theorem roundTime_before_now {time now : Int} (old : time ≤ now - block.size) :
    roundTime time block.size (block.size - 1) ≤ roundTime now block.size 0 := by
  rw [block.roundTime_eq, block.roundTime_eq]
  have earlier : time + (block.size - 1) ≤ now + 0 := by omega
  exact Int.mul_le_mul_of_nonneg_left (Int.ediv_le_ediv block.size_pos earlier)
    block.size_pos.le

end TimeBlock

/-- A query starts with the block of its begin and ends with the block of its end, but before
the block that is being filled, and never before it starts. -/
theorem flashTimes_blocks (block : TimeBlock) (begin_ end_ now : Int) :
    IsGreatest {boundary | IsBoundary block boundary ∧ boundary ≤ begin_}
        (flashTimes block begin_ end_ now).starttime ∧
      (∃ boundary, IsLeast {boundary | IsBoundary block boundary ∧
            min end_ (now - block.size) ≤ boundary} boundary ∧
          (flashTimes block begin_ end_ now).endtime =
            max boundary (flashTimes block begin_ end_ now).starttime) ∧
      (begin_ ≤ now → (flashTimes block begin_ end_ now).endtime ≤ now ∧
        ∀ filling, IsGreatest {boundary | IsBoundary block boundary ∧ boundary ≤ now} filling →
          (flashTimes block begin_ end_ now).endtime ≤ filling) := by
  have starts := block.isGreatest_roundTime begin_
  have ends := block.isLeast_roundTime (min end_ (now - block.size))
  have current := block.isGreatest_roundTime now
  refine ⟨starts, ⟨_, ends, rfl⟩, fun begun => ?_⟩
  have endsBefore : roundTime (min end_ (now - block.size)) block.size (block.size - 1) ≤
      roundTime now block.size 0 := block.roundTime_before_now (min_le_right _ _)
  have startsBefore : roundTime begin_ block.size 0 ≤ roundTime now block.size 0 :=
    current.2 ⟨starts.1.1, starts.1.2.trans begun⟩
  have complete : (flashTimes block begin_ end_ now).endtime ≤ roundTime now block.size 0 :=
    max_le endsBefore startsBefore
  exact ⟨complete.trans current.1.2, fun filling isFilling =>
    isFilling.unique current ▸ complete⟩

/-- A query at seven minutes past midnight for the last ten minutes, in blocks of the default
size. -/
example : (readTimeBlockSize true none).map (fun block => flashTimes block (-180) 420 420) =
    .ok ⟨-300, 300⟩ := rfl

end SmartMetWfs.Handlers
