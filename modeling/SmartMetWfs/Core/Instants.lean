import SmartMetWfs.Core.IntArithmetic

/-!
# Instants and durations

`Fmi::DateTime` and `Fmi::TimeDuration` as numbers of microseconds. The date library makes
durations; of `Fmi::Minutes` it is relied on that a count of 32 bits is represented as it is.
Where the width of the clock matters, instants and durations have 64 bits, and a count is
represented as it is if its microseconds are such a duration.
-/

namespace SmartMetWfs

/-- `Fmi::DateTime` that is not one of the special values. -/
abbrev Instant := Int

/-- The microseconds of a number of minutes. -/
def minutesOf (count : Nat) : Int := count * 60000000

theorem minutesOf_le {count count' : Nat} :
    minutesOf count ≤ minutesOf count' ↔ count ≤ count' := by
  unfold minutesOf
  omega

/-- Minutes are the same when their numbers are. -/
theorem minutesOf_inj {count count' : Nat} :
    minutesOf count = minutesOf count' ↔ count = count' := by
  unfold minutesOf
  omega

/-- The part of the date library that makes durations of numbers. -/
structure DurationLibrary where
  /-- `Fmi::Minutes` of an unsigned number. -/
  minutes : UInt64 → Int
  minutes_small : ∀ count : UInt64, count.toNat < 2 ^ 32 → minutes count = minutesOf count.toNat

/-- A library without limits. -/
def DurationLibrary.unlimited : DurationLibrary where
  minutes count := minutesOf count.toNat
  minutes_small _ _ := rfl

/-! ### The 64-bit clock -/

/-- A date library whose durations are exact as long as they have 64 bits. -/
structure ClockLibrary extends DurationLibrary where
  minutes_exact : ∀ count : UInt64, minutesOf count.toNat < 2 ^ 63 →
    minutes count = minutesOf count.toNat

/-- Without limits durations are exact. -/
def ClockLibrary.unlimited : ClockLibrary where
  toDurationLibrary := .unlimited
  minutes_exact _ _ := rfl

/-- The sum of a `Fmi::DateTime` and `Fmi::Minutes`, which wraps around. -/
def ClockLibrary.after (library : ClockLibrary) (startTime : Int64) (count : UInt64) : Int64 :=
  startTime + Int64.ofInt (library.minutes count)

/-- A sum that is in the clock is before an instant if the time up to this one is longer, and
one that is not has wrapped around to the past. -/
theorem ClockLibrary.after_lt_iff (library : ClockLibrary) {startTime endTime : Int64}
    (ordered : startTime ≤ endTime) {count : UInt64} (short : minutesOf count.toNat < 2 ^ 63) :
    library.after startTime count < endTime ↔
      2 ^ 63 ≤ startTime.toInt + minutesOf count.toNat ∨
        minutesOf count.toNat < endTime.toInt - startTime.toInt := by
  have nonnegative : 0 ≤ minutesOf count.toNat := by
    unfold minutesOf
    omega
  have length : (Int64.ofInt (library.minutes count)).toInt = minutesOf count.toNat := by
    rw [library.minutes_exact count short, Int64.toInt_ofInt_of_le (by omega) short]
  have sum : (library.after startTime count).toInt =
      (startTime.toInt + minutesOf count.toNat).bmod (2 ^ 64) := by
    rw [ClockLibrary.after, Int64.toInt_add, length]
  have startLow := Int64.le_toInt startTime
  have startHigh := Int64.toInt_lt startTime
  have endHigh := Int64.toInt_lt endTime
  rw [Int64.le_iff_toInt_le] at ordered
  rw [Int64.lt_iff_toInt_lt, sum, Int.bmod_def]
  split
  · omega
  · omega

end SmartMetWfs
