import SmartMetWfs.Core.ByteString

/-!
# Parameter values

The alternatives of a request parameter value that the plugin reads, compares and
writes. A double is kept as the eight bytes the code copies it to; a date and time
is a special value or a calendar date with a time of day in microseconds. Dates
and times are made by the date library, of which only the construction of valid
calendar times is relied on.
-/

namespace SmartMetWfs

/-- The memory bytes of a `double`. -/
structure Double where
  bytes : Vector UInt8 8
  deriving DecidableEq

/-- Every fourth year, except the centuries that four hundred does not divide. -/
def isLeapYear (year : Int) : Bool :=
  year % 4 = 0 && (year % 100 ≠ 0 || year % 400 = 0)

/-- The length of a month depends on the year in February only. -/
def daysInMonth (year : Int) (month : Nat) : Nat :=
  if month = 2 then (if isLeapYear year then 29 else 28)
  else if month ∈ [4, 6, 9, 11] then 30 else 31

/-- `Fmi::Date`: a day of the proleptic Gregorian calendar with a 16-bit year. -/
structure Date where
  year : Int
  month : Nat
  day : Nat
  year_mem : -32767 ≤ year ∧ year ≤ 32767
  month_mem : 1 ≤ month ∧ month ≤ 12
  day_mem : 1 ≤ day ∧ day ≤ daysInMonth year month
  deriving DecidableEq

/-- `Fmi::TimeDuration` since midnight. -/
structure TimeOfDay where
  microseconds : Nat
  lt_day : microseconds < 86400 * 1000000
  deriving DecidableEq

/-- Fractions of a second are dropped. -/
def TimeOfDay.totalSeconds (time : TimeOfDay) : Nat := time.microseconds / 1000000

/-- The time of day a number of whole seconds after midnight. -/
def TimeOfDay.ofSeconds (seconds : Nat) (small : seconds < 86400) : TimeOfDay :=
  ⟨seconds * 1000000, by omega⟩

/-- `Fmi::DateTime`. -/
inductive DateTime where
  | notADateTime
  | negInfinity
  | posInfinity
  | calendar (date : Date) (timeOfDay : TimeOfDay)
  deriving DecidableEq

/-- A special time or a calendar time without a fraction of a second. -/
def DateTime.IsWholeSecond : DateTime → Prop
  | .calendar _ time => time.microseconds % 1000000 = 0
  | _ => True

instance : DecidablePred DateTime.IsWholeSecond := fun time => by
  cases time <;> unfold DateTime.IsWholeSecond <;> infer_instance

/-- `Fmi::DateTime(Fmi::Date(year, month, day), Fmi::Seconds(seconds))` of the date
library. Nothing is assumed of what it does with other than valid calendar times. -/
structure DateTimeLibrary where
  dateTime : Int → Nat → Nat → Nat → Option DateTime
  dateTime_valid : ∀ (date : Date) (seconds : Nat) (small : seconds < 86400),
    dateTime date.year date.month date.day seconds =
      some (.calendar date (.ofSeconds seconds small))

/-- A library that refuses everything but valid calendar times. -/
def DateTimeLibrary.strict : DateTimeLibrary where
  dateTime year month day seconds :=
    if valid : (-32767 ≤ year ∧ year ≤ 32767) ∧ (1 ≤ month ∧ month ≤ 12) ∧
        (1 ≤ day ∧ day ≤ daysInMonth year month) ∧ seconds < 86400 then
      some (.calendar ⟨year, month, day, valid.1, valid.2.1, valid.2.2.1⟩
        (.ofSeconds seconds valid.2.2.2))
    else none
  dateTime_valid date _ small :=
    dif_pos ⟨date.year_mem, date.month_mem, date.day_mem, small⟩

/-- `SmartMet::Spine::Point`. -/
structure Point where
  x : Double
  y : Double
  crs : ByteString
  deriving DecidableEq

/-- `SmartMet::Spine::BoundingBox`. -/
structure BoundingBox where
  xMin : Double
  yMin : Double
  xMax : Double
  yMax : Double
  crs : ByteString
  deriving DecidableEq

/-- `SmartMet::Spine::Value`; `empty` holds no value. -/
inductive Value where
  | empty
  | bool (value : Bool)
  | int (value : Int64)
  | uint (value : UInt64)
  | double (value : Double)
  | string (value : ByteString)
  | ptime (value : DateTime)
  | point (value : Point)
  | bbox (value : BoundingBox)
  deriving DecidableEq

/-- A whole-second time is the one its seconds count gives back. -/
theorem TimeOfDay.ofSeconds_totalSeconds {time : TimeOfDay}
    (whole : time.microseconds % 1000000 = 0) (small : time.totalSeconds < 86400) :
    TimeOfDay.ofSeconds time.totalSeconds small = time := by
  cases time with
  | mk microseconds bound =>
      simp only [TimeOfDay.ofSeconds, TimeOfDay.totalSeconds] at whole ⊢
      congr
      omega

/-- A time of day is less than a day. -/
theorem TimeOfDay.totalSeconds_lt (time : TimeOfDay) : time.totalSeconds < 86400 := by
  have bound := time.lt_day
  unfold TimeOfDay.totalSeconds
  omega

end SmartMetWfs
