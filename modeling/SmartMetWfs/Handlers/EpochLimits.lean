import SmartMetWfs.Core.Decimal
import SmartMetWfs.Core.Instants

/-!
# Limits on the number of epochs

An interval with more time epochs than the request allows is refused. Observation queries
compute the allowed length in 32 bits, mast queries in 64 bits, and both add it to the start
time in a clock of 64 bits.
-/

namespace SmartMetWfs.Handlers

/-- Why the times of a query are refused. -/
inductive LimitFailure
  | invalidTimeInterval (startTime endTime : Int64)
  | invalidTimeStep (timestep : UInt64)
  | tooManyEpochs (startTime endTime : Int64)
  | tooManyStations (stations maxStationCount : Nat)
  deriving DecidableEq

namespace LimitFailure

/-- The text of the failure. -/
def message : LimitFailure → ByteString
  | invalidTimeInterval _ _ => ascii "Invalid time interval!"
  | invalidTimeStep _ => ascii "Invalid time step value!"
  | tooManyEpochs _ _ => ascii "Too many time epochs in the time interval!"
  | tooManyStations stations _ =>
      ascii "Too many stations (" ++ decimal stations ++ ascii ") in the bounding box!"

/-- The detail that is added to it. -/
def detail : LimitFailure → Option ByteString
  | invalidTimeInterval _ _ => none
  | invalidTimeStep _ => some (ascii "Maximum timestep value is 1440 minutes.")
  | tooManyEpochs _ _ => some (ascii "Use shorter time interval or larger time step.")
  | tooManyStations _ maxStationCount =>
      some (ascii "No more than " ++ decimal maxStationCount ++ ascii " is allowed.")

/-- `WFS_EXCEPTION_CODE`. -/
def code : LimitFailure → ByteString
  | invalidTimeInterval _ _ => ascii "OperationParsingFailed"
  | invalidTimeStep _ => ascii "InvalidParameterValue"
  | tooManyEpochs _ _ => ascii "OperationProcessingFailed"
  | tooManyStations _ _ => ascii "OperationProcessingFailed"

end LimitFailure

/-- The times of a request, a `Fmi::DateTime` as its microseconds. -/
structure QueryTimes where
  startTime : Int64
  endTime : Int64
  maxEpochs : UInt64
  timestep : UInt64

/-- The configured limits of an observation query. -/
structure ObsLimits where
  sqRestrictions : Bool
  maxStationCount : Nat

/-- A time step where zero stands for a default. -/
def stepOr (defaultStep timestep : UInt64) : UInt64 :=
  if timestep ≠ 0 then timestep else defaultStep

/-- `StoredObsQueryHandler::check_query_limits`, where the observation engine counts the
stations of a bounding box. -/
def checkQueryLimits (library : ClockLibrary) (limits : ObsLimits) (times : QueryTimes)
    (bboxStations : Option Nat) : Except LimitFailure Unit :=
  if times.startTime > times.endTime then
    .error (.invalidTimeInterval times.startTime times.endTime)
  else
    let maxEpochs : UInt32 := times.maxEpochs.toUInt32
    let ts1 : UInt32 := (stepOr 60 times.timestep).toUInt32
    if limits.sqRestrictions = true ∧
        library.after times.startTime (maxEpochs * ts1).toUInt64 < times.endTime then
      .error (.tooManyEpochs times.startTime times.endTime)
    else
      match bboxStations with
      | none => .ok ()
      | some stations =>
          if limits.sqRestrictions = true ∧ limits.maxStationCount > 0 ∧
              stations > limits.maxStationCount then
            .error (.tooManyStations stations limits.maxStationCount)
          else .ok ()

/-- `check_time_step`. -/
def checkTimeStep (timestep : UInt64) : Except LimitFailure Unit :=
  if 1440 < timestep then .error (.invalidTimeStep timestep) else .ok ()

/-- `check_max_epochs`. -/
def checkMaxEpochs (library : ClockLibrary) (startTime endTime : Int64)
    (maxEpochs ts1 : UInt64) : Except LimitFailure Unit :=
  if library.after startTime (maxEpochs * ts1) < endTime then
    .error (.tooManyEpochs startTime endTime)
  else .ok ()

/-- The two checks in `StoredMastQueryHandler::query`. -/
def checkTimes (library : ClockLibrary) (sqRestrictions : Bool) (times : QueryTimes) :
    Except LimitFailure Unit := do
  checkTimeStep times.timestep
  if sqRestrictions then
    checkMaxEpochs library times.startTime times.endTime times.maxEpochs (stepOr 1 times.timestep)

/-- The product of the epochs and the time step, computed without overflow. -/
def epochMinutes (times : QueryTimes) (defaultStep : UInt64) : Nat :=
  times.maxEpochs.toNat * (stepOr defaultStep times.timestep).toNat

/-- The microseconds from the start to the end. -/
def interval (times : QueryTimes) : Int := times.endTime.toInt - times.startTime.toInt

/-- The interval is longer than all epochs together. -/
def TooManyEpochs (times : QueryTimes) (defaultStep : UInt64) : Prop :=
  minutesOf (epochMinutes times defaultStep) < interval times

instance (times : QueryTimes) (defaultStep : UInt64) :
    Decidable (TooManyEpochs times defaultStep) :=
  inferInstanceAs (Decidable (_ < _))

/-- Both limits are exact. -/
structure EpochLimitsExact (library : ClockLibrary) (limits : ObsLimits) (times : QueryTimes)
    (bboxStations : Option Nat) : Prop where
  obs : checkQueryLimits library limits times bboxStations =
    .error (.tooManyEpochs times.startTime times.endTime) ↔ TooManyEpochs times 60
  mast : checkMaxEpochs library times.startTime times.endTime times.maxEpochs
      (stepOr 1 times.timestep) = .error (.tooManyEpochs times.startTime times.endTime) ↔
    TooManyEpochs times 1

/-- What is left of a product in so many bits: the start time that many minutes later is still
in the clock, and the interval is no longer than that, or longer than the product itself. -/
structure LimitFits (bits : Nat) (times : QueryTimes) (product : Nat) : Prop where
  inClock : times.startTime.toInt + minutesOf (product % 2 ^ bits) < 2 ^ 63
  agrees : interval times ≤ minutesOf (product % 2 ^ bits) ∨ minutesOf product < interval times

instance (bits : Nat) (times : QueryTimes) (product : Nat) :
    Decidable (LimitFits bits times product) :=
  decidable_of_iff (_ ∧ _) ⟨fun both => ⟨both.1, both.2⟩, fun fits => ⟨fits.inClock, fits.agrees⟩⟩

/-- The products fit, and what is left of the one of a mast query is a duration. -/
structure EpochLimitsFit (times : QueryTimes) : Prop where
  obs : LimitFits 32 times (epochMinutes times 60)
  mast : LimitFits 64 times (epochMinutes times 1)
  duration : minutesOf (epochMinutes times 1 % 2 ^ 64) < 2 ^ 63

instance (times : QueryTimes) : Decidable (EpochLimitsFit times) :=
  decidable_of_iff (_ ∧ _ ∧ _)
    ⟨fun all => ⟨all.1, all.2.1, all.2.2⟩, fun fit => ⟨fit.obs, fit.mast, fit.duration⟩⟩

/-- A limit that is computed of what is left of a product is exact just if the product fits. -/
theorem limitFits_iff (library : ClockLibrary) {bits : Nat} {times : QueryTimes}
    (ordered : times.startTime ≤ times.endTime) {product : Nat} {count : UInt64}
    (left : count.toNat = product % 2 ^ bits) (short : minutesOf count.toNat < 2 ^ 63) :
    (library.after times.startTime count < times.endTime ↔ minutesOf product < interval times) ↔
      LimitFits bits times product := by
  have atMost : minutesOf (product % 2 ^ bits) ≤ minutesOf product :=
    minutesOf_le.mpr (Nat.mod_le _ _)
  have endHigh := Int64.toInt_lt times.endTime
  rw [library.after_lt_iff ordered short, left]
  constructor
  · intro exact
    unfold interval at exact
    constructor
    · omega
    · unfold interval
      omega
  · intro ⟨inClock, agrees⟩
    unfold interval at agrees ⊢
    omega

/-- What observation queries multiply. -/
theorem toNat_narrowProduct (maxEpochs step : UInt64) :
    (maxEpochs.toUInt32 * step.toUInt32).toUInt64.toNat =
      maxEpochs.toNat * step.toNat % 2 ^ 32 := by
  rw [UInt32.toNat_toUInt64, UInt32.toNat_mul, UInt64.toNat_toUInt32, UInt64.toNat_toUInt32,
    ← Nat.mul_mod]

/-- The epochs that an observation query allows. -/
theorem checkQueryLimits_eq_tooManyEpochs (library : ClockLibrary) {limits : ObsLimits}
    (restricted : limits.sqRestrictions = true) {times : QueryTimes}
    (ordered : times.startTime ≤ times.endTime) (bboxStations : Option Nat) :
    checkQueryLimits library limits times bboxStations =
        .error (.tooManyEpochs times.startTime times.endTime) ↔
      library.after times.startTime
        (times.maxEpochs.toUInt32 * (stepOr 60 times.timestep).toUInt32).toUInt64 <
          times.endTime := by
  unfold checkQueryLimits
  dsimp only
  rw [if_neg (Int64.not_lt.mpr ordered)]
  split
  · next above => exact iff_of_true rfl above.2
  · next above =>
      refine iff_of_false ?_ fun longer => above ⟨restricted, longer⟩
      cases bboxStations with
      | none => exact nofun
      | some stations =>
          dsimp only
          split
          · exact nofun
          · exact nofun

/-- The epochs that a mast query allows. -/
theorem checkMaxEpochs_eq_tooManyEpochs (library : ClockLibrary) (startTime endTime : Int64)
    (maxEpochs ts1 : UInt64) :
    checkMaxEpochs library startTime endTime maxEpochs ts1 =
        .error (.tooManyEpochs startTime endTime) ↔
      library.after startTime (maxEpochs * ts1) < endTime := by
  unfold checkMaxEpochs
  split
  · next above => exact iff_of_true rfl above
  · next within => exact iff_of_false nofun within

/-- Where what is left of the product of a mast query is a duration. -/
theorem epochLimitsExact_iff_of_duration (library : ClockLibrary) {limits : ObsLimits}
    (restricted : limits.sqRestrictions = true) {times : QueryTimes}
    (ordered : times.startTime ≤ times.endTime) (bboxStations : Option Nat)
    (duration : minutesOf (epochMinutes times 1 % 2 ^ 64) < 2 ^ 63) :
    EpochLimitsExact library limits times bboxStations ↔
      LimitFits 32 times (epochMinutes times 60) ∧ LimitFits 64 times (epochMinutes times 1) := by
  have narrow : (times.maxEpochs.toUInt32 * (stepOr 60 times.timestep).toUInt32).toUInt64.toNat =
      epochMinutes times 60 % 2 ^ 32 := toNat_narrowProduct _ _
  have narrowShort : minutesOf
      (times.maxEpochs.toUInt32 * (stepOr 60 times.timestep).toUInt32).toUInt64.toNat < 2 ^ 63 := by
    have bound := Nat.mod_lt (epochMinutes times 60) (Nat.two_pow_pos 32)
    rw [narrow]
    unfold minutesOf
    omega
  have wide : (times.maxEpochs * stepOr 1 times.timestep).toNat = epochMinutes times 1 % 2 ^ 64 :=
    UInt64.toNat_mul _ _
  have wideShort : minutesOf (times.maxEpochs * stepOr 1 times.timestep).toNat < 2 ^ 63 := by
    rw [wide]
    exact duration
  rw [← limitFits_iff library ordered narrow narrowShort,
    ← limitFits_iff library ordered wide wideShort,
    ← checkQueryLimits_eq_tooManyEpochs library restricted ordered bboxStations,
    ← checkMaxEpochs_eq_tooManyEpochs]
  exact ⟨fun exact => ⟨exact.obs, exact.mast⟩, fun both => ⟨both.1, both.2⟩⟩

/-- The limits are exact if the products fit, and, as long as what is left of the one of a mast
query is a duration, only then. -/
theorem epochLimitsExact_iff (library : ClockLibrary) {limits : ObsLimits}
    (restricted : limits.sqRestrictions = true) {times : QueryTimes}
    (ordered : times.startTime ≤ times.endTime) (bboxStations : Option Nat) :
    (EpochLimitsFit times → EpochLimitsExact library limits times bboxStations) ∧
      (minutesOf (epochMinutes times 1 % 2 ^ 64) < 2 ^ 63 →
        EpochLimitsExact library limits times bboxStations → EpochLimitsFit times) := by
  constructor
  · intro ⟨obs, mast, duration⟩
    exact (epochLimitsExact_iff_of_duration library restricted ordered bboxStations duration).mpr
      ⟨obs, mast⟩
  · intro duration exact
    obtain ⟨obs, mast⟩ :=
      (epochLimitsExact_iff_of_duration library restricted ordered bboxStations duration).mp exact
    exact ⟨obs, mast, duration⟩

/-- Eight epochs of an hour, within seven hours. -/
def hourlyTimes : QueryTimes where
  startTime := 1700000000000000
  endTime := 1700025200000000
  maxEpochs := 8
  timestep := 60

/-- Both limits are exact for them. -/
theorem epochLimitsExact_hourly : EpochLimitsExact .unlimited ⟨true, 0⟩ hourlyTimes none :=
  (epochLimitsExact_iff .unlimited rfl (by decide) none).1 (by decide)

/-! ### A product that wraps around -/

/-- Epochs of about 17 hours that together are longer than any interval. -/
def manyEpochs : QueryTimes where
  startTime := 0
  endTime := 60000000
  maxEpochs := 18014398509481984
  timestep := 1024

/-- An interval of a minute is refused by both limits, and a mast query with it is. -/
theorem minuteRefused :
    checkTimes .unlimited true manyEpochs = .error (.tooManyEpochs 0 60000000) ∧
      ¬ EpochLimitsExact .unlimited ⟨true, 0⟩ manyEpochs none := by
  have refused : checkMaxEpochs .unlimited 0 60000000 18014398509481984 1024 =
      .error (.tooManyEpochs 0 60000000) := by
    rw [checkMaxEpochs_eq_tooManyEpochs]
    decide
  refine ⟨refused, fun exact => ?_⟩
  exact absurd (exact.mast.mp refused) (by decide)

end SmartMetWfs.Handlers
