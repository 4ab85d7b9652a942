import SmartMetWfs.Core.Instants
import SmartMetWfs.Foundation.OrderedMap
import SmartMetWfs.Foundation.Outcomes

/-!
# Options for generating times

`SupportsTimeParameters::get_time_generator_options` makes of the time parameters of a
request the options from which the times of a forecast are generated. The parameters are
numbers of 64 bits; hours and times are kept in 32 bits from where they are read, and the
end of an interval is computed in 32 bits.
-/

namespace SmartMetWfs.Handlers

open Foundation

/-- `TS::TimeSeriesGeneratorOptions::Mode`. -/
inductive TimeMode
  | timeSteps
  | fixedTimes
  | dataTimes
  deriving DecidableEq

/-- `TS::TimeSeriesGeneratorOptions`. -/
structure TimeSeriesGeneratorOptions where
  mode : TimeMode
  startTime : Instant
  endTime : Instant
  startTimeUTC : Bool
  endTimeUTC : Bool
  timeStep : Option UInt32
  timeSteps : Option UInt32
  timeList : OrderedSet Int

/-- The options as they are constructed; only the two instants are left to the library. -/
def TimeSeriesGeneratorOptions.new (startTime endTime : Instant) : TimeSeriesGeneratorOptions where
  mode := .timeSteps
  startTime := startTime
  endTime := endTime
  startTimeUTC := true
  endTimeUTC := true
  timeStep := none
  timeSteps := none
  timeList := .empty

/-- The time parameters of a request. -/
structure TimeParameters where
  hours : List UInt64
  times : List UInt64
  beginTime : Option Instant
  startStep : Option UInt64
  endTime : Option Instant
  timeStep : Option UInt64
  timeSteps : Option UInt64

/-- Why the parameters are refused. -/
inductive TimeOptionsFailure
  | invalidHour (hour : Int)
  | invalidTime (time : Int)
  | timeStepInMode
  | invalidTimeStep (timeStep : UInt64)
  | invalidTimeSteps (timeSteps : UInt64)
  | invalidStartStep (startStep : UInt64)
  | timeStepsAndEndTime

/-- A number that is copied to an `int64_t`. -/
def int64Of (word : UInt32) : Int := word.toNat

/-- The body of the loop of `add_fixed_hours`. -/
def addFixedHour (options : TimeSeriesGeneratorOptions) (word : UInt32) :
    Except TimeOptionsFailure TimeSeriesGeneratorOptions :=
  let hour := int64Of word
  if hour ≥ 0 ∧ hour ≤ 23 then
    .ok { options with timeList := options.timeList.insert (hour * 100) }
  else .error (.invalidHour hour)

/-- The hours are added one after the other. -/
def addFixedHours (options : TimeSeriesGeneratorOptions) (hours : List UInt32) :
    Except TimeOptionsFailure TimeSeriesGeneratorOptions :=
  hours.foldlM addFixedHour { options with mode := .fixedTimes }

/-- The body of the loop of `add_fixed_times`. -/
def addFixedTime (options : TimeSeriesGeneratorOptions) (word : UInt32) :
    Except TimeOptionsFailure TimeSeriesGeneratorOptions :=
  let tm := int64Of word
  let h := tm / 100
  let m := tm % 100
  if h ≥ 0 ∧ h ≤ 23 ∧ m ≥ 0 ∧ m ≤ 59 then
    .ok { options with timeList := options.timeList.insert tm }
  else .error (.invalidTime tm)

/-- The times are added one after the other. -/
def addFixedTimes (options : TimeSeriesGeneratorOptions) (times : List UInt32) :
    Except TimeOptionsFailure TimeSeriesGeneratorOptions :=
  times.foldlM addFixedTime { options with mode := .fixedTimes }

/-- A time step is set unless times are fixed. -/
def setTimeStep (options : TimeSeriesGeneratorOptions) (timeStep : UInt64) :
    Except TimeOptionsFailure TimeSeriesGeneratorOptions :=
  if options.mode ≠ .timeSteps then .error .timeStepInMode
  else if timeStep = 0 then .ok { options with mode := .dataTimes }
  else if 1440 % timeStep ≠ 0 then .error (.invalidTimeStep timeStep)
  else .ok { options with timeStep := some timeStep.toUInt32 }

/-- The number of steps has 31 bits. -/
def setNumSteps (options : TimeSeriesGeneratorOptions) (numSteps : UInt64) :
    Except TimeOptionsFailure TimeSeriesGeneratorOptions :=
  if 0 < numSteps ∧ numSteps ≤ 2147483647 then
    .ok { options with timeSteps := some numSteps.toUInt32 }
  else .error (.invalidTimeSteps numSteps)

variable (durations : DurationLibrary)

/-- `add_start_step`. The product has 64 bits. -/
def addStartStep (options : TimeSeriesGeneratorOptions) (timeStep : UInt32) (startStep : UInt64) :
    Except TimeOptionsFailure TimeSeriesGeneratorOptions :=
  if startStep > 10000 then .error (.invalidStartStep startStep)
  else .ok { options with
    startTime := options.startTime + durations.minutes (startStep * timeStep.toUInt64) }

/-- How the end is set. The product of the steps has 32 bits. -/
def setEndTime (options : TimeSeriesGeneratorOptions) (timeStep : UInt32) :
    Option Instant → Except TimeOptionsFailure TimeSeriesGeneratorOptions
  | some endTime =>
      match options.timeSteps with
      | some _ => .error .timeStepsAndEndTime
      | none => .ok { options with endTime }
  | none =>
      match options.timeSteps with
      | some timeSteps => .ok { options with
          endTime := options.startTime + durations.minutes (timeStep * timeSteps).toUInt64 }
      | none => .ok { options with endTime := options.startTime + minutesOf (24 * 60) }

/-- `param.get` into a vector of `unsigned`. -/
def unsignedValues (values : List UInt64) : List UInt32 := values.map UInt64.toUInt32

/-- Values are added where there are any. -/
def unlessEmpty (add : TimeSeriesGeneratorOptions → List UInt32 →
      Except TimeOptionsFailure TimeSeriesGeneratorOptions)
    (options : TimeSeriesGeneratorOptions) (words : List UInt32) :
    Except TimeOptionsFailure TimeSeriesGeneratorOptions :=
  if words.isEmpty then .ok options else add options words

/-- A value is set where there is one. -/
def whenGiven (set : TimeSeriesGeneratorOptions → UInt64 →
      Except TimeOptionsFailure TimeSeriesGeneratorOptions)
    (options : TimeSeriesGeneratorOptions) :
    Option UInt64 → Except TimeOptionsFailure TimeSeriesGeneratorOptions
  | some value => set options value
  | none => .ok options

/-- The fixed hours and times. -/
def addFixed (options : TimeSeriesGeneratorOptions) (param : TimeParameters) :
    Except TimeOptionsFailure TimeSeriesGeneratorOptions := do
  let options ← unlessEmpty addFixedHours options (unsignedValues param.hours)
  unlessEmpty addFixedTimes options (unsignedValues param.times)

/-- The steps and the interval. -/
def setInterval (options : TimeSeriesGeneratorOptions) (param : TimeParameters) :
    Except TimeOptionsFailure TimeSeriesGeneratorOptions := do
  let options ← whenGiven setTimeStep options param.timeStep
  let options ← whenGiven setNumSteps options param.timeSteps
  let timeStep := options.timeStep.getD 60
  let options := { options with
    timeStep := some timeStep
    startTime := param.beginTime.getD options.startTime }
  let options ← whenGiven (addStartStep durations · timeStep) options param.startStep
  setEndTime durations options timeStep param.endTime

/-- `get_time_generator_options`; `startTime` and `endTime` are those that the library
constructs the options with. -/
def getTimeGeneratorOptions (startTime endTime : Instant) (param : TimeParameters) :
    Except TimeOptionsFailure TimeSeriesGeneratorOptions := do
  let options ← addFixed (.new startTime endTime) param
  setInterval durations options param

/-! ### Fixed hours and times -/

/-- An hour of the day. -/
def ValidHour (hour : Nat) : Prop := hour ≤ 23

/-- `HHMM`. -/
def ValidTime (time : Nat) : Prop := time / 100 ≤ 23 ∧ time % 100 ≤ 59

/-- The failures of the fixed hours and times. -/
def FixedFailure : TimeOptionsFailure → Prop
  | .invalidHour _ => True
  | .invalidTime _ => True
  | _ => False

/-- The options with one more fixed time. -/
def insertTime (options : TimeSeriesGeneratorOptions) (time : Int) : TimeSeriesGeneratorOptions :=
  { options with timeList := options.timeList.insert time }

/-- An hour is added when it is valid. -/
theorem addFixedHour_yields (options : TimeSeriesGeneratorOptions) (word : UInt32) :
    Yields (addFixedHour options word) (ValidHour word.toNat)
      (insertTime options (word.toNat * 100)) := by
  have valid : int64Of word ≥ 0 ∧ int64Of word ≤ 23 ↔ ValidHour word.toNat := by
    unfold int64Of ValidHour
    omega
  unfold addFixedHour
  exact Yields.ite valid _ _

/-- A time is added when it is valid. -/
theorem addFixedTime_yields (options : TimeSeriesGeneratorOptions) (word : UInt32) :
    Yields (addFixedTime options word) (ValidTime word.toNat) (insertTime options word.toNat) := by
  have valid : int64Of word / 100 ≥ 0 ∧ int64Of word / 100 ≤ 23 ∧ int64Of word % 100 ≥ 0 ∧
      int64Of word % 100 ≤ 59 ↔ ValidTime word.toNat := by
    unfold int64Of ValidTime
    omega
  unfold addFixedTime
  exact Yields.ite valid _ _

/-- Only the fixed hours and times fail in their loops. -/
theorem addFixed_meets (options : TimeSeriesGeneratorOptions) (param : TimeParameters) :
    Meets FixedFailure (addFixed options param) fun _ => True := by
  have hour : ∀ options word, Meets FixedFailure (addFixedHour options word) fun _ => True := by
    intro options word
    unfold addFixedHour
    dsimp only
    split
    · exact Meets.ok trivial
    · exact Meets.error trivial
  have time : ∀ options word, Meets FixedFailure (addFixedTime options word) fun _ => True := by
    intro options word
    unfold addFixedTime
    dsimp only
    split
    · exact Meets.ok trivial
    · exact Meets.error trivial
  have given : ∀ {add : TimeSeriesGeneratorOptions → List UInt32 →
        Except TimeOptionsFailure TimeSeriesGeneratorOptions} {options : TimeSeriesGeneratorOptions}
      {words : List UInt32}, Meets FixedFailure (add options words) (fun _ => True) →
        Meets FixedFailure (unlessEmpty add options words) fun _ => True := by
    intro add options words meets
    unfold unlessEmpty
    split
    · exact Meets.ok trivial
    · exact meets
  apply (given _).bind
  · intro middle _
    exact given (Meets.foldlM (fun _ _ => True) _ trivial fun _ _ _ _ _ _ => time _ _)
  · exact Meets.foldlM (fun _ _ => True) _ trivial fun _ _ _ _ _ _ => hour _ _

/-- The options with the fixed hours and times of a request. -/
def withFixed (options : TimeSeriesGeneratorOptions) (param : TimeParameters) :
    TimeSeriesGeneratorOptions :=
  let hours := unsignedValues param.hours
  let times := unsignedValues param.times
  let options := if hours.isEmpty then options
    else hours.foldl (fun options hour => insertTime options (hour.toNat * 100))
      { options with mode := .fixedTimes }
  if times.isEmpty then options
  else times.foldl (fun options time => insertTime options time.toNat)
    { options with mode := .fixedTimes }

/-- Hours and times are added when all are valid. -/
theorem addFixed_yields (options : TimeSeriesGeneratorOptions) (param : TimeParameters) :
    Yields (addFixed options param)
      ((∀ hour ∈ unsignedValues param.hours, ValidHour hour.toNat) ∧
        ∀ time ∈ unsignedValues param.times, ValidTime time.toNat) (withFixed options param) := by
  have given : ∀ {words : List UInt32} {options options' : TimeSeriesGeneratorOptions}
      {add : TimeSeriesGeneratorOptions → List UInt32 →
        Except TimeOptionsFailure TimeSeriesGeneratorOptions} {good : UInt32 → Prop},
      Yields (add options words) (∀ word ∈ words, good word) options' →
        Yields (unlessEmpty add options words) (∀ word ∈ words, good word)
          (if words.isEmpty then options else options') := by
    intro words options options' add good yields
    unfold unlessEmpty
    split
    · next empty =>
        rw [List.isEmpty_iff.mp empty]
        exact (Yields.ok options).congr (iff_of_true trivial nofun) fun _ => rfl
    · exact yields
  apply Yields.bind
  · exact given (Yields.foldlM addFixedHour_yields _ _)
  · exact given (Yields.foldlM addFixedTime_yields _ _)

/-- The times that were inserted, and the others. -/
theorem timeList_foldl_insertTime {α : Type} (time : α → Int) (items : List α)
    (options : TimeSeriesGeneratorOptions) (other : Int) :
    (items.foldl (fun options item => insertTime options (time item)) options).timeList.contains
        other = true ↔
      (∃ item ∈ items, other = time item) ∨ options.timeList.contains other = true := by
  induction items generalizing options with
  | nil => exact (or_iff_right fun ⟨_, member, _⟩ => List.not_mem_nil member).symm
  | cons item items ih =>
      rw [List.foldl_cons, ih, List.exists_mem_cons_iff, insertTime]
      rw [OrderedSet.contains_insert, or_left_comm, or_assoc]

/-- The times of the options: those of the parameters, as they are kept in 32 bits. -/
theorem timeList_withFixed (startTime endTime : Instant) (param : TimeParameters) (time : Int) :
    (withFixed (.new startTime endTime) param).timeList.contains time = true ↔
      (∃ hour ∈ unsignedValues param.hours, time = hour.toNat * 100) ∨
        ∃ tm ∈ unsignedValues param.times, time = tm.toNat := by
  have optional : ∀ (words : List UInt32) (minutes : UInt32 → Int)
      (options : TimeSeriesGeneratorOptions),
      (if words.isEmpty then options
        else words.foldl (fun options word => insertTime options (minutes word))
          { options with mode := .fixedTimes }).timeList.contains time = true ↔
        (∃ word ∈ words, time = minutes word) ∨ options.timeList.contains time = true := by
    intro words minutes options
    split
    · next empty =>
        rw [List.isEmpty_iff.mp empty]
        exact (or_iff_right fun ⟨_, member, _⟩ => List.not_mem_nil member).symm
    · exact timeList_foldl_insertTime minutes words _ time
  have new : (TimeSeriesGeneratorOptions.new startTime endTime).timeList.contains time = false :=
    rfl
  unfold withFixed
  dsimp only
  rw [optional _ fun word => word.toNat, optional _ fun word => word.toNat * 100, new, or_comm]
  simp only [Bool.false_eq_true, or_false]

/-- The steps and the interval leave the fixed times as they are, and are refused for
other reasons. -/
theorem setInterval_meets (options : TimeSeriesGeneratorOptions) (param : TimeParameters) :
    Meets (fun failure => ¬ FixedFailure failure) (setInterval durations options param)
      fun result => result.timeList = options.timeList := by
  have given : ∀ {set : TimeSeriesGeneratorOptions → UInt64 →
        Except TimeOptionsFailure TimeSeriesGeneratorOptions} (options : TimeSeriesGeneratorOptions)
      (value : Option UInt64), (∀ value, Meets (fun failure => ¬ FixedFailure failure)
          (set options value) fun result => result.timeList = options.timeList) →
        Meets (fun failure => ¬ FixedFailure failure) (whenGiven set options value)
          fun result => result.timeList = options.timeList := by
    intro set options value meets
    cases value with
    | none => exact Meets.ok rfl
    | some value => exact meets value
  unfold setInterval
  refine (given options param.timeStep fun timeStep => ?_).bind fun first same => ?_
  · unfold setTimeStep
    split
    · exact Meets.error id
    · split
      · exact Meets.ok rfl
      · split
        · exact Meets.error id
        · exact Meets.ok rfl
  refine (given first param.timeSteps fun numSteps => ?_).bind fun second same' => ?_
  · unfold setNumSteps
    split
    · exact Meets.ok rfl
    · exact Meets.error id
  dsimp only
  refine (given _ param.startStep fun startStep => ?_).bind fun third same'' => ?_
  · unfold addStartStep
    split
    · exact Meets.error id
    · exact Meets.ok rfl
  have kept : third.timeList = options.timeList := same''.trans (same'.trans same)
  unfold setEndTime
  split
  · split
    · exact Meets.error id
    · exact Meets.ok kept
  · split
    · exact Meets.ok kept
    · exact Meets.ok kept

/-- The fixed hours and times change nothing else. -/
theorem withFixed_eq (options : TimeSeriesGeneratorOptions) (param : TimeParameters) :
    withFixed options param = { options with
      mode := (withFixed options param).mode
      timeList := (withFixed options param).timeList } := by
  have kept : ∀ (words : List UInt32) (minutes : UInt32 → Int)
      (options : TimeSeriesGeneratorOptions),
      ∃ mode timeList, words.foldl (fun options word => insertTime options (minutes word)) options =
        { options with mode, timeList } := by
    intro words minutes
    induction words with
    | nil => exact fun options => ⟨options.mode, options.timeList, rfl⟩
    | cons word words ih => exact fun options => ih (insertTime options (minutes word))
  have optional : ∀ (words : List UInt32) (minutes : UInt32 → Int)
      (options : TimeSeriesGeneratorOptions), ∃ mode timeList,
      (if words.isEmpty then options
        else words.foldl (fun options word => insertTime options (minutes word))
          { options with mode := .fixedTimes }) = { options with mode, timeList } := by
    intro words minutes options
    split
    · exact ⟨options.mode, options.timeList, rfl⟩
    · exact kept words minutes _
  obtain ⟨mode, timeList, hoursAdded⟩ :=
    optional (unsignedValues param.hours) (fun word => word.toNat * 100) options
  obtain ⟨mode', timeList', timesAdded⟩ :=
    optional (unsignedValues param.times) (fun word => word.toNat) { options with mode, timeList }
  have fixed : withFixed options param = { options with mode := mode', timeList := timeList' } := by
    unfold withFixed
    dsimp only
    rw [hoursAdded]
    exact timesAdded
  rw [fixed]

/-- The hours and times of a request are valid when read like this. -/
def AllValid (read : UInt64 → Nat) (param : TimeParameters) : Prop :=
  (∀ hour ∈ param.hours, ValidHour (read hour)) ∧ ∀ time ∈ param.times, ValidTime (read time)

/-- What is kept of a number in 32 bits. -/
def low32 (value : UInt64) : Nat := value.toNat % 2 ^ 32

/-- A number of 32 bits stays. -/
theorem low32_of_lt {value : UInt64} (small : value.toNat < 2 ^ 32) : low32 value = value.toNat :=
  Nat.mod_eq_of_lt small

/-- Valid numbers have less than 32 bits. -/
theorem AllValid.small {param : TimeParameters} (valid : AllValid UInt64.toNat param) :
    ∀ value ∈ param.hours ++ param.times, value.toNat < 2 ^ 32 := by
  intro value member
  rcases List.mem_append.mp member with isHour | isTime
  · have := valid.1 value isHour
    unfold ValidHour at this
    omega
  · have := valid.2 value isTime
    unfold ValidTime at this
    omega

/-- Numbers of 32 bits are valid as they are. -/
theorem allValid_low32 {param : TimeParameters}
    (small : ∀ value ∈ param.hours ++ param.times, value.toNat < 2 ^ 32) :
    AllValid low32 param ↔ AllValid UInt64.toNat param := by
  unfold AllValid
  refine and_congr (forall₂_congr fun hour member => ?_) (forall₂_congr fun time member => ?_)
  · rw [low32_of_lt (small hour (List.mem_append_left _ member))]
  · rw [low32_of_lt (small time (List.mem_append_right _ member))]

/-- Hours and times are added by their lowest 32 bits. -/
theorem addFixed_yields_low32 (options : TimeSeriesGeneratorOptions) (param : TimeParameters) :
    Yields (addFixed options param) (AllValid low32 param) (withFixed options param) := by
  apply (addFixed_yields options param).congr
  · unfold unsignedValues AllValid
    rw [List.forall_mem_map, List.forall_mem_map]
    rfl
  · exact fun _ => rfl

/-- The fixed hours and times fail exactly when one is invalid, and otherwise the times of
the options are exactly those asked for. -/
structure FixedTimesExact (startTime endTime : Instant) (param : TimeParameters) : Prop where
  fails_iff : (∃ failure, FixedFailure failure ∧
    getTimeGeneratorOptions durations startTime endTime param = .error failure) ↔
      ¬ AllValid UInt64.toNat param
  timeList : ∀ options, getTimeGeneratorOptions durations startTime endTime param = .ok options →
    ∀ time : Int, options.timeList.contains time = true ↔
      (∃ hour ∈ param.hours, time = 100 * hour.toNat) ∨ ∃ tm ∈ param.times, time = tm.toNat
  succeeds : AllValid UInt64.toNat param → param.timeStep = none → param.timeSteps = none →
    param.startStep = none →
      ∃ options, getTimeGeneratorOptions durations startTime endTime param = .ok options

/-- The options fail for the times when some time is not valid. -/
theorem getTimeGeneratorOptions_fails_iff (startTime endTime : Instant) (param : TimeParameters) :
    (∃ failure, FixedFailure failure ∧
      getTimeGeneratorOptions durations startTime endTime param = .error failure) ↔
        ¬ AllValid low32 param := by
  have yields := addFixed_yields_low32 (.new startTime endTime) param
  have meets := addFixed_meets (.new startTime endTime) param
  rw [← yields.succeeds_iff]
  unfold getTimeGeneratorOptions
  cases fixed : addFixed (.new startTime endTime) param with
  | error failure =>
      rw [fixed] at meets
      exact iff_of_true ⟨failure, meets, rfl⟩ fun ⟨_, succeeds⟩ => by cases succeeds
  | ok options =>
      refine iff_of_false ?_ (not_not_intro ⟨options, rfl⟩)
      rintro ⟨failure, isFixed, fails⟩
      have other := setInterval_meets durations options param
      rw [show setInterval durations options param = .error failure from fails] at other
      exact other isFixed

/-- The fixed hours and times are exact just if one is invalid even in 32 bits, or all have
no more bits. -/
theorem fixedTimesExact_iff (startTime endTime : Instant) (param : TimeParameters) :
    FixedTimesExact durations startTime endTime param ↔
      ¬ AllValid low32 param ∨ ∀ value ∈ param.hours ++ param.times, value.toNat < 2 ^ 32 := by
  have fails_iff := getTimeGeneratorOptions_fails_iff durations startTime endTime param
  have yields := addFixed_yields_low32 (.new startTime endTime) param
  constructor
  · intro exact
    by_cases valid : AllValid low32 param
    · refine .inr (AllValid.small ?_)
      by_contra invalid
      exact fails_iff.mp (exact.fails_iff.mpr invalid) valid
    · exact .inl valid
  · rintro (invalid | small)
    · have invalid64 : ¬ AllValid UInt64.toNat param :=
        fun valid => invalid ((allValid_low32 valid.small).mpr valid)
      refine ⟨iff_of_true (fails_iff.mpr invalid) invalid64, fun options ran => ?_,
        fun valid => absurd valid invalid64⟩
      obtain ⟨fixed, added, _⟩ := ok_of_bind ran
      exact absurd ((yields fixed).mp added).1 invalid
    · refine ⟨fails_iff.trans (not_congr (allValid_low32 small)), fun options ran time => ?_,
        fun valid noTimeStep noTimeSteps noStartStep => ?_⟩
      · obtain ⟨fixed, added, set⟩ := ok_of_bind ran
        obtain ⟨_, rfl⟩ := (yields fixed).mp added
        have kept := (setInterval_meets durations _ param).of_ok set
        rw [kept, timeList_withFixed]
        simp only [unsignedValues, List.mem_map, exists_exists_and_eq_and]
        refine or_congr (exists_congr fun hour => and_congr_right fun member => ?_)
          (exists_congr fun tm => and_congr_right fun member => ?_)
        · have same : hour.toUInt32.toNat = hour.toNat :=
            low32_of_lt (small hour (List.mem_append_left _ member))
          rw [same, mul_comm]
        · have same : tm.toUInt32.toNat = tm.toNat :=
            low32_of_lt (small tm (List.mem_append_right _ member))
          rw [same]
      · have added := (yields _).mpr ⟨(allValid_low32 small).mpr valid, rfl⟩
        have ended : ∀ (options : TimeSeriesGeneratorOptions) (timeStep : UInt32),
            options.timeSteps = none →
              ∃ last, setEndTime durations options timeStep param.endTime = .ok last := by
          intro options timeStep noSteps
          unfold setEndTime
          rw [noSteps]
          cases param.endTime with
          | none => exact ⟨_, rfl⟩
          | some endTime => exact ⟨_, rfl⟩
        unfold getTimeGeneratorOptions setInterval
        rw [added, noTimeStep, noTimeSteps, noStartStep]
        exact ended _ _ (congrArg (·.timeSteps) (withFixed_eq _ _))

/-- Fixed hours alone. -/
def fixedHours (hours : List UInt64) : TimeParameters where
  hours := hours
  times := []
  beginTime := none
  startStep := none
  endTime := none
  timeStep := none
  timeSteps := none

/-- An hour that is a multiple of 2 ^ 32 is taken for midnight. -/
theorem hugeHour_accepted :
    ¬ FixedTimesExact DurationLibrary.unlimited 0 0 (fixedHours [4294967296]) := by
  intro exact
  have invalid : ¬ AllValid UInt64.toNat (fixedHours [4294967296]) :=
    fun valid => absurd (valid.1 _ List.mem_cons_self) (by unfold ValidHour; decide)
  have valid : AllValid low32 (fixedHours [4294967296]) := by
    refine ⟨fun hour member => ?_, fun _ member => (List.not_mem_nil member).elim⟩
    rw [List.mem_singleton.mp member]
    exact Nat.zero_le 23
  exact (getTimeGeneratorOptions_fails_iff _ 0 0 _).mp (exact.fails_iff.mpr invalid) valid

/-! ### Intervals of steps -/

/-- The minutes of a step: an hour if it is absent or zero. -/
def stepOf (param : TimeParameters) : Nat :=
  if param.timeStep.getD 0 = 0 then 60 else (param.timeStep.getD 0).toNat

/-- A step that is accepted divides a day. -/
theorem setTimeStep_ok {options after : TimeSeriesGeneratorOptions} {param : TimeParameters}
    (ran : whenGiven setTimeStep options param.timeStep = .ok after)
    (unset : options.timeStep = none) :
    (after.timeStep.getD 60).toNat = stepOf param ∧ stepOf param ≤ 1440 ∧
      after.startTime = options.startTime ∧ after.timeSteps = options.timeSteps := by
  cases given : param.timeStep with
  | none =>
      rw [given] at ran
      cases ran
      have step : stepOf param = 60 := by rw [stepOf, given]; rfl
      rw [unset, step]
      exact ⟨rfl, by decide, rfl, rfl⟩
  | some timeStep =>
      rw [given] at ran
      change setTimeStep options timeStep = .ok after at ran
      unfold setTimeStep at ran
      split at ran
      · cases ran
      · split at ran
        · next zero =>
            cases ran
            have step : stepOf param = 60 := by
              rw [stepOf, given]
              exact if_pos zero
            rw [step]
            refine ⟨?_, by decide, rfl, rfl⟩
            dsimp only
            rw [unset]
            rfl
        · next nonzero =>
            split at ran
            · cases ran
            · next divides =>
                cases ran
                have step : stepOf param = timeStep.toNat := by
                  rw [stepOf, given]
                  exact if_neg nonzero
                have remainder : 1440 % timeStep.toNat = 0 :=
                  congrArg UInt64.toNat (not_not.mp divides)
                have bound : timeStep.toNat ≤ 1440 :=
                  Nat.le_of_dvd (by decide) (Nat.dvd_of_mod_eq_zero remainder)
                rw [step]
                exact ⟨low32_of_lt (by omega), bound, rfl, rfl⟩

/-- The step stays when its number is set. -/
theorem setNumSteps_ok {options after : TimeSeriesGeneratorOptions} {param : TimeParameters}
    (ran : whenGiven setNumSteps options param.timeSteps = .ok after) :
    after.timeStep = options.timeStep ∧ after.startTime = options.startTime ∧
      ∀ numSteps, param.timeSteps = some numSteps →
        ∃ word : UInt32, after.timeSteps = some word ∧ word.toNat = numSteps.toNat := by
  cases given : param.timeSteps with
  | none =>
      rw [given] at ran
      cases ran
      exact ⟨rfl, rfl, fun _ absent => by cases absent⟩
  | some numSteps =>
      rw [given] at ran
      change setNumSteps options numSteps = .ok after at ran
      unfold setNumSteps at ran
      split at ran
      · next inRange =>
          cases ran
          refine ⟨rfl, rfl, fun other same => ⟨numSteps.toUInt32, rfl, ?_⟩⟩
          cases same
          have bound : numSteps.toNat ≤ 2147483647 := inRange.2
          exact low32_of_lt (by omega)
      · cases ran

/-- The product of the start step and the step is exact. -/
theorem addStartStep_ok {options after : TimeSeriesGeneratorOptions} {param : TimeParameters}
    {timeStep : UInt32} (small : timeStep.toNat ≤ 1440)
    (ran : whenGiven (addStartStep durations · timeStep) options param.startStep = .ok after) :
    after.timeSteps = options.timeSteps ∧ after.startTime =
      options.startTime + minutesOf ((param.startStep.getD 0).toNat * timeStep.toNat) := by
  cases given : param.startStep with
  | none =>
      rw [given] at ran
      cases ran
      refine ⟨rfl, ?_⟩
      rw [Option.getD_none, UInt64.toNat_zero, Nat.zero_mul]
      exact (Int.add_zero _).symm
  | some startStep =>
      rw [given] at ran
      change addStartStep durations options timeStep startStep = .ok after at ran
      unfold addStartStep at ran
      split at ran
      · cases ran
      · next inRange =>
          cases ran
          refine ⟨rfl, ?_⟩
          have bound : startStep.toNat ≤ 10000 := Nat.not_lt.mp inRange
          have least : startStep.toNat * timeStep.toNat ≤ 10000 * 1440 := Nat.mul_le_mul bound small
          have product :
              (startStep * timeStep.toUInt64).toNat = startStep.toNat * timeStep.toNat := by
            rw [UInt64.toNat_mul, UInt32.toNat_toUInt64, Nat.mod_eq_of_lt (by omega)]
          rw [Option.getD_some, durations.minutes_small _ (by omega), product]

/-- A number of steps excludes an end, and their product with the step wraps around. -/
theorem setEndTime_ok {options after : TimeSeriesGeneratorOptions} {timeStep : UInt32}
    {endTime : Option Instant} (ran : setEndTime durations options timeStep endTime = .ok after) :
    after.startTime = options.startTime ∧ ∀ word, options.timeSteps = some word →
      endTime = none ∧
        after.endTime = options.startTime + minutesOf (timeStep.toNat * word.toNat % 2 ^ 32) := by
  unfold setEndTime at ran
  cases endTime with
  | some endTime =>
      cases steps : options.timeSteps with
      | some word =>
          rw [steps] at ran
          cases ran
      | none =>
          rw [steps] at ran
          cases ran
          exact ⟨rfl, fun _ absent => by cases absent⟩
  | none =>
      cases steps : options.timeSteps with
      | some word =>
          rw [steps] at ran
          cases ran
          refine ⟨rfl, fun other same => ⟨rfl, ?_⟩⟩
          cases same
          have product :
              (timeStep * word).toUInt64.toNat = timeStep.toNat * word.toNat % 2 ^ 32 := by
            rw [UInt32.toNat_toUInt64, UInt32.toNat_mul]
          have small := Nat.mod_lt (timeStep.toNat * word.toNat) (by decide : 0 < 2 ^ 32)
          rw [durations.minutes_small _ (by rwa [product]), product]
      | none =>
          rw [steps] at ran
          cases ran
          exact ⟨rfl, fun _ absent => by cases absent⟩

/-- The interval of the options starts and ends where the steps say, and an end is not
given together with a number of steps. -/
structure StepsExact (startTime : Instant) (param : TimeParameters)
    (options : TimeSeriesGeneratorOptions) : Prop where
  startTime : options.startTime = param.beginTime.getD startTime +
    minutesOf ((param.startStep.getD 0).toNat * stepOf param)
  endTime : ∀ numSteps, param.timeSteps = some numSteps →
    options.endTime = options.startTime + minutesOf (numSteps.toNat * stepOf param)
  notBoth : param.timeSteps = none ∨ param.endTime = none

/-- What the interval of accepted parameters is. -/
theorem getTimeGeneratorOptions_ok {startTime endTime : Instant} {param : TimeParameters}
    {options : TimeSeriesGeneratorOptions}
    (ran : getTimeGeneratorOptions durations startTime endTime param = .ok options) :
    options.startTime = param.beginTime.getD startTime +
        minutesOf ((param.startStep.getD 0).toNat * stepOf param) ∧
      ∀ numSteps, param.timeSteps = some numSteps → param.endTime = none ∧
        options.endTime = options.startTime +
          minutesOf (numSteps.toNat * stepOf param % 2 ^ 32) := by
  obtain ⟨fixed, added, set⟩ := ok_of_bind ran
  obtain ⟨_, rfl⟩ := (addFixed_yields _ param fixed).mp added
  obtain ⟨first, ranStep, set⟩ := ok_of_bind set
  obtain ⟨second, ranSteps, set⟩ := ok_of_bind set
  obtain ⟨third, ranStart, ranEnd⟩ := ok_of_bind set
  obtain ⟨step, small, start, _⟩ :=
    setTimeStep_ok ranStep (congrArg (·.timeStep) (withFixed_eq _ _))
  obtain ⟨sameStep, start', steps⟩ := setNumSteps_ok ranSteps
  rw [← sameStep] at step
  obtain ⟨sameSteps, start''⟩ := addStartStep_ok durations (by rwa [step]) ranStart
  obtain ⟨sameStart, ends⟩ := setEndTime_ok durations ranEnd
  have begins : second.startTime = startTime :=
    start'.trans (start.trans (congrArg (·.startTime) (withFixed_eq _ _)))
  refine ⟨?_, fun numSteps given => ?_⟩
  · rw [sameStart, start'', step]
    dsimp only
    rw [begins]
  · obtain ⟨word, isWord, same⟩ := steps numSteps given
    obtain ⟨noEnd, ended⟩ := ends word (sameSteps.trans isWord)
    rw [step, same, ← sameStart, Nat.mul_comm] at ended
    exact ⟨noEnd, ended⟩

/-- The interval of accepted parameters is exact just if the product of the number of steps
and the step has no more than 32 bits. -/
theorem stepsExact_iff {startTime endTime : Instant} {param : TimeParameters}
    {options : TimeSeriesGeneratorOptions}
    (ran : getTimeGeneratorOptions durations startTime endTime param = .ok options) :
    StepsExact startTime param options ↔
      ∀ numSteps, param.timeSteps = some numSteps → numSteps.toNat * stepOf param < 2 ^ 32 := by
  obtain ⟨starts, ends⟩ := getTimeGeneratorOptions_ok durations ran
  constructor
  · intro exact numSteps given
    have same := (ends numSteps given).2.symm.trans (exact.endTime numSteps given)
    rw [← minutesOf_inj.mp (Int.add_left_cancel same)]
    exact Nat.mod_lt _ (by decide)
  · intro small
    refine ⟨starts, fun numSteps given => ?_, ?_⟩
    · rw [(ends numSteps given).2, Nat.mod_eq_of_lt (small numSteps given)]
    · cases given : param.timeSteps with
      | none => exact .inl rfl
      | some numSteps => exact .inr (ends numSteps given).1

/-- A number of daily steps from an instant on. -/
def dailySteps (timeSteps : UInt64) : TimeParameters where
  hours := []
  times := []
  beginTime := some 0
  startStep := none
  endTime := none
  timeStep := some 1440
  timeSteps := some timeSteps

/-- Seven steps of a day are exact. -/
theorem stepsExact_weekly :
    ∃ options, getTimeGeneratorOptions DurationLibrary.unlimited 0 0 (dailySteps 7) = .ok options ∧
      (StepsExact 0 (dailySteps 7) options ↔ ∀ numSteps, (dailySteps 7).timeSteps = some numSteps →
        numSteps.toNat * stepOf (dailySteps 7) < 2 ^ 32) := by
  have accepted : ∃ options, getTimeGeneratorOptions DurationLibrary.unlimited 0 0 (dailySteps 7) =
      .ok options := ⟨_, rfl⟩
  obtain ⟨options, ran⟩ := accepted
  exact ⟨options, ran, stepsExact_iff DurationLibrary.unlimited ran⟩

/-- The end of so many days is less than a day after their start. -/
theorem manySteps_wrapAround :
    ∃ options, getTimeGeneratorOptions DurationLibrary.unlimited 0 0 (dailySteps 2982617) =
        .ok options ∧ ¬ StepsExact 0 (dailySteps 2982617) options := by
  have accepted : ∃ options, getTimeGeneratorOptions DurationLibrary.unlimited 0 0
      (dailySteps 2982617) = .ok options := ⟨_, rfl⟩
  obtain ⟨options, ran⟩ := accepted
  refine ⟨options, ran, fun exact => ?_⟩
  have ends := ((getTimeGeneratorOptions_ok _ ran).2 2982617 rfl).2
  have same := ends.symm.trans (exact.endTime 2982617 rfl)
  exact absurd (minutesOf_inj.mp (Int.add_left_cancel same)) (by decide)

end SmartMetWfs.Handlers
