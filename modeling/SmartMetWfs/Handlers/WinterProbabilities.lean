import SmartMetWfs.Core.Value
import SmartMetWfs.Foundation.Outcomes

/-!
# Probabilities of winter weather

`populateResultVector` goes through the times of three series and stops at the first time
without a light probability. The other two are not tested before they are read. It keeps every
time that has all three values exactly when the times that lack one come last, and the first of
them lacks the light one.
-/

namespace SmartMetWfs.Handlers.WinterWeather

open Foundation

/-- `TS::Value`: a number, or one of the other alternatives, which are missing values here. -/
inductive TsValue where
  | double (value : Double)
  | other
  deriving DecidableEq

/-- `TS::TimedValue` -/
structure TimedValue (LocalTime : Type) where
  time : LocalTime
  value : TsValue

/-- `TS::TimeSeries` -/
abbrev TimeSeries (LocalTime : Type) := List (TimedValue LocalTime)

/-- The probabilities of one time. -/
structure WinterWeatherProbability where
  timestamp : DateTime
  lightProbability : Double
  moderateProbability : Double
  heavyProbability : Double
  deriving DecidableEq

/-- What is thrown. -/
inductive WinterFault where
  | outOfRange
  | badVariantAccess
  /-- Inconsistent timesteps in LIGHT, MODERATE, HEAVY Winter Weather Condition parameters. -/
  | inconsistentTimesteps (light moderate heavy : ByteString)
  deriving DecidableEq

section

variable {LocalTime : Type} (utcTime : LocalTime → DateTime)

/-- `at` -/
def valueAt (series : TimeSeries LocalTime) (i : Nat) : Except WinterFault (TimedValue LocalTime) :=
  match series[i]? with
  | some value => .ok value
  | none => .error .outOfRange

/-- `std::get<double>` -/
def getDouble : TsValue → Except WinterFault Double
  | .double value => .ok value
  | .other => .error .badVariantAccess

/-- The loop of `populate_result_vector`, for so many times from `i` on. -/
def populateLoop (light moderate heavy : TimeSeries LocalTime) :
    Nat → Nat → List WinterWeatherProbability → Except WinterFault (List WinterWeatherProbability)
  | 0, _, resultVector => .ok resultVector
  | count + 1, i, resultVector => do
      let tvLight ← valueAt light i
      let tvModerate ← valueAt moderate i
      let tvHeavy ← valueAt heavy i
      match tvLight.value with
      | .other => return resultVector
      | .double lightProb => do
          let moderateProb ← getDouble tvModerate.value
          let heavyProb ← getDouble tvHeavy.value
          populateLoop light moderate heavy count (i + 1)
            (resultVector ++ [⟨utcTime tvLight.time, lightProb, moderateProb, heavyProb⟩])

/-- `populate_result_vector`. The size is an `unsigned int`. -/
def populateResultVector (light moderate heavy : TimeSeries LocalTime)
    (resultVector : List WinterWeatherProbability) :
    Except WinterFault (List WinterWeatherProbability) :=
  populateLoop utcTime light moderate heavy (light.length % 2 ^ 32) 0 resultVector

/-- The part of `getProbabilities` after the three series are there. -/
def getProbabilities (paramLight paramModerate paramHeavy : ByteString)
    (light moderate heavy : TimeSeries LocalTime) :
    Except WinterFault (List WinterWeatherProbability) :=
  let resultSetSize := light.length % 2 ^ 32
  if moderate.length ≠ resultSetSize ∨ heavy.length ≠ resultSetSize then
    .error (.inconsistentTimesteps paramLight paramModerate paramHeavy)
  else populateResultVector utcTime light moderate heavy []

/-- Three series over the same times. -/
structure ProbabilitySeries (LocalTime : Type) where
  light : TimeSeries LocalTime
  moderate : TimeSeries LocalTime
  heavy : TimeSeries LocalTime
  moderate_times : moderate.map TimedValue.time = light.map TimedValue.time
  heavy_times : heavy.map TimedValue.time = light.map TimedValue.time

/-- The values at one time: light, moderate and heavy. -/
abbrev Row (LocalTime : Type) := TimedValue LocalTime × TimedValue LocalTime × TimedValue LocalTime

/-- The entry for a time with all three values. -/
def entry : Row LocalTime → Option WinterWeatherProbability
  | (⟨time, .double light⟩, ⟨_, .double moderate⟩, ⟨_, .double heavy⟩) =>
      some ⟨utcTime time, light, moderate, heavy⟩
  | _ => none

namespace ProbabilitySeries

variable (series : ProbabilitySeries LocalTime)

/-- The values of each time together. -/
def rows : List (Row LocalTime) := series.light.zip (series.moderate.zip series.heavy)

/-- One entry for each time with all three values, in the order of the times. -/
def completeEntries : List WinterWeatherProbability := series.rows.filterMap (entry utcTime)

/-- Up to some time all times are complete, and from there on none is. The first of these is
seen to lack its light value, unless the times counted are over before it. -/
def GapsLast : Prop :=
  ∃ front rest, series.rows = front ++ rest ∧
    (∀ row ∈ front, (entry utcTime row).isSome) ∧ (∀ row ∈ rest, entry utcTime row = none) ∧
    front.length ≤ series.light.length % 2 ^ 32 ∧
    (front.length < series.light.length % 2 ^ 32 → ∀ row ∈ rest.head?, row.1.value = .other)

theorem moderate_length : series.moderate.length = series.light.length := by
  have lengths := congrArg List.length series.moderate_times
  rwa [List.length_map, List.length_map] at lengths

theorem heavy_length : series.heavy.length = series.light.length := by
  have lengths := congrArg List.length series.heavy_times
  rwa [List.length_map, List.length_map] at lengths

theorem rows_length : series.rows.length = series.light.length := by
  rw [rows, List.length_zip, List.length_zip, series.moderate_length, series.heavy_length,
    Nat.min_self, Nat.min_self]

/-- The light values are those of the rows. -/
theorem light_eq : series.light = series.rows.map Prod.fst := by
  refine (List.map_fst_zip ?_).symm
  rw [List.length_zip, series.moderate_length, series.heavy_length, Nat.min_self]

/-- The other values are those of the rows. -/
theorem pairs_eq : series.moderate.zip series.heavy = series.rows.map Prod.snd := by
  refine (List.map_snd_zip ?_).symm
  rw [List.length_zip, series.moderate_length, series.heavy_length, Nat.min_self]

/-- The moderate values are those of the rows. -/
theorem moderate_eq : series.moderate = series.rows.map fun row => row.2.1 := by
  have firsts := congrArg (List.map Prod.fst) series.pairs_eq
  rw [List.map_fst_zip (by rw [series.moderate_length, series.heavy_length]),
    List.map_map] at firsts
  exact firsts

/-- The heavy values are those of the rows. -/
theorem heavy_eq : series.heavy = series.rows.map fun row => row.2.2 := by
  have seconds := congrArg (List.map Prod.snd) series.pairs_eq
  rw [List.map_snd_zip (by rw [series.moderate_length, series.heavy_length]),
    List.map_map] at seconds
  exact seconds

end ProbabilitySeries

/-! ### The loop as a function of the rows -/

/-- What is appended for the rows: those before the first one without a light value. -/
def scan : List (Row LocalTime) → Except WinterFault (List WinterWeatherProbability)
  | [] => .ok []
  | row :: rows =>
      match row.1.value with
      | .other => .ok []
      | .double lightProb => do
          let moderateProb ← getDouble row.2.1.value
          let heavyProb ← getDouble row.2.2.value
          let others ← scan rows
          return ⟨utcTime row.1.time, lightProb, moderateProb, heavyProb⟩ :: others

variable {utcTime}

/-- A value of a column is that of its row. -/
theorem valueAt_map (rows : List (Row LocalTime))
    (column : Row LocalTime → TimedValue LocalTime) {i : Nat}
    (inside : i < rows.length) : valueAt (rows.map column) i = .ok (column rows[i]) := by
  rw [valueAt, List.getElem?_map, List.getElem?_eq_getElem inside]
  rfl

/-- The loop goes through the rows. -/
theorem populateLoop_eq (rows : List (Row LocalTime)) {count : Nat} :
    ∀ {i : Nat} (resultVector : List WinterWeatherProbability), i + count ≤ rows.length →
      populateLoop utcTime (rows.map Prod.fst) (rows.map fun row => row.2.1)
          (rows.map fun row => row.2.2) count i resultVector =
        (scan utcTime ((rows.drop i).take count)).map (resultVector ++ ·) := by
  induction count with
  | zero =>
      intro i resultVector _
      rw [List.take_zero, populateLoop, scan]
      exact congrArg Except.ok (List.append_nil _).symm
  | succ count ih =>
      intro i resultVector inside
      have here : i < rows.length := by omega
      rw [List.drop_eq_getElem_cons here, List.take_succ_cons, populateLoop, scan]
      simp only [valueAt_map rows _ here, bind, Except.bind]
      cases rows[i].1.value with
      | other => exact congrArg Except.ok (List.append_nil _).symm
      | double lightProb =>
          cases getDouble rows[i].2.1.value with
          | error fault => rfl
          | ok moderateProb =>
              cases getDouble rows[i].2.2.value with
              | error fault => rfl
              | ok heavyProb =>
                  simp only [ih _ (by omega : i + 1 + count ≤ rows.length)]
                  cases scan utcTime ((rows.drop (i + 1)).take count) with
                  | error fault => rfl
                  | ok others => exact congrArg Except.ok (List.append_assoc _ _ _)

/-- Without a light value there is no entry. -/
theorem entry_of_light_missing {row : Row LocalTime} (missing : row.1.value = .other) :
    entry utcTime row = none := by
  obtain ⟨⟨time, light⟩, _⟩ := row
  cases missing
  rfl

/-- A complete row in front is an entry more. -/
theorem scan_complete {row : Row LocalTime} {first : WinterWeatherProbability}
    (complete : entry utcTime row = some first) (rows : List (Row LocalTime)) :
    scan utcTime (row :: rows) = (scan utcTime rows).map (first :: ·) := by
  obtain ⟨⟨time, light⟩, ⟨_, moderate⟩, ⟨_, heavy⟩⟩ := row
  cases light with
  | other => cases complete
  | double light =>
      cases moderate with
      | other => cases complete
      | double moderate =>
          cases heavy with
          | other => cases complete
          | double heavy =>
              cases complete
              change (scan utcTime rows >>= fun others => _) = _
              cases scan utcTime rows <;> rfl

/-- A row without a light value ends the loop, and one without another value throws. -/
theorem scan_incomplete {row : Row LocalTime} (incomplete : entry utcTime row = none)
    (rows : List (Row LocalTime)) :
    scan utcTime (row :: rows) =
      if row.1.value = .other then .ok [] else .error .badVariantAccess := by
  obtain ⟨⟨time, light⟩, ⟨_, moderate⟩, ⟨_, heavy⟩⟩ := row
  cases light with
  | other => rfl
  | double light =>
      cases moderate with
      | other => rfl
      | double moderate =>
          cases heavy with
          | other => rfl
          | double heavy => cases incomplete

/-- Complete rows in front are entries in front. -/
theorem scan_append {front : List (Row LocalTime)}
    (complete : ∀ row ∈ front, (entry utcTime row).isSome)
    (rest : List (Row LocalTime)) :
    scan utcTime (front ++ rest) =
      (scan utcTime rest).map (front.filterMap (entry utcTime) ++ ·) := by
  induction front with
  | nil =>
      rw [List.nil_append]
      cases scan utcTime rest <;> rfl
  | cons row front ih =>
      rw [List.forall_mem_cons] at complete
      obtain ⟨first, shown⟩ := Option.isSome_iff_exists.mp complete.1
      rw [List.cons_append, scan_complete shown, ih complete.2, List.filterMap_cons, shown]
      cases scan utcTime rest <;> rfl

/-- The scan stops where the light value is missing. -/
theorem scan_stops {rest : List (Row LocalTime)}
    (stops : ∀ row ∈ rest.head?, row.1.value = .other) :
    scan utcTime rest = .ok [] := by
  cases rest with
  | nil => rfl
  | cons row rest =>
      have missing := stops row rfl
      rw [scan_incomplete (entry_of_light_missing missing), if_pos missing]

/-- What was appended are the entries of complete rows in front, up to where the loop stopped. -/
theorem exists_front {rows : List (Row LocalTime)} {entries : List WinterWeatherProbability}
    (ran : scan utcTime rows = .ok entries) :
    ∃ front rest, rows = front ++ rest ∧ (∀ row ∈ front, (entry utcTime row).isSome) ∧
      entries = front.filterMap (entry utcTime) ∧ ∀ row ∈ rest.head?, row.1.value = .other := by
  induction rows generalizing entries with
  | nil =>
      cases ran
      exact ⟨[], [], rfl, nofun, rfl, nofun⟩
  | cons row rows ih =>
      cases shown : entry utcTime row with
      | none =>
          rw [scan_incomplete shown] at ran
          split at ran
          · next missing =>
              cases ran
              exact ⟨[], row :: rows, rfl, nofun, rfl, fun _ first =>
                Option.some.inj first ▸ missing⟩
          · cases ran
      | some first =>
          rw [scan_complete shown] at ran
          obtain ⟨entries', others, rfl⟩ := ok_of_map ran
          obtain ⟨front, rest, rfl, complete, rfl, stops⟩ := ih others
          refine ⟨row :: front, rest, rfl, ?_, ?_, stops⟩
          · rw [List.forall_mem_cons]
            exact ⟨by rw [shown]; rfl, complete⟩
          · rw [List.filterMap_cons, shown]

/-- The scan gives the entries up to the first row without one. -/
theorem scan_eq_ok_iff {rows : List (Row LocalTime)} {entries : List WinterWeatherProbability} :
    scan utcTime rows = .ok entries ↔ ∃ front rest, rows = front ++ rest ∧
      (∀ row ∈ front, (entry utcTime row).isSome) ∧ entries = front.filterMap (entry utcTime) ∧
      ∀ row ∈ rest.head?, row.1.value = .other := by
  constructor
  · exact exists_front
  · rintro ⟨front, rest, rfl, complete, rfl, stops⟩
    rw [scan_append complete, scan_stops stops]
    exact congrArg Except.ok (List.append_nil _)

/-- What is appended to the vector does not depend on it. -/
theorem populateResultVector_eq (series : ProbabilitySeries LocalTime)
    (resultVector : List WinterWeatherProbability) :
    populateResultVector utcTime series.light series.moderate series.heavy resultVector =
      (scan utcTime (series.rows.take (series.light.length % 2 ^ 32))).map (resultVector ++ ·) := by
  have inside : 0 + series.light.length % 2 ^ 32 ≤ series.rows.length := by
    rw [series.rows_length, Nat.zero_add]
    exact Nat.mod_le _ _
  have looped := @populateLoop_eq _ utcTime series.rows _ 0 resultVector inside
  rw [← series.light_eq, ← series.moderate_eq, ← series.heavy_eq, List.drop_zero] at looped
  exact looped

/-- Entries behind others are the same by themselves. -/
theorem map_append_eq_ok_iff {outcome : Except WinterFault (List WinterWeatherProbability)}
    {before entries : List WinterWeatherProbability} :
    outcome.map (before ++ ·) = .ok (before ++ entries) ↔ outcome = .ok entries := by
  cases outcome with
  | error fault => exact ⟨nofun, nofun⟩
  | ok others =>
      refine ⟨fun ran => ?_, fun ran => ?_⟩
      · exact congrArg Except.ok (List.append_cancel_left (Except.ok.inj ran))
      · cases ran
        rfl

/-- The same entries are kept from the first rows as there are in all of them. -/
theorem scan_take_iff {rows : List (Row LocalTime)} {count : Nat} (inside : count ≤ rows.length) :
    scan utcTime (rows.take count) = .ok (rows.filterMap (entry utcTime)) ↔
      ∃ front rest, rows = front ++ rest ∧ (∀ row ∈ front, (entry utcTime row).isSome) ∧
        (∀ row ∈ rest, entry utcTime row = none) ∧ front.length ≤ count ∧
        (front.length < count → ∀ row ∈ rest.head?, row.1.value = .other) := by
  rw [scan_eq_ok_iff]
  constructor
  · rintro ⟨front, seen, taken, complete, entries, stops⟩
    have whole : rows = front ++ (seen ++ rows.drop count) := by
      rw [← List.append_assoc, ← taken, List.take_append_drop]
    have size : front.length + seen.length = count := by
      rw [← List.length_append, ← taken, List.length_take_of_le inside]
    have rest : (seen ++ rows.drop count).filterMap (entry utcTime) = [] := by
      have appended := congrArg (List.filterMap (entry utcTime)) whole
      rw [entries, List.filterMap_append] at appended
      exact (List.append_right_eq_self.mp appended.symm)
    refine ⟨front, seen ++ rows.drop count, whole, complete, ?_, by omega, fun before => ?_⟩
    · exact List.filterMap_eq_nil_iff.mp rest
    · cases seen with
      | nil => exact absurd size (by rw [List.length_nil]; omega)
      | cons first others => exact stops
  · rintro ⟨front, rest, rfl, complete, incomplete, few, stops⟩
    refine ⟨front, rest.take (count - front.length), ?_, complete, ?_, ?_⟩
    · rw [List.take_append, List.take_of_length_le few]
    · rw [List.filterMap_append, List.filterMap_eq_nil_iff.mpr incomplete, List.append_nil]
    · intro row first
      rcases Nat.lt_or_ge front.length count with before | behind
      · apply stops before row
        rwa [List.head?_take, if_neg (by omega)] at first
      · rw [Nat.sub_eq_zero_of_le behind, List.take_zero] at first
        cases first

/-- Series over the same times pass the test of the sizes, unless there are too many times. -/
theorem getProbabilities_eq (paramLight paramModerate paramHeavy : ByteString)
    (series : ProbabilitySeries LocalTime) :
    getProbabilities utcTime paramLight paramModerate paramHeavy series.light series.moderate
        series.heavy =
      if series.light.length < 2 ^ 32 then
        populateResultVector utcTime series.light series.moderate series.heavy []
      else .error (.inconsistentTimesteps paramLight paramModerate paramHeavy) := by
  rw [getProbabilities, series.moderate_length, series.heavy_length]
  by_cases few : series.light.length < 2 ^ 32
  · rw [if_pos few, if_neg (by omega)]
  · have below := Nat.mod_lt series.light.length (Nat.two_pow_pos 32)
    rw [if_neg few, if_pos (by omega)]

end

section

variable {LocalTime : Type} (utcTime : LocalTime → DateTime)

/-- The result has the entries of the scan behind what was there. -/
theorem populateResultVector_ok_iff (series : ProbabilitySeries LocalTime)
    (resultVector : List WinterWeatherProbability) :
    populateResultVector utcTime series.light series.moderate series.heavy resultVector =
        .ok (resultVector ++ series.completeEntries utcTime) ↔ series.GapsLast utcTime := by
  have inside : series.light.length % 2 ^ 32 ≤ series.rows.length := by
    rw [series.rows_length]
    exact Nat.mod_le _ _
  rw [populateResultVector_eq, map_append_eq_ok_iff]
  exact scan_take_iff inside

/-- Every complete time is kept exactly when the times with gaps come last, and the first of
them lacks its light value; after the test of the sizes there have to be few enough besides. -/
theorem populateResultVector_complete_iff (series : ProbabilitySeries LocalTime)
    (resultVector : List WinterWeatherProbability) :
    (populateResultVector utcTime series.light series.moderate series.heavy resultVector =
        .ok (resultVector ++ series.completeEntries utcTime) ↔ series.GapsLast utcTime) ∧
      ∀ paramLight paramModerate paramHeavy,
        getProbabilities utcTime paramLight paramModerate paramHeavy series.light series.moderate
            series.heavy = .ok (series.completeEntries utcTime) ↔
          series.light.length < 2 ^ 32 ∧ series.GapsLast utcTime := by
  refine ⟨populateResultVector_ok_iff utcTime series resultVector, ?_⟩
  intro paramLight paramModerate paramHeavy
  rw [getProbabilities_eq]
  split
  · next few =>
      rw [and_iff_right few]
      exact populateResultVector_ok_iff utcTime series []
  · next many => exact iff_of_false nofun fun holds => many holds.1

end

/-- An hour of a day with a value of zero or none. -/
def atHour (hour : Fin 24) (present : Bool) : TimedValue DateTime where
  time := .calendar ⟨2024, 1, 15, by decide, by decide, by decide⟩
    (.ofSeconds (hour.val * 3600) (by have := hour.isLt; omega))
  value := if present then .double ⟨Vector.replicate 8 0⟩ else .other

/-- At noon the light value is missing, an hour later there are all values. -/
def lightMissingAtNoon : ProbabilitySeries DateTime where
  light := [atHour 12 false, atHour 13 true]
  moderate := [atHour 12 true, atHour 13 true]
  heavy := [atHour 12 true, atHour 13 true]
  moderate_times := rfl
  heavy_times := rfl

/-- The entry of the later hour is lost. -/
theorem lightMissingAtNoon_not_complete :
    ¬populateResultVector id lightMissingAtNoon.light lightMissingAtNoon.moderate
        lightMissingAtNoon.heavy [] = .ok ([] ++ lightMissingAtNoon.completeEntries id) := by
  intro complete
  have stopped : populateResultVector id lightMissingAtNoon.light lightMissingAtNoon.moderate
      lightMissingAtNoon.heavy [] = .ok [] := rfl
  rw [stopped] at complete
  exact List.cons_ne_nil _ _ (Except.ok.inj complete).symm

end SmartMetWfs.Handlers.WinterWeather
