import SmartMetWfs.Foundation.Progressions
import SmartMetWfs.Handlers.ObservationParameters

/-!
# Sensors of observation parameters

The configuration may give for a parameter the first and the last of its sensors and the
step between them. Any numbers are accepted. `add_meteo_parameter` counts through the
sensors with a counter of 16 bits.
-/

namespace SmartMetWfs.Handlers

open Foundation

/-! ### The configuration -/

/-- An item of `meteo_parameter_options`, as far as columns depend on it. -/
structure MeteoParameterDesc where
  name : ByteString
  precision : Option UInt32
  sensorFirst : Option UInt32
  sensorLast : Option UInt32
  sensorStep : Option UInt32

/-- A number of the configuration, cut to an `unsigned short`. -/
def shortOr (setting : Option UInt32) (defaultValue : UInt16) : UInt16 :=
  (setting.map UInt32.toUInt16).getD defaultValue

/-- The body of the loop of `SupportsMeteoParameterOptions`; it fails for a precision that
is too high. -/
def readMeteoParameterOption (defaultItem : MeteoParameterOptionItem)
    (optionsMap : OrderedMap ByteString MeteoParameterOptionItem) (desc : MeteoParameterDesc) :
    Except UInt32 (OrderedMap ByteString MeteoParameterOptionItem) :=
  let precision := desc.precision.getD (UInt32.ofNat defaultItem.precision)
  if precision > 15 then .error precision
  else .ok (optionsMap.emplace (asciiTolowerCopy desc.name)
    { precision := precision.toNat
      sensorFirst := shortOr desc.sensorFirst defaultItem.sensorFirst
      sensorLast := shortOr desc.sensorLast defaultItem.sensorLast
      sensorStep := shortOr desc.sensorStep defaultItem.sensorStep })

/-- The constructor of `SupportsMeteoParameterOptions`. -/
def readMeteoParameterOptions (defaultItem : MeteoParameterOptionItem)
    (descs : List MeteoParameterDesc) :
    Except UInt32 (OrderedMap ByteString MeteoParameterOptionItem) :=
  descs.foldlM (readMeteoParameterOption defaultItem) .empty

/-! ### The sensors -/

/-- The sensors that the options ask for. -/
def MeteoParameterOptionItem.sensors (options : MeteoParameterOptionItem) : List Nat :=
  progression options.sensorFirst.toNat options.sensorStep.toNat options.sensorLast.toNat

/-- A column for each sensor, or the default column if there are none. -/
def addSensors (name : ByteString) (addQc : Bool) (sensors : List Nat)
    (queried : QueriedParameters) : QueriedParameters :=
  if sensors = [] then addColumn name none addQc queried
  else (sensors.map UInt16.ofNat).foldl (fun queried index =>
    addColumn name (some index) addQc queried) queried

/-- The counter passes the last sensor before it wraps around. -/
def MeteoParameterOptionItem.Passes (options : MeteoParameterOptionItem) : Prop :=
  Foundation.Passes 65536 options.sensorFirst.toNat options.sensorStep.toNat
    options.sensorLast.toNat

/-- The counter in a round. -/
def MeteoParameterOptionItem.counter (options : MeteoParameterOptionItem) (round : Nat) : Nat :=
  wrapped 65536 options.sensorFirst.toNat options.sensorStep.toNat round

/-- The counter of a round in 16 bits. -/
theorem toNat_counter (options : MeteoParameterOptionItem) (round : Nat) :
    (options.sensorFirst + UInt16.ofNat round * options.sensorStep).toNat =
      options.counter round := by
  rw [UInt16.toNat_add, UInt16.toNat_mul, UInt16.toNat_ofNat', Nat.add_mod_mod, Nat.add_mod,
    Nat.mul_mod, Nat.mod_mod, ← Nat.mul_mod, ← Nat.add_mod]
  rfl

/-- The counter is a number that wraps around. -/
theorem sensorNumbers_eq (options : MeteoParameterOptionItem) :
    sensorNumbers options = (wrappingRounds 65536 options.sensorFirst.toNat
      options.sensorStep.toNat options.sensorLast.toNat).map fun rounds =>
        ((List.range rounds).map options.counter).map UInt16.ofNat := by
  have stops : (fun round => decide (options.sensorLast <
      options.sensorFirst + UInt16.ofNat round * options.sensorStep)) =
        fun round => decide (options.sensorLast.toNat < options.counter round) := by
    funext round
    rw [← toNat_counter]
    exact decide_eq_decide.mpr UInt16.lt_iff_toNat_lt
  have numbers : ∀ rounds : Nat, (List.range rounds).map (fun round =>
      options.sensorFirst + UInt16.ofNat round * options.sensorStep) =
        ((List.range rounds).map options.counter).map UInt16.ofNat := by
    intro rounds
    rw [List.map_map]
    refine List.map_congr_left fun round _ => ?_
    rw [Function.comp_apply, ← toNat_counter, UInt16.ofNat_toNat]
  unfold sensorNumbers wrappingRounds
  dsimp only
  rw [stops, funext numbers]
  rfl

/-- The loop over the sensors goes on forever just if the counter is never above the last one. -/
theorem sensorNumbers_eq_none {options : MeteoParameterOptionItem} :
    sensorNumbers options = none ↔ ∀ round : Nat,
      options.sensorFirst + UInt16.ofNat round * options.sensorStep ≤ options.sensorLast := by
  rw [sensorNumbers_eq, Option.map_eq_none_iff, wrappingRounds_eq_none (by decide)]
  refine forall_congr' fun round => ?_
  rw [UInt16.le_iff_toNat_le, toNat_counter]
  rfl

theorem length_paramIndex_addColumn (name : ByteString) (sensorNumber : Option UInt16)
    (addQc : Bool)
    (queried : QueriedParameters) :
    (addColumn name sensorNumber addQc queried).paramIndex.length =
      queried.paramIndex.length + 1 := by
  unfold addColumn
  cases addQc with
  | false => exact List.length_append
  | true => exact List.length_append

theorem length_paramIndex_sensors (name : ByteString) (addQc : Bool) (numbers : List UInt16)
    (queried : QueriedParameters) :
    (numbers.foldl (fun queried index => addColumn name (some index) addQc queried)
      queried).paramIndex.length = queried.paramIndex.length + numbers.length := by
  induction numbers generalizing queried with
  | nil => rfl
  | cons index numbers ih =>
      rw [List.foldl_cons, ih, length_paramIndex_addColumn, List.length_cons]
      omega

/-- The expansion over the sensors of a parameter ends with a column for each of them. -/
def SensorsExpanded (names : ObsNames) (name : ByteString) (addQc : Bool)
    (queried : QueriedParameters) : Prop :=
  let options := names.getMeteoParameterOptions name
  names.special name = false → ¬ (options.sensorFirst = 1 ∧ options.sensorLast = 1) →
    addMeteoParameter names name addQc queried =
      .ok (true, addSensors name addQc options.sensors queried)

section

variable {names : ObsNames} {name : ByteString} (ordinary : names.special name = false)
  (given : ¬ ((names.getMeteoParameterOptions name).sensorFirst = 1 ∧
    (names.getMeteoParameterOptions name).sensorLast = 1)) (addQc : Bool)
  (queried : QueriedParameters)

include ordinary given

/-- A loop that does not end uses up the memory. -/
theorem addMeteoParameter_of_none
    (endless : sensorNumbers (names.getMeteoParameterOptions name) = none) :
    addMeteoParameter names name addQc queried = .error .outOfMemory := by
  unfold addMeteoParameter
  rw [ordinary, if_neg Bool.false_ne_true]
  dsimp only
  rw [if_pos (not_and_or.mp given), endless]

/-- The columns that the loop adds. -/
theorem addMeteoParameter_of_some {numbers : List UInt16}
    (ends : sensorNumbers (names.getMeteoParameterOptions name) = some numbers) :
    addMeteoParameter names name addQc queried = .ok (true,
      if numbers = [] then addColumn name none addQc queried
      else numbers.foldl (fun queried index =>
        addColumn name (some index) addQc queried) queried) := by
  unfold addMeteoParameter
  rw [ordinary, if_neg Bool.false_ne_true]
  dsimp only
  rw [if_pos (not_and_or.mp given), ends]
  cases numbers with
  | nil => rfl
  | cons index numbers => rw [if_neg (List.cons_ne_nil _ _)]

end

/-- The loop goes through the sensors if the counter passes the last one. -/
theorem sensorNumbers_of_passes {options : MeteoParameterOptionItem} (passes : options.Passes) :
    sensorNumbers options = some (options.sensors.map UInt16.ofNat) := by
  obtain ⟨rounds, ends, numbers⟩ := wrappingRounds_of_passes options.sensorLast.toNat_lt
    options.sensorFirst.toNat_lt passes
  have numbers : (List.range rounds).map options.counter = options.sensors := numbers
  have ends : wrappingRounds 65536 options.sensorFirst.toNat options.sensorStep.toNat
      options.sensorLast.toNat = some rounds := ends
  rw [sensorNumbers_eq, ends, Option.map_some, numbers]

/-- Otherwise it goes through more numbers, if it ends. -/
theorem length_sensors_of_not_passes {options : MeteoParameterOptionItem}
    (stays : ¬ options.Passes) {numbers : List UInt16}
    (ends : sensorNumbers options = some numbers) :
    0 < options.sensors.length ∧ options.sensors.length < numbers.length := by
  rw [sensorNumbers_eq] at ends
  obtain ⟨rounds, found, rfl⟩ := Option.map_eq_some_iff.mp ends
  constructor
  · have ordered : options.sensorFirst.toNat ≤ options.sensorLast.toNat :=
      Nat.not_lt.mp fun above => stays (.inl above)
    have first : options.sensorFirst.toNat ∈ options.sensors :=
      mem_progression.mpr ⟨ordered, 0, by rw [Nat.zero_mul, Nat.add_zero]⟩
    exact List.length_pos_of_mem first
  · rw [List.length_map, List.length_map, List.length_range]
    exact wrappingRounds_of_not_passes options.sensorLast.toNat_lt options.sensorStep.toNat_lt
      stays found

/-- The expansion is as asked for just if the parameter has no sensors of its own or the
counter passes the last one before it wraps around. -/
theorem sensorsExpanded_iff (names : ObsNames) (name : ByteString) (addQc : Bool)
    (queried : QueriedParameters) :
    SensorsExpanded names name addQc queried ↔
      names.special name = true ∨
        ((names.getMeteoParameterOptions name).sensorFirst = 1 ∧
          (names.getMeteoParameterOptions name).sensorLast = 1) ∨
        (names.getMeteoParameterOptions name).Passes := by
  unfold SensorsExpanded
  dsimp only
  cases special : names.special name with
  | true => exact iff_of_true nofun (.inl rfl)
  | false =>
      by_cases given : (names.getMeteoParameterOptions name).sensorFirst = 1 ∧
          (names.getMeteoParameterOptions name).sensorLast = 1
      · exact iff_of_true (fun _ absurd_ => absurd given absurd_) (.inr (.inl given))
      · rw [imp_iff_right rfl, imp_iff_right given, or_iff_right Bool.false_ne_true,
          or_iff_right given]
        constructor
        · intro expanded
          by_contra stays
          cases ends : sensorNumbers (names.getMeteoParameterOptions name) with
          | none =>
              rw [addMeteoParameter_of_none special given addQc queried ends] at expanded
              cases expanded
          | some numbers =>
              obtain ⟨least, more⟩ := length_sensors_of_not_passes stays ends
              rw [addMeteoParameter_of_some special given addQc queried ends] at expanded
              have same := congrArg (fun queried => queried.paramIndex.length)
                (Prod.mk.inj (Except.ok.inj expanded)).2
              rw [if_neg (List.ne_nil_of_length_pos (by omega)), length_paramIndex_sensors,
                addSensors, if_neg (List.ne_nil_of_length_pos least),
                length_paramIndex_sensors, List.length_map] at same
              omega
        · intro passes
          rw [addMeteoParameter_of_some special given addQc queried
            (sensorNumbers_of_passes passes)]
          refine congrArg (fun queried => Except.ok (true, queried)) ?_
          unfold addSensors
          cases (names.getMeteoParameterOptions name).sensors with
          | nil => rfl
          | cons sensor sensors =>
              rw [List.map_cons, if_neg (List.cons_ne_nil _ _), if_neg (List.cons_ne_nil _ _)]

/-- A temperature with configured sensors. -/
def sensorNames (options : MeteoParameterOptionItem) : ObsNames where
  supportQcParameters := false
  optionsMap := OrderedMap.empty.emplace (ascii "t2m") options
  defaultOptionItem := {}
  isParameter _ _ := true
  special _ := false
  isSpecialParameter _ := false
  isLocationParameter _ := false
  isTimeParameter _ := false

/-- The options of the sample. -/
theorem getMeteoParameterOptions_sensorNames (options : MeteoParameterOptionItem) :
    (sensorNames options).getMeteoParameterOptions (ascii "t2m") = options := rfl

/-- The first two sensors with a step of zero. -/
def zeroStep : MeteoParameterOptionItem := { sensorLast := 2, sensorStep := 0 }

/-- The options are read from an item of the configuration, and the loop over the sensors does
not end. -/
theorem zeroStep_endless :
    readMeteoParameterOptions {} [⟨ascii "t2m", none, none, some 2, some 0⟩] =
        .ok (sensorNames zeroStep).optionsMap ∧
      ¬ SensorsExpanded (sensorNames zeroStep) (ascii "t2m") false ⟨[], []⟩ := by
  refine ⟨rfl, fun expanded => ?_⟩
  have given : ¬ (zeroStep.sensorFirst = 1 ∧ zeroStep.sensorLast = 1) := by decide
  have endless : sensorNumbers zeroStep = none := by
    refine sensorNumbers_eq_none.mpr fun round => ?_
    have zero : zeroStep.sensorStep = 0 := rfl
    rw [zero, UInt16.mul_zero]
    decide
  have options := getMeteoParameterOptions_sensorNames zeroStep
  have endless' := (congrArg sensorNumbers options).trans endless
  rw [← options] at given
  have ran := expanded rfl given
  rw [addMeteoParameter_of_none rfl given _ _ endless'] at ran
  cases ran

end SmartMetWfs.Handlers
