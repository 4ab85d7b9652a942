import SmartMetWfs.Core.Decimal
import SmartMetWfs.Foundation.OrderedMap
import SmartMetWfs.Foundation.Outcomes

/-!
# The parameters of an observation query

`StoredObsQueryHandler::add_parameters` asks the observation engine for a column for each
requested parameter and notes where its values will be. Parameters of a location or of a
time that the engine has no column for are noted without a column.
-/

namespace SmartMetWfs.Handlers

open Foundation

/-- Why a query ends without a response. -/
inductive ObsFailure
  | qualityCodeNotAllowed (name : ByteString)
  | duplicateParameter (name : ByteString)
  | unrecognizedParameter (name : ByteString)
  /-- A loop over sensor numbers that does not end but for want of memory. -/
  | outOfMemory
  | noMeteoParameter
  | latLonQuery
  /-- `std::map::at` for a site. -/
  | unknownSite (geoid : ByteString)
  /-- `at` of another container. -/
  | outOfRange
  /-- The failure of an engine or of a conversion. -/
  | service (reason : ByteString)
  deriving DecidableEq

/-- The precision and the sensors of a quantity. -/
structure MeteoParameterOptionItem where
  precision : Nat := 1
  sensorFirst : UInt16 := 1
  sensorLast : UInt16 := 1
  sensorStep : UInt16 := 1

/-- What the configuration and the engines know about the names of parameters. -/
structure ObsNames where
  /-- `supportQCParameters` of the configuration. -/
  supportQcParameters : Bool
  optionsMap : OrderedMap ByteString MeteoParameterOptionItem
  defaultOptionItem : MeteoParameterOptionItem
  /-- `obs_engine->isParameter`, of a name and a station type. -/
  isParameter : ByteString → ByteString → Bool
  /-- `special` of the parameter made of a name. -/
  special : ByteString → Bool
  isSpecialParameter : ByteString → Bool
  isLocationParameter : ByteString → Bool
  isTimeParameter : ByteString → Bool

/-- `get_meteo_parameter_options`. -/
def ObsNames.getMeteoParameterOptions (names : ObsNames) (name : ByteString) :
    MeteoParameterOptionItem :=
  (names.optionsMap.find (asciiTolowerCopy name)).getD names.defaultOptionItem

/-- A column asked of the engine. -/
structure QueriedParameter where
  name : ByteString
  sensorNumber : Option UInt16
  deriving DecidableEq

/-- A column with its name. -/
structure ParamIndexEntry where
  ind : Int
  name : ByteString
  sensorName : Option ByteString
  deriving DecidableEq

/-- A column and that of its quality code. -/
structure ExtParamIndexEntry where
  p : ParamIndexEntry
  qc : Option ParamIndexEntry
  deriving DecidableEq

/-- The parameters that are always queried. -/
def initialBsParam : List ByteString :=
  [ascii "fmisid", ascii "geoid", ascii "stationlon", ascii "stationlat", ascii "elevation",
    ascii "stationname", ascii "distance", ascii "direction", ascii "wmo"]

/-- `lookup_initial_parameter`. -/
def lookupInitialParameter (name : ByteString) : Option Nat :=
  initialBsParam.findIdx? fun initial => name = initial

/-- `isQCParameter`: the name begins like that of a quality code. -/
def isQCParameter (name : ByteString) : Bool := asciiTolowerCopy (name.take 3) = ascii "qc_"

/-- `query_params.parameters` and `parameter_index`. -/
structure QueriedParameters where
  parameters : List QueriedParameter
  paramIndex : List ExtParamIndexEntry

/-- A column with, where quality codes are added, the column of its codes. -/
def addColumn (name : ByteString) (sensorNumber : Option UInt16) (addQc : Bool)
    (queried : QueriedParameters) : QueriedParameters :=
  let sensorName :=
    sensorNumber.map fun index => name ++ ascii "(:" ++ decimal index.toNat ++ ascii ")"
  let entry : ParamIndexEntry := ⟨queried.parameters.length, name, sensorName⟩
  let parameters := queried.parameters ++ [⟨name, sensorNumber⟩]
  let qcName := ascii "qc_" ++ name
  if addQc then
    ⟨parameters ++ [⟨qcName, none⟩],
      queried.paramIndex ++ [⟨entry, some ⟨parameters.length, qcName, none⟩⟩]⟩
  else ⟨parameters, queried.paramIndex ++ [⟨entry, none⟩]⟩

/-- The numbers that the loop over sensors goes through, in the arithmetic of
`unsigned short`. After as many rounds as there are numbers it only repeats itself. -/
def sensorNumbers (options : MeteoParameterOptionItem) : Option (List UInt16) :=
  let index (round : Nat) : UInt16 := options.sensorFirst + UInt16.ofNat round * options.sensorStep
  ((List.range 65536).find? fun round => options.sensorLast < index round).map fun rounds =>
    (List.range rounds).map index

/-- `add_meteo_parameter`. -/
def addMeteoParameter (names : ObsNames) (name : ByteString) (addQc : Bool)
    (queried : QueriedParameters) : Except ObsFailure (Bool × QueriedParameters) :=
  if names.special name then .ok (false, addColumn name none addQc queried)
  else
    let options := names.getMeteoParameterOptions name
    if options.sensorFirst ≠ 1 ∨ options.sensorLast ≠ 1 then
      match sensorNumbers options with
      | none => .error .outOfMemory
      | some [] => .ok (true, addColumn name none addQc queried)
      | some numbers => .ok (true, numbers.foldl (fun queried index =>
          addColumn name (some index) addQc queried) queried)
    else .ok (true, addColumn name none addQc queried)

/-- `add_special_parameter`. -/
def addSpecialParameter (names : ObsNames) (name : ByteString) (queried : QueriedParameters) :
    QueriedParameters :=
  match lookupInitialParameter (asciiTolowerCopy name) with
  | some ind => { queried with paramIndex := queried.paramIndex ++ [⟨⟨ind, name, none⟩, none⟩] }
  | none =>
      if names.isLocationParameter name ∨ names.isTimeParameter name then
        { queried with paramIndex := queried.paramIndex ++ [⟨⟨-1, name, none⟩, none⟩] }
      else addColumn name none false queried

/-- The parts of a request that the formatting of the result reads. -/
structure ObsRequest where
  paramNames : List ByteString
  stationType : ByteString
  supportQualityInfo : Bool
  missingText : ByteString
  tzName : ByteString
  language : ByteString
  showHeight : Bool

/-- The loop of `add_parameters`. -/
structure AddedParameters where
  haveMeteoParam : Bool
  lowerCaseParamNames : OrderedSet ByteString
  queried : QueriedParameters

/-- What one name of the request adds. -/
def addParameter (names : ObsNames) (stationType : ByteString) (addQc : Bool)
    (added : AddedParameters)
    (name : ByteString) : Except ObsFailure AddedParameters :=
  let lName := asciiTolowerCopy name
  if added.lowerCaseParamNames.contains lName then .error (.duplicateParameter name)
  else
    let lowerCaseParamNames := added.lowerCaseParamNames.insert lName
    if names.isParameter name stationType then do
      let (haveMeteoParam, queried) ← addMeteoParameter names name addQc added.queried
      return ⟨added.haveMeteoParam || haveMeteoParam, lowerCaseParamNames, queried⟩
    else if names.isSpecialParameter name then
      .ok ⟨added.haveMeteoParam, lowerCaseParamNames, addSpecialParameter names name added.queried⟩
    else .error (.unrecognizedParameter name)

/-- `add_parameters`. -/
def addParameters (names : ObsNames) (request : ObsRequest) : Except ObsFailure AddedParameters :=
  let explicitQc := request.paramNames.find? isQCParameter
  let start : AddedParameters := ⟨false, .empty, ⟨initialBsParam.map fun name => ⟨name, none⟩, []⟩⟩
  match explicitQc with
  | some name =>
      if ¬ names.supportQcParameters ∨ ¬ request.supportQualityInfo then
        .error (.qualityCodeNotAllowed name)
      else request.paramNames.foldlM (addParameter names request.stationType false) start
  | none =>
      request.paramNames.foldlM
        (addParameter names request.stationType request.supportQualityInfo) start

/-! ### Parameters without a column -/

/-- A location or time parameter that is not a column of the result. -/
def WithoutColumn (names : ObsNames) (stationType name : ByteString) : Prop :=
  names.isParameter name stationType = false ∧ names.isSpecialParameter name = true ∧
    lookupInitialParameter (asciiTolowerCopy name) = none ∧
    (names.isLocationParameter name = true ∨ names.isTimeParameter name = true)

instance (names : ObsNames) (stationType name : ByteString) :
    Decidable (WithoutColumn names stationType name) :=
  inferInstanceAs (Decidable (_ ∧ _ ∧ _ ∧ _))

/-- The entries noted for the names. -/
structure Noted (names : ObsNames) (stationType : ByteString) (done : List ByteString)
    (paramIndex : List ExtParamIndexEntry) : Prop where
  named : ∀ entry ∈ paramIndex, entry.p.name ∈ done
  withoutColumn : ∀ entry ∈ paramIndex, entry.p.ind < 0 →
    WithoutColumn names stationType entry.p.name
  noted : ∀ name ∈ done, WithoutColumn names stationType name →
    ∃ entry ∈ paramIndex, entry.p.name = name ∧ entry.p.ind < 0

section

variable {names : ObsNames} {stationType : ByteString} {done : List ByteString}
  {paramIndex : List ExtParamIndexEntry}

/-- Entries for one more name. -/
theorem Noted.append (noted : Noted names stationType done paramIndex) {name : ByteString}
    {entries : List ExtParamIndexEntry} (named : ∀ entry ∈ entries, entry.p.name = name)
    (negative : ∀ entry ∈ entries, entry.p.ind < 0 → WithoutColumn names stationType name)
    (present : WithoutColumn names stationType name → ∃ entry ∈ entries, entry.p.ind < 0) :
    Noted names stationType (done ++ [name]) (paramIndex ++ entries) where
  named := by
    intro entry member
    rcases List.mem_append.mp member with earlier | new
    · exact List.mem_append_left _ (noted.named entry earlier)
    · rw [named entry new]
      exact List.mem_append_right _ List.mem_cons_self
  withoutColumn := by
    intro entry member isNegative
    rcases List.mem_append.mp member with earlier | new
    · exact noted.withoutColumn entry earlier isNegative
    · rw [named entry new]
      exact negative entry new isNegative
  noted := by
    intro other member without
    rcases List.mem_append.mp member with earlier | new
    · obtain ⟨entry, inIndex, holds⟩ := noted.noted other earlier without
      exact ⟨entry, List.mem_append_left _ inIndex, holds⟩
    · obtain rfl := List.mem_singleton.mp new
      obtain ⟨entry, inEntries, isNegative⟩ := present without
      exact ⟨entry, List.mem_append_right _ inEntries, named entry inEntries, isNegative⟩

/-- Entries with columns for a name that is not one of those without. -/
theorem Noted.columns (noted : Noted names stationType done paramIndex) {name : ByteString}
    (hasColumn : ¬ WithoutColumn names stationType name) {entries : List ExtParamIndexEntry}
    (columns : ∀ entry ∈ entries, entry.p.name = name ∧ 0 ≤ entry.p.ind) :
    Noted names stationType (done ++ [name]) (paramIndex ++ entries) :=
  noted.append (fun entry member => (columns entry member).1)
    (fun entry member negative => absurd negative (Int.not_lt.mpr (columns entry member).2))
    fun without => absurd without hasColumn

/-- The entry of a name without a column. -/
theorem Noted.special (noted : Noted names stationType done paramIndex) {name : ByteString}
    (without : WithoutColumn names stationType name) :
    Noted names stationType (done ++ [name]) (paramIndex ++ [⟨⟨-1, name, none⟩, none⟩]) := by
  apply noted.append
  · intro entry member
    rw [List.mem_singleton.mp member]
  · exact fun _ _ _ => without
  · exact fun _ => ⟨_, List.mem_cons_self, Int.negSucc_lt_zero 0⟩

end

/-- Entries that have been added behind the others, all of them with columns. -/
def AddsColumns (name : ByteString) (before after : QueriedParameters) : Prop :=
  ∃ entries, after.paramIndex = before.paramIndex ++ entries ∧
    ∀ entry ∈ entries, entry.p.name = name ∧ 0 ≤ entry.p.ind

/-- A column that is added is one of the name. -/
theorem addsColumns_addColumn (name : ByteString) (sensorNumber : Option UInt16) (addQc : Bool)
    (queried : QueriedParameters) :
    AddsColumns name queried (addColumn name sensorNumber addQc queried) := by
  unfold addColumn
  cases addQc with
  | false =>
      refine ⟨_, rfl, fun entry member => ?_⟩
      rw [List.mem_singleton.mp member]
      exact ⟨rfl, Int.natCast_nonneg _⟩
  | true =>
      refine ⟨_, rfl, fun entry member => ?_⟩
      rw [List.mem_singleton.mp member]
      exact ⟨rfl, Int.natCast_nonneg _⟩

theorem AddsColumns.trans {name : ByteString} {first second third : QueriedParameters}
    (earlier : AddsColumns name first second) (later : AddsColumns name second third) :
    AddsColumns name first third := by
  obtain ⟨entries, appended, columns⟩ := earlier
  obtain ⟨entries', appended', columns'⟩ := later
  refine ⟨entries ++ entries', ?_, fun entry member => ?_⟩
  · rw [appended', appended, List.append_assoc]
  · exact (List.mem_append.mp member).elim (columns entry) (columns' entry)

/-- The columns of all sensors are of the name. -/
theorem addsColumns_sensors (name : ByteString) (addQc : Bool) (numbers : List UInt16)
    (queried : QueriedParameters) :
    AddsColumns name queried (numbers.foldl (fun queried index =>
      addColumn name (some index) addQc queried) queried) := by
  induction numbers generalizing queried with
  | nil => exact ⟨[], (List.append_nil _).symm, fun _ member => by cases member⟩
  | cons index numbers ih => exact (addsColumns_addColumn _ _ _ _).trans (ih _)

/-- A failure of the checks of names is none of looking up a site. -/
theorem addMeteoParameter_meets (names : ObsNames) (name : ByteString) (addQc : Bool)
    (queried : QueriedParameters) :
    Meets (fun failure => ∀ geoid, failure ≠ .unknownSite geoid)
      (addMeteoParameter names name addQc queried) fun added =>
        AddsColumns name queried added.2 := by
  unfold addMeteoParameter
  split
  · exact addsColumns_addColumn _ _ _ _
  · dsimp only
    split
    · split
      · exact fun _ => nofun
      · exact addsColumns_addColumn _ _ _ _
      · exact addsColumns_sensors _ _ _ _
    · exact addsColumns_addColumn _ _ _ _

/-- A special parameter is noted. -/
theorem Noted.addSpecialParameter {names : ObsNames} {stationType name : ByteString}
    {done : List ByteString} {queried : QueriedParameters}
    (noted : Noted names stationType done queried.paramIndex)
    (engineLacks : names.isParameter name stationType = false)
    (isSpecial : names.isSpecialParameter name = true) :
    Noted names stationType (done ++ [name])
      (addSpecialParameter names name queried).paramIndex := by
  unfold Handlers.addSpecialParameter
  split
  · next ind initial =>
      refine noted.columns (fun without => ?_) fun entry member => ?_
      · rw [without.2.2.1] at initial
        cases initial
      · rw [List.mem_singleton.mp member]
        exact ⟨rfl, Int.natCast_nonneg _⟩
  · next notInitial =>
      split
      · next locationOrTime =>
          exact noted.special ⟨engineLacks, isSpecial, notInitial, locationOrTime⟩
      · next other =>
          obtain ⟨entries, appended, columns⟩ := addsColumns_addColumn name none false queried
          rw [appended]
          exact noted.columns (fun without => other without.2.2.2) columns

/-- A name adds its columns or is refused. -/
theorem addParameter_meets {names : ObsNames} {stationType : ByteString} {addQc : Bool}
    {added : AddedParameters} {done : List ByteString}
    (noted : Noted names stationType done added.queried.paramIndex) (name : ByteString) :
    Meets (fun failure => ∀ geoid, failure ≠ .unknownSite geoid)
      (addParameter names stationType addQc added name) fun after =>
        Noted names stationType (done ++ [name]) after.queried.paramIndex := by
  unfold addParameter
  dsimp only
  split
  · exact fun _ => nofun
  · split
    · next isParameter =>
        refine (addMeteoParameter_meets names name addQc added.queried).bind fun result columns =>
          ?_
        obtain ⟨entries, appended, columns⟩ := columns
        refine Meets.pure ?_
        rw [appended]
        refine noted.columns (fun without => ?_) columns
        rw [without.1] at isParameter
        cases isParameter
    · next engineLacks =>
        split
        · next isSpecial =>
            exact Meets.ok (noted.addSpecialParameter (Bool.eq_false_iff.mpr engineLacks) isSpecial)
        · exact fun _ => nofun

/-- All names add their columns or one is refused. -/
theorem addParameters_meets (names : ObsNames) (request : ObsRequest) :
    Meets (fun failure => ∀ geoid, failure ≠ .unknownSite geoid) (addParameters names request)
      fun added => Noted names request.stationType request.paramNames added.queried.paramIndex := by
  have loop : ∀ addQc, Meets (fun failure => ∀ geoid, failure ≠ .unknownSite geoid)
      (request.paramNames.foldlM (addParameter names request.stationType addQc)
        ⟨false, .empty, ⟨initialBsParam.map fun name => ⟨name, none⟩, []⟩⟩)
      fun added => Noted names request.stationType request.paramNames added.queried.paramIndex := by
    intro addQc
    refine Meets.foldlM (fun done (added : AddedParameters) =>
      Noted names request.stationType done added.queried.paramIndex) request.paramNames ?_ ?_
    · exact ⟨fun _ member => (by cases member), fun _ member => (by cases member),
        fun _ member => (by cases member)⟩
    · intro done name rest added _ noted
      exact addParameter_meets noted name
  unfold addParameters
  dsimp only
  split
  · split
    · exact fun _ => nofun
    · exact loop _
  · exact loop _

end SmartMetWfs.Handlers
