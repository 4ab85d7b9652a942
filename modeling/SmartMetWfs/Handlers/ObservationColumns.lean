import SmartMetWfs.Handlers.ObservationSensors

/-!
# Columns of observation parameters

For every requested parameter the index of an observation query notes where its columns
are. An index is the length of the list of columns before a column is put behind it.
Columns of quality codes come between the others, and the columns of a parameter may be
repeated for its sensors.
-/

namespace SmartMetWfs.Handlers

open Foundation

/-! ### What an entry points to -/

/-- The name of a sensor in the index. -/
def sensorNameOf (name : ByteString) (sensorNumber : UInt16) : ByteString :=
  name ++ ascii "(:" ++ decimal sensorNumber.toNat ++ ascii ")"

/-- There is such a column at an index. -/
def ColumnAt (parameters : List QueriedParameter) (ind : Int) (column : QueriedParameter) : Prop :=
  ∃ position : Nat, ind = position ∧ parameters[position]? = some column

/-- The column is asked for by the name, or is one that is always asked for, whose name may
be spelled in any letter case. -/
def NamesColumn (name : ByteString) (column : QueriedParameter) : Prop :=
  column.name = name ∨ (column.name ∈ initialBsParam ∧ column.name = asciiTolowerCopy name)

/-- The entry is without a column or points to the column of its name and sensor. -/
def PointsToOwn (parameters : List QueriedParameter) (entry : ExtParamIndexEntry) : Prop :=
  entry.p.ind = -1 ∨ ∃ column, ColumnAt parameters entry.p.ind column ∧
    NamesColumn entry.p.name column ∧
      entry.p.sensorName = column.sensorNumber.map (sensorNameOf entry.p.name)

/-- Quality codes are in a column of the same name and the same sensor. -/
def QualityOfOwn (parameters : List QueriedParameter) (entry : ExtParamIndexEntry) : Prop :=
  ∀ qc ∈ entry.qc, ∃ column, ColumnAt parameters qc.ind column ∧
    column.name = ascii "qc_" ++ entry.p.name ∧
      entry.p.sensorName = column.sensorNumber.map (sensorNameOf entry.p.name)

/-- The indices in an entry. -/
def usedIndices (entry : ExtParamIndexEntry) : List Int :=
  (if entry.p.ind = -1 then [] else [entry.p.ind]) ++ entry.qc.toList.map ParamIndexEntry.ind

/-- The entries stand in the order of the names, one or more for each. -/
def InRequestOrder (paramNames : List ByteString) (paramIndex : List ExtParamIndexEntry) : Prop :=
  ∃ blocks : List (List ExtParamIndexEntry), paramIndex = blocks.flatten ∧
    List.Forall₂ (fun name block => block ≠ [] ∧ ∀ entry ∈ block, entry.p.name = name)
      paramNames blocks

/-- The index of the parameters is right. -/
structure ColumnIndex (paramNames : List ByteString) (queried : QueriedParameters) : Prop where
  own : ∀ entry ∈ queried.paramIndex, PointsToOwn queried.parameters entry
  quality : ∀ entry ∈ queried.paramIndex, QualityOfOwn queried.parameters entry
  distinct : (queried.paramIndex.flatMap usedIndices).Nodup
  ordered : InRequestOrder paramNames queried.paramIndex

/-! ### Columns put behind the others -/

/-- The columns that an entry points to, where quality codes are never those of a sensor. -/
structure EntryHolds (parameters : List QueriedParameter) (entry : ExtParamIndexEntry) : Prop where
  own : PointsToOwn parameters entry
  quality : ∀ qc ∈ entry.qc, ColumnAt parameters qc.ind ⟨ascii "qc_" ++ entry.p.name, none⟩

/-- Columns and entries of a name are put behind the others. -/
structure AddsEntries (name : ByteString) (before : QueriedParameters)
    (columns : List QueriedParameter) (entries : List ExtParamIndexEntry) : Prop where
  named : ∀ entry ∈ entries, entry.p.name = name
  holds : ∀ entry ∈ entries, EntryHolds (before.parameters ++ columns) entry
  distinct : (entries.flatMap usedIndices).Nodup
  fresh : ∀ entry ∈ entries, ∀ ind ∈ usedIndices entry, (before.parameters.length : Int) ≤ ind

/-- Columns and entries behind the others. -/
def QueriedParameters.append (queried : QueriedParameters) (columns : List QueriedParameter)
    (entries : List ExtParamIndexEntry) : QueriedParameters :=
  ⟨queried.parameters ++ columns, queried.paramIndex ++ entries⟩

theorem ColumnAt.append {parameters : List QueriedParameter} {ind : Int} {column : QueriedParameter}
    (found : ColumnAt parameters ind column) (columns : List QueriedParameter) :
    ColumnAt (parameters ++ columns) ind column := by
  obtain ⟨position, rfl, isColumn⟩ := found
  refine ⟨position, rfl, ?_⟩
  obtain ⟨bound, _⟩ := List.getElem?_eq_some_iff.mp isColumn
  rw [List.getElem?_append_left bound, isColumn]

theorem ColumnAt.lt {parameters : List QueriedParameter} {ind : Int} {column : QueriedParameter}
    (found : ColumnAt parameters ind column) : ind < parameters.length := by
  obtain ⟨position, rfl, isColumn⟩ := found
  obtain ⟨bound, _⟩ := List.getElem?_eq_some_iff.mp isColumn
  exact Int.ofNat_lt.mpr bound

theorem EntryHolds.append {parameters : List QueriedParameter} {entry : ExtParamIndexEntry}
    (holds : EntryHolds parameters entry) (columns : List QueriedParameter) :
    EntryHolds (parameters ++ columns) entry where
  own := by
    rcases holds.own with without | ⟨column, found, isOwn⟩
    · exact .inl without
    · exact .inr ⟨column, found.append columns, isOwn⟩
  quality qc given := (holds.quality qc given).append columns

/-- The indices in use are those of columns. -/
theorem EntryHolds.used_lt {parameters : List QueriedParameter} {entry : ExtParamIndexEntry}
    (holds : EntryHolds parameters entry) {ind : Int} (used : ind ∈ usedIndices entry) :
    ind < parameters.length := by
  rcases List.mem_append.mp used with first | second
  · split at first
    · cases first
    · next hasColumn =>
        obtain rfl := List.mem_singleton.mp first
        obtain ⟨column, found, _⟩ := holds.own.resolve_left hasColumn
        exact found.lt
  · obtain ⟨qc, given, rfl⟩ := List.mem_map.mp second
    exact (holds.quality qc (Option.mem_toList.mp given)).lt

/-- More columns and entries behind those that have been added. -/
theorem AddsEntries.trans {name : ByteString} {before : QueriedParameters}
    {columns columns' : List QueriedParameter} {entries entries' : List ExtParamIndexEntry}
    (first : AddsEntries name before columns entries)
    (second : AddsEntries name (before.append columns entries) columns' entries') :
    AddsEntries name before (columns ++ columns') (entries ++ entries') where
  named := by
    intro entry member
    exact (List.mem_append.mp member).elim (first.named entry) (second.named entry)
  holds := by
    intro entry member
    rw [← List.append_assoc]
    rcases List.mem_append.mp member with earlier | later
    · exact (first.holds entry earlier).append columns'
    · exact second.holds entry later
  distinct := by
    rw [List.flatMap_append]
    refine List.Nodup.append first.distinct second.distinct fun ind earlier later => ?_
    obtain ⟨entry, member, used⟩ := List.mem_flatMap.mp earlier
    obtain ⟨entry', member', used'⟩ := List.mem_flatMap.mp later
    have below := (first.holds entry member).used_lt used
    have above := second.fresh entry' member' ind used'
    exact absurd above (Int.not_le.mpr below)
  fresh := by
    intro entry member ind used
    rcases List.mem_append.mp member with earlier | later
    · exact first.fresh entry earlier ind used
    · have above := second.fresh entry later ind used
      change ((before.parameters ++ columns).length : Int) ≤ ind at above
      rw [List.length_append] at above
      omega

/-- What `addColumn` adds. -/
def columnsOf (name : ByteString) (sensorNumber : Option UInt16) (addQc : Bool) :
    List QueriedParameter :=
  ⟨name, sensorNumber⟩ :: if addQc then [⟨ascii "qc_" ++ name, none⟩] else []

/-- The entry of a column and its quality code. -/
def entryOf (name : ByteString) (sensorNumber : Option UInt16) (addQc : Bool) (ind : Nat) :
    ExtParamIndexEntry :=
  ⟨⟨ind, name, sensorNumber.map (sensorNameOf name)⟩,
    if addQc then some ⟨(ind + 1 : Nat), ascii "qc_" ++ name, none⟩ else none⟩

/-- A column is added with its quality code and its entry. -/
theorem addColumn_eq (name : ByteString) (sensorNumber : Option UInt16) (addQc : Bool)
    (queried : QueriedParameters) :
    addColumn name sensorNumber addQc queried =
      queried.append (columnsOf name sensorNumber addQc)
        [entryOf name sensorNumber addQc queried.parameters.length] := by
  cases addQc with
  | false => rfl
  | true =>
      unfold addColumn QueriedParameters.append columnsOf entryOf
      dsimp only
      rw [if_pos rfl, if_pos rfl, if_pos rfl, List.append_assoc, List.length_append]
      rfl

theorem columnAt_length (parameters : List QueriedParameter) (column : QueriedParameter)
    (more : List QueriedParameter) :
    ColumnAt (parameters ++ column :: more) parameters.length column := by
  refine ⟨parameters.length, rfl, ?_⟩
  rw [List.getElem?_append_right Nat.le.refl, Nat.sub_self, List.getElem?_cons_zero]

/-- The indices that an entry uses. -/
theorem usedIndices_entryOf (name : ByteString) (sensorNumber : Option UInt16) (addQc : Bool)
    (ind : Nat) : usedIndices (entryOf name sensorNumber addQc ind) =
      (ind : Int) :: if addQc then [((ind + 1 : Nat) : Int)] else [] := by
  have hasColumn : (ind : Int) ≠ -1 := by omega
  unfold usedIndices
  rw [show (entryOf name sensorNumber addQc ind).p.ind = ind from rfl, if_neg hasColumn]
  cases addQc with
  | false => rfl
  | true => rfl

/-- A column that is added has an entry of its own. -/
theorem addsEntries_addColumn (name : ByteString) (sensorNumber : Option UInt16) (addQc : Bool)
    (queried : QueriedParameters) :
    AddsEntries name queried (columnsOf name sensorNumber addQc)
      [entryOf name sensorNumber addQc queried.parameters.length] where
  named := by
    intro entry member
    rw [List.mem_singleton.mp member]
    rfl
  holds := by
    intro entry member
    obtain rfl := List.mem_singleton.mp member
    constructor
    · exact .inr ⟨_, columnAt_length _ _ _, .inl rfl, rfl⟩
    · intro qc given
      cases addQc with
      | false => cases given
      | true =>
          cases given
          have second := columnAt_length (queried.parameters ++ [⟨name, sensorNumber⟩])
            ⟨ascii "qc_" ++ name, none⟩ []
          rw [List.length_append, List.append_assoc] at second
          exact second
  distinct := by
    rw [List.flatMap_singleton, usedIndices_entryOf]
    cases addQc with
    | false => exact List.nodup_singleton _
    | true =>
        refine List.nodup_cons.mpr ⟨fun member => ?_, List.nodup_singleton _⟩
        have same := List.mem_singleton.mp member
        omega
  fresh := by
    intro entry member ind used
    obtain rfl := List.mem_singleton.mp member
    rw [usedIndices_entryOf] at used
    rcases List.mem_cons.mp used with rfl | second
    · exact Int.le_refl _
    · split at second
      · rw [List.mem_singleton.mp second]
        omega
      · cases second

/-! ### Parameters with columns -/

/-- Quality codes are asked for with the values of a sensor. -/
def SensorQuality (entry : ExtParamIndexEntry) : Prop :=
  entry.qc.isSome = true ∧ entry.p.sensorName.isSome = true

/-- A column for each of these sensors, where no number is for the default one. -/
theorem addsEntries_sensors (name : ByteString) (addQc : Bool) (sensors : List (Option UInt16))
    (queried : QueriedParameters) :
    ∃ columns entries, sensors.foldl (fun queried sensor => addColumn name sensor addQc queried)
        queried = queried.append columns entries ∧ AddsEntries name queried columns entries ∧
      entries.length = sensors.length ∧
        ((∃ entry ∈ entries, SensorQuality entry) ↔
          addQc = true ∧ ∃ sensor ∈ sensors, sensor.isSome = true) := by
  induction sensors generalizing queried with
  | nil =>
      refine ⟨[], [], ?_, ⟨nofun, nofun, List.nodup_nil, nofun⟩, rfl, ?_⟩
      · unfold QueriedParameters.append
        rw [List.append_nil, List.append_nil]
        rfl
      · exact iff_of_false (fun ⟨_, member, _⟩ => nomatch member)
          fun ⟨_, _, member, _⟩ => nomatch member
  | cons sensor sensors ih =>
      have first := addsEntries_addColumn name sensor addQc queried
      obtain ⟨columns, entries, whole, adds, length, quality⟩ :=
        ih (addColumn name sensor addQc queried)
      have isFirst : SensorQuality (entryOf name sensor addQc queried.parameters.length) ↔
          addQc = true ∧ sensor.isSome = true := by
        unfold SensorQuality entryOf
        rw [Option.isSome_map]
        cases addQc with
        | false => exact Iff.rfl
        | true => exact Iff.rfl
      rw [addColumn_eq] at adds
      refine ⟨_, _, ?_, first.trans adds, ?_, ?_⟩
      · rw [List.foldl_cons, whole, addColumn_eq]
        unfold QueriedParameters.append
        rw [List.append_assoc, List.append_assoc]
      · rw [List.length_append, List.length_cons, List.length_cons, length]
        exact Nat.add_comm _ _
      · rw [List.singleton_append, List.exists_mem_cons_iff, List.exists_mem_cons_iff, quality,
          isFirst, ← and_or_left]

/-- A parameter of the engine that has sensors. -/
def HasSensors (names : ObsNames) (name : ByteString) : Prop :=
  let options := names.getMeteoParameterOptions name
  names.special name = false ∧ ¬ (options.sensorFirst = 1 ∧ options.sensorLast = 1) ∧
    options.sensorFirst ≤ options.sensorLast

/-- The loop goes through no number if the first is above the last. -/
theorem sensorNumbers_eq_nil_iff {options : MeteoParameterOptionItem} {numbers : List UInt16}
    (ends : sensorNumbers options = some numbers) :
    numbers = [] ↔ ¬ options.sensorFirst ≤ options.sensorLast := by
  unfold sensorNumbers at ends
  dsimp only at ends
  obtain ⟨rounds, found, rfl⟩ := Option.map_eq_some_iff.mp ends
  have stops := List.find?_some found
  rw [List.map_eq_nil_iff, List.range_eq_nil]
  constructor
  · rintro rfl
    rw [decide_eq_true_eq] at stops
    rw [UInt16.not_le]
    exact (UInt16.add_zero options.sensorFirst ▸ UInt16.zero_mul (a := options.sensorStep) ▸ stops)
  · intro above
    by_contra later
    have first := (List.find?_range_eq_some.mp found).2.2 0 (Nat.pos_of_ne_zero later)
    rw [Bool.not_eq_true', decide_eq_false_iff_not, UInt16.not_lt] at first
    exact above (UInt16.add_zero options.sensorFirst ▸
      UInt16.zero_mul (a := options.sensorStep) ▸ first)

/-- `add_meteo_parameter` adds one or more columns. -/
theorem addMeteoParameter_sensors {names : ObsNames} {name : ByteString} {addQc : Bool}
    {queried : QueriedParameters} {result : Bool × QueriedParameters}
    (added : addMeteoParameter names name addQc queried = .ok result) :
    ∃ sensors : List (Option UInt16), sensors ≠ [] ∧
      result.2 = sensors.foldl (fun queried sensor => addColumn name sensor addQc queried) queried ∧
        ((∃ sensor ∈ sensors, sensor.isSome = true) ↔ HasSensors names name) := by
  have noSensor : ¬ ∃ sensor ∈ [(none : Option UInt16)], sensor.isSome = true := by
    rintro ⟨sensor, member, isSome⟩
    rw [List.mem_singleton.mp member] at isSome
    cases isSome
  cases special : names.special name with
  | true =>
      rw [addMeteoParameter, special, if_pos rfl] at added
      cases added
      refine ⟨[none], List.cons_ne_nil _ _, rfl, iff_of_false noSensor fun has => ?_⟩
      exact Bool.false_ne_true (has.1.symm.trans special)
  | false =>
      by_cases given : (names.getMeteoParameterOptions name).sensorFirst = 1 ∧
          (names.getMeteoParameterOptions name).sensorLast = 1
      · rw [addMeteoParameter, special, if_neg Bool.false_ne_true] at added
        dsimp only at added
        rw [if_neg (not_or.mpr ⟨not_not.mpr given.1, not_not.mpr given.2⟩)] at added
        cases added
        exact ⟨[none], List.cons_ne_nil _ _, rfl, iff_of_false noSensor fun has => has.2.1 given⟩
      · cases ends : sensorNumbers (names.getMeteoParameterOptions name) with
        | none =>
            rw [addMeteoParameter_of_none special given addQc queried ends] at added
            cases added
        | some numbers =>
            rw [addMeteoParameter_of_some special given addQc queried ends] at added
            cases added
            have isEmpty := sensorNumbers_eq_nil_iff ends
            by_cases empty : numbers = []
            · rw [if_pos empty]
              refine ⟨[none], List.cons_ne_nil _ _, rfl, iff_of_false noSensor fun has => ?_⟩
              exact isEmpty.mp empty has.2.2
            · rw [if_neg empty]
              refine ⟨numbers.map some, fun none' => empty (List.map_eq_nil_iff.mp none'), ?_, ?_⟩
              · rw [List.foldl_map]
              · obtain ⟨number, rest, rfl⟩ := List.exists_cons_of_ne_nil empty
                refine iff_of_true ⟨_, List.mem_cons_self, rfl⟩ ⟨special, given, ?_⟩
                exact not_not.mp fun above => empty (isEmpty.mpr above)

/-! ### All parameters -/

/-- The index is that of a column that is always asked for and has this name. -/
def AtInitial (name : ByteString) (ind : Int) : Prop :=
  ∃ position : Nat, ind = position ∧ initialBsParam[position]? = some (asciiTolowerCopy name)

theorem AtInitial.lt {name : ByteString} {ind : Int} (atInitial : AtInitial name ind) :
    ind < initialBsParam.length := by
  obtain ⟨position, rfl, found⟩ := atInitial
  obtain ⟨bound, _⟩ := List.getElem?_eq_some_iff.mp found
  exact Int.ofNat_lt.mpr bound

/-- A column has one name in lower case. -/
theorem AtInitial.name_eq {name name' : ByteString} {ind : Int} (first : AtInitial name ind)
    (second : AtInitial name' ind) : asciiTolowerCopy name = asciiTolowerCopy name' := by
  obtain ⟨position, rfl, found⟩ := first
  obtain ⟨position', same, found'⟩ := second
  rw [Int.ofNat_inj.mp same, found'] at found
  exact (Option.some.inj found).symm

/-- The index of the names that are done. -/
structure Indexed (names : ObsNames) (stationType : ByteString) (addQc : Bool)
    (done : List ByteString) (added : AddedParameters) : Prop where
  initial : ∃ columns, added.queried.parameters =
    (initialBsParam.map fun name => ⟨name, none⟩) ++ columns
  holds : ∀ entry ∈ added.queried.paramIndex, EntryHolds added.queried.parameters entry
  distinct : (added.queried.paramIndex.flatMap usedIndices).Nodup
  early : ∀ entry ∈ added.queried.paramIndex, ∀ ind ∈ usedIndices entry,
    ind < initialBsParam.length → AtInitial entry.p.name ind
  seen : ∀ entry ∈ added.queried.paramIndex,
    added.lowerCaseParamNames.contains (asciiTolowerCopy entry.p.name) = true
  ordered : InRequestOrder done added.queried.paramIndex
  sensorQuality : (∃ entry ∈ added.queried.paramIndex, SensorQuality entry) ↔
    addQc = true ∧ ∃ name ∈ done, names.isParameter name stationType = true ∧ HasSensors names name

theorem InRequestOrder.append {done : List ByteString} {paramIndex : List ExtParamIndexEntry}
    (ordered : InRequestOrder done paramIndex) {name : ByteString}
    {entries : List ExtParamIndexEntry} (some' : entries ≠ [])
    (named : ∀ entry ∈ entries, entry.p.name = name) :
    InRequestOrder (done ++ [name]) (paramIndex ++ entries) := by
  obtain ⟨blocks, rfl, each⟩ := ordered
  refine ⟨blocks ++ [entries], ?_, ?_⟩
  · rw [List.flatten_append, List.flatten_singleton]
  · exact List.rel_append each (.cons ⟨some', named⟩ .nil)

section

variable {names : ObsNames} {stationType : ByteString} {addQc : Bool} {done : List ByteString}
  {added : AddedParameters}

/-- Columns and entries for one more name. -/
theorem Indexed.append (indexed : Indexed names stationType addQc done added) {name : ByteString}
    (isNew : added.lowerCaseParamNames.contains (asciiTolowerCopy name) = false)
    (columns : List QueriedParameter) {entries : List ExtParamIndexEntry} (some' : entries ≠ [])
    (named : ∀ entry ∈ entries, entry.p.name = name)
    (holds : ∀ entry ∈ entries, EntryHolds (added.queried.parameters ++ columns) entry)
    (distinct : (entries.flatMap usedIndices).Nodup)
    (apart : ∀ entry ∈ entries, ∀ ind ∈ usedIndices entry,
      (added.queried.parameters.length : Int) ≤ ind ∨ AtInitial name ind)
    (sensorQuality : (∃ entry ∈ entries, SensorQuality entry) ↔
      addQc = true ∧ names.isParameter name stationType = true ∧ HasSensors names name)
    (haveMeteoParam : Bool) :
    Indexed names stationType addQc (done ++ [name]) ⟨haveMeteoParam,
      added.lowerCaseParamNames.insert (asciiTolowerCopy name),
      added.queried.append columns entries⟩ where
  initial := by
    obtain ⟨before, isInitial⟩ := indexed.initial
    refine ⟨before ++ columns, ?_⟩
    rw [QueriedParameters.append, isInitial, List.append_assoc]
  holds := by
    intro entry member
    rcases List.mem_append.mp member with earlier | new
    · exact (indexed.holds entry earlier).append columns
    · exact holds entry new
  distinct := by
    change ((added.queried.paramIndex ++ entries).flatMap usedIndices).Nodup
    rw [List.flatMap_append]
    refine List.Nodup.append indexed.distinct distinct fun ind earlier later => ?_
    obtain ⟨entry, member, used⟩ := List.mem_flatMap.mp earlier
    obtain ⟨entry', member', used'⟩ := List.mem_flatMap.mp later
    have below := (indexed.holds entry member).used_lt used
    rcases apart entry' member' ind used' with above | atInitial
    · exact absurd above (Int.not_le.mpr below)
    · -- Two names of one initial column are the same in lower case.
      have same := (indexed.early entry member ind used atInitial.lt).name_eq atInitial
      have seen := indexed.seen entry member
      rw [same, isNew] at seen
      exact Bool.false_ne_true seen
  early := by
    intro entry member ind used isEarly
    rcases List.mem_append.mp member with earlier | new
    · exact indexed.early entry earlier ind used isEarly
    · rw [named entry new]
      refine (apart entry new ind used).resolve_left fun above => ?_
      obtain ⟨before, isInitial⟩ := indexed.initial
      rw [isInitial, List.length_append, List.length_map] at above
      omega
  seen := by
    intro entry member
    rw [OrderedSet.contains_insert]
    rcases List.mem_append.mp member with earlier | new
    · exact .inr (indexed.seen entry earlier)
    · exact .inl (congrArg asciiTolowerCopy (named entry new))
  ordered := indexed.ordered.append some' named
  sensorQuality := by
    have split : (∃ entry ∈ added.queried.paramIndex ++ entries, SensorQuality entry) ↔
        (∃ entry ∈ added.queried.paramIndex, SensorQuality entry) ∨
          ∃ entry ∈ entries, SensorQuality entry := by
      simp only [List.mem_append, or_and_right, exists_or]
    refine split.trans ?_
    rw [indexed.sensorQuality, sensorQuality, ← and_or_left]
    simp only [List.mem_append, List.mem_singleton, or_and_right, exists_or, exists_eq_left]

/-- A quantity keeps the index exact. -/
theorem Indexed.addMeteoParameter (indexed : Indexed names stationType addQc done added)
    {name : ByteString}
    (isNew : added.lowerCaseParamNames.contains (asciiTolowerCopy name) = false)
    (isParameter : names.isParameter name stationType = true)
    {result : Bool × QueriedParameters}
    (meteo : addMeteoParameter names name addQc added.queried = .ok result)
    (haveMeteoParam : Bool) :
    Indexed names stationType addQc (done ++ [name]) ⟨haveMeteoParam,
      added.lowerCaseParamNames.insert (asciiTolowerCopy name), result.2⟩ := by
  obtain ⟨sensors, someSensor, after, hasSensors⟩ := addMeteoParameter_sensors meteo
  obtain ⟨columns, entries, whole, adds, length, quality⟩ :=
    addsEntries_sensors name addQc sensors added.queried
  rw [after, whole]
  apply indexed.append isNew columns
  · intro empty
    rw [empty] at length
    exact someSensor (List.length_eq_zero_iff.mp length.symm)
  · exact adds.named
  · exact adds.holds
  · exact adds.distinct
  · exact fun entry member ind used => .inl (adds.fresh entry member ind used)
  · rw [quality, hasSensors, and_iff_right isParameter]

/-- The entry of a parameter that is noted without adding a column. -/
theorem Indexed.noColumn (indexed : Indexed names stationType addQc done added) {name : ByteString}
    (isNew : added.lowerCaseParamNames.contains (asciiTolowerCopy name) = false)
    (engineLacks : names.isParameter name stationType = false) {ind : Int}
    (initialOrNot : ind = -1 ∨ (AtInitial name ind ∧
      ∃ column, ColumnAt added.queried.parameters ind column ∧ NamesColumn name column ∧
        column.sensorNumber = none)) :
    Indexed names stationType addQc (done ++ [name]) ⟨added.haveMeteoParam,
      added.lowerCaseParamNames.insert (asciiTolowerCopy name),
      { added.queried with
        paramIndex := added.queried.paramIndex ++ [⟨⟨ind, name, none⟩, none⟩] }⟩ := by
  have used : usedIndices ⟨⟨ind, name, none⟩, none⟩ = if ind = -1 then [] else [ind] :=
    List.append_nil _
  have whole := indexed.append isNew [] (List.cons_ne_nil ⟨⟨ind, name, none⟩, none⟩ [])
    ?named ?holds ?distinct ?apart ?quality added.haveMeteoParam
  · rw [QueriedParameters.append, List.append_nil] at whole
    exact whole
  case named =>
    intro entry member
    rw [List.mem_singleton.mp member]
  case holds =>
    intro entry member
    rw [List.mem_singleton.mp member, List.append_nil]
    refine ⟨initialOrNot.imp_right ?_, nofun⟩
    rintro ⟨_, column, found, named, sensor⟩
    refine ⟨column, found, named, ?_⟩
    rw [sensor]
    rfl
  case distinct =>
    rw [List.flatMap_singleton, used]
    split
    · exact List.nodup_nil
    · exact List.nodup_singleton _
  case apart =>
    intro entry member other isUsed
    rw [List.mem_singleton.mp member, used] at isUsed
    split at isUsed
    · cases isUsed
    · next hasColumn =>
        rw [List.mem_singleton.mp isUsed]
        exact .inr (initialOrNot.resolve_left hasColumn).1
  case quality =>
    refine iff_of_false ?_ fun ⟨_, isParameter, _⟩ =>
      Bool.false_ne_true (engineLacks.symm.trans isParameter)
    rintro ⟨entry, member, hasQc, _⟩
    rw [List.mem_singleton.mp member] at hasQc
    cases hasQc

/-- A special parameter keeps the index exact. -/
theorem Indexed.addSpecialParameter (indexed : Indexed names stationType addQc done added)
    {name : ByteString}
    (isNew : added.lowerCaseParamNames.contains (asciiTolowerCopy name) = false)
    (engineLacks : names.isParameter name stationType = false) :
    Indexed names stationType addQc (done ++ [name]) ⟨added.haveMeteoParam,
      added.lowerCaseParamNames.insert (asciiTolowerCopy name),
      addSpecialParameter names name added.queried⟩ := by
  unfold Handlers.addSpecialParameter
  split
  · next ind initial =>
      obtain ⟨bound, isName, _⟩ := List.findIdx?_eq_some_iff_getElem.mp initial
      have isName := of_decide_eq_true isName
      have found : initialBsParam[ind]? = some (asciiTolowerCopy name) := by
        rw [List.getElem?_eq_getElem bound, isName]
      obtain ⟨columns, isInitial⟩ := indexed.initial
      refine indexed.noColumn isNew engineLacks (.inr ⟨⟨ind, rfl, found⟩, ?_⟩)
      refine ⟨⟨asciiTolowerCopy name, none⟩, ⟨ind, rfl, ?_⟩, .inr ⟨?_, rfl⟩, rfl⟩
      · rw [isInitial, List.getElem?_append_left (by rwa [List.length_map]),
          List.getElem?_map, found]
        rfl
      · exact List.mem_of_getElem? found
  · split
    · exact indexed.noColumn isNew engineLacks (.inl rfl)
    · have adds := addsEntries_addColumn name none false added.queried
      rw [addColumn_eq]
      apply indexed.append isNew _ (List.cons_ne_nil _ _) adds.named adds.holds adds.distinct
      · exact fun entry member ind used => .inl (adds.fresh entry member ind used)
      · refine iff_of_false ?_ fun ⟨_, isParameter, _⟩ =>
          Bool.false_ne_true (engineLacks.symm.trans isParameter)
        rintro ⟨entry, member, hasQc, _⟩
        rw [List.mem_singleton.mp member] at hasQc
        cases hasQc

/-- A round of the loop. -/
theorem addParameter_indexed (indexed : Indexed names stationType addQc done added)
    (name : ByteString) :
    Meets (fun _ => True) (addParameter names stationType addQc added name)
      (Indexed names stationType addQc (done ++ [name])) := by
  unfold addParameter
  dsimp only
  split
  · trivial
  · next isNew =>
      have isNew := Bool.eq_false_iff.mpr isNew
      split
      · next isParameter =>
          refine Meets.of_eq.bind fun result meteo => Meets.pure ?_
          exact indexed.addMeteoParameter isNew isParameter meteo _
      · next engineLacks =>
          split
          · exact Meets.ok (indexed.addSpecialParameter isNew (Bool.eq_false_iff.mpr engineLacks))
          · trivial

end

/-- The loop over the names, where quality codes may be added. -/
theorem addParameters_indexed {names : ObsNames} {request : ObsRequest} {added : AddedParameters}
    (succeeds : addParameters names request = .ok added) :
    ∃ addQc, (addQc = true ↔ request.supportQualityInfo = true ∧
        ∀ name ∈ request.paramNames, ¬ isQCParameter name) ∧
      Indexed names request.stationType addQc request.paramNames added := by
  have loop : ∀ addQc, Meets (fun _ => True)
      (request.paramNames.foldlM (addParameter names request.stationType addQc)
        ⟨false, .empty, ⟨initialBsParam.map fun name => ⟨name, none⟩, []⟩⟩)
      (Indexed names request.stationType addQc request.paramNames) := by
    intro addQc
    refine Meets.foldlM (Indexed names request.stationType addQc) request.paramNames ?_ ?_
    · refine ⟨⟨[], rfl⟩, nofun, List.nodup_nil, nofun, nofun, ⟨[], rfl, .nil⟩, ?_⟩
      exact iff_of_false (fun ⟨_, member, _⟩ => nomatch member) fun ⟨_, _, member, _⟩ =>
        nomatch member
    · intro done name rest added _ indexed
      exact addParameter_indexed indexed name
  unfold addParameters at succeeds
  cases explicit : request.paramNames.find? isQCParameter with
  | none =>
      rw [explicit] at succeeds
      refine ⟨request.supportQualityInfo, ?_, (loop _).of_ok succeeds⟩
      rw [and_iff_left (List.find?_eq_none.mp explicit)]
  | some name =>
      rw [explicit] at succeeds
      dsimp only at succeeds
      split at succeeds
      · cases succeeds
      · refine ⟨false, iff_of_false Bool.false_ne_true fun both => ?_, (loop _).of_ok succeeds⟩
        exact both.2 name (List.mem_of_find?_eq_some explicit) (List.find?_some explicit)

/-- The column at an index is unique. -/
theorem ColumnAt.unique {parameters : List QueriedParameter} {ind : Int}
    {column column' : QueriedParameter} (first : ColumnAt parameters ind column)
    (second : ColumnAt parameters ind column') : column = column' := by
  obtain ⟨position, rfl, found⟩ := first
  obtain ⟨position', same, found'⟩ := second
  rw [← Int.ofNat_inj.mp same, found] at found'
  exact Option.some.inj found'

/-- The column of quality codes is never one of a sensor. -/
theorem EntryHolds.quality_iff {parameters : List QueriedParameter} {entry : ExtParamIndexEntry}
    (holds : EntryHolds parameters entry) :
    QualityOfOwn parameters entry ↔ ¬ SensorQuality entry := by
  constructor
  · rintro ofOwn ⟨hasQc, hasSensor⟩
    obtain ⟨qc, given⟩ := Option.isSome_iff_exists.mp hasQc
    obtain ⟨column, found, _, sensor⟩ := ofOwn qc given
    rw [found.unique (holds.quality qc given)] at sensor
    rw [sensor] at hasSensor
    cases hasSensor
  · intro noSensor qc given
    refine ⟨_, holds.quality qc given, rfl, Option.not_isSome_iff_eq_none.mp fun hasSensor => ?_⟩
    exact noSensor ⟨Option.isSome_of_mem given, hasSensor⟩

/-- The index is right if no quality codes are asked for with the values of a sensor. -/
theorem Indexed.noSensorQuality_iff {names : ObsNames} {stationType : ByteString} {addQc : Bool}
    {done : List ByteString} {added : AddedParameters}
    (indexed : Indexed names stationType addQc done added) :
    ColumnIndex done added.queried ↔ ¬ ∃ entry ∈ added.queried.paramIndex, SensorQuality entry := by
  constructor
  · rintro right ⟨entry, member, isSensor⟩
    exact (indexed.holds entry member).quality_iff.mp (right.quality entry member) isSensor
  · intro noSensor
    refine ⟨fun entry member => (indexed.holds entry member).own, fun entry member => ?_,
      indexed.distinct, indexed.ordered⟩
    exact (indexed.holds entry member).quality_iff.mpr fun isSensor =>
      noSensor ⟨entry, member, isSensor⟩

/-- The index is right just if quality codes are not added for a parameter with sensors. -/
theorem columnIndex_iff {names : ObsNames} {request : ObsRequest} {added : AddedParameters}
    (succeeds : addParameters names request = .ok added) :
    ColumnIndex request.paramNames added.queried ↔
      ¬ (request.supportQualityInfo = true ∧ (∀ name ∈ request.paramNames, ¬ isQCParameter name) ∧
        ∃ name ∈ request.paramNames, names.isParameter name request.stationType = true ∧
          HasSensors names name) := by
  obtain ⟨addQc, isAdded, indexed⟩ := addParameters_indexed succeeds
  rw [indexed.noSensorQuality_iff, indexed.sensorQuality, isAdded, and_assoc]

/-! ### Two sensors -/

/-- A round for a parameter of the engine. -/
theorem addParameter_of_meteo {names : ObsNames} {stationType name : ByteString} {addQc : Bool}
    {added : AddedParameters} {result : Bool × QueriedParameters}
    (isNew : added.lowerCaseParamNames.contains (asciiTolowerCopy name) = false)
    (isParameter : names.isParameter name stationType = true)
    (meteo : addMeteoParameter names name addQc added.queried = .ok result) :
    addParameter names stationType addQc added name = .ok ⟨added.haveMeteoParam || result.1,
      added.lowerCaseParamNames.insert (asciiTolowerCopy name), result.2⟩ := by
  unfold addParameter
  dsimp only
  rw [isNew, if_neg Bool.false_ne_true, if_pos isParameter, meteo]
  rfl

/-- A quantity of two sensors. -/
def twoSensors : MeteoParameterOptionItem := { sensorLast := 2 }

/-- A request for the temperatures of both. -/
def sensorRequest (supportQualityInfo : Bool) : ObsRequest where
  paramNames := [ascii "t2m"]
  stationType := ascii "opendata"
  supportQualityInfo := supportQualityInfo
  missingText := ascii "NaN"
  tzName := ascii "UTC"
  language := ascii "eng"
  showHeight := false

/-- It can be added. -/
theorem addParameters_twoSensors (supportQualityInfo : Bool) :
    ∃ added, addParameters (sensorNames twoSensors)
      (sensorRequest supportQualityInfo) = .ok added := by
  have passes : twoSensors.Passes := .inr (by decide)
  have given :
      ¬ (((sensorNames twoSensors).getMeteoParameterOptions (ascii "t2m")).sensorFirst = 1 ∧
        ((sensorNames twoSensors).getMeteoParameterOptions (ascii "t2m")).sensorLast = 1) := by
    rw [getMeteoParameterOptions_sensorNames]
    decide
  have ordinary : (sensorNames twoSensors).special (ascii "t2m") = false := rfl
  have ends := (congrArg sensorNumbers (getMeteoParameterOptions_sensorNames twoSensors)).trans
    (sensorNumbers_of_passes passes)
  obtain ⟨result, meteo⟩ : ∃ result, addMeteoParameter (sensorNames twoSensors) (ascii "t2m")
      supportQualityInfo ⟨initialBsParam.map fun name => ⟨name, none⟩, []⟩ = .ok result :=
    ⟨_, addMeteoParameter_of_some ordinary given _ _ ends⟩
  have step : addParameter (sensorNames twoSensors) (ascii "opendata") supportQualityInfo
      ⟨false, .empty, _⟩ (ascii "t2m") = .ok ⟨_, _, _⟩ := addParameter_of_meteo rfl rfl meteo
  have implicit : [ascii "t2m"].find? isQCParameter = none := by decide
  refine ⟨_, Eq.trans ?_ step⟩
  unfold addParameters
  rw [show (sensorRequest supportQualityInfo).paramNames = [ascii "t2m"] from rfl, implicit]
  exact bind_pure _

/-- With their quality codes the columns of the codes are not those of the sensors. -/
theorem twoSensors_withoutOwnCodes :
    ∃ added, addParameters (sensorNames twoSensors) (sensorRequest true) = .ok added ∧
      ¬ ColumnIndex (sensorRequest true).paramNames added.queried := by
  obtain ⟨added, succeeds⟩ := addParameters_twoSensors true
  refine ⟨added, succeeds, fun right => ?_⟩
  obtain ⟨addQc, isAdded, indexed⟩ := addParameters_indexed succeeds
  refine indexed.noSensorQuality_iff.mp right (indexed.sensorQuality.mpr ⟨isAdded.mpr ?_, ?_⟩)
  · exact ⟨rfl, by decide⟩
  · refine ⟨ascii "t2m", List.mem_cons_self, rfl, rfl, ?_⟩
    rw [getMeteoParameterOptions_sensorNames]
    decide

/-- Without quality codes the index is right. -/
theorem twoSensors_withoutCodes :
    ∃ added, addParameters (sensorNames twoSensors) (sensorRequest false) = .ok added ∧
      ColumnIndex (sensorRequest false).paramNames added.queried := by
  obtain ⟨added, succeeds⟩ := addParameters_twoSensors false
  refine ⟨added, succeeds, (columnIndex_iff succeeds).mpr fun asked => ?_⟩
  exact Bool.false_ne_true asked.1

end SmartMetWfs.Handlers
