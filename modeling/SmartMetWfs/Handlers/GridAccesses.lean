import SmartMetWfs.Handlers.GridForecast

/-!
# Reads of the value lists

The loops of the grid forecast go through the forecast times and read the value lists at
the index of the time. A list with values must therefore have one for every time, and where
a special parameter is looked for in the lists of all parameters, each list up to the first
that answers must reach to the time.
-/

namespace SmartMetWfs.Handlers

open Foundation

variable {Number : Type}

/-- No value list is read beyond its end. -/
def ReadsWithinLists (services : GridServices Number) (enabled : Bool) (result : Int)
    (gridQuery : GridQuery Number) (rowCount : Nat) : Prop :=
  ∀ access, processGridQuery services enabled result gridQuery rowCount ≠ .error (.undefined access)

/-- Each value list up to the first one that answers has an entry for the time. -/
def Scannable {α : Type} (answer : ParameterValues Number → Option α) (t : Nat)
    (params : List (QueryParameter Number)) : Prop :=
  ∀ before param after, params = before ++ param :: after →
    (∀ earlier ∈ before, ∃ values, earlier.valueList[t]? = some values ∧ answer values = none) →
    t < param.valueList.length

/-- The lists in which the text of a special parameter is looked for can be read. -/
structure SpecialReadable (services : GridServices Number) (gridQuery : GridQuery Number)
    (param : QueryParameter Number) (t : Nat) : Prop where
  level : param.param = ascii "level" → Scannable levelAnswer t gridQuery.parameterList
  producer : param.param = ascii "model" ∨ param.param = ascii "producer" →
    Scannable (producerAnswer services) t gridQuery.parameterList
  originTime : param.param = ascii "origintime" →
    Scannable (originTimeAnswer services) t gridQuery.parameterList

/-- The text of a special parameter is not found out from the location and the time. -/
def Unresolved (services : GridServices Number) (param : QueryParameter Number)
    (forecastTime : Int) :
    Prop :=
  services.valueByLocation param.param param.precision = none ∧
    services.valueByLocationAndTime param.param forecastTime param.precision = none

/-- A parameter with data has a value for every time. Of others, the lists in which they are
looked for can be read. -/
def ParameterReadable (services : GridServices Number) (gridQuery : GridQuery Number)
    (param : QueryParameter Number) : Prop :=
  if hasData gridQuery param then
    param.valueList.length = gridQuery.forecastTimeList.keys.length
  else ∀ forecastTime t, gridQuery.forecastTimeList.keys[t]? = some forecastTime →
    Unresolved services param forecastTime → SpecialReadable services gridQuery param t

/-- Every list is long enough for the times. -/
def ListsReachTimes (services : GridServices Number) (gridQuery : GridQuery Number) : Prop :=
  ∀ param ∈ gridQuery.parameterList, ParameterReadable services gridQuery param

/-! ### Single reads -/

/-- A value is read inside the list only. -/
theorem valueAt_succeeds_iff {valueList : List (ParameterValues Number)} {t : Nat} :
    (∃ values, valueAt valueList t = .ok values) ↔ t < valueList.length := by
  unfold valueAt
  by_cases within : t < valueList.length
  · rw [List.getElem?_eq_getElem within]
    exact iff_of_true ⟨_, rfl⟩ within
  · rw [List.getElem?_eq_none (not_lt.mp within)]
    exact iff_of_false (fun ⟨_, reads⟩ => nomatch reads) within

/-- The next list must reach to the time, and the ones behind it if it does not answer. -/
theorem scannable_cons {α : Type} {answer : ParameterValues Number → Option α} {t : Nat}
    {param : QueryParameter Number} {rest : List (QueryParameter Number)} :
    Scannable answer t (param :: rest) ↔ t < param.valueList.length ∧
      ∀ values, param.valueList[t]? = some values → answer values = none →
        Scannable answer t rest := by
  constructor
  · intro scannable
    refine ⟨scannable [] param rest rfl (fun _ member => (List.not_mem_nil member).elim), ?_⟩
    intro values here silent before other after split earlierSilent
    refine scannable (param :: before) other after (by rw [split, List.cons_append]) ?_
    intro earlier member
    rcases List.mem_cons.mp member with rfl | inBefore
    · exact ⟨values, here, silent⟩
    · exact earlierSilent earlier inBefore
  · rintro ⟨within, behind⟩ before other after split earlierSilent
    cases before with
    | nil =>
        cases split
        exact within
    | cons first before =>
        cases split
        obtain ⟨values, here, silent⟩ := earlierSilent param List.mem_cons_self
        exact behind values here silent before other after rfl
          fun earlier member => earlierSilent earlier (List.mem_cons_of_mem _ member)

/-- An answer is found when all lists before it are long enough. -/
theorem firstAnswer_succeeds_iff {α : Type} {answer : ParameterValues Number → Option α} {t : Nat}
    {params : List (QueryParameter Number)} :
    (∃ found, firstAnswer answer t params = .ok found) ↔ Scannable answer t params := by
  induction params with
  | nil =>
      refine iff_of_true ⟨none, rfl⟩ fun before param after split => ?_
      exact absurd split.symm (List.append_ne_nil_of_right_ne_nil _ (List.cons_ne_nil _ _))
  | cons param rest ih =>
      rw [scannable_cons, ← valueAt_succeeds_iff, firstAnswer]
      unfold valueAt
      cases here : param.valueList[t]? with
      | none =>
          refine iff_of_false ?_ ?_
          · rintro ⟨_, reads⟩
            cases reads
          · rintro ⟨⟨_, reads⟩, _⟩
            cases reads
      | some values =>
          rw [and_iff_right ⟨values, rfl⟩]
          cases answered : answer values with
          | some found =>
              simp only [bind, Except.bind, answered]
              refine iff_of_true ⟨some found, rfl⟩ fun other same silent => ?_
              cases same
              cases answered.symm.trans silent
          | none =>
              simp only [bind, Except.bind, answered]
              exact ih.trans ⟨fun scannable _ _ _ => scannable, fun behind =>
                behind values rfl answered⟩

/-! ### The loops -/

/-- A computation that goes on with something that cannot fail. -/
theorem succeeds_of_map {ε α β : Type} {computation : Except ε α} {finish : α → β} :
    (∃ result, (do let value ← computation; .ok (finish value)) = Except.ok result) ↔
      ∃ value, computation = .ok value := by
  cases computation with
  | error failure => exact iff_of_false (fun ⟨_, ends⟩ => nomatch ends) fun ⟨_, ends⟩ =>
    nomatch ends
  | ok value => exact iff_of_true ⟨finish value, rfl⟩ ⟨value, rfl⟩

/-- The values of a parameter are set when its lists are long enough. -/
theorem setDataValues_succeeds_iff {services : GridServices Number} {param : QueryParameter Number}
    {vLen tLen col rows : Nat} {filling : Filling} (some : 0 < vLen) :
    (∃ last, setDataValues services param vLen tLen col rows filling = .ok last) ↔
      tLen ≤ param.valueList.length := by
  have round : ∀ (v : Nat) (filling : Filling), (∃ last, (List.range tLen).foldlM
      (setDataValue services param vLen col rows v) filling = .ok last) ↔
        ∀ t ∈ List.range tLen, t < param.valueList.length := by
    intro v filling
    exact foldlM_succeeds_iff fun state t _ => succeeds_of_map.trans valueAt_succeeds_iff
  refine (foldlM_succeeds_iff fun state v _ => round v state).trans ?_
  constructor
  · intro within
    by_contra beyond
    exact absurd (within 0 (List.mem_range.mpr some) param.valueList.length
      (List.mem_range.mpr (not_le.mp beyond))) (lt_irrefl _)
  · intro enough v _ t member
    exact (List.mem_range.mp member).trans_le enough

/-- A special value is found when the lists before its answer are long enough. -/
theorem specialValue_succeeds_iff {services : GridServices Number} {gridQuery : GridQuery Number}
    {param : QueryParameter Number} {t : Nat} {forecastTime : Int} :
    (∃ text, specialValue services gridQuery param t forecastTime = .ok text) ↔
      (Unresolved services param forecastTime → SpecialReadable services gridQuery param t) := by
  unfold specialValue Unresolved
  cases services.valueByLocation param.param param.precision with
  | some text => exact iff_of_true ⟨_, rfl⟩ fun unresolved => nomatch unresolved.1
  | none =>
  cases services.valueByLocationAndTime param.param forecastTime param.precision with
  | some text => exact iff_of_true ⟨_, rfl⟩ fun unresolved => nomatch unresolved.2
  | none =>
  refine Iff.trans ?_ ⟨fun readable _ => readable, fun readable => readable ⟨rfl, rfl⟩⟩
  -- The name tells which of the lists are read, if any.
  by_cases level : param.param = ascii "level"
  · rw [if_pos level]
    refine succeeds_of_map.trans (succeeds_of_map.trans (firstAnswer_succeeds_iff.trans ?_))
    refine ⟨fun scannable => ⟨fun _ => scannable, ?_, ?_⟩, fun readable => readable.level level⟩
    all_goals rw [level]; exact fun other => absurd other (by decide)
  by_cases producer : param.param = ascii "model" ∨ param.param = ascii "producer"
  · rw [if_neg level, if_pos producer]
    refine succeeds_of_map.trans (firstAnswer_succeeds_iff.trans ?_)
    refine ⟨fun scannable => ⟨fun same => absurd same level, fun _ => scannable, ?_⟩,
      fun readable => readable.producer producer⟩
    rintro originTime
    rw [originTime] at producer
    exact absurd producer (by decide)
  by_cases originTime : param.param = ascii "origintime"
  · rw [if_neg level, if_neg producer, if_pos originTime]
    refine succeeds_of_map.trans (firstAnswer_succeeds_iff.trans ?_)
    exact ⟨fun scannable => ⟨fun same => absurd same level, fun same => absurd same producer,
      fun _ => scannable⟩, fun readable => readable.originTime originTime⟩
  · rw [if_neg level, if_neg producer, if_neg originTime]
    refine iff_of_true ?_ ⟨fun same => absurd same level, fun same => absurd same producer,
      fun same => absurd same originTime⟩
    by_cases more : param.valueList.length > gridQuery.forecastTimeList.keys.length
    · exact ⟨_, if_pos more⟩
    · rw [if_neg more]
      cases services.isAdditionalParameter param.param <;> exact ⟨_, rfl⟩

/-- Special values are set when each can be found. -/
theorem setSpecialValues_succeeds_iff {services : GridServices Number}
    {gridQuery : GridQuery Number}
    {param : QueryParameter Number} {col rows : Nat} {filling : Filling} :
    (∃ last, setSpecialValues services gridQuery param col rows filling = .ok last) ↔
      ∀ forecastTime t, gridQuery.forecastTimeList.keys[t]? = some forecastTime →
        Unresolved services param forecastTime → SpecialReadable services gridQuery param t := by
  have round : ∀ filling, ∀ time ∈ gridQuery.forecastTimeList.keys.zipIdx,
      (∃ next, setSpecialValue services gridQuery param col rows filling time = .ok next) ↔
        (Unresolved services param time.1 → SpecialReadable services gridQuery param time.2) :=
    fun _ _ _ => succeeds_of_map.trans specialValue_succeeds_iff
  refine (foldlM_succeeds_iff round).trans ?_
  simp only [Prod.forall, List.mk_mem_zipIdx_iff_getElem?]

/-- A parameter with data has values. -/
theorem maxValuesPerTimestep_pos {gridQuery : GridQuery Number} {param : QueryParameter Number}
    (data : hasData gridQuery param = true) : 0 < maxValuesPerTimestep param ∧
      param.valueList.length ≤ gridQuery.forecastTimeList.keys.length := of_decide_eq_true data

/-- A parameter is set when what it reads is there. -/
theorem setParameter_succeeds_iff {services : GridServices Number} {gridQuery : GridQuery Number}
    {rowCount : Nat} {filling : Filling} {param : QueryParameter Number × Nat} :
    (∃ last, setParameter services gridQuery rowCount filling param = .ok last) ↔
      ParameterReadable services gridQuery param.1 := by
  unfold setParameter ParameterReadable
  cases data : hasData gridQuery param.1 with
  | true =>
      obtain ⟨some, notMore⟩ := maxValuesPerTimestep_pos data
      rw [if_pos rfl, if_pos rfl, setDataValues_succeeds_iff some]
      exact ⟨notMore.antisymm, fun same => same.ge⟩
  | false =>
      rw [if_neg Bool.false_ne_true, if_neg Bool.false_ne_true]
      exact setSpecialValues_succeeds_iff

/-- The value lists are read within their bounds just if, once the query has been answered,
those with data have a value for every time and those searched through reach to the time. -/
theorem processGridQuery_reads_iff (services : GridServices Number) (enabled : Bool) (result : Int)
    (gridQuery : GridQuery Number) (rowCount : Nat) :
    ReadsWithinLists services enabled result gridQuery rowCount ↔
      (enabled = true → result = 0 → ListsReachTimes services gridQuery) := by
  have loop : (∃ filling, setParameters services gridQuery rowCount = .ok filling) ↔
      ListsReachTimes services gridQuery := by
    have round : ∀ filling, ∀ param ∈ gridQuery.parameterList.zipIdx,
        (∃ next, setParameter services gridQuery rowCount filling param = .ok next) ↔
          ParameterReadable services gridQuery param.1 := fun _ _ _ => setParameter_succeeds_iff
    refine (foldlM_succeeds_iff round).trans ?_
    refine ⟨fun all param member => ?_, fun all param member => ?_⟩
    · obtain ⟨col, here⟩ := List.mem_iff_getElem?.mp member
      exact all (param, col) (List.mk_mem_zipIdx_iff_getElem?.mpr here)
    · exact all param.1 (List.mem_of_getElem? (List.mk_mem_zipIdx_iff_getElem?.mp member))
  rw [← loop]
  unfold ReadsWithinLists processGridQuery
  cases enabled with
  | false => exact iff_of_true nofun nofun
  | true =>
      by_cases answered : result = 0
      · cases setParameters services gridQuery rowCount with
        | error access =>
            refine iff_of_false (fun within => within access (by simp [answered])) fun ends => ?_
            obtain ⟨_, ends⟩ := ends rfl answered
            cases ends
        | ok filling => exact iff_of_true (by simp [answered]) fun _ _ => ⟨filling, rfl⟩
      · exact iff_of_true (by simp [answered]) fun _ same => absurd same answered

/-- Two times, and a parameter with a value for the first of them only. -/
def shortList : GridQuery Int where
  parameterList := [⟨ascii "Temperature", -1, [⟨[], 1, 1, 1, 1, 0, 1, -1, 0, [⟨some 20, []⟩]⟩]⟩]
  forecastTimeList := ⟨[(0, ()), (3600, ())], by decide⟩
  producerNameList := []

/-- Services that know nothing. -/
def noServices : GridServices Int where
  valueByLocation _ _ := none
  valueByLocationAndTime _ _ _ := none
  isAdditionalParameter _ := false
  producerName _ := none
  generationTime _ := none
  producerNames _ := []
  formatNumber number _ := intDecimal number
  missingText := ascii "NaN"
  haveModelArea := false

/-- A list that is too short is read beyond its end. -/
theorem shortList_beyond : ¬ReadsWithinLists noServices true 0 shortList 0 :=
  fun within => within ⟨⟩ (by rfl)

end SmartMetWfs.Handlers
