import SmartMetWfs.Handlers.TemplateSizes

/-!
# When the size check of array templates is right

The check should accept the indices that a scalar template accepts, those at which some
request has a value, and should reject a template for its size only if there is no request
for which its number of values is within the limits. It does so exactly when `SizesFit`
holds, which speaks of the declarations and the limits only: numbers of values that the
declarations allow can be chosen freely for each parameter.
-/

namespace SmartMetWfs.Handlers

open Foundation Parameters

section Statement

variable (config : StoredQueryConfig Value) (minSize maxSize : Nat)
  (setting : TemplateSetting PlainItem)

/-- The loop of `ArrayParameterTemplate::init` goes on after the item. -/
def AcceptedByArray (item : PlainItem) : Prop :=
  ∀ sizes, ∃ after, initItem config sizes item.configured = .ok after

/-- A scalar template accepts the item. -/
def AcceptedByScalar (item : PlainItem) : Prop :=
  ∃ template, ScalarParameterTemplate.init config (some item.configured) = .ok template

/-- The values that the request has for the parameters referred to are accepted by their
declarations. -/
def AcceptedRequest (reqParamMap : RequestParameterMap Value) : Prop :=
  reqParamMap.caseSensitiveParams = config.useCaseSensitiveParams ∧
    ∀ paramRef paramInd, .reference paramRef paramInd ∈ setting.elements →
      ∀ desc, config.Describes paramRef desc → desc.Accepts (reqParamMap.getValues paramRef)

/-- The array template with its items. -/
def arrayOf : ArrayParameterTemplate :=
  ⟨setting.elements.map fun item => item.configured.item, minSize, maxSize⟩

/-- The start-up check accepts the right indices, and rejects a template for its size only
if it has its values for no request. -/
structure SizesChecked : Prop where
  asScalar : ∀ paramRef index desc, .reference paramRef (some index) ∈ setting.elements →
    config.Describes paramRef desc →
      (AcceptedByArray config (.reference paramRef (some index)) ↔
        AcceptedByScalar config (.reference paramRef (some index)))
  obtainable : ∀ paramRef index desc, .reference paramRef (some index) ∈ setting.elements →
    config.Describes paramRef desc →
      (AcceptedByArray config (.reference paramRef (some index)) ↔
        ∃ values, desc.Accepts values ∧ index < values.length)
  notTooStrict : (∃ failure, ArrayParameterTemplate.init config minSize maxSize
      (some (setting.map PlainItem.configured)) = .error failure ∧ failure.isSize = true) →
    ∀ extraParams reqParamMap, AcceptedRequest config setting reqParamMap → ∀ values,
      (arrayOf minSize maxSize setting).getValue (handleRedirection extraParams reqParamMap)
        reqParamMap ≠ .ok values

/-- The number of values of a parameter, from the numbers under the keys of the request. -/
def chosenCount (choice : ByteString → Nat) (paramRef : ByteString) : Nat :=
  choice (RequestParameterMap.key config.useCaseSensitiveParams paramRef)

/-- The numbers of values are within the declarations. -/
def Choosable (choice : ByteString → Nat) : Prop :=
  ∀ paramRef paramInd, .reference paramRef paramInd ∈ setting.elements →
    ∀ desc, config.Describes paramRef desc → desc.Attains (chosenCount config choice paramRef)

/-- An index is within one occurrence of an array just when it is within all of them, and
just when the parameter may have so many values. If a choice of the numbers of values leads
to a size within the limits, then the calculated least size does not exceed the upper limit
although the choice leaves a parameter out, nor is the calculated greatest size below the
lower limit although the choice repeats a parameter. -/
structure SizesFit : Prop where
  sameRange : ∀ paramRef index desc, .reference paramRef (some index) ∈ setting.elements →
    config.Describes paramRef desc → desc.isArray = true →
      (index < desc.paramDef.maxSize ↔ index < desc.getMaxSize)
  obtainable : ∀ paramRef index desc, .reference paramRef (some index) ∈ setting.elements →
    config.Describes paramRef desc →
      ((desc.isArray = true → index < desc.paramDef.maxSize) ↔
        desc.minOccurs ≤ desc.maxOccurs ∧ desc.paramDef.minSize ≤ desc.paramDef.maxSize ∧
          (index : Int) < desc.maxOccurs * desc.paramDef.maxSize)
  limits : (∀ item ∈ setting.elements, item.Fits config) → ∀ choice,
    Choosable config setting choice →
    ∀ numbers, setting.elements.mapM (PlainItem.number (chosenCount config choice)) = some numbers →
      minSize ≤ numbers.sum → numbers.sum ≤ maxSize →
        ((∃ paramRef paramInd, .reference paramRef paramInd ∈ setting.elements ∧
          chosenCount config choice paramRef = 0) →
            PlainItem.calcMinSize config setting.elements ≤ maxSize) ∧
        ((∃ paramRef, .reference paramRef none ∈ setting.elements ∧
          ((PlainItem.reference paramRef none).countedSizes config).2 <
            chosenCount config choice paramRef) →
            minSize ≤ PlainItem.calcMaxSize config setting.elements)

end Statement

/-! ### Indices -/

section Indices

variable {config : StoredQueryConfig Value} {paramRef : ByteString} {desc : ParamDesc Value}

/-- An array accepts an index below the sizes of the parameter. -/
theorem acceptedByArray_iff (describes : config.Describes paramRef desc) (index : Nat) :
    AcceptedByArray config (.reference paramRef (some index)) ↔
      (desc.isArray = true → index < desc.paramDef.maxSize) := by
  constructor
  · intro accepted isArray
    obtain ⟨after, ran⟩ := accepted ⟨false, 0, 0⟩
    rw [initItem_reference, getParamDesc_of_describes describes] at ran
    by_contra beyond
    cases ran.symm.trans (if_pos ⟨isArray, Nat.not_lt.mp beyond⟩)
  · intro inRange sizes
    have fits : (PlainItem.reference paramRef (some index)).Fits config := by
      refine ⟨desc, describes, fun isArray _ isIndex => ?_⟩
      cases isIndex
      exact inRange isArray
    exact ⟨_, initItem_of_fits fits sizes⟩

/-- A scalar accepts an index below the sizes of the parameter. -/
theorem acceptedByScalar_iff (describes : config.Describes paramRef desc) (index : Nat) :
    AcceptedByScalar config (.reference paramRef (some index)) ↔
      (desc.isArray = true → index < desc.getMaxSize) := by
  have initialized : ScalarParameterTemplate.init config
      (some (PlainItem.reference paramRef (some index)).configured) =
        if desc.isArray = true then
          if desc.getMaxSize ≤ index then .error (.indexOutOfRange index desc.getMaxSize)
          else .ok ⟨(PlainItem.reference paramRef (some index)).configured.item⟩
        else .ok ⟨(PlainItem.reference paramRef (some index)).configured.item⟩ := by
    change ((getParamDesc config paramRef).bind _) = _
    rw [getParamDesc_of_describes describes]
    rfl
  unfold AcceptedByScalar
  rw [initialized]
  by_cases isArray : desc.isArray = true
  · rw [if_pos isArray]
    by_cases beyond : desc.getMaxSize ≤ index
    · rw [if_pos beyond]
      exact ⟨fun ⟨_, found⟩ => (nomatch found), fun inRange =>
        absurd (inRange isArray) (Nat.not_lt.mpr beyond)⟩
    · rw [if_neg beyond]
      exact ⟨fun _ _ => Nat.not_le.mp beyond, fun _ => ⟨_, rfl⟩⟩
  · rw [if_neg isArray]
    exact ⟨fun _ scalar => absurd scalar isArray, fun _ => ⟨_, rfl⟩⟩

end Indices

/-! ### Requests -/

section Requests

/-- A request that has so many values under the keys. -/
def requestOf (caseSensitiveParams : Bool) (chosen : OrderedMap ByteString Nat) :
    RequestParameterMap Value :=
  ⟨caseSensitiveParams, Multimap.empty.insertAll (chosen.entries.flatMap fun entry =>
    List.replicate entry.2 (entry.1, ⟨entry.1, .empty⟩))⟩

theorem length_getValues_requestOf {caseSensitiveParams : Bool} {chosen : OrderedMap ByteString Nat}
    {name : ByteString} {number : Nat}
    (found : chosen.find (RequestParameterMap.key caseSensitiveParams name) = some number) :
    ((requestOf caseSensitiveParams chosen).getValues name).length = number := by
  unfold RequestParameterMap.getValues requestOf
  dsimp only
  rw [Multimap.equalRange_insertAll, Multimap.equalRange_empty, List.nil_append,
    List.filter_flatMap,
    OrderedMap.flatMap_of_others_nil found, List.filter_eq_self.mpr, List.length_map,
    List.length_map, List.length_replicate]
  · intro pair member
    rw [List.eq_of_mem_replicate member]
    simp
  · intro entry _ other
    rw [List.filter_eq_nil_iff]
    intro pair member
    rw [List.eq_of_mem_replicate member]
    simpa using other

/-- The chosen numbers for the keys of some names. -/
def chosenFor (caseSensitiveParams : Bool) (choice : ByteString → Nat) (names : List ByteString) :
    OrderedMap ByteString Nat :=
  names.foldl (fun chosen name =>
    chosen.set (RequestParameterMap.key caseSensitiveParams name)
      (choice (RequestParameterMap.key caseSensitiveParams name))) .empty

/-- A name has the number that was chosen for it. -/
theorem find_chosenFor (caseSensitiveParams : Bool) (choice : ByteString → Nat)
    {names : List ByteString} {name : ByteString} (member : name ∈ names) :
    (chosenFor caseSensitiveParams choice names).find
        (RequestParameterMap.key caseSensitiveParams name) =
      some (choice (RequestParameterMap.key caseSensitiveParams name)) := by
  unfold chosenFor
  induction names using List.reverseRecOn with
  | nil => cases member
  | append_singleton names last ih =>
      rw [List.foldl_append, List.foldl_cons, List.foldl_nil, OrderedMap.find_set]
      by_cases same : RequestParameterMap.key caseSensitiveParams name =
          RequestParameterMap.key caseSensitiveParams last
      · rw [if_pos same, same]
      · rw [if_neg same]
        rcases List.mem_append.mp member with earlier | isLast
        · exact ih earlier
        · rw [List.mem_singleton.mp isLast] at same
          exact absurd rfl same

/-- The parameter that an item refers to. -/
def PlainItem.paramRef? : PlainItem → Option ByteString
  | .constant _ => none
  | .reference paramRef _ => some paramRef

theorem number_congr {count count' : ByteString → Nat} {items : List PlainItem}
    (same : ∀ paramRef paramInd, .reference paramRef paramInd ∈ items →
      count paramRef = count' paramRef) :
    items.mapM (PlainItem.number count) = items.mapM (PlainItem.number count') := by
  induction items with
  | nil => rfl
  | cons item items ih =>
      have first : item.number count = item.number count' := by
        match item with
        | .constant _ => rfl
        | .reference paramRef none =>
            exact congrArg some (same paramRef none List.mem_cons_self)
        | .reference paramRef (some index) =>
            simp only [PlainItem.number, same paramRef (some index) List.mem_cons_self]
      rw [List.mapM_cons, List.mapM_cons, first,
        ih fun paramRef paramInd member => same paramRef paramInd (List.mem_cons_of_mem _ member)]

variable {config : StoredQueryConfig Value} {minSize maxSize : Nat}
  {setting : TemplateSetting PlainItem}

/-- The template has values for a request just if the numbers of the values of the items
have a sum within the limits. -/
theorem arrayOf_getValue_iff (redirect : Redirection) (reqParamMap : RequestParameterMap Value) :
    (∃ values, (arrayOf minSize maxSize setting).getValue redirect reqParamMap = .ok values) ↔
      ∃ numbers, setting.elements.mapM
          (PlainItem.number fun name => (reqParamMap.getValues name).length) = some numbers ∧
        minSize ≤ numbers.sum ∧ numbers.sum ≤ maxSize := by
  have undirected : ∀ item ∈ (arrayOf minSize maxSize setting).items, item.Undirected redirect := by
    intro item member
    obtain ⟨plain, _, rfl⟩ := List.mem_map.mp member
    exact plain.undirected redirect
  have number : (arrayOf minSize maxSize setting).items.mapM
      (ParameterTemplateItem.valueCount fun name => (reqParamMap.getValues name).length) =
        setting.elements.mapM
          (PlainItem.number fun name => (reqParamMap.getValues name).length) := by
    unfold arrayOf
    rw [List.mapM_map]
    exact congrArg (fun read => setting.elements.mapM read)
      (funext fun item => item.valueCount_configured _)
  rw [ArrayParameterTemplate.getValue_ok_iff undirected fun _ => rfl,
    ArrayParameterTemplate.HasValues, number]
  rfl

/-- Every choice of numbers within the declarations is that of some request. -/
theorem exists_request {choice : ByteString → Nat} (choosable : Choosable config setting choice) :
    ∃ reqParamMap, AcceptedRequest config setting reqParamMap ∧
      ∀ paramRef paramInd, .reference paramRef paramInd ∈ setting.elements →
        (reqParamMap.getValues paramRef).length = chosenCount config choice paramRef := by
  have length : ∀ paramRef paramInd, .reference paramRef paramInd ∈ setting.elements →
      ((requestOf config.useCaseSensitiveParams (chosenFor config.useCaseSensitiveParams choice
        (setting.elements.filterMap PlainItem.paramRef?))).getValues paramRef).length =
          chosenCount config choice paramRef := by
    intro paramRef paramInd member
    exact length_getValues_requestOf (find_chosenFor _ choice
      (List.mem_filterMap.mpr ⟨_, member, rfl⟩))
  refine ⟨_, ⟨rfl, fun paramRef paramInd member desc describes => ?_⟩, length⟩
  rw [ParamDesc.accepts_iff, length paramRef paramInd member]
  exact choosable paramRef paramInd member desc describes

end Requests

/-! ### When the sizes are checked rightly -/

section

variable {config : StoredQueryConfig Value} {minSize maxSize : Nat}
  {setting : TemplateSetting PlainItem}

/-- If the calculated sizes exceed the limits only where they may, no request that is
accepted leads to a size within them. -/
theorem SizesFit.no_value (fits : SizesFit config minSize maxSize setting)
    (allFit : ∀ item ∈ setting.elements, item.Fits config)
    (exceeds : maxSize < PlainItem.calcMinSize config setting.elements ∨
      PlainItem.calcMaxSize config setting.elements < minSize)
    {reqParamMap : RequestParameterMap Value}
    (accepted : AcceptedRequest config setting reqParamMap)
    {numbers : List Nat} (counted : setting.elements.mapM
      (PlainItem.number fun name => (reqParamMap.getValues name).length) = some numbers)
    (above : minSize ≤ numbers.sum) (below : numbers.sum ≤ maxSize) : False := by
  obtain ⟨sameMode, accepts⟩ := accepted
  have chosen : (fun name => (reqParamMap.getValues name).length) =
      chosenCount config fun key => (reqParamMap.params.equalRange key).length := by
    funext name
    unfold chosenCount RequestParameterMap.getValues
    rw [List.length_map, sameMode]
  have choosable : Choosable config setting fun key =>
      (reqParamMap.params.equalRange key).length := by
    intro paramRef paramInd member desc describes
    rw [← chosen]
    exact (desc.accepts_iff _).mp (accepts paramRef paramInd member desc describes)
  rw [chosen] at counted
  obtain ⟨leastFits, mostFits⟩ := fits.limits allFit _ choosable numbers counted above below
  rcases exceeds with exceeds | exceeds
  · have given : ∀ paramRef paramInd, .reference paramRef paramInd ∈ setting.elements →
        chosenCount config (fun key => (reqParamMap.params.equalRange key).length) paramRef ≠
          0 := by
      intro paramRef paramInd member absent
      exact absurd exceeds (Nat.not_lt.mpr (leastFits ⟨paramRef, paramInd, member, absent⟩))
    have least := calcMinSize_le choosable given counted
    omega
  · have within : ∀ paramRef, .reference paramRef none ∈ setting.elements →
        chosenCount config (fun key => (reqParamMap.params.equalRange key).length) paramRef ≤
          ((PlainItem.reference paramRef none).countedSizes config).2 := by
      intro paramRef member
      by_contra repeated
      exact absurd exceeds (Nat.not_lt.mpr (mostFits ⟨paramRef, member, Nat.not_le.mp repeated⟩))
    have most := le_calcMaxSize within counted
    omega

/-- Limits that are not too strict admit the sizes of the items. -/
theorem notTooStrict_limits
    (notTooStrict : (∃ failure, ArrayParameterTemplate.init config minSize maxSize
        (some (setting.map PlainItem.configured)) = .error failure ∧ failure.isSize = true) →
      ∀ extraParams reqParamMap, AcceptedRequest config setting reqParamMap → ∀ values,
        (arrayOf minSize maxSize setting).getValue (handleRedirection extraParams reqParamMap)
          reqParamMap ≠ .ok values)
    (allFit : ∀ item ∈ setting.elements, item.Fits config) {choice : ByteString → Nat}
    (choosable : Choosable config setting choice) {numbers : List Nat}
    (counted : setting.elements.mapM (PlainItem.number (chosenCount config choice)) = some numbers)
    (above : minSize ≤ numbers.sum) (below : numbers.sum ≤ maxSize) :
    PlainItem.calcMinSize config setting.elements ≤ maxSize ∧
      minSize ≤ PlainItem.calcMaxSize config setting.elements := by
  by_contra exceeds
  have rejected := (init_size_iff minSize maxSize setting).mpr ⟨allFit, by omega⟩
  obtain ⟨reqParamMap, accepted, lengths⟩ := exists_request choosable
  rw [← number_congr lengths] at counted
  obtain ⟨values, found⟩ := (arrayOf_getValue_iff (handleRedirection none reqParamMap)
    reqParamMap).mpr ⟨numbers, counted, above, below⟩
  exact notTooStrict rejected none reqParamMap accepted values found

/-- The check at start-up is right about indices and sizes exactly when one occurrence of
the parameters is all there can be, as far as it matters. -/
theorem sizesChecked_iff :
    SizesChecked config minSize maxSize setting ↔ SizesFit config minSize maxSize setting := by
  constructor
  · intro checked
    refine ⟨fun paramRef index desc member describes isArray => ?_,
      fun paramRef index desc member describes => ?_,
      fun allFit choice choosable numbers counted above below => ?_⟩
    · have same := checked.asScalar paramRef index desc member describes
      rw [acceptedByArray_iff describes, acceptedByScalar_iff describes] at same
      exact ⟨fun inRange => same.mp (fun _ => inRange) isArray,
        fun inRange => same.mpr (fun _ => inRange) isArray⟩
    · rw [← acceptedByArray_iff describes, ← desc.exists_accepts_iff .empty]
      exact checked.obtainable paramRef index desc member describes
    · obtain ⟨least, most⟩ :=
        notTooStrict_limits checked.notTooStrict allFit choosable counted above below
      exact ⟨fun _ => least, fun _ => most⟩
  · intro fits
    refine ⟨fun paramRef index desc member describes => ?_,
      fun paramRef index desc member describes => ?_,
      fun rejected extraParams reqParamMap accepted values found => ?_⟩
    · rw [acceptedByArray_iff describes, acceptedByScalar_iff describes]
      exact forall_congr' fun isArray => fits.sameRange paramRef index desc member describes isArray
    · rw [acceptedByArray_iff describes, desc.exists_accepts_iff .empty]
      exact fits.obtainable paramRef index desc member describes
    · obtain ⟨allFit, exceeds⟩ := (init_size_iff minSize maxSize setting).mp rejected
      obtain ⟨numbers, counted, above, below⟩ := (arrayOf_getValue_iff _ _).mp ⟨values, found⟩
      exact fits.no_value allFit exceeds accepted counted above below

/-- A parameter `p` that may be given twice, with one number each time. -/
def repeatedParam : ParamDesc Value := ⟨[112], 0, 2, ⟨.int, false, 1, 1⟩, none, none, .empty⟩

/-- The second value of the parameter is taken for a scalar, but refused in an array. -/
theorem repeatedParam_secondRefused :
    ¬ SizesChecked ⟨true, OrderedMap.empty.set [112] repeatedParam, .empty⟩ 0 9
      (.array [.reference [112] (some 1)]) := by
  intro checked
  have describes : StoredQueryConfig.Describes
      ⟨true, OrderedMap.empty.set [112] repeatedParam, .empty⟩ [112] repeatedParam := rfl
  have same := checked.asScalar [112] 1 repeatedParam List.mem_cons_self describes
  have inScalar := (acceptedByScalar_iff describes 1).mpr fun _ => by decide
  have inArray := (acceptedByArray_iff describes 1).mp (same.mpr inScalar) rfl
  exact absurd inArray (by decide)

end

end SmartMetWfs.Handlers
