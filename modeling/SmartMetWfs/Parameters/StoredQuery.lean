import SmartMetWfs.Parameters.StoredQueryConfig
import Mathlib.Data.List.Induction
import Mathlib.Data.Multiset.Count

/-!
# Key-value parameters of a stored query

`StoredQuery::extract_kvp_parameters` goes through the parameters of a request in the
order of the request's multimap, that is, of the names as they are spelt. It counts
the occurrences of a name as it is spelt, and looks the name up as it is spelt among
the forbidden ones, which are kept in lower case.

How a text is read as a value is left to a `ValueReader`. A request passes when the
conditions of `Admissible` hold, and these do not mention the order of the request.
-/

namespace SmartMetWfs.Parameters

open Foundation

variable {ν : Type}

/-! ### The resulting map -/

/-- A value with the name as it was spelt. -/
structure ParamInfo (ν : Type) where
  realName : ByteString
  value : ν

/-- The parameters of a request, under the names the configuration compares. -/
structure RequestParameterMap (ν : Type) where
  caseSensitiveParams : Bool
  params : Multimap ByteString (ParamInfo ν)

namespace RequestParameterMap

/-- No parameter has been given. -/
def empty (caseSensitiveParams : Bool) : RequestParameterMap ν := ⟨caseSensitiveParams, .empty⟩

/-- `insert_value`: the case of the name is kept only if it matters. -/
def insertValue (name : ByteString) (value : ν) (map : RequestParameterMap ν) :
    RequestParameterMap ν :=
  { map with
    params := map.params.insert
      (if map.caseSensitiveParams then name else asciiTolowerCopy name) ⟨name, value⟩ }

/-- `get_map`: the values under the names as they were spelt, or in lower case. -/
def getMap (map : RequestParameterMap ν) (caseSensitive : Bool) : Multimap ByteString ν :=
  map.params.entries.foldl
    (fun result item =>
      result.insert (if caseSensitive then item.2.realName else item.1) item.2.value) .empty

/-- The values are inserted one after the other. -/
def insertValues (name : ByteString) (values : List ν) (map : RequestParameterMap ν) :
    RequestParameterMap ν :=
  values.foldl (fun result value => result.insertValue name value) map

end RequestParameterMap

/-! ### Reading values -/

/-- How the texts of values are read, and values compared with limits. -/
structure ValueReader (ν : Type) where
  readValue : ValueType → ByteString → Option ν
  parseMeter : ByteString → Option ν
  checkLimits : ν → Option ν → Option ν → Bool

/-- The values of a parameter, if there are as many as its sizes say. -/
def StoredQueryParamDef.readValues (reader : ValueReader ν) (paramDef : StoredQueryParamDef)
    (values : List ByteString) : Option (List ν) :=
  if paramDef.minSize ≤ values.length ∧ values.length ≤ paramDef.maxSize then
    values.mapM (reader.readValue paramDef.valueType)
  else none

/-- Insert a value that is within the limits of the parameter. -/
def insertChecked (reader : ValueReader ν) (paramName : ByteString) (paramDesc : ParamDesc ν)
    (params : RequestParameterMap ν) (value : ν) : Option (RequestParameterMap ν) :=
  if reader.checkLimits value paramDesc.lowerLimit paramDesc.upperLimit then
    some (params.insertValue paramName value)
  else none

/-- The value of a parameter that is no array. -/
def readKvpValue (reader : ValueReader ν) (paramName valueStr : ByteString)
    (paramDef : StoredQueryParamDef) : Option ν :=
  if asciiTolowerCopy paramName = ascii "maxdistance" then reader.parseMeter valueStr
  else reader.readValue paramDef.valueType valueStr

/-- `insert_kvp_values`. -/
def insertKvpValues (reader : ValueReader ν) (params : RequestParameterMap ν)
    (paramName valueStr : ByteString) (paramDesc : ParamDesc ν) :
    Option (RequestParameterMap ν) :=
  if paramDesc.paramDef.isArray then do
    let newValues ← paramDesc.paramDef.readValues reader (valueStr.splitOn 44)
    newValues.foldlM (insertChecked reader paramName paramDesc) params
  else do
    let value ← readKvpValue reader paramName valueStr paramDesc.paramDef
    insertChecked reader paramName paramDesc params value

/-! ### The extraction -/

/-- A stored query with its parameters and the names that were skipped. -/
structure StoredQuery (ν : Type) where
  params : RequestParameterMap ν
  skippedParams : List ByteString

/-- A request that is refused; `nullDescription` is none, but the use of a description that
is not there. -/
inductive ParamError
  | conflictingParam (name : ByteString)
  | nullDescription (name : ByteString)
  | tooMany (name : ByteString) (actualCount maxOccurs : Int)
  | unreadable (name valueStr : ByteString)
  | tooFew (name : ByteString) (actualCount minOccurs : Int)
  | missingDescription (realName : ByteString)

/-- The query and the local containers of `extract_kvp_parameters`. -/
structure ExtractState (ν : Type) where
  query : StoredQuery ν
  paramNameSet : Multiset ByteString
  forbidden : OrderedSet ByteString

/-- `check_param_max_occurs`. -/
def checkParamMaxOccurs (actualCount maxOccurs : Int) (paramName : ByteString) :
    Except ParamError Unit :=
  if maxOccurs < actualCount then .error (.tooMany paramName actualCount maxOccurs) else .ok ()

/-- `check_param_min_occurs`. -/
def checkParamMinOccurs (actualCount minOccurs : Int) (paramName : ByteString) :
    Except ParamError Unit :=
  if actualCount < minOccurs then .error (.tooFew paramName actualCount minOccurs) else .ok ()

/-- `throw_conflicting_param`: the message lists the conflicts of the description. -/
def throwConflictingParam (name : ByteString) : Option (ParamDesc ν) → ParamError
  | none => .nullDescription name
  | some _ => .conflictingParam name

section

variable (reader : ValueReader ν) (config : StoredQueryConfig ν)

/-- Nothing has been extracted. -/
def ExtractState.start : ExtractState ν :=
  ⟨⟨.empty config.useCaseSensitiveParams, []⟩, 0, .empty⟩

/-- One parameter of the request. -/
def extractKvpParameter (state : ExtractState ν) (item : ByteString × ByteString) :
    Except ParamError (ExtractState ν) :=
  let (paramName, valueStr) := item
  match config.getParamDesc paramName with
  | .error realName => .error (.missingDescription realName)
  | .ok paramDesc =>
      if state.forbidden.contains paramName then
        .error (throwConflictingParam paramName paramDesc)
      else
        match paramDesc with
        | none => .ok { state with
            query := { state.query with
              skippedParams := state.query.skippedParams ++
                [paramName ++ ascii "='" ++ valueStr ++ ascii "'"] } }
        | some paramDesc =>
            (checkParamMaxOccurs (state.paramNameSet.count paramName + 1) paramDesc.maxOccurs
              paramName).bind fun _ =>
                match insertKvpValues reader state.query.params paramName valueStr paramDesc with
                | none => .error (.unreadable paramName valueStr)
                | some params => .ok
                    { query := { state.query with params }
                      paramNameSet := paramName ::ₘ state.paramNameSet
                      forbidden := paramDesc.conflictsWith.keys.foldl
                        (fun forbidden it => OrderedSet.insert (asciiTolowerCopy it) forbidden)
                        state.forbidden }

/-- `HTTP::Request::getParameterMap`: the parameters in the order of their names. -/
def parameterMap (request : List (ByteString × ByteString)) : Multimap ByteString ByteString :=
  Multimap.empty.insertAll request

/-- `extract_kvp_parameters`. -/
def extractKvpParameters (request : List (ByteString × ByteString)) :
    Except ParamError (StoredQuery ν) := do
  let state ← (parameterMap request).entries.foldlM (extractKvpParameter reader config)
    (.start config)
  config.paramMap.entries.forM fun entry =>
    checkParamMinOccurs (state.paramNameSet.count entry.2.name) entry.2.minOccurs entry.2.name
  return state.query

end

/-! ### What a parameter contributes -/

namespace StoredQueryConfig

variable {config : StoredQueryConfig ν}

/-- The configuration has this description under the name. -/
def Describes (config : StoredQueryConfig ν) (name : ByteString) (desc : ParamDesc ν) : Prop :=
  config.getParamDesc name = .ok (some desc)

/-- No lookup of a description runs into the internal error. -/
def Total (config : StoredQueryConfig ν) : Prop :=
  ∀ name, ∃ paramDesc, config.getParamDesc name = .ok paramDesc

/-- A lookup in a consistent configuration disregards letter case. -/
theorem Consistent.getParamDesc_cases (consistent : config.Consistent) (name : ByteString) :
    (∃ desc, config.Describes name desc ∧ config.Declares desc ∧
      asciiTolowerCopy desc.name = asciiTolowerCopy name) ∨
    (config.getParamDesc name = .ok none ∧ ∀ desc, config.Declares desc →
      asciiTolowerCopy desc.name ≠ asciiTolowerCopy name) := by
  have cased : ∀ desc, config.Declares desc →
      config.caseMap.find (asciiTolowerCopy desc.name) = some desc.name :=
    fun desc declares => (consistent.caseMap _ desc.name).mpr ⟨rfl, desc, declares⟩
  unfold Describes getParamDesc
  by_cases none : config.caseMap.entries = []
  · have noCase : ∀ lower, config.caseMap.find lower = .none := by
      intro lower
      unfold OrderedMap.find
      rw [none]
      rfl
    have noDesc : config.paramMap.find name = .none := by
      cases found : config.paramMap.find name with
      | none => rfl
      | some desc =>
          have stored := (consistent.caseMap _ name).mpr ⟨rfl, desc, found⟩
          cases stored.symm.trans (noCase _)
    refine .inr ⟨by rw [if_pos none, noDesc], fun desc declares _ => ?_⟩
    cases (cased desc declares).symm.trans (noCase _)
  · rw [if_neg none]
    cases located : config.caseMap.find (asciiTolowerCopy name) with
    | none =>
        refine .inr ⟨rfl, fun desc declares same => ?_⟩
        have stored := cased desc declares
        rw [same, located] at stored
        cases stored
    | some realName =>
        obtain ⟨lowered, desc, found⟩ := (consistent.caseMap _ realName).mp located
        have named := consistent.named realName desc found
        refine .inl ⟨desc, by simp only [found], ?_, by rw [named, ← lowered]⟩
        unfold Declares
        rw [named]
        exact found

/-- A consistent configuration describes every name that it knows. -/
theorem Consistent.total (consistent : config.Consistent) : config.Total := by
  intro name
  rcases consistent.getParamDesc_cases name with ⟨desc, describes, _⟩ | ⟨unknown, _⟩
  · exact ⟨some desc, describes⟩
  · exact ⟨none, unknown⟩

/-- Descriptions with equal lower-case names are one. -/
theorem Consistent.unique (consistent : config.Consistent) {desc desc' : ParamDesc ν}
    (declares : config.Declares desc) (declares' : config.Declares desc')
    (same : asciiTolowerCopy desc.name = asciiTolowerCopy desc'.name) : desc = desc' := by
  have stored := (consistent.caseMap _ desc.name).mpr ⟨rfl, desc, declares⟩
  have stored' := (consistent.caseMap _ desc'.name).mpr ⟨rfl, desc', declares'⟩
  rw [same, stored'] at stored
  unfold Declares at declares declares'
  rw [← Option.some.inj stored, declares'] at declares
  exact (Option.some.inj declares).symm

/-- A name has the description of the parameter that is declared under it. -/
theorem Consistent.describes_iff (consistent : config.Consistent) {name : ByteString}
    {desc : ParamDesc ν} : config.Describes name desc ↔
      config.Declares desc ∧ asciiTolowerCopy desc.name = asciiTolowerCopy name := by
  constructor
  · intro describes
    rcases consistent.getParamDesc_cases name with ⟨desc', describes', rest⟩ | ⟨unknown, _⟩
    · cases Except.ok.inj (describes.symm.trans describes')
      exact rest
    · cases Except.ok.inj (describes.symm.trans unknown)
  · intro ⟨declares, same⟩
    rcases consistent.getParamDesc_cases name with ⟨desc', describes', declares', same'⟩ |
      ⟨_, undeclared⟩
    · cases consistent.unique declares declares' (same.trans same'.symm)
      exact describes'
    · exact absurd same (undeclared desc declares)

/-- No parameter forbids its own name. -/
theorem Consistent.not_forbids_self (consistent : config.Consistent) {desc : ParamDesc ν}
    (declares : config.Declares desc) {name : ByteString}
    (same : asciiTolowerCopy desc.name = asciiTolowerCopy name) : ¬ desc.Forbids name := by
  intro forbids
  obtain ⟨other, declaresOther, sameOther, distinct, _⟩ :=
    consistent.conflicts desc declares name forbids
  exact distinct (congrArg ParamDesc.name
    (consistent.unique declaresOther declares (sameOther.trans same.symm)))

end StoredQueryConfig

section

variable (reader : ValueReader ν)

/-- The values of the text, within the limits of the parameter. -/
def kvpValues (paramName valueStr : ByteString) (paramDesc : ParamDesc ν) : Option (List ν) :=
  (if paramDesc.paramDef.isArray then paramDesc.paramDef.readValues reader (valueStr.splitOn 44)
    else (readKvpValue reader paramName valueStr paramDesc.paramDef).map fun value =>
      [value]).filter
    fun values =>
      values.all fun value => reader.checkLimits value paramDesc.lowerLimit paramDesc.upperLimit

variable {reader}

/-- The values are inserted when all of them are within the limits. -/
theorem foldlM_insertChecked (paramName : ByteString) (paramDesc : ParamDesc ν) (values : List ν)
    (params : RequestParameterMap ν) :
    values.foldlM (insertChecked reader paramName paramDesc) params =
      if values.all fun value =>
        reader.checkLimits value paramDesc.lowerLimit paramDesc.upperLimit
      then some (params.insertValues paramName values) else none := by
  induction values generalizing params with
  | nil => rfl
  | cons value values ih =>
      rw [List.foldlM_cons, insertChecked, List.all_cons]
      cases reader.checkLimits value paramDesc.lowerLimit paramDesc.upperLimit with
      | false => rfl
      | true =>
          rw [if_pos rfl, Bool.true_and]
          exact ih (params.insertValue paramName value)

/-- Inserting the values of a text is reading and checking them all first. -/
theorem insertKvpValues_eq (params : RequestParameterMap ν) (paramName valueStr : ByteString)
    (paramDesc : ParamDesc ν) :
    insertKvpValues reader params paramName valueStr paramDesc =
      (kvpValues reader paramName valueStr paramDesc).map (params.insertValues paramName) := by
  unfold insertKvpValues kvpValues
  split
  · cases paramDesc.paramDef.readValues reader (valueStr.splitOn 44) with
    | none => rfl
    | some values =>
        rw [Option.bind_eq_bind, Option.bind_some, foldlM_insertChecked, Option.filter_some]
        split <;> rfl
  · rw [Option.bind_eq_bind]
    cases readKvpValue reader paramName valueStr paramDesc.paramDef with
    | none => rfl
    | some value =>
        rw [Option.bind_some, Option.map_some, Option.filter_some, insertChecked, List.all_cons,
          List.all_nil, Bool.and_true]
        split <;> rfl

/-- The spelling of a name does not matter for its values. -/
theorem kvpValues_congr {paramName paramName' : ByteString}
    (same : asciiTolowerCopy paramName = asciiTolowerCopy paramName') (valueStr : ByteString)
    (paramDesc : ParamDesc ν) :
    kvpValues reader paramName valueStr paramDesc =
      kvpValues reader paramName' valueStr paramDesc := by
  unfold kvpValues readKvpValue
  rw [same]

end

/-! ### When a request passes -/

section

variable (reader : ValueReader ν) (config : StoredQueryConfig ν)

/-- The names and values that a parameter of the request contributes. -/
def contribution (item : ByteString × ByteString) : List (ByteString × ν) :=
  match config.getParamDesc item.1 with
  | .ok (some desc) =>
      ((kvpValues reader item.1 item.2 desc).getD []).map fun value => (item.1, value)
  | _ => []

/-- The parameters that the items contribute. -/
def paramsOf (items : List (ByteString × ByteString)) : RequestParameterMap ν :=
  (items.flatMap (contribution reader config)).foldl
    (fun result entry => result.insertValue entry.1 entry.2) (.empty config.useCaseSensitiveParams)

/-- The conditions on the parameters that are checked one after the other. -/
structure Passes (items : List (ByteString × ByteString)) : Prop where
  readable : ∀ item ∈ items, ∀ desc, config.Describes item.1 desc →
    (kvpValues reader item.1 item.2 desc).isSome = true
  limited : ∀ item ∈ items, ∀ desc, config.Describes item.1 desc →
    ((items.map Prod.fst).count item.1 : Int) ≤ desc.maxOccurs
  compatible : items.Pairwise fun first second => ∀ desc, config.Describes first.1 desc →
    ¬ desc.Forbids second.1

/-- The state in which parameters that pass leave the containers. -/
structure Extracted (items : List (ByteString × ByteString)) (state : ExtractState ν) : Prop where
  passes : Passes reader config items
  counted : ∀ name desc, config.Describes name desc →
    state.paramNameSet.count name = (items.map Prod.fst).count name
  forbidden : ∀ name, state.forbidden.contains name = true ↔
    ∃ item ∈ items, ∃ desc, config.Describes item.1 desc ∧ desc.Forbids name
  params : state.query.params = paramsOf reader config items

/-- A request that is accepted, irrespective of the order of its parameters. -/
structure Admissible (request : List (ByteString × ByteString)) : Prop where
  readable : ∀ item ∈ request, ∀ desc, config.Describes item.1 desc →
    (kvpValues reader item.1 item.2 desc).isSome = true
  limited : ∀ item ∈ request, ∀ desc, config.Describes item.1 desc →
    ((request.map Prod.fst).count item.1 : Int) ≤ desc.maxOccurs
  compatible : ∀ first ∈ request, ∀ second ∈ request, first.1 < second.1 →
    ∀ desc, config.Describes first.1 desc → ¬ desc.Forbids second.1
  enough : ∀ desc, config.Declares desc →
    desc.minOccurs ≤ ((request.map Prod.fst).count desc.name : Int)

end

section

variable {reader : ValueReader ν} {config : StoredQueryConfig ν}

/-- One more item passes when nothing before it forbids it and it forbids nothing before it. -/
theorem passes_append_singleton {items : List (ByteString × ByteString)}
    {item : ByteString × ByteString} :
    Passes reader config (items ++ [item]) ↔ Passes reader config items ∧
      (∀ desc, config.Describes item.1 desc →
        (kvpValues reader item.1 item.2 desc).isSome = true ∧
          ((items.map Prod.fst).count item.1 : Int) + 1 ≤ desc.maxOccurs) ∧
      ∀ earlier ∈ items, ∀ desc, config.Describes earlier.1 desc → ¬ desc.Forbids item.1 := by
  have counts : ∀ name, ((items ++ [item]).map Prod.fst).count name =
      (items.map Prod.fst).count name + if item.1 = name then 1 else 0 := by
    intro name
    rw [List.map_append, List.count_append, List.map_singleton, List.count_singleton]
    simp only [beq_iff_eq]
  constructor
  · intro passes
    obtain ⟨pairs, _, cross⟩ := List.pairwise_append.mp passes.compatible
    refine ⟨⟨fun other member => passes.readable other (List.mem_append_left _ member),
      fun other member desc describes => ?_, pairs⟩, fun desc describes => ⟨?_, ?_⟩,
      fun earlier member => cross earlier member item List.mem_cons_self⟩
    · have bound := passes.limited other (List.mem_append_left _ member) desc describes
      rw [counts] at bound
      push_cast at bound
      omega
    · exact passes.readable item (by simp) desc describes
    · have bound := passes.limited item (by simp) desc describes
      rw [counts, if_pos rfl] at bound
      exact_mod_cast bound
  · intro ⟨passes, own, cross⟩
    refine ⟨fun other member desc describes => ?_, fun other member desc describes => ?_, ?_⟩
    · rcases List.mem_append.mp member with old | new
      · exact passes.readable other old desc describes
      · rw [List.mem_singleton.mp new] at describes ⊢
        exact (own desc describes).1
    · rw [counts]
      by_cases same : item.1 = other.1
      · rw [if_pos same]
        rw [← same] at describes ⊢
        exact_mod_cast (own desc describes).2
      · rw [if_neg same, Nat.add_zero]
        rcases List.mem_append.mp member with old | new
        · exact passes.limited other old desc describes
        · rw [List.mem_singleton.mp new] at same
          exact absurd rfl same
    · refine List.pairwise_append.mpr ⟨passes.compatible, List.pairwise_singleton _ _, ?_⟩
      intro earlier member other isItem
      rw [List.mem_singleton.mp isItem]
      exact cross earlier member

/-- One more item contributes its values. -/
theorem paramsOf_append_singleton (items : List (ByteString × ByteString))
    (item : ByteString × ByteString) :
    paramsOf reader config (items ++ [item]) =
      (contribution reader config item).foldl
        (fun result entry => result.insertValue entry.1 entry.2)
          (paramsOf reader config items) := by
  unfold paramsOf
  rw [List.flatMap_append, List.foldl_append, List.flatMap_singleton]

/-- The forbidden names are those there were and those of the item. -/
theorem insertForbidden_contains (its : List ByteString) (forbidden : OrderedSet ByteString)
    (name : ByteString) :
    OrderedSet.contains (its.foldl
      (fun forbidden it => OrderedSet.insert (asciiTolowerCopy it) forbidden) forbidden) name =
        true ↔ forbidden.contains name = true ∨ ∃ it ∈ its, asciiTolowerCopy it = name := by
  induction its generalizing forbidden with
  | nil => simp
  | cons it its ih =>
      rw [List.foldl_cons, ih, OrderedSet.contains_insert]
      constructor
      · rintro ((rfl | old) | ⟨later, member, same⟩)
        · exact .inr ⟨it, List.mem_cons_self, rfl⟩
        · exact .inl old
        · exact .inr ⟨later, List.mem_cons_of_mem _ member, same⟩
      · rintro (old | ⟨later, member, same⟩)
        · exact .inl (.inr old)
        · rcases List.mem_cons.mp member with rfl | inRest
          · exact .inl (.inl same.symm)
          · exact .inr ⟨later, inRest, same⟩

/-- What is forbidden after a description has been gone through. -/
theorem forbidden_contains_iff (desc : ParamDesc ν) (forbidden : OrderedSet ByteString)
    (name : ByteString) :
    OrderedSet.contains (desc.conflictsWith.keys.foldl
      (fun forbidden it => OrderedSet.insert (asciiTolowerCopy it) forbidden) forbidden) name =
        true ↔ forbidden.contains name = true ∨ desc.Forbids name := by
  refine (insertForbidden_contains _ _ _).trans (or_congr_right ?_)
  constructor
  · rintro ⟨it, member, lowered⟩
    exact ⟨it, OrderedSet.contains_of_mem_keys member, lowered⟩
  · rintro ⟨it, contains, lowered⟩
    exact ⟨it, OrderedMap.mem_keys.mpr ⟨(), OrderedSet.contains_iff.mp contains⟩, lowered⟩

section

variable {items : List (ByteString × ByteString)} {state : ExtractState ν}
  {paramName valueStr : ByteString}

/-- An item that is forbidden does not pass. -/
theorem Extracted.blocked (extracted : Extracted reader config items state)
    (contained : state.forbidden.contains paramName = true) :
    ¬ Passes reader config (items ++ [(paramName, valueStr)]) := by
  intro passes
  obtain ⟨earlier, member, desc, describes, forbids⟩ := (extracted.forbidden paramName).mp contained
  exact (passes_append_singleton.mp passes).2.2 earlier member desc describes forbids

/-- An item that is not forbidden is forbidden by no earlier one. -/
theorem Extracted.free (extracted : Extracted reader config items state)
    (missing : state.forbidden.contains paramName = false) :
    ∀ earlier ∈ items, ∀ desc, config.Describes earlier.1 desc → ¬ desc.Forbids paramName := by
  intro earlier member desc describes forbids
  have contained := (extracted.forbidden paramName).mpr ⟨earlier, member, desc, describes, forbids⟩
  rw [missing] at contained
  cases contained

/-- A parameter that is described is counted and forbids others. -/
theorem Extracted.accept (extracted : Extracted reader config items state)
    (missing : state.forbidden.contains paramName = false) {desc : ParamDesc ν}
    (describes : config.Describes paramName desc)
    (few : ((items.map Prod.fst).count paramName : Int) + 1 ≤ desc.maxOccurs) {values : List ν}
    (isRead : kvpValues reader paramName valueStr desc = some values) :
    Extracted reader config (items ++ [(paramName, valueStr)])
      { query := { state.query with params := state.query.params.insertValues paramName values }
        paramNameSet := paramName ::ₘ state.paramNameSet
        forbidden := desc.conflictsWith.keys.foldl
          (fun forbidden it => OrderedSet.insert (asciiTolowerCopy it) forbidden)
          state.forbidden } := by
  have only : ∀ other, config.Describes paramName other → other = desc := fun other isOther =>
    Option.some.inj (Except.ok.inj (isOther.symm.trans describes))
  have found : config.getParamDesc paramName = .ok (some desc) := describes
  refine ⟨passes_append_singleton.mpr ⟨extracted.passes, ?_, extracted.free missing⟩, ?_, ?_, ?_⟩
  · intro other isOther
    rw [only other isOther, isRead]
    exact ⟨rfl, few⟩
  · intro name other isOther
    change (paramName ::ₘ state.paramNameSet).count name = _
    rw [Multiset.count_cons, extracted.counted name other isOther, List.map_append,
      List.count_append, List.map_singleton, List.count_singleton]
    simp only [beq_iff_eq, @eq_comm _ name]
  · intro name
    refine (forbidden_contains_iff _ _ _).trans ?_
    rw [extracted.forbidden name]
    constructor
    · rintro (⟨earlier, member, old⟩ | forbids)
      · exact ⟨earlier, List.mem_append_left _ member, old⟩
      · exact ⟨_, List.mem_append_right _ List.mem_cons_self, desc, describes, forbids⟩
    · intro ⟨earlier, member, other, isOther, forbids⟩
      rcases List.mem_append.mp member with old | new
      · exact .inl ⟨earlier, old, other, isOther, forbids⟩
      · rw [List.mem_singleton.mp new] at isOther
        rw [only other isOther] at forbids
        exact .inr forbids
  · change state.query.params.insertValues paramName values = _
    rw [paramsOf_append_singleton, extracted.params, contribution, found]
    simp only [isRead, Option.getD_some, List.foldl_map]
    rfl

/-- A parameter that is not described leaves the containers as they are. -/
theorem Extracted.skip (extracted : Extracted reader config items state)
    (missing : state.forbidden.contains paramName = false)
    (unknown : config.getParamDesc paramName = .ok none) (skippedParams : List ByteString) :
    Extracted reader config (items ++ [(paramName, valueStr)])
      { state with query := { state.query with skippedParams } } := by
  have undescribed : ∀ other, ¬ config.Describes paramName other := fun other isOther => by
    cases Except.ok.inj (isOther.symm.trans unknown)
  refine ⟨passes_append_singleton.mpr ⟨extracted.passes,
    fun other isOther => absurd isOther (undescribed other), extracted.free missing⟩, ?_, ?_, ?_⟩
  · intro name other isOther
    refine (extracted.counted name other isOther).trans ?_
    rw [List.map_append, List.count_append, List.map_singleton, List.count_singleton]
    have distinct : paramName ≠ name := by
      rintro rfl
      exact undescribed other isOther
    simp [distinct]
  · intro name
    refine (extracted.forbidden name).trans ⟨?_, ?_⟩
    · intro ⟨earlier, member, old⟩
      exact ⟨earlier, List.mem_append_left _ member, old⟩
    · intro ⟨earlier, member, other, isOther, forbids⟩
      rcases List.mem_append.mp member with old | new
      · exact ⟨earlier, old, other, isOther, forbids⟩
      · rw [List.mem_singleton.mp new] at isOther
        exact absurd isOther (undescribed other)
  · refine extracted.params.trans ?_
    rw [paramsOf_append_singleton, contribution, unknown]
    rfl

end

/-- One more parameter. -/
theorem Extracted.next (total : config.Total) {items : List (ByteString × ByteString)}
    {state : ExtractState ν} (extracted : Extracted reader config items state)
    (item : ByteString × ByteString) :
    (∃ after, extractKvpParameter reader config state item = .ok after ∧
      Extracted reader config (items ++ [item]) after) ∨
    (∃ error, extractKvpParameter reader config state item = .error error ∧
      ¬ Passes reader config (items ++ [item])) := by
  obtain ⟨paramName, valueStr⟩ := item
  obtain ⟨paramDesc, found⟩ := total paramName
  unfold extractKvpParameter
  cases paramDesc with
  | some desc =>
      have describes : config.Describes paramName desc := found
      simp only [found]
      cases contained : state.forbidden.contains paramName with
      | true => exact .inr ⟨_, rfl, extracted.blocked contained⟩
      | false =>
          rw [if_neg Bool.false_ne_true, extracted.counted paramName desc describes]
          by_cases many : desc.maxOccurs < ((items.map Prod.fst).count paramName : Int) + 1
          · right
            refine ⟨.tooMany paramName _ desc.maxOccurs,
              by rw [checkParamMaxOccurs, if_pos many]; rfl, fun passes => ?_⟩
            exact absurd ((passes_append_singleton.mp passes).2.1 desc describes).2
              (Int.not_le.mpr many)
          · rw [checkParamMaxOccurs, if_neg many, insertKvpValues_eq]
            cases values : kvpValues reader paramName valueStr desc with
            | none =>
                right
                refine ⟨.unreadable paramName valueStr, rfl, fun passes => ?_⟩
                have readable := ((passes_append_singleton.mp passes).2.1 desc describes).1
                rw [values] at readable
                cases readable
            | some values' =>
                exact .inl ⟨_, rfl,
                  extracted.accept contained describes (Int.not_lt.mp many) values⟩
  | none =>
      simp only [found]
      cases contained : state.forbidden.contains paramName with
      | true => exact .inr ⟨_, rfl, extracted.blocked contained⟩
      | false => exact .inl ⟨_, rfl, extracted.skip contained found _⟩

/-- The extraction starts with no items. -/
theorem extracted_start : Extracted reader config [] (.start config) where
  passes := ⟨nofun, nofun, .nil⟩
  counted _ _ _ := rfl
  forbidden name := by
    constructor
    · nofun
    · intro ⟨item, member, _⟩
      cases member
  params := rfl

/-- The loop over the parameters. -/
theorem extractKvpParameter_foldlM (total : config.Total)
    (items : List (ByteString × ByteString)) :
    (∃ state, items.foldlM (extractKvpParameter reader config) (.start config) = .ok state ∧
      Extracted reader config items state) ∨
    (∃ error, items.foldlM (extractKvpParameter reader config) (.start config) = .error error ∧
      ¬ Passes reader config items) := by
  induction items using List.reverseRecOn with
  | nil => exact .inl ⟨_, rfl, extracted_start⟩
  | append_singleton items item ih =>
      rw [List.foldlM_append]
      rcases ih with ⟨state, ran, extracted⟩ | ⟨error, failed, fails⟩
      · rw [ran]
        change (∃ after, (extractKvpParameter reader config state item >>= pure) = .ok after ∧ _) ∨
          ∃ error, (extractKvpParameter reader config state item >>= pure) = .error error ∧ _
        rw [bind_pure]
        exact extracted.next total item
      · rw [failed]
        exact .inr ⟨error, rfl, fun passes => fails (passes_append_singleton.mp passes).1⟩

/-- The least numbers are checked one after the other. -/
theorem forM_checkParamMinOccurs (entries : List (ByteString × ParamDesc ν))
    (count : ByteString → Int) :
    (entries.forM (fun entry =>
        checkParamMinOccurs (count entry.2.name) entry.2.minOccurs entry.2.name) = .ok () ∧
      ∀ entry ∈ entries, entry.2.minOccurs ≤ count entry.2.name) ∨
    (∃ error, entries.forM (fun entry =>
        checkParamMinOccurs (count entry.2.name) entry.2.minOccurs entry.2.name) = .error error ∧
      ¬ ∀ entry ∈ entries, entry.2.minOccurs ≤ count entry.2.name) := by
  induction entries with
  | nil => exact .inl ⟨rfl, nofun⟩
  | cons entry entries ih =>
      have unfolded : (entry :: entries).forM (fun entry =>
          checkParamMinOccurs (count entry.2.name) entry.2.minOccurs entry.2.name) =
        checkParamMinOccurs (count entry.2.name) entry.2.minOccurs entry.2.name >>= fun _ =>
          entries.forM fun entry =>
            checkParamMinOccurs (count entry.2.name) entry.2.minOccurs entry.2.name := rfl
      rw [unfolded]
      by_cases few : count entry.2.name < entry.2.minOccurs
      · right
        refine ⟨_, by rw [checkParamMinOccurs, if_pos few]; rfl, fun enough => ?_⟩
        exact absurd (enough entry List.mem_cons_self) (Int.not_le.mpr few)
      · rw [checkParamMinOccurs, if_neg few]
        rcases ih with ⟨ran, enough⟩ | ⟨error, failed, fails⟩
        · refine .inl ⟨ran, fun other member => ?_⟩
          rcases List.mem_cons.mp member with rfl | inRest
          · exact Int.not_lt.mp few
          · exact enough other inRest
        · exact .inr ⟨error, failed,
            fun enough => fails fun other member => enough other (List.mem_cons_of_mem _ member)⟩

/-- In the order of their names parameters pass when no name forbids a later one. -/
theorem pairwise_iff_of_sorted (consistent : config.Consistent)
    {items : List (ByteString × ByteString)}
    (sorted : items.Pairwise fun first second => first.1 ≤ second.1) :
    (items.Pairwise fun first second => ∀ desc, config.Describes first.1 desc →
      ¬ desc.Forbids second.1) ↔
    ∀ first ∈ items, ∀ second ∈ items, first.1 < second.1 →
      ∀ desc, config.Describes first.1 desc → ¬ desc.Forbids second.1 := by
  constructor
  · intro pairs
    induction items with
    | nil => nofun
    | cons item items ih =>
        obtain ⟨headLeast, restSorted⟩ := List.pairwise_cons.mp sorted
        obtain ⟨headPairs, restPairs⟩ := List.pairwise_cons.mp pairs
        intro first memFirst second memSecond below
        rcases List.mem_cons.mp memFirst with rfl | firstInRest
        · rcases List.mem_cons.mp memSecond with rfl | secondInRest
          · exact absurd below (lt_irrefl _)
          · exact headPairs second secondInRest
        · rcases List.mem_cons.mp memSecond with rfl | secondInRest
          · exact absurd (headLeast first firstInRest) (not_le.mpr below)
          · exact ih restSorted restPairs first firstInRest second secondInRest below
  · intro ordered
    refine sorted.imp_of_mem fun {first second} memFirst memSecond notAbove desc describes => ?_
    rcases lt_or_eq_of_le notAbove with below | same
    · exact ordered first memFirst second memSecond below desc describes
    · obtain ⟨declares, sameLower⟩ := consistent.describes_iff.mp describes
      rw [← same]
      exact consistent.not_forbids_self declares sameLower

/-- The parameters are the items of the request in the order of their names. -/
theorem parameterMap_perm (request : List (ByteString × ByteString)) :
    (parameterMap request).entries.Perm request := by
  have start := Multimap.insertAll_perm request (.empty : Multimap ByteString ByteString)
  exact start.trans (by rw [Multimap.empty, List.append_nil])

/-- A request is admissible when its parameters pass in the order of their names and
the mandatory ones are there. -/
theorem admissible_iff (consistent : config.Consistent)
    (request : List (ByteString × ByteString)) :
    Admissible reader config request ↔
      Passes reader config (parameterMap request).entries ∧
        ∀ desc, config.Declares desc →
          desc.minOccurs ≤
            (((parameterMap request).entries.map Prod.fst).count desc.name : Int) := by
  have perm := parameterMap_perm request
  have sorted := pairwise_iff_of_sorted consistent (parameterMap request).sorted
  have counts : ∀ name, ((parameterMap request).entries.map Prod.fst).count name =
      (request.map Prod.fst).count name := fun name => (perm.map Prod.fst).count_eq name
  constructor
  · intro admissible
    refine ⟨⟨fun item member => admissible.readable item (perm.mem_iff.mp member),
      fun item member => ?_, sorted.mpr fun first memFirst second memSecond =>
        admissible.compatible first (perm.mem_iff.mp memFirst) second (perm.mem_iff.mp memSecond)⟩,
      fun desc declares => ?_⟩
    · rw [counts]
      exact admissible.limited item (perm.mem_iff.mp member)
    · rw [counts]
      exact admissible.enough desc declares
  · intro ⟨passes, enough⟩
    refine ⟨fun item member => passes.readable item (perm.mem_iff.mpr member),
      fun item member => ?_, fun first memFirst second memSecond =>
        sorted.mp passes.compatible first (perm.mem_iff.mpr memFirst) second
          (perm.mem_iff.mpr memSecond), fun desc declares => ?_⟩
    · rw [← counts]
      exact passes.limited item (perm.mem_iff.mpr member)
    · rw [← counts]
      exact enough desc declares

/-- After the loop only the mandatory parameters are looked at. -/
theorem extractKvpParameters_of_ran {request : List (ByteString × ByteString)}
    {state : ExtractState ν}
    (ran : (parameterMap request).entries.foldlM (extractKvpParameter reader config)
      (.start config) = .ok state) :
    extractKvpParameters reader config request =
      (config.paramMap.entries.forM fun entry =>
        checkParamMinOccurs (state.paramNameSet.count entry.2.name) entry.2.minOccurs
          entry.2.name).map fun _ => state.query := by
  rw [extractKvpParameters, ran]
  rfl

/-- `extract_kvp_parameters` accepts the admissible requests and no others. -/
theorem extractKvpParameters_spec (consistent : config.Consistent)
    (request : List (ByteString × ByteString)) :
    (Admissible reader config request ∧ ∃ query,
      extractKvpParameters reader config request = .ok query ∧
        query.params = paramsOf reader config (parameterMap request).entries) ∨
    (¬ Admissible reader config request ∧ ∃ error,
      extractKvpParameters reader config request = .error error) := by
  rw [admissible_iff consistent]
  rcases extractKvpParameter_foldlM consistent.total (parameterMap request).entries with
    ⟨state, ran, extracted⟩ | ⟨error, failed, fails⟩
  · rw [extractKvpParameters_of_ran ran]
    have declared : ∀ desc, config.Declares desc ↔
        ∃ entry ∈ config.paramMap.entries, entry.2 = desc := by
      intro desc
      constructor
      · intro declares
        exact ⟨(desc.name, desc), OrderedMap.find_eq_some.mp declares, rfl⟩
      · rintro ⟨⟨name, _⟩, member, rfl⟩
        have found := OrderedMap.find_eq_some.mpr member
        unfold StoredQueryConfig.Declares
        rw [consistent.named _ _ found]
        exact found
    have counts : ∀ desc, config.Declares desc → state.paramNameSet.count desc.name =
        ((parameterMap request).entries.map Prod.fst).count desc.name := fun desc declares =>
      extracted.counted desc.name desc (consistent.describes_iff.mpr ⟨declares, rfl⟩)
    have all : (∀ desc, config.Declares desc → desc.minOccurs ≤
          (((parameterMap request).entries.map Prod.fst).count desc.name : Int)) ↔
        ∀ entry ∈ config.paramMap.entries,
          entry.2.minOccurs ≤ (state.paramNameSet.count entry.2.name : Int) := by
      constructor
      · intro enough entry member
        have declares := (declared entry.2).mpr ⟨entry, member, rfl⟩
        rw [counts entry.2 declares]
        exact enough entry.2 declares
      · intro enough desc declares
        obtain ⟨entry, member, rfl⟩ := (declared desc).mp declares
        rw [← counts entry.2 declares]
        exact enough entry member
    rcases forM_checkParamMinOccurs config.paramMap.entries
        (fun name => (state.paramNameSet.count name : Int)) with ⟨checked, enough⟩ |
      ⟨error, failed, few⟩
    · left
      refine ⟨⟨extracted.passes, all.mpr enough⟩, state.query, ?_, extracted.params⟩
      rw [checked]
      rfl
    · right
      refine ⟨fun ⟨_, enough⟩ => few (all.mp enough), error, ?_⟩
      rw [failed]
      rfl
  · refine .inr ⟨fun ⟨passes, _⟩ => fails passes, error, ?_⟩
    rw [extractKvpParameters, failed]
    rfl

end

end SmartMetWfs.Parameters
