import SmartMetWfs.Parameters.Conflicts
import SmartMetWfs.Parameters.XmlParameters
import Mathlib.Data.List.Pairwise

/-!
# Requests and the declarations of parameters

A request respects the declarations when every parameter is given as often as declared and
no two conflicting parameters are given, names being compared as the naming mode
prescribes. The two extractions compare names otherwise: they count a name as it is spelt,
and look it up as it is spelt among lower-case ones. So an accepted request respects the
declarations exactly when its spellings let the checks see what they should.
-/

namespace SmartMetWfs.Parameters

open Foundation Xml StoredQueryConfig

variable {ν : Type}

/-! ### What is declared -/

/-- How many of the names are those of the parameter. -/
def timesGiven (caseSensitive : Bool) (item : ParamDesc ν) (names : List ByteString) : Nat :=
  names.countP fun name => SameName caseSensitive item.name name

/-- The first parameter is configured to conflict with the second one. -/
def ConflictsWith (caseSensitive : Bool) (item other : ParamDesc ν) : Prop :=
  ∃ it, item.conflictsWith.contains it = true ∧ SameName caseSensitive it other.name

/-- One of the parameters is configured to conflict with the other one. -/
def Related (caseSensitive : Bool) (item other : ParamDesc ν) : Prop :=
  ConflictsWith caseSensitive item other ∨ ConflictsWith caseSensitive other item

/-- Each parameter occurs as often as it may, and none beside one that it conflicts with. -/
structure Respects (caseSensitive : Bool) (items : List (ParamDesc ν)) (names : List ByteString) :
    Prop where
  enough : ∀ item ∈ items, item.minOccurs ≤ (timesGiven caseSensitive item names : Int)
  limited : ∀ item ∈ items, (timesGiven caseSensitive item names : Int) ≤ item.maxOccurs
  compatible : ∀ item ∈ items, ∀ other ∈ items, item ≠ other → Related caseSensitive item other →
    timesGiven caseSensitive item names = 0 ∨ timesGiven caseSensitive other names = 0

/-- The spellings of two names given in this order let the check see that the item, whose
name the first one is, conflicts with the parameter of the second one. -/
def Noticed (caseSensitive : Bool) (item : ParamDesc ν) (earlier later : ByteString) : Prop :=
  asciiTolowerCopy later = later ∧ (caseSensitive = false ∨ asciiTolowerCopy earlier = earlier ∨
    ∃ it, item.conflictsWith.contains it = true ∧ asciiTolowerCopy it = later)

/-- The names are spelt such that the checks of occurrences and conflicts see what they
should. A parameter is never given a negative number of times, but may be declared so. -/
structure WellSpelt (caseSensitive : Bool) (items : List (ParamDesc ν)) (names : List ByteString) :
    Prop where
  notGiven : ∀ item ∈ items, timesGiven caseSensitive item names = 0 → 0 ≤ item.maxOccurs
  spellings : ∀ item ∈ items, ∀ name ∈ names, ∀ name' ∈ names,
    SameName caseSensitive item.name name → SameName caseSensitive item.name name' → name ≠ name' →
      (timesGiven caseSensitive item names : Int) ≤ item.maxOccurs
  noticed : names.Pairwise fun earlier later => ∀ item ∈ items, ∀ other ∈ items, item ≠ other →
    SameName caseSensitive item.name earlier → SameName caseSensitive other.name later →
      Related caseSensitive item other → Noticed caseSensitive item earlier later

section

variable {caseSensitive : Bool} {items : List (ParamDesc ν)} {config : StoredQueryConfig ν}

theorem Related.symm {item other : ParamDesc ν} (related : Related caseSensitive item other) :
    Related caseSensitive other item :=
  Or.symm related

/-- A parameter is not given when no name is its own. -/
theorem timesGiven_eq_zero {item : ParamDesc ν} {names : List ByteString} :
    timesGiven caseSensitive item names = 0 ↔
      ∀ name ∈ names, ¬ SameName caseSensitive item.name name := by
  simp [timesGiven, List.countP_eq_zero]

/-- Its own spelling is one of those that count. -/
theorem count_le_timesGiven (item : ParamDesc ν) (names : List ByteString) :
    names.count item.name ≤ timesGiven caseSensitive item names := by
  apply List.countP_mono_left
  intro name _ isName
  rw [eq_of_beq isName]
  exact decide_eq_true rfl

/-- A parameter that is given in one spelling is counted by it. -/
theorem timesGiven_of_oneSpelling {item : ParamDesc ν} {names : List ByteString}
    {spelling : ByteString} (same : SameName caseSensitive item.name spelling)
    (only : ∀ name ∈ names, SameName caseSensitive item.name name → spelling = name) :
    timesGiven caseSensitive item names = names.count spelling := by
  apply List.countP_congr
  intro name member
  rw [decide_eq_true_eq, beq_iff_eq]
  constructor
  · exact fun isName => (only name member isName).symm
  · rintro rfl
    exact same

/-! ### Which conflicts are seen -/

/-- A given parameter forbids the name of one that it is related to exactly if the conflict
can be noticed. -/
theorem forbids_iff_noticed (parsedFrom : ParsedFrom caseSensitive items config)
    {item other : ParamDesc ν} (member : item ∈ items) (memberOther : other ∈ items)
    (related : Related caseSensitive item other) {earlier later : ByteString}
    (isEarlier : SameName caseSensitive item.name earlier)
    (isLater : SameName caseSensitive other.name later) {desc : ParamDesc ν}
    (describes : config.Describes earlier desc) :
    desc.Forbids later ↔ Noticed caseSensitive item earlier later := by
  obtain ⟨item', member', same', completes⟩ := parsedFrom.described earlier desc describes
  cases parsedFrom.unique item' member' item member (same'.trans isEarlier.symm)
  constructor
  · rintro ⟨it, contained, rfl⟩
    refine ⟨asciiTolowerCopy_idempotent it, ?_⟩
    rcases completes.added it contained with configured | lowered
    · exact .inr (.inr ⟨it, configured, rfl⟩)
    · cases caseSensitive with
      | false => exact .inl rfl
      | true =>
          have isName : item.name = earlier := isEarlier
          rw [isName] at lowered
          exact .inr (.inl lowered)
  · rintro ⟨lowered, seen⟩
    have direct : ∀ it, item.conflictsWith.contains it = true → asciiTolowerCopy it = later →
        desc.Forbids later :=
      fun it contained isLowered => ⟨it, completes.kept it contained, isLowered⟩
    have sameLower : asciiTolowerCopy other.name = later := isLater.lower.trans lowered
    rcases related with ⟨it, contained, sameName⟩ | ⟨it, contained, sameName⟩
    · exact direct it contained (sameName.lower.trans sameLower)
    · -- The other side of the conflict is in the description of the lower-case name.
      have reversed : SameName caseSensitive (asciiTolowerCopy it) item.name →
          desc.Forbids later := by
        intro sameKey
        obtain ⟨target, _, isNamed, conflicts⟩ := parsedFrom.reverse other memberOther it contained
        refine ⟨other.name, conflicts earlier desc ?_ describes, sameLower⟩
        rw [isNamed]
        exact sameKey.trans isEarlier
      rcases seen with rfl | lowerEarlier | ⟨it', contained', isLowered⟩
      · apply reversed
        have sameKey : asciiTolowerCopy it = asciiTolowerCopy item.name := sameName
        exact (asciiTolowerCopy_idempotent it).trans sameKey
      · have sameLowered := sameName.lower.trans isEarlier.lower
        apply reversed
        rw [sameLowered, lowerEarlier]
        exact isEarlier.symm
      · exact direct it' contained' isLowered

/-! ### What the checks establish -/

/-- The names are not those of two related parameters. -/
def Apart (caseSensitive : Bool) (items : List (ParamDesc ν)) (name name' : ByteString) : Prop :=
  ∀ item ∈ items, ∀ other ∈ items, item ≠ other → Related caseSensitive item other →
    ¬ (SameName caseSensitive item.name name ∧ SameName caseSensitive other.name name')

instance : Std.Symm (Apart caseSensitive items) where
  symm _ _ apart item member other memberOther distinct related both :=
    apart other memberOther item member distinct.symm related.symm both.symm

/-- No two related parameters are given if no two of the names are theirs. -/
theorem compatible_of_apart (parsedFrom : ParsedFrom caseSensitive items config)
    {names : List ByteString} (apart : names.Pairwise (Apart caseSensitive items))
    (item : ParamDesc ν) (member : item ∈ items) (other : ParamDesc ν) (memberOther : other ∈ items)
    (distinct : item ≠ other) (related : Related caseSensitive item other) :
    timesGiven caseSensitive item names = 0 ∨ timesGiven caseSensitive other names = 0 := by
  rw [timesGiven_eq_zero, timesGiven_eq_zero]
  by_contra both
  push Not at both
  obtain ⟨⟨name, given, isName⟩, name', given', isName'⟩ := both
  have different : name ≠ name' := by
    rintro rfl
    exact distinct (parsedFrom.unique item member other memberOther (isName.trans isName'.symm))
  exact apart.forall given given' different item member other memberOther distinct related
    ⟨isName, isName'⟩

/-- What the checks of the given names have established, and what they have recorded. -/
structure Checked (config : StoredQueryConfig ν) (names : List ByteString)
    (state : ExtractState ν) :
    Prop where
  counted : ∀ name desc, config.Describes name desc →
    state.paramNameSet.count name = names.count name
  forbidden : ∀ name, state.forbidden.contains name = true ↔
    ∃ earlier ∈ names, ∃ desc, config.Describes earlier desc ∧ desc.Forbids name
  limited : ∀ name ∈ names, ∀ desc, config.Describes name desc →
    (names.count name : Int) ≤ desc.maxOccurs
  compatible : names.Pairwise fun earlier later => ∀ desc desc', config.Describes earlier desc →
    config.Describes later desc' → ¬ desc.Forbids later

/-- Names that have passed the checks respect the declarations exactly when they are well
spelt. -/
theorem respects_iff_wellSpelt (parsedFrom : ParsedFrom caseSensitive items config)
    {names : List ByteString} {state : ExtractState ν} (checked : Checked config names state)
    (enough : ∀ item ∈ items, item.minOccurs ≤ (names.count item.name : Int)) :
    Respects caseSensitive items names ↔ WellSpelt caseSensitive items names := by
  constructor
  · intro respects
    refine ⟨fun item member none => ?_, fun item member _ _ _ _ _ _ _ =>
      respects.limited item member, ?_⟩
    · have bound := respects.limited item member
      rw [none] at bound
      exact bound
    · refine List.pairwise_of_forall_mem_list fun earlier memEarlier later memLater => ?_
      intro item member other memberOther distinct isEarlier isLater related
      rcases respects.compatible item member other memberOther distinct related with none | none
      · exact absurd isEarlier (timesGiven_eq_zero.mp none earlier memEarlier)
      · exact absurd isLater (timesGiven_eq_zero.mp none later memLater)
  · intro wellSpelt
    refine ⟨fun item member => ?_, fun item member => ?_, ?_⟩
    · have counted := Int.ofNat_le.mpr (@count_le_timesGiven _ caseSensitive item names)
      exact Int.le_trans (enough item member) counted
    · by_cases none : timesGiven caseSensitive item names = 0
      · rw [none]
        exact wellSpelt.notGiven item member none
      · obtain ⟨spelling, given, isName⟩ :
            ∃ name ∈ names, SameName caseSensitive item.name name := by
          simpa [timesGiven_eq_zero] using none
        by_cases only : ∀ name ∈ names, SameName caseSensitive item.name name → spelling = name
        · obtain ⟨desc, describes, completes⟩ := parsedFrom.describes item member spelling isName
          rw [timesGiven_of_oneSpelling isName only, ← completes.maxOccurs]
          exact checked.limited spelling given desc describes
        · push Not at only
          obtain ⟨name, given', isName', distinct⟩ := only
          exact wellSpelt.spellings item member spelling given name given' isName isName' distinct
    · refine compatible_of_apart parsedFrom ?_
      refine checked.compatible.imp₂ (fun earlier later free noticed => ?_) wellSpelt.noticed
      intro item member other memberOther distinct related ⟨isEarlier, isLater⟩
      obtain ⟨desc, describes, _⟩ := parsedFrom.describes item member earlier isEarlier
      obtain ⟨desc', describes', _⟩ := parsedFrom.describes other memberOther later isLater
      apply free desc desc' describes describes'
      rw [forbids_iff_noticed parsedFrom member memberOther related isEarlier isLater describes]
      exact noticed item member other memberOther distinct isEarlier isLater related

/-! ### The loops -/

/-- A name without a description changes nothing. -/
theorem Checked.append_undescribed {names : List ByteString} {state after : ExtractState ν}
    (checked : Checked config names state) {name : ByteString}
    (unknown : config.getParamDesc name = .ok none)
    (sameNames : after.paramNameSet = state.paramNameSet)
    (sameForbidden : after.forbidden = state.forbidden) :
    Checked config (names ++ [name]) after := by
  have undescribed : ∀ desc, ¬ config.Describes name desc := fun desc describes => by
    cases Except.ok.inj (describes.symm.trans unknown)
  have counts : ∀ other desc, config.Describes other desc →
      (names ++ [name]).count other = names.count other := by
    intro other desc describes
    have distinct : name ≠ other := by
      rintro rfl
      exact undescribed desc describes
    simp [List.count_append, distinct]
  refine ⟨fun other desc describes => ?_, fun other => ?_, fun other member desc describes => ?_,
    List.pairwise_append.mpr ⟨checked.compatible, List.pairwise_singleton _ _, ?_⟩⟩
  · rw [sameNames, counts other desc describes]
    exact checked.counted other desc describes
  · rw [sameForbidden, checked.forbidden other]
    constructor
    · intro ⟨earlier, member, rest⟩
      exact ⟨earlier, List.mem_append_left _ member, rest⟩
    · intro ⟨earlier, member, desc, describes, forbids⟩
      rcases List.mem_append.mp member with old | new
      · exact ⟨earlier, old, desc, describes, forbids⟩
      · rw [List.mem_singleton.mp new] at describes
        exact absurd describes (undescribed desc)
  · rw [counts other desc describes]
    rcases List.mem_append.mp member with old | new
    · exact checked.limited other old desc describes
    · rw [List.mem_singleton.mp new] at describes
      exact absurd describes (undescribed desc)
  · intro earlier _ later isLater desc desc' _ describes'
    rw [List.mem_singleton.mp isLater] at describes'
    exact absurd describes' (undescribed desc')

/-- A name with a description that passes the checks is counted, and forbids others. -/
theorem Checked.append_described {names : List ByteString} {state after : ExtractState ν}
    (checked : Checked config names state) {name : ByteString} {desc : ParamDesc ν}
    (describes : config.Describes name desc) (free : state.forbidden.contains name = false)
    (few : (state.paramNameSet.count name : Int) + 1 ≤ desc.maxOccurs)
    (counted : after.paramNameSet = name ::ₘ state.paramNameSet)
    (forbids : ∀ other, after.forbidden.contains other = true ↔
      state.forbidden.contains other = true ∨ desc.Forbids other) :
    Checked config (names ++ [name]) after := by
  have only : ∀ desc', config.Describes name desc' → desc' = desc := fun desc' describes' =>
    Option.some.inj (Except.ok.inj (describes'.symm.trans describes))
  have counts : ∀ other, (names ++ [name]).count other =
      names.count other + if name = other then 1 else 0 := by
    intro other
    rw [List.count_append, List.count_singleton]
    simp only [beq_iff_eq]
  refine ⟨fun other desc' describes' => ?_, fun other => ?_,
    fun other member desc' describes' => ?_,
    List.pairwise_append.mpr ⟨checked.compatible, List.pairwise_singleton _ _, ?_⟩⟩
  · rw [counted, Multiset.count_cons, checked.counted other desc' describes', counts]
    simp only [@eq_comm _ other]
  · rw [forbids other, checked.forbidden other]
    constructor
    · rintro (⟨earlier, member, rest⟩ | isForbidden)
      · exact ⟨earlier, List.mem_append_left _ member, rest⟩
      · exact ⟨name, List.mem_append_right _ List.mem_cons_self, desc, describes, isForbidden⟩
    · intro ⟨earlier, member, desc', describes', isForbidden⟩
      rcases List.mem_append.mp member with old | new
      · exact .inl ⟨earlier, old, desc', describes', isForbidden⟩
      · rw [List.mem_singleton.mp new] at describes'
        rw [only desc' describes'] at isForbidden
        exact .inr isForbidden
  · rw [counts]
    by_cases same : name = other
    · rw [← same] at describes' ⊢
      rw [if_pos rfl, only desc' describes', ← checked.counted name desc describes]
      exact_mod_cast few
    · rw [if_neg same]
      rcases List.mem_append.mp member with old | new
      · exact checked.limited other old desc' describes'
      · exact absurd (List.mem_singleton.mp new).symm same
  · intro earlier member later isLater desc' _ describes' _ isForbidden
    rw [List.mem_singleton.mp isLater] at isForbidden
    have contained := (checked.forbidden name).mpr ⟨earlier, member, desc', describes', isForbidden⟩
    rw [free] at contained
    cases contained

/-- Enough occurrences are counted of each parameter. -/
theorem enough_of_checked (parsedFrom : ParsedFrom caseSensitive items config)
    {names : List ByteString} {state : ExtractState ν} (checked : Checked config names state)
    (ran : (config.paramMap.entries.forM fun entry => checkParamMinOccurs
      (state.paramNameSet.count entry.2.name) entry.2.minOccurs entry.2.name) = .ok ()) :
    ∀ item ∈ items, item.minOccurs ≤ (names.count item.name : Int) := by
  intro item member
  obtain ⟨desc, stored, completes⟩ := parsedFrom.stored item member
  obtain ⟨desc', describes, _⟩ := parsedFrom.describes item member item.name rfl
  rw [← checked.counted item.name desc' describes, ← completes.minOccurs, ← completes.name]
  rcases forM_checkParamMinOccurs config.paramMap.entries
      (fun name => (state.paramNameSet.count name : Int)) with ⟨_, enough⟩ | ⟨error, failed, _⟩
  · exact enough (item.name, desc) (OrderedMap.find_eq_some.mp stored)
  · cases ran.symm.trans failed

end

section

variable {reader : ValueReader ν} {config : StoredQueryConfig ν}

/-- The names of a request in the order in which they are gone through. -/
def kvpNames (request : List (ByteString × ByteString)) : List ByteString :=
  (parameterMap request).entries.map Prod.fst

/-- The counters of an extraction are those of the names. -/
theorem Extracted.checked {items : List (ByteString × ByteString)} {state : ExtractState ν}
    (extracted : Extracted reader config items state) :
    Checked config (items.map Prod.fst) state where
  counted := extracted.counted
  forbidden name := by
    rw [extracted.forbidden name]
    simp only [List.mem_map, exists_exists_and_eq_and]
  limited name member desc describes := by
    obtain ⟨item, inItems, rfl⟩ := List.mem_map.mp member
    exact extracted.passes.limited item inItems desc describes
  compatible := by
    rw [List.pairwise_map]
    exact extracted.passes.compatible.imp fun free desc _ describes _ => free desc describes

/-- A request that is accepted passes the checks of its names. -/
theorem extractKvpParameters_checked (total : config.Total)
    {request : List (ByteString × ByteString)} {query : StoredQuery ν}
    (accepted : extractKvpParameters reader config request = .ok query) :
    ∃ state, Checked config (kvpNames request) state ∧
      (config.paramMap.entries.forM fun entry => checkParamMinOccurs
        (state.paramNameSet.count entry.2.name) entry.2.minOccurs entry.2.name) = .ok () := by
  obtain ⟨state, ran, rest⟩ := ok_of_bind accepted
  obtain ⟨_, enough, _⟩ := ok_of_bind rest
  rcases extractKvpParameter_foldlM total (parameterMap request).entries with
    ⟨state', ran', extracted⟩ | ⟨error, failed, _⟩
  · cases ran.symm.trans ran'
    exact ⟨state, extracted.checked, enough⟩
  · cases ran.symm.trans failed

/-! ### Descriptions that are not there -/

/-- The name comes after parameters that pass and one of them forbids it, but it has no
description. -/
def ForbidsUndescribed (reader : ValueReader ν) (config : StoredQueryConfig ν)
    (request : List (ByteString × ByteString)) (name : ByteString) : Prop :=
  ∃ before valueStr after, (parameterMap request).entries = before ++ (name, valueStr) :: after ∧
    Passes reader config before ∧ config.getParamDesc name = .ok none ∧
      ∃ earlier ∈ before, ∃ desc, config.Describes earlier.1 desc ∧ desc.Forbids name

/-- Where a description is missing it is that of the name. -/
theorem extractKvpParameter_nullDescription {state : ExtractState ν}
    {paramName valueStr name : ByteString} :
    extractKvpParameter reader config state (paramName, valueStr) =
        .error (.nullDescription name) ↔
      paramName = name ∧ config.getParamDesc name = .ok none ∧
        state.forbidden.contains name = true := by
  unfold extractKvpParameter
  constructor
  · intro failed
    cases found : config.getParamDesc paramName with
    | error realName =>
        simp only [found] at failed
        cases failed
    | ok paramDesc =>
        simp only [found] at failed
        cases contained : state.forbidden.contains paramName with
        | true =>
            rw [contained, if_pos rfl] at failed
            cases paramDesc with
            | some desc => cases failed
            | none =>
                cases failed
                exact ⟨rfl, found, contained⟩
        | false =>
            rw [contained, if_neg Bool.false_ne_true] at failed
            cases paramDesc with
            | none => cases failed
            | some desc =>
                dsimp only at failed
                unfold checkParamMaxOccurs at failed
                split at failed
                · cases failed
                · simp only [Except.bind] at failed
                  split at failed
                  · cases failed
                  · cases failed
  · rintro ⟨rfl, unknown, contained⟩
    simp only [unknown, contained, if_true]
    rfl

/-- What occurs too rarely is a parameter of the configuration. -/
theorem forM_checkParamMinOccurs_error {entries : List (ByteString × ParamDesc ν)}
    {count : ByteString → Int} {name : ByteString} :
    (entries.forM fun entry =>
      checkParamMinOccurs (count entry.2.name) entry.2.minOccurs entry.2.name) ≠
        .error (.nullDescription name) := by
  induction entries with
  | nil => exact nofun
  | cons entry entries ih =>
      change (checkParamMinOccurs (count entry.2.name) entry.2.minOccurs entry.2.name >>= fun _ =>
        entries.forM fun entry =>
          checkParamMinOccurs (count entry.2.name) entry.2.minOccurs entry.2.name) ≠ _
      unfold checkParamMinOccurs
      split
      · exact nofun
      · exact ih

/-- When `extract_kvp_parameters` uses a description that is not there. -/
theorem nullDescription_iff (total : config.Total) (request : List (ByteString × ByteString))
    (name : ByteString) :
    extractKvpParameters reader config request = .error (.nullDescription name) ↔
      ForbidsUndescribed reader config request name := by
  have inLoop : extractKvpParameters reader config request = .error (.nullDescription name) ↔
      (parameterMap request).entries.foldlM (extractKvpParameter reader config) (.start config) =
        .error (.nullDescription name) := by
    cases ran : (parameterMap request).entries.foldlM (extractKvpParameter reader config)
        (.start config) with
    | error failure =>
        unfold extractKvpParameters
        rw [ran]
        constructor
        · rintro ⟨rfl⟩
          rfl
        · rintro ⟨rfl⟩
          rfl
    | ok state =>
        refine ⟨fun failed => ?_, nofun⟩
        rw [extractKvpParameters_of_ran ran] at failed
        have sound := @forM_checkParamMinOccurs_error _ config.paramMap.entries
          (fun name => (state.paramNameSet.count name : Int)) name
        cases checked : config.paramMap.entries.forM fun entry => checkParamMinOccurs
            (state.paramNameSet.count entry.2.name) entry.2.minOccurs entry.2.name with
        | ok _ =>
            rw [checked] at failed
            cases failed
        | error failure =>
            rw [checked] at failed
            cases failed
            exact absurd checked sound
  rw [inLoop, foldlM_eq_error]
  constructor
  · rintro ⟨before, ⟨paramName, valueStr⟩, after, state, split, ran, failed⟩
    obtain ⟨rfl, unknown, contained⟩ := extractKvpParameter_nullDescription.mp failed
    rcases extractKvpParameter_foldlM total before with ⟨state', ran', extracted⟩ |
      ⟨error, failed', _⟩
    · cases ran.symm.trans ran'
      exact ⟨before, valueStr, after, split, extracted.passes, unknown,
        (extracted.forbidden paramName).mp contained⟩
    · cases ran.symm.trans failed'
  · rintro ⟨before, valueStr, after, split, passes, unknown, forbidden⟩
    rcases extractKvpParameter_foldlM total before with ⟨state, ran, extracted⟩ |
      ⟨error, _, fails⟩
    · exact ⟨before, _, after, state, split, ran, extractKvpParameter_nullDescription.mpr
        ⟨rfl, unknown, (extracted.forbidden name).mpr forbidden⟩⟩
    · exact absurd passes fails

end

/-! ### Requests in XML -/

section

variable {source : ParameterSource}

/-- The names of the elements that have one. -/
def elementNames (elements : List Node) : List ByteString :=
  elements.filterMap fun element => element.getAttribute (ascii "name")

/-- The names of the parameter elements of a query, in their order. -/
def xmlNames (queryRoot : Node) : List ByteString := elementNames (paramElements queryRoot)

/-- One more element has one more name. -/
theorem elementNames_append_singleton (elements : List Node) (element : Node) :
    elementNames (elements ++ [element]) =
      elementNames elements ++ (element.getAttribute (ascii "name")).toList := by
  unfold elementNames
  rw [List.filterMap_append]
  cases named : element.getAttribute (ascii "name") <;> simp [named]

/-- A failure other than the use of a description that is not there. -/
def IsRefusal (failure : XmlParamError) : Prop :=
  ∀ name, failure ≠ .paramError (.nullDescription name)

/-- An element fails by being refused. -/
theorem extractXmlParameter_isRefusal {state : ExtractState Value} {element : Node}
    {failure : XmlParamError} (failed : extractXmlParameter source state element = .error failure) :
    IsRefusal failure := by
  unfold extractXmlParameter at failed
  rintro name rfl
  split at failed
  · cases failed
  · split at failed
    · cases failed
    · cases failed
    · split at failed
      · cases failed
      · unfold checkParamMaxOccurs at failed
        split at failed
        · cases failed
        · simp only [Except.mapError, Except.bind] at failed
          split at failed
          · cases failed
          · split at failed
            · cases failed
            · cases failed

/-- A parameter element that is not refused has passed the checks. -/
theorem extractXmlParameter_checked {names : List ByteString} {state : ExtractState Value}
    (checked : Checked source.config names state) (element : Node) :
    Meets IsRefusal
      (extractXmlParameter source state element) fun after =>
        Checked source.config (names ++ (element.getAttribute (ascii "name")).toList) after := by
  cases stepped : extractXmlParameter source state element with
  | error failure => exact Meets.error (extractXmlParameter_isRefusal stepped)
  | ok after =>
      apply Meets.ok
      cases extractXmlParameter_ok stepped with
      | skipped paramName named unknown isAfter =>
          rw [named, isAfter]
          exact checked.append_undescribed unknown rfl rfl
      | taken paramName desc values named describes free few _ isAfter =>
          rw [named, isAfter]
          exact checked.append_described describes free few rfl
            (forbidden_contains_iff desc state.forbidden)

/-- The elements are checked one after the other. -/
theorem extractXmlParameter_foldlM (queryRoot : Node) :
    Meets IsRefusal
      ((paramElements queryRoot).foldlM (extractXmlParameter source) (.start source.config))
      (Checked source.config (xmlNames queryRoot)) := by
  apply Meets.foldlM fun done => Checked source.config (elementNames done)
  · exact Extracted.checked (@extracted_start _ source.reader source.config)
  · intro done element rest state _ checked
    rw [elementNames_append_singleton]
    exact extractXmlParameter_checked checked element

/-- A document that is accepted passes the checks of its names. -/
theorem extractXmlParameters_checked {queryRoot : Node} {query : StoredQuery Value}
    (accepted : extractXmlParameters source queryRoot = .ok query) :
    ∃ state, Checked source.config (xmlNames queryRoot) state ∧
      (source.config.paramMap.entries.forM fun entry => checkParamMinOccurs
        (state.paramNameSet.count entry.2.name) entry.2.minOccurs entry.2.name) = .ok () := by
  obtain ⟨state, ran, rest⟩ := ok_of_bind accepted
  obtain ⟨_, enough, _⟩ := ok_of_bind rest
  refine ⟨state, (extractXmlParameter_foldlM queryRoot).of_ok ran, ?_⟩
  cases checked : source.config.paramMap.entries.forM fun entry => checkParamMinOccurs
      (state.paramNameSet.count entry.2.name) entry.2.minOccurs entry.2.name with
  | ok _ => rfl
  | error failure =>
      rw [checked] at enough
      cases enough

/-- In a document no description is missing. -/
theorem extractXmlParameters_described (queryRoot : Node) (name : ByteString) :
    extractXmlParameters source queryRoot ≠ .error (.paramError (.nullDescription name)) := by
  have meets : Meets IsRefusal (extractXmlParameters source queryRoot) fun _ => True := by
    refine (extractXmlParameter_foldlM queryRoot).bind fun state _ => ?_
    refine Meets.bind (@Meets.imp _ _ _ _ (fun _ => True) _ ?_ fun _ _ => trivial) fun _ _ =>
      Meets.pure trivial
    have sound := fun name => @forM_checkParamMinOccurs_error _ source.config.paramMap.entries
      (fun name => (state.paramNameSet.count name : Int)) name
    cases checked : source.config.paramMap.entries.forM fun entry => checkParamMinOccurs
        (state.paramNameSet.count entry.2.name) entry.2.minOccurs entry.2.name with
    | ok _ => exact Meets.ok trivial
    | error failure =>
        apply Meets.error
        rintro name ⟨rfl⟩
        exact sound name checked
  intro failed
  rw [failed] at meets
  exact meets name rfl

end

/-- An accepted request respects the declarations exactly when it is well spelt, in both
forms. A description that is not there is used for a forbidden name in a request with
key-value pairs, and never in XML. -/
theorem declarations_respected_iff {caseSensitive : Bool} {items : List (ParamDesc Value)}
    {source : ParameterSource} (parsed : parseConfig caseSensitive items = some source.config) :
    (∀ request query, extractKvpParameters source.reader source.config request = .ok query →
      (Respects caseSensitive items (kvpNames request) ↔
        WellSpelt caseSensitive items (kvpNames request))) ∧
    (∀ queryRoot query, extractXmlParameters source queryRoot = .ok query →
      (Respects caseSensitive items (xmlNames queryRoot) ↔
        WellSpelt caseSensitive items (xmlNames queryRoot))) ∧
    (∀ request name, extractKvpParameters source.reader source.config request =
        .error (.nullDescription name) ↔
      ForbidsUndescribed source.reader source.config request name) ∧
    ∀ queryRoot name,
      extractXmlParameters source queryRoot ≠ .error (.paramError (.nullDescription name)) := by
  have parsedFrom := parsedFrom_of_parseConfig parsed
  refine ⟨fun request query accepted => ?_, fun queryRoot query accepted => ?_,
    nullDescription_iff parsedFrom.total, extractXmlParameters_described⟩
  · obtain ⟨state, checked, ran⟩ := extractKvpParameters_checked parsedFrom.total accepted
    exact respects_iff_wellSpelt parsedFrom checked (enough_of_checked parsedFrom checked ran)
  · obtain ⟨state, checked, ran⟩ := extractXmlParameters_checked accepted
    exact respects_iff_wellSpelt parsedFrom checked (enough_of_checked parsedFrom checked ran)

/-! ### Two conflicting parameters -/

/-- A parameter that conflicts with nothing itself. -/
def barDesc : ParamDesc Value where
  name := ascii "bar"
  minOccurs := 0
  maxOccurs := 1
  paramDef := ⟨.string, false, 1, 1⟩
  lowerLimit := none
  upperLimit := none
  conflictsWith := .empty

/-- A parameter that conflicts with it. -/
def zFooDesc : ParamDesc Value :=
  { barDesc with name := ascii "zFoo", conflictsWith := OrderedSet.insert (ascii "bar") .empty }

/-- A stored query with the two of them. -/
def conflictingSource (caseSensitive : Bool) : ParameterSource where
  config := (parseConfig caseSensitive [barDesc, zFooDesc]).getD (initial caseSensitive)
  xmlType _ := ascii "xsi:string"
  reader := ⟨fun _ valueStr => some (.string valueStr), fun _ => none, fun _ _ _ => true⟩
  conversions := ⟨fun _ => none, fun _ => none, fun _ => none, fun _ => none, fun _ => none⟩
  xml2string := writeNode

/-- Requests respect the declaration whenever no parameter hides another. -/
theorem conflictingSource_respected_iff :
    parseConfig true [barDesc, zFooDesc] = some (conflictingSource true).config ∧
      ((∀ request query, extractKvpParameters (conflictingSource true).reader
          (conflictingSource true).config request = .ok query →
        (Respects true [barDesc, zFooDesc] (kvpNames request) ↔
          WellSpelt true [barDesc, zFooDesc] (kvpNames request))) ∧
      (∀ queryRoot query, extractXmlParameters (conflictingSource true) queryRoot = .ok query →
        (Respects true [barDesc, zFooDesc] (xmlNames queryRoot) ↔
          WellSpelt true [barDesc, zFooDesc] (xmlNames queryRoot))) ∧
      (∀ request name, extractKvpParameters (conflictingSource true).reader
          (conflictingSource true).config request = .error (.nullDescription name) ↔
        ForbidsUndescribed (conflictingSource true).reader (conflictingSource true).config
          request name) ∧
      ∀ queryRoot name, extractXmlParameters (conflictingSource true) queryRoot ≠
        .error (.paramError (.nullDescription name))) :=
  ⟨rfl, declarations_respected_iff rfl⟩

/-- In case-sensitive mode both parameters are accepted, and a misspelt one makes the check
use a description that is not there; in case-insensitive mode one parameter is accepted
twice. -/
theorem conflictingSource_notRespected :
    parseConfig true [barDesc, zFooDesc] = some (conflictingSource true).config ∧
      (∃ query, extractKvpParameters (conflictingSource true).reader (conflictingSource true).config
          [(ascii "bar", ascii "1"), (ascii "zFoo", ascii "2")] = .ok query ∧
        ¬ Respects true [barDesc, zFooDesc]
          (kvpNames [(ascii "bar", ascii "1"), (ascii "zFoo", ascii "2")])) ∧
      extractKvpParameters (conflictingSource true).reader (conflictingSource true).config
        [(ascii "bar", ascii "1"), (ascii "zfoo", ascii "2")] =
          .error (.nullDescription (ascii "zfoo")) ∧
      parseConfig false [barDesc, zFooDesc] = some (conflictingSource false).config ∧
      ∃ query, extractKvpParameters (conflictingSource false).reader
          (conflictingSource false).config
          [(ascii "bar", ascii "1"), (ascii "BAR", ascii "2")] = .ok query ∧
        ¬ Respects false [barDesc, zFooDesc]
          (kvpNames [(ascii "bar", ascii "1"), (ascii "BAR", ascii "2")]) := by
  have distinct : barDesc ≠ zFooDesc := fun same =>
    absurd (congrArg ParamDesc.name same) (by decide)
  refine ⟨rfl, ⟨_, rfl, fun respects => ?_⟩, rfl, rfl, ⟨_, rfl, fun respects => ?_⟩⟩
  · have related : Related true barDesc zFooDesc := .inr ⟨ascii "bar", rfl, rfl⟩
    rcases respects.compatible barDesc (by simp) zFooDesc (by simp) distinct
      related with none | none
    · exact absurd none (by decide)
    · exact absurd none (by decide)
  · exact absurd (respects.limited barDesc (by simp)) (by decide)

end SmartMetWfs.Parameters
