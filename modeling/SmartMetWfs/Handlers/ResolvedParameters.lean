import SmartMetWfs.Handlers.ParamRegistry

/-!
# What handlers may rely on

A handler reads a resolved parameter with the number of values that it registered the
parameter for. That works if no two registered names with values differ in their letter
case only, where the case is disregarded, and if the smallest number of an array is a
multiple of its step: the registry counts the steps from there, the reading from zero.
-/

namespace SmartMetWfs.Handlers

open Foundation Parameters

section

variable (getters : ValueGetters) (redirect : Redirection) (src : RequestParameterMap Value)

/-! ### What templates give -/

/-- The values that a parameter has are those that its template gives, in their order,
converted to its type. -/
def Gives (name : ByteString) : ParamRec → List Value → Prop
  | .scalar typeInd paramDef true, values => ∃ value converted,
      paramDef.getValue redirect src = .ok value ∧
        scalarValue getters name typeInd value = .ok converted ∧ values = [converted]
  | .scalar typeInd paramDef false, values =>
      (paramDef.getOptionalValue redirect src = .ok none ∧ values = []) ∨
        ∃ value converted, paramDef.getOptionalValue redirect src = .ok (some value) ∧
          scalarValue getters name typeInd value = .ok converted ∧ values = [converted]
  | .array typeInd paramDef _ _ _, values => ∃ resolved,
      paramDef.items.mapM (fun item => item.getValue redirect src true) = .ok resolved ∧
        (resolved.flatMap TemplateValue.toList).mapM (arrayValue getters name typeInd) = .ok values

/-- The number of values is one that the parameter is registered for. -/
def IsRegistered (count : Nat) : ParamRec → Prop
  | .scalar _ _ true => count = 1
  | .scalar _ _ false => count ≤ 1
  | .array _ _ minSize maxSize step =>
      minSize ≤ count ∧ count ≤ maxSize ∧ (1 < step → (count - minSize) % step = 0)

/-- Reading the parameter as it is registered fails on no number of values. -/
def ReadsWell (result : RequestParameterMap Value) (name : ByteString) : ParamRec → Prop
  | .scalar _ _ true => result.SingleNeverFails name
  | .scalar _ _ false => result.CountNeverFails name 0 1 0
  | .array _ _ minSize maxSize step => result.CountNeverFails name minSize maxSize step

/-- The resolved parameters are as they are registered. -/
structure HasDeclaredShape (registry : ParamRegistry) (result : RequestParameterMap Value) :
    Prop where
  names : ∀ name, (∃ entry ∈ result.params.entries, entry.2.realName = name) ↔
    ∃ rec values, registry.find name = some rec ∧ Gives getters redirect src name rec values ∧
      values ≠ []
  values : ∀ name rec, registry.find name = some rec → ∃ values,
    Gives getters redirect src name rec values ∧ result.getValues name = values ∧
      IsRegistered values.length rec ∧ (∀ value ∈ values, HasType rec.typeInd value) ∧
        ReadsWell result name rec

/-- The values of one parameter. -/
def paramValues (entry : ByteString × ParamRec) : Except ResolveError (List Value) :=
  match entry.2 with
  | .scalar typeInd paramDef required =>
      let found :=
        if required then some <$> paramDef.getValue redirect src
        else paramDef.getOptionalValue redirect src
      (found.mapError (.template entry.1)).bind fun value =>
        match value with
        | none => .ok []
        | some value => (fun converted => [converted]) <$> scalarValue getters entry.1 typeInd value
  | .array typeInd paramDef minSize maxSize step => do
      let values ← (paramDef.getValue redirect src).mapError (.template entry.1)
      checkValueCount entry.1 values.length minSize maxSize step
      values.mapM (arrayValue getters entry.1 typeInd)

end

variable {getters : ValueGetters} {redirect : Redirection} {src : RequestParameterMap Value}

/-- What is converted has the type. -/
theorem convertTo_hasType {typeInd : TypeInd} {value converted : Value}
    (isConverted : convertTo getters typeInd value = some converted) :
      HasType typeInd converted := by
  cases typeInd <;>
  · obtain ⟨_, _, rfl⟩ := Option.map_eq_some_iff.mp isConverted
    trivial

/-- A scalar that is converted has the type. -/
theorem scalarValue_hasType {name : ByteString} {typeInd : TypeInd} {value converted : Value}
    (isConverted : scalarValue getters name typeInd value = .ok converted) :
    HasType typeInd converted := by
  unfold scalarValue at isConverted
  dsimp only at isConverted
  split at isConverted
  · next found =>
      cases isConverted
      split at found
      · next isDistance =>
          rw [isDistance.1]
          cases asDouble : convertTo getters .double value with
          | some _ =>
              rw [asDouble] at found
              cases found
              exact convertTo_hasType asDouble
          | none =>
              rw [asDouble] at found
              obtain ⟨_, _, rfl⟩ := Option.map_eq_some_iff.mp found
              trivial
      · exact convertTo_hasType found
  · cases isConverted

/-- A value of an array that is converted has the type. -/
theorem arrayValue_hasType {name : ByteString} {typeInd : TypeInd} {value converted : Value}
    (isConverted : arrayValue getters name typeInd value = .ok converted) :
    HasType typeInd converted := by
  unfold arrayValue at isConverted
  split at isConverted
  · cases isConverted
  · cases isConverted
  · cases isConverted
  · split at isConverted
    · next found =>
        cases isConverted
        exact convertTo_hasType found
    · cases isConverted

/-- The values of an array are converted and inserted one after the other. -/
theorem foldlM_addArrayValue {name : ByteString} {typeInd : TypeInd} (values : List Value)
    (result : RequestParameterMap Value) :
    values.foldlM (addArrayValue getters name typeInd) result =
      (fun converted => result.insertValues name converted) <$>
        values.mapM (arrayValue getters name typeInd) := by
  induction values generalizing result with
  | nil => rfl
  | cons value values ih =>
      rw [List.foldlM_cons, List.mapM_cons, addArrayValue]
      cases arrayValue getters name typeInd value with
      | error failure => rfl
      | ok converted =>
          change values.foldlM (addArrayValue getters name typeInd)
            (result.insertValue name converted) = _
          rw [ih]
          cases values.mapM (arrayValue getters name typeInd) with
          | error failure => rfl
          | ok others => rfl

/-- Resolving a parameter is inserting its values. -/
theorem resolveParam_eq (result : RequestParameterMap Value) (entry : ByteString × ParamRec) :
    resolveParam getters redirect src result entry =
      (fun values => result.insertValues entry.1 values) <$>
        paramValues getters redirect src entry := by
  obtain ⟨name, rec⟩ := entry
  have scalar : ∀ typeInd value, addScalarValue getters result name typeInd value =
      (fun values => result.insertValues name values) <$>
        ((fun converted => [converted]) <$> scalarValue getters name typeInd value) := by
    intro typeInd value
    unfold addScalarValue
    cases scalarValue getters name typeInd value with
    | error failure => rfl
    | ok converted => rfl
  cases rec with
  | scalar typeInd paramDef required =>
      cases required with
      | true =>
          simp only [resolveParam, paramValues, if_true]
          cases paramDef.getValue redirect src with
          | error failure => rfl
          | ok value => exact scalar typeInd value
      | false =>
          simp only [resolveParam, paramValues, Bool.false_eq_true, if_false]
          cases paramDef.getOptionalValue redirect src with
          | error failure => rfl
          | ok found =>
              cases found with
              | none => rfl
              | some value => exact scalar typeInd value
  | array typeInd paramDef minSize maxSize step =>
      simp only [resolveParam, paramValues]
      cases paramDef.getValue redirect src with
      | error failure => rfl
      | ok values =>
          change (checkValueCount name values.length minSize maxSize step >>= fun _ =>
            values.foldlM (addArrayValue getters name typeInd) result) =
              _ <$> (checkValueCount name values.length minSize maxSize step >>= fun _ =>
                values.mapM (arrayValue getters name typeInd))
          cases checkValueCount name values.length minSize maxSize step with
          | error failure => rfl
          | ok _ => exact foldlM_addArrayValue values result

/-- All values of an array that is converted have the type. -/
theorem arrayValues_hasType {name : ByteString} {typeInd : TypeInd} {values converted : List Value}
    (all : values.mapM (arrayValue getters name typeInd) = .ok converted) :
    ∀ value ∈ converted, HasType typeInd value := by
  have pointwise := forall₂_of_mapM all
  intro value member
  obtain ⟨index, small, rfl⟩ := List.getElem_of_mem member
  have small' := small
  rw [← pointwise.length_eq] at small'
  exact arrayValue_hasType ((List.forall₂_iff_get.mp pointwise).2 index small' small)

/-- An array that is accepted has a right number of values. -/
theorem checkValueCount_eq_ok {name : ByteString} {nValues minSize maxSize step : Nat}
    (counted : checkValueCount name nValues minSize maxSize step = .ok ()) :
    minSize ≤ nValues ∧ nValues ≤ maxSize ∧ (1 < step → (nValues - minSize) % step = 0) := by
  unfold checkValueCount at counted
  split at counted
  · cases counted
  · next inRange =>
      split at counted
      · cases counted
      · next onStep =>
          refine ⟨by omega, by omega, fun stepped => ?_⟩
          by_contra off
          exact onStep ⟨stepped, off⟩

/-- The values of a parameter are given by its template, in a number and of the type that
it is registered for. -/
theorem paramValues_eq_ok {name : ByteString} {rec : ParamRec} {values : List Value}
    (resolved : paramValues getters redirect src (name, rec) = .ok values) :
    Gives getters redirect src name rec values ∧ IsRegistered values.length rec ∧
      ∀ value ∈ values, HasType rec.typeInd value := by
  cases rec with
  | scalar typeInd paramDef required =>
      obtain ⟨found, isFound, rest⟩ := ok_of_bind resolved
      cases found with
      | none =>
          cases rest
          cases required with
          | true =>
              obtain ⟨value, _, isNone⟩ := ok_of_map (ok_of_mapError isFound)
              cases isNone
          | false =>
              exact ⟨.inl ⟨ok_of_mapError isFound, rfl⟩, Nat.zero_le 1,
                fun _ member => absurd member List.not_mem_nil⟩
      | some value =>
          obtain ⟨converted, isConverted, rfl⟩ := ok_of_map rest
          have hasType : ∀ value ∈ [converted], HasType typeInd value := by
            intro value member
            rw [List.mem_singleton.mp member]
            exact scalarValue_hasType isConverted
          cases required with
          | true =>
              obtain ⟨value', isValue, same⟩ := ok_of_map (ok_of_mapError isFound)
              cases same
              exact ⟨⟨value, converted, isValue, isConverted, rfl⟩, rfl, hasType⟩
          | false =>
              exact ⟨.inr ⟨value, converted, ok_of_mapError isFound, isConverted, rfl⟩,
                Nat.le_refl 1, hasType⟩
  | array typeInd paramDef minSize maxSize step =>
      obtain ⟨found, isFound, rest⟩ := ok_of_bind resolved
      obtain ⟨_, counted, converted⟩ := ok_of_bind rest
      obtain ⟨items, mapped, rfl, _⟩ :=
        ArrayParameterTemplate.getValue_eq_ok (ok_of_mapError isFound)
      refine ⟨⟨items, mapped, converted⟩, ?_, arrayValues_hasType converted⟩
      rw [← (forall₂_of_mapM converted).length_eq]
      exact checkValueCount_eq_ok counted

/-- A parameter gives its values in one way only. -/
theorem Gives.unique {name : ByteString} {rec : ParamRec} {values values' : List Value}
    (gives : Gives getters redirect src name rec values)
    (gives' : Gives getters redirect src name rec values') : values = values' := by
  cases rec with
  | scalar typeInd paramDef required =>
      cases required with
      | true =>
          obtain ⟨value, converted, isValue, isConverted, rfl⟩ := gives
          obtain ⟨value', converted', isValue', isConverted', rfl⟩ := gives'
          cases isValue.symm.trans isValue'
          cases isConverted.symm.trans isConverted'
          rfl
      | false =>
          rcases gives with ⟨isNone, rfl⟩ | ⟨value, converted, isValue, isConverted, rfl⟩
          · rcases gives' with ⟨_, rfl⟩ | ⟨value', _, isValue', _⟩
            · rfl
            · cases isNone.symm.trans isValue'
          · rcases gives' with ⟨isNone, _⟩ | ⟨value', converted', isValue', isConverted', rfl⟩
            · cases isNone.symm.trans isValue
            · cases isValue.symm.trans isValue'
              cases isConverted.symm.trans isConverted'
              rfl
  | array typeInd paramDef minSize maxSize step =>
      obtain ⟨resolved, mapped, converted⟩ := gives
      obtain ⟨resolved', mapped', converted'⟩ := gives'
      cases mapped.symm.trans mapped'
      exact Except.ok.inj (converted.symm.trans converted')

/-! ### The whole map -/

section

variable (getters : ValueGetters) (redirect : Redirection) (src : RequestParameterMap Value)

/-- The values of a parameter, if it can be resolved. -/
def givenValues (entry : ByteString × ParamRec) : List Value :=
  match paramValues getters redirect src entry with
  | .ok values => values
  | .error _ => []

/-- The names and values of a registry. -/
def givenPairs (entries : List (ByteString × ParamRec)) : List (ByteString × Value) :=
  entries.flatMap fun entry =>
    (givenValues getters redirect src entry).map fun value => (entry.1, value)

/-- The first parameter gives its values before the others. -/
theorem givenPairs_cons (entry : ByteString × ParamRec) (entries : List (ByteString × ParamRec)) :
    givenPairs getters redirect src (entry :: entries) =
      (givenValues getters redirect src entry).map (fun value => (entry.1, value)) ++
        givenPairs getters redirect src entries :=
  List.flatMap_cons

end

/-- The parameters are resolved one after the other. -/
theorem resolveParam_foldlM (entries : List (ByteString × ParamRec))
    {start result : RequestParameterMap Value}
    (ran : entries.foldlM (resolveParam getters redirect src) start = .ok result) :
    (∀ entry ∈ entries, paramValues getters redirect src entry =
      .ok (givenValues getters redirect src entry)) ∧
      result = (givenPairs getters redirect src entries).foldl
        (fun result item => result.insertValue item.1 item.2) start := by
  induction entries generalizing start with
  | nil =>
      cases ran
      exact ⟨fun _ member => absurd member List.not_mem_nil, rfl⟩
  | cons entry entries ih =>
      rw [List.foldlM_cons] at ran
      obtain ⟨middle, stepped, rest⟩ := ok_of_bind ran
      rw [resolveParam_eq] at stepped
      obtain ⟨values, isGiven, rfl⟩ := ok_of_map stepped
      have given : givenValues getters redirect src entry = values := by
        unfold givenValues
        rw [isGiven]
      obtain ⟨restGiven, whole⟩ := ih rest
      refine ⟨fun other member => ?_, ?_⟩
      · rcases List.mem_cons.mp member with rfl | inRest
        · rw [isGiven, given]
        · exact restGiven other inRest
      · rw [whole, givenPairs_cons, List.foldl_append, given, List.foldl_map]
        rfl

section

variable {caseSensitiveParams : Bool} {registry : ParamRegistry}
  {result : RequestParameterMap Value}
  (ran : registry.entries.foldlM (resolveParam getters redirect src) (.empty caseSensitiveParams) =
    .ok result)
include ran

/-- The values under a name are those of all registered names that are the same to the map. -/
theorem getValues_of_ran (name : ByteString) :
    result.getValues name = registry.entries.flatMap fun entry =>
      if RequestParameterMap.key caseSensitiveParams entry.1 =
          RequestParameterMap.key caseSensitiveParams name
      then givenValues getters redirect src entry else [] := by
  rw [(resolveParam_foldlM registry.entries ran).2,
    RequestParameterMap.getValues_foldl_insertValue, givenPairs, List.filter_flatMap,
    List.map_flatMap]
  apply congrArg (fun contribute => registry.entries.flatMap contribute)
  funext entry
  rw [List.filter_map, List.map_map]
  split
  · next same => simp [Function.comp_def, same]
  · next distinct => simp [Function.comp_def, distinct]

/-- Each parameter of the registry has been resolved. -/
theorem paramValues_of_ran {name : ByteString} {rec : ParamRec}
    (registered : registry.find name = some rec) :
    paramValues getters redirect src (name, rec) =
      .ok (givenValues getters redirect src (name, rec)) :=
  (resolveParam_foldlM registry.entries ran).1 _ (OrderedMap.find_eq_some.mp registered)

/-- The names of the result are those of parameters that give values. -/
theorem names_of_ran (name : ByteString) :
    (∃ entry ∈ result.params.entries, entry.2.realName = name) ↔
      ∃ rec values, registry.find name = some rec ∧ Gives getters redirect src name rec values ∧
        values ≠ [] := by
  obtain ⟨_, whole⟩ := resolveParam_foldlM registry.entries ran
  rw [whole, RequestParameterMap.foldl_insertValue]
  have perm := Multimap.insertAll_perm
    ((givenPairs getters redirect src registry.entries).map fun item =>
      (RequestParameterMap.key caseSensitiveParams item.1, (⟨item.1, item.2⟩ : ParamInfo Value)))
    (.empty : Multimap ByteString (ParamInfo Value))
  constructor
  · rintro ⟨entry, member, rfl⟩
    have inserted := perm.mem_iff.mp member
    rw [Multimap.empty, List.append_nil] at inserted
    obtain ⟨item, inItems, rfl⟩ := List.mem_map.mp inserted
    obtain ⟨⟨name, rec⟩, registered, inGiven⟩ := List.mem_flatMap.mp inItems
    obtain ⟨value, isGiven, rfl⟩ := List.mem_map.mp inGiven
    have found := OrderedMap.find_eq_some.mpr registered
    exact ⟨rec, _, found, (paramValues_eq_ok (paramValues_of_ran ran found)).1,
      List.ne_nil_of_mem isGiven⟩
  · rintro ⟨rec, values, registered, gives, some'⟩
    cases gives.unique (paramValues_eq_ok (paramValues_of_ran ran registered)).1
    obtain ⟨value, isGiven⟩ := List.exists_mem_of_ne_nil _ some'
    refine ⟨_, perm.mem_iff.mpr
      (List.mem_append_left _ (List.mem_map.mpr ⟨(name, value), ?_, rfl⟩)), rfl⟩
    exact List.mem_flatMap.mpr ⟨(name, rec), OrderedMap.find_eq_some.mp registered,
      List.mem_map.mpr ⟨value, isGiven, rfl⟩⟩

/-- Under the name of a parameter there are its values, if the others that are the same to
the map have none. -/
theorem getValues_eq_given {name : ByteString} {rec : ParamRec}
    (registered : registry.find name = some rec)
    (others : ∀ name' rec', registry.find name' = some rec' → name' ≠ name →
      RequestParameterMap.key caseSensitiveParams name' =
        RequestParameterMap.key caseSensitiveParams name →
      givenValues getters redirect src (name', rec') = []) :
    result.getValues name = givenValues getters redirect src (name, rec) := by
  rw [getValues_of_ran ran, OrderedMap.flatMap_of_others_nil registered]
  · exact if_pos rfl
  · intro ⟨name', rec'⟩ member distinct
    split
    · next same => exact others name' rec' (OrderedMap.find_eq_some.mpr member) distinct same
    · rfl

/-- Two parameters that are the same to the map and have the values under their names have
none. -/
theorem given_eq_nil_of_same {name name' : ByteString} {rec rec' : ParamRec}
    (registered : registry.find name = some rec) (registered' : registry.find name' = some rec')
    (distinct : name ≠ name')
    (same : RequestParameterMap.key caseSensitiveParams name =
      RequestParameterMap.key caseSensitiveParams name')
    (own : result.getValues name' = givenValues getters redirect src (name', rec')) :
    givenValues getters redirect src (name, rec) = [] := by
  have bound := OrderedMap.length_flatMap_of_two (fun entry =>
    if RequestParameterMap.key caseSensitiveParams entry.1 =
        RequestParameterMap.key caseSensitiveParams name'
    then givenValues getters redirect src entry else []) registered registered' distinct
  rw [← getValues_of_ran ran, own, if_pos same, if_pos rfl] at bound
  exact List.length_eq_zero_iff.mp (by omega)

end

/-- No registered name with values is another one in the naming mode. -/
def NamesApart (getters : ValueGetters) (redirect : Redirection) (src : RequestParameterMap Value)
    (caseSensitiveParams : Bool) (registry : ParamRegistry) : Prop :=
  ∀ name rec name' rec', registry.find name = some rec → registry.find name' = some rec' →
    name ≠ name' → RequestParameterMap.key caseSensitiveParams name =
      RequestParameterMap.key caseSensitiveParams name' →
    Gives getters redirect src name rec []

/-- Every array that is registered with a step has a multiple of it as its smallest number. -/
def StepsFromZero (registry : ParamRegistry) : Prop :=
  ∀ name typeInd paramDef minSize maxSize step,
    registry.find name = some (.array typeInd paramDef minSize maxSize step) → 1 < step →
      minSize % step = 0

/-- A number that the parameter is registered for can be read back. -/
theorem readsWell_of_isRegistered {registry : ParamRegistry} {result : RequestParameterMap Value}
    (fromZero : StepsFromZero registry) {name : ByteString} {rec : ParamRec}
    (registered : registry.find name = some rec)
    (isRegistered : IsRegistered (result.getValues name).length rec) :
      ReadsWell result name rec := by
  cases rec with
  | scalar typeInd paramDef required =>
      cases required with
      | true => exact RequestParameterMap.singleNeverFails_of_length isRegistered
      | false =>
          apply RequestParameterMap.countNeverFails_iff.mpr
          exact ⟨Nat.zero_le _, isRegistered, fun stepped => absurd stepped (by decide)⟩
  | array typeInd paramDef minSize maxSize step =>
      obtain ⟨enough, fits, onStep⟩ := isRegistered
      apply RequestParameterMap.countNeverFails_iff.mpr
      refine ⟨enough, fits, fun stepped => ?_⟩
      have start := Nat.dvd_of_mod_eq_zero
        (fromZero name typeInd paramDef minSize maxSize step registered stepped)
      have rest := Nat.dvd_of_mod_eq_zero (onStep stepped)
      rw [← Nat.add_sub_of_le enough]
      exact Nat.mod_eq_zero_of_dvd (Nat.dvd_add start rest)

/-- The resolved parameters are as they are registered exactly when the names with values
are apart and the steps of arrays are counted alike. -/
theorem hasDeclaredShape_iff {getters : ValueGetters} {src result : RequestParameterMap Value}
    {caseSensitiveParams : Bool} {registry : ParamRegistry}
    {extraParams : Option SupportsExtraHandlerParams}
    (resolved : resolveHandlerParameters getters src caseSensitiveParams registry extraParams =
      .ok result) :
    HasDeclaredShape getters (handleRedirection extraParams src) src registry result ↔
      NamesApart getters (handleRedirection extraParams src) src caseSensitiveParams registry ∧
        StepsFromZero registry := by
  constructor
  · intro shape
    have given : ∀ {name : ByteString} {rec : ParamRec}, registry.find name = some rec →
        result.getValues name =
            givenValues getters (handleRedirection extraParams src) src (name, rec) ∧
          IsRegistered (result.getValues name).length rec ∧ ReadsWell result name rec := by
      intro name rec registered
      obtain ⟨values, gives, own, isRegistered, _, readsWell⟩ := shape.values name rec registered
      have gives' := (paramValues_eq_ok (paramValues_of_ran resolved registered)).1
      rw [← gives'.unique gives] at own
      exact ⟨own, own ▸ gives.unique gives' ▸ isRegistered, readsWell⟩
    refine ⟨fun name rec name' rec' registered registered' distinct same => ?_,
      fun name typeInd paramDef minSize maxSize step registered stepped => ?_⟩
    · have none := given_eq_nil_of_same resolved registered registered' distinct same
        (given registered').1
      have gives := (paramValues_eq_ok (paramValues_of_ran resolved registered)).1
      rw [none] at gives
      exact gives
    · obtain ⟨_, ⟨enough, _, onStep⟩, readsWell⟩ := given registered
      have whole := (RequestParameterMap.countNeverFails_iff.mp readsWell).2.2 stepped
      have rest := Nat.dvd_sub (Nat.dvd_of_mod_eq_zero whole)
        (Nat.dvd_of_mod_eq_zero (onStep stepped))
      rw [Nat.sub_sub_self enough] at rest
      exact Nat.mod_eq_zero_of_dvd rest
  · intro ⟨apart, fromZero⟩
    refine ⟨names_of_ran resolved, fun name rec registered => ?_⟩
    have own := getValues_eq_given resolved
        registered fun name' rec' registered' distinct same => by
      have gives := (paramValues_eq_ok (paramValues_of_ran resolved registered')).1
      exact gives.unique (apart name' rec' name rec registered' registered distinct same)
    obtain ⟨gives, isRegistered, hasType⟩ :=
      paramValues_eq_ok (paramValues_of_ran resolved registered)
    refine ⟨_, gives, own, isRegistered, hasType, ?_⟩
    rw [← own] at isRegistered
    exact readsWell_of_isRegistered fromZero registered isRegistered

/-! ### Constant texts -/

/-- Conversions of texts to texts only. -/
def textGetters : ValueGetters where
  getInt _ := none
  getUint _ := none
  getDouble _ := none
  getString value :=
    match value with
    | .string text => some text
    | _ => none
  getPtime _ := none
  getPoint _ := none
  getBbox _ := none
  getBool _ := none
  parseMeter _ := none

/-- A scalar with a text. -/
def textScalar (text : ByteString) (required : Bool) : ParamRec :=
  .scalar .string ⟨.constant (.string text)⟩ required

/-- An array with its texts. -/
def textArray (texts : List ByteString) (minSize maxSize step : Nat) : ParamRec :=
  .array .string ⟨texts.map fun text => .constant (.string text), minSize, maxSize⟩ minSize
    maxSize step

/-- The parameters of texts are resolved. -/
def resolveTexts (caseSensitiveParams : Bool) (registry : ParamRegistry) :
    Except ResolveError (RequestParameterMap Value) :=
  resolveHandlerParameters textGetters (.empty caseSensitiveParams) caseSensitiveParams
    registry none

/-- A pair of texts and another text. -/
def pairRegistry : ParamRegistry :=
  OrderedMap.set (ascii "latlons") (textArray [ascii "60", ascii "25"] 0 4 2)
    (OrderedMap.set (ascii "crs") (textScalar (ascii "EPSG::4326") false) .empty)

/-- The pair has its declared shape. -/
theorem pairRegistry_hasDeclaredShape_iff : ∃ result, resolveTexts false pairRegistry = .ok result ∧
    (HasDeclaredShape textGetters (handleRedirection none (.empty false)) (.empty false)
        pairRegistry result ↔
      NamesApart textGetters (handleRedirection none (.empty false)) (.empty false) false
        pairRegistry ∧ StepsFromZero pairRegistry) :=
  ⟨_, rfl, hasDeclaredShape_iff rfl⟩

/-- Names that differ in their letter case are registered together and get two values, and
one text is a number that an array of one or three is registered for, but no whole pair. -/
theorem resolvedTexts_notDeclaredShape :
    (∃ first registry result,
      addParamRec .empty (ascii "boundingBox") (textScalar (ascii "1") true) = some first ∧
      addParamRec first (ascii "boundingbox") (textScalar (ascii "2") false) = some registry ∧
      resolveTexts false registry = .ok result ∧
      ¬ HasDeclaredShape textGetters (handleRedirection none (.empty false)) (.empty false)
        registry result) ∧
    ∃ registry result,
      addParamRec .empty (ascii "limits") (textArray [ascii "1"] 1 3 2) = some registry ∧
      resolveTexts true registry = .ok result ∧
      ¬ HasDeclaredShape textGetters (handleRedirection none (.empty true)) (.empty true)
        registry result := by
  refine ⟨⟨_, _, _, rfl, rfl, rfl, fun shape => ?_⟩, ⟨_, _, rfl, rfl, fun shape => ?_⟩⟩
  · obtain ⟨values, _, own, isRegistered, _⟩ := shape.values (ascii "boundingBox") _ rfl
    have two : values.length = 2 := own ▸ rfl
    have one : values.length = 1 := isRegistered
    omega
  · obtain ⟨_, _, _, _, _, readsWell⟩ := shape.values (ascii "limits") _ rfl
    cases readsWell Value some _ rfl

end SmartMetWfs.Handlers
