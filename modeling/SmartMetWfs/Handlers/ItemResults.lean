import SmartMetWfs.Handlers.TemplateCounts

/-!
# The result object of `get_value`

`ParameterTemplateItem::get_value` writes the value into an object of its caller, and says
whether it has. The caller that does not allow an array reads the single value from it. When
a named parameter stands in, the object is handed on to its template, which may be that of
an array.

The functions here carry the object along as the source does, and are shown to agree with
those that return the value (`getValueInto_eq`, `handleRedirectionInto_agrees`).
-/

namespace SmartMetWfs.Handlers

open Foundation Parameters

/-- What a call leaves: its answer, or an exception, and the result object. -/
abbrev CallOutcome (α : Type) := Except TemplateError α × TemplateValue

/-- `handle_redirection`, with all but the name and the result object given. -/
abbrev RedirectionInto := ByteString → TemplateValue → CallOutcome Bool

/-- Every redirection is refused. -/
def noRedirectionInto : RedirectionInto := fun _ result => (.error .noRedirection, result)

/-- A variant as it is constructed without arguments. -/
def TemplateValue.initial : TemplateValue := .single .empty

/-! ### Items -/

namespace ParameterTemplateItem

variable (redirect : RedirectionInto) (reqParamMap : RequestParameterMap Value)

/-- The branch for a parameter without values, as it writes to its argument. -/
def getAbsentRefValueInto (item : ParameterTemplateItem) (allowArray : Bool)
    (result : TemplateValue) : CallOutcome Bool :=
  match item.defaultValue, item.redirectName with
  | some defaultValue, _ => (.ok true, .single (.string defaultValue))
  | none, some redirectName => redirect redirectName result
  | none, none => if allowArray then (.ok true, .multiple []) else (.ok false, result)

/-- The branch for one value of a parameter, as it writes to its argument. -/
def getIndexedRefValueInto (item : ParameterTemplateItem) (refName : ByteString) (paramInd : Nat)
    (valueVect : List Value) (result : TemplateValue) : CallOutcome Bool :=
  match valueVect[paramInd]? with
  | some value => (.ok true, .single value)
  | none =>
      match item.defaultValue, item.redirectName with
      | some defaultValue, _ => (.ok true, .single (.string defaultValue))
      | none, some redirectName => redirect redirectName result
      | none, none => (.error (.indexOutOfRange paramInd refName valueVect.length), result)

/-- The branch for all values of a parameter, as it writes to its argument. -/
def getRefValuesInto (refName : ByteString) (valueVect : List Value) (allowArray : Bool)
    (result : TemplateValue) : CallOutcome Bool :=
  match valueVect with
  | [value] => (.ok true, .single value)
  | _ =>
      if allowArray then (.ok true, .multiple valueVect)
      else (.error (.arrayNotAllowed refName), result)

/-- `get_value` with a result object. -/
def getValueInto (item : ParameterTemplateItem) (allowArray : Bool) (result : TemplateValue) :
    CallOutcome Bool :=
  if item.absent then (.ok false, result)
  else
    match item.plainText, item.paramRef with
    | some plainText, _ => (.ok true, .single plainText)
    | none, none => (.error .neitherIsSet, result)
    | none, some refName =>
        let valueVect := reqParamMap.getValues refName
        if valueVect.isEmpty then item.getAbsentRefValueInto redirect allowArray result
        else
          match item.paramInd with
          | some paramInd => item.getIndexedRefValueInto redirect refName paramInd valueVect result
          | none => getRefValuesInto refName valueVect allowArray result

/-- `get_value` that returns the value, by the one with a result object. -/
def getValueReturned (item : ParameterTemplateItem) (allowArray : Bool) :
    Except TemplateError TemplateValue :=
  match item.getValueInto redirect reqParamMap allowArray .initial with
  | (.error failure, _) => .error failure
  | (.ok true, result) => .ok result
  | (.ok false, _) =>
      .error (if item.absent then .absentNotSupported else .missing (item.paramRef.getD []))

end ParameterTemplateItem

/-! ### Templates -/

section

variable (redirect : RedirectionInto) (reqParamMap : RequestParameterMap Value)

/-- The value of a scalar template, as it writes to its argument. -/
def ScalarParameterTemplate.getValueInto (template : ScalarParameterTemplate)
    (result : TemplateValue) : CallOutcome Tribool :=
  match template.item.getValueInto redirect reqParamMap false .initial with
  | (.error failure, _) => (.error failure, result)
  | (.ok false, _) => (.ok .isFalse, result)
  | (.ok true, .single value) => (.ok .isTrue, .single value)
  | (.ok true, .multiple []) => (.ok .isFalse, result)
  | (.ok true, .multiple [value]) => (.ok .isTrue, .single value)
  | (.ok true, .multiple values) => (.error (.scalarExpected values), result)

namespace ArrayParameterTemplate

/-- One item of an array, as it writes to its argument. -/
def collectItemInto (strict : Bool) (collected : Collected) (item : ParameterTemplateItem) :
    Except TemplateError Collected := do
  let itemValue ←
    if strict then some <$> item.getValueReturned redirect reqParamMap true
    else
      match item.getValueInto redirect reqParamMap true .initial with
      | (.error failure, _) => .error failure
      | (.ok found, value) => .ok (if found then some value else none)
  match itemValue with
  | some value => return { collected with
      someResolved := true
      tmpResult := collected.tmpResult ++ value.toList }
  | none => return { collected with allResolved := false }

/-- The result object is written before it is known whether all items have values. -/
def getValueInto (template : ArrayParameterTemplate) (strict : Bool) (result : TemplateValue) :
    CallOutcome Tribool :=
  match template.items.foldlM (collectItemInto redirect reqParamMap strict) ⟨false, true, []⟩ with
  | .error failure => (.error failure, result)
  | .ok collected =>
      let size := collected.tmpResult.length
      if template.maxSize < size then (.error (.aboveUpperLimit size template.maxSize), result)
      else if size < template.minSize then
        (.error (.belowLowerLimit size template.minSize), result)
      else
        (.ok (if collected.allResolved then .isTrue
          else if collected.someResolved then .indeterminate else .isFalse),
          .multiple collected.tmpResult)

end ArrayParameterTemplate

/-- The value of a template, as it writes to its argument. -/
def ParameterTemplate.getValueInto (strict : Bool) (result : TemplateValue) :
    ParameterTemplate → CallOutcome Tribool
  | .scalar template => template.getValueInto redirect reqParamMap result
  | .array template => template.getValueInto redirect reqParamMap strict result

end

/-- Only what is true is true. -/
def Tribool.toBool : Tribool → Bool
  | .isTrue => true
  | _ => false

/-- `handle_redirection` with a result object, which the template of the named parameter
gets. -/
def handleRedirectionInto (extraParams : Option SupportsExtraHandlerParams)
    (reqParamMap : RequestParameterMap Value) : RedirectionInto := fun redirectName result =>
  match extraParams with
  | none => (.error .noRedirection, result)
  | some extraParams =>
      match extraParams.getParam redirectName with
      | .error failure => (.error failure, result)
      | .ok paramDesc =>
          let (ok, after) := paramDesc.getValueInto noRedirectionInto reqParamMap true result
          (ok.map Tribool.toBool, after)

/-! ### Agreement with the functions that return the value -/

/-- The call that finds a value writes it, and any other leaves the result object alone. -/
def settle (result : TemplateValue) : Except TemplateError (Option TemplateValue) → CallOutcome Bool
  | .ok (some value) => (.ok true, value)
  | .ok none => (.ok false, result)
  | .error failure => (.error failure, result)

/-- A redirection that writes has the result of one that returns. -/
def Agrees (redirectInto : RedirectionInto) (redirect : Redirection) : Prop :=
  ∀ name result, redirectInto name result = settle result (redirect name)

/-- The refusals agree. -/
theorem noRedirection_agrees : Agrees noRedirectionInto noRedirection := fun _ _ => rfl

section

variable {redirectInto : RedirectionInto} {redirect : Redirection}
  {reqParamMap : RequestParameterMap Value}

namespace ParameterTemplateItem

/-- A parameter without values is settled as it is returned. -/
theorem getAbsentRefValueInto_eq (agrees : Agrees redirectInto redirect)
    (item : ParameterTemplateItem) (allowArray : Bool) (result : TemplateValue) :
    item.getAbsentRefValueInto redirectInto allowArray result =
      settle result (item.getAbsentRefValue redirect allowArray) := by
  unfold getAbsentRefValueInto getAbsentRefValue
  cases item.defaultValue with
  | some defaultValue => rfl
  | none =>
      cases item.redirectName with
      | some redirectName => exact agrees redirectName result
      | none => cases allowArray <;> rfl

/-- One value of a parameter is settled as it is returned. -/
theorem getIndexedRefValueInto_eq (agrees : Agrees redirectInto redirect)
    (item : ParameterTemplateItem) (refName : ByteString) (paramInd : Nat) (valueVect : List Value)
    (result : TemplateValue) :
    item.getIndexedRefValueInto redirectInto refName paramInd valueVect result =
      settle result (item.getIndexedRefValue redirect refName paramInd valueVect) := by
  unfold getIndexedRefValueInto getIndexedRefValue
  cases valueVect[paramInd]? with
  | some value => rfl
  | none =>
      cases item.defaultValue with
      | some defaultValue => rfl
      | none =>
          cases item.redirectName with
          | some redirectName => exact agrees redirectName result
          | none => rfl

/-- All values of a parameter are settled as they are returned. -/
theorem getRefValuesInto_eq (refName : ByteString) (valueVect : List Value) (allowArray : Bool)
    (result : TemplateValue) : getRefValuesInto refName valueVect allowArray result =
      settle result (getRefValues refName valueVect allowArray) := by
  match valueVect with
  | [] => cases allowArray <;> rfl
  | [value] => rfl
  | first :: second :: rest => cases allowArray <;> rfl

/-- The result object is written only if there is a value, which is then the one that is
returned. -/
theorem getValueInto_eq (agrees : Agrees redirectInto redirect) (item : ParameterTemplateItem)
    (allowArray : Bool) (result : TemplateValue) :
    item.getValueInto redirectInto reqParamMap allowArray result =
      settle result (item.getOptionalValue redirect reqParamMap allowArray) := by
  unfold getValueInto getOptionalValue
  cases item.absent with
  | true => rfl
  | false =>
      cases item.plainText with
      | some plainText => rfl
      | none =>
          cases item.paramRef with
          | none => rfl
          | some refName =>
              simp only [Bool.false_eq_true, if_false]
              split
              · exact getAbsentRefValueInto_eq agrees item allowArray result
              · cases item.paramInd with
                | some paramInd =>
                    exact getIndexedRefValueInto_eq agrees item refName paramInd _ result
                | none => exact getRefValuesInto_eq refName _ allowArray result

/-- The value that is returned is the value of the item. -/
theorem getValueReturned_eq (agrees : Agrees redirectInto redirect) (item : ParameterTemplateItem)
    (allowArray : Bool) : item.getValueReturned redirectInto reqParamMap allowArray =
      item.getValue redirect reqParamMap allowArray := by
  unfold getValueReturned getValue
  rw [getValueInto_eq agrees]
  cases item.getOptionalValue redirect reqParamMap allowArray with
  | error failure => rfl
  | ok value => cases value <;> rfl

end ParameterTemplateItem

/-- A scalar template is settled as it is returned. -/
theorem ScalarParameterTemplate.getValueInto_eq (agrees : Agrees redirectInto redirect)
    (template : ScalarParameterTemplate) (result : TemplateValue) :
    template.getValueInto redirectInto reqParamMap result =
      match template.getOptionalValue redirect reqParamMap with
      | .ok (some value) => (.ok .isTrue, .single value)
      | .ok none => (.ok .isFalse, result)
      | .error failure => (.error failure, result) := by
  unfold getValueInto getOptionalValue
  rw [template.item.getValueInto_eq agrees]
  cases template.item.getOptionalValue redirect reqParamMap false with
  | error failure => rfl
  | ok found =>
      match found with
      | none => rfl
      | some (.single value) => rfl
      | some (.multiple []) => rfl
      | some (.multiple [value]) => rfl
      | some (.multiple (first :: second :: rest)) => rfl

namespace ArrayParameterTemplate

/-- The items of an array are collected as they are returned. -/
theorem collectItemInto_eq (agrees : Agrees redirectInto redirect) :
    collectItemInto redirectInto reqParamMap true = collectItem redirect reqParamMap true := by
  funext collected item
  unfold collectItemInto
  rw [if_pos rfl, item.getValueReturned_eq agrees]
  rfl

/-- The result object gets the values just if the strict call succeeds. -/
theorem getValueInto_eq (agrees : Agrees redirectInto redirect) (template : ArrayParameterTemplate)
    (result : TemplateValue) : template.getValueInto redirectInto reqParamMap true result =
      match template.getVariant redirect reqParamMap true with
      | .ok (ok, values) => (.ok ok, .multiple values)
      | .error failure => (.error failure, result) := by
  unfold getValueInto
  rw [collectItemInto_eq agrees]
  cases ran : template.items.foldlM (collectItem redirect reqParamMap true) ⟨false, true, []⟩ with
  | error failure =>
      unfold getVariant
      rw [ran]
      rfl
  | ok collected =>
      rw [getVariant_of_ran ran]
      dsimp only
      split
      · rfl
      · split <;> rfl

end ArrayParameterTemplate

/-- No item is redirected where this is refused. -/
theorem undirected_noRedirection (item : ParameterTemplateItem) : item.Undirected noRedirection :=
  fun _ _ => ⟨_, rfl⟩

/-- An array without redirection has the values of its items. -/
theorem ArrayParameterTemplate.getVariant_noRedirection (template : ArrayParameterTemplate)
    (reqParamMap : RequestParameterMap Value) :
    (template.HasValues (fun name => (reqParamMap.getValues name).length) ∧
      ∃ values, template.getVariant noRedirection reqParamMap true = .ok (.isTrue, values)) ∨
    (¬ template.HasValues (fun name => (reqParamMap.getValues name).length) ∧
      ∃ failure, template.getVariant noRedirection reqParamMap true = .error failure) :=
  getVariant_strict (fun item _ => undirected_noRedirection item) fun _ => rfl

/-- A named parameter stands in as the function that returns the value says. -/
theorem handleRedirectionInto_agrees (extraParams : Option SupportsExtraHandlerParams)
    (reqParamMap : RequestParameterMap Value) :
    Agrees (handleRedirectionInto extraParams reqParamMap)
      (handleRedirection extraParams reqParamMap) := by
  intro name result
  unfold handleRedirectionInto handleRedirection
  cases extraParams with
  | none => rfl
  | some extraParams =>
      cases found : extraParams.getParam name with
      | error failure =>
          simp only [found]
          rfl
      | ok paramDesc =>
          simp only [found]
          cases paramDesc with
          | scalar template =>
              unfold ParameterTemplate.getValueInto
              simp only [template.getValueInto_eq noRedirection_agrees]
              change _ = settle result (_ <$> template.getOptionalValue noRedirection reqParamMap)
              cases template.getOptionalValue noRedirection reqParamMap with
              | error failure => rfl
              | ok value => cases value <;> rfl
          | array template =>
              unfold ParameterTemplate.getValueInto
              simp only [template.getValueInto_eq noRedirection_agrees]
              change _ = settle result (_ <$> template.getVariant noRedirection reqParamMap true)
              rcases template.getVariant_noRedirection reqParamMap with ⟨_, values, found⟩ |
                ⟨_, failure, fails⟩
              · rw [found]
                rfl
              · rw [fails]
                rfl

end

/-! ### Single values where no array is allowed -/

section

variable (extraParams : Option SupportsExtraHandlerParams) (reqParamMap : RequestParameterMap Value)
  (item : ParameterTemplateItem)

/-- `get_value` with a result object and the named parameters. -/
def getItemValue (allowArray : Bool) (result : TemplateValue) : CallOutcome Bool :=
  item.getValueInto (handleRedirectionInto extraParams reqParamMap) reqParamMap allowArray result

/-- A value that is found is a single one unless arrays are allowed, and a call that finds
none leaves the result object unchanged. -/
def KeepsContract (allowArray : Bool) : Prop :=
  ∀ result,
    ((getItemValue extraParams reqParamMap item allowArray result).1 = .ok true →
      allowArray = false →
        ∃ value, (getItemValue extraParams reqParamMap item allowArray result).2 = .single value) ∧
    ((getItemValue extraParams reqParamMap item allowArray result).1 ≠ .ok true →
      (getItemValue extraParams reqParamMap item allowArray result).2 = result)

/-- The request does not have the value, and the named parameter is to stand in for it. -/
def ParameterTemplateItem.IsRedirected (name : ByteString) : Prop :=
  item.absent = false ∧ item.plainText = none ∧ item.defaultValue = none ∧
    item.redirectName = some name ∧ ∃ refName, item.paramRef = some refName ∧
      (reqParamMap.getValues refName = [] ∨
        ∃ paramInd, item.paramInd = some paramInd ∧
          (reqParamMap.getValues refName).length ≤ paramInd)

/-- The named parameter is an array that has its values. -/
def ArrayStandsIn : Prop :=
  ∃ name extra template, item.IsRedirected reqParamMap name ∧ extraParams = some extra ∧
    extra.getParam name = .ok (.array template) ∧
    template.HasValues fun name => (reqParamMap.getValues name).length

end

section

variable {extraParams : Option SupportsExtraHandlerParams} {reqParamMap : RequestParameterMap Value}
  {redirect : Redirection} {item : ParameterTemplateItem}

/-- A redirection gives several values when it leads to an array. -/
theorem handleRedirection_multiple_iff (name : ByteString) :
    (∃ values, handleRedirection extraParams reqParamMap name = .ok (some (.multiple values))) ↔
      ∃ extra template, extraParams = some extra ∧ extra.getParam name = .ok (.array template) ∧
        template.HasValues fun name => (reqParamMap.getValues name).length := by
  unfold handleRedirection
  cases extraParams with
  | none => exact ⟨nofun, nofun⟩
  | some extra =>
      cases found : extra.getParam name with
      | error failure =>
          simp only [found]
          constructor
          · exact nofun
          · rintro ⟨_, template, ⟨rfl⟩, isArray, _⟩
            cases found.symm.trans isArray
      | ok paramDesc =>
          simp only [found]
          cases paramDesc with
          | scalar template =>
              change (∃ values, _ <$> template.getOptionalValue noRedirection reqParamMap = _) ↔ _
              constructor
              · intro ⟨values, isMultiple⟩
                obtain ⟨value, _, single⟩ := ok_of_map isMultiple
                cases value <;> cases single
              · rintro ⟨_, template, ⟨rfl⟩, isArray, _⟩
                cases found.symm.trans isArray
          | array template =>
              change (∃ values, _ <$> template.getVariant noRedirection reqParamMap true = _) ↔ _
              rcases template.getVariant_noRedirection reqParamMap with ⟨has, values, isFound⟩ |
                ⟨hasNot, failure, fails⟩
              · rw [isFound]
                exact ⟨fun _ => ⟨extra, template, rfl, found, has⟩, fun _ => ⟨values, rfl⟩⟩
              · rw [fails]
                constructor
                · exact nofun
                · rintro ⟨_, other, ⟨rfl⟩, isArray, has⟩
                  cases found.symm.trans isArray
                  exact absurd has hasNot

/-- The outcome is an array. -/
def IsMultiple (outcome : Except TemplateError (Option TemplateValue)) : Prop :=
  ∃ values, outcome = .ok (some (.multiple values))

/-- A named parameter is to stand in, and is an array. -/
def ParameterTemplateItem.RedirectsToArray (redirect : Redirection) (item : ParameterTemplateItem) :
    Prop :=
  item.defaultValue = none ∧ ∃ name, item.redirectName = some name ∧ IsMultiple (redirect name)

namespace ParameterTemplateItem

/-- A parameter without values gives several only by redirection. -/
theorem getAbsentRefValue_isMultiple :
    IsMultiple (item.getAbsentRefValue redirect false) ↔ item.RedirectsToArray redirect := by
  unfold getAbsentRefValue RedirectsToArray
  cases item.defaultValue with
  | some defaultValue => exact ⟨nofun, nofun⟩
  | none =>
      cases item.redirectName with
      | none => exact ⟨nofun, nofun⟩
      | some redirectName =>
          constructor
          · exact fun isMultiple => ⟨rfl, redirectName, rfl, isMultiple⟩
          · rintro ⟨_, _, ⟨rfl⟩, isMultiple⟩
            exact isMultiple

/-- One value of a parameter is several only by redirection. -/
theorem getIndexedRefValue_isMultiple (refName : ByteString) (paramInd : Nat)
    (valueVect : List Value) :
    IsMultiple (item.getIndexedRefValue redirect refName paramInd valueVect) ↔
      valueVect.length ≤ paramInd ∧ item.RedirectsToArray redirect := by
  unfold getIndexedRefValue RedirectsToArray
  by_cases inRange : paramInd < valueVect.length
  · rw [List.getElem?_eq_getElem inRange]
    exact ⟨nofun, fun ⟨beyond, _⟩ => absurd inRange (Nat.not_lt.mpr beyond)⟩
  · have beyond := Nat.not_lt.mp inRange
    rw [List.getElem?_eq_none beyond]
    cases item.defaultValue with
    | some defaultValue => exact ⟨nofun, nofun⟩
    | none =>
        cases item.redirectName with
        | none => exact ⟨nofun, nofun⟩
        | some redirectName =>
            constructor
            · exact fun isMultiple => ⟨beyond, rfl, redirectName, rfl, isMultiple⟩
            · rintro ⟨_, _, _, ⟨rfl⟩, isMultiple⟩
              exact isMultiple

/-- A scalar is never several values. -/
theorem getRefValues_not_multiple (refName : ByteString) (valueVect : List Value) :
    ¬ IsMultiple (getRefValues refName valueVect false) := by
  unfold getRefValues
  split
  · exact nofun
  · exact nofun

/-- Where no array is allowed, only what stands in can be one. -/
theorem getOptionalValue_isMultiple :
    IsMultiple (item.getOptionalValue redirect reqParamMap false) ↔
      ∃ name, item.IsRedirected reqParamMap name ∧ IsMultiple (redirect name) := by
  have regroup : (∃ name, item.IsRedirected reqParamMap name ∧ IsMultiple (redirect name)) ↔
      item.absent = false ∧ item.plainText = none ∧ ∃ refName, item.paramRef = some refName ∧
        (reqParamMap.getValues refName = [] ∨ ∃ paramInd, item.paramInd = some paramInd ∧
          (reqParamMap.getValues refName).length ≤ paramInd) ∧ item.RedirectsToArray redirect := by
    unfold IsRedirected RedirectsToArray
    constructor
    · rintro ⟨name, ⟨present, noText, noDefault, named, refName, isRef, lacks⟩, isMultiple⟩
      exact ⟨present, noText, refName, isRef, lacks, noDefault, name, named, isMultiple⟩
    · rintro ⟨present, noText, refName, isRef, lacks, noDefault, name, named, isMultiple⟩
      exact ⟨name, ⟨present, noText, noDefault, named, refName, isRef, lacks⟩, isMultiple⟩
  rw [regroup]
  unfold getOptionalValue
  cases item.absent with
  | true => exact ⟨nofun, nofun⟩
  | false =>
      cases item.plainText with
      | some plainText => exact ⟨nofun, nofun⟩
      | none =>
          cases item.paramRef with
          | none => exact ⟨nofun, nofun⟩
          | some refName =>
              simp only [Bool.false_eq_true, if_false, true_and, Option.some.injEq, exists_eq_left']
              cases reqParamMap.getValues refName with
              | nil =>
                  simp only [List.isEmpty_nil, if_true]
                  rw [getAbsentRefValue_isMultiple]
                  exact ⟨fun redirects => ⟨.inl trivial, redirects⟩, And.right⟩
              | cons value rest =>
                  simp only [List.isEmpty_cons, Bool.false_eq_true, if_false]
                  cases item.paramInd with
                  | none =>
                      constructor
                      · exact fun isMultiple =>
                          absurd isMultiple (getRefValues_not_multiple refName _)
                      · rintro ⟨none | ⟨_, none, _⟩, _⟩
                        · cases none
                        · cases none
                  | some paramInd =>
                      rw [getIndexedRefValue_isMultiple]
                      constructor
                      · exact fun ⟨beyond, redirects⟩ => ⟨.inr ⟨paramInd, rfl, beyond⟩, redirects⟩
                      · rintro ⟨none | ⟨_, ⟨rfl⟩, beyond⟩, redirects⟩
                        · cases none
                        · exact ⟨beyond, redirects⟩

end ParameterTemplateItem

/-- An array stands in when the item gives several values. -/
theorem arrayStandsIn_iff : ArrayStandsIn extraParams reqParamMap item ↔
    IsMultiple (item.getOptionalValue (handleRedirection extraParams reqParamMap) reqParamMap
      false) := by
  rw [ParameterTemplateItem.getOptionalValue_isMultiple]
  unfold ArrayStandsIn
  refine exists_congr fun name => ?_
  rw [IsMultiple, handleRedirection_multiple_iff]
  simp only [exists_and_left]

/-- What is not found leaves the argument. -/
theorem settle_unchanged {outcome : Except TemplateError (Option TemplateValue)}
    {result : TemplateValue} (notFound : (settle result outcome).1 ≠ .ok true) :
    (settle result outcome).2 = result := by
  match outcome with
  | .ok (some value) => exact absurd rfl notFound
  | .ok none => rfl
  | .error failure => rfl

/-- What is settled is one value when none is given as several. -/
theorem settle_single_iff (outcome : Except TemplateError (Option TemplateValue)) :
    (∀ result, (settle result outcome).1 = .ok true →
      ∃ value, (settle result outcome).2 = .single value) ↔ ¬ IsMultiple outcome := by
  match outcome with
  | .ok (some (.single value)) => exact ⟨fun _ => nofun, fun _ _ _ => ⟨value, rfl⟩⟩
  | .ok (some (.multiple values)) =>
      constructor
      · intro single
        obtain ⟨_, isSingle⟩ := single .initial rfl
        cases isSingle
      · exact fun notMultiple => absurd ⟨values, rfl⟩ notMultiple
  | .ok none => exact ⟨fun _ => nofun, fun _ _ => nofun⟩
  | .error failure => exact ⟨fun _ => nofun, fun _ _ => nofun⟩

/-- The contract of `get_value` is kept unless an array stands in where none is allowed. -/
theorem keepsContract_iff (allowArray : Bool) :
    KeepsContract extraParams reqParamMap item allowArray ↔
      allowArray = true ∨ ¬ ArrayStandsIn extraParams reqParamMap item := by
  have settled : ∀ result, getItemValue extraParams reqParamMap item allowArray result =
      settle result (item.getOptionalValue (handleRedirection extraParams reqParamMap) reqParamMap
        allowArray) :=
    item.getValueInto_eq (handleRedirectionInto_agrees extraParams reqParamMap) allowArray
  unfold KeepsContract
  simp only [settled]
  cases allowArray with
  | true => exact ⟨fun _ => .inl rfl, fun _ result => ⟨fun _ => nofun, settle_unchanged⟩⟩
  | false =>
      rw [arrayStandsIn_iff, ← settle_single_iff]
      constructor
      · exact fun keeps => .inr fun result found => (keeps result).1 found rfl
      · rintro (allowed | single) result
        · cases allowed
        · exact ⟨fun found _ => single result found, settle_unchanged⟩

/-- The item `${p > q}`. -/
def redirectedItem : ParameterTemplateItem := ⟨false, none, some [112], none, none, some [113]⟩

/-- A named parameter that is an array of one constant. -/
def namedArray : SupportsExtraHandlerParams :=
  ⟨OrderedMap.empty.set [113] (.array ⟨[.constant (.bool true)], 1, 1⟩)⟩

/-- A scalar that is not given becomes an array of one value. -/
theorem redirectedItem_arrayFound :
    ¬ KeepsContract (some namedArray) (.empty false) redirectedItem false := by
  intro keeps
  obtain ⟨_, isSingle⟩ := (keeps .initial).1 rfl rfl
  cases isSingle

end

end SmartMetWfs.Handlers
