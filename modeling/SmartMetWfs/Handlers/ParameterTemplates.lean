import SmartMetWfs.Foundation.Outcomes
import SmartMetWfs.Handlers.LocationParameters

/-!
# Templates of handler parameters

A parameter of a stored query handler is configured by a template: one item for a scalar
parameter, a list of items for an array. An item is left out, is a constant, or refers to
a parameter of the request or one of its values; a default text or a named parameter may
stand in for what the request does not have. A named parameter is redirected no further.
-/

namespace SmartMetWfs.Handlers

open Foundation Parameters

/-- `std::variant<Value, std::vector<Value>>`. -/
inductive TemplateValue
  | single (value : Value)
  | multiple (values : List Value)

/-- The values, as a list. -/
def TemplateValue.toList : TemplateValue → List Value
  | .single value => [value]
  | .multiple values => values

/-- `boost::tribool`. -/
inductive Tribool
  | isTrue
  | isFalse
  | indeterminate

/-- Why a template has no value. -/
inductive TemplateError
  | absentNotSupported
  | missing (paramRef : ByteString)
  | neitherIsSet
  | indexOutOfRange (paramInd : Nat) (paramRef : ByteString) (size : Nat)
  | arrayNotAllowed (paramRef : ByteString)
  | noRedirection
  | unknownHandlerParam (name : ByteString)
  | scalarExpected (values : List Value)
  | notConvertible (size : Nat)
  | aboveUpperLimit (size maxSize : Nat)
  | belowLowerLimit (size minSize : Nat)

/-- `handle_redirection`, with all but the name given. -/
abbrev Redirection := ByteString → Except TemplateError (Option TemplateValue)

/-- Every redirection is refused. -/
def noRedirection : Redirection := fun _ => .error .noRedirection

/-! ### Items -/

/-- An item: nothing, a plain value, or a reference with what stands in for it. -/
structure ParameterTemplateItem where
  absent : Bool
  plainText : Option Value
  paramRef : Option ByteString
  paramInd : Option Nat
  defaultValue : Option ByteString
  redirectName : Option ByteString

namespace ParameterTemplateItem

/-- An item that is a constant. -/
def constant (plainText : Value) : ParameterTemplateItem :=
  ⟨false, some plainText, none, none, none, none⟩

variable (redirect : Redirection) (reqParamMap : RequestParameterMap Value)

/-- A parameter without values: the default, or the redirection. -/
def getAbsentRefValue (item : ParameterTemplateItem) (allowArray : Bool) :
    Except TemplateError (Option TemplateValue) :=
  match item.defaultValue, item.redirectName with
  | some defaultValue, _ => .ok (some (.single (.string defaultValue)))
  | none, some redirectName => redirect redirectName
  | none, none => .ok (if allowArray then some (.multiple []) else none)

/-- One value of a parameter, if there are so many. -/
def getIndexedRefValue (item : ParameterTemplateItem) (refName : ByteString) (paramInd : Nat)
    (valueVect : List Value) : Except TemplateError (Option TemplateValue) :=
  match valueVect[paramInd]? with
  | some value => .ok (some (.single value))
  | none =>
      match item.defaultValue, item.redirectName with
      | some defaultValue, _ => .ok (some (.single (.string defaultValue)))
      | none, some redirectName => redirect redirectName
      | none, none => .error (.indexOutOfRange paramInd refName valueVect.length)

/-- All values of a parameter; more than one need an array. -/
def getRefValues (refName : ByteString) (valueVect : List Value) (allowArray : Bool) :
    Except TemplateError (Option TemplateValue) :=
  match valueVect with
  | [value] => .ok (some (.single value))
  | _ => if allowArray then .ok (some (.multiple valueVect)) else .error (.arrayNotAllowed refName)

/-- `get_value` that says whether there is a value. -/
def getOptionalValue (item : ParameterTemplateItem) (allowArray : Bool) :
    Except TemplateError (Option TemplateValue) :=
  if item.absent then .ok none
  else
    match item.plainText, item.paramRef with
    | some plainText, _ => .ok (some (.single plainText))
    | none, none => .error .neitherIsSet
    | none, some refName =>
        let valueVect := reqParamMap.getValues refName
        if valueVect.isEmpty then item.getAbsentRefValue redirect allowArray
        else
          match item.paramInd with
          | some paramInd => item.getIndexedRefValue redirect refName paramInd valueVect
          | none => getRefValues refName valueVect allowArray

/-- `get_value` that fails if there is no value. -/
def getValue (item : ParameterTemplateItem) (allowArray : Bool) :
    Except TemplateError TemplateValue := do
  match ← item.getOptionalValue redirect reqParamMap allowArray with
  | some value => return value
  | none =>
      throw (if item.absent then .absentNotSupported else .missing (item.paramRef.getD []))

end ParameterTemplateItem

/-! ### Scalars and arrays -/

/-- A template of one item. -/
structure ScalarParameterTemplate where
  item : ParameterTemplateItem

/-- A template of several items, with its sizes. -/
structure ArrayParameterTemplate where
  items : List ParameterTemplateItem
  minSize : Nat
  maxSize : Nat

namespace ScalarParameterTemplate

variable (redirect : Redirection) (reqParamMap : RequestParameterMap Value)

/-- `get_value` of a mandatory value; an empty array is an empty value. -/
def getValue (template : ScalarParameterTemplate) : Except TemplateError Value := do
  match ← template.item.getValue redirect reqParamMap false with
  | .single value => return value
  | .multiple [] => return .empty
  | .multiple [value] => return value
  | .multiple values => throw (.notConvertible values.length)

/-- `get_value` that says whether there is a value; an empty array is none. -/
def getOptionalValue (template : ScalarParameterTemplate) :
    Except TemplateError (Option Value) := do
  match ← template.item.getOptionalValue redirect reqParamMap false with
  | none => return none
  | some (.single value) => return some value
  | some (.multiple []) => return none
  | some (.multiple [value]) => return some value
  | some (.multiple values) => throw (.scalarExpected values)

end ScalarParameterTemplate

namespace ArrayParameterTemplate

/-- The local variables of `get_value`. -/
structure Collected where
  someResolved : Bool
  allResolved : Bool
  tmpResult : List Value

variable (redirect : Redirection) (reqParamMap : RequestParameterMap Value)

/-- The values of one more item of an array. -/
def collectItem (strict : Bool) (collected : Collected) (item : ParameterTemplateItem) :
    Except TemplateError Collected := do
  let itemValue ←
    if strict then some <$> item.getValue redirect reqParamMap true
    else item.getOptionalValue redirect reqParamMap true
  match itemValue with
  | some value => return { collected with
      someResolved := true
      tmpResult := collected.tmpResult ++ value.toList }
  | none => return { collected with allResolved := false }

/-- `get_value` with whether all, some or none of the items have values. -/
def getVariant (template : ArrayParameterTemplate) (strict : Bool) :
    Except TemplateError (Tribool × List Value) := do
  let collected ← template.items.foldlM (collectItem redirect reqParamMap strict) ⟨false, true, []⟩
  if template.maxSize < collected.tmpResult.length then
    throw (.aboveUpperLimit collected.tmpResult.length template.maxSize)
  if collected.tmpResult.length < template.minSize then
    throw (.belowLowerLimit collected.tmpResult.length template.minSize)
  return (if collected.allResolved then .isTrue
    else if collected.someResolved then .indeterminate else .isFalse, collected.tmpResult)

/-- The values of an array, all of whose items must have some. -/
def getValue (template : ArrayParameterTemplate) : Except TemplateError (List Value) :=
  Prod.snd <$> template.getVariant redirect reqParamMap true

end ArrayParameterTemplate

/-! ### Named parameters -/

/-- `ParameterTemplateBase`. -/
inductive ParameterTemplate
  | scalar (template : ScalarParameterTemplate)
  | array (template : ArrayParameterTemplate)

/-- The strict `get_value`; only what is surely true counts as a value. -/
def ParameterTemplate.getVariant (redirect : Redirection)
    (reqParamMap : RequestParameterMap Value) :
    ParameterTemplate → Except TemplateError (Option TemplateValue)
  | .scalar template =>
      (fun value => value.map .single) <$> template.getOptionalValue redirect reqParamMap
  | .array template =>
      (fun result => match result with
        | (.isTrue, values) => some (.multiple values)
        | _ => none) <$> template.getVariant redirect reqParamMap true

/-- The named parameters, under their lower-case names. -/
structure SupportsExtraHandlerParams where
  handlerParams : OrderedMap ByteString ParameterTemplate

/-- `get_param`: the extra parameter of a name. -/
def SupportsExtraHandlerParams.getParam (extraParams : SupportsExtraHandlerParams)
    (name : ByteString) : Except TemplateError ParameterTemplate :=
  match extraParams.handlerParams.find (asciiTolowerCopy name) with
  | some template => .ok template
  | none => .error (.unknownHandlerParam name)

/-- `handle_redirection`: the value of the extra parameter. -/
def handleRedirection (extraParams : Option SupportsExtraHandlerParams)
    (reqParamMap : RequestParameterMap Value) : Redirection := fun redirectName =>
  match extraParams with
  | none => .error .noRedirection
  | some extraParams => do
      let paramDesc ← extraParams.getParam redirectName
      paramDesc.getVariant noRedirection reqParamMap

/-! ### The values of an array -/

namespace ArrayParameterTemplate

variable {redirect : Redirection} {reqParamMap : RequestParameterMap Value}

/-- A strict collection has the values of all items in their order. -/
theorem collectItem_foldlM (items : List ParameterTemplateItem) {collected after : Collected}
    (ran : items.foldlM (collectItem redirect reqParamMap true) collected = .ok after) :
    ∃ resolved, items.mapM (fun item => item.getValue redirect reqParamMap true) = .ok resolved ∧
      after.tmpResult = collected.tmpResult ++ resolved.flatMap TemplateValue.toList := by
  induction items generalizing collected with
  | nil =>
      cases ran
      exact ⟨[], rfl, (List.append_nil _).symm⟩
  | cons item items ih =>
      rw [List.foldlM_cons] at ran
      obtain ⟨middle, stepped, rest⟩ := ok_of_bind ran
      obtain ⟨itemValue, found, taken⟩ := ok_of_bind stepped
      obtain ⟨value, isValue, rfl⟩ := ok_of_map found
      cases taken
      obtain ⟨resolved, mapped, values⟩ := ih rest
      refine ⟨value :: resolved, ?_, ?_⟩
      · rw [List.mapM_cons, isValue, mapped]
        rfl
      · rw [values, List.flatMap_cons, ← List.append_assoc]

/-- The values of an array are those of its items, and their number is within the limits
of the template. -/
theorem getValue_eq_ok {template : ArrayParameterTemplate} {values : List Value}
    (found : template.getValue redirect reqParamMap = .ok values) :
    ∃ resolved, template.items.mapM (fun item => item.getValue redirect reqParamMap true) =
        .ok resolved ∧
      values = resolved.flatMap TemplateValue.toList ∧
      template.minSize ≤ values.length ∧ values.length ≤ template.maxSize := by
  obtain ⟨⟨ok, values'⟩, ran, rfl⟩ := ok_of_map found
  obtain ⟨collected, collectedAll, checked⟩ := ok_of_bind ran
  obtain ⟨resolved, mapped, result⟩ := collectItem_foldlM template.items collectedAll
  refine ⟨resolved, mapped, ?_⟩
  by_cases above : template.maxSize < collected.tmpResult.length
  · rw [if_pos above] at checked
    cases checked
  · rw [if_neg above] at checked
    by_cases below : collected.tmpResult.length < template.minSize
    · rw [if_pos below] at checked
      cases checked
    · rw [if_neg below] at checked
      cases checked
      exact ⟨result, Nat.not_lt.mp below, Nat.not_lt.mp above⟩

end ArrayParameterTemplate

end SmartMetWfs.Handlers
