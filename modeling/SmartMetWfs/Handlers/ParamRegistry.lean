import SmartMetWfs.Handlers.ParameterTemplates

/-!
# Resolving handler parameters

`StoredQueryParamRegistry` has the parameters that a handler registers. When a request is
handled their templates are resolved, the values converted to the registered types and
put into a map, in which the handler looks them up by name. The number of the values of
an array is looked at by its template, by the registry and by `RequestParameterMap::get`.
-/

namespace SmartMetWfs

open Foundation

/-! ### Reading a parameter map -/

namespace Parameters.RequestParameterMap

/-- Why values are refused. -/
inductive GetError
  | tooMany (count maxSize : Nat)
  | notConverted
  | tooFew (count minSize : Nat)
  | incorrectNumber (count step : Nat)
  | outOfRange

variable {ν α : Type}

section

variable (convert : ν → Option α) (map : RequestParameterMap ν) (name : ByteString)

/-- One more value. The messages count under the name as it is given. -/
def takeValue (maxSize : Nat) (output : List α) (value : ν) : Except GetError (List α) :=
  if maxSize < output.length + 1 then .error (.tooMany (map.params.count name) maxSize)
  else
    match convert value with
    | none => .error .notConverted
    | some tmp => .ok (output ++ [tmp])

/-- `get`: the values under a name, if their number is right. -/
def get (minSize maxSize step : Nat) : Except GetError (List α) := do
  let output ← (map.getValues name).foldlM (map.takeValue convert name maxSize) []
  if output.length < minSize then throw (.tooFew (map.params.count name) minSize)
  if 1 < step ∧ output.length % step ≠ 0 then
    throw (.incorrectNumber (map.params.count name) step)
  return output

/-- `get_single`: the only value under a name. -/
def getSingle : Except GetError α := do
  match ← map.get convert name 1 1 0 with
  | [] => throw .outOfRange
  | tmp :: _ => return tmp

end

/-- The values of a parameter can be read in this number, if they can be converted. -/
def CountNeverFails (map : RequestParameterMap ν) (name : ByteString) (minSize maxSize step : Nat) :
    Prop :=
  ∀ (α : Type) (convert : ν → Option α) (failure : GetError),
    map.get convert name minSize maxSize step = .error failure → failure = .notConverted

/-- Only a value that cannot be converted fails. -/
def SingleNeverFails (map : RequestParameterMap ν) (name : ByteString) : Prop :=
  ∀ (α : Type) (convert : ν → Option α) (failure : GetError),
    map.getSingle convert name = .error failure → failure = .notConverted

variable {map : RequestParameterMap ν} {name : ByteString}

/-- As many values as fit are converted. -/
theorem foldlM_takeValue (convert : ν → Option α) {maxSize : Nat} (values : List ν)
    (output : List α)
    (fits : output.length + values.length ≤ maxSize) :
    values.foldlM (map.takeValue convert name maxSize) output =
      match values.mapM convert with
      | none => .error .notConverted
      | some converted => .ok (output ++ converted) := by
  induction values generalizing output with
  | nil => exact congrArg Except.ok (List.append_nil output).symm
  | cons value values ih =>
      rw [List.length_cons] at fits
      rw [List.foldlM_cons, List.mapM_cons, takeValue, if_neg (by omega)]
      cases convert value with
      | none => rfl
      | some tmp =>
          change values.foldlM (map.takeValue convert name maxSize) (output ++ [tmp]) = _
          rw [ih (output ++ [tmp]) (by rw [List.length_append, List.length_singleton]; omega)]
          cases values.mapM convert with
          | none => rfl
          | some converted => exact congrArg Except.ok (List.append_assoc output [tmp] converted)

/-- More values are refused. -/
theorem foldlM_takeValue_tooMany {maxSize : Nat} (values output : List ν)
    (some' : output.length ≤ maxSize) (exceeds : maxSize < output.length + values.length) :
    values.foldlM (map.takeValue some name maxSize) output =
      .error (.tooMany (map.params.count name) maxSize) := by
  induction values generalizing output with
  | nil => exact absurd exceeds (Nat.not_lt.mpr some')
  | cons value values ih =>
      rw [List.length_cons] at exceeds
      rw [List.foldlM_cons, takeValue]
      split
      · rfl
      · next fits =>
          change values.foldlM (map.takeValue some name maxSize) (output ++ [value]) = _
          apply ih
          · rw [List.length_append, List.length_singleton]
            omega
          · rw [List.length_append, List.length_singleton]
            omega

/-- With a suitable number of values reading is converting them. -/
theorem get_of_count {minSize maxSize step : Nat} (convert : ν → Option α)
    (enough : minSize ≤ (map.getValues name).length) (fits : (map.getValues name).length ≤ maxSize)
    (whole : 1 < step → (map.getValues name).length % step = 0) :
    map.get convert name minSize maxSize step =
      match (map.getValues name).mapM convert with
      | none => .error .notConverted
      | some converted => .ok converted := by
  unfold get
  rw [foldlM_takeValue convert _ [] (by rw [List.length_nil, Nat.zero_add]; exact fits)]
  cases all : (map.getValues name).mapM convert with
  | none => rfl
  | some converted =>
      have sameLength := length_of_mapM all
      change (if converted.length < minSize then _ else _) = _
      rw [if_neg (by omega)]
      change (if 1 < step ∧ converted.length % step ≠ 0 then _ else _) = _
      rw [if_neg]
      · rfl
      · rintro ⟨stepped, notWhole⟩
        rw [sameLength] at notWhole
        exact notWhole (whole stepped)

/-- Reading fails on no number exactly if the number is within the limits and, with a
step, a multiple of it. -/
theorem countNeverFails_iff {minSize maxSize step : Nat} :
    map.CountNeverFails name minSize maxSize step ↔
      minSize ≤ (map.getValues name).length ∧ (map.getValues name).length ≤ maxSize ∧
        (1 < step → (map.getValues name).length % step = 0) := by
  constructor
  · intro never
    have read := never ν some
    unfold get at read
    have fits : (map.getValues name).length ≤ maxSize := by
      by_contra exceeds
      rw [foldlM_takeValue_tooMany _ [] (Nat.zero_le _)
        (by rw [List.length_nil, Nat.zero_add]; exact Nat.not_le.mp exceeds)] at read
      cases read _ rfl
    have all : (map.getValues name).mapM some = some (map.getValues name) := by
      simpa using @List.mapM_pure Option ν ν _ _ (map.getValues name) id
    rw [foldlM_takeValue some _ [] (by rw [List.length_nil, Nat.zero_add]; exact fits), all] at read
    have enough : minSize ≤ (map.getValues name).length := by
      by_contra few
      cases read _ (if_pos (Nat.not_le.mp few))
    refine ⟨enough, fits, fun stepped => ?_⟩
    by_contra notWhole
    cases read _ ((if_neg (Nat.not_lt.mpr enough)).trans (if_pos ⟨stepped, notWhole⟩))
  · intro ⟨enough, fits, whole⟩ α convert failure failed
    rw [get_of_count convert enough fits whole] at failed
    split at failed
    · cases failed
      rfl
    · cases failed

theorem singleNeverFails_of_length (single : (map.getValues name).length = 1) :
    map.SingleNeverFails name := by
  intro α convert failure failed
  unfold getSingle at failed
  rw [get_of_count convert (Nat.le_of_eq single.symm) (Nat.le_of_eq single)
    (fun stepped => absurd stepped (by decide))] at failed
  cases all : (map.getValues name).mapM convert with
  | none =>
      rw [all] at failed
      cases failed
      rfl
  | some converted =>
      have sameLength := length_of_mapM all
      rw [all] at failed
      cases converted with
      | nil =>
          rw [single] at sameLength
          cases sameLength
      | cons tmp converted => cases failed

end Parameters.RequestParameterMap

namespace Handlers

open Parameters

/-! ### The registry -/

/-- `TypeInd`: the types that a parameter may be registered with. -/
inductive TypeInd
  | int
  | uint
  | double
  | string
  | time
  | point
  | bbox
  | bool
  deriving DecidableEq

/-- The conversions of values, and of texts to distances. -/
structure ValueGetters where
  getInt : Value → Option Int64
  getUint : Value → Option UInt64
  getDouble : Value → Option Double
  getString : Value → Option ByteString
  getPtime : Value → Option DateTime
  getPoint : Value → Option Point
  getBbox : Value → Option BoundingBox
  getBool : Value → Option Bool
  parseMeter : ByteString → Option Double

/-- Why a parameter is not resolved. -/
inductive ResolveError
  | template (name : ByteString) (failure : TemplateError)
  | notConverted (name : ByteString)
  | outOfRange (name : ByteString) (nValues minSize maxSize : Nat)
  | invalidNumber (name : ByteString) (nValues minSize maxSize step : Nat)
  | internalError

/-- `ScalarParameterRec` and `ArrayParameterRec`. -/
inductive ParamRec
  | scalar (typeInd : TypeInd) (paramDef : ScalarParameterTemplate) (required : Bool)
  | array (typeInd : TypeInd) (paramDef : ArrayParameterTemplate) (minSize maxSize step : Nat)

/-- The parameters of a handler under their names. -/
abbrev ParamRegistry := OrderedMap ByteString ParamRec

/-- `add_param_rec`: a name is registered once. -/
def addParamRec (registry : ParamRegistry) (name : ByteString) (rec : ParamRec) :
    Option ParamRegistry :=
  if (registry.find name).isSome then none else some (registry.set name rec)

/-- The type of a parameter. -/
def ParamRec.typeInd : ParamRec → TypeInd
  | .scalar typeInd _ _ => typeInd
  | .array typeInd _ _ _ _ => typeInd

/-- The value is one of the type. -/
def HasType : TypeInd → Value → Prop
  | .int, .int _ => True
  | .uint, .uint _ => True
  | .double, .double _ => True
  | .string, .string _ => True
  | .time, .ptime _ => True
  | .point, .point _ => True
  | .bbox, .bbox _ => True
  | .bool, .bool _ => True
  | _, _ => False

section

variable (getters : ValueGetters)

/-- `value.get_...()`, put back into a value. -/
def convertTo (typeInd : TypeInd) (value : Value) : Option Value :=
  match typeInd with
  | .int => (getters.getInt value).map .int
  | .uint => (getters.getUint value).map .uint
  | .double => (getters.getDouble value).map .double
  | .string => (getters.getString value).map .string
  | .time => (getters.getPtime value).map .ptime
  | .point => (getters.getPoint value).map .point
  | .bbox => (getters.getBbox value).map .bbox
  | .bool => (getters.getBool value).map .bool

/-- The value of a scalar parameter; a largest distance may have a unit. -/
def scalarValue (name : ByteString) (typeInd : TypeInd) (value : Value) :
    Except ResolveError Value :=
  let converted :=
    if typeInd = .double ∧ asciiTolowerCopy name = ascii "maxdistance" then
      convertTo getters .double value <|>
        ((getters.getString value).bind getters.parseMeter).map .double
    else convertTo getters typeInd value
  match converted with
  | some converted => .ok converted
  | none => .error (.notConverted name)

/-- The value of an array parameter; not all types are supported. -/
def arrayValue (name : ByteString) (typeInd : TypeInd) (value : Value) :
    Except ResolveError Value :=
  match typeInd with
  | .point | .bbox | .bool => .error .internalError
  | _ =>
      match convertTo getters typeInd value with
      | some converted => .ok converted
      | none => .error (.notConverted name)

/-- The value of a scalar is converted and inserted. -/
def addScalarValue (result : RequestParameterMap Value) (name : ByteString) (typeInd : TypeInd)
    (value : Value) : Except ResolveError (RequestParameterMap Value) :=
  (fun converted => result.insertValue name converted) <$> scalarValue getters name typeInd value

/-- The number of the values of an array. -/
def checkValueCount (name : ByteString) (nValues minSize maxSize step : Nat) :
    Except ResolveError Unit :=
  if nValues < minSize ∨ maxSize < nValues then .error (.outOfRange name nValues minSize maxSize)
  else if 1 < step ∧ (nValues - minSize) % step ≠ 0 then
    .error (.invalidNumber name nValues minSize maxSize step)
  else .ok ()

/-- A value of an array is converted and inserted. -/
def addArrayValue (name : ByteString) (typeInd : TypeInd) (result : RequestParameterMap Value)
    (value : Value) : Except ResolveError (RequestParameterMap Value) :=
  (fun converted => result.insertValue name converted) <$> arrayValue getters name typeInd value

variable (redirect : Redirection) (src : RequestParameterMap Value)

/-- One registered parameter. -/
def resolveParam (result : RequestParameterMap Value) (entry : ByteString × ParamRec) :
    Except ResolveError (RequestParameterMap Value) :=
  match entry.2 with
  | .scalar typeInd paramDef required =>
      if required then do
        let value ← (paramDef.getValue redirect src).mapError (.template entry.1)
        addScalarValue getters result entry.1 typeInd value
      else do
        match ← (paramDef.getOptionalValue redirect src).mapError (.template entry.1) with
        | none => return result
        | some value => addScalarValue getters result entry.1 typeInd value
  | .array typeInd paramDef minSize maxSize step => do
      let values ← (paramDef.getValue redirect src).mapError (.template entry.1)
      checkValueCount entry.1 values.length minSize maxSize step
      values.foldlM (addArrayValue getters entry.1 typeInd) result

/-- `resolve_handler_parameters`: the parameters one after the other. -/
def resolveHandlerParameters (caseSensitiveParams : Bool) (registry : ParamRegistry)
    (extraParams : Option SupportsExtraHandlerParams) :
    Except ResolveError (RequestParameterMap Value) :=
  registry.entries.foldlM (resolveParam getters (handleRedirection extraParams src) src)
    (.empty caseSensitiveParams)

end

end Handlers

end SmartMetWfs
