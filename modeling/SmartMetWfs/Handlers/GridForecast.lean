import Mathlib.Algebra.Order.Ring.Int
import SmartMetWfs.Core.Decimal
import SmartMetWfs.Foundation.OrderedMap
import SmartMetWfs.Foundation.Outcomes

/-!
# Rows of a grid forecast

For each location `processGridQuery` writes one column for each parameter of the query and
one row for each forecast time, starting from the first free row of the table. A parameter
with values is written from its own value list. The others are special: they are found out
from the location and the time, or from the value lists of all parameters.
-/

namespace SmartMetWfs.Handlers

open Foundation

/-- `T::GridValue`. A number that is `ParamValueMissing` is none. -/
structure GridValue (Number : Type) where
  value : Option Number
  valueString : ByteString

/-- `QueryServer::ParameterValues`: what the query has returned for one time. -/
structure ParameterValues (Number : Type) where
  parameterKey : ByteString
  producerId : Nat
  generationId : Nat
  geometryId : Nat
  parameterLevelId : Int
  parameterLevel : Int
  forecastType : Int
  forecastNumber : Int
  forecastTimeUTC : Int
  valueList : List (GridValue Number)

/-- `QueryServer::QueryParameter` -/
structure QueryParameter (Number : Type) where
  param : ByteString
  precision : Int
  valueList : List (ParameterValues Number)

/-- `QueryServer::Query` once it has been executed. -/
structure GridQuery (Number : Type) where
  parameterList : List (QueryParameter Number)
  forecastTimeList : OrderedSet Int
  producerNameList : List ByteString

/-- What the processing of a location asks of others: the additional parameters at the
location, the content of the grid engine, and how values are written. -/
structure GridServices (Number : Type) where
  valueByLocation : ByteString → Int → Option ByteString
  valueByLocationAndTime : ByteString → Int → Int → Option ByteString
  isAdditionalParameter : ByteString → Bool
  producerName : Nat → Option ByteString
  /-- The formatted analysis time of a generation. -/
  generationTime : Nat → Option ByteString
  producerNames : ByteString → List ByteString
  formatNumber : Number → Int → ByteString
  missingText : ByteString
  haveModelArea : Bool

/-- A cell a loop has come to, and the text that it has set if any. -/
structure Cell where
  col : Nat
  row : Nat
  text : Option ByteString

/-- Where the loops over the values have got. -/
structure Filling where
  cells : List Cell
  lastRow : Nat
  generationId : Nat
  geometryId : Nat

/-- A value list has been read beyond its end. -/
structure OutOfBounds

/-- How the processing of a location can fail to return. -/
inductive GridFailure
  | disabled
  | queryServer (result : Int)
  | undefined (access : OutOfBounds)

section

variable {Number : Type}

/-- `mValueList[t]` -/
def valueAt (valueList : List (ParameterValues Number)) (t : Nat) :
    Except OutOfBounds (ParameterValues Number) :=
  match valueList[t]? with
  | some values => .ok values
  | none => .error ⟨⟩

/-- `max_values_per_timestep` -/
def maxValuesPerTimestep (param : QueryParameter Number) : Nat :=
  param.valueList.foldl (fun vLen values => max values.valueList.length vLen) 0

/-- `set_grid_value`. Only parameters with a single value in a timestep are output. -/
def gridValueText (services : GridServices Number) (param : QueryParameter Number) (vLen v : Nat)
    (values : ParameterValues Number) : Option ByteString :=
  if vLen = 1 then
    match values.valueList[v]? with
    | some ⟨value, []⟩ =>
        match value with
        | some number =>
            some (services.formatNumber number (if param.precision ≥ 0 then param.precision else 6))
        | none => some services.missingText
    | some ⟨_, text⟩ => some text
    | none => some services.missingText
  else none

/-- The body of the loops of `set_data_values`. -/
def setDataValue (services : GridServices Number) (param : QueryParameter Number)
    (vLen col rows v : Nat) (filling : Filling) (t : Nat) : Except OutOfBounds Filling := do
  let values ← valueAt param.valueList t
  .ok
    { cells := filling.cells ++ [⟨col, rows + t, gridValueText services param vLen v values⟩]
      lastRow := max (rows + t) filling.lastRow
      generationId := if filling.generationId = 0 then values.generationId else filling.generationId
      geometryId :=
        if !services.haveModelArea ∧ filling.geometryId = 0 ∧ values.geometryId ≠ 0 then
          values.geometryId
        else filling.geometryId }

/-- `set_data_values` -/
def setDataValues (services : GridServices Number) (param : QueryParameter Number)
    (vLen tLen col rows : Nat) (filling : Filling) : Except OutOfBounds Filling :=
  (List.range vLen).foldlM (fun filling v =>
    (List.range tLen).foldlM (setDataValue services param vLen col rows v) filling) filling

/-- The first answer of the parameters at a time. -/
def firstAnswer {α : Type} (answer : ParameterValues Number → Option α) (t : Nat) :
    List (QueryParameter Number) → Except OutOfBounds (Option α)
  | [] => .ok none
  | param :: rest => do
      let values ← valueAt param.valueList t
      match answer values with
      | some found => .ok (some found)
      | none => firstAnswer answer t rest

/-- A level other than zero. Pressure levels are given in pascals. -/
def levelAnswer (values : ParameterValues Number) : Option Int :=
  let levelValue :=
    if values.parameterLevel > 0 then
      if values.parameterLevelId = 2 then values.parameterLevel / 100 else values.parameterLevel
    else 0
  if levelValue = 0 then none else some levelValue

/-- `level_value_at` -/
def levelValueAt (gridQuery : GridQuery Number) (t : Nat) : Except OutOfBounds Int := do
  let levelValue ← firstAnswer levelAnswer t gridQuery.parameterList
  .ok (levelValue.getD 0)

/-- The producer that the values name. -/
def producerAnswer (services : GridServices Number) (values : ParameterValues Number) :
    Option ByteString :=
  if values.producerId > 0 then services.producerName values.producerId else none

/-- `find_producer_name` -/
def findProducerName (services : GridServices Number) (gridQuery : GridQuery Number) (t : Nat) :
    Except OutOfBounds (Option ByteString) :=
  firstAnswer (producerAnswer services) t gridQuery.parameterList

/-- `default_producer_name` -/
def defaultProducerName (services : GridServices Number) (gridQuery : GridQuery Number) :
    ByteString :=
  match gridQuery.producerNameList with
  | [name] => (services.producerNames name).headD (ascii "Unknown")
  | _ => ascii "Unknown"

/-- The time of the generation that the values name. -/
def originTimeAnswer (services : GridServices Number) (values : ParameterValues Number) :
    Option ByteString :=
  if values.generationId > 0 then services.generationTime values.generationId else none

/-- `find_origin_time` -/
def findOriginTime (services : GridServices Number) (gridQuery : GridQuery Number) (t : Nat) :
    Except OutOfBounds (Option ByteString) :=
  firstAnswer (originTimeAnswer services) t gridQuery.parameterList

/-- The text of a value in `multi_match_value`, as long as its buffer. -/
def matchText (services : GridServices Number) (values : ParameterValues Number) : ByteString :=
  (values.parameterKey ++ ascii ":" ++ intDecimal values.parameterLevelId ++ ascii ":" ++
    intDecimal values.parameterLevel ++ ascii ":" ++ intDecimal values.forecastType ++ ascii ":" ++
    intDecimal values.forecastNumber ++ ascii ":" ++
    (services.producerName values.producerId).getD []).take 9999

/-- `multi_match_value`. It goes through the value list of the parameter itself. -/
def multiMatchValue (services : GridServices Number) (param : QueryParameter Number)
    (forecastTime : Int) : ByteString :=
  let pList := (param.valueList.filter fun values => values.forecastTimeUTC = forecastTime).foldl
    (fun pList values => OrderedSet.insert (matchText services values) pList) .empty
  pList.keys.foldl (fun multiMatch text => multiMatch ++ text ++ ascii " ")
    (ascii "### MULTI-MATCH ### ")

/-- The text of a special parameter at a time. -/
def specialValue (services : GridServices Number) (gridQuery : GridQuery Number)
    (param : QueryParameter Number) (t : Nat) (forecastTime : Int) :
    Except OutOfBounds (Option ByteString) :=
  match services.valueByLocation param.param param.precision with
  | some text => .ok (some text)
  | none =>
  match services.valueByLocationAndTime param.param forecastTime param.precision with
  | some text => .ok (some text)
  | none =>
    if param.param = ascii "level" then do
      let level ← levelValueAt gridQuery t
      .ok (some (intDecimal level))
    else if param.param = ascii "model" ∨ param.param = ascii "producer" then do
      let producer ← findProducerName services gridQuery t
      .ok (some (producer.getD (defaultProducerName services gridQuery)))
    else if param.param = ascii "origintime" then do
      let originTime ← findOriginTime services gridQuery t
      .ok (some (originTime.getD (ascii "Unknown")))
    else if param.valueList.length > gridQuery.forecastTimeList.keys.length then
      .ok (some (multiMatchValue services param forecastTime))
    else if services.isAdditionalParameter param.param then .ok none
    else .ok (some services.missingText)

/-- The body of the loop of `set_special_values`. -/
def setSpecialValue (services : GridServices Number) (gridQuery : GridQuery Number)
    (param : QueryParameter Number) (col rows : Nat) (filling : Filling) (time : Int × Nat) :
    Except OutOfBounds Filling := do
  let text ← specialValue services gridQuery param time.2 time.1
  .ok { filling with
    cells := filling.cells ++ [⟨col, rows + time.2, text⟩]
    lastRow := max (rows + time.2) filling.lastRow }

/-- `set_special_values` -/
def setSpecialValues (services : GridServices Number) (gridQuery : GridQuery Number)
    (param : QueryParameter Number) (col rows : Nat) (filling : Filling) :
    Except OutOfBounds Filling :=
  gridQuery.forecastTimeList.keys.zipIdx.foldlM
    (setSpecialValue services gridQuery param col rows) filling

/-- The query has returned values for the parameter, and not more than there are times. -/
def hasData (gridQuery : GridQuery Number) (param : QueryParameter Number) : Bool :=
  maxValuesPerTimestep param > 0 ∧
    param.valueList.length ≤ gridQuery.forecastTimeList.keys.length

/-- The body of the loop over the parameters. -/
def setParameter (services : GridServices Number) (gridQuery : GridQuery Number) (rowCount : Nat)
    (filling : Filling) (param : QueryParameter Number × Nat) : Except OutOfBounds Filling :=
  if hasData gridQuery param.1 then
    setDataValues services param.1 (maxValuesPerTimestep param.1)
      gridQuery.forecastTimeList.keys.length param.2 rowCount filling
  else setSpecialValues services gridQuery param.1 param.2 rowCount filling

/-- The loop over the parameters. -/
def setParameters (services : GridServices Number) (gridQuery : GridQuery Number) (rowCount : Nat) :
    Except OutOfBounds Filling :=
  gridQuery.parameterList.zipIdx.foldlM (setParameter services gridQuery rowCount) ⟨[],
    rowCount, 0, 0⟩

/-- `processGridQuery`, from the result of the query on: the cells and the next free row. -/
def processGridQuery (services : GridServices Number) (enabled : Bool) (result : Int)
    (gridQuery : GridQuery Number) (rowCount : Nat) : Except GridFailure (List Cell × Nat) :=
  if !enabled then .error .disabled
  else if result ≠ 0 then .error (.queryServer result)
  else match setParameters services gridQuery rowCount with
    | .error access => .error (.undefined access)
    | .ok filling => .ok (filling.cells, filling.lastRow + 1)

end

end SmartMetWfs.Handlers
