import SmartMetWfs.Parameters.StoredQuery

/-!
# Queries of an ad hoc filter

An ad hoc request carries a filter, a tree of XML elements. Each of the queries that it
is turned into has parameters and a filter expression, an XPath text over conditions.
This module has the elements, the queries, and what is done to a single query: reading
a comparison into its filter expression, reading a parameter, and copying what one query
has into another.

Queries are objects which others refer to by their address. An access to a query that
has been removed, or to one in an empty list, is a `Fault`; a request that is refused
is a `FilterError`. To copy a parameter its value is read after it has been destroyed.
-/

namespace SmartMetWfs.AdHoc

open Foundation Parameters

/-- A DOM element: its names, attributes, text and child elements. -/
inductive Element
  | mk (tagName localName namespaceUri : ByteString) (attributes : List (ByteString × ByteString))
      (text : ByteString) (children : List Element)

namespace Element

/-- The qualified name of the element. -/
def tagName : Element → ByteString
  | mk tagName _ _ _ _ _ => tagName

/-- The name without its prefix. -/
def localName : Element → ByteString
  | mk _ localName _ _ _ _ => localName

/-- The namespace of the element. -/
def namespaceUri : Element → ByteString
  | mk _ _ namespaceUri _ _ _ => namespaceUri

/-- The attributes in their order. -/
def attributes : Element → List (ByteString × ByteString)
  | mk _ _ _ attributes _ _ => attributes

/-- The elements inside, in their order. -/
def children : Element → List Element
  | mk _ _ _ _ _ children => children

/-- The tag name in lower case, by which elements are told apart. -/
def elementName (element : Element) : ByteString := asciiTolowerCopy element.tagName

/-- The value of an attribute, if it is there. -/
def getAttr (element : Element) (name : ByteString) : Option ByteString :=
  (element.attributes.find? fun entry => entry.1 = name).map Prod.snd

end Element

/-- The namespace of filters. -/
def fesNamespaceUri : ByteString := ascii "http://www.opengis.net/fes/2.0"

/-- How the contents of elements are read. A bounding box and a time position have one
value; `leavesRest` tells whether `strtod` leaves something of a text. -/
structure XmlReader (ν : Type) where
  readEnvelope : Element → Option ν
  readDateTime : Element → Option ν
  readString : Element → Option ByteString
  checkLimits : ν → Option ν → Option ν → Bool
  leavesRest : ByteString → Bool

/-- A query by what the extraction reads and writes of it. -/
structure AdHocQuery (ν : Type) where
  address : Nat
  params : RequestParameterMap ν
  filterExpression : ByteString
  skippedParams : List Element

/-- A request that is refused. -/
inductive FilterError
  | notSupported
  | conflictingParam (name : ByteString)
  | tooMany (name : ByteString) (actualCount maxOccurs : Int)
  | unreadable (element : Element)
  | outOfLimits (name : ByteString)
  | missingDescription (realName : ByteString)
  | missingParam (name : ByteString)

/-- An access to something that is not there. -/
inductive Fault
  | emptyList
  | removedQuery
  | badIndex
  deriving DecidableEq

/-- What ends the extraction: the request is refused, something is not there, or a value is
read that has been destroyed. -/
inductive Failure
  | refused (error : FilterError)
  | faulted (fault : Fault)
  | destroyedValue

variable {ν : Type}

namespace AdHocQuery

/-- A new query has neither parameters nor conditions. -/
def create (caseSensitiveParams : Bool) (address : Nat) : AdHocQuery ν :=
  ⟨address, .empty caseSensitiveParams, [], []⟩

/-- `is_query_used`. -/
def isQueryUsed (query : AdHocQuery ν) : Bool :=
  query.params.params.size ≠ 0 || query.filterExpression ≠ []

/-- The last part of `read_comparison_operation`. -/
def addFilter (query : AdHocQuery ν) (newFilter : ByteString) : AdHocQuery ν :=
  { query with
    filterExpression :=
      if query.filterExpression = [] then ascii "//wfs:member[(" ++ newFilter ++ ascii ")]"
      else query.filterExpression.dropLast ++ (ascii " and (" ++ newFilter ++ ascii ")]") }

end AdHocQuery

/-! ### Comparisons -/

/-- `is_comparison_operation`. -/
def isComparisonOperation (elementName : ByteString) : Bool :=
  elementName = ascii "fes:propertyisequalto" || elementName = ascii "fes:propertyisnotequalto" ||
    elementName = ascii "fes:propertyislessthan" ||
    elementName = ascii "fes:propertyisgreaterthan" ||
    elementName = ascii "fes:propertyislessthanorequalto" ||
    elementName = ascii "fes:propertyisgreaterthanorequalto"

/-- `get_comparison_operation`: how the operator is written in an expression. -/
def getComparisonOperation (elementName : ByteString) : ByteString :=
  if elementName = ascii "fes:propertyisequalto" then ascii "="
  else if elementName = ascii "fes:propertyisnotequalto" then ascii "!="
  else if elementName = ascii "fes:propertyislessthan" then ascii "<"
  else if elementName = ascii "fes:propertyisgreaterthan" then ascii ">"
  else if elementName = ascii "fes:propertyislessthanorequalto" then ascii "<="
  else if elementName = ascii "fes:propertyisgreaterthanorequalto" then ascii ">="
  else []

/-- How many of the values have to match. -/
inductive MatchActionType
  | all
  | any
  | one
  deriving DecidableEq

/-- `read_match_case`: the case matters unless it is said not to. -/
def readMatchCase (element : Element) : Bool :=
  element.getAttr (ascii "matchCase") ≠ some (ascii "false")

/-- `read_match_action`: any value matches unless another action is named. -/
def readMatchAction (element : Element) : MatchActionType :=
  if element.getAttr (ascii "matchAction") = some (ascii "All") then .all
  else if element.getAttr (ascii "matchAction") = some (ascii "One") then .one
  else .any

/-- `read_value_reference`: the reference with its axis, and whether it is a mere
attribute. -/
def readValueReference (value : ByteString) : ByteString × Bool :=
  if value.head? = some 64 then (ascii "descendant::" ++ (ascii "*/" ++ value), true)
  else (ascii "descendant::" ++ value, false)

/-- `read_literal`: the limit value, and whether it is a string. -/
def readLiteral (reader : XmlReader ν) (value : ByteString) (matchCase : Bool) :
    ByteString × Bool :=
  if reader.leavesRest value || value = ascii "NaN" then
    (ascii "'" ++ (if matchCase then value else asciiTolowerCopy value) ++ ascii "'", true)
  else (value, false)

/-- `match_filter_expression`. -/
def matchFilterExpression (matchAction : MatchActionType)
    (reference operation limitValue : ByteString) : ByteString :=
  match matchAction with
  | .all => ascii "every $x in " ++ reference ++ ascii " satisfies $x " ++ operation ++
      ascii " " ++ limitValue
  | .one => ascii "count(" ++ reference ++ ascii "[. " ++ operation ++ ascii " " ++ limitValue ++
      ascii "]) = 1"
  | .any => reference ++ ascii " " ++ operation ++ ascii " " ++ limitValue

/-- The local variables of `read_comparison_operation`. -/
structure Comparison where
  nbOfValueReferences : UInt8
  reference : ByteString
  limitValue : ByteString
  isValueString : Bool
  isReferenceAttribute : Bool
  is2ndReferenceAttribute : Bool

/-- Nothing of a comparison has been read. -/
def Comparison.start : Comparison := ⟨0, [], [], false, false, false⟩

/-- A child of a comparison element. -/
def readComparisonChild (reader : XmlReader ν) (matchCase : Bool) (comparison : Comparison)
    (child : Element) : Except Failure Comparison :=
  match reader.readString child with
  | none => .error (.refused (.unreadable child))
  | some value =>
      if child.elementName = ascii "fes:valuereference" then
        let (text, isAttribute) := readValueReference value
        let nbOfValueReferences := comparison.nbOfValueReferences + 1
        .ok (if nbOfValueReferences = 1 then
          { comparison with
            nbOfValueReferences, reference := text, isReferenceAttribute := isAttribute }
        else
          { comparison with
            nbOfValueReferences, limitValue := text, is2ndReferenceAttribute := isAttribute })
      else if child.elementName = ascii "fes:literal" then
        let (text, isString) := readLiteral reader value matchCase
        .ok { comparison with
          limitValue := text, isValueString := comparison.isValueString || isString }
      else .ok comparison

/-- The text in lower case, in an expression. -/
def lowerCaseOf (text : ByteString) : ByteString := ascii "lower-case(" ++ text ++ ascii ")"

/-- The text as a number, in an expression. -/
def numberOf (text : ByteString) : ByteString := ascii "number(" ++ text ++ ascii ")"

/-- The condition that `read_comparison_operation` adds to a query. -/
def readComparisonOperation (reader : XmlReader ν) (element : Element) :
    Except Failure ByteString := do
  let matchCase := readMatchCase element
  let operation := getComparisonOperation element.elementName
  let comparison ← (element.children.filter fun child =>
    child.namespaceUri = fesNamespaceUri).foldlM (readComparisonChild reader matchCase) .start
  let two := comparison.nbOfValueReferences = 2
  -- Between two references only equality compares strings.
  let (reference, limitValue) :=
    if two ∧ operation ≠ ascii "=" ∧ operation ≠ ascii "!=" then
      (numberOf comparison.reference, numberOf comparison.limitValue)
    else if matchCase = false ∧ (comparison.isValueString = true ∨ two) then
      (if comparison.isReferenceAttribute then comparison.reference
        else lowerCaseOf comparison.reference,
      if two ∧ comparison.is2ndReferenceAttribute = false then lowerCaseOf comparison.limitValue
        else comparison.limitValue)
    else (comparison.reference, comparison.limitValue)
  return matchFilterExpression (readMatchAction element) reference operation limitValue

/-! ### Parameters -/

/-- `is_query_parameter`. -/
def isQueryParameter (elementName : ByteString) : Bool :=
  elementName = ascii "fes:bbox" || elementName = ascii "gml:timeposition"

/-- The name and the value of a parameter element. The enclosing elements are listed from
the innermost one; the begin and the end of a period have names of their own. -/
def parameterName (elementTree : List ByteString) (element : Element) : ByteString :=
  let paramName := asciiTolowerCopy element.localName
  if element.elementName = ascii "gml:timeposition" then
    match elementTree with
    | timeInstant :: edge :: timePeriod :: during :: _ :: _ =>
        if during = ascii "fes:during" ∧ timePeriod = ascii "gml:timeperiod" ∧
            timeInstant = ascii "gml:timeinstant" then
          if edge = ascii "gml:begin" then ascii "starttime"
          else if edge = ascii "gml:end" then ascii "endtime"
          else paramName
        else paramName
    | _ => paramName
  else paramName

/-- The value that an element gives to its parameter. -/
def parameterValue (reader : XmlReader ν) (element : Element) : Option ν :=
  if element.elementName = ascii "fes:bbox" then reader.readEnvelope element
  else reader.readDateTime element

/-- The local containers of one call of `extract_filter_elements`. -/
structure Level where
  paramNameSet : Multiset ByteString
  forbidden : OrderedSet ByteString
  isFirstOrQuery : Bool

/-- The level before its first element. -/
def Level.start : Level := ⟨0, .empty, true⟩

/-- `read_query_parameter`. -/
def readQueryParameter (reader : XmlReader ν) (config : StoredQueryConfig ν)
    (elementTree : List ByteString) (element : Element) (level : Level) (query : AdHocQuery ν) :
    Except Failure (Level × AdHocQuery ν) :=
  let paramName := parameterName elementTree element
  match config.getParamDesc paramName with
  | .error realName => .error (.refused (.missingDescription realName))
  | .ok none => .ok (level, { query with skippedParams := query.skippedParams ++ [element] })
  | .ok (some paramDesc) =>
      if level.forbidden.contains paramName then .error (.refused (.conflictingParam paramName))
      else if paramDesc.maxOccurs < (level.paramNameSet.count paramName : Int) + 1 then
        .error (.refused (.tooMany paramName (level.paramNameSet.count paramName + 1)
          paramDesc.maxOccurs))
      else
        match parameterValue reader element with
        | none => .error (.refused (.unreadable element))
        | some value =>
            if reader.checkLimits value paramDesc.lowerLimit paramDesc.upperLimit then
              .ok ({ level with
                  paramNameSet := paramName ::ₘ level.paramNameSet
                  forbidden := paramDesc.conflictsWith.keys.foldl
                    (fun forbidden it => OrderedSet.insert (asciiTolowerCopy it) forbidden)
                    level.forbidden },
                { query with params := query.params.insertValue paramName value })
            else .error (.refused (.outOfLimits paramName))

/-! ### Copying -/

/-- `get_param`: the range of a parameter in the multimap that `get_map` returns. That
multimap lives to the end of the statement only: whatever is looked at in the range, and the
value that is returned by reference, have been destroyed. -/
def getParam (query : AdHocQuery ν) (name : ByteString) : Except Failure ν :=
  match (query.params.getMap false).equalRange name with
  | [] => .error (.refused (.missingParam name))
  | _ :: _ => .error .destroyedValue

/-- What follows the first `[` of a filter expression. -/
def afterBracket (filterExpression : ByteString) : ByteString :=
  if 91 ∈ filterExpression then filterExpression.drop (filterExpression.idxOf 91 + 1)
  else filterExpression

/-- `copy_params`: the target with what the source has. -/
def copyParams (source target : AdHocQuery ν) : Except Failure (AdHocQuery ν) := do
  let params ← source.params.params.keys.foldlM
    (fun params key => return params.insertValue key (← getParam source key)) target.params
  return { target with
    params
    filterExpression :=
      if source.filterExpression = [] then target.filterExpression
      else if target.filterExpression = [] then source.filterExpression
      else target.filterExpression.dropLast ++
        (ascii " and " ++ afterBracket source.filterExpression) }

end SmartMetWfs.AdHoc
