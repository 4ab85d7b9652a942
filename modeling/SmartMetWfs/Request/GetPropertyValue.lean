import SmartMetWfs.Request.MultipleQueries

/-!
# Values of a property

`GetPropertyValue` looks for the values of a property in the response of each query, or
in each member of the response of an ad hoc query with a filter. How many values are still
to be skipped and how many may still be returned is carried from one result to the next.

The answer also has a trace of the positions of the values it was asked for, counted on
through all results: no item outside a result is ever found, and a loop that asks for one
does not end well.
-/

namespace SmartMetWfs.Request

open Foundation Xml

variable (context : RequestContext) (spp : PresentationParameters)

/-! ### The loops over the values -/

def decrease (value : Option Int) : Option Int :=
  value.map fun value => if 0 < value then value - 1 else value

/-- The document that is being made, the numbers that are carried on and the positions of
the values it has. -/
structure ValueCollection where
  root : Node
  numReturned : Nat
  numMatched : Nat
  maxMembers : Option Int
  startIndex : Option Int
  isTimestampSet : Bool
  isSchemaLocationSet : Bool
  positions : List Nat

/-- A document that is looked through and the values that are found in it. -/
structure Extraction where
  root : Node
  xps : Snapshot

/-- How many values are returned at most if the request does not say. -/
def unlimited : Int := 0x7FFFFF

/-- The first and the last index of the loop in `append_members`. -/
def calculateLoopLimits (maxMembers startIndex : Option Int) (numMembers : Nat) :
    Except RequestFailure (Int × Int) := do
  let afterLast ← checkedInt (startIndex.getD 0 + min (maxMembers.getD unlimited) numMembers)
  let last ← checkedInt (afterLast - 1)
  pure (startIndex.getD 0, last)

/-- What is put under the root for a value. Names are compared without letter case. -/
def valueMember (resultNode : Node) : Node :=
  match resultNode.getNodeType with
  | .elementNode =>
      if asciiTolowerCopy resultNode.getNodeName = ascii "wfs:member" then resultNode
      else wfsMember resultNode
  | .attributeNode => wfsMember (.text resultNode.getValue)
  | .textNode => wfsMember resultNode

/-- One round of the loop: nothing outside the result is found. -/
def appendMember (xps : Snapshot) (offset : Nat) (first : Int) (values : ValueCollection)
    (step : Nat) : Except RequestFailure ValueCollection :=
  match xps.getItem (first + step) with
  | none => throw .outOfRange
  | some resultNode =>
      pure { values with
        root := values.root.appendChild (valueMember resultNode)
        numReturned := values.numReturned + 1
        startIndex := decrease values.startIndex
        maxMembers := decrease values.maxMembers
        positions := values.positions ++ [offset + (first + step).toNat] }

def copyTimestamp (source : Node) (values : ValueCollection) : ValueCollection :=
  if values.isTimestampSet then values
  else match source.getAttribute (ascii "timeStamp") with
    | some timeStamp => { values with
        root := values.root.setAttr (ascii "timeStamp") timeStamp
        isTimestampSet := true }
    | none => values

/-- The schema location is copied even if it is absent. -/
def copySchemaLocation (source : Node) (values : ValueCollection) : ValueCollection :=
  if values.isSchemaLocationSet then values
  else { values with
    root := values.root.setAttr (ascii "xsi:schemaLocation")
      (context.xml.getAttributeNS source xsiNamespaceUri (ascii "schemaLocation"))
    isSchemaLocationSet := true }

/-- `append_members`, for values of which the first has the position `offset`. -/
def appendMembers (extraction : Extraction) (offset : Nat) (values : ValueCollection) :
    Except RequestFailure ValueCollection := do
  let limits ← calculateLoopLimits values.maxMembers values.startIndex extraction.xps.size
  (List.range (limits.2 - limits.1 + 1).toNat).foldlM
    (appendMember extraction.xps offset limits.1)
    (copySchemaLocation context extraction.root (copyTimestamp extraction.root values))

/-- The number of the values that match is an `int`. -/
def addMatched (values : ValueCollection) (numMembers : Nat) :
    Except RequestFailure ValueCollection :=
  if values.numMatched + numMembers < 2 ^ 31 then
    pure { values with numMatched := values.numMatched + numMembers }
  else throw .overflow

/-- More values may be returned. -/
def wantsMore (values : ValueCollection) : Bool :=
  match values.maxMembers with
  | none => true
  | some maxMembers => 0 < maxMembers

/-- What `extract_property` does with the values it finds. -/
def appendExtraction (values : ValueCollection) (extraction : Extraction) :
    Except RequestFailure ValueCollection :=
  if 0 < extraction.xps.size then do
    let matched ← addMatched values extraction.xps.size
    if wantsMore matched then appendMembers context extraction values.numMatched matched
    else pure matched
  else pure values

/-! ### The responses -/

variable (valueReference : ByteString)

def readExtraction (response : ByteString) : Except RequestFailure Extraction := do
  let root ← readXml (context.xml.parseDomDocument response)
  let xps ← readXml (context.xml.xpathQuery root valueReference)
  pure ⟨root, xps⟩

/-- `extract_property`. -/
def extractProperty (values : ValueCollection) (response : ByteString) :
    Except RequestFailure ValueCollection := do
  let extraction ← readExtraction context valueReference response
  appendExtraction context values extraction

/-- The texts in which values are looked for: the members of the response that pass the
filter of an ad hoc query, or the response. -/
def extractionTexts (query : Query) (response : ByteString) :
    Except RequestFailure (List ByteString) :=
  if query.queryType = .query ∧ query.filterExpression ≠ [] then do
    let root ← readXml (context.xml.parseDomDocument response)
    let xps ← readXml (context.xml.xpathQuery root (filterExpressionOf query))
    pure (xps.items.map context.xml.xml2string)
  else pure [response]

/-- `filter`. -/
def filterResponse (values : ValueCollection) (query : Query) (response : ByteString) :
    Except RequestFailure ValueCollection := do
  let texts ← extractionTexts context query response
  texts.foldlM (extractProperty context valueReference) values

/-- `add_responses`; the query is the one with the index of the response. -/
def addResponses (queries : List Query) (queryResponses : List ByteString)
    (values : ValueCollection) : Except RequestFailure ValueCollection :=
  (List.range queryResponses.length).foldlM (fun values i =>
    match queryResponses[i]?, queries[i]? with
    | some queryResponse, some query =>
        filterResponse context valueReference values query queryResponse
    | _, _ => throw .outOfRange) values

/-- `initialize`, with the empty document. -/
def initialValues : ValueCollection where
  root := Node.createElement wfsNamespaceUri (ascii "wfs:ValueCollection")
  numReturned := 0
  numMatched := 0
  maxMembers :=
    if spp.isHitsOnlyRequest then some 0
    else if spp.haveCounts then some (toInt spp.count) else none
  startIndex :=
    if spp.isHitsOnlyRequest then none
    else if spp.haveCounts then some (toInt spp.startIndex) else none
  isTimestampSet := false
  isSchemaLocationSet := false
  positions := []

/-- `finalize`. -/
def finalizeValues (values : ValueCollection) : Node :=
  let root := (values.root.setAttr (ascii "numberMatched") (decimal values.numMatched)).setAttr
    (ascii "numberReturned") (decimal values.numReturned)
  let root :=
    if values.isTimestampSet then root
    else root.setAttr (ascii "timeStamp") (context.timeStamp ++ ascii "Z")
  if values.isSchemaLocationSet then root
  else (root.setAttr (ascii "xmlns:xsi")
    (ascii "http://www.w3.org/2001/XMLSchema-instance")).setAttr
    (ascii "xsi:schemaLocation") (ascii "http://www.opengis.net/wfs/2.0 http://schemas.opengis.net/wfs/2.0/wfs.xsd http://www.opengis.net/gml/3.2 http://schemas.opengis.net/gml/3.2.1/gml.xsd")

/-- The answer to a request, with the positions of the values it has. -/
structure ValueAnswer where
  document : Node
  badRequest : Bool
  positions : List Nat

/-- `execute`. -/
def executeGetPropertyValue (queries : List Query) : Except RequestFailure ValueAnswer := do
  if spp.outputFormat = debugOutputFormat then
    throw .debugFormatNotSupported
  if queries.isEmpty then
    let values := initialValues spp
    pure ⟨finalizeValues context values, false, values.positions⟩
  else do
    let collected ← (collectQueryResponses context false queries).mapError RequestFailure.thrown
    let values ←
      (if collected.someSucceeded then
        addResponses context valueReference queries collected.queryResponses (initialValues spp)
      else pure (initialValues spp))
    pure ⟨finalizeValues context values, !collected.someSucceeded, values.positions⟩

end SmartMetWfs.Request
