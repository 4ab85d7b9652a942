import SmartMetWfs.Core.Decimal
import SmartMetWfs.Core.IntArithmetic
import SmartMetWfs.Foundation.Selection
import SmartMetWfs.Request.PresentationParameters
import SmartMetWfs.Request.QueryResponses

/-!
# Several queries in one request

`execute_multiple_queries` puts the responses of the queries of a request into one
feature collection: a member for each response, with the selected members of the
response whose position lies in the requested page. Positions are counted on through
all responses.
-/

namespace SmartMetWfs.Request

open Foundation Xml

/-- Why a request cannot be answered. -/
inductive RequestFailure
  | thrown (thrown : Thrown)
  | onlyDefaultOutputFormat
  | debugFormatNotSupported
  | xml (failure : XmlFailure)
  | outOfRange
  | overflow

theorem ok_bind {α β : Type} (value : α) (next : α → Except RequestFailure β) :
    (Except.ok value >>= next) = next value := rfl

theorem error_bind {α β : Type} (failure : RequestFailure) (next : α → Except RequestFailure β) :
    (Except.error failure >>= next) = .error failure := rfl

theorem map_ok {α β : Type} (change : α → β) (value : α) :
    (Except.ok value : Except RequestFailure α).map change = .ok (change value) := rfl

theorem map_error {α β : Type} (change : α → β) (failure : RequestFailure) :
    (Except.error failure : Except RequestFailure α).map change = .error failure := rfl

/-- The value of an `int` expression. -/
def checkedInt (value : Int) : Except RequestFailure Int :=
  if InInt value then pure value else throw .overflow

theorem checkedInt_ok {value : Int} (inInt : InInt value) : checkedInt value = .ok value :=
  if_pos inInt

theorem checkedInt_error {value : Int} (outside : ¬ InInt value) :
    checkedInt value = .error .overflow :=
  if_neg outside

/-- Go on with what the libraries read. -/
def readXml {α : Type} (result : Except XmlFailure α) : Except RequestFailure α :=
  result.mapError .xml

@[simp] theorem readXml_ok {α : Type} {result : Except XmlFailure α} {value : α} :
    readXml result = .ok value ↔ result = .ok value := by
  cases result <;> simp [readXml, Except.mapError]

/-! ### Reading a response -/

def featureCollection : ByteString := ascii "FeatureCollection"

/-- The path of the members of a feature collection. -/
def memberPath (pathPrefix : ByteString) : ByteString :=
  ascii "/" ++ pathPrefix ++ featureCollection ++ ascii "/" ++ pathPrefix ++ ascii "member"

/-- The expression of `AdHocQuery::filter`. -/
def filterExpressionOf (query : Query) : ByteString :=
  if query.filterExpression = [] then ascii "//wfs:member" else query.filterExpression

/-- `select_response_members`. Both expressions select elements. -/
def selectResponseMembers (context : RequestContext) (query : Query) (document : Node)
    (pathPrefix : ByteString) : Except RequestFailure Snapshot :=
  match query.queryType with
  | .query => readXml (context.xml.xpathQuery document (filterExpressionOf query))
  | .storedQuery => readXml (context.xml.xpathQuery document (memberPath pathPrefix))

def isFeatureCollection (root : Node) : Bool :=
  root.namespaceUri = some wfsNamespaceUri ∧ root.getLocalName = featureCollection

/-- A response that has been parsed, with its selected members if it is a collection. -/
inductive ReadResponse
  | collection (root : Node) (isCollection : isFeatureCollection root = true) (xps : Snapshot)
  | other (root : Node) (isOther : ¬ isFeatureCollection root = true)

/-- The prefix of the root with a colon; without a prefix the colon stands alone. -/
def rootPrefix (root : Node) : ByteString :=
  match root.getPrefix with
  | some rootPrefix => rootPrefix ++ ascii ":"
  | none => ascii ":"

def readQueryResponse (context : RequestContext) (query : Query) (queryResponse : ByteString) :
    Except RequestFailure ReadResponse := do
  let root ← readXml (context.xml.parseDomDocument queryResponse)
  if isCollection : isFeatureCollection root then do
    let xps ← selectResponseMembers context query root (rootPrefix root)
    pure (.collection root isCollection xps)
  else pure (.other root isCollection)

theorem readQueryResponse_collection {context : RequestContext} {query : Query}
    {queryResponse : ByteString} {root : Node} {isCollection : isFeatureCollection root = true}
    {xps : Snapshot}
    (read : readQueryResponse context query queryResponse =
      .ok (.collection root isCollection xps)) :
    context.xml.parseDomDocument queryResponse = .ok root ∧
      selectResponseMembers context query root (rootPrefix root) = .ok xps := by
  unfold readQueryResponse at read
  obtain ⟨root', parsed, readRoot⟩ := ok_of_bind read
  by_cases isCollection' : isFeatureCollection root' = true
  · rw [dif_pos isCollection'] at readRoot
    obtain ⟨xps', selected, same⟩ := ok_of_bind readRoot
    cases same
    exact ⟨readXml_ok.mp parsed, selected⟩
  · rw [dif_neg isCollection'] at readRoot
    cases readRoot

/-- The members that a response has been selected for. -/
def ReadResponse.members : ReadResponse → List Node
  | .collection _ _ xps => xps.items
  | .other _ _ => []

/-! ### Importing it -/

/-- The document that is being made and the counters of the loop over the responses. -/
structure MultiResponse where
  root : Node
  memberInd : Nat
  numMatched : Nat
  timeStamp : Option ByteString

/-- The copy of one collection and the counters of the loop over its members. -/
structure CollectionCopy where
  fcElem : Node
  currNumReturned : Nat
  memberInd : Nat
  numMatched : Nat

def importMember (startIndex endIndex : Nat) (copy : CollectionCopy) (item : Node) :
    CollectionCopy :=
  let copy := { copy with numMatched := copy.numMatched + 1 }
  let copy :=
    if startIndex ≤ copy.memberInd ∧ copy.memberInd ≤ endIndex then
      { copy with
        currNumReturned := copy.currNumReturned + 1
        fcElem := copy.fcElem.appendChild item }
    else copy
  { copy with memberInd := copy.memberInd + 1 }

/-- A `wfs:member` element with the content. -/
def wfsMember (content : Node) : Node :=
  (Node.createElement wfsNamespaceUri (ascii "wfs:member")).appendChild content

/-- `import_response_members`. -/
def importResponseMembers (startIndex endIndex : Nat) (queryResponseRoot : Node) (xps : Snapshot)
    (multi : MultiResponse) : MultiResponse :=
  let copy := xps.items.foldl (importMember startIndex endIndex)
    ⟨queryResponseRoot.importShallow, 0, multi.memberInd, multi.numMatched⟩
  let fcElem := copy.fcElem.setAttr (ascii "numberReturned") (decimal copy.currNumReturned)
  { multi with
    root := multi.root.appendChild (wfsMember fcElem)
    memberInd := copy.memberInd
    numMatched := copy.numMatched }

def readTimeStamp (root : Node) (timeStamp : Option ByteString) : Option ByteString :=
  (root.getAttribute (ascii "timeStamp")).or timeStamp

/-- The end of the page in `size_t` arithmetic. -/
def endIndex (spp : PresentationParameters) : Nat :=
  (spp.startIndex.toNat + spp.count.toNat + (2 ^ 64 - 1)) % 2 ^ 64

/-- What is done to a response when it has been read. -/
def importReadResponse (spp : PresentationParameters) (multi : MultiResponse) :
    ReadResponse → MultiResponse
  | .collection root _ xps =>
      let multi := { multi with timeStamp := readTimeStamp root multi.timeStamp }
      if spp.isHitsOnlyRequest then { multi with memberInd := multi.memberInd + xps.size }
      else importResponseMembers spp.startIndex.toNat (endIndex spp) root xps multi
  | .other root _ => { multi with root := multi.root.appendChild (wfsMember root) }

variable (context : RequestContext) (spp : PresentationParameters)

def importQueryResponse (multi : MultiResponse) (query : Query) (queryResponse : ByteString) :
    Except RequestFailure MultiResponse := do
  let response ← readQueryResponse context query queryResponse
  pure (importReadResponse spp multi response)

/-- The loop over the responses; the query is the one with the index of the response. -/
def importQueryResponses (queries : List Query) (queryResponses : List ByteString)
    (multi : MultiResponse) : Except RequestFailure MultiResponse :=
  (List.range queryResponses.length).foldlM (fun multi i =>
    match queryResponses[i]?, queries[i]? with
    | some queryResponse, some query => importQueryResponse context spp multi query queryResponse
    | _, _ => throw .outOfRange) multi

/-- The root element with its declarations. -/
def MultiResponse.start : MultiResponse where
  root := (((Node.createElement wfsNamespaceUri (ascii "wfs:FeatureCollection")).setAttr
    (ascii "xmlns:gml") (ascii "http://www.opengis.net/gml/3.2")).setAttr
    (ascii "xmlns:xsi") (ascii "http://www.w3.org/2001/XMLSchema-instance")).setAttr
    (ascii "xsi:schemaLocation") (ascii "http://www.opengis.net/wfs/2.0 http://schemas.opengis.net/wfs/2.0/wfs.xsd http://www.opengis.net/gml/3.2 http://schemas.opengis.net/gml/3.2.1/gml.xsd")
  memberInd := 0
  numMatched := 0
  timeStamp := none

/-- The answer to a request: its document, and whether its status is that of a bad request. -/
structure MultiAnswer where
  document : Node
  badRequest : Bool

def finish (queries : List Query) (someSucceeded : Bool) (multi : MultiResponse) : MultiAnswer where
  document := ((multi.root.setAttr (ascii "numberMatched") (decimal multi.memberInd)).setAttr
    (ascii "numberReturned") (decimal multi.numMatched)).setAttr
    (ascii "timeStamp") (multi.timeStamp.getD (context.timeStamp ++ ascii "Z"))
  badRequest := !someSucceeded && !queries.isEmpty

/-- `execute_multiple_queries`. -/
def executeMultipleQueries (queries : List Query) : Except RequestFailure MultiAnswer := do
  if !spp.usesDefaultFormat then
    throw .onlyDefaultOutputFormat
  let collected ← (collectQueryResponses context true queries).mapError RequestFailure.thrown
  let multi ← importQueryResponses context spp queries collected.queryResponses .start
  pure (finish context queries collected.someSucceeded multi)

/-- What is written of an answer. -/
def MultiAnswer.output (answer : MultiAnswer) : ByteString :=
  ascii "<?xml version=\"1.0\" encoding=\"UTF-8\" ?>\n" ++ context.xml.xml2string answer.document

/-! ### The loop as a fold over the responses -/

theorem importQueryResponses_eq {queries : List Query} {queryResponses : List ByteString}
    (aligned : queries.length = queryResponses.length) (multi : MultiResponse) :
    importQueryResponses context spp queries queryResponses multi =
      (queries.zip queryResponses).foldlM
        (fun multi pair => importQueryResponse context spp multi pair.1 pair.2) multi := by
  have sameLength : queryResponses.length = (queries.zip queryResponses).length := by
    rw [List.length_zip, aligned, Nat.min_self]
  unfold importQueryResponses
  rw [sameLength]
  apply foldlM_range
  intro index pair found state
  obtain ⟨query, response⟩ := List.getElem?_zip_eq_some.mp found
  simp only [query, response]

/-- Collecting the responses ends with an exception only if an execution is interrupted.
Otherwise every query has the response it would get alone at its own position, success is
reported exactly when some query succeeded, and the loop over the responses pairs each
with its query. -/
theorem collectQueryResponses_aligned (queries : List Query) :
    Meets (fun thrown => thrown = .threadInterrupted ∧ ∃ query ∈ queries, Interrupted context query)
      (collectQueryResponses context true queries) fun collected =>
        Aligned context queries collected ∧ ∀ spp multi,
          importQueryResponses context spp queries collected.queryResponses multi =
            (queries.zip collected.queryResponses).foldlM
              (fun multi pair => importQueryResponse context spp multi pair.1 pair.2) multi := by
  apply (collectQueryResponses_meets context queries).imp
  intro collected aligned
  exact ⟨aligned, fun spp multi =>
    importQueryResponses_eq context spp aligned.answered.length_eq multi⟩

/-- A stored query whose execution is interrupted. -/
def interruptedQuery : Query :=
  { sampleQuery .storedQuery (.text []) with execute := fun _ _ => .error .threadInterrupted }

/-- An interruption ends the collection although there is no ad hoc query. -/
theorem interruptedQuery_throws :
    ∃ thrown, collectQueryResponses (sampleContext []) true [interruptedQuery] = .error thrown ∧
      ¬ ∃ query ∈ [interruptedQuery], query.queryType = .query := by
  refine ⟨.threadInterrupted, rfl, ?_⟩
  intro ⟨query, member, adHoc⟩
  cases List.mem_singleton.mp member
  cases adHoc

/-- What the loop reads, if every response can be read. -/
def readQueryResponses (queries : List Query) (queryResponses : List ByteString) :
    Except RequestFailure (List ReadResponse) :=
  (queries.zip queryResponses).mapM fun pair => readQueryResponse context pair.1 pair.2

theorem foldlM_importQueryResponse {pairs : List (Query × ByteString)}
    {responses : List ReadResponse}
    (read : pairs.mapM (fun pair => readQueryResponse context pair.1 pair.2) = .ok responses)
    (multi : MultiResponse) :
    pairs.foldlM (fun multi pair => importQueryResponse context spp multi pair.1 pair.2) multi =
      .ok (responses.foldl (importReadResponse spp) multi) := by
  have imported : responses.foldlM (fun multi response =>
      (pure (importReadResponse spp multi response) : Except RequestFailure MultiResponse)) multi =
        .ok (responses.foldl (importReadResponse spp) multi) := List.foldlM_pure
  rw [← imported]
  apply foldlM_of_mapM _ read
  intro multi pair response readFirst
  rw [importQueryResponse, readFirst]
  rfl

/-- Every response of the request can be read: the responses are `responses`. -/
structure Readable (queries : List Query) (responses : List ReadResponse) : Prop where
  defaultFormat : spp.usesDefaultFormat = true
  read : ∃ collected, collectQueryResponses context true queries = .ok collected ∧
    readQueryResponses context queries collected.queryResponses = .ok responses

theorem executeMultipleQueries_ok {queries : List Query} {responses : List ReadResponse}
    (readable : Readable context spp queries responses) :
    ∃ collected, collectQueryResponses context true queries = .ok collected ∧
      executeMultipleQueries context spp queries =
        .ok (finish context queries collected.someSucceeded
          (responses.foldl (importReadResponse spp) .start)) := by
  obtain ⟨collected, ran, read⟩ := readable.read
  refine ⟨collected, ran, ?_⟩
  have aligned := (collectQueryResponses_meets context queries).of_ok ran
  have imported := importQueryResponses_eq context spp aligned.answered.length_eq .start
  rw [foldlM_importQueryResponse context spp read] at imported
  unfold executeMultipleQueries
  rw [readable.defaultFormat, ran]
  simp only [Except.mapError, bind, Except.bind, imported]
  rfl

/-! ### What is imported -/

/-- The members in the copies of the collections of a document. -/
def importedMembers (document : Node) : List Node :=
  document.children.flatMap fun member =>
    member.children.flatMap fun root => if isFeatureCollection root then root.children else []

/-- The position is one of the requested page, as the loop sees it. -/
def inPage (position : Nat) : Bool :=
  decide (spp.startIndex.toNat ≤ position ∧ position ≤ endIndex spp)

/-- What the import of responses with the given members adds. -/
structure Imports (before after : MultiResponse) (members : List Node) : Prop where
  isElement : after.root.getNodeType = .elementNode
  imported : importedMembers after.root = importedMembers before.root ++
    if spp.isHitsOnlyRequest then [] else select (inPage spp) before.memberInd members
  memberInd : after.memberInd = before.memberInd + members.length
  numMatched : after.numMatched =
    before.numMatched + if spp.isHitsOnlyRequest then 0 else members.length

theorem Imports.trans {first second third : MultiResponse} {members more : List Node}
    (left : Imports spp first second members) (right : Imports spp second third more) :
    Imports spp first third (members ++ more) where
  isElement := right.isElement
  imported := by
    rw [right.imported, left.imported, left.memberInd]
    cases spp.isHitsOnlyRequest <;> simp [select_append]
  memberInd := by
    rw [right.memberInd, left.memberInd, List.length_append, Nat.add_assoc]
  numMatched := by
    rw [right.numMatched, left.numMatched]
    cases spp.isHitsOnlyRequest <;> simp [Nat.add_assoc]

/-- The copy of a collection after some of its members. -/
structure Copied (before after : CollectionCopy) (members : List Node) : Prop where
  isElement : after.fcElem.getNodeType = .elementNode
  isCollection : isFeatureCollection after.fcElem = isFeatureCollection before.fcElem
  children : after.fcElem.children =
    before.fcElem.children ++ select (inPage spp) before.memberInd members
  memberInd : after.memberInd = before.memberInd + members.length
  numMatched : after.numMatched = before.numMatched + members.length

theorem isFeatureCollection_appendChild (root child : Node) :
    isFeatureCollection (root.appendChild child) = isFeatureCollection root := by
  cases root <;> rfl

theorem isFeatureCollection_setAttr (name value : ByteString) (root : Node) :
    isFeatureCollection (root.setAttr name value) = isFeatureCollection root := by
  cases root <;> rfl

theorem isFeatureCollection_importShallow (root : Node) :
    isFeatureCollection root.importShallow = isFeatureCollection root := by
  cases root <;> rfl

theorem importMember_copied (copy : CollectionCopy) (item : Node)
    (isElement : copy.fcElem.getNodeType = .elementNode) :
    Copied spp copy (importMember spp.startIndex.toNat (endIndex spp) copy item) [item] := by
  by_cases kept : spp.startIndex.toNat ≤ copy.memberInd ∧ copy.memberInd ≤ endIndex spp
  · constructor
    · simpa [importMember, kept] using isElement
    · simp [importMember, kept, isFeatureCollection_appendChild]
    · simp [importMember, kept, inPage, select_cons, select_nil, isElement]
    · simp [importMember, kept]
    · simp [importMember, kept]
  · constructor
    · simpa only [importMember, kept, if_false] using isElement
    · simp only [importMember, kept, if_false]
    · simp [importMember, kept, inPage, select_cons, select_nil]
    · simp [importMember, kept]
    · simp [importMember, kept]

theorem foldl_importMember_copied (items : List Node) (copy : CollectionCopy)
    (isElement : copy.fcElem.getNodeType = .elementNode) :
    Copied spp copy (items.foldl (importMember spp.startIndex.toNat (endIndex spp)) copy)
      items := by
  induction items generalizing copy with
  | nil => exact ⟨isElement, rfl, (List.append_nil _).symm, rfl, rfl⟩
  | cons item items ih =>
      have first := importMember_copied spp copy item isElement
      have rest := ih _ first.isElement
      constructor
      · exact rest.isElement
      · exact rest.isCollection.trans first.isCollection
      · have split := select_append (inPage spp) copy.memberInd [item] items
        rw [List.foldl_cons, rest.children, first.children, first.memberInd, List.append_assoc,
          ← split]
        rfl
      · rw [List.foldl_cons, rest.memberInd, first.memberInd, List.length_cons]
        simp only [List.length_cons, List.length_nil]
        omega
      · rw [List.foldl_cons, rest.numMatched, first.numMatched, List.length_cons]
        simp only [List.length_cons, List.length_nil]
        omega

theorem importedMembers_wfsMember {root : Node} (isElement : root.getNodeType = .elementNode)
    (content : Node) :
    importedMembers (root.appendChild (wfsMember content)) = importedMembers root ++
      if isFeatureCollection content then content.children else [] := by
  have content_only : (wfsMember content).children = [content] := rfl
  simp [importedMembers, isElement, content_only]

theorem getNodeType_of_isFeatureCollection {root : Node} (isCollection : isFeatureCollection root) :
    root.getNodeType = .elementNode := by
  cases root with
  | element => rfl
  | attr => simp [isFeatureCollection, Node.namespaceUri] at isCollection
  | text => simp [isFeatureCollection, Node.namespaceUri] at isCollection

theorem importReadResponse_imports (multi : MultiResponse)
    (isElement : multi.root.getNodeType = .elementNode) (response : ReadResponse) :
    Imports spp multi (importReadResponse spp multi response) response.members := by
  cases response with
  | other root isOther =>
      constructor
      · simpa [importReadResponse] using isElement
      · simp [importReadResponse, importedMembers_wfsMember isElement, isOther,
          ReadResponse.members, select_nil]
      · rfl
      · simp [importReadResponse, ReadResponse.members]
  | collection root isCollection xps =>
      cases hitsOnly : spp.isHitsOnlyRequest with
      | true =>
          constructor
          · simpa [importReadResponse, hitsOnly] using isElement
          · simp [importReadResponse, hitsOnly]
          · simp [importReadResponse, hitsOnly, Snapshot.size, ReadResponse.members]
          · simp [importReadResponse, hitsOnly]
      | false =>
          have copied := foldl_importMember_copied spp xps.items
            ⟨root.importShallow, 0, multi.memberInd, multi.numMatched⟩
            ((Node.getNodeType_importShallow root).trans
              (getNodeType_of_isFeatureCollection isCollection))
          have copyOfCollection := copied.isCollection.trans
            ((isFeatureCollection_importShallow root).trans isCollection)
          have children := copied.children
          simp only [Node.children_importShallow, List.nil_append] at children
          constructor
          · simpa [importReadResponse, hitsOnly, importResponseMembers] using isElement
          · simp [importReadResponse, hitsOnly, importResponseMembers,
              importedMembers_wfsMember isElement, isFeatureCollection_setAttr, copyOfCollection,
              children, ReadResponse.members]
          · simpa [importReadResponse, hitsOnly, importResponseMembers, ReadResponse.members]
              using copied.memberInd
          · simpa [importReadResponse, hitsOnly, importResponseMembers, ReadResponse.members]
              using copied.numMatched

/-- The loop over the responses imports what stands on the page. -/
theorem foldl_importReadResponse_imports (responses : List ReadResponse) (multi : MultiResponse)
    (isElement : multi.root.getNodeType = .elementNode) :
    Imports spp multi (responses.foldl (importReadResponse spp) multi)
      (responses.flatMap ReadResponse.members) := by
  induction responses generalizing multi with
  | nil =>
      refine ⟨isElement, ?_, rfl, ?_⟩
      · cases spp.isHitsOnlyRequest <;> simp [select_nil]
      · cases spp.isHitsOnlyRequest <;> simp
  | cons response responses ih =>
      have first := importReadResponse_imports spp multi isElement response
      exact first.trans spp (ih _ first.isElement)

/-! ### The page -/

/-- The end of the page is the last position of the page unless the page begins at the
first position and is empty; then it is the largest number of a `size_t`. -/
theorem endIndex_eq :
    endIndex spp = if spp.startIndex.toNat + spp.count.toNat = 0 then 2 ^ 64 - 1
      else spp.startIndex.toNat + spp.count.toNat - 1 := by
  have startIndex := spp.startIndex_lt
  have count := spp.count_lt
  unfold endIndex
  split <;> omega

/-- All members of the responses, one response after the other. -/
def allMembers (responses : List ReadResponse) : List Node :=
  responses.flatMap ReadResponse.members

/-- The members that stand on the requested page. -/
def requestedMembers (responses : List ReadResponse) : List Node :=
  page spp.startIndex.toNat spp.count.toNat (allMembers responses)

theorem select_inPage_of_nonempty (nonempty : spp.startIndex.toNat + spp.count.toNat ≠ 0)
    (members : List Node) :
    select (inPage spp) 0 members = page spp.startIndex.toNat spp.count.toNat members := by
  rw [page_eq_select]
  apply select_congr
  intro position _ _
  apply decide_eq_decide.mpr
  rw [endIndex_eq, if_neg nonempty]
  omega

theorem imported_eq (responses : List ReadResponse) :
    importedMembers (responses.foldl (importReadResponse spp) .start).root =
      if spp.isHitsOnlyRequest then [] else select (inPage spp) 0 (allMembers responses) :=
  (foldl_importReadResponse_imports spp responses .start rfl).imported

theorem importedMembers_finish (queries : List Query) (someSucceeded : Bool)
    (multi : MultiResponse) :
    importedMembers (finish context queries someSucceeded multi).document =
      importedMembers multi.root := by
  simp [importedMembers, finish]

/-- The members on the page are imported unless the loop takes the empty page at the
beginning for everything there is, or only hits are asked for. -/
theorem imported_iff (responses : List ReadResponse) :
    importedMembers (responses.foldl (importReadResponse spp) .start).root =
        requestedMembers spp responses ↔
      if spp.isHitsOnlyRequest then
        spp.count.toNat = 0 ∨ (allMembers responses).length ≤ spp.startIndex.toNat
      else spp.startIndex.toNat ≠ 0 ∨ spp.count.toNat ≠ 0 ∨ allMembers responses = [] := by
  rw [imported_eq]
  cases spp.isHitsOnlyRequest with
  | true =>
      simp only [if_true]
      rw [eq_comm]
      exact page_eq_nil _ _ _
  | false =>
      simp only [Bool.false_eq_true, if_false]
      by_cases nonempty : spp.startIndex.toNat + spp.count.toNat = 0
      · obtain ⟨start, count⟩ := Nat.add_eq_zero_iff.mp nonempty
        simp only [start, count, ne_eq, not_true_eq_false, false_or]
        have nothing : requestedMembers spp responses = [] := by
          simp [requestedMembers, page, count]
        rw [nothing]
        cases members : allMembers responses with
        | nil => simp [select_nil]
        | cons member rest =>
            have first : inPage spp 0 = true := by simp [inPage, start]
            simp [select_cons, first]
      · have given :
            spp.startIndex.toNat ≠ 0 ∨ spp.count.toNat ≠ 0 ∨ allMembers responses = [] := by
          omega
        exact iff_of_true (select_inPage_of_nonempty spp nonempty _) given

/-- A collection of one member. -/
def oneMember : Node := sampleCollection [] [sampleMember (ascii "a")]

/-- A stored query and an ad hoc query, each with one member. -/
def twoQueries : List Query :=
  [sampleQuery .storedQuery oneMember, sampleQuery .query oneMember]

theorem oneMember_fits : [sampleMember (ascii "a")].length < 2 ^ 31 := by decide

def twoResponses : List ReadResponse :=
  let response : ReadResponse :=
    .collection oneMember (by decide) ⟨[sampleMember (ascii "a")], oneMember_fits⟩
  [response, response]

set_option maxRecDepth 20000 in
theorem readable_twoQueries (startIndex count : UInt32) :
    Readable (sampleContext [oneMember]) (.ofCounts startIndex count) twoQueries twoResponses := by
  have collected : collectQueryResponses (sampleContext [oneMember]) true twoQueries =
      .ok ⟨[writeNode oneMember, writeNode oneMember], true,
        [([], writeNode oneMember), ([], writeNode oneMember)]⟩ := rfl
  exact ⟨rfl, _, collected, rfl⟩

/-- The imported members of a request for several queries are those on the requested page
exactly when the page is not the empty one at the beginning, of which the end index is
the largest there is. -/
theorem executeMultipleQueries_importsPage_iff {queries : List Query}
    {responses : List ReadResponse} (readable : Readable context spp queries responses) :
    ∃ answer, executeMultipleQueries context spp queries = .ok answer ∧
      (importedMembers answer.document = requestedMembers spp responses ↔
        if spp.isHitsOnlyRequest then
          spp.count.toNat = 0 ∨ (allMembers responses).length ≤ spp.startIndex.toNat
        else spp.startIndex.toNat ≠ 0 ∨ spp.count.toNat ≠ 0 ∨ allMembers responses = []) := by
  obtain ⟨collected, _, ran⟩ := executeMultipleQueries_ok context spp readable
  refine ⟨_, ran, ?_⟩
  rw [importedMembers_finish]
  exact imported_iff spp responses

theorem executeMultipleQueries_importsPage_sample :
    ∃ answer, executeMultipleQueries (sampleContext [oneMember]) (.ofCounts 1 1) twoQueries =
        .ok answer ∧
      (importedMembers answer.document = requestedMembers (.ofCounts 1 1) twoResponses ↔
        if (PresentationParameters.ofCounts 1 1).isHitsOnlyRequest then
          (1 : UInt32).toNat = 0 ∨ (allMembers twoResponses).length ≤ (1 : UInt32).toNat
        else (1 : UInt32).toNat ≠ 0 ∨ (1 : UInt32).toNat ≠ 0 ∨ allMembers twoResponses = []) :=
  executeMultipleQueries_importsPage_iff _ _ (readable_twoQueries 1 1)

/-- The empty page at the beginning is answered with all members. -/
theorem emptyPage_importsAll :
    ∃ answer, executeMultipleQueries (sampleContext [oneMember]) (.ofCounts 0 0) twoQueries =
        .ok answer ∧
      importedMembers answer.document ≠ requestedMembers (.ofCounts 0 0) twoResponses := by
  obtain ⟨collected, _, ran⟩ := executeMultipleQueries_ok _ _ (readable_twoQueries 0 0)
  refine ⟨_, ran, ?_⟩
  rw [importedMembers_finish]
  intro same
  rcases (imported_iff (.ofCounts 0 0) twoResponses).mp same with start | count | empty
  · exact start rfl
  · exact count rfl
  · cases empty

/-! ### The counts -/

/-- The attribute of the document is the number. -/
def HasCount (document : Node) (name : ByteString) (number : Nat) : Prop :=
  document.getAttribute name = some (decimal number)

/-- The attributes say how many members there are and how many of them are imported. -/
structure CountsRight (document : Node) (responses : List ReadResponse) : Prop where
  matched : HasCount document (ascii "numberMatched") (allMembers responses).length
  returned : HasCount document (ascii "numberReturned") (importedMembers document).length

theorem finish_counts (queries : List Query) (someSucceeded : Bool) {multi : MultiResponse}
    (isElement : multi.root.getNodeType = .elementNode) :
    HasCount (finish context queries someSucceeded multi).document (ascii "numberMatched")
        multi.memberInd ∧
      HasCount (finish context queries someSucceeded multi).document (ascii "numberReturned")
        multi.numMatched := by
  constructor
  · unfold HasCount finish
    rw [Node.getAttribute_setAttr (by simpa using isElement), if_neg (by decide),
      Node.getAttribute_setAttr (by simpa using isElement), if_neg (by decide),
      Node.getAttribute_setAttr isElement, if_pos rfl]
  · unfold HasCount finish
    rw [Node.getAttribute_setAttr (by simpa using isElement), if_neg (by decide),
      Node.getAttribute_setAttr (by simpa using isElement), if_pos rfl]

/-- All of the members are imported. -/
theorem select_inPage_length_iff (members : List Node) :
    (select (inPage spp) 0 members).length = members.length ↔
      members = [] ∨ (spp.startIndex.toNat = 0 ∧
        members.length ≤ if spp.count.toNat = 0 then 2 ^ 64 else spp.count.toNat) := by
  constructor
  · intro full
    by_cases empty : members = []
    · exact .inl empty
    · right
      have positive := List.length_pos_iff.mpr empty
      have first := keep_of_select_length full (Nat.zero_le 0) (by omega)
      have last := keep_of_select_length full (Nat.zero_le (members.length - 1)) (by omega)
      have first := of_decide_eq_true first
      have last := of_decide_eq_true last
      rw [endIndex_eq] at last
      split
      · split at last <;> omega
      · split at last <;> omega
  · intro whole
    rcases whole with rfl | ⟨start, short⟩
    · rfl
    · apply congrArg
      apply select_all
      intro position _ below
      apply decide_eq_true
      rw [endIndex_eq]
      split at short
      · split <;> omega
      · split <;> omega

theorem countsRight_iff (queries : List Query) (someSucceeded : Bool)
    (responses : List ReadResponse) :
    CountsRight (finish context queries someSucceeded
        (responses.foldl (importReadResponse spp) .start)).document responses ↔
      spp.isHitsOnlyRequest = true ∨ allMembers responses = [] ∨ (spp.startIndex.toNat = 0 ∧
        (allMembers responses).length ≤
          if spp.count.toNat = 0 then 2 ^ 64 else spp.count.toNat) := by
  have imports := foldl_importReadResponse_imports spp responses .start rfl
  obtain ⟨matched, returned⟩ := finish_counts context queries someSucceeded imports.isElement
  rw [imports.memberInd.trans (Nat.zero_add _)] at matched
  rw [imports.numMatched.trans (Nat.zero_add _)] at returned
  have right : CountsRight (finish context queries someSucceeded
        (responses.foldl (importReadResponse spp) .start)).document responses ↔
      (if spp.isHitsOnlyRequest then 0 else (allMembers responses).length) =
        (importedMembers (finish context queries someSucceeded
          (responses.foldl (importReadResponse spp) .start)).document).length := by
    constructor
    · intro counts
      exact decimal_injective (Option.some.inj (returned.symm.trans counts.returned))
    · intro equal
      exact ⟨matched, equal ▸ returned⟩
  rw [right, importedMembers_finish, imported_eq]
  cases spp.isHitsOnlyRequest with
  | true => simp
  | false =>
      simp only [Bool.false_eq_true, if_false, false_or]
      rw [eq_comm]
      exact select_inPage_length_iff spp _

/-- The counts of a request for several queries are right exactly when it asks for hits
only or all members stand on the requested page: what is given as the number of returned
members is the number of all of them. -/
theorem executeMultipleQueries_counts_iff {queries : List Query}
    {responses : List ReadResponse} (readable : Readable context spp queries responses) :
    ∃ answer, executeMultipleQueries context spp queries = .ok answer ∧
      (CountsRight answer.document responses ↔
        spp.isHitsOnlyRequest = true ∨ allMembers responses = [] ∨ (spp.startIndex.toNat = 0 ∧
          (allMembers responses).length ≤
            if spp.count.toNat = 0 then 2 ^ 64 else spp.count.toNat)) := by
  obtain ⟨collected, _, ran⟩ := executeMultipleQueries_ok context spp readable
  exact ⟨_, ran, countsRight_iff context spp queries collected.someSucceeded responses⟩

theorem executeMultipleQueries_counts_sample :
    ∃ answer, executeMultipleQueries (sampleContext [oneMember]) (.ofCounts 0 2) twoQueries =
        .ok answer ∧
      (CountsRight answer.document twoResponses ↔
        (PresentationParameters.ofCounts 0 2).isHitsOnlyRequest = true ∨
          allMembers twoResponses = [] ∨ ((0 : UInt32).toNat = 0 ∧
            (allMembers twoResponses).length ≤
              if (2 : UInt32).toNat = 0 then 2 ^ 64 else (2 : UInt32).toNat)) :=
  executeMultipleQueries_counts_iff _ _ (readable_twoQueries 0 2)

/-- A page of one member out of two is said to have two. -/
theorem firstPage_countsAll :
    ∃ answer, executeMultipleQueries (sampleContext [oneMember]) (.ofCounts 0 1) twoQueries =
        .ok answer ∧ ¬ CountsRight answer.document twoResponses := by
  obtain ⟨collected, _, ran⟩ := executeMultipleQueries_ok _ _ (readable_twoQueries 0 1)
  refine ⟨_, ran, ?_⟩
  rw [countsRight_iff]
  intro right
  rcases right with hits | empty | ⟨_, short⟩
  · cases hits
  · cases empty
  · exact absurd short (by decide)

end SmartMetWfs.Request
