import SmartMetWfs.Request.MultipleQueries

/-!
# One query in a request

`execute_single_query` answers a request for one query without the detour over a
collection of collections: the response is passed on, or its selected members on the
requested page are put under a copy of its root, or only their number is given. The
arithmetic is that of `int` here.

The answer is compared with the one that `execute_multiple_queries` gives to the list of
that one query.
-/

namespace SmartMetWfs.Request

open Foundation Xml

variable (context : RequestContext) (spp : PresentationParameters)

/-! ### The three answers -/

/-- A colon behind a prefix unless it is empty. -/
def withColon (found : ByteString) : ByteString :=
  if found ≠ [] then found ++ ascii ":" else found

/-- The document for a request for hits. An absent time stamp is read as an empty text. -/
def hitsDocument (root : Node) (xps : Snapshot) : Node :=
  (((((Node.createElement wfsNamespaceUri (ascii "wfs:FeatureCollection")).setAttr
    (ascii "numberMatched") (decimal xps.size)).setAttr
    (ascii "numberReturned") (ascii "0")).setAttr
    (ascii "timeStamp") ((root.getAttribute (ascii "timeStamp")).getD []))).setAttr
    (ascii "xsi:schemaLocation")
    (ascii "http://www.opengis.net/wfs/2.0 http://schemas.opengis.net/wfs/2.0/wfs.xsd")

/-- The items of the loop from `startIndex` to `endIndex` that stops at the end of the
snapshot. -/
def takeMembers (xps : Snapshot) (startIndex endIndex : Int) : Except RequestFailure (List Node) :=
  match xps.getItems startIndex (min (endIndex + 1) xps.size - startIndex).toNat with
  | some items => pure items
  | none => throw .outOfRange

/-- A copy of the root with the members and their number. -/
def pageDocument (root : Node) (members : List Node) : Node :=
  (members.foldl Node.appendChild root.importShallow).setAttr (ascii "numberReturned")
    (decimal members.length)

/-- The copy of the root with the members of the page. -/
def copyPage (root : Node) (xps : Snapshot) : Except RequestFailure Node := do
  let afterEnd ← checkedInt (toInt spp.startIndex + toInt spp.count)
  let endIndex ← checkedInt (afterEnd - 1)
  let members ← takeMembers xps (toInt spp.startIndex) endIndex
  pure (pageDocument root members)

/-- Both ways of selecting read the response in the same way. -/
def readSelected (query : Query) (response : ByteString) :
    Except RequestFailure (Node × Snapshot) := do
  if !spp.usesDefaultFormat then
    throw .onlyDefaultOutputFormat
  let root ← readXml (context.xml.parseDomDocument response)
  let found ← readXml (context.xml.lookupPrefix root wfsNamespaceUri)
  let xps ← selectResponseMembers context query root (withColon found)
  pure (root, xps)

/-- `create_hits_only_response`. -/
def createHitsOnlyResponse (query : Query) (src : ByteString) : Except RequestFailure Node := do
  let (root, xps) ← readSelected context spp query src
  pure (hitsDocument root xps)

def selectFromResponse (query : Query) (response : ByteString) : Except RequestFailure Node := do
  let (root, xps) ← readSelected context spp query response
  copyPage spp root xps

/-- The answer to a request for one query: a document or the response as it is. -/
inductive SingleAnswer
  | hitsOnly (document : Node)
  | members (document : Node)
  | unchanged (response : ByteString)

/-- The request selects from the response. -/
def selects (query : Query) : Bool := spp.haveCounts || query.queryType = .query

def answerSingleQuery (query : Query) : Except RequestFailure SingleAnswer := do
  let collected ← (collectQueryResponses context false [query]).mapError RequestFailure.thrown
  match collected.queryResponses[0]? with
  | none => throw .outOfRange
  | some response =>
      if spp.isHitsOnlyRequest then
        (createHitsOnlyResponse context spp query response).map .hitsOnly
      else if selects spp query then
        (selectFromResponse context spp query response).map .members
      else pure (.unchanged response)

/-- What is written of an answer. -/
def SingleAnswer.output : SingleAnswer → ByteString
  | .hitsOnly document => context.substituteAll (context.xml.xml2string document)
  | .members document => context.substituteAll
      (ascii "<?xml version=\"1.0\" encoding=\"UTF-8\" ?>\n" ++ context.xml.xml2string document)
  | .unchanged response => context.substituteAll response

/-- `execute_single_query`. -/
def executeSingleQuery (query : Query) : Except RequestFailure ByteString :=
  (answerSingleQuery context spp query).map (SingleAnswer.output context)

/-! ### What an answer says -/

/-- The members of an answer and what it says of their numbers. -/
structure Written where
  members : List Node
  numberMatched : Option ByteString
  numberReturned : Option ByteString

/-- The document with these members says this. -/
def writtenOf (members : List Node) (document : Node) : Written :=
  ⟨members, document.getAttribute (ascii "numberMatched"),
    document.getAttribute (ascii "numberReturned")⟩

/-- A response that is passed on has the members that were to be selected. -/
def SingleAnswer.written (response : ReadResponse) : SingleAnswer → Written
  | .hitsOnly document => writtenOf document.children document
  | .members document => writtenOf document.children document
  | .unchanged _ =>
      match response with
      | .collection root _ xps => writtenOf xps.items root
      | .other root _ => writtenOf [] root

def MultiAnswer.written (answer : MultiAnswer) : Written :=
  writtenOf (importedMembers answer.document) answer.document

/-- What an answer should say: the members on the page, none if only hits are asked for,
how many they are, and how many were selected. -/
def rightlyWritten (xps : Snapshot) : Written :=
  let members :=
    if spp.isHitsOnlyRequest then [] else page spp.startIndex.toNat spp.count.toNat xps.items
  ⟨members, some (decimal xps.size), some (decimal members.length)⟩

/-! ### Reading the same response -/

/-- The prefix that is found for the namespace of features selects the same members as
the prefix of the root, and a colon without a prefix is no path. -/
structure ResolvesPrefixes (xml : XmlLibrary) : Prop where
  resolves : ∀ root, isFeatureCollection root = true →
    ∃ found, xml.lookupPrefix root wfsNamespaceUri = .ok found ∧
      ∀ own, root.getPrefix = some own →
        xml.xpathQuery root (memberPath (withColon found)) =
          xml.xpathQuery root (memberPath (own ++ ascii ":"))
  bareColon : ∀ root, ∃ failure, xml.xpathQuery root (memberPath (ascii ":")) = .error failure

variable {context spp}

theorem selectResponseMembers_found (prefixes : ResolvesPrefixes context.xml) {query : Query}
    {root : Node} {xps : Snapshot} (isCollection : isFeatureCollection root = true)
    (selected : selectResponseMembers context query root (rootPrefix root) = .ok xps) :
    ∃ found, context.xml.lookupPrefix root wfsNamespaceUri = .ok found ∧
      selectResponseMembers context query root (withColon found) = .ok xps := by
  obtain ⟨found, lookedUp, same⟩ := prefixes.resolves root isCollection
  refine ⟨found, lookedUp, ?_⟩
  unfold selectResponseMembers rootPrefix at *
  cases kind : query.queryType with
  | query =>
      simp only [kind] at selected ⊢
      exact selected
  | storedQuery =>
      simp only [kind] at selected ⊢
      cases own : root.getPrefix with
      | some rootOwn =>
          rw [own] at selected
          rw [same rootOwn own]
          exact selected
      | none =>
          rw [own] at selected
          obtain ⟨failure, failed⟩ := prefixes.bareColon root
          rw [readXml_ok, failed] at selected
          cases selected

/-- A request for one query reads what a request for several queries reads. -/
theorem readSelected_of_readable (prefixes : ResolvesPrefixes context.xml) {query : Query}
    {root : Node} {isCollection : isFeatureCollection root = true} {xps : Snapshot}
    (readable : Readable context spp [query] [.collection root isCollection xps])
    (succeeds : Succeeds context query) :
    ∃ response collected, collectQueryResponses context false [query] = .ok collected ∧
      collected.queryResponses = [response] ∧
      readSelected context spp query response = .ok (root, xps) := by
  obtain ⟨collected, ran, read⟩ := readable.read
  have aligned := (collectQueryResponses_meets context [query]).of_ok ran
  rw [collectQueryResponses_of_succeeds context succeeds true false] at ran
  obtain ⟨response, responses⟩ := List.length_eq_one_iff.mp aligned.answered.length_eq.symm
  have collection : readQueryResponse context query response =
      .ok (.collection root isCollection xps) := by
    rw [responses] at read
    unfold readQueryResponses at read
    simp only [List.zip_cons_cons, List.zip_nil_right, List.mapM_cons, List.mapM_nil] at read
    cases first : readQueryResponse context query response with
    | error failure =>
        rw [first] at read
        cases read
    | ok own =>
        rw [first] at read
        cases read
        rfl
  obtain ⟨parsed, selected⟩ := readQueryResponse_collection collection
  obtain ⟨found, lookedUp, again⟩ := selectResponseMembers_found prefixes isCollection selected
  refine ⟨response, collected, ran, responses, ?_⟩
  unfold readSelected
  rw [readable.defaultFormat, readXml_ok.mpr parsed]
  simp only [bind, Except.bind, readXml_ok.mpr lookedUp, again]
  rfl

theorem answerSingleQuery_eq (prefixes : ResolvesPrefixes context.xml) {query : Query}
    {root : Node} {isCollection : isFeatureCollection root = true} {xps : Snapshot}
    (readable : Readable context spp [query] [.collection root isCollection xps])
    (succeeds : Succeeds context query) :
    ∃ response, answerSingleQuery context spp query =
      if spp.isHitsOnlyRequest then .ok (.hitsOnly (hitsDocument root xps))
      else if selects spp query then (copyPage spp root xps).map .members
      else .ok (.unchanged response) := by
  obtain ⟨response, collected, ran, responses, read⟩ :=
    readSelected_of_readable prefixes readable succeeds
  refine ⟨response, ?_⟩
  have first : collected.queryResponses[0]? = some response := by
    rw [responses]
    rfl
  unfold answerSingleQuery createHitsOnlyResponse selectFromResponse
  rw [ran]
  simp only [Except.mapError, bind, Except.bind, first, read]
  rfl

/-! ### What each answer says -/

theorem pageDocument_written {root : Node} (isElement : root.getNodeType = .elementNode)
    (members : List Node) :
    writtenOf (pageDocument root members).children (pageDocument root members) =
      ⟨members, root.getAttribute (ascii "numberMatched"), some (decimal members.length)⟩ := by
  have copyIsElement : (members.foldl Node.appendChild root.importShallow).getNodeType =
      .elementNode := by
    rw [Node.getNodeType_foldl_appendChild, Node.getNodeType_importShallow, isElement]
  have shallowIsElement := (Node.getNodeType_importShallow root).trans isElement
  unfold writtenOf pageDocument
  rw [Node.children_setAttr, Node.children_foldl_appendChild members shallowIsElement,
    Node.children_importShallow, Node.getAttribute_setAttr copyIsElement,
    Node.getAttribute_setAttr copyIsElement, if_neg (by decide), if_pos rfl,
    Node.getAttribute_foldl_appendChild, Node.getAttribute_importShallow]
  rfl

theorem copyPage_eq (spp : PresentationParameters) (root : Node) (xps : Snapshot) :
    copyPage spp root xps =
      if InInt (toInt spp.startIndex + toInt spp.count) ∧
          InInt (toInt spp.startIndex + toInt spp.count - 1) then
        (takeMembers xps (toInt spp.startIndex)
          (toInt spp.startIndex + toInt spp.count - 1)).map (pageDocument root)
      else .error .overflow := by
  unfold copyPage
  generalize toInt spp.startIndex = startIndex
  generalize toInt spp.count = count
  by_cases afterEnd : InInt (startIndex + count)
  · rw [checkedInt_ok afterEnd, ok_bind]
    by_cases endIndex : InInt (startIndex + count - 1)
    · rw [if_pos ⟨afterEnd, endIndex⟩, checkedInt_ok endIndex, ok_bind]
      cases takeMembers xps startIndex (startIndex + count - 1) with
      | ok members => exact ok_bind members _
      | error failure => exact error_bind failure _
    · rw [if_neg fun both => endIndex both.2, checkedInt_error endIndex, error_bind]
  · rw [if_neg fun both => afterEnd both.1, checkedInt_error afterEnd, error_bind]

theorem takeMembers_ok {xps : Snapshot} {startIndex endIndex : Int} {items : List Node}
    (got : xps.getItems startIndex (min (endIndex + 1) xps.size - startIndex).toNat = some items) :
    takeMembers xps startIndex endIndex = .ok items := by
  rw [takeMembers, got]
  rfl

theorem takeMembers_error {xps : Snapshot} {startIndex endIndex : Int}
    (got : xps.getItems startIndex (min (endIndex + 1) xps.size - startIndex).toNat = none) :
    takeMembers xps startIndex endIndex = .error .outOfRange := by
  rw [takeMembers, got]
  rfl

/-- The `int` arithmetic of the page is defined and the loop begins inside the response or
does not begin. -/
structure SelectsSafely (spp : PresentationParameters) : Prop where
  afterEnd : InInt (toInt spp.startIndex + toInt spp.count)
  endIndex : InInt (toInt spp.startIndex + toInt spp.count - 1)
  begins : 0 ≤ toInt spp.startIndex ∨ toInt spp.count ≤ 0

/-- From a response without members a page is copied if nothing overflows and no item is
asked for. -/
theorem copyPage_empty (spp : PresentationParameters) (root : Node) {xps : Snapshot}
    (empty : xps.size = 0) (document : Node) :
    copyPage spp root xps = .ok document ↔
      SelectsSafely spp ∧ document = pageDocument root [] := by
  rw [copyPage_eq]
  by_cases inInt : InInt (toInt spp.startIndex + toInt spp.count) ∧
      InInt (toInt spp.startIndex + toInt spp.count - 1)
  · rw [if_pos inInt]
    by_cases begins : 0 ≤ toInt spp.startIndex ∨ toInt spp.count ≤ 0
    · have steps : (min (toInt spp.startIndex + toInt spp.count - 1 + 1) (xps.size : Int) -
          toInt spp.startIndex).toNat = 0 := by omega
      have got := Snapshot.getItems_zero xps (toInt spp.startIndex)
      rw [← steps] at got
      rw [takeMembers_ok got, map_ok, Except.ok.injEq, eq_comm]
      simp only [iff_and_self]
      exact fun _ => ⟨inInt.1, inInt.2, begins⟩
    · have steps : (min (toInt spp.startIndex + toInt spp.count - 1 + 1) (xps.size : Int) -
          toInt spp.startIndex).toNat ≠ 0 := by omega
      have got : xps.getItems (toInt spp.startIndex) _ = none :=
        Snapshot.getItems_outside _ steps (by omega)
      rw [takeMembers_error got, map_error]
      simp only [reduceCtorEq, false_iff, not_and]
      exact fun safely => absurd safely.begins begins
  · rw [if_neg inInt]
    simp only [reduceCtorEq, false_iff, not_and]
    exact fun safely => absurd ⟨safely.afterEnd, safely.endIndex⟩ inInt

/-- A page that begins with the first member and is long enough has all members, unless
its length is no `int`. -/
theorem copyPage_whole {spp : PresentationParameters} (root : Node) {xps : Snapshot}
    (start : spp.startIndex.toNat = 0) (enough : xps.size ≤ spp.count.toNat)
    (document : Node) :
    copyPage spp root xps = .ok document ↔
      if spp.count.toNat < 2 ^ 31 then document = pageDocument root xps.items
      else spp.count.toNat ≠ 2 ^ 31 ∧ document = pageDocument root [] := by
  have countBound := spp.count_lt
  have startInt : toInt spp.startIndex = 0 := by
    rw [toInt_eq, start]
    rfl
  have countInt := toInt_eq spp.count
  rw [copyPage_eq, startInt, Int.zero_add]
  by_cases small : spp.count.toNat < 2 ^ 31
  · rw [if_pos small] at countInt
    have inInt : InInt (toInt spp.count) ∧ InInt (toInt spp.count - 1) := by
      unfold InInt
      omega
    have steps : (min (toInt spp.count - 1 + 1) (xps.size : Int) - 0).toNat = xps.size := by
      omega
    have got := Snapshot.getItems_page 0 xps.size (Nat.le_of_eq (Nat.zero_add xps.size))
    have all : page 0 xps.size xps.items = xps.items := List.take_length
    rw [all, Int.natCast_zero, ← steps] at got
    rw [if_pos inInt, takeMembers_ok got, map_ok, if_pos small, Except.ok.injEq, eq_comm]
  · rw [if_neg small] at countInt
    rw [if_neg small]
    by_cases least : spp.count.toNat = 2 ^ 31
    · have overflow : ¬ (InInt (toInt spp.count) ∧ InInt (toInt spp.count - 1)) := by
        unfold InInt
        omega
      rw [if_neg overflow]
      simp only [reduceCtorEq, least, ne_eq, not_true_eq_false, false_and]
    · have inInt : InInt (toInt spp.count) ∧ InInt (toInt spp.count - 1) := by
        unfold InInt
        omega
      have steps : (min (toInt spp.count - 1 + 1) (xps.size : Int) - 0).toNat = 0 := by omega
      have got := Snapshot.getItems_zero xps 0
      rw [← steps] at got
      rw [if_pos inInt, takeMembers_ok got, map_ok, Except.ok.injEq, eq_comm]
      simp only [ne_eq, least, not_false_eq_true, true_and]

/-! ### Where the two agree -/

/-- A request for several queries says of its only response what it should exactly when
all members stand on the page. -/
theorem multiAnswer_right_iff (context : RequestContext) (spp : PresentationParameters)
    (queries : List Query) (someSucceeded : Bool) {root : Node}
    (isCollection : isFeatureCollection root = true) (xps : Snapshot) :
    (finish context queries someSucceeded ([ReadResponse.collection root isCollection xps].foldl
        (importReadResponse spp) .start)).written = rightlyWritten spp xps ↔
      spp.isHitsOnlyRequest = true ∨ xps.size = 0 ∨
        (spp.startIndex.toNat = 0 ∧ xps.size ≤ spp.count.toNat) := by
  have imports := foldl_importReadResponse_imports spp
    [ReadResponse.collection root isCollection xps] .start rfl
  obtain ⟨matched, returned⟩ := finish_counts context queries someSucceeded imports.isElement
  have members : [ReadResponse.collection root isCollection xps].flatMap ReadResponse.members =
      xps.items := List.append_nil _
  rw [imports.memberInd.trans (Nat.zero_add _), members] at matched
  rw [imports.numMatched.trans (Nat.zero_add _), members] at returned
  have imported := imports.imported
  rw [members] at imported
  have written : (finish context queries someSucceeded
      ([ReadResponse.collection root isCollection xps].foldl (importReadResponse spp)
        .start)).written =
      ⟨if spp.isHitsOnlyRequest then [] else select (inPage spp) 0 xps.items,
        some (decimal xps.size),
        some (decimal (if spp.isHitsOnlyRequest then 0 else xps.size))⟩ := by
    unfold MultiAnswer.written writtenOf
    rw [importedMembers_finish, imported, matched, returned]
    rfl
  rw [written, rightlyWritten]
  cases spp.isHitsOnlyRequest with
  | true => simp
  | false =>
      simp only [Bool.false_eq_true, if_false, false_or, Written.mk.injEq, true_and,
        Option.some.injEq, decimal_injective.eq_iff, page_length]
      constructor
      · intro ⟨_, counted⟩
        simp only [Snapshot.size] at counted ⊢
        omega
      · intro whole
        have counted :
            xps.size = min spp.count.toNat (xps.items.length - spp.startIndex.toNat) := by
          simp only [Snapshot.size] at whole ⊢
          omega
        refine ⟨?_, counted⟩
        by_cases nonempty : spp.startIndex.toNat + spp.count.toNat = 0
        · have none : xps.items = [] := by
            apply List.length_eq_zero_iff.mp
            simp only [Snapshot.size] at whole
            omega
          rw [none]
          simp [page, select_nil]
        · exact select_inPage_of_nonempty spp nonempty xps.items

/-- The two ways of answering a request for one query say the same of its members, and
what they should. -/
def PathsAgree (context : RequestContext) (spp : PresentationParameters) (query : Query)
    (response : ReadResponse) (xps : Snapshot) : Prop :=
  ∃ single answer, answerSingleQuery context spp query = .ok single ∧
    executeMultipleQueries context spp [query] = .ok answer ∧
    single.written response = answer.written ∧ answer.written = rightlyWritten spp xps

/-- The response has been selected from, and the page is the whole response: it begins
with the first member and its length is an `int` that is large enough, or there is no
member and the arithmetic of the page is defined. The root says how many there are. -/
structure WholeSelected (spp : PresentationParameters) (root : Node) (xps : Snapshot) : Prop where
  matched : HasCount root (ascii "numberMatched") xps.size
  page : if xps.size = 0 then SelectsSafely spp else
    spp.startIndex.toNat = 0 ∧ xps.size ≤ spp.count.toNat ∧ spp.count.toNat < 2 ^ 31

/-- The response has been passed on, has no more members than the default count, and says
how many there are. -/
structure WholePassedOn (root : Node) (xps : Snapshot) : Prop where
  matched : HasCount root (ascii "numberMatched") xps.size
  returned : HasCount root (ascii "numberReturned") xps.size
  short : xps.size ≤ defaultCount.toNat

/-- The whole response stands on the page. -/
def Whole (spp : PresentationParameters) (xps : Snapshot) : Prop :=
  xps.size = 0 ∨ (spp.startIndex.toNat = 0 ∧ xps.size ≤ spp.count.toNat)

theorem rightlyWritten_whole {spp : PresentationParameters} {xps : Snapshot}
    (results : spp.isHitsOnlyRequest = false) (whole : Whole spp xps) :
    rightlyWritten spp xps = ⟨xps.items, some (decimal xps.size), some (decimal xps.size)⟩ := by
  have all : page spp.startIndex.toNat spp.count.toNat xps.items = xps.items := by
    rcases whole with none | ⟨start, enough⟩
    · rw [List.length_eq_zero_iff.mp none]
      simp [page]
    · rw [start]
      exact List.take_of_length_le enough
  simp only [rightlyWritten, results, Bool.false_eq_true, if_false, all]
  rfl

theorem WholeSelected.whole {spp : PresentationParameters} {root : Node} {xps : Snapshot}
    (selected : WholeSelected spp root xps) : Whole spp xps := by
  have page := selected.page
  unfold Whole
  split at page
  · next none => exact .inl none
  · next => exact .inr ⟨page.1, page.2.1⟩

theorem selected_right_iff {spp : PresentationParameters} {root : Node} {xps : Snapshot}
    (isElement : root.getNodeType = .elementNode) (results : spp.isHitsOnlyRequest = false)
    (whole : Whole spp xps) :
    (∃ document, copyPage spp root xps = .ok document ∧
        writtenOf document.children document = rightlyWritten spp xps) ↔
      WholeSelected spp root xps := by
  rw [rightlyWritten_whole results whole]
  by_cases none : xps.size = 0
  · have empty : xps.items = [] := List.length_eq_zero_iff.mp none
    simp only [copyPage_empty spp root none]
    constructor
    · intro ⟨document, ⟨safely, equal⟩, written⟩
      rw [equal, pageDocument_written isElement] at written
      refine ⟨(Written.mk.inj written).2.1, ?_⟩
      rw [if_pos none]
      exact safely
    · intro selected
      have safely := selected.page
      rw [if_pos none] at safely
      refine ⟨_, ⟨safely, rfl⟩, ?_⟩
      rw [pageDocument_written isElement, selected.matched, none, empty]
      rfl
  · rcases whole with impossible | ⟨start, enough⟩
    · exact absurd impossible none
    simp only [copyPage_whole root start enough]
    by_cases small : spp.count.toNat < 2 ^ 31
    · simp only [small, if_true]
      constructor
      · intro ⟨document, equal, written⟩
        rw [equal, pageDocument_written isElement] at written
        refine ⟨(Written.mk.inj written).2.1, ?_⟩
        rw [if_neg none]
        exact ⟨start, enough, small⟩
      · intro selected
        refine ⟨_, rfl, ?_⟩
        rw [pageDocument_written isElement, selected.matched]
        rfl
    · simp only [small, if_false]
      constructor
      · intro ⟨document, ⟨_, equal⟩, written⟩
        rw [equal, pageDocument_written isElement] at written
        have empty := (Written.mk.inj written).1
        exact absurd (congrArg List.length empty).symm none
      · intro selected
        have page := selected.page
        rw [if_neg none] at page
        exact absurd page.2.2 small

theorem passedOn_right_iff {spp : PresentationParameters} {root : Node} {xps : Snapshot}
    (defaults : spp.startIndex = 0 ∧ spp.count = defaultCount)
    (results : spp.isHitsOnlyRequest = false) :
    Whole spp xps ∧ writtenOf xps.items root = rightlyWritten spp xps ↔ WholePassedOn root xps := by
  have start : spp.startIndex.toNat = 0 := by
    rw [defaults.1]
    rfl
  constructor
  · intro ⟨whole, written⟩
    rw [rightlyWritten_whole results whole] at written
    obtain ⟨_, matched, returned⟩ := Written.mk.inj written
    refine ⟨matched, returned, ?_⟩
    rcases whole with none | ⟨_, enough⟩
    · rw [none]
      exact Nat.zero_le _
    · rw [← defaults.2]
      exact enough
  · intro passedOn
    have whole : Whole spp xps := .inr ⟨start, by
      rw [defaults.2]
      exact passedOn.short⟩
    refine ⟨whole, ?_⟩
    rw [rightlyWritten_whole results whole, writtenOf, passedOn.matched, passedOn.returned]

/-- The answers agree exactly when only hits are asked for or the whole response is
returned with its own correct counts. -/
theorem pathsAgree_iff {context : RequestContext} {spp : PresentationParameters}
    (prefixes : ResolvesPrefixes context.xml) {query : Query} {root : Node}
    {isCollection : isFeatureCollection root = true} {xps : Snapshot}
    (readable : Readable context spp [query] [.collection root isCollection xps])
    (succeeds : Succeeds context query) :
    PathsAgree context spp query (.collection root isCollection xps) xps ↔
      spp.isHitsOnlyRequest = true ∨
        if selects spp query then WholeSelected spp root xps else WholePassedOn root xps := by
  obtain ⟨response, single⟩ := answerSingleQuery_eq prefixes readable succeeds
  obtain ⟨collected, _, ran⟩ := executeMultipleQueries_ok context spp readable
  have right := multiAnswer_right_iff context spp [query] collected.someSucceeded isCollection xps
  have isElement := getNodeType_of_isFeatureCollection isCollection
  -- both answers are determined, so that each of them has to be right
  have agree : PathsAgree context spp query (.collection root isCollection xps) xps ↔
      (spp.isHitsOnlyRequest = true ∨ Whole spp xps) ∧
        ∃ answer, answerSingleQuery context spp query = .ok answer ∧
          answer.written (.collection root isCollection xps) = rightlyWritten spp xps := by
    constructor
    · rintro ⟨answer, multi, answered, multiAnswered, same, multiRight⟩
      cases ran.symm.trans multiAnswered
      exact ⟨right.mp multiRight, answer, answered, same.trans multiRight⟩
    · rintro ⟨whole, answer, answered, answerRight⟩
      have multiRight := right.mpr whole
      exact ⟨answer, _, answered, ran, answerRight.trans multiRight.symm, multiRight⟩
  rw [agree, single]
  cases results : spp.isHitsOnlyRequest with
  | true =>
      simp only [if_true, true_or, true_and, iff_true]
      refine ⟨_, rfl, ?_⟩
      simp only [SingleAnswer.written, rightlyWritten, results, if_true]
      rfl
  | false =>
      simp only [Bool.false_eq_true, if_false, false_or]
      cases selected : selects spp query with
      | true =>
          simp only [if_true]
          constructor
          · rintro ⟨whole, answer, answered, written⟩
            apply (selected_right_iff isElement results whole).mp
            cases copied : copyPage spp root xps with
            | error failure =>
                rw [copied] at answered
                cases answered
            | ok document =>
                rw [copied] at answered
                cases answered
                exact ⟨document, rfl, written⟩
          · intro wholeSelected
            obtain ⟨document, copied, written⟩ :=
              (selected_right_iff isElement results wholeSelected.whole).mpr wholeSelected
            refine ⟨wholeSelected.whole, .members document, ?_, written⟩
            rw [copied]
            rfl
      | false =>
          have defaults := spp.defaults (Bool.or_eq_false_iff.mp selected).1
          simp only [Bool.false_eq_true, if_false]
          rw [← passedOn_right_iff defaults results]
          constructor
          · rintro ⟨whole, answer, answered, written⟩
            cases answered
            exact ⟨whole, written⟩
          · rintro ⟨whole, written⟩
            exact ⟨whole, _, rfl, written⟩

/-! ### A response of two members -/

theorem knownDocuments_unknownPath (documents : List (ByteString × Node)) (root : Node)
    {path : ByteString}
    (unknown : ¬ (path = ascii "/wfs:FeatureCollection/wfs:member" ∨ path = ascii "//wfs:member")) :
    (knownDocuments documents).xpathQuery root path = .error .badExpression := by
  simp only [knownDocuments, if_neg unknown]

theorem knownDocuments_resolvesPrefixes (documents : List (ByteString × Node)) :
    ResolvesPrefixes (knownDocuments documents) where
  resolves := by
    intro root isCollection
    have isWfs : root.namespaceUri = some wfsNamespaceUri := by
      simp only [isFeatureCollection, decide_eq_true_eq] at isCollection
      exact isCollection.1
    refine ⟨root.getPrefix.getD [], if_pos isWfs, ?_⟩
    intro own found
    rw [found, Option.getD_some]
    by_cases empty : own = []
    · subst empty
      rw [knownDocuments_unknownPath _ _ (by decide), knownDocuments_unknownPath _ _ (by decide)]
    · rw [withColon, if_pos empty]
  bareColon := fun root => ⟨.badExpression, knownDocuments_unknownPath _ _ (by decide)⟩

/-- A collection of two members that says so. -/
def twoMembers : Node :=
  sampleCollection [(ascii "numberMatched", ascii "2"), (ascii "numberReturned", ascii "2")]
    [sampleMember (ascii "a"), sampleMember (ascii "b")]

def twoMembersSnapshot : Snapshot :=
  ⟨[sampleMember (ascii "a"), sampleMember (ascii "b")], by decide⟩

set_option maxRecDepth 20000 in
theorem readable_twoMembers (startIndex count : UInt32) :
    Readable (sampleContext [twoMembers]) (.ofCounts startIndex count)
      [sampleQuery .storedQuery twoMembers]
      [.collection twoMembers (by decide) twoMembersSnapshot] := by
  have collected : collectQueryResponses (sampleContext [twoMembers]) true
      [sampleQuery .storedQuery twoMembers] =
        .ok ⟨[writeNode twoMembers], true, [([], writeNode twoMembers)]⟩ := rfl
  exact ⟨rfl, _, collected, rfl⟩

theorem pathsAgree_sample :
    PathsAgree (sampleContext [twoMembers]) (.ofCounts 0 5) (sampleQuery .storedQuery twoMembers)
        (.collection twoMembers (by decide) twoMembersSnapshot) twoMembersSnapshot ↔
      (PresentationParameters.ofCounts 0 5).isHitsOnlyRequest = true ∨
        if selects (.ofCounts 0 5) (sampleQuery .storedQuery twoMembers) then
          WholeSelected (.ofCounts 0 5) twoMembers twoMembersSnapshot
        else WholePassedOn twoMembers twoMembersSnapshot :=
  pathsAgree_iff (knownDocuments_resolvesPrefixes _) (readable_twoMembers 0 5) (.inr ⟨_, rfl⟩)

/-- For the first of two members one answer says that one is returned and the other that
both are. -/
theorem firstMember_pathsDisagree :
    ¬ PathsAgree (sampleContext [twoMembers]) (.ofCounts 0 1) (sampleQuery .storedQuery twoMembers)
      (.collection twoMembers (by decide) twoMembersSnapshot) twoMembersSnapshot := by
  intro ⟨_, answer, _, answered, _, right⟩
  obtain ⟨collected, _, ran⟩ := executeMultipleQueries_ok _ _ (readable_twoMembers 0 1)
  cases ran.symm.trans answered
  rcases (multiAnswer_right_iff _ _ _ _ _ _).mp right with hits | none | ⟨_, enough⟩
  · cases hits
  · cases none
  · exact absurd enough (by decide)

end SmartMetWfs.Request
