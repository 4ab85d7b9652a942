import Mathlib.Data.List.Forall2
import SmartMetWfs.Foundation.Outcomes
import SmartMetWfs.Xml.Document

/-!
# Responses of the queries of a request

A request executes its queries one after the other. The response of a query is its
cached answer, what it writes when it is executed, or, if errors are handled, a
document that reports why it failed. The responses are kept in a list that is later
indexed like the list of the queries.
-/

namespace SmartMetWfs.Request

open Foundation Xml

/-! ### Exceptions and their reports -/

/-- An `Fmi::Exception` with what its report reads of the exceptions it is made of. -/
structure FmiException where
  language : Option ByteString
  exceptionCode : Option ByteString
  location : Option ByteString
  what : ByteString
  details : List ByteString

/-- What may be thrown while a query is executed. -/
inductive Thrown
  | threadInterrupted
  | fmiException (err : FmiException)
  | stdException (typeName what : ByteString)
  | unknown

/-- The hash that the exception formatter is given. -/
structure ExceptionReport where
  language : Option ByteString
  exceptionCode : ByteString
  location : Option ByteString
  textList : List ByteString

inductive ProcessingPhase
  | reqParsing
  | reqProcessing

inductive Status
  | badRequest
  | internalServerError
  deriving DecidableEq

structure ErrorResponse where
  status : Status
  response : ByteString
  wfsErrCode : ByteString

inductive QueryType
  | query
  | storedQuery
  deriving DecidableEq

/-- A query as a request holds it; `QueryType.query` is an ad hoc query. -/
structure Query where
  queryType : QueryType
  storedQueryId : ByteString
  params : ByteString
  filterExpression : ByteString
  cacheKey : ByteString
  cachedResponse : Option ByteString
  execute : ByteString → Option ByteString → Except Thrown ByteString

/-- What a request knows of itself and of the plugin. -/
structure RequestContext where
  language : ByteString
  fmiApikey : Option ByteString
  fmiApikeyPrefix : Option ByteString
  hostname : Option ByteString
  protocol : Option ByteString
  timeStamp : ByteString
  localTimeStamp : ByteString
  formatException : ExceptionReport → Option ByteString
  xml : XmlLibrary

def getWfsErrCode : ProcessingPhase → ByteString
  | .reqParsing => ascii "OperationParsingFailed"
  | .reqProcessing => ascii "OperationProcessingFailed"

def handleWfsException (err : FmiException) : ExceptionReport where
  language := err.language
  exceptionCode := err.exceptionCode.getD (ascii "InvalidExceptionCode")
  location := if err.exceptionCode.isSome then err.location else none
  textList := err.what :: err.details

def handleStdException (context : RequestContext) (typeName what : ByteString)
    (phase : ProcessingPhase) : ExceptionReport where
  language := none
  exceptionCode := getWfsErrCode phase
  location := none
  textList := [context.localTimeStamp ++ ascii " C++ exception '" ++ typeName ++
    ascii "': " ++ what]

/-- The text for the report goes to the log instead. -/
def handleUnknownException (phase : ProcessingPhase) : ExceptionReport where
  language := none
  exceptionCode := getWfsErrCode phase
  location := none
  textList := [[]]

def addStoredQueryInfo (query : Query) (hash : ExceptionReport) : ExceptionReport :=
  { hash with
    textList := hash.textList ++ [ascii "ID: " ++ query.storedQueryId,
      ascii "Parameters: " ++ query.params] ++
        if query.queryType = .query then [ascii "Filter-expression: " ++ query.filterExpression]
        else [] }

def formatMessage (context : RequestContext) (hash : ExceptionReport) : ByteString :=
  (context.formatException hash).getD (ascii "INTERNAL ERROR")

/-- `create_error_response` for a query. Thread interruptions pass through. -/
def createErrorResponse (context : RequestContext) (phase : ProcessingPhase) (thrown : Thrown)
    (query : Query) : Except Thrown ErrorResponse :=
  match thrown with
  | .threadInterrupted => throw .threadInterrupted
  | .fmiException err =>
      let hash := addStoredQueryInfo query (handleWfsException err)
      pure ⟨.badRequest, formatMessage context hash, hash.exceptionCode⟩
  | .stdException typeName what =>
      let hash := addStoredQueryInfo query (handleStdException context typeName what phase)
      pure ⟨.badRequest, formatMessage context hash, hash.exceptionCode⟩
  | .unknown =>
      let hash := addStoredQueryInfo query (handleUnknownException phase)
      pure ⟨.internalServerError, formatMessage context hash, hash.exceptionCode⟩

/-- An error document is made of everything but an interruption. -/
theorem createErrorResponse_ok (context : RequestContext) (phase : ProcessingPhase)
    {thrown : Thrown} (query : Query) (handled : thrown ≠ .threadInterrupted) :
    ∃ error, createErrorResponse context phase thrown query = .ok error := by
  cases thrown with
  | threadInterrupted => exact absurd rfl handled
  | fmiException err => exact ⟨_, rfl⟩
  | stdException typeName what => exact ⟨_, rfl⟩
  | unknown => exact ⟨_, rfl⟩

/-! ### Placeholders -/

def apikeyPrefixSubst : ByteString := ascii "@FMI_APIKEY_PREFIX@"

def apikeySubst : ByteString := ascii "@FMI_APIKEY@"

def hostnameSubst : ByteString := ascii "@HOSTNAME@"

def protocolSubst : ByteString := ascii "@PROTOCOL@"

namespace RequestContext

/-- The placeholders with their values, in the order in which they are tried. -/
def substList (context : RequestContext) : List (ByteString × ByteString) :=
  [(apikeyPrefixSubst, context.fmiApikeyPrefix.getD []), (apikeySubst, context.fmiApikey.getD []),
    (hostnameSubst, context.hostname.getD (ascii "localhost")),
    (protocolSubst, context.protocol.getD (ascii "http") ++ ascii "://")]

/-- One pass over the text; the first `skipped` bytes belong to a placeholder. -/
def substitute (substList : List (ByteString × ByteString)) : Nat → ByteString → ByteString
  | _, [] => []
  | skipped + 1, _ :: rest => substitute substList skipped rest
  | 0, byte :: rest =>
      match substList.find? fun entry => entry.1.isPrefixOf (byte :: rest) with
      | some entry => entry.2 ++ substitute substList (entry.1.length - 1) rest
      | none => byte :: substitute substList 0 rest

/-- `substitute_all`: a text ends at its first null byte. -/
def substituteAll (context : RequestContext) (src : ByteString) : ByteString :=
  substitute context.substList 0 (src.takeWhile fun byte => byte ≠ 0)

end RequestContext

/-! ### Collecting the responses -/

/-- The cast to `StoredQuery`, from which `AdHocQuery` is derived. -/
def asStoredQuery (query : Query) : Option Query :=
  match query.queryType with
  | .query => some query
  | .storedQuery => some query

/-- The responses so far, whether one of the queries succeeded, and what was put into the
query cache. -/
structure Collected where
  queryResponses : List ByteString
  someSucceeded : Bool
  inserted : List (ByteString × ByteString)

def Collected.start : Collected := ⟨[], false, []⟩

def Collected.append (first second : Collected) : Collected :=
  ⟨first.queryResponses ++ second.queryResponses, first.someSucceeded || second.someSucceeded,
    first.inserted ++ second.inserted⟩

variable (context : RequestContext) (handleErrors : Bool)

def collectQueryResponse (collected : Collected) (query : Query) : Except Thrown Collected :=
  match query.cachedResponse with
  | some cachedResponse =>
      pure { collected with
        queryResponses := collected.queryResponses ++ [context.substituteAll cachedResponse]
        someSucceeded := true }
  | none =>
      match query.execute context.language context.hostname with
      | .ok result =>
          pure ⟨collected.queryResponses ++ [context.substituteAll result], true,
            collected.inserted ++ [(query.cacheKey, result)]⟩
      | .error thrown =>
          if handleErrors then
            match asStoredQuery query with
            | some storedQuery => do
                let errorResponse ← createErrorResponse context .reqProcessing thrown storedQuery
                pure { collected with
                  queryResponses := collected.queryResponses ++ [errorResponse.response] }
            | none => throw thrown
          else throw thrown

/-- `collect_query_responses`. -/
def collectQueryResponses (queries : List Query) : Except Thrown Collected :=
  queries.foldlM (collectQueryResponse context handleErrors) .start

/-! ### One query alone -/

/-- What a query that is neither answered from the cache nor fails is asked for. -/
def Succeeds (query : Query) : Prop :=
  query.cachedResponse ≠ none ∨
    ∃ result, query.execute context.language context.hostname = .ok result

/-- The execution of a query that is not in the cache is interrupted. -/
def Interrupted (query : Query) : Prop :=
  query.cachedResponse = none ∧
    query.execute context.language context.hostname = .error .threadInterrupted

/-- The response of a query: its substituted answer, or the document of its error. -/
inductive Answers (query : Query) (response : ByteString) : Prop
  | cached (answer : ByteString) (found : query.cachedResponse = some answer)
      (substituted : response = context.substituteAll answer)
  | executed (answer : ByteString) (missing : query.cachedResponse = none)
      (succeeded : query.execute context.language context.hostname = .ok answer)
      (substituted : response = context.substituteAll answer)
  | failed (thrown : Thrown) (error : ErrorResponse) (missing : query.cachedResponse = none)
      (failed : query.execute context.language context.hostname = .error thrown)
      (reported : createErrorResponse context .reqProcessing thrown query = .ok error)
      (document : response = error.response)

/-- What is collected of a query does not depend on what was collected before. -/
theorem collectQueryResponse_eq (collected : Collected) (query : Query) :
    collectQueryResponse context handleErrors collected query =
      (collectQueryResponse context handleErrors .start query).map collected.append := by
  unfold collectQueryResponse
  cases query.cachedResponse with
  | some cachedResponse =>
      simp [Except.map, Pure.pure, Except.pure, Collected.append, Collected.start]
  | none =>
      cases query.execute context.language context.hostname with
      | ok result => simp [Except.map, Pure.pure, Except.pure, Collected.append, Collected.start]
      | error thrown =>
          cases handleErrors with
          | false => rfl
          | true =>
              simp only [if_true]
              cases asStoredQuery query with
              | none => rfl
              | some storedQuery =>
                  cases created : createErrorResponse context .reqProcessing thrown storedQuery with
                  | error thrown' => simp [Except.map, bind, Except.bind, created]
                  | ok error =>
                      simp [Except.map, bind, Except.bind, created, Pure.pure, Except.pure,
                        Collected.append, Collected.start]

theorem collectQueryResponses_singleton (query : Query) :
    collectQueryResponses context handleErrors [query] =
      collectQueryResponse context handleErrors .start query := by
  simp only [collectQueryResponses, List.foldlM_cons, List.foldlM_nil, bind_pure]

/-- A query gets its own response or passes an interruption on. -/
theorem collect_alone (query : Query) :
    (Interrupted context query ∧
      collectQueryResponses context true [query] = .error .threadInterrupted) ∨
    ∃ response inserted, Answers context query response ∧
      ∃ succeeded, (succeeded = true ↔ Succeeds context query) ∧
        collectQueryResponses context true [query] = .ok ⟨[response], succeeded, inserted⟩ := by
  rw [collectQueryResponses_singleton]
  unfold collectQueryResponse
  cases found : query.cachedResponse with
  | some answer =>
      right
      refine ⟨_, [], .cached answer found rfl, true, ?_, rfl⟩
      simp [Succeeds, found]
  | none =>
      cases ran : query.execute context.language context.hostname with
      | ok answer =>
          right
          refine ⟨_, [(query.cacheKey, answer)], .executed answer found ran rfl, true, ?_, rfl⟩
          simp [Succeeds, ran]
      | error thrown =>
          have isStored : asStoredQuery query = some query := by
            unfold asStoredQuery
            cases query.queryType <;> rfl
          simp only [if_true, isStored]
          by_cases interruption : thrown = .threadInterrupted
          · subst interruption
            exact .inl ⟨⟨found, ran⟩, rfl⟩
          · obtain ⟨error, created⟩ :=
              createErrorResponse_ok context .reqProcessing query interruption
            right
            refine ⟨error.response, [], .failed thrown error found ran created rfl, false, ?_, ?_⟩
            · simp [Succeeds, found, ran]
            · rw [created]
              rfl

/-- The response of a query is the one that the query alone would get. -/
def Answered (query : Query) (response : ByteString) : Prop :=
  Answers context query response ∧
    ∃ alone, collectQueryResponses context true [query] = .ok alone ∧
      alone.queryResponses = [response]

/-- Another query appends its own response, or its interruption ends the collection. -/
theorem collectQueryResponse_meets (collected : Collected) (query : Query) :
    Meets (fun thrown => thrown = .threadInterrupted ∧ Interrupted context query)
      (collectQueryResponse context true collected query) fun after =>
        ∃ response, Answered context query response ∧
          after.queryResponses = collected.queryResponses ++ [response] ∧
          (after.someSucceeded = true ↔ collected.someSucceeded = true ∨
            Succeeds context query) := by
  rw [collectQueryResponse_eq]
  rcases collect_alone context query with
    ⟨interrupted, alone⟩ | ⟨response, inserted, answers, succeeded, success, alone⟩
  · rw [← collectQueryResponses_singleton, alone]
    exact ⟨rfl, interrupted⟩
  · have one := alone
    rw [collectQueryResponses_singleton] at one
    rw [one]
    refine ⟨response, ⟨answers, _, alone, rfl⟩, rfl, ?_⟩
    simp only [Collected.append, Bool.or_eq_true, success]

/-- Every query has its own response at its own position, and success is reported exactly
when some query succeeded. -/
structure Aligned (queries : List Query) (collected : Collected) : Prop where
  answered : List.Forall₂ (Answered context) queries collected.queryResponses
  success : collected.someSucceeded = true ↔ ∃ query ∈ queries, Succeeds context query

/-- Unless an execution is interrupted, the responses stay aligned with the queries. -/
theorem collectQueryResponses_meets (queries : List Query) :
    Meets (fun thrown => thrown = .threadInterrupted ∧ ∃ query ∈ queries, Interrupted context query)
      (collectQueryResponses context true queries) (Aligned context queries) := by
  unfold collectQueryResponses
  apply Meets.foldlM (Aligned context)
  · exact ⟨.nil, by simp [Collected.start]⟩
  · intro done query rest collected split aligned
    have step := collectQueryResponse_meets context collected query
    cases ran : collectQueryResponse context true collected query with
    | error thrown =>
        rw [ran] at step
        exact ⟨step.1, query, by simp [split], step.2⟩
    | ok after =>
        rw [ran] at step
        obtain ⟨response, own, responses, succeeded⟩ := step
        constructor
        · rw [responses]
          exact List.rel_append aligned.answered (.cons own .nil)
        · rw [succeeded, aligned.success]
          simp [or_and_right, exists_or]

/-- A query that succeeds does so whether or not errors are handled. -/
theorem collectQueryResponses_of_succeeds {query : Query} (succeeds : Succeeds context query)
    (handleErrors handleErrors' : Bool) :
    collectQueryResponses context handleErrors [query] =
      collectQueryResponses context handleErrors' [query] := by
  rw [collectQueryResponses_singleton, collectQueryResponses_singleton]
  unfold collectQueryResponse
  rcases succeeds with cached | ⟨result, ran⟩
  · cases found : query.cachedResponse with
    | none => exact absurd found cached
    | some answer => rfl
  · cases query.cachedResponse with
    | some answer => rfl
    | none => rw [ran]

/-! ### A sample request -/

/-- A request that can read the given documents. -/
def sampleContext (documents : List Node) : RequestContext where
  language := ascii "eng"
  fmiApikey := none
  fmiApikeyPrefix := none
  hostname := none
  protocol := none
  timeStamp := ascii "2024-01-01T00:00:00"
  localTimeStamp := ascii "2024-Jan-01 02:00:00"
  formatException := fun _ => none
  xml := knownDocuments (documents.map fun document => (writeNode document, document))

/-- A query that writes the document. -/
def sampleQuery (queryType : QueryType) (document : Node) : Query where
  queryType := queryType
  storedQueryId := ascii "q"
  params := []
  filterExpression := []
  cacheKey := []
  cachedResponse := none
  execute := fun _ _ => .ok (writeNode document)

end SmartMetWfs.Request
