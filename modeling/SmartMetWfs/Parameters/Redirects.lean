import SmartMetWfs.FeatureID.CacheKey
import SmartMetWfs.Foundation.FlagLoops
import SmartMetWfs.Parameters.XmlParameters
import Mathlib.Data.Finset.Card

/-!
# Redirected stored queries

The handler of a stored query may redirect a request to another one. `create_from_kvp` and
`create_from_xml`, which differ only in where the identifier and the parameters come from,
go from handler to handler in a loop and write what they find there into one query object.
No identifier is met twice, so the loop ends; and when it does, all that has been written
into the object comes from the last handler.
-/

namespace SmartMetWfs.Parameters

open Foundation Xml

/-! ### Handlers and queries -/

/-- The members of `StoredQuery`, less its handler. -/
structure QueryMembers where
  id : ByteString
  cacheKey : ByteString
  language : ByteString
  params : Option (RequestParameterMap Value)
  origParams : Option (RequestParameterMap Value)
  skippedParams : List ByteString
  debugFormat : Bool
  staleSeconds : Int

/-- A handler by its virtual functions, of which a text is thrown. -/
structure StoredQueryHandler where
  source : ParameterSource
  processParams : ByteString → RequestParameterMap Value →
    Except ByteString (RequestParameterMap Value)
  redirect : QueryMembers → ByteString → Except ByteString (Bool × ByteString)
  dataSource : ByteString
  getCacheKeyQualifier : RequestParameterMap Value → Except ByteString ByteString
  expiresSeconds : Int

/-- A query object with its handler. -/
structure StoredQueryObject where
  members : QueryMembers
  handler : Option StoredQueryHandler

/-- The members of a new query. -/
def QueryMembers.new : QueryMembers := ⟨[], [], [], none, none, [], false, 0⟩

/-- A new query has no handler. -/
def StoredQueryObject.new : StoredQueryObject := ⟨.new, none⟩

/-- Why a query is not created. -/
inductive CreateFailure
  | noStoredQueryId
  | missingAttribute
  | noHandler (name : ByteString)
  | kvpParameters (failure : ParamError)
  | xmlParameters (failure : XmlParamError)
  | thrown (what : ByteString)
  | invalidRedirect
  | notWritten (error : StreamError)
  | nullPointer

/-- `StoredQueryMap`, as far as handlers are looked up. -/
structure StoredQueries where
  handlerMap : OrderedMap ByteString StoredQueryHandler

/-- `get_handler_by_name`: the case of the name does not matter. -/
def StoredQueries.getHandlerByName (queries : StoredQueries) (name : ByteString) :
    Except CreateFailure StoredQueryHandler :=
  match queries.handlerMap.find (asciiTolowerCopy name) with
  | some handler => .ok handler
  | none => .error (.noHandler name)

/-! ### Redirections -/

/-- `StoredQueryHandlerBase::redirect`. -/
def noRedirect (_ : QueryMembers) (newStoredQueryId : ByteString) :
    Except ByteString (Bool × ByteString) := .ok (false, newStoredQueryId)

/-- `get_single<std::string>`. -/
def getSingleString (getString : Value → Option ByteString) (params : RequestParameterMap Value)
    (name : ByteString) : Option ByteString :=
  match params.params.equalRange
      (if params.caseSensitiveParams then name else asciiTolowerCopy name) with
  | [info] => getString info.value
  | _ => none

/-- `GetDataSetByIdHandler::redirect`. -/
def dataSetRedirect (getString : Value → Option ByteString)
    (dataSetMap : OrderedMap ByteString ByteString) (query : QueryMembers) (_ : ByteString) :
    Except ByteString (Bool × ByteString) :=
  match query.params.bind fun params => getSingleString getString params (ascii "datasetid") with
  | none => .error (ascii "Operation failed!")
  | some dataSetId =>
      match dataSetMap.find (asciiTolowerCopy dataSetId) with
      | some storedQuery => .ok (true, storedQuery)
      | none => .error (ascii "Data set ID '" ++ dataSetId ++ ascii "' not found!")

/-! ### The two kinds of request -/

/-- A request in one of its two forms. -/
inductive QueryRequest
  | kvp (getParameter : ByteString → Option ByteString)
      (parameters : List (ByteString × ByteString))
  | xml (element : Node)

/-- `boost::iequals`. -/
def iequals (first second : ByteString) : Bool := asciiTolowerCopy first = asciiTolowerCopy second

/-- `get_kvp_stored_query_id`. -/
def getKvpStoredQueryId (getParameter : ByteString → Option ByteString) : Option ByteString := do
  let request ← getParameter (ascii "request")
  if iequals request (ascii "getFeature") ∨ iequals request (ascii "getPropertyValue") then
    getParameter (ascii "storedquery_id")
  else none

/-- `get_xml_stored_query_id`. -/
def getXmlStoredQueryId (queryRoot : Node) : Except CreateFailure (Option ByteString) :=
  if queryRoot.namespaceUri = some wfsNamespaceUri ∧ queryRoot.getLocalName =
    ascii "StoredQuery" then
    match queryRoot.getAttribute (ascii "id") with
    | some id => .ok (some id)
    | none => .error .missingAttribute
  else .ok none

namespace QueryRequest

/-- The identifier in the request, or why there is none. -/
def storedQueryId (request : QueryRequest) : Except CreateFailure ByteString := do
  let found ← match request with
    | .kvp getParameter _ => pure (getKvpStoredQueryId getParameter)
    | .xml element => getXmlStoredQueryId element
  match found with
  | some queryId => pure queryId
  | none => throw .noStoredQueryId

/-- The parameters of the request. -/
def extractParameters (source : ParameterSource) :
    QueryRequest → Except CreateFailure (StoredQuery Value)
  | .kvp _ parameters =>
      (extractKvpParameters source.reader source.config parameters).mapError .kvpParameters
  | .xml element => (extractXmlParameters source element).mapError .xmlParameters

end QueryRequest

/-! ### The loop -/

/-- The variables of the loop. -/
structure RedirectState where
  queryId : ByteString
  redirectIdSet : OrderedSet ByteString
  query : StoredQueryObject
  redirect : Bool

/-- Before the first round the identifier is the only one that has been visited. -/
def RedirectState.start (queryId : ByteString) : RedirectState :=
  ⟨queryId, OrderedSet.insert queryId .empty, .new, false⟩

/-- The identifier that the cache key is made of. -/
def storedQueryFeatureId (queryId : ByteString) (params : RequestParameterMap Value)
    (dataSource language : ByteString) (debugFormat : Bool) (cacheKeyQualifier : ByteString) :
    FeatureID :=
  let featureId : FeatureID := ⟨queryId, params.getMap true, 0⟩
  let featureId := featureId.addParam (ascii "source") (.string dataSource)
  let featureId := featureId.addParam (ascii "language") (.string language)
  let featureId :=
    if debugFormat then featureId.addParam (ascii "debugFormat") (.int 1) else featureId
  if cacheKeyQualifier ≠ [] then
    featureId.addParam (ascii "cacheKeyQualifier") (.string cacheKeyQualifier)
  else featureId

/-- It is the identifier of the query with these contents. -/
theorem storedQueryFeatureId_eq (query : KeyedQuery) (params : RequestParameterMap Value)
    (same : params.getMap true = query.params) :
    storedQueryFeatureId query.id params query.dataSource query.language query.debugFormat
      query.cacheKeyQualifier = query.storedQueryFeatureId := by
  unfold storedQueryFeatureId
  rw [same]
  rfl

section Creation

variable (queries : StoredQueries) (language outputFormat : ByteString) (request : QueryRequest)

/-- The handler of an identifier is asked for the parameters and for a redirection. -/
def visit (queryId : ByteString) (query : StoredQueryObject) :
    Except CreateFailure (StoredQueryObject × Bool × ByteString) := do
  let members := { query.members with language }
  let handler ← queries.getHandlerByName queryId
  let extracted ← request.extractParameters handler.source
  let members := { members with
    params := some extracted.params
    origParams := some extracted.params
    skippedParams := extracted.skippedParams }
  let params ← (handler.processParams queryId extracted.params).mapError .thrown
  let members := { members with params := some params }
  let (redirect, redirectedQueryId) ← (handler.redirect members []).mapError .thrown
  return (⟨members, some handler⟩, redirect, redirectedQueryId)

/-- The body of the loop. -/
def redirectRound (state : RedirectState) : Except CreateFailure RedirectState := do
  let (query, redirect, redirectedQueryId) ← visit queries language request state.queryId
    state.query
  if redirect then
    if ¬ state.redirectIdSet.contains redirectedQueryId ∧ redirectedQueryId ≠ [] then
      return ⟨redirectedQueryId, OrderedSet.insert redirectedQueryId state.redirectIdSet, query,
        redirect⟩
    else throw .invalidRedirect
  else return { state with query, redirect }

/-- The loop over the redirects. -/
def redirectLoop (fuel : Nat) (queryId : ByteString) :
    Option (Except CreateFailure RedirectState) :=
  loopWhile (redirectRound queries language request) RedirectState.redirect fuel (.start queryId)

variable (base64 : Base64) (sha1 : Digest)

/-- What is done after the loop. -/
def finishQuery (state : RedirectState) : Except CreateFailure StoredQueryObject :=
  match state.query.handler, state.query.members.params with
  | some handler, some params => do
      let debugFormat := decide (outputFormat = ascii "debug")
      let cacheKeyQualifier ← (handler.getCacheKeyQualifier params).mapError .thrown
      let featureId := storedQueryFeatureId state.queryId params handler.dataSource language
        debugFormat cacheKeyQualifier
      let cacheKey ← (featureId.getId base64 sha1).mapError .notWritten
      return ⟨{ state.query.members with
        id := state.queryId
        debugFormat
        cacheKey
        staleSeconds := handler.expiresSeconds }, some handler⟩
  | _, _ => throw .nullPointer

/-- `create_from_kvp` and `create_from_xml`. -/
def createStoredQuery (fuel : Nat) : Option (Except CreateFailure StoredQueryObject) :=
  match request.storedQueryId with
  | .error failure => some (.error failure)
  | .ok queryId =>
      (redirectLoop queries language request fuel queryId).map fun outcome =>
        outcome.bind (finishQuery language outputFormat base64 sha1)

end Creation

/-! ### What a visit is -/

section Specification

variable (queries : StoredQueries) (language outputFormat : ByteString) (request : QueryRequest)

/-- The members of the query that a handler is shown. -/
def shownMembers (extracted : StoredQuery Value) (params : RequestParameterMap Value) :
    QueryMembers :=
  { QueryMembers.new with
    language
    params := some params
    origParams := some extracted.params
    skippedParams := extracted.skippedParams }

/-- The identifier has a handler, which accepts the parameters and answers. -/
structure Visits (queryId : ByteString) (handler : StoredQueryHandler)
    (extracted : StoredQuery Value) (params : RequestParameterMap Value) (redirect : Bool)
    (target : ByteString) : Prop where
  found : queries.getHandlerByName queryId = .ok handler
  extracts : request.extractParameters handler.source = .ok extracted
  processes : handler.processParams queryId extracted.params = .ok params
  redirects : handler.redirect (shownMembers language extracted params) [] = .ok (redirect, target)

/-- A visit with some answer. -/
def Answers (queryId : ByteString) (redirect : Bool) (target : ByteString) : Prop :=
  ∃ handler extracted params, Visits queries language request queryId handler extracted params
    redirect target

/-- There is no handler, or the parameters are bad. -/
def Refuses (queryId : ByteString) : Prop :=
  ¬ ∃ redirect target, Answers queries language request queryId redirect target

/-- The query is the one of the identifier in all its members, and is not redirected. -/
structure IsQueryOf (base64 : Base64) (sha1 : Digest) (queryId : ByteString)
    (query : StoredQueryObject) : Prop where
  id : query.members.id = queryId
  inLanguage : query.members.language = language
  inFormat : query.members.debugFormat = decide (outputFormat = ascii "debug")
  belongs : ∃ handler extracted params target cacheKeyQualifier,
    Visits queries language request queryId handler extracted params false target ∧
    query.handler = some handler ∧ query.members.origParams = some extracted.params ∧
    query.members.skippedParams = extracted.skippedParams ∧ query.members.params = some params ∧
    query.members.staleSeconds = handler.expiresSeconds ∧
    handler.getCacheKeyQualifier params = .ok cacheKeyQualifier ∧
    (storedQueryFeatureId queryId params handler.dataSource language query.members.debugFormat
      cacheKeyQualifier).getId base64 sha1 = .ok query.members.cacheKey

/-- Redirections of the stored queries lead to these identifiers only. -/
def StoredQueries.RedirectWithin (targets : Finset ByteString) : Prop :=
  ∀ name handler, queries.handlerMap.find name = some handler →
    ∀ members old target, handler.redirect members old = .ok (true, target) → target ∈ targets

/-- The rounds of the loop from an identifier on. -/
def RedirectRounds (queryId : ByteString) (states : List RedirectState) : Prop :=
  Rounds (redirectRound queries language request) RedirectState.redirect (.start queryId) states

/-- A round fails: the query cannot be visited, or it redirects to an identifier that has been
visited or is empty. -/
def FailsAt (state : RedirectState) (earlier : List RedirectState) : Prop :=
  Refuses queries language request state.queryId ∨
    ∃ target, Answers queries language request state.queryId true target ∧
      (target ∈ (state :: earlier).map RedirectState.queryId ∨ target = [])

/-- The loop ends in one round more than there are configured identifiers at the latest, meets
none of them twice, fails only for the reasons of `FailsAt`, and leaves the query of the
identifier it has met last. -/
structure RedirectsWell (base64 : Base64) (sha1 : Digest) (targets : Finset ByteString) : Prop where
  ends : ∀ queryId, ∃ outcome, ∀ fuel, targets.card + 1 ≤ fuel →
    redirectLoop queries language request fuel queryId = some outcome
  distinct : ∀ queryId states, RedirectRounds queries language request queryId states →
    (states.map RedirectState.queryId).Nodup
  fails : ∀ queryId fuel outcome,
    redirectLoop queries language request fuel queryId = some outcome →
    ((∃ failure, outcome = .error failure) ↔
      ∃ state earlier, RedirectRounds queries language request queryId (state :: earlier) ∧
        FailsAt queries language request state earlier)
  succeeds : ∀ fuel query,
    createStoredQuery queries language outputFormat request base64 sha1 fuel = some (.ok query) →
    ∃ queryId, request.storedQueryId = .ok queryId ∧
      ∃ state earlier, RedirectRounds queries language request queryId (state :: earlier) ∧
        IsQueryOf queries language outputFormat request base64 sha1 state.queryId query

/-- The members that are only set after the loop. -/
structure Untouched (query : StoredQueryObject) : Prop where
  id : query.members.id = []
  cacheKey : query.members.cacheKey = []
  debugFormat : query.members.debugFormat = false
  staleSeconds : query.members.staleSeconds = 0

/-- What holds whenever a round begins. -/
structure Tracked (targets : Finset ByteString) (queryId : ByteString)
    (state : RedirectState) (earlier : List RedirectState) : Prop where
  nodup : ((state :: earlier).map RedirectState.queryId).Nodup
  within : ∀ id ∈ (state :: earlier).map RedirectState.queryId, id ∈ insert queryId targets
  visited : ∀ id, state.redirectIdSet.contains id = true ↔
    id ∈ (state :: earlier).map RedirectState.queryId
  untouched : Untouched state.query

end Specification

section Proofs

variable {queries : StoredQueries} {language outputFormat : ByteString} {request : QueryRequest}

/-- A visit depends on the identifier only, and overwrites what an earlier one has left. -/
theorem visit_ok_iff {queryId : ByteString} {query after : StoredQueryObject}
    (untouched : Untouched query) {redirect : Bool} {target : ByteString} :
    visit queries language request queryId query = .ok (after, redirect, target) ↔
      ∃ handler extracted params,
        Visits queries language request queryId handler extracted params redirect target ∧
        after = ⟨shownMembers language extracted params, some handler⟩ := by
  obtain ⟨⟨id, cacheKey, language', params', origParams, skippedParams, debugFormat, staleSeconds⟩,
    handler'⟩ := query
  obtain ⟨rfl, rfl, rfl, rfl⟩ := untouched
  constructor
  · intro visited
    obtain ⟨handler, found, visited⟩ := ok_of_bind visited
    obtain ⟨extracted, extracts, visited⟩ := ok_of_bind visited
    obtain ⟨params, processes, visited⟩ := ok_of_bind visited
    obtain ⟨⟨redirect', target'⟩, redirects, visited⟩ := ok_of_bind visited
    cases visited
    exact ⟨handler, extracted, params, ⟨found, extracts, ok_of_mapError processes,
      ok_of_mapError redirects⟩, rfl⟩
  · rintro ⟨handler, extracted, params, ⟨found, extracts, processes, redirects⟩, rfl⟩
    unfold visit
    rw [found]
    change (request.extractParameters handler.source).bind _ = _
    rw [extracts]
    change ((handler.processParams queryId extracted.params).mapError _).bind _ = _
    rw [processes]
    change ((handler.redirect (shownMembers language extracted params) []).mapError _).bind _ = _
    rw [redirects]
    rfl

/-- What is shown of the parameters leaves the other members alone. -/
theorem untouched_shownMembers (extracted : StoredQuery Value) (params : RequestParameterMap Value)
    (handler : Option StoredQueryHandler) :
    Untouched ⟨shownMembers language extracted params, handler⟩ := ⟨rfl, rfl, rfl, rfl⟩

/-- The members of a new query are untouched. -/
theorem untouched_new : Untouched .new := ⟨rfl, rfl, rfl, rfl⟩

/-- What one round does when it does not fail. -/
theorem redirectRound_ok {state next : RedirectState} (untouched : Untouched state.query)
    (ran : redirectRound queries language request state = .ok next) :
    ∃ handler extracted params redirect target,
      Visits queries language request state.queryId handler extracted params redirect target ∧
      next.query = ⟨shownMembers language extracted params, some handler⟩ ∧
      next.redirect = redirect ∧
      ((redirect = true ∧ state.redirectIdSet.contains target = false ∧ target ≠ [] ∧
          next.queryId = target ∧
          next.redirectIdSet = OrderedSet.insert target state.redirectIdSet) ∨
        (redirect = false ∧ next.queryId = state.queryId)) := by
  obtain ⟨⟨query, redirect, target⟩, visited, ran⟩ := ok_of_bind ran
  obtain ⟨handler, extracted, params, visits, rfl⟩ := (visit_ok_iff untouched).mp visited
  refine ⟨handler, extracted, params, redirect, target, visits, ?_⟩
  dsimp only at ran
  split at ran
  · next isRedirect =>
      split at ran
      · next fresh =>
          cases ran
          exact ⟨rfl, rfl, .inl ⟨isRedirect, Bool.eq_false_iff.mpr fresh.1, fresh.2, rfl, rfl⟩⟩
      · cases ran
  · next noRedirect =>
      cases ran
      exact ⟨rfl, rfl, .inr ⟨Bool.eq_false_iff.mpr noRedirect, rfl⟩⟩

/-- When one round fails. -/
theorem redirectRound_fails_iff {state : RedirectState} (untouched : Untouched state.query) :
    (∃ failure, redirectRound queries language request state = .error failure) ↔
      Refuses queries language request state.queryId ∨
        ∃ target, Answers queries language request state.queryId true target ∧
          (state.redirectIdSet.contains target = true ∨ target = []) := by
  cases visited : visit queries language request state.queryId state.query with
  | error failure =>
      have refuses : Refuses queries language request state.queryId := by
        rintro ⟨redirect, target, handler, extracted, params, visits⟩
        have accepted := (visit_ok_iff untouched).mpr ⟨handler, extracted, params, visits, rfl⟩
        cases visited.symm.trans accepted
      refine iff_of_true ⟨failure, ?_⟩ (.inl refuses)
      unfold redirectRound
      rw [visited]
      rfl
  | ok answer =>
      obtain ⟨query, redirect, target⟩ := answer
      obtain ⟨handler, extracted, params, visits, rfl⟩ := (visit_ok_iff untouched).mp visited
      have answered : Answers queries language request state.queryId redirect target :=
        ⟨handler, extracted, params, visits⟩
      have only : ∀ {redirect' target'},
          Answers queries language request state.queryId redirect' target' →
            redirect' = redirect ∧ target' = target := by
        rintro redirect' target' ⟨handler', extracted', params', visits'⟩
        have accepted := (visit_ok_iff untouched).mpr ⟨handler', extracted', params', visits', rfl⟩
        have same := Except.ok.inj (accepted.symm.trans visited)
        exact ⟨congrArg (fun answer => answer.2.1) same, congrArg (fun answer => answer.2.2) same⟩
      have accepts : ¬ Refuses queries language request state.queryId := fun refuses =>
        refuses ⟨redirect, target, answered⟩
      rw [or_iff_right accepts]
      unfold redirectRound
      rw [visited]
      change (∃ failure, (if redirect = true then _ else _) = Except.error failure) ↔ _
      cases redirect with
      | false =>
          refine iff_of_false (fun ⟨_, failed⟩ => by cases failed) ?_
          rintro ⟨_, answered', _⟩
          cases (only answered').1
      | true =>
          rw [if_pos rfl]
          by_cases fresh : ¬ state.redirectIdSet.contains target = true ∧ target ≠ []
          · rw [if_pos fresh]
            refine iff_of_false (fun ⟨_, failed⟩ => by cases failed) ?_
            rintro ⟨target', answered', old⟩
            rw [(only answered').2] at old
            rcases old with inSet | empty
            · exact fresh.1 inSet
            · exact fresh.2 empty
          · rw [if_neg fresh]
            refine iff_of_true ⟨_, rfl⟩ ⟨target, answered, ?_⟩
            by_contra new
            exact fresh (not_or.mp new)

/-- At the start the identifier of the request has been visited. -/
theorem tracked_start (targets : Finset ByteString) (queryId : ByteString) :
    Tracked targets queryId (.start queryId) [] where
  nodup := List.nodup_singleton _
  within _ inside := List.mem_singleton.mp inside ▸ Finset.mem_insert_self _ _
  visited id := by
    refine OrderedSet.contains_insert.trans ⟨?_, fun inside => .inl (List.mem_singleton.mp inside)⟩
    rintro (same | inEmpty)
    · exact List.mem_singleton.mpr same
    · cases inEmpty
  untouched := untouched_new

/-- A redirection is to a configured identifier. -/
theorem mem_targets_of_answers {targets : Finset ByteString} {queryId target : ByteString}
    (configured : queries.RedirectWithin targets)
    (answers : Answers queries language request queryId true target) : target ∈ targets := by
  obtain ⟨handler, extracted, params, found, _, _, redirects⟩ := answers
  unfold StoredQueries.getHandlerByName at found
  split at found
  · next handler' located =>
      cases found
      exact configured _ _ located _ _ _ redirects
  · cases found

/-- One round more. -/
theorem Tracked.again {targets : Finset ByteString} {queryId : ByteString}
    {state next : RedirectState} {earlier : List RedirectState}
    (configured : queries.RedirectWithin targets) (tracked : Tracked targets queryId state earlier)
    (ran : redirectRound queries language request state = .ok next)
    (goesOn : next.redirect = true) : Tracked targets queryId next (state :: earlier) := by
  obtain ⟨handler, extracted, params, redirect, target, visits, query, isRedirect, step⟩ :=
    redirectRound_ok tracked.untouched ran
  rw [isRedirect] at goesOn
  rw [goesOn] at visits step
  rcases step with ⟨_, fresh, _, moved, inserted⟩ | ⟨noRedirect, _⟩
  · have new : target ∉ (state :: earlier).map RedirectState.queryId := fun old =>
      Bool.eq_false_iff.mp fresh ((tracked.visited target).mpr old)
    have ids : (next :: state :: earlier).map RedirectState.queryId =
        target :: (state :: earlier).map RedirectState.queryId := congrArg (· :: _) moved
    refine ⟨?_, ?_, ?_, ?_⟩
    · rw [ids]
      exact List.nodup_cons.mpr ⟨new, tracked.nodup⟩
    · rw [ids]
      refine List.forall_mem_cons.mpr ⟨?_, tracked.within⟩
      exact Finset.mem_insert_of_mem
        (mem_targets_of_answers configured ⟨handler, extracted, params, visits⟩)
    · intro id
      rw [ids, inserted, OrderedSet.contains_insert, tracked.visited id, List.mem_cons]
    · rw [query]
      exact untouched_shownMembers extracted params _
  · cases noRedirect

/-- The rounds of the loop are tracked. -/
theorem tracked_of_rounds {targets : Finset ByteString} {queryId : ByteString}
    (configured : queries.RedirectWithin targets) {states : List RedirectState}
    (rounds : RedirectRounds queries language request queryId states) :
    ∃ state earlier, states = state :: earlier ∧ Tracked targets queryId state earlier := by
  induction rounds with
  | first => exact ⟨_, [], rfl, tracked_start targets queryId⟩
  | again _ ran goesOn ih =>
      obtain ⟨_, _, whole, tracked⟩ := ih
      cases whole
      exact ⟨_, _, rfl, tracked.again configured ran goesOn⟩

/-- Every round visits one more identifier that has been configured. -/
theorem tracked_of_rounds_cons {targets : Finset ByteString} {queryId : ByteString}
    (configured : queries.RedirectWithin targets) {state : RedirectState}
    {earlier : List RedirectState}
    (rounds : RedirectRounds queries language request queryId (state :: earlier)) :
    Tracked targets queryId state earlier := by
  obtain ⟨_, _, whole, tracked⟩ := tracked_of_rounds configured rounds
  cases whole
  exact tracked

theorem Tracked.length_le {targets : Finset ByteString} {queryId : ByteString}
    {state : RedirectState} {earlier : List RedirectState}
    (tracked : Tracked targets queryId state earlier) :
    (state :: earlier).length ≤ targets.card + 1 := by
  have inside : ((state :: earlier).map RedirectState.queryId).toFinset ⊆ insert queryId targets :=
    fun id member => tracked.within id (List.mem_toFinset.mp member)
  calc (state :: earlier).length
      = ((state :: earlier).map RedirectState.queryId).toFinset.card := by
        rw [List.toFinset_card_of_nodup tracked.nodup, List.length_map]
    _ ≤ (insert queryId targets).card := Finset.card_le_card inside
    _ ≤ targets.card + 1 := Finset.card_insert_le _ _

/-- The two ways in which a round fails. -/
theorem Tracked.fails_iff {targets : Finset ByteString} {queryId : ByteString}
    {state : RedirectState} {earlier : List RedirectState}
    (tracked : Tracked targets queryId state earlier) :
    (∃ failure, redirectRound queries language request state = .error failure) ↔
      FailsAt queries language request state earlier := by
  rw [redirectRound_fails_iff tracked.untouched]
  simp only [tracked.visited]
  rfl

/-- What is made after the loop has stopped at a query. -/
theorem finishQuery_isQueryOf {base64 : Base64} {sha1 : Digest} {state last : RedirectState}
    {query : StoredQueryObject} (untouched : Untouched state.query)
    (ran : redirectRound queries language request state = .ok last) (stops : last.redirect = false)
    (finished : finishQuery language outputFormat base64 sha1 last = .ok query) :
    IsQueryOf queries language outputFormat request base64 sha1 state.queryId query := by
  obtain ⟨handler, extracted, params, redirect, target, visits, shown, isRedirect, step⟩ :=
    redirectRound_ok untouched ran
  rw [isRedirect] at stops
  rw [stops] at visits step
  rcases step with ⟨isTrue, _⟩ | ⟨_, stays⟩
  · cases isTrue
  · obtain ⟨queryId', redirectIdSet, query', redirect'⟩ := last
    cases shown
    cases stays
    obtain ⟨cacheKeyQualifier, qualified, finished⟩ := ok_of_bind finished
    obtain ⟨cacheKey, written, finished⟩ := ok_of_bind finished
    cases finished
    exact ⟨rfl, rfl, rfl, handler, extracted, params, target, cacheKeyQualifier, visits, rfl, rfl,
      rfl, rfl, rfl, ok_of_mapError qualified, ok_of_mapError written⟩

/-- Handlers of the two kinds redirect within the stored queries of the data sets. -/
theorem redirectWithin_of_dataSets {getString : Value → Option ByteString}
    {dataSetMaps : List (OrderedMap ByteString ByteString)}
    (each : ∀ name handler, queries.handlerMap.find name = some handler →
      handler.redirect = noRedirect ∨
        ∃ dataSetMap ∈ dataSetMaps, handler.redirect = dataSetRedirect getString dataSetMap) :
    queries.RedirectWithin
      (dataSetMaps.flatMap fun dataSetMap => dataSetMap.entries.map Prod.snd).toFinset := by
  intro name handler found members old target redirected
  rcases each name handler found with base | ⟨dataSetMap, inside, isDataSet⟩
  · rw [base] at redirected
    cases redirected
  · rw [isDataSet] at redirected
    unfold dataSetRedirect at redirected
    split at redirected
    · cases redirected
    · split at redirected
      · next located =>
          cases redirected
          refine List.mem_toFinset.mpr (List.mem_flatMap.mpr ⟨dataSetMap, inside, ?_⟩)
          exact List.mem_map.mpr ⟨_, OrderedMap.find_eq_some.mp located, rfl⟩
      · cases redirected

/-- Redirections to finitely many identifiers end, and consistently so. -/
theorem redirectsWell (base64 : Base64) (sha1 : Digest) (language outputFormat : ByteString)
    (request : QueryRequest) {targets : Finset ByteString}
    (configured : queries.RedirectWithin targets) :
    RedirectsWell queries language outputFormat request base64 sha1 targets where
  ends queryId := exists_end_of_bounded fun states rounds => by
    obtain ⟨state, earlier, rfl, tracked⟩ := tracked_of_rounds configured rounds
    exact tracked.length_le
  distinct queryId states rounds := by
    obtain ⟨state, earlier, rfl, tracked⟩ := tracked_of_rounds configured rounds
    exact tracked.nodup
  fails queryId fuel outcome ended := by
    constructor
    · rintro ⟨failure, rfl⟩
      obtain ⟨state, earlier, rounds, _, failed⟩ := loopWhile_eq_some_iff.mp ended
      have tracked := tracked_of_rounds_cons configured rounds
      exact ⟨state, earlier, rounds, tracked.fails_iff.mp ⟨failure, failed⟩⟩
    · rintro ⟨state, earlier, rounds, failsAt⟩
      have tracked := tracked_of_rounds_cons configured rounds
      obtain ⟨failure, failed⟩ := tracked.fails_iff.mpr failsAt
      have ended' : redirectLoop queries language request (earlier.length + 1) queryId =
          some (.error failure) :=
        loopWhile_eq_some_iff.mpr ⟨state, earlier, rounds, Nat.lt_succ_self _, failed⟩
      exact ⟨failure, loopWhile_unique ended ended'⟩
  succeeds fuel query created := by
    unfold createStoredQuery at created
    split at created
    · cases created
    · next queryId named =>
        obtain ⟨outcome, ended, created⟩ := Option.map_eq_some_iff.mp created
        obtain ⟨last, rfl, finished⟩ := ok_of_bind created
        obtain ⟨state, earlier, rounds, _, ran, stops⟩ := loopWhile_eq_some_iff.mp ended
        have tracked := tracked_of_rounds_cons configured rounds
        exact ⟨queryId, named, state, earlier, rounds,
          finishQuery_isQueryOf tracked.untouched ran stops finished⟩

end Proofs

/-- `Value::get_string`. -/
def stringOf : Value → Option ByteString
  | .string text => some text
  | _ => none

/-- Handlers with one parameter, a text, next to those of `namesSource`. -/
def textSource (name : ByteString) : ParameterSource :=
  { namesSource with
    config :=
      { useCaseSensitiveParams := false
        paramMap := OrderedMap.set name
          { namesDesc with name, paramDef := ⟨.string, false, 1, 1⟩ } .empty
        caseMap := OrderedMap.set (asciiTolowerCopy name) name .empty }
    xmlType := fun _ => ascii "xs:string" }

/-- A handler with parameters and redirects of its own. -/
def sampleHandler (source : ParameterSource)
    (redirect : QueryMembers → ByteString → Except ByteString (Bool × ByteString)) :
    StoredQueryHandler where
  source
  processParams _ params := .ok params
  redirect
  dataSource := ascii "querydata"
  getCacheKeyQualifier _ := .ok []
  expiresSeconds := 0

/-- A data set that is served by a query without redirection. -/
def waveDataSets : OrderedMap ByteString ByteString :=
  OrderedMap.empty.set (ascii "1000549") (ascii "wave")

/-- A handler that is not redirected. -/
def waveHandler : StoredQueryHandler := sampleHandler namesSource noRedirect

/-- A handler for data sets that is redirected to others. -/
def sampleQueries (getString : Value → Option ByteString) : StoredQueries where
  handlerMap := (OrderedMap.empty.set (ascii "getdatasetbyid")
    (sampleHandler (textSource (ascii "datasetId")) (dataSetRedirect getString waveDataSets))).set
      (ascii "wave") waveHandler

/-- They are redirected to one of the data sets only. -/
theorem sampleQueries_within (getString : Value → Option ByteString) :
    (sampleQueries getString).RedirectWithin {ascii "wave"} := by
  refine @redirectWithin_of_dataSets (sampleQueries getString) getString [waveDataSets] ?_
  intro name handler found
  change ((OrderedMap.empty.set (ascii "getdatasetbyid") _).set (ascii "wave") _).find name =
    _ at found
  rw [OrderedMap.find_set, OrderedMap.find_set] at found
  split at found
  · cases found
    exact .inl rfl
  · split at found
    · cases found
      exact .inr ⟨_, List.mem_singleton_self _, rfl⟩
    · cases found

/-- A request for the data set, with a parameter for the query behind it. -/
def dataSetRequest : QueryRequest :=
  let parameters := [(ascii "request", ascii "getFeature"),
    (ascii "storedquery_id", ascii "GetDataSetById"), (ascii "datasetId", ascii "1000549"),
    (ascii "names", ascii "buoy,mast")]
  .kvp (fun name => parameters.lookup name) parameters

/-- What the query of the data set makes of the request. -/
def dataSetQuery : StoredQuery Value :=
  ⟨(RequestParameterMap.empty false).insertValue (ascii "datasetId") (.string (ascii "1000549")),
    [ascii "names='buoy,mast'", ascii "request='getFeature'",
      ascii "storedquery_id='GetDataSetById'"]⟩

/-- What the query behind it makes of the request. -/
def waveQuery : StoredQuery Value :=
  { namesQuery [ascii "buoy", ascii "mast"] with
    skippedParams := [ascii "datasetId='1000549'", ascii "request='getFeature'",
      ascii "storedquery_id='GetDataSetById'"] }

/-- The request for a data set visits the handler of the data set. -/
theorem dataSetRequest_visits :
    Visits (sampleQueries stringOf) (ascii "eng") dataSetRequest (ascii "GetDataSetById")
      (sampleHandler (textSource (ascii "datasetId")) (dataSetRedirect stringOf waveDataSets))
      dataSetQuery dataSetQuery.params true (ascii "wave") := ⟨rfl, rfl, rfl, rfl⟩

/-- The request is redirected once. -/
theorem redirectsWell_sample :
    Answers (sampleQueries stringOf) (ascii "eng") dataSetRequest (ascii "GetDataSetById") true
      (ascii "wave") ∧
    RedirectsWell (sampleQueries stringOf) (ascii "eng") (ascii "debug") dataSetRequest .standard
      Sha1.digest {ascii "wave"} :=
  ⟨⟨_, _, _, dataSetRequest_visits⟩,
    redirectsWell .standard Sha1.digest (ascii "eng") (ascii "debug") dataSetRequest
      (sampleQueries_within _)⟩

end SmartMetWfs.Parameters
