import SmartMetWfs.Request.ResponseCache

/-!
# Requests that share the cache

Whatever other requests do at the same time, a request collects what it would collect alone
of its queries with the answers it found. Each of these answers was made by the execution of
a query that cannot be told from its own, so that nothing changes when executions of such
queries have the same results.
-/

namespace SmartMetWfs.Request

open Foundation

variable {base64 : Base64} {sha1 : Digest}

/-! ### What the requests collect -/

/-- The query is the one that was asked for, with no answer or with the result of an
execution by one of the requests of a query that the cache keys cannot tell from it. -/
def AnsweredByExecution (requests : List (ActiveRequest base64 sha1))
    (asked query : IdentifiedQuery base64 sha1) : Prop :=
  query = { asked with cachedResponse := query.cachedResponse } ∧
    ∀ answer, query.cachedResponse = some answer →
      ∃ request ∈ requests, ∃ executed ∈ request.collectedQueries,
        executed.keyed.Indistinct asked.keyed ∧ executed.cachedResponse = none ∧
          executed.execute request.context.language request.context.hostname = .ok answer

theorem LookedUp.answeredByExecution {requests : List (ActiveRequest base64 sha1)}
    {asked query : IdentifiedQuery base64 sha1} (lookedUp : LookedUp requests asked query) :
    AnsweredByExecution requests asked query := by
  refine ⟨lookedUp.1, fun answer found => ?_⟩
  obtain ⟨request, member, executed, collected, sameKey, missing, ran⟩ := lookedUp.2 answer found
  refine ⟨request, member, executed, collected, ?_, missing, ran⟩
  rw [← KeyedQuery.written_eq_iff_indistinct, ← KeyedQuery.sameKey_iff_written base64 sha1]
  exact ⟨asked.cacheKey, sameKey ▸ executed.made, asked.made⟩

/-- Nothing is executed or put into the cache for queries that have their answers. -/
theorem collect_of_answered (context : RequestContext) (handleErrors : Bool) {queries : List Query}
    (answered : ∀ query ∈ queries, query.cachedResponse ≠ none) (collected : Collected) :
    ∃ after, queries.foldlM (collectQueryResponse context handleErrors) collected = .ok after ∧
      after.inserted = collected.inserted := by
  induction queries generalizing collected with
  | nil => exact ⟨collected, rfl, rfl⟩
  | cons query queries ih =>
      obtain ⟨answer, found⟩ := Option.ne_none_iff_exists'.mp (answered query List.mem_cons_self)
      simp only [List.foldlM_cons, collectQueryResponse, found]
      obtain ⟨after, ran, same⟩ := ih (fun query member => answered query
        (List.mem_cons_of_mem _ member)) { collected with
          queryResponses := collected.queryResponses ++ [context.substituteAll answer]
          someSucceeded := true }
      exact ⟨after, ran, same⟩

/-- In every interleaving a request collects what it would collect alone of its queries with
the answers it found. Each answer was made by an execution of an indistinct query, and a
request that found all of them fails in nothing and executes nothing. -/
theorem cached_request_sequential {server : ServerState base64 sha1}
    (reached : Pool.Reached serve Arrives idle server) {request : ActiveRequest base64 sha1}
    (member : request ∈ server.threads) {fast : Bool} {outcome : Except Thrown Collected}
    (ended : request.phase = .ended fast outcome) :
    List.Forall₂ (AnsweredByExecution server.threads) request.asked request.queries ∧
      collectQueryResponses request.context request.handleErrors
        (request.queries.map IdentifiedQuery.toQuery) = outcome ∧
      (fast = true → ∃ collected, outcome = .ok collected ∧ collected.inserted = []) := by
  have coherent := coherent_of_reached reached
  have follows := coherent.follows request member
  rw [Follows, ended] at follows
  obtain ⟨found, ran, -⟩ := follows
  refine ⟨(coherent.lookedUp request member).imp fun _ _ => LookedUp.answeredByExecution, ran, ?_⟩
  intro all
  have answered : ∀ query ∈ request.queries.map IdentifiedQuery.toQuery,
      query.cachedResponse ≠ none := by
    intro query there
    obtain ⟨identified, inQueries, rfl⟩ := List.mem_map.mp there
    exact found all identified inQueries
  obtain ⟨after, collected, nothing⟩ :=
    collect_of_answered request.context request.handleErrors answered .start
  exact ⟨after, ran.symm.trans collected, nothing⟩

/-! ### Requests without a cache -/

/-- What a request makes its answer of. -/
def Collected.given (collected : Collected) : List ByteString × Bool :=
  (collected.queryResponses, collected.someSucceeded)

/-- Indistinct queries have the same results wherever they are executed. -/
def ExecutionsAgree (requests : List (ActiveRequest base64 sha1)) : Prop :=
  ∀ request ∈ requests, ∀ asked ∈ request.asked, ∀ other ∈ requests, ∀ asked' ∈ other.asked,
    asked'.keyed.Indistinct asked.keyed → ∀ answer,
      asked'.execute other.context.language other.context.hostname = .ok answer →
        asked.execute request.context.language request.context.hostname = .ok answer

/-- The query has no answer, or the one that its own execution gives. -/
structure AnsweredAsExecuted (context : RequestContext) (asked query : Query) : Prop where
  same : query = { asked with cachedResponse := query.cachedResponse }
  unanswered : asked.cachedResponse = none
  executed : ∀ answer, query.cachedResponse = some answer →
    asked.execute context.language context.hostname = .ok answer

/-- An answer that is already there is collected like the execution that gives it. -/
theorem collectQueryResponse_asExecuted {context : RequestContext} (handleErrors : Bool)
    {asked query : Query} (answered : AnsweredAsExecuted context asked query)
    {collected collected' : Collected} (same : collected.given = collected'.given) :
    (collectQueryResponse context handleErrors collected query).map Collected.given =
      (collectQueryResponse context handleErrors collected' asked).map Collected.given := by
  obtain ⟨responses, succeeded⟩ := Prod.mk.inj same
  cases found : query.cachedResponse with
  | some answer =>
      have ran := answered.executed answer found
      simp only [collectQueryResponse, found, answered.unanswered, ran]
      simp [Except.map, Pure.pure, Except.pure, Collected.given, responses]
  | none =>
      obtain rfl : query = asked := by
        rw [answered.same, found, ← answered.unanswered]
      rw [collectQueryResponse_eq, collectQueryResponse_eq context handleErrors collected']
      cases collectQueryResponse context handleErrors .start query with
      | error thrown => rfl
      | ok own => simp [Except.map, Collected.given, Collected.append, responses, succeeded]

theorem collect_asExecuted {context : RequestContext} (handleErrors : Bool)
    {asked queries : List Query}
    (answered : List.Forall₂ (AnsweredAsExecuted context) asked queries)
    {collected collected' : Collected} (same : collected.given = collected'.given) :
    (queries.foldlM (collectQueryResponse context handleErrors) collected).map Collected.given =
      (asked.foldlM (collectQueryResponse context handleErrors) collected').map
        Collected.given := by
  induction answered generalizing collected collected' with
  | nil => simp [Pure.pure, Except.pure, Except.map, same]
  | @cons asked query _ _ first _ ih =>
      have step := collectQueryResponse_asExecuted handleErrors first same
      simp only [List.foldlM_cons]
      cases ran : collectQueryResponse context handleErrors collected query with
      | error thrown =>
          rw [ran] at step
          cases plain : collectQueryResponse context handleErrors collected' asked with
          | error thrown' =>
              rw [plain] at step
              exact step
          | ok after =>
              rw [plain] at step
              cases step
      | ok after =>
          rw [ran] at step
          cases plain : collectQueryResponse context handleErrors collected' asked with
          | error thrown =>
              rw [plain] at step
              cases step
          | ok after' =>
              rw [plain] at step
              exact ih (Except.ok.inj step)

/-- A query that has been executed is one that was asked for. -/
theorem Coherent.executed_asked {server : ServerState base64 sha1} (coherent : Coherent server)
    {request : ActiveRequest base64 sha1} (member : request ∈ server.threads)
    {query : IdentifiedQuery base64 sha1} (collected : query ∈ request.collectedQueries) :
    ∃ asked ∈ request.asked, query = { asked with cachedResponse := query.cachedResponse } := by
  have inQueries : query ∈ request.queries := by
    unfold ActiveRequest.collectedQueries at collected
    unfold ActiveRequest.queries
    split at collected
    · cases collected
    · exact List.mem_append_left _ collected
    · exact List.mem_append_left _ collected
  obtain ⟨place, at_place⟩ := List.mem_iff_getElem?.mp inQueries
  obtain ⟨within, same⟩ := List.getElem?_eq_some_iff.mp at_place
  have all := coherent.lookedUp request member
  have within' : place < request.asked.length := by
    rw [all.length_eq]
    exact within
  have lookedUp := all.get within' within
  simp only [List.get_eq_getElem, same] at lookedUp
  exact ⟨_, List.getElem_mem within', lookedUp.1⟩

/-- The shared cache changes nothing for any request if executions of indistinct queries
agree: each gets the responses, or the failure, that it would get without a cache. -/
theorem cache_transparent {server : ServerState base64 sha1}
    (reached : Pool.Reached serve Arrives idle server) (agree : ExecutionsAgree server.threads)
    {request : ActiveRequest base64 sha1} (member : request ∈ server.threads) {fast : Bool}
    {outcome : Except Thrown Collected} (ended : request.phase = .ended fast outcome) :
    outcome.map Collected.given =
      (collectQueryResponses request.context request.handleErrors
        (request.asked.map IdentifiedQuery.toQuery)).map Collected.given := by
  have coherent := coherent_of_reached reached
  have follows := coherent.follows request member
  rw [Follows, ended] at follows
  rw [← follows.2.1]
  apply collect_asExecuted
  · rw [List.forall₂_map_left_iff, List.forall₂_map_right_iff]
    have answered := (coherent.lookedUp request member).imp
      fun _ _ => LookedUp.answeredByExecution
    refine ((List.forall₂_and_left _ _).mpr ⟨fun asked there => there, answered⟩).imp ?_
    rintro asked query ⟨inAsked, same, byExecution⟩
    refine ⟨congrArg IdentifiedQuery.toQuery same,
      coherent.unanswered request member asked inAsked, fun answer found => ?_⟩
    obtain ⟨other, there, executed, collected, indistinct, -, ran⟩ := byExecution answer found
    obtain ⟨asked', inOther, same'⟩ := coherent.executed_asked there collected
    rw [same'] at indistinct ran
    exact agree request member asked inAsked other there asked' inOther indistinct answer ran
  · rfl

/-! ### Two requests one after the other -/

/-- The query that `keyed` identifies, which always gives the same answer. -/
def identified (keyed : KeyedQuery) (answer : ByteString) :
    IdentifiedQuery .standard Sha1.digest where
  queryType := .query
  storedQueryId := keyed.id
  params := []
  filterExpression := []
  cacheKey := ((keyed.getCacheKey .standard Sha1.digest).toOption).getD []
  cachedResponse := none
  execute := fun _ _ => .ok answer
  keyed := keyed
  made := by
    obtain ⟨key, made, -⟩ :=
      (KeyedQuery.sameKey_iff_written .standard Sha1.digest keyed keyed).mpr rfl
    rw [made]
    rfl

section Served

variable (context : RequestContext) (query : IdentifiedQuery base64 sha1) (answer : ByteString)

/-- The request for the query after its execution. -/
def executedRequest : ActiveRequest base64 sha1 :=
  ⟨context, false, [query], [query], [], .ended false (.ok
    ⟨[context.substituteAll answer], true, [(query.cacheKey, answer)]⟩)⟩

/-- The request for the query after its answer was found. -/
def answeredRequest : ActiveRequest base64 sha1 :=
  ⟨context, false, [query], [{ query with cachedResponse := some answer }], [],
    .ended true (.ok ⟨[context.substituteAll answer], true, []⟩)⟩

def servedTwice : ServerState base64 sha1 :=
  ⟨[(query.cacheKey, answer)],
    [executedRequest context query answer, answeredRequest context query answer]⟩

variable {context query answer}

theorem reached_serve {cache cache' : QueryResponseCache}
    {before after : List (ActiveRequest base64 sha1)} {request request' : ActiveRequest base64 sha1}
    (kept : Option Nat)
    (reached : Pool.Reached serve Arrives idle ⟨cache, before ++ request :: after⟩)
    (served : serve ⟨cache, before ++ request :: after⟩ request kept =
      some ⟨cache', request', []⟩) :
    Pool.Reached serve Arrives idle ⟨cache', before ++ request' :: after⟩ := by
  refine @Pool.Reached.next _ _ _ _ _ _ _ _ (.run before.length kept) reached trivial ?_
  simp only [Pool.step, List.getElem?_append_right (Nat.le_refl _),
    Nat.sub_self, List.getElem?_cons_zero, served, Option.map_some, Pool.threadsAfter]
  simp

theorem servedTwice_reached (unanswered : query.cachedResponse = none)
    (executes : query.execute context.language context.hostname = .ok answer) :
    Pool.Reached serve Arrives idle (servedTwice context query answer) := by
  have arrives : ∀ server : ServerState base64 sha1,
      Pool.Reached serve Arrives idle server → Pool.Reached serve Arrives idle
        ⟨server.shared, server.threads ++ [.create context false [query]]⟩ := by
    intro server reached
    refine @Pool.Reached.next _ _ _ _ _ _ _ _ (.call _) reached ?_ rfl
    exact ⟨_, _, _, rfl, by simpa using unanswered⟩
  have missed := @reached_serve _ _ [] [] [] [] _
    ⟨context, false, [query], [query], [], .lookingUp false⟩ none (arrives _ .start) rfl
  have created := @reached_serve _ _ [] [] [] [] _
    ⟨context, false, [query], [], [query], .collecting false .start⟩ none missed rfl
  have collected := @reached_serve _ _ [] [(query.cacheKey, answer)] [] [] _
    ⟨context, false, [query], [query], [], .collecting false
      ⟨[context.substituteAll answer], true, [(query.cacheKey, answer)]⟩⟩ none created (by
      simp [serve, collectQueryResponse, unanswered, executes, Collected.start, Pure.pure,
        Except.pure])
  have executed := @reached_serve _ _ _ _ [] [] _ (executedRequest context query answer) none
    collected rfl
  have found :=
    @reached_serve _ _ _ [(query.cacheKey, answer)] [executedRequest context query answer] [] _
    ⟨context, false, [query], [{ query with cachedResponse := some answer }], [],
      .lookingUp true⟩ (some 0) (arrives _ executed) (by
      simp [serve, ActiveRequest.create, QueryResponseCache.find])
  have created := @reached_serve _ _ _ _ [executedRequest context query answer] [] _
    ⟨context, false, [query], [], [{ query with cachedResponse := some answer }],
      .collecting true .start⟩ none found rfl
  have collected := @reached_serve _ _ _ [(query.cacheKey, answer)]
    [executedRequest context query answer] [] _
    ⟨context, false, [query], [{ query with cachedResponse := some answer }], [],
      .collecting true ⟨[context.substituteAll answer], true, []⟩⟩ none created (by
      simp [serve, collectQueryResponse, Collected.start, Pure.pure, Except.pure])
  exact @reached_serve _ _ _ _ [executedRequest context query answer] [] _
    (answeredRequest context query answer) none collected rfl

end Served

/-- A query whose answer is always the text `x`. -/
def letterQuery : IdentifiedQuery .standard Sha1.digest :=
  identified (KeyedQuery.sourceQuery (ascii "grid") (by simp only [Storable]; decide)) (ascii "x")

/-- The second request for the query, which found the answer that the first one made. -/
def letterRequest : ActiveRequest .standard Sha1.digest :=
  answeredRequest (sampleContext []) letterQuery (ascii "x")

def letterServed : ServerState .standard Sha1.digest :=
  servedTwice (sampleContext []) letterQuery (ascii "x")

theorem letterServed_reached : Pool.Reached serve Arrives idle letterServed :=
  servedTwice_reached rfl rfl

theorem letterRequest_mem : letterRequest ∈ letterServed.threads :=
  List.mem_cons_of_mem _ List.mem_cons_self

theorem letterRequest_sequential :
    List.Forall₂ (AnsweredByExecution letterServed.threads) [letterQuery] letterRequest.queries :=
  (@cached_request_sequential _ _ _ letterServed_reached letterRequest letterRequest_mem true _
    rfl).1

theorem letterServed_agree : ExecutionsAgree letterServed.threads := by
  have asks : ∀ request ∈ letterServed.threads, request.asked = [letterQuery] := by
    intro request member
    rcases List.mem_cons.mp member with rfl | second
    · rfl
    · rw [List.mem_singleton.mp second]
      rfl
  intro request member asked inAsked other there asked' inOther _ answer ran
  rw [asks request member, List.mem_singleton] at inAsked
  rw [asks other there, List.mem_singleton] at inOther
  subst inAsked inOther
  exact ran

theorem letterRequest_transparent :
    (Except.ok (ε := Thrown) ⟨[(sampleContext []).substituteAll (ascii "x")], true, []⟩).map
        Collected.given =
      (collectQueryResponses (sampleContext []) false [letterQuery.toQuery]).map Collected.given :=
  @cache_transparent _ _ _ letterServed_reached letterServed_agree letterRequest letterRequest_mem
    true _ rfl

end SmartMetWfs.Request
