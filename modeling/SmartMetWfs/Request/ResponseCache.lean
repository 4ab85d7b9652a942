import SmartMetWfs.FeatureID.CacheKey
import SmartMetWfs.Foundation.ThreadPool
import SmartMetWfs.Request.QueryResponses

/-!
# The cache of query responses

Requests for features and for values of their properties share one cache of query
responses. A request looks all its queries up when it is created and executes those that
were not found when it is executed, while other requests do the same.

In every interleaving all that is in the cache, and all that has been found in it, was made
by an execution of a query with the same key.
-/

namespace SmartMetWfs.Request

open Foundation

/-- A query with what its cache key was made of. -/
structure IdentifiedQuery (base64 : Base64) (sha1 : Digest) extends Query where
  keyed : KeyedQuery
  made : keyed.getCacheKey base64 sha1 = .ok cacheKey

/-- What has been put into the cache. How long the cache keeps an entry is its own affair. -/
abbrev QueryResponseCache := List (ByteString × ByteString)

/-- A lookup finds an entry that was put in under the key and is still there, or nothing. -/
def QueryResponseCache.find (cache : QueryResponseCache) (key : ByteString) (kept : Option Nat) :
    Option ByteString :=
  match kept.bind fun place => cache[place]? with
  | some entry => if entry.1 = key then some entry.2 else none
  | none => none

inductive Phase
  | lookingUp (found : Bool)
  | collecting (fast : Bool) (collected : Collected)
  | ended (fast : Bool) (outcome : Except Thrown Collected)

variable {base64 : Base64} {sha1 : Digest}

/-- A request for the queries `asked`, some of which are done in the loop of its phase. -/
structure ActiveRequest (base64 : Base64) (sha1 : Digest) where
  context : RequestContext
  handleErrors : Bool
  asked : List (IdentifiedQuery base64 sha1)
  done : List (IdentifiedQuery base64 sha1)
  rest : List (IdentifiedQuery base64 sha1)
  phase : Phase

namespace ActiveRequest

/-- A request whose queries have been read. -/
def create (context : RequestContext) (handleErrors : Bool)
    (asked : List (IdentifiedQuery base64 sha1)) : ActiveRequest base64 sha1 :=
  ⟨context, handleErrors, asked, [], asked, .lookingUp true⟩

/-- The queries as far as they have been looked up. -/
def queries (request : ActiveRequest base64 sha1) : List (IdentifiedQuery base64 sha1) :=
  request.done ++ request.rest

/-- The queries whose responses have been collected. -/
def collectedQueries (request : ActiveRequest base64 sha1) : List (IdentifiedQuery base64 sha1) :=
  match request.phase with
  | .lookingUp _ => []
  | .collecting _ _ => request.done
  | .ended _ _ => request.done

end ActiveRequest

abbrev ServerState (base64 : Base64) (sha1 : Digest) :=
  Pool QueryResponseCache (ActiveRequest base64 sha1)

/-- A turn of the loop of `get_cached_responses` or of `collect_query_responses`. The choice
is the entry that a lookup still finds. -/
def serve (server : ServerState base64 sha1) (request : ActiveRequest base64 sha1)
    (kept : Option Nat) : Option (Effect QueryResponseCache (ActiveRequest base64 sha1)) :=
  match request.phase, request.rest with
  | .lookingUp found, [] =>
      some ⟨server.shared,
        { request with done := [], rest := request.done, phase := .collecting found .start }, []⟩
  | .lookingUp _, query :: rest =>
      match server.shared.find query.cacheKey kept with
      | some cachedResponse =>
          let answered := { query with cachedResponse := some cachedResponse }
          some ⟨server.shared,
            { request with done := request.done ++ [answered], rest := rest }, []⟩
      | none =>
          some ⟨server.shared,
            { request with
              done := request.done ++ [query]
              rest := rest
              phase := .lookingUp false }, []⟩
  | .collecting fast collected, [] =>
      some ⟨server.shared, { request with phase := .ended fast (.ok collected) }, []⟩
  | .collecting fast collected, query :: rest =>
      match collectQueryResponse request.context request.handleErrors collected query.toQuery with
      | .ok after =>
          some ⟨server.shared ++ after.inserted.drop collected.inserted.length,
            { request with
              done := request.done ++ [query]
              rest := rest
              phase := .collecting fast after }, []⟩
      | .error thrown =>
          some ⟨server.shared, { request with phase := .ended fast (.error thrown) }, []⟩
  | .ended _ _, _ => none

/-- New requests have been created of queries without answers. -/
def Arrives (_ : ServerState base64 sha1) :
    PoolEvent (ActiveRequest base64 sha1) (Option Nat) → Prop
  | .call request => ∃ context handleErrors asked,
      request = .create context handleErrors asked ∧ ∀ query ∈ asked, query.cachedResponse = none
  | .run _ _ => True

/-- No request has been made yet, and nothing has been put into the cache. -/
def idle : ServerState base64 sha1 := ⟨[], []⟩

/-- The turns that a request may take. -/
inductive Turn (server : ServerState base64 sha1) (request : ActiveRequest base64 sha1) :
    Effect QueryResponseCache (ActiveRequest base64 sha1) → Prop
  | created (found : Bool) (phase : request.phase = .lookingUp found) (last : request.rest = []) :
      Turn server request ⟨server.shared,
        { request with done := [], rest := request.done, phase := .collecting found .start }, []⟩
  | answered (found : Bool) (query : IdentifiedQuery base64 sha1)
      (rest : List (IdentifiedQuery base64 sha1)) (cachedResponse : ByteString)
      (phase : request.phase = .lookingUp found) (next : request.rest = query :: rest)
      (entry : (query.cacheKey, cachedResponse) ∈ server.shared) :
      Turn server request ⟨server.shared,
        { request with
          done := request.done ++ [{ query with cachedResponse := some cachedResponse }]
          rest := rest }, []⟩
  | missed (found : Bool) (query : IdentifiedQuery base64 sha1)
      (rest : List (IdentifiedQuery base64 sha1)) (phase : request.phase = .lookingUp found)
      (next : request.rest = query :: rest) :
      Turn server request ⟨server.shared,
        { request with
          done := request.done ++ [query], rest := rest, phase := .lookingUp false }, []⟩
  | finished (fast : Bool) (collected : Collected)
      (phase : request.phase = .collecting fast collected) (last : request.rest = []) :
      Turn server request ⟨server.shared, { request with phase := .ended fast (.ok collected) }, []⟩
  | collected (fast : Bool) (collected own : Collected) (query : IdentifiedQuery base64 sha1)
      (rest : List (IdentifiedQuery base64 sha1))
      (phase : request.phase = .collecting fast collected) (next : request.rest = query :: rest)
      (alone : collectQueryResponse request.context request.handleErrors .start query.toQuery =
        .ok own) :
      Turn server request ⟨server.shared ++ own.inserted,
        { request with
          done := request.done ++ [query]
          rest := rest
          phase := .collecting fast (collected.append own) }, []⟩
  | failed (fast : Bool) (collected : Collected) (thrown : Thrown)
      (query : IdentifiedQuery base64 sha1) (rest : List (IdentifiedQuery base64 sha1))
      (phase : request.phase = .collecting fast collected) (next : request.rest = query :: rest)
      (throws : collectQueryResponse request.context request.handleErrors collected query.toQuery =
        .error thrown) :
      Turn server request
        ⟨server.shared, { request with phase := .ended fast (.error thrown) }, []⟩

theorem QueryResponseCache.find_mem {cache : QueryResponseCache} {key result : ByteString}
    {kept : Option Nat} (found : cache.find key kept = some result) : (key, result) ∈ cache := by
  unfold find at found
  split at found
  · next entry there =>
      split at found
      · next same =>
          obtain ⟨place, -, at_place⟩ := Option.bind_eq_some_iff.mp there
          obtain rfl := Option.some.inj found
          obtain rfl := same
          exact List.mem_of_getElem? at_place
      · cases found
  · cases found

/-- What is collected of a query is what is collected of it alone. -/
theorem collectQueryResponse_alone {context : RequestContext} {handleErrors : Bool}
    {collected after : Collected} {query : Query}
    (ran : collectQueryResponse context handleErrors collected query = .ok after) :
    ∃ own, collectQueryResponse context handleErrors .start query = .ok own ∧
      after = collected.append own := by
  rw [collectQueryResponse_eq] at ran
  cases alone : collectQueryResponse context handleErrors .start query with
  | error thrown =>
      rw [alone] at ran
      cases ran
  | ok own =>
      rw [alone] at ran
      exact ⟨own, rfl, (Except.ok.inj ran).symm⟩

theorem serve_turn {server : ServerState base64 sha1} {request : ActiveRequest base64 sha1}
    {kept : Option Nat} {effect : Effect QueryResponseCache (ActiveRequest base64 sha1)}
    (served : serve server request kept = some effect) : Turn server request effect := by
  unfold serve at served
  split at served
  · next found phase last =>
      obtain rfl := Option.some.inj served
      exact .created found phase last
  · next found query rest phase next =>
      split at served
      · next cachedResponse there =>
          obtain rfl := Option.some.inj served
          exact .answered found query rest cachedResponse phase next
            (QueryResponseCache.find_mem there)
      · obtain rfl := Option.some.inj served
        exact .missed found query rest phase next
  · next fast collected phase last =>
      obtain rfl := Option.some.inj served
      exact .finished fast collected phase last
  · next fast collected query rest phase next =>
      split at served
      · next after ran =>
          obtain rfl := Option.some.inj served
          obtain ⟨own, alone, rfl⟩ := collectQueryResponse_alone ran
          have inserted : (collected.append own).inserted.drop collected.inserted.length =
              own.inserted := List.drop_left
          rw [inserted]
          exact .collected fast collected own query rest phase next alone
      · next thrown throws =>
          obtain rfl := Option.some.inj served
          exact .failed fast collected thrown query rest phase next throws
  · cases served

/-! ### Executions behind the entries -/

/-- One of the requests has executed a query for these keys successfully, with this result. -/
def Made (requests : List (ActiveRequest base64 sha1)) (key result : ByteString) : Prop :=
  ∃ request ∈ requests, ∃ query ∈ request.collectedQueries, query.cacheKey = key ∧
    query.cachedResponse = none ∧
    query.execute request.context.language request.context.hostname = .ok result

/-- The query is one that was asked for, with an answer that was made for its key if it has
an answer. -/
def LookedUp (requests : List (ActiveRequest base64 sha1))
    (asked query : IdentifiedQuery base64 sha1) : Prop :=
  query = { asked with cachedResponse := query.cachedResponse } ∧
    ∀ answer, query.cachedResponse = some answer → Made requests asked.cacheKey answer

/-- What a request has in hand in a phase. -/
def Follows (request : ActiveRequest base64 sha1) : Prop :=
  match request.phase with
  | .lookingUp found =>
      (∀ query ∈ request.rest, query.cachedResponse = none) ∧
        (found = true → ∀ query ∈ request.done, query.cachedResponse ≠ none)
  | .collecting fast collected =>
      (fast = true → ∀ query ∈ request.queries, query.cachedResponse ≠ none) ∧
        collectQueryResponses request.context request.handleErrors
          (request.done.map IdentifiedQuery.toQuery) = .ok collected
  | .ended fast outcome =>
      (fast = true → ∀ query ∈ request.queries, query.cachedResponse ≠ none) ∧
        collectQueryResponses request.context request.handleErrors
          (request.queries.map IdentifiedQuery.toQuery) = outcome ∧
        (∀ collected, outcome = .ok collected → request.rest = [])

/-- Every entry of the cache and every answer found there was made by an execution. -/
structure Coherent (server : ServerState base64 sha1) : Prop where
  unanswered : ∀ request ∈ server.threads, ∀ query ∈ request.asked, query.cachedResponse = none
  made : ∀ entry ∈ server.shared, Made server.threads entry.1 entry.2
  lookedUp : ∀ request ∈ server.threads,
    List.Forall₂ (LookedUp server.threads) request.asked request.queries
  follows : ∀ request ∈ server.threads, Follows request

/-! ### Turns keep the cache coherent -/

/-- A request keeps its context and whatever it has collected. -/
structure Grows (request after : ActiveRequest base64 sha1) : Prop where
  context : after.context = request.context
  collected : ∀ query ∈ request.collectedQueries, query ∈ after.collectedQueries

theorem Turn.grows {server : ServerState base64 sha1} {request : ActiveRequest base64 sha1}
    {effect : Effect QueryResponseCache (ActiveRequest base64 sha1)}
    (turn : Turn server request effect) : Grows request effect.thread := by
  cases turn with
  | created found phase last =>
      refine ⟨rfl, ?_⟩
      simp [ActiveRequest.collectedQueries, phase]
  | answered found query rest cachedResponse phase next entry =>
      refine ⟨rfl, ?_⟩
      simp [ActiveRequest.collectedQueries, phase]
  | missed found query rest phase next =>
      refine ⟨rfl, ?_⟩
      simp [ActiveRequest.collectedQueries, phase]
  | finished fast collected phase last =>
      refine ⟨rfl, ?_⟩
      simp [ActiveRequest.collectedQueries, phase]
  | collected fast collected own query rest phase next alone =>
      refine ⟨rfl, ?_⟩
      simp only [ActiveRequest.collectedQueries, phase]
      exact fun query member => List.mem_append_left _ member
  | failed fast collected thrown query rest phase next throws =>
      refine ⟨rfl, ?_⟩
      simp [ActiveRequest.collectedQueries, phase]

theorem Made.mono {requests requests' : List (ActiveRequest base64 sha1)} {key result : ByteString}
    (grown : ∀ request ∈ requests, ∃ after ∈ requests', Grows request after)
    (made : Made requests key result) : Made requests' key result := by
  obtain ⟨request, member, query, collected, sameKey, missing, ran⟩ := made
  obtain ⟨after, member', grows⟩ := grown request member
  refine ⟨after, member', query, grows.collected query collected, sameKey, missing, ?_⟩
  rw [grows.context]
  exact ran

theorem LookedUp.mono {requests requests' : List (ActiveRequest base64 sha1)}
    {asked query : IdentifiedQuery base64 sha1}
    (grown : ∀ request ∈ requests, ∃ after ∈ requests', Grows request after)
    (lookedUp : LookedUp requests asked query) : LookedUp requests' asked query :=
  ⟨lookedUp.1, fun answer found => (lookedUp.2 answer found).mono grown⟩

/-- What a query puts into the cache is the result of its own execution. -/
theorem inserted_executed {context : RequestContext} {handleErrors : Bool} {query : Query}
    {own : Collected} (alone : collectQueryResponse context handleErrors .start query = .ok own)
    {entry : ByteString × ByteString} (member : entry ∈ own.inserted) :
    query.cacheKey = entry.1 ∧ query.cachedResponse = none ∧
      query.execute context.language context.hostname = .ok entry.2 := by
  unfold collectQueryResponse at alone
  split at alone
  · cases alone
    cases member
  · next missing =>
      split at alone
      · next result ran =>
          cases alone
          obtain rfl := List.mem_singleton.mp member
          exact ⟨rfl, missing, ran⟩
      · next thrown ran =>
          split at alone
          · split at alone
            · next storedQuery _ =>
                cases created : createErrorResponse context .reqProcessing thrown storedQuery with
                | error thrown' =>
                    rw [created] at alone
                    cases alone
                | ok error =>
                    rw [created] at alone
                    cases alone
                    cases member
            · cases alone
          · cases alone

/-- A relation along two lists does not mind another entry that is related as well. -/
theorem forall₂_replace {α β : Type} {relation : α → β → Prop} {entry entry' : β}
    (related : ∀ asked, relation asked entry → relation asked entry') {asked : List α}
    (before after : List β) (all : List.Forall₂ relation asked (before ++ entry :: after)) :
    List.Forall₂ relation asked (before ++ entry' :: after) := by
  induction before generalizing asked with
  | nil =>
      obtain ⟨first, others, head, tail, rfl⟩ := List.forall₂_cons_right_iff.mp all
      exact .cons (related first head) tail
  | cons one before ih =>
      obtain ⟨first, others, head, tail, rfl⟩ := List.forall₂_cons_right_iff.mp all
      exact .cons head (ih tail)

theorem collectQueryResponses_append (context : RequestContext) (handleErrors : Bool)
    (first second : List Query) :
    collectQueryResponses context handleErrors (first ++ second) =
      (collectQueryResponses context handleErrors first).bind fun collected =>
        second.foldlM (collectQueryResponse context handleErrors) collected :=
  List.foldlM_append

section Turns

variable {server : ServerState base64 sha1} {request : ActiveRequest base64 sha1}
  {effect : Effect QueryResponseCache (ActiveRequest base64 sha1)}

/-- The queries of a request stay looked up when it takes a turn. -/
theorem Turn.lookedUp (turn : Turn server request effect)
    (made : ∀ entry ∈ server.shared, Made server.threads entry.1 entry.2)
    (before : List.Forall₂ (LookedUp server.threads) request.asked request.queries) :
    List.Forall₂ (LookedUp server.threads) effect.thread.asked effect.thread.queries := by
  unfold ActiveRequest.queries at before ⊢
  cases turn with
  | created found phase last =>
      rw [last, List.append_nil] at before
      exact before
  | answered found query rest cachedResponse phase next entry =>
      rw [next] at before
      rw [List.append_assoc]
      refine forall₂_replace (fun asked lookedUp => ?_) _ _ before
      obtain ⟨same, -⟩ := lookedUp
      have sameKey : query.cacheKey = asked.cacheKey := congrArg (·.cacheKey) same
      constructor
      · change { query with cachedResponse := some cachedResponse } =
          { asked with cachedResponse := some cachedResponse }
        rw [same]
      · intro answer found
        obtain rfl := Option.some.inj found
        rw [← sameKey]
        exact made _ entry
  | missed found query rest phase next =>
      rw [next] at before
      simpa using before
  | finished fast collected phase last => exact before
  | collected fast collected own query rest phase next alone =>
      rw [next] at before
      simpa using before
  | failed fast collected thrown query rest phase next throws => exact before

theorem Turn.follows (turn : Turn server request effect) (before : Follows request) :
    Follows effect.thread := by
  unfold Follows at before
  cases turn with
  | created found phase last =>
      rw [phase] at before
      exact ⟨before.2, rfl⟩
  | answered found query rest cachedResponse phase next entry =>
      rw [phase, next] at before
      obtain ⟨missing, found⟩ := before
      simp only [Follows, phase]
      refine ⟨fun query member => missing query (List.mem_cons_of_mem _ member), ?_⟩
      intro all query member
      rcases List.mem_append.mp member with earlier | last
      · exact found all query earlier
      · obtain rfl := List.mem_singleton.mp last
        exact Option.some_ne_none _
  | missed found query rest phase next =>
      rw [phase, next] at before
      exact ⟨fun query member => before.1 query (List.mem_cons_of_mem _ member), nofun⟩
  | finished fast collected phase last =>
      rw [phase] at before
      refine ⟨before.1, ?_, fun _ _ => last⟩
      simp only [ActiveRequest.queries, last, List.append_nil]
      exact before.2
  | collected fast collected own query rest phase next alone =>
      rw [phase] at before
      obtain ⟨found, ran⟩ := before
      refine ⟨?_, ?_⟩
      · simp only [ActiveRequest.queries, next] at found ⊢
        simpa using found
      · simp only [List.map_append, List.map_cons, List.map_nil]
        rw [collectQueryResponses_append, ran]
        simp only [Except.bind, List.foldlM_cons, List.foldlM_nil, bind_pure]
        rw [collectQueryResponse_eq, alone]
        rfl
  | failed fast collected thrown query rest phase next throws =>
      rw [phase] at before
      obtain ⟨found, ran⟩ := before
      refine ⟨found, ?_, nofun⟩
      simp only [ActiveRequest.queries, next, List.map_append, List.map_cons]
      rw [collectQueryResponses_append, ran]
      simp only [Except.bind, List.foldlM_cons, throws]
      rfl

/-- An entry of the cache has been there, or the turn has just made it. -/
theorem Turn.shared (turn : Turn server request effect) {entry : ByteString × ByteString}
    (member : entry ∈ effect.shared) : entry ∈ server.shared ∨
      ∃ query ∈ effect.thread.collectedQueries, query.cacheKey = entry.1 ∧
        query.cachedResponse = none ∧ query.execute effect.thread.context.language
          effect.thread.context.hostname = .ok entry.2 := by
  cases turn with
  | collected fast collected own query rest phase next alone =>
      rcases List.mem_append.mp member with earlier | inserted
      · exact .inl earlier
      · exact .inr ⟨query, List.mem_append_right _ (List.mem_singleton_self query),
          inserted_executed alone inserted⟩
  | _ => exact .inl member

theorem Turn.asked (turn : Turn server request effect) : effect.thread.asked = request.asked := by
  cases turn <;> rfl

theorem Turn.started (turn : Turn server request effect) : effect.started = [] := by
  cases turn <;> rfl

theorem Coherent.after_turn {tid : Nat} (coherent : Coherent server)
    (found : server.threads[tid]? = some request) (turn : Turn server request effect) :
    Coherent ⟨effect.shared, Pool.threadsAfter server.threads tid effect⟩ := by
  have member := List.mem_of_getElem? found
  have served : effect.thread ∈ Pool.threadsAfter server.threads tid effect :=
    List.mem_of_getElem? (Pool.threadsAfter_self (List.getElem?_eq_some_iff.mp found).1)
  have earlier : ∀ after ∈ Pool.threadsAfter server.threads tid effect,
      after = effect.thread ∨ after ∈ server.threads := by
    intro after there
    obtain ⟨place, at_place⟩ := List.mem_iff_getElem?.mp there
    rcases Pool.threadsAfter_cases at_place with ⟨-, self⟩ | ⟨-, other⟩ | ⟨offset, -, new⟩
    · exact .inl self
    · exact .inr (List.mem_of_getElem? other)
    · rw [turn.started] at new
      cases new
  have grown : ∀ other ∈ server.threads,
      ∃ after ∈ Pool.threadsAfter server.threads tid effect, Grows other after := by
    intro other there
    obtain ⟨place, at_place⟩ := List.mem_iff_getElem?.mp there
    by_cases self : place = tid
    · subst self
      obtain rfl := Option.some.inj (found.symm.trans at_place)
      exact ⟨effect.thread, served, turn.grows⟩
    · exact ⟨other, List.mem_of_getElem? (Pool.threadsAfter_other self at_place), rfl,
        fun _ there => there⟩
  refine ⟨?_, ?_, ?_, ?_⟩
  · intro after there
    rcases earlier after there with rfl | before
    · rw [turn.asked]
      exact coherent.unanswered request member
    · exact coherent.unanswered after before
  · intro entry there
    rcases turn.shared there with before | ⟨query, collected, executed⟩
    · exact (coherent.made entry before).mono grown
    · exact ⟨effect.thread, served, query, collected, executed⟩
  · intro after there
    have old : List.Forall₂ (LookedUp server.threads) after.asked after.queries := by
      rcases earlier after there with rfl | before
      · exact turn.lookedUp coherent.made (coherent.lookedUp request member)
      · exact coherent.lookedUp after before
    exact old.imp fun _ _ lookedUp => lookedUp.mono grown
  · intro after there
    rcases earlier after there with rfl | before
    · exact turn.follows (coherent.follows request member)
    · exact coherent.follows after before

end Turns

theorem coherent_idle : Coherent (idle : ServerState base64 sha1) := by
  refine ⟨?_, ?_, ?_, ?_⟩ <;> intro _ member <;> cases member

/-- A request that has just been created has not been answered yet. -/
theorem Coherent.after_call {server : ServerState base64 sha1} (coherent : Coherent server)
    (context : RequestContext) (handleErrors : Bool)
    {asked : List (IdentifiedQuery base64 sha1)}
    (unanswered : ∀ query ∈ asked, query.cachedResponse = none) :
    Coherent { server with
      threads := server.threads ++ [ActiveRequest.create context handleErrors asked] } := by
  have grown : ∀ request ∈ server.threads, ∃ after ∈
      server.threads ++ [ActiveRequest.create context handleErrors asked], Grows request after :=
    fun request member => ⟨request, List.mem_append_left _ member, rfl, fun _ there => there⟩
  refine ⟨?_, ?_, ?_, ?_⟩
  · intro request member
    rcases List.mem_append.mp member with before | new
    · exact coherent.unanswered request before
    · obtain rfl := List.mem_singleton.mp new
      exact unanswered
  · exact fun entry there => (coherent.made entry there).mono grown
  · intro request member
    rcases List.mem_append.mp member with before | new
    · exact (coherent.lookedUp request before).imp fun _ _ lookedUp => lookedUp.mono grown
    · obtain rfl := List.mem_singleton.mp new
      change List.Forall₂ _ asked asked
      rw [List.forall₂_same]
      intro query there
      refine ⟨rfl, fun answer found => ?_⟩
      cases (unanswered query there).symm.trans found
  · intro request member
    rcases List.mem_append.mp member with before | new
    · exact coherent.follows request before
    · obtain rfl := List.mem_singleton.mp new
      refine ⟨unanswered, fun _ query there => ?_⟩
      cases there

theorem coherent_of_reached {server : ServerState base64 sha1}
    (reached : Pool.Reached serve Arrives idle server) : Coherent server := by
  apply reached.invariant coherent_idle
  intro server event after coherent arrives stepped
  cases event with
  | call request =>
      obtain ⟨context, handleErrors, asked, rfl, unanswered⟩ := arrives
      rw [Pool.step_call stepped]
      exact coherent.after_call context handleErrors unanswered
  | run tid kept =>
      obtain ⟨request, effect, found, served, rfl⟩ := Pool.step_run stepped
      exact coherent.after_turn found (serve_turn served)

end SmartMetWfs.Request
