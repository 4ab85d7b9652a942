import SmartMetWfs.Request.CachedRequests
import SmartMetWfs.Request.Placeholders

/-!
# Markup of responses

The host name, the protocol and the API key that are put into a response come from the
headers of a request. Whatever they are, they bring no markup into it: the markup of a
response is that of the text which a query wrote, also when it was written for another
request and comes from the shared cache.
-/

namespace SmartMetWfs.Request

open Foundation

/-- The bytes with a meaning in XML: `<`, `>`, `&` and the quotes. -/
def isMarkup (byte : UInt8) : Bool :=
  byte = 60 || byte = 62 || byte = 38 || byte = 34 || byte = 39

def markup (text : ByteString) : ByteString := text.filter isMarkup

@[simp] theorem markup_append (first second : ByteString) :
    markup (first ++ second) = markup first ++ markup second :=
  List.filter_append ..

/-- The part of a text that `substitute_all` reads. -/
def readPart (text : ByteString) : ByteString := text.takeWhile fun byte => byte ≠ 0

/-! ### Values without markup -/

theorem isMarkup_of_isAlnum {byte : UInt8} (alnum : isAlnum byte = true) :
    isMarkup byte = false := by
  revert byte
  decide +kernel

theorem markup_eq_nil_iff (text : ByteString) :
    markup text = [] ↔ ∀ byte ∈ text, isMarkup byte = false := by
  simp [markup]

theorem markup_of_isValid {s extra : ByteString} (valid : isValid s extra = true)
    (safe : markup extra = []) : markup s = [] := by
  rw [markup_eq_nil_iff] at safe ⊢
  intro byte inside
  obtain ⟨_, all⟩ := Bool.and_eq_true_iff.mp valid
  have allowed := List.all_eq_true.mp all byte inside
  simp only [Bool.or_eq_true, decide_eq_true_eq] at allowed
  rcases allowed with (alnum | inExtra) | rfl
  · exact isMarkup_of_isAlnum alnum
  · exact safe byte (by simpa using inExtra)
  · rfl

/-- The context of a request with these headers, whose configured values have no markup. -/
def Safe (context : RequestContext) : Prop :=
  ∃ (before : RequestContext) (origin : RequestOrigin),
    context = before.setOrigin origin ∧ before.fmiApikey = none ∧ before.fmiApikeyPrefix = none ∧
      markup origin.fallbackHostname = [] ∧ markup origin.fallbackProtocol = []

theorem Safe.markup_valueOf {context : RequestContext} (safe : Safe context) (name : Placeholder) :
    markup (context.valueOf name) = [] := by
  obtain ⟨before, origin, rfl, noKey, noPrefix, safeHostname, safeProtocol⟩ := safe
  obtain ⟨hostname, protocol, keys⟩ := setOrigin_cases before origin
  cases name with
  | apikeyPrefix =>
      unfold RequestContext.valueOf
      rcases keys with ⟨same, -⟩ | ⟨fmiApikey, -, new, -⟩
      · rw [same, noPrefix]
        rfl
      · rw [new]
        rfl
  | apikey =>
      unfold RequestContext.valueOf
      rcases keys with ⟨-, same⟩ | ⟨fmiApikey, valid, -, new⟩
      · rw [same, noKey]
        rfl
      · rw [new]
        exact markup_of_isValid valid rfl
  | hostname =>
      dsimp only [RequestContext.valueOf]
      rw [hostname, Option.getD_some]
      split
      · next valid => exact markup_of_isValid valid rfl
      · exact safeHostname
  | protocol =>
      dsimp only [RequestContext.valueOf]
      rw [protocol, Option.getD_some, markup_append]
      have noMarkup : markup (if origin.validProtocol then origin.protocol
          else origin.fallbackProtocol) = [] := by
        split
        · next valid =>
            rcases Bool.or_eq_true_iff.mp valid with http | https
            · rw [of_decide_eq_true http]
              rfl
            · rw [of_decide_eq_true https]
              rfl
        · exact safeProtocol
      rw [noMarkup]
      rfl

/-- Putting the values of a request into a text leaves its markup as it is. -/
theorem markup_substituteAll {context : RequestContext} (safe : Safe context)
    (text : ByteString) : markup (context.substituteAll text) = markup (readPart text) := by
  obtain ⟨pieces, reads⟩ := exists_readsAs atSign Placeholder.word (readPart text)
  have passed : context.substituteAll text = pieces.flatMap (Piece.render context.valueOf) :=
    substitute_of_readAs reads
  rw [passed]
  conv_rhs => rw [← reads.spell]
  clear reads passed
  induction pieces with
  | nil => rfl
  | cons piece pieces ih =>
      rw [List.flatMap_cons, List.flatMap_cons, markup_append, markup_append, ih]
      congr 1
      cases piece with
      | kept letter => rfl
      | placeholder name =>
          have word : markup (delimited atSign name.word) = [] := by
            cases name <;> rfl
          rw [Piece.render, Piece.spell, safe.markup_valueOf, word]

/-! ### Responses of requests that share the cache -/

/-- What is collected without handling errors is collected when they are handled. -/
theorem collectQueryResponse_handled {context : RequestContext} {handleErrors : Bool}
    {collected after : Collected} {query : Query}
    (ran : collectQueryResponse context handleErrors collected query = .ok after) :
    collectQueryResponse context true collected query = .ok after := by
  cases handleErrors with
  | true => exact ran
  | false =>
      unfold collectQueryResponse at ran ⊢
      split at ran
      · exact ran
      · split at ran
        · exact ran
        · cases ran

theorem collect_handled {context : RequestContext} {handleErrors : Bool} {queries : List Query}
    {collected after : Collected}
    (ran : queries.foldlM (collectQueryResponse context handleErrors) collected = .ok after) :
    queries.foldlM (collectQueryResponse context true) collected = .ok after := by
  induction queries generalizing collected with
  | nil => exact ran
  | cons query queries ih =>
      rw [List.foldlM_cons] at ran ⊢
      cases step : collectQueryResponse context handleErrors collected query with
      | error thrown =>
          rw [step] at ran
          cases ran
      | ok next =>
          rw [step] at ran
          rw [collectQueryResponse_handled step]
          exact ih ran

theorem forall₂_trans {α β γ : Type} {first : α → β → Prop} {second : β → γ → Prop}
    {both : α → γ → Prop} (combine : ∀ a b c, first a b → second b c → both a c) {as : List α}
    {bs : List β} {cs : List γ} (left : List.Forall₂ first as bs)
    (right : List.Forall₂ second bs cs) : List.Forall₂ both as cs := by
  induction left generalizing cs with
  | nil =>
      cases right
      exact .nil
  | cons head _ ih =>
      cases right with
      | cons head' tail' => exact .cons (combine _ _ _ head head') (ih tail')

/-- The response reports an error of the query, or has the markup of a text that one of the
requests wrote when it executed an indistinct query. -/
def MarkupOfExecution {base64 : Base64} {sha1 : Digest}
    (requests : List (ActiveRequest base64 sha1)) (context : RequestContext)
    (query : IdentifiedQuery base64 sha1) (response : ByteString) : Prop :=
  (∃ thrown error, createErrorResponse context .reqProcessing thrown query.toQuery = .ok error ∧
    response = error.response) ∨
  ∃ request ∈ requests, ∃ executed ∈ request.collectedQueries, ∃ text,
    executed.keyed.Indistinct query.keyed ∧
      executed.execute request.context.language request.context.hostname = .ok text ∧
      markup response = markup (readPart text)

variable {base64 : Base64} {sha1 : Digest}

/-- In every interleaving of requests the markup of each response comes from a query: no
header of any request adds to it. -/
theorem response_markup {server : ServerState base64 sha1}
    (reached : Pool.Reached serve Arrives idle server) {request : ActiveRequest base64 sha1}
    (member : request ∈ server.threads) (safe : Safe request.context) {fast : Bool}
    {collected : Collected} (ended : request.phase = .ended fast (.ok collected)) :
    List.Forall₂ (MarkupOfExecution server.threads request.context) request.asked
      collected.queryResponses := by
  have coherent := coherent_of_reached reached
  have follows := coherent.follows request member
  rw [Follows, ended] at follows
  obtain ⟨-, ran, complete⟩ := follows
  have aligned := (collectQueryResponses_meets request.context _).of_ok (collect_handled ran)
  have answered := aligned.answered
  rw [List.forall₂_map_left_iff] at answered
  have all : ∀ query ∈ request.queries, query ∈ request.collectedQueries := by
    intro query there
    rw [ActiveRequest.queries, complete collected rfl, List.append_nil] at there
    rw [ActiveRequest.collectedQueries, ended]
    exact there
  have lookedUp := (List.forall₂_and_left _ _).mpr
    ⟨coherent.unanswered request member, coherent.lookedUp request member⟩
  refine forall₂_trans ?_ lookedUp ((List.forall₂_and_left _ _).mpr ⟨all, answered⟩)
  rintro asked query response ⟨unanswered, lookedUp⟩ ⟨collectedQuery, answers, -⟩
  obtain ⟨same, byExecution⟩ := lookedUp.answeredByExecution
  cases answers with
  | cached answer found substituted =>
      right
      obtain ⟨other, there, executed, executedThere, indistinct, -, ran⟩ := byExecution answer found
      refine ⟨other, there, executed, executedThere, answer, indistinct, ran, ?_⟩
      rw [substituted]
      exact markup_substituteAll safe answer
  | executed answer missing succeeded substituted =>
      right
      refine ⟨request, member, query, collectedQuery, answer, ?_, succeeded, ?_⟩
      · have sameKeyed : query.keyed = asked.keyed := congrArg (·.keyed) same
        rw [sameKeyed, ← KeyedQuery.written_eq_iff_indistinct]
      · rw [substituted]
        exact markup_substituteAll safe answer
  | failed thrown error missing failed reported document =>
      left
      obtain rfl : query = asked := by
        rw [same, missing, ← unanswered]
      exact ⟨thrown, error, reported, document⟩

/-- A request whose host name is markup. -/
def hostileOrigin : RequestOrigin := { plainOrigin with hostname := ascii "<b>" }

def hostileContext : RequestContext := (sampleContext []).setOrigin hostileOrigin

theorem hostileContext_safe : Safe hostileContext :=
  ⟨sampleContext [], hostileOrigin, rfl, rfl, rfl, rfl, rfl⟩

theorem grid_storable : Storable (ascii "grid") := by
  simp only [Storable]
  decide

/-- A query that writes where its host is named. -/
def hostQuery : IdentifiedQuery .standard Sha1.digest :=
  identified (KeyedQuery.sourceQuery (ascii "grid") grid_storable) (ascii "<a href='@HOSTNAME@'/>")

/-- The configured host name stands in the response, and its markup is the query's. -/
theorem hostile_response_markup :
    hostileContext.substituteAll (ascii "<a href='@HOSTNAME@'/>") =
        ascii "<a href='localhost'/>" ∧
      List.Forall₂ (MarkupOfExecution
          (servedTwice hostileContext hostQuery (ascii "<a href='@HOSTNAME@'/>")).threads
          hostileContext) [hostQuery]
        [hostileContext.substituteAll (ascii "<a href='@HOSTNAME@'/>")] :=
  ⟨rfl, @response_markup _ _
    (servedTwice hostileContext hostQuery (ascii "<a href='@HOSTNAME@'/>"))
    (servedTwice_reached rfl rfl)
    (answeredRequest hostileContext hostQuery (ascii "<a href='@HOSTNAME@'/>"))
    (List.mem_cons_of_mem _ List.mem_cons_self) hostileContext_safe true _ rfl⟩

end SmartMetWfs.Request
