import SmartMetWfs.AdHoc.Addresses
import SmartMetWfs.AdHoc.Contents

/-!
# Calls on the queries of a filter

While a filter is turned into queries, their filter expressions are written by
`read_comparison_operation` and `copy_params` only. Both splice texts: the last character
of an expression is taken for its closing bracket, and the first bracket of a copied one
for its opening bracket. Whatever the conditions, the expression of a query remains the
conjunction of those that have been read into it or copied to it.
-/

namespace SmartMetWfs.AdHoc

open Foundation Parameters

variable {ν : Type}

/-- The queries that have been created or will be, by their addresses. -/
abbrev QueryStore (ν : Type) := Nat → AdHocQuery ν

/-- Every address has a new query. -/
def QueryStore.fresh (caseSensitiveParams : Bool) : QueryStore ν :=
  fun address => .create caseSensitiveParams address

/-- What filter extraction does to a query. No query is copied to itself. -/
inductive FilterCall (ν : Type)
  | readComparisonOperation (query : Nat) (element : Element)
  | readQueryParameter (query : Nat) (params : RequestParameterMap ν) (skippedParams : List Element)
  | copyParams (source target : Nat) (distinct : source ≠ target)

namespace FilterCall

variable (reader : XmlReader ν)

/-- What a call does with the queries. -/
def run (store : QueryStore ν) : FilterCall ν → Except Failure (QueryStore ν)
  | readComparisonOperation query element => do
      let newFilter ← AdHoc.readComparisonOperation reader element
      return Function.update store query ((store query).addFilter newFilter)
  | readQueryParameter query params skippedParams =>
      .ok (Function.update store query { store query with params, skippedParams })
  | copyParams source target _ => do
      let copied ← AdHoc.copyParams (store source) (store target)
      return Function.update store target copied

/-- The conditions that each query has taken, in order. -/
def takeConditions (taken : Nat → List ByteString) : FilterCall ν → Nat → List ByteString
  | readComparisonOperation query element =>
      match AdHoc.readComparisonOperation reader element with
      | .ok newFilter => Function.update taken query (taken query ++ [newFilter])
      | .error _ => taken
  | readQueryParameter _ _ _ => taken
  | copyParams source target _ => Function.update taken target (taken target ++ taken source)

end FilterCall

/-- The conditions taken by calls, in their order. -/
def conditionsAfter (reader : XmlReader ν) (calls : List (FilterCall ν)) : Nat → List ByteString :=
  calls.foldl (FilterCall.takeConditions reader) fun _ => []

/-- The filter expressions are the conjunctions of the conditions taken. -/
def Rendered (taken : Nat → List ByteString) (store : QueryStore ν) : Prop :=
  ∀ address, (store address).filterExpression = renderFilter (taken address)

/-- A query that is rendered is put at its address. -/
theorem Rendered.update {taken : Nat → List ByteString} {store : QueryStore ν}
    (rendered : Rendered taken store) {address : Nat} {query : AdHocQuery ν}
    {texts : List ByteString}
    (own : query.filterExpression = renderFilter texts) :
    Rendered (Function.update taken address texts) (Function.update store address query) := by
  intro other
  by_cases same : other = address
  · rw [same, Function.update_self, Function.update_self, own]
  · rw [Function.update_of_ne same, Function.update_of_ne same, rendered other]

variable {reader : XmlReader ν}

/-- Every call keeps the filters rendered. -/
theorem run_rendered {taken : Nat → List ByteString} {store : QueryStore ν}
    (rendered : Rendered taken store) (call : FilterCall ν) :
    Meets (fun _ => True) (call.run reader store)
      (Rendered (call.takeConditions reader taken)) := by
  cases call with
  | readComparisonOperation query element =>
      unfold FilterCall.run FilterCall.takeConditions
      dsimp only
      cases readComparisonOperation reader element with
      | error failure => exact trivial
      | ok newFilter => exact rendered.update (addFilter_rendered (rendered query) newFilter)
  | readQueryParameter query params skippedParams =>
      intro other
      by_cases same : other = query
      · rw [same, Function.update_self]
        exact rendered query
      · rw [Function.update_of_ne same]
        exact rendered other
  | copyParams source target distinct =>
      unfold FilterCall.run
      dsimp only
      cases ran : AdHoc.copyParams (store source) (store target) with
      | error failure => exact trivial
      | ok copied =>
          rw [(copyParams_ok_iff.mp ran).2]
          exact rendered.update (splicedFilter_rendered (rendered source) (rendered target))

/-- Whatever calls are made, every filter expression is the conjunction of the conditions
that the query has taken. -/
theorem foldlM_run_rendered (reader : XmlReader ν) (caseSensitiveParams : Bool)
    (calls : List (FilterCall ν)) :
    Meets (fun _ => True) (calls.foldlM (FilterCall.run reader) (.fresh caseSensitiveParams))
      (Rendered (conditionsAfter reader calls)) := by
  refine Meets.foldlM (fun done => Rendered (conditionsAfter reader done)) calls (fun _ => rfl) ?_
  intro done call rest store _ rendered
  rw [conditionsAfter, List.foldl_append]
  exact run_rendered rendered call

end SmartMetWfs.AdHoc
