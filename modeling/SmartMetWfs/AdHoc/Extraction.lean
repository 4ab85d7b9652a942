import SmartMetWfs.AdHoc.AdHocQuery

/-!
# From a filter to queries

`AdHocQuery::extract_filter_elements` walks the elements of a filter and distributes what
they contribute over a list of queries. Inside an OR element every contribution starts a
query of its own. An AND element reserves the last query of the list for itself; at its
end the queries of its OR elements are combined with one another, where the positions of
the first query of each are known from `or_query_indexes`, and with the reserved one.
-/

namespace SmartMetWfs.AdHoc

open Foundation Parameters

variable {ν : Type}

/-- The list of queries, the number of queries created so far, which is the address of
the next one, and the positions where the queries of OR elements begin. -/
structure FilterState (ν : Type) where
  queries : List (AdHocQuery ν)
  created : Nat
  orQueryIndexes : List Nat

namespace FilterState

/-- A query is created behind the others, with an address of its own. -/
def createQuery (caseSensitiveParams : Bool) (state : FilterState ν) : FilterState ν :=
  { state with
    queries := state.queries ++ [.create caseSensitiveParams state.created]
    created := state.created + 1 }

/-- Follow a pointer to a query. -/
def deref (state : FilterState ν) (address : Nat) : Except Failure (AdHocQuery ν) :=
  match state.queries.find? fun query => query.address = address with
  | some query => .ok query
  | none => .error (.faulted .removedQuery)

/-- The query at an index of the list. -/
def queryAt (state : FilterState ν) (index : Nat) : Except Failure (AdHocQuery ν) :=
  match state.queries[index]? with
  | some query => .ok query
  | none => .error (.faulted .badIndex)

/-- `queries.back()`. -/
def back (state : FilterState ν) : Except Failure (AdHocQuery ν) :=
  match state.queries.getLast? with
  | some query => .ok query
  | none => .error (.faulted .emptyList)

/-- A query after something has been written to it. -/
def write (query : AdHocQuery ν) (state : FilterState ν) : FilterState ν :=
  { state with
    queries := state.queries.map fun other =>
      if other.address = query.address then query else other }

/-- `queries.erase(begin + first, begin + last)`. -/
def eraseRange (first last : Nat) (state : FilterState ν) : Except Failure (FilterState ν) :=
  if first ≤ last ∧ last ≤ state.queries.length then
    .ok { state with queries := state.queries.take first ++ state.queries.drop last }
  else .error (.faulted .badIndex)

end FilterState

section

variable (caseSensitiveParams : Bool)

/-! ### The end of an AND element -/

/-- A new query with what two others have. -/
def combineQueries (andQuery : Nat) (state : FilterState ν) (pair : Nat × Nat) :
    Except Failure (FilterState ν) := do
  let orQuery1 ← state.queryAt pair.1
  let orQuery2 ← state.queryAt pair.2
  let _ ← state.deref andQuery
  let first ← copyParams orQuery1 (.create caseSensitiveParams state.created)
  let combinedQuery ← copyParams orQuery2 first
  return { state with
    queries := state.queries ++ [combinedQuery]
    created := state.created + 1 }

/-- The pairs of positions that a round of `combine_or_queries` goes through. -/
def combinePairs (first1 last1 first2 last2 : Nat) : List (Nat × Nat) :=
  (List.range' first1 (last1 - first1)).flatMap fun index1 =>
    (List.range' first2 (last2 - first2)).map fun index2 => (index1, index2)

/-- A round of `combine_or_queries`: the first one combines the sets 0 and 1, a later
one its set with the result of the round before. -/
def combineOrSet (andQuery queriesSize1 : Nat) (state : FilterState ν) (orSet : Nat) :
    Except Failure (FilterState ν) := do
  let indexes := state.orQueryIndexes
  let queriesSize2 := state.queries.length
  let lastIndex1 := if orSet + 1 < indexes.length then indexes.getD (orSet + 1) 0 else queriesSize1
  let firstIndex2 := if orSet = 0 then indexes.getD 1 0 else queriesSize1
  let lastIndex2 := if orSet = 0 ∧ 2 < indexes.length then indexes.getD (orSet + 2) 0
    else queriesSize2
  let combined ← (combinePairs (indexes.getD orSet 0) lastIndex1 firstIndex2 lastIndex2).foldlM
    (combineQueries caseSensitiveParams andQuery) state
  combined.eraseRange queriesSize1 queriesSize2

/-- `combine_or_queries`: set by set, the combined queries take the place of all. -/
def combineOrQueries (andQuery : Nat) (state : FilterState ν) : Except Failure (FilterState ν) := do
  let queriesSize1 := state.queries.length
  let combined ← (0 :: List.range' 2 (state.orQueryIndexes.length - 2)).foldlM
    (combineOrSet caseSensitiveParams andQuery queriesSize1) state
  combined.eraseRange (state.orQueryIndexes.getD 0 0) queriesSize1

/-- Copy the parameters of the AND query to the query at the position. -/
def copyAndQuery (andQuery : Nat) (state : FilterState ν) (orQueryIndex : Nat) :
    Except Failure (FilterState ν) := do
  let orQuery ← state.queryAt orQueryIndex
  let source ← state.deref andQuery
  let target ← copyParams source orQuery
  return { state with queries := state.queries.set orQueryIndex target }

/-- `handle_end_of_and_element`. -/
def handleEndOfAndElement (andQuery andQueryIndex : Nat) (state : FilterState ν) :
    Except Failure (FilterState ν) := do
  let combined ← (if 2 ≤ state.orQueryIndexes.length then
    combineOrQueries caseSensitiveParams andQuery state else .ok state)
  let cleared := { combined with orQueryIndexes := [] }
  let query ← cleared.deref andQuery
  if query.isQueryUsed = false then cleared.eraseRange andQueryIndex (andQueryIndex + 1)
  else if andQueryIndex + 1 < cleared.queries.length then do
    let copied ← (List.range' (andQueryIndex + 1)
      (cleared.queries.length - (andQueryIndex + 1))).foldlM (copyAndQuery andQuery) cleared
    copied.eraseRange andQueryIndex (andQueryIndex + 1)
  else .ok cleared

/-! ### The walk -/

/-- The last query differs from the one that is reserved for the AND element above. To
compare it with a query that has been removed is a fault. -/
def isReserved (state : FilterState ν) (query : AdHocQuery ν) (upperLevelAndQuery : Option Nat) :
    Except Failure Bool :=
  match upperLevelAndQuery with
  | none => .ok false
  | some address => do
      let reserved ← state.deref address
      return query.address = reserved.address

/-- The query for the next element: inside an OR element a new one, unless the last one
is still free. -/
def nextQuery (elementTree : List ByteString) (upperLevelAndQuery : Option Nat)
    (elementName : ByteString) (level : Level) (state : FilterState ν) :
    Except Failure (Level × FilterState ν) := do
  let query ← state.back
  if elementTree.head? ≠ some (ascii "fes:or") then return (level, state)
  let occupied ← (if query.isQueryUsed then .ok true
    else isReserved state query upperLevelAndQuery)
  if occupied = false then return (level, state)
  let created := state.createQuery caseSensitiveParams
  let fresh : Level := { level with paramNameSet := 0, forbidden := .empty }
  if level.isFirstOrQuery = true ∧ elementTree.tail.head? = some (ascii "fes:and") ∧
      elementName ≠ ascii "fes:and" ∧ elementName ≠ ascii "fes:or" then
    return ({ fresh with isFirstOrQuery := false },
      { created with orQueryIndexes := created.orQueryIndexes ++ [created.queries.length - 1] })
  else return (fresh, created)

/-- Inside an AND element its common query is written to, otherwise the last one. -/
def targetAddress (elementTree : List ByteString) (upperLevelAndQuery : Option Nat)
    (last : AdHocQuery ν) : Nat :=
  match upperLevelAndQuery with
  | some address => if elementTree.head? ≠ some (ascii "fes:or") then address else last.address
  | none => last.address

variable (reader : XmlReader ν) (config : StoredQueryConfig ν)

/-- `read_filter_parameter`: what an element that is no operator adds. -/
def readFilterParameter (elementTree : List ByteString) (upperLevelAndQuery : Option Nat)
    (element : Element) (level : Level) (state : FilterState ν) :
    Except Failure (Level × FilterState ν) := do
  let last ← state.back
  let target := targetAddress elementTree upperLevelAndQuery last
  if isComparisonOperation element.elementName then do
    let newFilter ← readComparisonOperation reader element
    let query ← state.deref target
    return (level, state.write (query.addFilter newFilter))
  else do
    let query ← state.deref target
    let (counted, written) ← readQueryParameter reader config elementTree element level query
    return (counted, state.write written)

mutual

/-- An element for which the query has been chosen: what it contributes is read, or its
children are walked. -/
def extractFilterElement (elementTree : List ByteString) (upperLevelAndQuery : Option Nat)
    (level : Level) (state : FilterState ν) : Element → Except Failure (Level × FilterState ν)
  | .mk tagName localName namespaceUri attributes text children => do
      let element := Element.mk tagName localName namespaceUri attributes text children
      let name := element.elementName
      if isQueryParameter name || isComparisonOperation name then
        readFilterParameter reader config elementTree upperLevelAndQuery element level state
      else if name = ascii "fes:and" then do
        let andQuery ← state.back
        let walked ← extractFilterElements (name :: elementTree) (some andQuery.address) .start
          state children
        let ended ← handleEndOfAndElement caseSensitiveParams andQuery.address
          (state.queries.length - 1) walked
        return (level, ended)
      else do
        let andQuery := if elementTree.head? ≠ some (ascii "fes:or") then upperLevelAndQuery
          else none
        let walked ← extractFilterElements (name :: elementTree) andQuery .start state children
        return (level, walked)

/-- `extract_filter_elements`, for the children of an element. The enclosing elements are
listed from the innermost one. -/
def extractFilterElements (elementTree : List ByteString) (upperLevelAndQuery : Option Nat)
    (level : Level) (state : FilterState ν) : List Element → Except Failure (FilterState ν)
  | [] => .ok state
  | element :: rest =>
      if element.elementName = ascii "fes:not" then .error (.refused .notSupported)
      else do
        let (nextLevel, next) ← nextQuery caseSensitiveParams elementTree upperLevelAndQuery
          element.elementName level state
        let (lastLevel, last) ← extractFilterElement elementTree upperLevelAndQuery nextLevel next
          element
        extractFilterElements elementTree upperLevelAndQuery lastLevel last rest

end

end

/-- `extract_xml_parameters`: the queries of a filter. -/
def extractXmlParameters (reader : XmlReader ν) (config : StoredQueryConfig ν) (root : Element) :
    Except Failure (FilterState ν) :=
  let caseSensitiveParams := config.useCaseSensitiveParams
  let start : FilterState ν := FilterState.createQuery caseSensitiveParams ⟨[], 0, []⟩
  extractFilterElements caseSensitiveParams reader config [root.elementName] none .start start
    root.children

end SmartMetWfs.AdHoc
