import SmartMetWfs.AdHoc.Contents

/-!
# Leaves of a filter

A leaf is an element without operators inside: a bounding box, a time position with the
elements around it, a comparison. Walking a leaf changes one query, the one that it is
written to, by what the leaf contributes.
-/

namespace SmartMetWfs.AdHoc

open Foundation Parameters

variable {ν : Type}

/-! ### The list of queries -/

/-- No two queries have one address, and new addresses are new. -/
structure Distinct (state : FilterState ν) : Prop where
  nodup : (state.queries.map AdHocQuery.address).Nodup
  below : ∀ query ∈ state.queries, query.address < state.created

namespace Distinct

variable {state : FilterState ν}

/-- The address tells a query from the others. -/
theorem unique (distinct : Distinct state) {query query' : AdHocQuery ν}
    (member : query ∈ state.queries) (member' : query' ∈ state.queries)
    (same : query.address = query'.address) : query = query' :=
  List.inj_on_of_nodup_map distinct.nodup member member' same

/-- A query in the list is found by its address. -/
theorem deref_eq (distinct : Distinct state) {query : AdHocQuery ν}
    (member : query ∈ state.queries) : state.deref query.address = .ok query := by
  unfold FilterState.deref
  split
  · next found located =>
      have same : found.address = query.address := by simpa using List.find?_some located
      rw [distinct.unique (List.mem_of_find?_eq_some located) member same]
  · next none =>
      have absent := List.find?_eq_none.mp none query member
      simp at absent

/-- Writing to a query changes its place in the list and nothing else. -/
theorem write_eq (distinct : Distinct state) {before after : List (AdHocQuery ν)}
    {query written : AdHocQuery ν} (queries : state.queries = before ++ query :: after)
    (same : written.address = query.address) :
    state.write written = { state with queries := before ++ written :: after } := by
  have nodup := distinct.nodup
  rw [queries, List.map_append, List.map_cons] at nodup
  obtain ⟨_, restNodup, apart⟩ := List.nodup_append.mp nodup
  obtain ⟨absent, _⟩ := List.nodup_cons.mp restNodup
  have kept : ∀ others : List (AdHocQuery ν),
      (∀ other ∈ others, other.address ≠ query.address) →
        others.map (fun other => if other.address = written.address then written else other) =
          others := by
    intro others elsewhere
    refine (List.map_congr_left fun other member => ?_).trans (List.map_id others)
    rw [same, if_neg (elsewhere other member)]
    rfl
  unfold FilterState.write
  rw [queries, List.map_append, List.map_cons, kept before, kept after, same, if_pos rfl]
  · intro other member isSame
    exact absent (isSame ▸ List.mem_map_of_mem member)
  · intro other member isSame
    exact apart other.address (List.mem_map_of_mem member) query.address List.mem_cons_self isSame

/-- The query that was written stands in the place of the old one. -/
theorem replace (distinct : Distinct state) {before after : List (AdHocQuery ν)}
    {query written : AdHocQuery ν} (queries : state.queries = before ++ query :: after)
    (same : written.address = query.address) (orQueryIndexes : List Nat) :
    Distinct ⟨before ++ written :: after, state.created, orQueryIndexes⟩ := by
  obtain ⟨nodup, below⟩ := distinct
  rw [queries] at nodup below
  refine ⟨?_, fun other member => ?_⟩
  · rw [List.map_append, List.map_cons] at nodup ⊢
    rw [same]
    exact nodup
  · rcases List.mem_append.mp member with inBefore | rest
    · exact below other (List.mem_append_left _ inBefore)
    · rcases List.mem_cons.mp rest with rfl | inAfter
      · rw [same]
        exact below query (by simp)
      · exact below other (by simp [inAfter])

/-- A query with a new address is added. -/
theorem add (distinct : Distinct state) {query : AdHocQuery ν}
    (isNew : query.address = state.created) (orQueryIndexes : List Nat) :
    Distinct ⟨state.queries ++ [query], state.created + 1, orQueryIndexes⟩ := by
  refine ⟨?_, fun other member => ?_⟩
  · rw [List.map_append]
    refine List.nodup_append.mpr ⟨distinct.nodup, List.nodup_singleton _, ?_⟩
    intro address member other isAdded
    obtain ⟨old, inQueries, rfl⟩ := List.mem_map.mp member
    rw [List.mem_singleton.mp isAdded, isNew]
    exact ne_of_lt (distinct.below old inQueries)
  · rcases List.mem_append.mp member with old | added
    · exact Nat.lt_succ_of_lt (distinct.below other old)
    · rw [List.mem_singleton.mp added, isNew]
      exact Nat.lt_succ_self _

/-- Queries are removed. -/
theorem sublist (distinct : Distinct state) {queries : List (AdHocQuery ν)}
    (sublist : queries.Sublist state.queries) (orQueryIndexes : List Nat) :
    Distinct ⟨queries, state.created, orQueryIndexes⟩ :=
  ⟨distinct.nodup.sublist (sublist.map _), fun query member =>
    distinct.below query (sublist.subset member)⟩

/-- Only the list and the number of created queries matter. -/
theorem with_indexes (distinct : Distinct state) (orQueryIndexes : List Nat) :
    Distinct { state with orQueryIndexes } := ⟨distinct.nodup, distinct.below⟩

end Distinct

/-- The last query is found. -/
theorem back_eq {state : FilterState ν} {before : List (AdHocQuery ν)} {query : AdHocQuery ν}
    (queries : state.queries = before ++ [query]) : state.back = .ok query := by
  rw [FilterState.back, queries, List.getLast?_concat]

/-- A list that is not empty has a last query. -/
theorem exists_back {state : FilterState ν} (nonempty : state.queries ≠ []) :
    ∃ before query, state.queries = before ++ [query] ∧ state.back = .ok query :=
  have split : state.queries = state.queries.dropLast ++ [state.queries.getLast nonempty] :=
    (List.dropLast_append_getLast nonempty).symm
  ⟨_, _, split, back_eq split⟩

/-! ### What leaves contribute -/

section

variable (reader : XmlReader ν) (config : StoredQueryConfig ν)

/-- What a parameter or a comparison contributes, when it can be read. -/
def ownContribution (elementTree : List ByteString) (element : Element) :
    Option (Multiset (Contribution ν)) :=
  if isComparisonOperation element.elementName then
    match readComparisonOperation reader element with
    | .ok text => some {.condition text}
    | .error _ => none
  else
    match config.getParamDesc (parameterName elementTree element) with
    | .ok (some _) => (parameterValue reader element).map fun value =>
        {.parameter (parameterName elementTree element) value}
    | .ok none => some 0
    | .error _ => none

mutual

/-- What a leaf contributes, when it can be read. -/
def contributions (elementTree : List ByteString) : Element → Option (Multiset (Contribution ν))
  | .mk tagName localName namespaceUri attributes text children =>
      let element := Element.mk tagName localName namespaceUri attributes text children
      if isQueryParameter element.elementName || isComparisonOperation element.elementName then
        ownContribution reader config elementTree element
      else contributionsOf (element.elementName :: elementTree) children

/-- What several elements add, if all of them can be read. -/
def contributionsOf (elementTree : List ByteString) :
    List Element → Option (Multiset (Contribution ν))
  | [] => some 0
  | element :: rest => (contributions elementTree element).bind fun first =>
      (contributionsOf elementTree rest).map fun others => first + others

end

end

mutual

/-- There is no operator inside the element. -/
def Element.isLeaf : Element → Bool
  | .mk tagName _ _ _ _ children =>
      let name := asciiTolowerCopy tagName
      name ≠ ascii "fes:and" && name ≠ ascii "fes:or" && name ≠ ascii "fes:not" &&
        (isQueryParameter name || isComparisonOperation name || Element.areLeaves children)

/-- Whether all elements are single ones. -/
def Element.areLeaves : List Element → Bool
  | [] => true
  | element :: rest => element.isLeaf && Element.areLeaves rest

end

/-! ### Walking a leaf -/

/-- The request is refused for a leaf: the leaf cannot be read, or the stored query does not
take its parameter. -/
inductive LeafRefused : Failure → Prop
  | unreadable (element : Element) : LeafRefused (.refused (.unreadable element))
  | missingDescription (realName : ByteString) :
      LeafRefused (.refused (.missingDescription realName))
  | conflictingParam (name : ByteString) : LeafRefused (.refused (.conflictingParam name))
  | tooMany (name : ByteString) (actualCount maxOccurs : Int) :
      LeafRefused (.refused (.tooMany name actualCount maxOccurs))
  | outOfLimits (name : ByteString) : LeafRefused (.refused (.outOfLimits name))

/-- The refusal of a single element is tolerated. -/
theorem LeafRefused.tolerated {failure : Failure} (refused : LeafRefused failure) :
    Tolerated failure := by
  cases refused <;> exact .refused _

section

variable {reader : XmlReader ν} {config : StoredQueryConfig ν}

/-- A comparison fails by refusing its element. -/
theorem readComparisonOperation_refused {element : Element} {failure : Failure}
    (failed : readComparisonOperation reader element = .error failure) : LeafRefused failure := by
  have meets : Meets LeafRefused (readComparisonOperation reader element) fun _ => True := by
    unfold readComparisonOperation
    refine Meets.bind (Meets.foldlM (fun _ _ => True) _ trivial ?_) fun _ _ => trivial
    intro _ child _ comparison _ _
    unfold readComparisonChild
    split
    · exact .unreadable child
    · split
      · exact trivial
      · split <;> exact trivial
  rw [failed] at meets
  exact meets

/-- The name of a parameter is in lower case. -/
theorem asciiTolowerCopy_parameterName (elementTree : List ByteString) (element : Element) :
    asciiTolowerCopy (parameterName elementTree element) = parameterName elementTree element := by
  have start : asciiTolowerCopy (ascii "starttime") = ascii "starttime" := by decide
  have finish : asciiTolowerCopy (ascii "endtime") = ascii "endtime" := by decide
  unfold parameterName
  dsimp only
  split
  · split
    · split
      · split
        · exact start
        · split
          · exact finish
          · exact asciiTolowerCopy_idempotent _
      · exact asciiTolowerCopy_idempotent _
    · exact asciiTolowerCopy_idempotent _
  · exact asciiTolowerCopy_idempotent _

/-- Reading a parameter adds what it contributes. -/
theorem readQueryParameter_carries {elementTree : List ByteString} {element : Element}
    (notComparison : isComparisonOperation element.elementName = false) (level : Level)
    {query : AdHocQuery ν} {content : Multiset (Contribution ν)} (carries : Carries query content) :
    Meets LeafRefused
      (readQueryParameter reader config elementTree element level query) fun result =>
      result.1.isFirstOrQuery = level.isFirstOrQuery ∧ result.2.address = query.address ∧
        ∃ added, ownContribution reader config elementTree element = some added ∧
          Carries result.2 (content + added) := by
  unfold readQueryParameter ownContribution
  simp only [notComparison, Bool.false_eq_true, if_false]
  cases found : config.getParamDesc (parameterName elementTree element) with
  | error realName => exact .missingDescription realName
  | ok desc =>
      cases desc with
      | none =>
          refine ⟨rfl, rfl, 0, rfl, ?_⟩
          rw [add_zero]
          exact ⟨carries.pairs, carries.lower, carries.filter⟩
      | some desc =>
          dsimp only
          split
          · exact .conflictingParam _
          · split
            · exact .tooMany _ _ _
            · cases parameterValue reader element with
              | none => exact .unreadable element
              | some value =>
                  dsimp only
                  split
                  · exact ⟨rfl, rfl, _, rfl,
                      carries.insertValue
                        (asciiTolowerCopy_parameterName elementTree element) value⟩
                  · exact .outOfLimits _

/-- The query is the one that a leaf is written to: the query of the AND element above,
or, inside an OR element, the last query. -/
def Receives (elementTree : List ByteString) (upperLevelAndQuery : Option Nat)
    (query : AdHocQuery ν) (after : List (AdHocQuery ν)) : Prop :=
  (upperLevelAndQuery = some query.address ∧ elementTree.head? ≠ some (ascii "fes:or")) ∨
    ((upperLevelAndQuery = none ∨ elementTree.head? = some (ascii "fes:or")) ∧ after = [])

/-- The state after one query has been written to. -/
def Written (state : FilterState ν) (before : List (AdHocQuery ν)) (query : AdHocQuery ν)
    (after : List (AdHocQuery ν)) (content : Multiset (Contribution ν))
    (added : Option (Multiset (Contribution ν))) (result : FilterState ν) : Prop :=
  ∃ written extra, result = { state with queries := before ++ written :: after } ∧
    written.address = query.address ∧ added = some extra ∧ Carries written (content + extra)

/-- A single element writes its contribution to the query it is read into. -/
theorem readFilterParameter_written {elementTree : List ByteString}
    {upperLevelAndQuery : Option Nat} {element : Element} {level : Level} {state : FilterState ν}
    (distinct : Distinct state) {before after : List (AdHocQuery ν)} {query : AdHocQuery ν}
    (queries : state.queries = before ++ query :: after)
    (receives : Receives elementTree upperLevelAndQuery query after)
    {content : Multiset (Contribution ν)} (carries : Carries query content) :
    Meets LeafRefused
      (readFilterParameter reader config elementTree upperLevelAndQuery element level state)
      fun result => result.1.isFirstOrQuery = level.isFirstOrQuery ∧
        Written state before query after content
          (ownContribution reader config elementTree element) result.2 := by
  have nonempty : state.queries ≠ [] := by
    rw [queries]
    simp
  obtain ⟨front, last, ends, isBack⟩ := exists_back nonempty
  have target : targetAddress elementTree upperLevelAndQuery last = query.address := by
    unfold targetAddress
    rcases receives with ⟨rfl, notOr⟩ | ⟨noUpper, rfl⟩
    · exact if_pos notOr
    · have isLast : last = query := by
        have same := ends.symm.trans queries
        exact (List.append_inj' same rfl).2 |> List.singleton_inj.mp
      rcases noUpper with rfl | isOr
      · rw [isLast]
      · cases upperLevelAndQuery with
        | none => rw [isLast]
        | some address =>
            dsimp only
            rw [if_neg (not_not.mpr isOr), isLast]
  have present : state.deref query.address = .ok query :=
    distinct.deref_eq (by rw [queries]; simp)
  unfold readFilterParameter
  rw [isBack]
  change Meets LeafRefused (if isComparisonOperation element.elementName = true then _ else _) _
  cases comparison : isComparisonOperation element.elementName with
  | true =>
      rw [if_pos rfl]
      cases text : readComparisonOperation reader element with
      | error failure => exact readComparisonOperation_refused text
      | ok newFilter =>
          change Meets LeafRefused (state.deref _ >>= _) _
          rw [target, present]
          refine Meets.ok ⟨rfl, query.addFilter newFilter, {.condition newFilter}, ?_, rfl, ?_,
            carries.addFilter newFilter⟩
          · exact distinct.write_eq queries rfl
          · rw [ownContribution, comparison, if_pos rfl, text]
  | false =>
      rw [if_neg Bool.false_ne_true, target, present]
      refine (readQueryParameter_carries comparison level carries).bind ?_
      intro ⟨counted, written⟩ ⟨sameFirst, sameAddress, added, isAdded, carriesWritten⟩
      exact ⟨sameFirst, written, added, distinct.write_eq queries sameAddress, sameAddress, isAdded,
        carriesWritten⟩

/-- Outside of OR elements no query is created. -/
theorem nextQuery_outside {caseSensitiveParams : Bool} {elementTree : List ByteString}
    (outside : elementTree.head? ≠ some (ascii "fes:or")) (upperLevelAndQuery : Option Nat)
    (elementName : ByteString) (level : Level) {state : FilterState ν}
    (nonempty : state.queries ≠ []) :
    nextQuery caseSensitiveParams elementTree upperLevelAndQuery elementName level state =
      .ok (level, state) := by
  obtain ⟨_, _, _, isBack⟩ := exists_back nonempty
  unfold nextQuery
  rw [isBack]
  exact if_pos outside

/-- A single element is no operator. -/
theorem Element.isLeaf_mk {tagName localName namespaceUri text : ByteString}
    {attributes : List (ByteString × ByteString)} {children : List Element}
    (leaf : (Element.mk tagName localName namespaceUri attributes text children).isLeaf = true) :
    asciiTolowerCopy tagName ≠ ascii "fes:and" ∧ asciiTolowerCopy tagName ≠ ascii "fes:or" ∧
      asciiTolowerCopy tagName ≠ ascii "fes:not" ∧
      ((isQueryParameter (asciiTolowerCopy tagName) ||
        isComparisonOperation (asciiTolowerCopy tagName)) = false →
          Element.areLeaves children = true) := by
  unfold Element.isLeaf at leaf
  simp only [Bool.and_eq_true, decide_eq_true_eq] at leaf
  obtain ⟨⟨⟨notAnd, notOr⟩, notNot⟩, rest⟩ := leaf
  refine ⟨notAnd, notOr, notNot, fun neither => ?_⟩
  rw [neither] at rest
  exact rest

/-- A single element is no NOT element. -/
theorem Element.isLeaf_notNot {element : Element} (leaf : element.isLeaf = true) :
    element.elementName ≠ ascii "fes:not" := by
  obtain ⟨_, _, _, _, _, _⟩ := element
  exact (Element.isLeaf_mk leaf).2.2.1

mutual

/-- A leaf is written to the query that receives it. -/
theorem extractFilterElement_leaf (caseSensitiveParams : Bool) :
    ∀ (element : Element) {elementTree : List ByteString} {upperLevelAndQuery : Option Nat}
      (level : Level) {state : FilterState ν} {before after : List (AdHocQuery ν)}
      {query : AdHocQuery ν} {content : Multiset (Contribution ν)},
      element.isLeaf = true → Distinct state → state.queries = before ++ query :: after →
        Receives elementTree upperLevelAndQuery query after → Carries query content →
          Meets LeafRefused
            (extractFilterElement caseSensitiveParams reader config elementTree upperLevelAndQuery
              level state element)
            fun result => result.1.isFirstOrQuery = level.isFirstOrQuery ∧
              Written state before query after content
                (contributions reader config elementTree element) result.2
  | .mk tagName localName namespaceUri attributes text children, elementTree, upperLevelAndQuery,
      level, state, before, after, query, content, leaf, distinct, queries, receives, carries => by
      obtain ⟨notAnd, notOr, _, inner⟩ := Element.isLeaf_mk leaf
      have name : (Element.mk tagName localName namespaceUri attributes text children).elementName =
          asciiTolowerCopy tagName := rfl
      unfold extractFilterElement contributions
      simp only [name]
      cases own : isQueryParameter (asciiTolowerCopy tagName) ||
          isComparisonOperation (asciiTolowerCopy tagName) with
      | true =>
          rw [if_pos rfl, if_pos rfl]
          exact readFilterParameter_written distinct queries receives carries
      | false =>
          rw [if_neg Bool.false_ne_true, if_neg Bool.false_ne_true, if_neg notAnd]
          have outside : (asciiTolowerCopy tagName :: elementTree).head? ≠ some (ascii "fes:or") :=
            fun same => notOr (Option.some.inj same)
          have innerReceives : Receives (asciiTolowerCopy tagName :: elementTree)
              (if elementTree.head? ≠ some (ascii "fes:or") then upperLevelAndQuery else none)
              query after := by
            rcases receives with ⟨isUpper, outsideOr⟩ | ⟨noUpper | isOr, isLast⟩
            · rw [if_pos outsideOr]
              exact .inl ⟨isUpper, outside⟩
            · rw [noUpper, ite_self]
              exact .inr ⟨.inl rfl, isLast⟩
            · rw [if_neg (not_not.mpr isOr)]
              exact .inr ⟨.inl rfl, isLast⟩
          refine (extractFilterElements_leaves caseSensitiveParams children .start (inner own)
            outside distinct queries innerReceives carries).bind ?_
          intro walked written
          exact ⟨rfl, written⟩

/-- Single elements write their contributions one after the other. -/
theorem extractFilterElements_leaves (caseSensitiveParams : Bool) :
    ∀ (elements : List Element) {elementTree : List ByteString} {upperLevelAndQuery : Option Nat}
      (level : Level) {state : FilterState ν} {before after : List (AdHocQuery ν)}
      {query : AdHocQuery ν} {content : Multiset (Contribution ν)},
      Element.areLeaves elements = true → elementTree.head? ≠ some (ascii "fes:or") →
        Distinct state → state.queries = before ++ query :: after →
        Receives elementTree upperLevelAndQuery query after → Carries query content →
          Meets LeafRefused
            (extractFilterElements caseSensitiveParams reader config elementTree upperLevelAndQuery
              level state elements)
            (Written state before query after content
              (contributionsOf reader config elementTree elements))
  | [], elementTree, upperLevelAndQuery, level, state, before, after, query, content, _, _, _,
      queries, _, carries => by
      unfold extractFilterElements contributionsOf
      refine Meets.ok ⟨query, 0, ?_, rfl, rfl, ?_⟩
      · rw [← queries]
      · rw [add_zero]
        exact carries
  | element :: rest, elementTree, upperLevelAndQuery, level, state, before, after, query, content,
      leaves, outside, distinct, queries, receives, carries => by
      rw [Element.areLeaves, Bool.and_eq_true] at leaves
      have nonempty : state.queries ≠ [] := by
        rw [queries]
        simp
      unfold extractFilterElements contributionsOf
      rw [if_neg (Element.isLeaf_notNot leaves.1), nextQuery_outside outside _ _ _ nonempty]
      refine (extractFilterElement_leaf caseSensitiveParams element level leaves.1 distinct queries
        receives carries).bind ?_
      rintro ⟨nextLevel, next⟩ ⟨_, written, extra, rfl, sameAddress, isExtra, carriesWritten⟩
      have receivesWritten : Receives elementTree upperLevelAndQuery written after := by
        unfold Receives
        rw [sameAddress]
        exact receives
      refine (extractFilterElements_leaves caseSensitiveParams rest nextLevel leaves.2 outside
        (distinct.replace queries sameAddress _) rfl receivesWritten carriesWritten).imp ?_
      rintro last ⟨rewritten, more, rfl, sameAddress', isMore, carriesMore⟩
      refine ⟨rewritten, extra + more, rfl, sameAddress'.trans sameAddress, ?_, ?_⟩
      · rw [isExtra, isMore]
        rfl
      · rw [← add_assoc]
        exact carriesMore

end

end

end SmartMetWfs.AdHoc
