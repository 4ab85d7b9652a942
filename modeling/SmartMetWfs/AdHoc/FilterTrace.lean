import SmartMetWfs.AdHoc.FilterCalls

/-!
# The calls of filter extraction

The queries that filter extraction leaves are those of a store after calls which copy no
query to itself: a copy goes to a query that has just been created, or from the query of
an AND element to one that was created after it.
-/

namespace SmartMetWfs.AdHoc

open Foundation Parameters

variable {ν : Type}

/-- The queries in the list are those that calls have left in the store. The list is
ordered by the creation of the queries. -/
structure Traced (reader : XmlReader ν) (caseSensitiveParams : Bool) (state : FilterState ν) :
    Prop where
  calls : ∃ (calls : List (FilterCall ν)) (store : QueryStore ν),
    calls.foldlM (FilterCall.run reader) (.fresh caseSensitiveParams) = .ok store ∧
      (∀ query ∈ state.queries, store query.address = query) ∧
      ∀ address, state.created ≤ address → store address = .create caseSensitiveParams address
  sorted : state.addresses.Pairwise (· < ·)
  below : ∀ address ∈ state.addresses, address < state.created

/-- The query of an AND element is at the position or before it. -/
structure NotBehind (andQuery andQueryIndex : Nat) (state : FilterState ν) : Prop where
  old : andQuery < state.created
  position : (state.addresses.filter (· < andQuery)).length ≤ andQueryIndex

variable {reader : XmlReader ν} {caseSensitiveParams : Bool}

/-- The reserved query is not behind its index in a later state. -/
theorem NotBehind.later {andQuery andQueryIndex : Nat} {before after : FilterState ν}
    (notBehind : NotBehind andQuery andQueryIndex before) (later : Later before after)
    (sorted : after.addresses.Pairwise (· < ·)) : NotBehind andQuery andQueryIndex after where
  old := notBehind.old.trans_le later.created
  position := by
    refine le_trans ?_ notBehind.position
    have nodup : (after.addresses.filter (· < andQuery)).Nodup :=
      (sorted.imp fun below => below.ne).filter _
    refine (nodup.subperm fun address member => ?_).length_le
    obtain ⟨inAfter, below⟩ := List.mem_filter.mp member
    have old : address < before.created := (of_decide_eq_true below).trans notBehind.old
    exact List.mem_filter.mpr ⟨later.present address inAfter old, below⟩

/-- The queries behind the position are others. -/
theorem NotBehind.ne {andQuery andQueryIndex index : Nat} {state : FilterState ν}
    (notBehind : NotBehind andQuery andQueryIndex state) (sorted : state.addresses.Pairwise (· < ·))
    (behind : andQueryIndex < index) {address : Nat}
    (found : state.addresses[index]? = some address) :
    andQuery ≠ address := by
  rintro rfl
  obtain ⟨inside, isAddress⟩ := List.getElem?_eq_some_iff.mp found
  have smaller :
      (state.addresses.take index).filter (· < andQuery) = state.addresses.take index := by
    refine List.filter_eq_self.mpr fun other member => decide_eq_true ?_
    obtain ⟨position, bound, rfl⟩ := List.mem_iff_getElem.mp member
    rw [List.length_take] at bound
    rw [List.getElem_take, ← isAddress]
    exact List.pairwise_iff_getElem.mp sorted position index (by omega) inside (by omega)
  have count := ((List.take_sublist index state.addresses).filter (· < andQuery)).length_le
  rw [smaller, List.length_take] at count
  have position := notBehind.position
  omega

/-- A step after which the list is still traced. -/
structure Advances (reader : XmlReader ν) (caseSensitiveParams : Bool)
    (before after : FilterState ν) :
    Prop where
  traced : Traced reader caseSensitiveParams after
  later : Later before after

theorem Advances.trans {first second third : FilterState ν}
    (earlier : Advances reader caseSensitiveParams first second)
    (later : Advances reader caseSensitiveParams second third) :
    Advances reader caseSensitiveParams first third :=
  ⟨later.traced, earlier.later.trans later.later⟩

namespace Traced

variable {state : FilterState ν}

theorem refl (traced : Traced reader caseSensitiveParams state) :
    Advances reader caseSensitiveParams state state := ⟨traced, .refl state⟩

/-- The indexes are not looked at. -/
theorem withIndexes (traced : Traced reader caseSensitiveParams state) (orQueryIndexes : List Nat) :
    Advances reader caseSensitiveParams state { state with orQueryIndexes } :=
  ⟨⟨traced.calls, traced.sorted, traced.below⟩, ⟨Nat.le_refl _, fun _ member _ => member⟩⟩

/-- The extraction starts traced. -/
theorem start (reader : XmlReader ν) (caseSensitiveParams : Bool) :
    Traced reader caseSensitiveParams
      (FilterState.createQuery caseSensitiveParams (⟨[], 0, []⟩ : FilterState ν)) where
  calls := by
    refine ⟨[], .fresh caseSensitiveParams, rfl, fun query member => ?_, fun _ _ => rfl⟩
    rw [List.mem_singleton.mp member]
    rfl
  sorted := List.pairwise_singleton _ _
  below := fun address member => by
    rw [List.mem_singleton.mp member]
    exact Nat.one_pos

/-- A query that is appended under the next address. -/
theorem append (traced : Traced reader caseSensitiveParams state) {query : AdHocQuery ν}
    (address : query.address = state.created) (calls : List (FilterCall ν))
    (reach : ∀ (store : QueryStore ν), (∀ query ∈ state.queries, store query.address = query) →
      (∀ address, state.created ≤ address → store address = .create caseSensitiveParams address) →
        calls.foldlM (FilterCall.run reader) store =
          .ok (Function.update store state.created query)) :
    Advances reader caseSensitiveParams state
      { state with queries := state.queries ++ [query], created := state.created + 1 } := by
  have addresses : ({ state with
      queries := state.queries ++ [query], created := state.created + 1 } :
        FilterState ν).addresses =
        state.addresses ++ [state.created] := by
    rw [FilterState.addresses, List.map_append, FilterState.addresses, ← address]
    rfl
  refine ⟨⟨?_, ?_, ?_⟩, ⟨Nat.le_succ _, ?_⟩⟩
  · obtain ⟨earlier, store, ran, listed, free⟩ := traced.calls
    refine ⟨earlier ++ calls, Function.update store state.created query, ?_, ?_, ?_⟩
    · rw [List.foldlM_append, ran]
      exact reach store listed free
    · intro other member
      rcases List.mem_append.mp member with old | new
      · have distinct : other.address ≠ state.created :=
          (traced.below _ (List.mem_map_of_mem old)).ne
        rw [Function.update_of_ne distinct, listed other old]
      · rw [List.mem_singleton.mp new, address, Function.update_self]
    · intro other behind
      have distinct : other ≠ state.created := (Nat.lt_of_succ_le behind).ne'
      rw [Function.update_of_ne distinct, free other (Nat.le_of_succ_le behind)]
  · rw [addresses]
    refine List.pairwise_append.mpr ⟨traced.sorted, List.pairwise_singleton _ _, ?_⟩
    intro other member last isLast
    rw [List.mem_singleton.mp isLast]
    exact traced.below other member
  · rw [addresses]
    intro other member
    rcases List.mem_append.mp member with old | new
    · exact Nat.lt_succ_of_lt (traced.below other old)
    · rw [List.mem_singleton.mp new]
      exact Nat.lt_succ_self _
  · rw [addresses]
    intro other member old
    exact (List.mem_append.mp member).resolve_right fun new =>
      old.ne (List.mem_singleton.mp new)

/-- A created query advances. -/
theorem createQuery (traced : Traced reader caseSensitiveParams state) :
    Advances reader caseSensitiveParams state (state.createQuery caseSensitiveParams) := by
  refine traced.append rfl [] fun store _ free => ?_
  rw [← free state.created (Nat.le_refl _), Function.update_eq_self]
  rfl

/-- A query in the list is written by a call. -/
theorem write (traced : Traced reader caseSensitiveParams state) (query : AdHocQuery ν)
    {queries : List (AdHocQuery ν)} (call : FilterCall ν)
    (reach : ∀ (store : QueryStore ν), (∀ query ∈ state.queries, store query.address = query) →
      call.run reader store = .ok (Function.update store query.address query))
    (old : query.address < state.created)
    (addresses : queries.map AdHocQuery.address = state.addresses)
    (written : ∀ other ∈ queries,
      other = query ∨ (other ∈ state.queries ∧ other.address ≠ query.address)) :
    Advances reader caseSensitiveParams state { state with queries } := by
  refine ⟨⟨?_, ?_, ?_⟩, ⟨Nat.le_refl _, ?_⟩⟩
  · obtain ⟨earlier, store, ran, listed, free⟩ := traced.calls
    refine ⟨earlier ++ [call], Function.update store query.address query, ?_, ?_, ?_⟩
    · rw [List.foldlM_append, ran]
      change (call.run reader store >>= pure) = _
      rw [reach store listed]
      rfl
    · intro other member
      rcases written other member with rfl | ⟨kept, distinct⟩
      · exact Function.update_self _ _ _
      · rw [Function.update_of_ne distinct, listed other kept]
    · intro other behind
      rw [Function.update_of_ne (old.trans_le behind).ne', free other behind]
  · rw [FilterState.addresses, addresses]
    exact traced.sorted
  · rw [FilterState.addresses, addresses]
    exact traced.below
  · rw [FilterState.addresses, addresses]
    exact fun _ member _ => member

/-- Queries that are erased advance. -/
theorem eraseRange (traced : Traced reader caseSensitiveParams state) (first last : Nat) :
    Meets (fun _ => True) (state.eraseRange first last)
      (Advances reader caseSensitiveParams state) := by
  unfold FilterState.eraseRange
  split
  · next bounds =>
      have kept : (state.queries.take first ++ state.queries.drop last).Sublist state.queries := by
        have joined := (List.Sublist.refl (state.queries.take first)).append
          (List.drop_sublist_drop_left state.queries bounds.1)
        rwa [List.take_append_drop] at joined
      have keptAddresses := kept.map AdHocQuery.address
      refine Meets.ok ⟨⟨?_, traced.sorted.sublist keptAddresses, fun address member =>
        traced.below address (keptAddresses.subset member)⟩,
        ⟨Nat.le_refl _, fun address member _ => keptAddresses.subset member⟩⟩
      obtain ⟨calls, store, ran, listed, free⟩ := traced.calls
      exact ⟨calls, store, ran, fun query member => listed query (kept.subset member), free⟩
  · trivial

end Traced

/-! ### The steps of the walk -/

section

variable {state : FilterState ν}

/-- A copy is a call on two queries. -/
theorem copyParams_run {sourceAddress targetAddress : Nat} {source target copied : AdHocQuery ν}
    {store : QueryStore ν} (distinct : sourceAddress ≠ targetAddress)
    (isSource : store sourceAddress = source) (isTarget : store targetAddress = target)
    (ran : copyParams source target = .ok copied) :
    (FilterCall.copyParams sourceAddress targetAddress distinct).run reader store =
      .ok (Function.update store targetAddress copied) := by
  unfold FilterCall.run
  dsimp only
  rw [isSource, isTarget, ran]
  rfl

/-- A copy keeps the address of its target. -/
theorem address_of_copyParams {source target copied : AdHocQuery ν}
    (ran : copyParams source target = .ok copied) : copied.address = target.address :=
  ((copyParams_kept source target).of_ok ran).1

/-- A combination of two queries advances. -/
theorem combineQueries_advances (traced : Traced reader caseSensitiveParams state) (andQuery : Nat)
    (pair : Nat × Nat) :
    Meets (fun _ => True) (combineQueries caseSensitiveParams andQuery state pair)
      (Advances reader caseSensitiveParams state) := by
  unfold combineQueries
  refine Meets.of_eq.bind fun orQuery1 found1 => ?_
  refine Meets.of_eq.bind fun orQuery2 found2 => ?_
  refine Meets.of_eq.bind fun _ _ => ?_
  refine Meets.of_eq.bind fun first ranFirst => ?_
  refine Meets.of_eq.bind fun combinedQuery ranSecond => ?_
  have firstAddress : first.address = state.created := address_of_copyParams ranFirst
  have address : combinedQuery.address = state.created :=
    (address_of_copyParams ranSecond).trans firstAddress
  have inList : ∀ {index : Nat} {query : AdHocQuery ν}, state.queryAt index = .ok query →
      query ∈ state.queries ∧ query.address ≠ state.created := by
    intro index query found
    have member := List.mem_of_getElem? (mem_of_queryAt found)
    exact ⟨member, (traced.below _ (List.mem_map_of_mem member)).ne⟩
  obtain ⟨member1, distinct1⟩ := inList found1
  obtain ⟨member2, distinct2⟩ := inList found2
  refine Meets.pure (traced.append address [.copyParams orQuery1.address state.created distinct1,
    .copyParams orQuery2.address state.created distinct2] fun store listed free => ?_)
  have ran1 : (FilterCall.copyParams orQuery1.address state.created distinct1).run reader store =
      .ok (Function.update store state.created first) :=
    copyParams_run distinct1 (listed orQuery1 member1) (free _ (Nat.le_refl _)) ranFirst
  have source2 : Function.update store state.created first orQuery2.address = orQuery2 := by
    rw [Function.update_of_ne distinct2, listed orQuery2 member2]
  have ran2 : (FilterCall.copyParams orQuery2.address state.created distinct2).run reader
      (Function.update store state.created first) =
        .ok (Function.update store state.created combinedQuery) := by
    rw [copyParams_run distinct2 source2 (Function.update_self _ _ _) ranSecond,
      Function.update_idem]
  rw [List.foldlM_cons, ran1]
  change ([_] : List (FilterCall ν)).foldlM (FilterCall.run reader)
    (Function.update store state.created first) = _
  rw [List.foldlM_cons, ran2]
  rfl

/-- Any number of combinations advances. -/
theorem combineQueries_foldlM_advances (traced : Traced reader caseSensitiveParams state)
    (andQuery : Nat) (pairs : List (Nat × Nat)) :
    Meets (fun _ => True) (pairs.foldlM (combineQueries caseSensitiveParams andQuery) state)
      (Advances reader caseSensitiveParams state) :=
  Meets.foldlM (fun _ => Advances reader caseSensitiveParams state) pairs traced.refl
    fun _ pair _ _ _ advances =>
      (combineQueries_advances advances.traced andQuery pair).imp fun _ => advances.trans

/-- A set that is combined advances. -/
theorem combineOrSet_advances (traced : Traced reader caseSensitiveParams state)
    (andQuery queriesSize1 orSet : Nat) :
    Meets (fun _ => True) (combineOrSet caseSensitiveParams andQuery queriesSize1 state orSet)
      (Advances reader caseSensitiveParams state) := by
  unfold combineOrSet
  refine (combineQueries_foldlM_advances traced andQuery _).bind fun combined advances => ?_
  exact (advances.traced.eraseRange _ _).imp fun _ => advances.trans

/-- All sets that are combined advance. -/
theorem combineOrQueries_advances (traced : Traced reader caseSensitiveParams state)
    (andQuery : Nat) :
    Meets (fun _ => True) (combineOrQueries caseSensitiveParams andQuery state)
      (Advances reader caseSensitiveParams state) := by
  unfold combineOrQueries
  refine (Meets.foldlM (fun _ => Advances reader caseSensitiveParams state) _ traced.refl
    fun _ orSet _ _ _ advances => (combineOrSet_advances advances.traced andQuery _ orSet).imp
      fun _ => advances.trans).bind fun combined advances => ?_
  exact (advances.traced.eraseRange _ _).imp fun _ => advances.trans

/-- The query of an AND element is copied to another one, which was created after it. -/
theorem copyAndQuery_advances (traced : Traced reader caseSensitiveParams state)
    {andQuery orQueryIndex : Nat}
    (distinct : ∀ address, state.addresses[orQueryIndex]? = some address → andQuery ≠ address) :
    Meets (fun _ => True) (copyAndQuery andQuery state orQueryIndex)
      (Advances reader caseSensitiveParams state) := by
  unfold copyAndQuery
  refine Meets.of_eq.bind fun orQuery found => ?_
  refine Meets.of_eq.bind fun source dereferenced => ?_
  refine Meets.of_eq.bind fun target ran => ?_
  have stands := mem_of_queryAt found
  have member := List.mem_of_getElem? stands
  obtain ⟨sourceMember, isAndQuery⟩ := mem_of_deref dereferenced
  have sameAddress : target.address = orQuery.address := address_of_copyParams ran
  have addressAt : state.addresses[orQueryIndex]? = some orQuery.address := by
    rw [FilterState.addresses, List.getElem?_map, stands]
    rfl
  have others : source.address ≠ target.address := by
    rw [isAndQuery, sameAddress]
    exact distinct _ addressAt
  obtain ⟨inside, place⟩ := List.getElem?_eq_some_iff.mp addressAt
  refine Meets.pure (traced.write target (.copyParams source.address target.address others)
    (fun store listed => ?_) ?_ ?_ ?_)
  · refine copyParams_run others (listed source sourceMember) ?_ ran
    rw [sameAddress, listed orQuery member]
  · rw [sameAddress]
    exact traced.below _ (List.mem_map_of_mem member)
  · have same : target.address = state.addresses[orQueryIndex] := sameAddress.trans place.symm
    rw [List.map_set, same]
    exact List.set_getElem_self inside
  · intro other inSet
    obtain ⟨position, bound, isOther⟩ := List.mem_iff_getElem.mp inSet
    rw [List.length_set] at bound
    rw [List.getElem_set] at isOther
    split at isOther
    · exact .inl isOther.symm
    · next elsewhere =>
        refine .inr ⟨isOther ▸ List.getElem_mem bound, fun same => elsewhere ?_⟩
        have nodup : state.addresses.Nodup := traced.sorted.imp fun below => below.ne
        have inAddresses : position < state.addresses.length := by
          rw [FilterState.addresses, List.length_map]
          exact bound
        have same_iff : state.addresses[orQueryIndex] = state.addresses[position] ↔
            orQueryIndex = position := nodup.getElem_inj_iff
        refine same_iff.mp ?_
        rw [place, ← sameAddress, ← same, ← isOther]
        exact (List.getElem_map _).symm

/-- Any number of copies of the reserved query advances. -/
theorem copyAndQuery_foldlM_advances {andQuery andQueryIndex : Nat}
    (traced : Traced reader caseSensitiveParams state)
    (notBehind : NotBehind andQuery andQueryIndex state) (indexes : List Nat)
    (behind : ∀ index ∈ indexes, andQueryIndex < index) :
    Meets (fun _ => True) (indexes.foldlM (copyAndQuery andQuery) state)
      (Advances reader caseSensitiveParams state) := by
  refine Meets.foldlM (fun _ => Advances reader caseSensitiveParams state) indexes traced.refl ?_
  intro done index rest middle split advances
  have later := notBehind.later advances.later advances.traced.sorted
  have member : index ∈ indexes := by
    rw [split]
    exact List.mem_append_right _ List.mem_cons_self
  refine (copyAndQuery_advances advances.traced fun address found => ?_).imp fun _ => advances.trans
  exact later.ne advances.traced.sorted (behind index member) found

/-- The end of an AND element advances. -/
theorem handleEndOfAndElement_advances {andQuery andQueryIndex : Nat}
    (traced : Traced reader caseSensitiveParams state)
    (notBehind : NotBehind andQuery andQueryIndex state) :
    Meets (fun _ => True) (handleEndOfAndElement caseSensitiveParams andQuery andQueryIndex state)
      (Advances reader caseSensitiveParams state) := by
  have joined : Meets (fun _ => True) (if 2 ≤ state.orQueryIndexes.length then
      combineOrQueries caseSensitiveParams andQuery state else .ok state)
        (Advances reader caseSensitiveParams state) := by
    split
    · exact combineOrQueries_advances traced andQuery
    · exact traced.refl
  unfold handleEndOfAndElement
  refine joined.bind fun combined advances => ?_
  have cleared := advances.trans (advances.traced.withIndexes [])
  refine Meets.of_eq.bind fun query _ => ?_
  split
  · exact (cleared.traced.eraseRange _ _).imp fun _ => cleared.trans
  · split
    · have later := notBehind.later cleared.later cleared.traced.sorted
      refine (copyAndQuery_foldlM_advances cleared.traced later _ fun index member => ?_).bind
        fun copied copying => ?_
      · have bounds := List.mem_range'_1.mp member
        omega
      · have whole := cleared.trans copying
        exact (whole.traced.eraseRange _ _).imp fun _ => whole.trans
    · exact Meets.ok cleared

/-- The choice of the next query advances. -/
theorem nextQuery_advances (traced : Traced reader caseSensitiveParams state)
    (elementTree : List ByteString) (upperLevelAndQuery : Option Nat) (elementName : ByteString)
    (level : Level) :
    Meets (fun _ => True) (nextQuery caseSensitiveParams elementTree upperLevelAndQuery elementName
      level state) fun result => Advances reader caseSensitiveParams state result.2 := by
  unfold nextQuery
  refine Meets.of_eq.bind fun query _ => ?_
  split
  · exact Meets.pure traced.refl
  · refine Meets.of_eq.bind fun occupied _ => ?_
    split
    · exact Meets.pure traced.refl
    · have created := traced.createQuery
      change Meets _ (if level.isFirstOrQuery = true ∧ _ then _ else _) _
      split
      · exact Meets.pure (created.trans (created.traced.withIndexes _))
      · exact Meets.pure created

/-- The last query is the query of an AND element that begins. -/
theorem notBehind_back (traced : Traced reader caseSensitiveParams state) {query : AdHocQuery ν}
    (last : state.back = .ok query) :
    NotBehind query.address (state.queries.length - 1) state := by
  unfold FilterState.back at last
  split at last
  · next isLast =>
      cases last
      obtain ⟨before, queries⟩ := List.getLast?_eq_some_iff.mp isLast
      have addresses : state.addresses = before.map AdHocQuery.address ++ [query.address] := by
        rw [FilterState.addresses, queries, List.map_append]
        rfl
      refine ⟨traced.below _ ?_, ?_⟩
      · rw [addresses]
        exact List.mem_append_right _ List.mem_cons_self
      · have notItself : [query.address].filter (· < query.address) = [] := by
          rw [List.filter_singleton, decide_eq_false (lt_irrefl _)]
          rfl
        rw [addresses, List.filter_append, notItself, List.append_nil, queries]
        refine (List.length_filter_le _ _).trans ?_
        rw [List.length_map, List.length_append, List.length_singleton]
        exact Nat.le_refl _
  · cases last

end

section

variable {config : StoredQueryConfig ν} {state : FilterState ν}

/-- A query in the list is replaced by one of the same address. -/
theorem write_advances (traced : Traced reader caseSensitiveParams state)
    {query written : AdHocQuery ν}
    (member : query ∈ state.queries) (sameAddress : written.address = query.address)
    (call : FilterCall ν) (reach : ∀ store : QueryStore ν, store query.address = query →
      call.run reader store = .ok (Function.update store query.address written)) :
    Advances reader caseSensitiveParams state (state.write written) := by
  refine traced.write written call (fun store listed => ?_) ?_ ?_ ?_
  · rw [sameAddress]
    exact reach store (listed query member)
  · rw [sameAddress]
    exact traced.below _ (List.mem_map_of_mem member)
  · rw [List.map_map]
    refine List.map_congr_left fun other _ => ?_
    rw [Function.comp_apply]
    split
    · next same => exact same.symm
    · rfl
  · intro other inWritten
    obtain ⟨before, inList, rfl⟩ := List.mem_map.mp inWritten
    split
    · exact .inl rfl
    · next distinct => exact .inr ⟨inList, distinct⟩

/-- A parameter leaves the filter and the address of its query. -/
theorem readQueryParameter_keeps {elementTree : List ByteString} {element : Element} {level : Level}
    {query : AdHocQuery ν} :
    Meets (fun _ => True) (readQueryParameter reader config elementTree element level query)
      fun result => result.2 = { query with
        params := result.2.params, skippedParams := result.2.skippedParams } := by
  unfold readQueryParameter
  dsimp only
  cases config.getParamDesc (parameterName elementTree element) with
  | error realName => trivial
  | ok desc =>
      cases desc with
      | none => exact Meets.ok rfl
      | some desc =>
          dsimp only
          split
          · trivial
          · split
            · trivial
            · cases parameterValue reader element with
              | none => trivial
              | some value =>
                  dsimp only
                  split
                  · exact Meets.ok rfl
                  · trivial

/-- An element that is no operator advances. -/
theorem readFilterParameter_advances (traced : Traced reader caseSensitiveParams state)
    (elementTree : List ByteString) (upperLevelAndQuery : Option Nat) (element : Element)
    (level : Level) :
    Meets (fun _ => True) (readFilterParameter reader config elementTree upperLevelAndQuery element
      level state) fun result => Advances reader caseSensitiveParams state result.2 := by
  unfold readFilterParameter
  refine Meets.of_eq.bind fun last _ => ?_
  change Meets _ (if isComparisonOperation element.elementName = true then _ else _) _
  split
  · refine Meets.of_eq.bind fun newFilter ran => ?_
    refine Meets.of_eq.bind fun query dereferenced => ?_
    obtain ⟨member, _⟩ := mem_of_deref dereferenced
    refine Meets.pure (write_advances traced member rfl
      (.readComparisonOperation query.address element) fun store listed => ?_)
    unfold FilterCall.run
    dsimp only
    rw [ran, listed]
    rfl
  · refine Meets.of_eq.bind fun query dereferenced => ?_
    refine readQueryParameter_keeps.bind fun result keeps => ?_
    obtain ⟨member, _⟩ := mem_of_deref dereferenced
    have sameAddress : result.2.address = query.address := by rw [keeps]
    refine Meets.pure (write_advances traced member sameAddress
      (.readQueryParameter query.address result.2.params result.2.skippedParams)
      fun store listed => ?_)
    unfold FilterCall.run
    dsimp only
    rw [listed, ← keeps]

mutual

/-- An element advances, whatever is in it. -/
theorem extractFilterElement_advances (elementTree : List ByteString)
    (upperLevelAndQuery : Option Nat) (level : Level) {state : FilterState ν}
    (traced : Traced reader caseSensitiveParams state) : ∀ element : Element,
      Meets (fun _ => True) (extractFilterElement caseSensitiveParams reader config elementTree
        upperLevelAndQuery level state element) fun result =>
          Advances reader caseSensitiveParams state result.2
  | .mk tagName localName namespaceUri attributes text children => by
      rw [extractFilterElement]
      dsimp only
      split
      · exact readFilterParameter_advances traced _ _ _ _
      · split
        · refine Meets.of_eq.bind fun andQuery last => ?_
          refine (extractFilterElements_advances _ _ _ traced children).bind fun walked advances =>
            ?_
          have notBehind := (notBehind_back traced last).later advances.later advances.traced.sorted
          refine (handleEndOfAndElement_advances advances.traced notBehind).bind fun ended ending =>
            ?_
          exact Meets.pure (advances.trans ending)
        · refine (extractFilterElements_advances _ _ _ traced children).bind fun walked advances =>
            ?_
          exact Meets.pure advances

/-- Elements advance one after the other. -/
theorem extractFilterElements_advances (elementTree : List ByteString)
    (upperLevelAndQuery : Option Nat) (level : Level) {state : FilterState ν}
    (traced : Traced reader caseSensitiveParams state) : ∀ elements : List Element,
      Meets (fun _ => True) (extractFilterElements caseSensitiveParams reader config elementTree
        upperLevelAndQuery level state elements) (Advances reader caseSensitiveParams state)
  | [] => traced.refl
  | element :: rest => by
      rw [extractFilterElements]
      split
      · trivial
      · refine (nextQuery_advances traced elementTree upperLevelAndQuery element.elementName
          level).bind fun next advances => ?_
        refine (extractFilterElement_advances elementTree upperLevelAndQuery next.1 advances.traced
          element).bind fun last reading => ?_
        have before := advances.trans reading
        exact (extractFilterElements_advances elementTree upperLevelAndQuery last.1 before.traced
          rest).imp fun _ => before.trans

end

end

/-- **The shape of filter expressions.** After any calls of filter extraction every
filter expression is the conjunction of the conditions that the query has taken, and the
queries of a filter are what such calls leave. -/
theorem filterExpressions_rendered (reader : XmlReader ν) :
    (∀ (caseSensitiveParams : Bool) (calls : List (FilterCall ν)),
      Meets (fun _ => True) (calls.foldlM (FilterCall.run reader) (.fresh caseSensitiveParams))
        fun store => ∀ address, (store address).filterExpression =
          renderFilter (conditionsAfter reader calls address)) ∧
      ∀ (config : StoredQueryConfig ν) (root : Element),
        Meets (fun _ => True) (extractXmlParameters reader config root) fun state =>
          ∃ (calls : List (FilterCall ν)) (store : QueryStore ν),
            calls.foldlM (FilterCall.run reader)
              (.fresh config.useCaseSensitiveParams) = .ok store ∧
              ∀ query ∈ state.queries, store query.address = query := by
  refine ⟨foldlM_run_rendered reader, fun config root => ?_⟩
  refine (extractFilterElements_advances _ _ _ (Traced.start reader _) root.children).imp ?_
  intro state advances
  obtain ⟨calls, store, ran, listed, _⟩ := advances.traced.calls
  exact ⟨calls, store, ran, listed⟩

end SmartMetWfs.AdHoc
