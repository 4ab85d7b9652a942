import Mathlib.Data.List.Flatten
import Mathlib.Data.List.InsertIdx
import SmartMetWfs.AdHoc.Addresses

/-!
# Parameters stay with their query

Reading a leaf is the only step that gives a query a parameter. A query with parameters
cannot be copied, so that in an extraction that succeeds no such query is combined with
others or distributed over them, and none is removed: at the end of an AND element every
parameter is still held by the query it was written to.
-/

namespace SmartMetWfs.AdHoc

open Foundation Parameters

variable {ν : Type}

/-- The parameters of queries, each with the address of the query that has it. -/
def heldBy (queries : List (AdHocQuery ν)) : List (Nat × ByteString × ParamInfo ν) :=
  queries.flatMap fun query => query.params.params.entries.map fun entry => (query.address, entry)

/-- The parameters that the queries of the list have. -/
def FilterState.held (state : FilterState ν) : List (Nat × ByteString × ParamInfo ν) :=
  heldBy state.queries

@[simp] theorem heldBy_append (queries queries' : List (AdHocQuery ν)) :
    heldBy (queries ++ queries') = heldBy queries ++ heldBy queries' := List.flatMap_append

/-- The first query holds its parameters, the others theirs. -/
theorem heldBy_cons (query : AdHocQuery ν) (queries : List (AdHocQuery ν)) :
    heldBy (query :: queries) =
      (query.params.params.entries.map fun entry => (query.address, entry)) ++ heldBy queries :=
  List.flatMap_cons

/-- Queries without parameters hold none. -/
theorem heldBy_of_hasNoParams {queries : List (AdHocQuery ν)}
    (none : ∀ query ∈ queries, HasNoParams query) : heldBy queries = [] :=
  List.flatMap_eq_nil_iff.mpr fun query member => by
    rw [none query member]
    rfl

/-- Only the addresses and the parameters of queries matter. -/
theorem heldBy_congr {queries queries' : List (AdHocQuery ν)}
    (same : queries.map (fun query => (query.address, query.params)) =
      queries'.map fun query => (query.address, query.params)) :
        heldBy queries = heldBy queries' := by
  have through : ∀ list : List (AdHocQuery ν), heldBy list =
      (list.map fun query => (query.address, query.params)).flatMap
        fun key => key.2.params.entries.map fun entry => (key.1, entry) := by
    intro list
    rw [List.flatMap_map]
    rfl
  rw [through, through, same]

/-- A query without parameters can be erased. -/
theorem heldBy_eraseIdx {queries : List (AdHocQuery ν)} {index : Nat} {query : AdHocQuery ν}
    (found : queries[index]? = some query) (none : HasNoParams query) :
    heldBy (queries.eraseIdx index) = heldBy queries := by
  obtain ⟨inside, isQuery⟩ := List.getElem?_eq_some_iff.mp found
  have split : queries = queries.take index ++ query :: queries.drop (index + 1) := by
    rw [← isQuery, ← List.drop_eq_getElem_cons inside, List.take_append_drop]
  rw [List.eraseIdx_eq_take_drop_succ, heldBy_append]
  conv_rhs => rw [split, heldBy_append, heldBy_cons, none, List.map_nil, List.nil_append]

/-! ### Combining OR elements -/

section

variable {caseSensitiveParams : Bool} {state result : FilterState ν} {andQuery : Nat}

/-- A combination needs the reserved query. -/
theorem present_of_combineQueries {pair : Nat × Nat}
    (ran : combineQueries caseSensitiveParams andQuery state pair = .ok result) :
    andQuery ∈ state.addresses := by
  obtain ⟨_, _, rest⟩ := ok_of_bind ran
  obtain ⟨_, _, rest⟩ := ok_of_bind rest
  obtain ⟨query, found, _⟩ := ok_of_bind rest
  obtain ⟨member, isQuery⟩ := mem_of_deref found
  exact mem_addresses.mpr ⟨query, member, isQuery⟩

/-- Combining looks at the AND query. -/
theorem present_of_combineOrQueries
    (increasing : Increasing state.orQueryIndexes state.queries.length)
    (several : 2 ≤ state.orQueryIndexes.length)
    (ran : combineOrQueries caseSensitiveParams andQuery state = .ok result) :
    andQuery ∈ state.addresses := by
  obtain ⟨_, rounds, _⟩ := ok_of_bind ran
  rw [List.foldlM_cons] at rounds
  obtain ⟨_, round, _⟩ := ok_of_bind rounds
  obtain ⟨_, pairs, _⟩ := ok_of_bind round
  have second := increasing.getD_lt (show 1 < state.orQueryIndexes.length by omega)
  have between := increasing.getD_lt_getD (show 0 + 1 < state.orQueryIndexes.length by omega)
  rw [if_pos (show 0 + 1 < state.orQueryIndexes.length by omega), if_pos rfl] at pairs
  have some : combinePairs (state.orQueryIndexes.getD 0 0) (state.orQueryIndexes.getD (0 + 1) 0)
      (state.orQueryIndexes.getD 1 0)
      (if 0 = 0 ∧ 2 < state.orQueryIndexes.length then state.orQueryIndexes.getD (0 + 2) 0
        else state.queries.length) ≠ [] := by
    apply List.ne_nil_of_length_pos
    rw [combinePairs_length]
    apply Nat.mul_pos
    · omega
    · split
      · next more =>
          have third : state.orQueryIndexes.getD 1 0 < state.orQueryIndexes.getD (0 + 2) 0 :=
            increasing.getD_lt_getD (by omega)
          omega
      · omega
  obtain ⟨pair, rest, isPairs⟩ := List.exists_cons_of_ne_nil some
  rw [isPairs, List.foldlM_cons] at pairs
  obtain ⟨_, first, _⟩ := ok_of_bind pairs
  exact present_of_combineQueries first

/-- The list up to a position, and queries without parameters instead of others behind it. -/
structure Cut (state result : FilterState ν) : Prop where
  distinct : Distinct result
  later : Later state result
  held : result.held = state.held
  cut : ∃ count added, result.addresses = state.addresses.take count ++ added ∧
    ∀ address ∈ added, state.created ≤ address

/-- A query that is still in the list is where it was. -/
theorem Cut.placed (cut : Cut state result) (distinct : Distinct state) {index address : Nat}
    (placed : state.addresses[index]? = some address) (present : address ∈ result.addresses) :
    result.addresses[index]? = some address := by
  obtain ⟨count, added, addresses, fresh⟩ := cut.cut
  obtain ⟨inside, isAddress⟩ := List.getElem?_eq_some_iff.mp placed
  have old : address < state.created := by
    obtain ⟨query, member, rfl⟩ := mem_addresses.mp (List.mem_of_getElem? placed)
    exact distinct.below query member
  have inFront : address ∈ state.addresses.take count := by
    rw [addresses] at present
    rcases List.mem_append.mp present with inTake | inAdded
    · exact inTake
    · exact absurd old (Nat.not_lt.mpr (fresh address inAdded))
  obtain ⟨position, bound, isThere⟩ := List.mem_iff_getElem.mp inFront
  rw [List.length_take] at bound
  rw [List.getElem_take] at isThere
  have samePosition : position = index :=
    (List.Nodup.getElem_inj_iff distinct.nodup).mp (isThere.trans isAddress.symm)
  have before : index < (state.addresses.take count).length := by
    rw [List.length_take]
    omega
  rw [addresses, List.getElem?_append_left before, List.getElem?_take, if_pos (by omega)]
  exact placed

/-- What is combined at the end of an AND element had no parameters. -/
theorem combine_cut (distinct : Distinct state)
    (increasing : Increasing state.orQueryIndexes state.queries.length)
    (ran : (if 2 ≤ state.orQueryIndexes.length then
      combineOrQueries caseSensitiveParams andQuery state else .ok state) = .ok result) :
    Cut state result := by
  split at ran
  · next several =>
      have present := present_of_combineOrQueries increasing several ran
      obtain ⟨combined, _, replaced, none⟩ :=
        (combineOrQueries_replaces present increasing several).of_ok ran
      refine ⟨replaced.distinct distinct, replaced.later, ?_, state.orQueryIndexes.getD 0 0,
        combined.map AdHocQuery.address, ?_, List.forall_mem_map.mpr replaced.fresh⟩
      have behind : ∀ query ∈ state.queries.drop (state.orQueryIndexes.getD 0 0),
          HasNoParams query := by
        intro query member
        obtain ⟨index, inside, isQuery⟩ := List.mem_iff_getElem.mp member
        rw [List.length_drop] at inside
        rw [List.getElem_drop] at isQuery
        obtain ⟨other, found, noParams⟩ :=
          none (state.orQueryIndexes.getD 0 0 + index) (Nat.le_add_right _ _) (by omega)
        rw [List.getElem?_eq_getElem (by omega), isQuery] at found
        rw [Option.some.inj found]
        exact noParams
      · rw [FilterState.held, replaced.queries, heldBy_append,
          heldBy_of_hasNoParams replaced.noParams,
          ← heldBy_of_hasNoParams behind, ← heldBy_append, List.take_append_drop]
        rfl
      · rw [FilterState.addresses, replaced.queries, List.map_append, List.map_take]
        rfl
  · cases ran
    exact ⟨distinct, .refl state, rfl, state.addresses.length, [], by simp, List.forall_mem_nil _⟩

/-! ### The end of an AND element -/

/-- A reserved query that has been created and is at its index while it is in the list. -/
structure Placed (andQuery andQueryIndex : Nat) (state : FilterState ν) : Prop where
  old : andQuery < state.created
  placed : andQuery ∈ state.addresses → state.addresses[andQueryIndex]? = some andQuery

/-- The state has queries with the same addresses and parameters as the other. -/
structure SameKeys (state result : FilterState ν) : Prop where
  keys : result.queries.map (fun query => (query.address, query.params)) =
    state.queries.map fun query => (query.address, query.params)
  created : result.created = state.created
  indexes : result.orQueryIndexes = state.orQueryIndexes

/-- The same keys are the same addresses. -/
theorem SameKeys.addresses (same : SameKeys state result) : result.addresses = state.addresses := by
  have first := congrArg (List.map Prod.fst) same.keys
  rw [List.map_map, List.map_map] at first
  exact first

/-- What has the same keys is cut in the same way. -/
theorem SameKeys.cut {middle : FilterState ν} (same : SameKeys middle result)
    (cut : Cut state middle) : Cut state result where
  distinct := by
    have addresses := same.addresses
    refine ⟨?_, fun query member => ?_⟩
    · change result.addresses.Nodup
      rw [addresses]
      exact cut.distinct.nodup
    · have inResult : query.address ∈ result.addresses := List.mem_map_of_mem member
      rw [addresses] at inResult
      obtain ⟨other, isOther, sameAddress⟩ := mem_addresses.mp inResult
      rw [same.created, ← sameAddress]
      exact cut.distinct.below other isOther
  later := by
    refine ⟨same.created ▸ cut.later.created, fun address member old => ?_⟩
    rw [same.addresses] at member
    exact cut.later.present address member old
  held := (heldBy_congr same.keys).trans cut.held
  cut := same.addresses ▸ cut.cut

/-- The reserved query has the same parameters. -/
theorem SameKeys.deref (same : SameKeys state result) (distinct : Distinct state)
    {source : AdHocQuery ν} (found : state.deref andQuery = .ok source) :
    ∃ query, result.deref andQuery = .ok query ∧ query.params = source.params := by
  obtain ⟨inList, isSource⟩ := mem_of_deref found
  have present : andQuery ∈ result.addresses := by
    rw [same.addresses]
    exact mem_addresses.mpr ⟨source, inList, isSource⟩
  obtain ⟨query, isQuery, sameAddress⟩ := deref_of_mem present
  refine ⟨query, isQuery, ?_⟩
  have key : (query.address, query.params) ∈ state.queries.map fun other =>
      (other.address, other.params) := by
    rw [← same.keys]
    exact List.mem_map_of_mem (mem_of_deref isQuery).1
  obtain ⟨other, isOther, keys⟩ := List.mem_map.mp key
  obtain ⟨address, params⟩ := Prod.mk.inj keys
  rw [← params, distinct.unique isOther inList (address.trans (sameAddress.trans isSource.symm))]

/-- The reserved query is copied only when it has no parameters, so that all keys stay. -/
theorem copyAndQuery_sameKeys {index : Nat} (ran : copyAndQuery andQuery state index = .ok result) :
    SameKeys state result ∧ ∃ source, state.deref andQuery = .ok source ∧ HasNoParams source := by
  obtain ⟨orQuery, found, rest⟩ := ok_of_bind ran
  obtain ⟨source, isSource, rest⟩ := ok_of_bind rest
  obtain ⟨target, copied, rest⟩ := ok_of_bind rest
  obtain ⟨sameAddress, sameParams, none⟩ := (copyParams_kept source orQuery).of_ok copied
  cases rest
  refine ⟨⟨?_, rfl, rfl⟩, source, isSource, none⟩
  obtain ⟨inside, isQuery⟩ := List.getElem?_eq_some_iff.mp (mem_of_queryAt found)
  have place : index < (state.queries.map fun query => (query.address, query.params)).length := by
    rw [List.length_map]
    exact inside
  have sameKey : (target.address, target.params) =
      (state.queries.map fun query => (query.address, query.params))[index] := by
    rw [List.getElem_map, isQuery, sameAddress, sameParams]
  rw [List.map_set, sameKey, List.set_getElem_self place]

/-- Copying to several queries, from one that has no parameters. -/
theorem copyAndQuery_foldlM_sameKeys (indexes : List Nat) :
    ∀ {state : FilterState ν}, indexes.foldlM (copyAndQuery andQuery) state = .ok result →
      SameKeys state result ∧
        (indexes ≠ [] → ∃ source, state.deref andQuery = .ok source ∧ HasNoParams source) := by
  induction indexes with
  | nil =>
      intro state ran
      cases ran
      exact ⟨⟨rfl, rfl, rfl⟩, fun some => absurd rfl some⟩
  | cons index indexes ih =>
      intro state ran
      rw [List.foldlM_cons] at ran
      obtain ⟨next, first, rest⟩ := ok_of_bind ran
      obtain ⟨same, source⟩ := copyAndQuery_sameKeys first
      obtain ⟨sameRest, _⟩ := ih rest
      exact ⟨⟨sameRest.keys.trans same.keys, sameRest.created.trans same.created,
        sameRest.indexes.trans same.indexes⟩, fun _ => source⟩

/-- What the end of an AND element that succeeds leaves in the list. -/
structure Settled (andQuery andQueryIndex : Nat) (state result : FilterState ν) : Prop where
  distinct : Distinct result
  cleared : result.orQueryIndexes = []
  later : Later state result
  sublist : result.held.Sublist state.held
  held : Placed andQuery andQueryIndex state → result.held = state.held
  kept : Placed andQuery andQueryIndex state → ∀ index address, index ≤ andQueryIndex →
    state.addresses[index]? = some address → address ∈ result.addresses →
      result.addresses[index]? = some address

/-- The reserved query is removed. -/
theorem Cut.erase {middle : FilterState ν} (cut : Cut state middle) (distinct : Distinct state)
    {query : AdHocQuery ν} (found : middle.deref andQuery = .ok query) (none : HasNoParams query)
    (cleared : middle.orQueryIndexes = [])
    (erased : middle.eraseRange andQueryIndex (andQueryIndex + 1) = .ok result) :
    Settled andQuery andQueryIndex state result := by
  unfold FilterState.eraseRange at erased
  split at erased
  · cases erased
    obtain ⟨inList, isQuery⟩ := mem_of_deref found
    rw [← List.eraseIdx_eq_take_drop_succ]
    have sublist := List.eraseIdx_sublist middle.queries andQueryIndex
    have isThere : Placed andQuery andQueryIndex state →
        middle.addresses[andQueryIndex]? = some andQuery := by
      intro isPlaced
      have present := mem_addresses.mpr ⟨query, inList, isQuery⟩
      exact cut.placed distinct (isPlaced.placed (cut.later.present _ present isPlaced.old)) present
    refine ⟨cut.distinct.sublist sublist _, cleared, cut.later.sublist sublist _, ?_,
      fun isPlaced => ?_, fun isPlaced index address atMost stands present => ?_⟩
    · rw [← cut.held]
      exact sublist.flatMap _
    · have atIndex := isThere isPlaced
      rw [FilterState.addresses, List.getElem?_map, Option.map_eq_some_iff] at atIndex
      obtain ⟨other, isOther, sameAddress⟩ := atIndex
      have same : other = query := cut.distinct.unique (List.mem_of_getElem? isOther) inList
        (sameAddress.trans isQuery.symm)
      exact (heldBy_eraseIdx (same ▸ isOther) none).trans cut.held
    · have inMiddle := cut.placed distinct stands ((sublist.map _).subset present)
      rw [FilterState.addresses] at present ⊢
      dsimp only at present ⊢
      rw [← List.eraseIdx_map] at present ⊢
      rcases Nat.lt_or_eq_of_le atMost with before | rfl
      · rw [List.getElem?_eraseIdx_of_lt before]
        exact inMiddle
      · -- The reserved query itself is not in the list any more.
        obtain ⟨position, other, isAddress⟩ := List.mem_eraseIdx_iff_getElem?.mp present
        obtain ⟨bound, atPosition⟩ := List.getElem?_eq_some_iff.mp isAddress
        obtain ⟨bound', atIndex⟩ := List.getElem?_eq_some_iff.mp inMiddle
        exact absurd ((List.Nodup.getElem_inj_iff cut.distinct.nodup).mp
          (atPosition.trans atIndex.symm)) other
  · cases erased

/-- An AND element that ends leaves every parameter with its query. -/
theorem handleEndOfAndElement_settled (distinct : Distinct state)
    (increasing : Increasing state.orQueryIndexes state.queries.length)
    (ran : handleEndOfAndElement caseSensitiveParams andQuery andQueryIndex state = .ok result) :
    Settled andQuery andQueryIndex state result := by
  obtain ⟨combined, combining, rest⟩ := ok_of_bind ran
  have cut := combine_cut distinct increasing combining
  have cleared : Cut state { combined with orQueryIndexes := [] } :=
    ⟨cut.distinct.with_indexes [], ⟨cut.later.created, cut.later.present⟩, cut.held, cut.cut⟩
  obtain ⟨query, found, rest⟩ := ok_of_bind rest
  split at rest
  · next unused =>
      have none : HasNoParams query := by
        rw [AdHocQuery.isQueryUsed, Bool.or_eq_false_iff] at unused
        exact List.length_eq_zero_iff.mp (not_not.mp (of_decide_eq_false unused.1))
      exact cleared.erase distinct found none rfl rest
  · split at rest
    · next more =>
        obtain ⟨copied, copying, erased⟩ := ok_of_bind rest
        obtain ⟨same, source⟩ := copyAndQuery_foldlM_sameKeys _ copying
        have some : List.range' (andQueryIndex + 1)
            (combined.queries.length - (andQueryIndex + 1)) ≠ [] := by
          apply List.ne_nil_of_length_pos
          rw [List.length_range']
          exact Nat.sub_pos_of_lt more
        obtain ⟨other, isOther, none⟩ := source some
        obtain ⟨left, isLeft, params⟩ := same.deref cleared.distinct isOther
        have noneLeft : HasNoParams left := by
          rw [HasNoParams, params]
          exact none
        exact (same.cut cleared).erase distinct isLeft noneLeft same.indexes erased
    · cases rest
      exact ⟨cleared.distinct, rfl, cleared.later, cleared.held ▸ List.Sublist.refl _,
        fun _ => cleared.held, fun _ index address _ stands present =>
          cleared.placed distinct stands present⟩

/-! ### Elements -/

/-- What a step that ends no AND element keeps: the queries stay where they are. -/
structure Kept (state result : FilterState ν) : Prop where
  distinct : Distinct result
  increasing : Increasing result.orQueryIndexes result.queries.length
  later : Later state result
  addresses : ∃ more, result.addresses = state.addresses ++ more

theorem Kept.refl (distinct : Distinct state)
    (increasing : Increasing state.orQueryIndexes state.queries.length) : Kept state state :=
  ⟨distinct, increasing, .refl state, [], (List.append_nil _).symm⟩

/-- A reserved query stays at its index. -/
theorem Kept.placed (kept : Kept state result) {index : Nat}
    (placed : Placed andQuery index state) :
    Placed andQuery index result where
  old := placed.old.trans_le kept.later.created
  placed present := by
    obtain ⟨more, addresses⟩ := kept.addresses
    have stands := placed.placed (kept.later.present andQuery present placed.old)
    rw [addresses, List.getElem?_append_left (List.getElem?_eq_some_iff.mp stands).1]
    exact stands

/-- A query is created at the end of the list, or nothing is. -/
theorem nextQuery_cases {elementTree : List ByteString} {upperLevelAndQuery : Option Nat}
    {elementName : ByteString} {level : Level} {next : Level × FilterState ν}
    (ran : nextQuery caseSensitiveParams elementTree upperLevelAndQuery elementName level state =
      .ok next) :
    next = (level, state) ∨ ∃ indexes,
      next.2 = { state.createQuery caseSensitiveParams with orQueryIndexes := indexes } ∧
        (indexes = state.orQueryIndexes ∨
          indexes = state.orQueryIndexes ++ [state.queries.length]) := by
  obtain ⟨query, _, rest⟩ := ok_of_bind ran
  split at rest
  · cases rest
    exact .inl rfl
  · obtain ⟨occupied, _, rest⟩ := ok_of_bind rest
    split at rest
    · cases rest
      exact .inl rfl
    · right
      split at rest
      · cases rest
        refine ⟨_, rfl, .inr ?_⟩
        rw [FilterState.createQuery, List.length_append]
        rfl
      · cases rest
        exact ⟨_, rfl, .inl rfl⟩

/-- The choice of the next query moves no parameter. -/
theorem nextQuery_kept {elementTree : List ByteString} {upperLevelAndQuery : Option Nat}
    {elementName : ByteString} {level : Level} {next : Level × FilterState ν}
    (distinct : Distinct state) (increasing : Increasing state.orQueryIndexes state.queries.length)
    (ran : nextQuery caseSensitiveParams elementTree upperLevelAndQuery elementName level state =
      .ok next) : Kept state next.2 ∧ next.2.held = state.held := by
  rcases nextQuery_cases ran with rfl | ⟨indexes, created, appended⟩
  · exact ⟨.refl distinct increasing, rfl⟩
  · have size : next.2.queries.length = state.queries.length + 1 := by
      rw [created]
      exact List.length_append
    have addresses : next.2.addresses = state.addresses ++ [state.created] := by
      rw [created]
      exact List.map_append
    refine ⟨⟨?_, ?_, ⟨?_, fun address member old => ?_⟩, _, addresses⟩, ?_⟩
    · rw [created]
      exact distinct.add rfl indexes
    · rw [size, created]
      rcases appended with rfl | rfl
      · exact ⟨increasing.pairwise, fun index member => (increasing.inside index member).trans_le
          (Nat.le_succ _)⟩
      · exact increasing.concat
    · rw [created]
      exact Nat.le_succ _
    · rw [addresses] at member
      rcases List.mem_append.mp member with inState | isNew
      · exact inState
      · exact absurd old (List.mem_singleton.mp isNew ▸ Nat.lt_irrefl _)
    · rw [created]
      change heldBy (state.queries ++ _) = _
      rw [heldBy_append]
      exact List.append_nil _

variable {reader : XmlReader ν} {config : StoredQueryConfig ν}

/-- The checks of `read_query_parameter` on the parameters of its level. -/
def Level.Admits (level : Level) (name : ByteString) (desc : ParamDesc ν) : Prop :=
  level.forbidden.contains name = false ∧ (level.paramNameSet.count name : Int) + 1 ≤ desc.maxOccurs

/-- The parameter that an element stands for, with its description. -/
def DescribedBy (config : StoredQueryConfig ν) (elementTree : List ByteString) (element : Element)
    (desc : ParamDesc ν) : Prop :=
  isComparisonOperation element.elementName = false ∧
    config.Describes (parameterName elementTree element) desc

/-- A query that is written to holds what it has instead of what it had. -/
theorem held_write (distinct : Distinct state) {query written : AdHocQuery ν}
    (member : query ∈ state.queries) (same : written.address = query.address) :
    ∃ front back, state.held = heldBy (front ++ query :: back) ∧
      (state.write written).held = heldBy (front ++ written :: back) ∧
      (state.write written).addresses = state.addresses := by
  obtain ⟨front, back, queries⟩ := List.append_of_mem member
  refine ⟨front, back, congrArg heldBy queries, ?_, ?_⟩
  · rw [distinct.write_eq queries same]
    rfl
  · rw [distinct.write_eq queries same, FilterState.addresses, FilterState.addresses, queries]
    simp only [List.map_append, List.map_cons, same]

/-- A query that has been given an entry. -/
theorem heldBy_insert {front back : List (AdHocQuery ν)} {query written : AdHocQuery ν}
    {entry : ByteString × ParamInfo ν} (same : written.address = query.address)
    (entries : written.params.params.entries.Perm (entry :: query.params.params.entries)) :
    (heldBy (front ++ written :: back)).Perm
      ((query.address, entry) :: heldBy (front ++ query :: back)) := by
  have own := entries.map fun entry => (written.address, entry)
  rw [List.map_cons, same] at own
  rw [heldBy_append, heldBy_append, heldBy_cons, heldBy_cons, same]
  refine ((own.append_right (heldBy back)).append_left (heldBy front)).trans ?_
  exact List.perm_middle

/-- What reading an element does to the query that it is read into. -/
inductive ReadInto (reader : XmlReader ν) (config : StoredQueryConfig ν)
    (elementTree : List ByteString) (element : Element) (level : Level) (state : FilterState ν)
    (query : AdHocQuery ν) (result : FilterState ν) : Prop
  | parameter (desc : ParamDesc ν) (value : ν)
    (described : DescribedBy config elementTree element desc)
      (admitted : level.Admits (parameterName elementTree element) desc)
      (own : ownContribution reader config elementTree element =
        some {.parameter (parameterName elementTree element) value})
      (held : result.held.Perm ((query.address, parameterName elementTree element,
        ⟨parameterName elementTree element, value⟩) :: state.held))
  | other (undescribed : ∀ desc, ¬ DescribedBy config elementTree element desc)
      (own : ∃ content, ownContribution reader config elementTree element = some content ∧
        parameters content = 0)
      (held : result.held = state.held)

/-- A parameter that is not described is skipped, any other has passed the checks. -/
theorem readQueryParameter_cases {elementTree : List ByteString} {element : Element} {level : Level}
    {query : AdHocQuery ν} {read : Level × AdHocQuery ν}
    (ran : readQueryParameter reader config elementTree element level query = .ok read) :
    (config.getParamDesc (parameterName elementTree element) = .ok none ∧
      read.2 = { query with skippedParams := query.skippedParams ++ [element] }) ∨
    ∃ desc value, config.Describes (parameterName elementTree element) desc ∧
      level.Admits (parameterName elementTree element) desc ∧
      parameterValue reader element = some value ∧
      read.2 = { query with
        params := query.params.insertValue (parameterName elementTree element) value } := by
  unfold readQueryParameter at ran
  dsimp only at ran
  split at ran
  · cases ran
  · next found =>
      cases ran
      exact .inl ⟨found, rfl⟩
  · next desc found =>
      split at ran
      · cases ran
      · next notForbidden =>
          split at ran
          · cases ran
          · next few =>
              split at ran
              · cases ran
              · next value isValue =>
                  split at ran
                  · cases ran
                    exact .inr ⟨desc, value, found,
                      ⟨Bool.eq_false_iff.mpr notForbidden, not_lt.mp few⟩, isValue, rfl⟩
                  · cases ran

/-- A parameter is read into the query of the element. -/
theorem readQueryParameter_readInto (distinct : Distinct state) {elementTree : List ByteString}
    {element : Element} {level : Level} {query : AdHocQuery ν} (member : query ∈ state.queries)
    (notComparison : isComparisonOperation element.elementName = false)
    {read : Level × AdHocQuery ν}
    (ran : readQueryParameter reader config elementTree element level query = .ok read) :
    read.2.address = query.address ∧
      ReadInto reader config elementTree element level state query (state.write read.2) := by
  rcases readQueryParameter_cases ran with ⟨found, skipped⟩ | ⟨desc, value, found, admits, isValue,
    inserted⟩
  · have sameAddress : read.2.address = query.address := by rw [skipped]
    obtain ⟨front, back, before, after, _⟩ := held_write distinct member sameAddress
    refine ⟨sameAddress, .other (fun desc described => ?_) ⟨0, ?_, rfl⟩ ?_⟩
    · cases found.symm.trans described.2
    · rw [ownContribution, notComparison, if_neg Bool.false_ne_true, found]
    · rw [before, after, skipped, heldBy_append, heldBy_append]
      rfl
  · have sameAddress : read.2.address = query.address := by rw [inserted]
    obtain ⟨front, back, before, after, _⟩ := held_write distinct member sameAddress
    have entries := Multimap.insertEntry_perm (parameterName elementTree element)
      (⟨parameterName elementTree element, value⟩ : ParamInfo ν) query.params.params.entries
    rw [← insertValue_entries query.params (asciiTolowerCopy_parameterName elementTree element)]
      at entries
    refine ⟨sameAddress, .parameter desc value ⟨notComparison, found⟩ admits ?_ ?_⟩
    · have isFound :
          config.getParamDesc (parameterName elementTree element) = .ok (some desc) := found
      rw [ownContribution, notComparison, if_neg Bool.false_ne_true, isFound]
      dsimp only
      rw [isValue]
      rfl
    · rw [before, after]
      apply heldBy_insert sameAddress
      rw [inserted]
      exact entries

/-- An element that is no operator reads at most one parameter, and moves none. -/
theorem readFilterParameter_readInto (distinct : Distinct state)
    (increasing : Increasing state.orQueryIndexes state.queries.length)
    {elementTree : List ByteString} {upperLevelAndQuery : Option Nat} {element : Element}
    {level : Level} {read : Level × FilterState ν}
    (ran : readFilterParameter reader config elementTree upperLevelAndQuery element level state =
      .ok read) :
    Kept state read.2 ∧ ∃ last query, state.back = .ok last ∧
      state.deref (targetAddress elementTree upperLevelAndQuery last) = .ok query ∧
      ReadInto reader config elementTree element level state query read.2 := by
  have kept : ∀ {query written : AdHocQuery ν}, query ∈ state.queries →
      written.address = query.address → Kept state (state.write written) := by
    intro query written member same
    obtain ⟨front, back, queries⟩ := List.append_of_mem member
    obtain ⟨_, _, _, _, addresses⟩ := held_write distinct member same
    refine ⟨?_, ?_, ⟨Nat.le_refl _, fun address present _ => addresses ▸ present⟩, [], ?_⟩
    · rw [distinct.write_eq queries same]
      exact distinct.replace queries same _
    · rw [queries_length_of_addresses addresses]
      exact increasing
    · rw [addresses, List.append_nil]
  obtain ⟨last, isLast, rest⟩ := ok_of_bind ran
  split at rest
  · next comparison =>
      obtain ⟨newFilter, text, rest⟩ := ok_of_bind rest
      obtain ⟨query, found, rest⟩ := ok_of_bind rest
      cases rest
      obtain ⟨member, _⟩ := mem_of_deref found
      obtain ⟨front, back, before, after, _⟩ :=
        @held_write _ _ distinct query (query.addFilter newFilter) member rfl
      refine ⟨kept member rfl, last, query, isLast, found,
        .other (fun desc described => ?_) ⟨{.condition newFilter}, ?_, rfl⟩ ?_⟩
      · exact Bool.false_ne_true (described.1.symm.trans comparison)
      · rw [ownContribution, if_pos comparison, text]
      · rw [before, after, heldBy_append, heldBy_append]
        rfl
  · next notComparison =>
      obtain ⟨query, found, rest⟩ := ok_of_bind rest
      obtain ⟨read', ran', rest⟩ := ok_of_bind rest
      cases rest
      obtain ⟨member, _⟩ := mem_of_deref found
      obtain ⟨sameAddress, readInto⟩ := readQueryParameter_readInto distinct member
        (Bool.eq_false_iff.mpr notComparison) ran'
      exact ⟨kept member sameAddress, last, query, isLast, found, readInto⟩

end

end SmartMetWfs.AdHoc
