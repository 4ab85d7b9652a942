import Mathlib.Data.List.GetD
import SmartMetWfs.AdHoc.Leaves

/-!
# Addresses in the list of queries

Which queries are in the list is described by their addresses. An operation of the walk
refuses the request or leaves a list whose addresses are known, as long as its own query
and its indices are in the list: nothing is said here of what the queries contain.
-/

namespace SmartMetWfs.AdHoc

open Foundation Parameters

variable {ν : Type}

/-- The addresses of the queries in the list. -/
def FilterState.addresses (state : FilterState ν) : List Nat := state.queries.map AdHocQuery.address

/-- Indices that increase and lie within a list. -/
structure Increasing (indexes : List Nat) (size : Nat) : Prop where
  pairwise : indexes.Pairwise (· < ·)
  inside : ∀ index ∈ indexes, index < size

/-- The query has parameters or a filter expression. -/
def IsUsed (state : FilterState ν) (address : Nat) : Prop :=
  ∃ query, state.deref address = .ok query ∧ query.isQueryUsed = true

/-- Indexes that increase below a size are below it. -/
theorem Increasing.getD_lt {indexes : List Nat} {size position : Nat}
    (increasing : Increasing indexes size) (inside : position < indexes.length) :
    indexes.getD position 0 < size := by
  rw [List.getD_eq_getElem _ _ inside]
  exact increasing.inside _ (List.getElem_mem inside)

/-- Each index is below the next one. -/
theorem Increasing.getD_lt_getD {indexes : List Nat} {size position : Nat}
    (increasing : Increasing indexes size) (inside : position + 1 < indexes.length) :
    indexes.getD position 0 < indexes.getD (position + 1) 0 := by
  rw [List.getD_eq_getElem _ _ inside, List.getD_eq_getElem _ _ (by omega)]
  exact List.pairwise_iff_getElem.mp increasing.pairwise _ _ _ _ (Nat.lt_succ_self position)

/-- An address in the list is that of one of its queries. -/
theorem mem_addresses {state : FilterState ν} {address : Nat} :
    address ∈ state.addresses ↔ ∃ query ∈ state.queries, query.address = address :=
  List.mem_map

/-- A pointer to a query in the list can be followed. -/
theorem deref_of_mem {state : FilterState ν} {address : Nat} (present : address ∈ state.addresses) :
    ∃ query, state.deref address = .ok query ∧ query.address = address := by
  obtain ⟨query, member, isQuery⟩ := mem_addresses.mp present
  unfold FilterState.deref
  cases found : state.queries.find? fun query => query.address = address with
  | none =>
      have missing := List.find?_eq_none.mp found query member
      exact absurd (decide_eq_true isQuery) missing
  | some other => exact ⟨other, rfl, of_decide_eq_true (List.find?_some found :)⟩

/-- There is a query at every index inside the list. -/
theorem queryAt_of_lt {state : FilterState ν} {index : Nat}
    (inside : index < state.queries.length) :
    state.queryAt index = .ok state.queries[index] := by
  rw [FilterState.queryAt, List.getElem?_eq_getElem inside]

/-- A query that is found by its index is in the list. -/
theorem mem_of_queryAt {state : FilterState ν} {index : Nat} {query : AdHocQuery ν}
    (found : state.queryAt index = .ok query) : state.queries[index]? = some query := by
  unfold FilterState.queryAt at found
  split at found
  · next stands =>
      cases found
      exact stands
  · cases found

/-- A query that is found by its address is in the list. -/
theorem mem_of_deref {state : FilterState ν} {address : Nat} {query : AdHocQuery ν}
    (found : state.deref address = .ok query) :
    query ∈ state.queries ∧ query.address = address := by
  unfold FilterState.deref at found
  split at found
  · next stands =>
      cases found
      exact ⟨List.mem_of_find?_eq_some stands, of_decide_eq_true (List.find?_some stands :)⟩
  · cases found

/-- Of the queries of before, none has come back. -/
structure Later (before after : FilterState ν) : Prop where
  created : before.created ≤ after.created
  present : ∀ address ∈ after.addresses, address < before.created → address ∈ before.addresses

theorem Later.refl (state : FilterState ν) : Later state state :=
  ⟨Nat.le_refl _, fun _ member _ => member⟩

theorem Later.trans {first second third : FilterState ν} (earlier : Later first second)
    (later : Later second third) : Later first third where
  created := earlier.created.trans later.created
  present := fun address member old => earlier.present address
    (later.present address member (old.trans_le earlier.created)) old

/-- A state stays later when queries are removed. -/
theorem Later.sublist {before after : FilterState ν} (later : Later before after)
    {queries : List (AdHocQuery ν)} (sublist : queries.Sublist after.queries)
    (orQueryIndexes : List Nat) : Later before ⟨queries, after.created, orQueryIndexes⟩ where
  created := later.created
  present address member old := later.present address ((sublist.map _).subset member) old

/-- A copy changes the filter expression only, and what has been copied has no parameters. -/
theorem copyParams_kept (source target : AdHocQuery ν) :
    Meets Tolerated (copyParams source target) fun result =>
      result.address = target.address ∧ result.params = target.params ∧ HasNoParams source := by
  by_cases none : HasNoParams source
  · rw [copyParams_of_hasNoParams none]
    exact Meets.ok ⟨rfl, rfl, none⟩
  · rw [copyParams_of_params none]
    exact Meets.error nofun

/-! ### Combining queries -/

/-- The query at the position has no parameters. -/
def NoParamsAt (queries : List (AdHocQuery ν)) (index : Nat) : Prop :=
  ∃ query, queries[index]? = some query ∧ HasNoParams query

theorem NoParamsAt.of_append {queries more : List (AdHocQuery ν)} {index : Nat}
    (none : NoParamsAt (queries ++ more) index) (inside : index < queries.length) :
    NoParamsAt queries index := by
  obtain ⟨query, found, noParams⟩ := none
  rw [List.getElem?_append_left inside] at found
  exact ⟨query, found, noParams⟩

/-- The list has these queries without parameters instead of what came behind its base. -/
structure Replaced (base : List (AdHocQuery ν)) (combined : List (AdHocQuery ν))
    (state result : FilterState ν) : Prop where
  queries : result.queries = base ++ combined
  indexes : result.orQueryIndexes = state.orQueryIndexes
  noParams : ∀ query ∈ combined, HasNoParams query
  fresh : ∀ query ∈ combined, state.created ≤ query.address
  distinct : Distinct state → Distinct result
  later : Later state result

theorem Replaced.trans {base combined combined' : List (AdHocQuery ν)}
    {state state' state'' : FilterState ν} (first : Replaced base combined state state')
    (second : Replaced base combined' state' state'') : Replaced base combined' state state'' :=
  ⟨second.queries, second.indexes.trans first.indexes, second.noParams,
    fun query member => first.later.created.trans (second.fresh query member),
    second.distinct ∘ first.distinct, first.later.trans second.later⟩

variable {caseSensitiveParams : Bool}

/-- A pair of queries makes one more behind the others. -/
theorem combineQueries_grows {state : FilterState ν} {andQuery : Nat} {pair : Nat × Nat}
    (present : andQuery ∈ state.addresses) (first : pair.1 < state.queries.length)
    (second : pair.2 < state.queries.length) :
    Meets Tolerated (combineQueries caseSensitiveParams andQuery state pair) fun result =>
      ∃ query, Replaced state.queries [query] state result ∧
        NoParamsAt state.queries pair.1 ∧ NoParamsAt state.queries pair.2 := by
  obtain ⟨query, dereferenced, _⟩ := deref_of_mem present
  unfold combineQueries
  rw [queryAt_of_lt first, queryAt_of_lt second, dereferenced]
  apply (copyParams_kept _ _).bind
  intro copied ⟨isNew, params, noneFirst⟩
  apply (copyParams_kept _ _).bind
  intro combinedQuery ⟨sameAddress, sameParams, noneSecond⟩
  refine Meets.pure ⟨combinedQuery, ⟨rfl, rfl, fun other member => ?_, fun other member => ?_,
    fun distinct => ?_, ?_⟩,
    ⟨_, List.getElem?_eq_getElem first, noneFirst⟩,
      ⟨_, List.getElem?_eq_getElem second, noneSecond⟩⟩
  · rw [List.mem_singleton.mp member, HasNoParams, sameParams, params]
    rfl
  · rw [List.mem_singleton.mp member, sameAddress]
    exact isNew.ge
  · exact distinct.add (sameAddress.trans isNew) _
  · refine ⟨Nat.le_succ _, fun address member old => ?_⟩
    rw [FilterState.addresses, List.map_append] at member
    rcases List.mem_append.mp member with inState | new
    · exact inState
    · have isCreated : address = state.created :=
        (List.mem_singleton.mp new).trans (sameAddress.trans isNew)
      exact absurd old (isCreated ▸ Nat.lt_irrefl _)

/-- Every pair makes one more query. -/
theorem combineQueries_foldlM_grows {state : FilterState ν} {andQuery : Nat}
    {pairs : List (Nat × Nat)} (present : andQuery ∈ state.addresses)
    (inside : ∀ pair ∈ pairs, pair.1 < state.queries.length ∧ pair.2 < state.queries.length) :
    Meets Tolerated (pairs.foldlM (combineQueries caseSensitiveParams andQuery) state) fun result =>
      ∃ combined, combined.length = pairs.length ∧ Replaced state.queries combined state result ∧
        ∀ pair ∈ pairs, NoParamsAt state.queries pair.1 ∧ NoParamsAt state.queries pair.2 := by
  apply Meets.foldlM fun (done : List (Nat × Nat)) (result : FilterState ν) =>
    ∃ combined, combined.length = done.length ∧ Replaced state.queries combined state result ∧
      ∀ pair ∈ done, NoParamsAt state.queries pair.1 ∧ NoParamsAt state.queries pair.2
  · exact ⟨[], rfl, ⟨(List.append_nil _).symm, rfl, nofun, nofun, id, .refl _⟩, nofun⟩
  · intro done pair rest before split ⟨combined, length, replaced, noneDone⟩
    have member : pair ∈ pairs := by simp [split]
    obtain ⟨first, second⟩ := inside pair member
    have still : andQuery ∈ before.addresses := by
      rw [FilterState.addresses, replaced.queries, List.map_append]
      exact List.mem_append_left _ present
    have longer : state.queries.length ≤ before.queries.length := by
      rw [replaced.queries, List.length_append]
      exact Nat.le_add_right _ _
    apply (combineQueries_grows still (by omega) (by omega)).imp
    intro result ⟨query, next, noneFirst, noneSecond⟩
    rw [replaced.queries] at noneFirst noneSecond
    refine ⟨combined ++ [query], ?_, ⟨?_, next.indexes.trans replaced.indexes, ?_, ?_,
      next.distinct ∘ replaced.distinct, replaced.later.trans next.later⟩, ?_⟩
    · rw [List.length_append, List.length_append, length]
      rfl
    · rw [next.queries, replaced.queries, List.append_assoc]
    · exact List.forall_mem_append.mpr ⟨replaced.noParams, next.noParams⟩
    · exact List.forall_mem_append.mpr ⟨replaced.fresh, fun other isNew =>
        replaced.later.created.trans (next.fresh other isNew)⟩
    · intro other isPair
      rcases List.mem_append.mp isPair with old | new
      · exact noneDone other old
      · rw [List.mem_singleton.mp new]
        exact ⟨noneFirst.of_append first, noneSecond.of_append second⟩

/-- The pairs have one index of each range. -/
theorem mem_combinePairs {first1 last1 first2 last2 : Nat} {pair : Nat × Nat} :
    pair ∈ combinePairs first1 last1 first2 last2 ↔
      (first1 ≤ pair.1 ∧ pair.1 < first1 + (last1 - first1)) ∧
        first2 ≤ pair.2 ∧ pair.2 < first2 + (last2 - first2) := by
  simp only [combinePairs, List.mem_flatMap, List.mem_map, List.mem_range'_1]
  constructor
  · rintro ⟨index1, inFirst, index2, inSecond, rfl⟩
    exact ⟨inFirst, inSecond⟩
  · intro ⟨inFirst, inSecond⟩
    exact ⟨pair.1, inFirst, pair.2, inSecond, rfl⟩

theorem combinePairs_length (first1 last1 first2 last2 : Nat) :
    (combinePairs first1 last1 first2 last2).length = (last1 - first1) * (last2 - first2) := by
  simp [combinePairs, List.length_flatMap]

/-- A round of the combination: what was combined before is replaced, and the two sets have
no parameters. -/
theorem combineRound_replaces {state : FilterState ν} {andQuery : Nat}
    {base old : List (AdHocQuery ν)} (queries : state.queries = base ++ old)
    (present : andQuery ∈ base.map AdHocQuery.address) {first1 last1 first2 last2 : Nat}
    (some1 : first1 < last1) (inside1 : last1 ≤ base.length) (some2 : first2 < last2)
    (inside2 : last2 ≤ state.queries.length) :
    Meets Tolerated ((combinePairs first1 last1 first2 last2).foldlM
        (combineQueries caseSensitiveParams andQuery) state >>= fun combined =>
          combined.eraseRange base.length state.queries.length) fun result =>
      ∃ combined, combined ≠ [] ∧ Replaced base combined state result ∧
        (∀ index, first1 ≤ index → index < last1 → NoParamsAt base index) ∧
        ∀ index, first2 ≤ index → index < last2 → NoParamsAt state.queries index := by
  have size : state.queries.length = base.length + old.length := by
    rw [queries, List.length_append]
  have inList : andQuery ∈ state.addresses := by
    rw [FilterState.addresses, queries, List.map_append]
    exact List.mem_append_left _ present
  have insidePairs : ∀ pair ∈ combinePairs first1 last1 first2 last2,
      pair.1 < state.queries.length ∧ pair.2 < state.queries.length := by
    intro pair member
    have bounds := mem_combinePairs.mp member
    omega
  apply (combineQueries_foldlM_grows inList insidePairs).bind
  intro after ⟨combined, length, replaced, nonePairs⟩
  have bounds : base.length ≤ state.queries.length ∧
      state.queries.length ≤ after.queries.length := by
    rw [replaced.queries, List.length_append]
    omega
  have kept : after.queries.take base.length ++ after.queries.drop state.queries.length =
      base ++ combined := by
    rw [replaced.queries, List.drop_left, queries, List.append_assoc, List.take_left]
  have sublist : (after.queries.take base.length ++
      after.queries.drop state.queries.length).Sublist after.queries := by
    rw [kept, replaced.queries, queries, List.append_assoc]
    exact (List.sublist_append_right old combined).append_left base
  rw [FilterState.eraseRange, if_pos bounds]
  apply Meets.ok
  refine ⟨combined, ?_, ⟨kept, replaced.indexes, replaced.noParams, replaced.fresh, fun distinct =>
    (replaced.distinct distinct).sublist sublist _, replaced.later.sublist sublist _⟩, ?_, ?_⟩
  · apply List.ne_nil_of_length_pos
    rw [length, combinePairs_length]
    exact Nat.mul_pos (by omega) (by omega)
  · intro index atLeast below
    have noneAt := (nonePairs (index, first2) (mem_combinePairs.mpr (by omega))).1
    rw [queries] at noneAt
    exact noneAt.of_append (by omega)
  · intro index atLeast below
    exact (nonePairs (first1, index) (mem_combinePairs.mpr (by omega))).2

/-- Where a set of queries ends. -/
def endOfSet (indexes : List Nat) (size orSet : Nat) : Nat :=
  if orSet + 1 < indexes.length then indexes.getD (orSet + 1) 0 else size

/-- The combinations of a set take the place of its queries. -/
theorem combineOrSet_replaces {state : FilterState ν} {andQuery orSet : Nat}
    {base old : List (AdHocQuery ν)} (queries : state.queries = base ++ old)
    (present : andQuery ∈ base.map AdHocQuery.address)
    (increasing : Increasing state.orQueryIndexes base.length)
    (isSet : orSet < state.orQueryIndexes.length)
    (isFirst : orSet = 0 → old = [] ∧ 2 ≤ state.orQueryIndexes.length)
    (isLater : orSet ≠ 0 → old ≠ []) :
    Meets Tolerated
      (combineOrSet caseSensitiveParams andQuery base.length state orSet) fun result =>
      ∃ combined, combined ≠ [] ∧ Replaced base combined state result ∧
        (∀ index, state.orQueryIndexes.getD orSet 0 ≤ index →
          index < endOfSet state.orQueryIndexes base.length orSet → NoParamsAt base index) ∧
        (orSet = 0 → ∀ index, state.orQueryIndexes.getD 1 0 ≤ index →
          index < endOfSet state.orQueryIndexes base.length 1 → NoParamsAt base index) := by
  have size : state.queries.length = base.length + old.length := by
    rw [queries, List.length_append]
  unfold combineOrSet
  dsimp only
  apply (combineRound_replaces queries present _ _ _ _).imp
  · intro result ⟨combined, nonempty, replaced, none1, none2⟩
    refine ⟨combined, nonempty, replaced, none1, fun first index atLeast below => ?_⟩
    obtain ⟨nothing, _⟩ := isFirst first
    rw [nothing, List.append_nil] at queries
    rw [queries, if_pos first] at none2
    apply none2 index atLeast
    unfold endOfSet at below
    rw [first]
    simpa using below
  · split
    · next hasNext => exact increasing.getD_lt_getD hasNext
    · exact increasing.getD_lt isSet
  · split
    · next hasNext => exact Nat.le_of_lt (increasing.getD_lt hasNext)
    · exact Nat.le_refl _
  · by_cases first : orSet = 0
    · obtain ⟨_, several⟩ := isFirst first
      rw [if_pos first]
      split
      · next more =>
          rw [first]
          exact increasing.getD_lt_getD (by omega)
      · have second := increasing.getD_lt (show 1 < state.orQueryIndexes.length by omega)
        omega
    · have some := List.length_pos_iff.mpr (isLater first)
      rw [if_neg first, if_neg (fun both => first both.1)]
      omega
  · split
    · next more =>
        have third := increasing.getD_lt (show orSet + 2 < state.orQueryIndexes.length by omega)
        omega
    · exact Nat.le_refl _

/-- The rounds of the combination in their order: the first one is that of the sets 0 and 1,
every later one has the next set. -/
theorem round_of_split {count orSet : Nat} {done rest : List Nat}
    (split : 0 :: List.range' 2 count = done ++ orSet :: rest) :
    (done = [] ∧ orSet = 0) ∨ (done ≠ [] ∧ orSet = done.length + 1 ∧ done.length ≤ count) := by
  cases done with
  | nil => exact .inl ⟨rfl, (List.cons.inj split).1.symm⟩
  | cons item done =>
      have later : List.range' 2 count = done ++ orSet :: rest := (List.cons.inj split).2
      have inside : done.length < (List.range' 2 count).length := by
        rw [later, List.length_append, List.length_cons]
        omega
      have isSet : (List.range' 2 count)[done.length]? = some orSet := by
        rw [later, List.getElem?_append_right (Nat.le_refl _), Nat.sub_self]
        rfl
      rw [List.length_range'] at inside
      rw [List.getElem?_range' inside] at isSet
      have value := Option.some.inj isSet
      exact .inr ⟨List.cons_ne_nil _ _,
        by rw [List.length_cons]; omega, by rw [List.length_cons]; omega⟩

/-- The queries of the OR elements have no parameters and make room for at least one
combination, which has none either. -/
theorem combineOrQueries_replaces {state : FilterState ν} {andQuery : Nat}
    (present : andQuery ∈ state.addresses)
    (increasing : Increasing state.orQueryIndexes state.queries.length)
    (several : 2 ≤ state.orQueryIndexes.length) :
    Meets Tolerated (combineOrQueries caseSensitiveParams andQuery state) fun result =>
      ∃ combined, combined ≠ [] ∧
        Replaced (state.queries.take (state.orQueryIndexes.getD 0 0)) combined state result ∧
        ∀ index, state.orQueryIndexes.getD 0 0 ≤ index → index < state.queries.length →
          NoParamsAt state.queries index := by
  unfold combineOrQueries
  dsimp only
  have rounds : Meets Tolerated ((0 :: List.range' 2 (state.orQueryIndexes.length - 2)).foldlM
      (combineOrSet caseSensitiveParams andQuery state.queries.length) state) fun result =>
        ∃ combined, (combined = [] ↔ 0 :: List.range' 2 (state.orQueryIndexes.length - 2) = []) ∧
          Replaced state.queries combined state result ∧
          (0 :: List.range' 2 (state.orQueryIndexes.length - 2) ≠ [] → ∀ index,
            state.orQueryIndexes.getD 0 0 ≤ index →
            index < endOfSet state.orQueryIndexes state.queries.length
              (0 :: List.range' 2 (state.orQueryIndexes.length - 2)).length →
            NoParamsAt state.queries index) := by
    apply Meets.foldlM fun done (result : FilterState ν) => ∃ combined,
      (combined = [] ↔ done = []) ∧ Replaced state.queries combined state result ∧
        (done ≠ [] → ∀ index, state.orQueryIndexes.getD 0 0 ≤ index →
          index < endOfSet state.orQueryIndexes state.queries.length done.length →
          NoParamsAt state.queries index)
    · exact ⟨[], by simp, ⟨by simp, rfl, nofun, nofun, id, .refl _⟩, fun some => absurd rfl some⟩
    · intro done orSet rest before split ⟨old, empty, replaced, noneDone⟩
      have place := round_of_split split
      have indexes := replaced.indexes
      rw [← indexes] at increasing several place noneDone
      apply (combineOrSet_replaces replaced.queries present increasing (by omega) _ _).imp
      · intro result ⟨combined, nonempty, next, noneSet, noneSecond⟩
        rw [← indexes]
        refine ⟨combined, iff_of_false nonempty (by simp), replaced.trans next,
          fun _ index atLeast below => ?_⟩
        rw [List.length_append, List.length_singleton] at below
        rcases place with ⟨nothing, isFirst⟩ | ⟨something, isSet, _⟩
        · rw [nothing] at below
          by_cases inSecond : before.orQueryIndexes.getD 1 0 ≤ index
          · exact noneSecond isFirst index inSecond below
          · apply noneSet index (isFirst ▸ atLeast)
            rw [isFirst, endOfSet, if_pos (by omega)]
            exact Nat.lt_of_not_le inSecond
        · by_cases inSet : before.orQueryIndexes.getD orSet 0 ≤ index
          · exact noneSet index inSet (isSet ▸ below)
          · apply noneDone something index atLeast
            rw [endOfSet, if_pos (by omega), ← isSet]
            exact Nat.lt_of_not_le inSet
      · intro isFirst
        rcases place with ⟨nothing, _⟩ | ⟨_, later, _⟩
        · exact ⟨empty.mpr nothing, several⟩
        · omega
      · intro isLater isEmpty
        rcases place with ⟨_, isFirst⟩ | ⟨something, _⟩
        · exact isLater isFirst
        · exact something (empty.mp isEmpty)
  apply rounds.bind
  intro after ⟨combined, empty, replaced, noneRounds⟩
  have some : combined ≠ [] := fun none => List.cons_ne_nil _ _ (empty.mp none)
  have first := increasing.getD_lt (show 0 < state.orQueryIndexes.length by omega)
  have bounds : state.orQueryIndexes.getD 0 0 ≤ state.queries.length ∧
      state.queries.length ≤ after.queries.length := by
    rw [replaced.queries, List.length_append]
    omega
  have kept : after.queries.take (state.orQueryIndexes.getD 0 0) ++
      after.queries.drop state.queries.length =
        state.queries.take (state.orQueryIndexes.getD 0 0) ++ combined := by
    rw [replaced.queries, List.drop_left, List.take_append_of_le_length (Nat.le_of_lt first)]
  have sublist : (after.queries.take (state.orQueryIndexes.getD 0 0) ++
      after.queries.drop state.queries.length).Sublist after.queries := by
    rw [kept, replaced.queries]
    exact (List.take_sublist _ _).append_right combined
  rw [FilterState.eraseRange, if_pos bounds]
  apply Meets.ok
  refine ⟨combined, some,
    ⟨kept, replaced.indexes, replaced.noParams, replaced.fresh, fun distinct =>
    (replaced.distinct distinct).sublist sublist _, replaced.later.sublist sublist _⟩,
    fun index atLeast below => ?_⟩
  · apply noneRounds (List.cons_ne_nil _ _) index atLeast
    rw [endOfSet, if_neg (by rw [List.length_cons, List.length_range']; omega)]
    exact below

/-! ### The end of an AND element -/

/-- The reserved query is copied into another one, and all keep their places. -/
theorem copyAndQuery_addresses {state : FilterState ν} {andQuery orQueryIndex : Nat}
    (present : andQuery ∈ state.addresses) (inside : orQueryIndex < state.queries.length) :
    Meets Tolerated (copyAndQuery andQuery state orQueryIndex) fun result =>
      result.addresses = state.addresses ∧ result.orQueryIndexes = state.orQueryIndexes := by
  obtain ⟨source, dereferenced, _⟩ := deref_of_mem present
  unfold copyAndQuery
  rw [queryAt_of_lt inside, dereferenced]
  apply (copyParams_kept _ _).bind
  intro target ⟨sameAddress, _⟩
  apply Meets.pure
  refine ⟨?_, rfl⟩
  have place : orQueryIndex < (state.queries.map AdHocQuery.address).length := by
    rw [List.length_map]
    exact inside
  have same : target.address = (state.queries.map AdHocQuery.address)[orQueryIndex] := by
    rw [List.getElem_map, sameAddress]
  rw [FilterState.addresses, FilterState.addresses, List.map_set, same, List.set_getElem_self place]

/-- The same for any number of queries. -/
theorem copyAndQuery_foldlM_addresses {state : FilterState ν} {andQuery : Nat}
    (present : andQuery ∈ state.addresses) {indexes : List Nat}
    (inside : ∀ index ∈ indexes, index < state.queries.length) :
    Meets Tolerated (indexes.foldlM (copyAndQuery andQuery) state) fun result =>
      result.addresses = state.addresses ∧ result.orQueryIndexes = state.orQueryIndexes := by
  apply Meets.foldlM fun _ (result : FilterState ν) =>
    result.addresses = state.addresses ∧ result.orQueryIndexes = state.orQueryIndexes
  · exact ⟨rfl, rfl⟩
  · intro done index rest before split ⟨addresses, same⟩
    have sameLength := congrArg List.length addresses
    rw [FilterState.addresses, FilterState.addresses, List.length_map,
      List.length_map] at sameLength
    have below := inside index (by simp [split])
    apply (copyAndQuery_addresses (addresses ▸ present) (by omega)).imp
    intro result ⟨unchanged, kept⟩
    exact ⟨unchanged.trans addresses, kept.trans same⟩

/-- What the end of an AND element does to the list. -/
structure Ended (state : FilterState ν) (andQuery andQueryIndex : Nat) (result : FilterState ν) :
    Prop where
  cleared : result.orQueryIndexes = []
  before : result.addresses.take andQueryIndex = state.addresses.take andQueryIndex
  kept : state.orQueryIndexes.length < 2 → IsUsed state andQuery →
    andQueryIndex + 1 = state.queries.length → result.addresses = state.addresses
  emptied : result.queries = [] → state.queries.length = 1 ∧ ¬ IsUsed state andQuery

/-- After the OR elements have been combined the AND query is where it was. -/
structure Joined (state : FilterState ν) (andQueryIndex : Nat) (result : FilterState ν) : Prop where
  before : result.addresses.take (andQueryIndex + 1) = state.addresses.take (andQueryIndex + 1)
  longer : andQueryIndex < result.queries.length
  kept : state.orQueryIndexes.length < 2 → result = state
  more : 2 ≤ state.orQueryIndexes.length → andQueryIndex + 1 < result.queries.length

/-- At the end of an AND element the queries behind the reserved one are joined. -/
theorem combine_joined {state : FilterState ν} {andQuery andQueryIndex : Nat}
    (placed : state.addresses[andQueryIndex]? = some andQuery)
    (increasing : Increasing state.orQueryIndexes state.queries.length)
    (behind : 2 ≤ state.orQueryIndexes.length → andQueryIndex < state.orQueryIndexes.getD 0 0) :
    Meets Tolerated (if 2 ≤ state.orQueryIndexes.length then
      combineOrQueries caseSensitiveParams andQuery state else .ok state)
      (Joined state andQueryIndex) := by
  have inside : andQueryIndex < state.queries.length := by
    have found := (List.getElem?_eq_some_iff.mp placed).1
    rw [FilterState.addresses, List.length_map] at found
    exact found
  split
  · next several =>
      apply (combineOrQueries_replaces (List.mem_of_getElem? placed) increasing several).imp
      intro result ⟨combined, nonempty, replaced, _⟩
      have queries := replaced.queries
      have first := behind several
      have last := increasing.getD_lt (show 0 < state.orQueryIndexes.length by omega)
      have positive := List.length_pos_iff.mpr nonempty
      have length : result.queries.length = state.orQueryIndexes.getD 0 0 + combined.length := by
        rw [queries, List.length_append, List.length_take]
        omega
      refine ⟨?_, by omega, fun few => absurd several (by omega), fun _ => by omega⟩
      have atLeast : andQueryIndex + 1 ≤
          (state.queries.take (state.orQueryIndexes.getD 0 0)).length := by
        rw [List.length_take]
        omega
      rw [FilterState.addresses, FilterState.addresses, ← List.map_take, ← List.map_take, queries,
        List.take_append_of_le_length atLeast, List.take_take, Nat.min_eq_left (by omega)]
  · next few => exact Meets.ok ⟨rfl, inside, fun _ => rfl, fun several => absurd several few⟩

/-- Erasing a query keeps those before it and leaves one query less. -/
theorem eraseOne {state : FilterState ν} {index : Nat} (inside : index < state.queries.length) :
    ∃ result, state.eraseRange index (index + 1) = .ok result ∧
      result.orQueryIndexes = state.orQueryIndexes ∧
      result.addresses.take index = state.addresses.take index ∧
      result.queries.length + 1 = state.queries.length := by
  refine ⟨_, if_pos ⟨Nat.le_succ index, inside⟩, rfl, ?_, ?_⟩
  · have atLeast : index ≤ (state.queries.take index).length := by
      rw [List.length_take]
      omega
    rw [FilterState.addresses, FilterState.addresses, ← List.map_take, ← List.map_take,
      List.take_append_of_le_length atLeast, List.take_take, Nat.min_self]
  · simp only [List.length_append, List.length_take, List.length_drop]
    omega

namespace Joined

variable {state combined : FilterState ν} {andQuery andQueryIndex : Nat}

/-- The reserved query keeps its place. -/
theorem placed (joined : Joined state andQueryIndex combined)
    (placed : state.addresses[andQueryIndex]? = some andQuery) :
    combined.addresses[andQueryIndex]? = some andQuery := by
  have first := congrArg (fun addresses => addresses[andQueryIndex]?) joined.before
  simpa [placed] using first

/-- The queries before the reserved one stay. -/
theorem earlier (joined : Joined state andQueryIndex combined) :
    combined.addresses.take andQueryIndex = state.addresses.take andQueryIndex := by
  have first := congrArg (List.take andQueryIndex) joined.before
  simpa [List.take_take] using first

/-- A query is alone in the list only if nothing was combined. -/
theorem alone (joined : Joined state andQueryIndex combined) (one : combined.queries.length = 1) :
    state.orQueryIndexes.length < 2 ∧ state.queries.length = 1 := by
  have few : state.orQueryIndexes.length < 2 := by
    by_contra several
    have more := joined.more (by omega)
    omega
  exact ⟨few, joined.kept few ▸ one⟩

/-- Without alternatives the reserved query is used as it was before. -/
theorem isUsed_iff (joined : Joined state andQueryIndex combined) {query : AdHocQuery ν}
    (dereferenced : combined.deref andQuery = .ok query) (few : state.orQueryIndexes.length < 2) :
    IsUsed state andQuery ↔ query.isQueryUsed = true := by
  rw [joined.kept few] at dereferenced
  constructor
  · intro ⟨other, found, used⟩
    cases dereferenced.symm.trans found
    exact used
  · intro used
    exact ⟨query, dereferenced, used⟩

/-- A reserved query without contents is removed. -/
theorem erase_ended (joined : Joined state andQueryIndex combined) {query : AdHocQuery ν}
    (dereferenced : combined.deref andQuery = .ok query) (unused : query.isQueryUsed = false) :
    Meets Tolerated
      (FilterState.eraseRange andQueryIndex (andQueryIndex + 1)
        { combined with orQueryIndexes := [] })
      (Ended state andQuery andQueryIndex) := by
  obtain ⟨result, erased, indexes, kept, length⟩ :=
    @eraseOne ν { combined with orQueryIndexes := [] } andQueryIndex joined.longer
  rw [erased]
  apply Meets.ok
  refine ⟨indexes, kept.trans joined.earlier, ?_, ?_⟩
  · intro few isUsed
    rw [joined.isUsed_iff dereferenced few, unused] at isUsed
    cases isUsed
  · intro nothing
    rw [nothing] at length
    obtain ⟨few, one⟩ := joined.alone length.symm
    rw [joined.isUsed_iff dereferenced few, unused]
    exact ⟨one, Bool.false_ne_true⟩

/-- A reserved query with contents is copied to those behind it and removed. -/
theorem distribute_ended (joined : Joined state andQueryIndex combined)
    (present : andQuery ∈ combined.addresses)
    (more : andQueryIndex + 1 < combined.queries.length) :
    Meets Tolerated ((List.range' (andQueryIndex + 1)
        (combined.queries.length - (andQueryIndex + 1))).foldlM (copyAndQuery andQuery)
          { combined with orQueryIndexes := [] } >>= fun copied =>
            copied.eraseRange andQueryIndex (andQueryIndex + 1))
      (Ended state andQuery andQueryIndex) := by
  have inside : ∀ index ∈ List.range' (andQueryIndex + 1)
      (combined.queries.length - (andQueryIndex + 1)), index < combined.queries.length := by
    intro index member
    have bounds := List.mem_range'_1.mp member
    omega
  apply (@copyAndQuery_foldlM_addresses ν { combined with orQueryIndexes := [] } andQuery
    present _ inside).bind
  intro copied ⟨addresses, same⟩
  have sameLength : copied.queries.length = combined.queries.length := by
    simpa [FilterState.addresses] using congrArg List.length addresses
  obtain ⟨result, erased, indexes, kept, length⟩ := @eraseOne ν copied andQueryIndex (by omega)
  rw [erased]
  apply Meets.ok
  refine ⟨indexes.trans same, ?_, ?_, ?_⟩
  · rw [kept, addresses]
    exact joined.earlier
  · intro few _ last
    rw [joined.kept few] at more
    omega
  · intro nothing
    rw [nothing] at length
    simp only [List.length_nil] at length
    omega

/-- A reserved query with contents stays if it is the last one. -/
theorem last_ended (joined : Joined state andQueryIndex combined) :
    Ended state andQuery andQueryIndex { combined with orQueryIndexes := [] } where
  cleared := rfl
  before := joined.earlier
  kept few _ _ := by
    have same := congrArg FilterState.addresses (joined.kept few)
    exact same
  emptied nothing := by
    have longer := joined.longer
    rw [show combined.queries = [] from nothing] at longer
    cases longer

end Joined

/-- What the end of an AND element leaves in the list. -/
theorem handleEndOfAndElement_ended {state : FilterState ν} {andQuery andQueryIndex : Nat}
    (placed : state.addresses[andQueryIndex]? = some andQuery)
    (increasing : Increasing state.orQueryIndexes state.queries.length)
    (behind : 2 ≤ state.orQueryIndexes.length → andQueryIndex < state.orQueryIndexes.getD 0 0) :
    Meets Tolerated (handleEndOfAndElement caseSensitiveParams andQuery andQueryIndex state)
      (Ended state andQuery andQueryIndex) := by
  unfold handleEndOfAndElement
  apply (combine_joined placed increasing behind).bind
  intro combined joined
  have present := List.mem_of_getElem? (joined.placed placed)
  obtain ⟨query, dereferenced, _⟩ := deref_of_mem present
  have cleared : FilterState.deref { combined with orQueryIndexes := [] } andQuery = .ok query :=
    dereferenced
  dsimp only
  rw [cleared]
  change Meets Tolerated (if query.isQueryUsed = false then _ else _) _
  split
  · next unused => exact joined.erase_ended dereferenced unused
  · split
    · next more => exact joined.distribute_ended present more
    · exact Meets.ok joined.last_ended

/-! ### Elements -/

/-- Queries are only added, and so are indices of added queries. -/
structure Grown (before after : FilterState ν) : Prop where
  addresses : ∃ more, after.addresses = before.addresses ++ more
  increasing : Increasing before.orQueryIndexes before.queries.length →
    Increasing after.orQueryIndexes after.queries.length

theorem Grown.refl (state : FilterState ν) : Grown state state := ⟨⟨[], by simp⟩, id⟩

/-- As many addresses are as many queries. -/
theorem queries_length_of_addresses {before after : FilterState ν}
    (addresses : after.addresses = before.addresses) :
    after.queries.length = before.queries.length := by
  simpa [FilterState.addresses] using congrArg List.length addresses

/-- A list that has grown is not empty if it was not. -/
theorem Grown.nonempty {before after : FilterState ν} (grown : Grown before after)
    (nonempty : before.queries ≠ []) : after.queries ≠ [] := by
  intro empty
  obtain ⟨more, addresses⟩ := grown.addresses
  rw [FilterState.addresses, FilterState.addresses, empty] at addresses
  have none := (List.append_eq_nil_iff.mp addresses.symm).1
  exact nonempty (List.map_eq_nil_iff.mp none)

/-- A query that is created is one more. -/
theorem grown_createQuery (caseSensitiveParams : Bool) (state : FilterState ν) :
    Grown state (state.createQuery caseSensitiveParams) where
  addresses := ⟨[state.created], by simp [FilterState.addresses, FilterState.createQuery,
    AdHocQuery.create]⟩
  increasing := by
    intro increasing
    refine ⟨increasing.pairwise, fun index member => ?_⟩
    have inside := increasing.inside index member
    simp only [FilterState.createQuery, List.length_append]
    omega

/-- The index of a new query is behind all others. -/
theorem Increasing.concat {indexes : List Nat} {size : Nat} (increasing : Increasing indexes size) :
    Increasing (indexes ++ [size]) (size + 1) where
  pairwise := by
    rw [List.pairwise_append]
    refine ⟨increasing.pairwise, List.pairwise_singleton _ _, fun index member last isLast => ?_⟩
    rw [List.mem_singleton.mp isLast]
    exact increasing.inside index member
  inside := by
    intro index member
    rcases List.mem_append.mp member with old | new
    · exact Nat.lt_succ_of_lt (increasing.inside index old)
    · rw [List.mem_singleton.mp new]
      exact Nat.lt_succ_self size

/-- The last query is in the list. -/
theorem back_of_nonempty {state : FilterState ν} (nonempty : state.queries ≠ []) :
    ∃ query, state.back = .ok query ∧ query.address ∈ state.addresses ∧
      state.addresses[state.queries.length - 1]? = some query.address := by
  obtain ⟨before, query, queries, back⟩ := exists_back nonempty
  refine ⟨query, back, ?_, ?_⟩
  · rw [FilterState.addresses, queries]
    simp
  · rw [FilterState.addresses, queries]
    simp

/-- The query that an element is read into is in the list, which may have grown. -/
theorem nextQuery_grown {elementTree : List ByteString} {upperLevelAndQuery : Option Nat}
    {elementName : ByteString} {level : Level} {state : FilterState ν}
    (nonempty : state.queries ≠ [])
    (upper : ∀ address, upperLevelAndQuery = some address → address ∈ state.addresses) :
    Meets Tolerated (nextQuery caseSensitiveParams elementTree upperLevelAndQuery elementName level
      state) fun result => Grown state result.2 := by
  obtain ⟨query, back, _⟩ := back_of_nonempty nonempty
  have compared : ∃ occupied, (if query.isQueryUsed then Except.ok true
      else isReserved state query upperLevelAndQuery) = .ok occupied := by
    split
    · exact ⟨true, rfl⟩
    · cases reserved : upperLevelAndQuery with
      | none => exact ⟨false, rfl⟩
      | some address =>
          obtain ⟨other, dereferenced, _⟩ := deref_of_mem (upper address reserved)
          rw [isReserved, dereferenced]
          exact ⟨_, rfl⟩
  obtain ⟨occupied, isOccupied⟩ := compared
  by_cases inside : elementTree.head? = some (ascii "fes:or")
  · unfold nextQuery
    rw [back]
    change Meets Tolerated (if elementTree.head? ≠ some (ascii "fes:or") then _ else
      ((if query.isQueryUsed then .ok true else isReserved state query upperLevelAndQuery) >>= _)) _
    rw [if_neg (not_not.mpr inside), isOccupied]
    change Meets Tolerated (if occupied = false then _ else _) _
    split
    · exact Meets.pure (.refl state)
    · have created := grown_createQuery caseSensitiveParams state
      change Meets Tolerated (if level.isFirstOrQuery = true ∧ _ then _ else _) _
      split
      · apply Meets.pure
        refine ⟨created.addresses, fun increasing => ?_⟩
        have size : (state.createQuery caseSensitiveParams).queries.length =
            state.queries.length + 1 := List.length_append
        rw [size, Nat.add_sub_cancel]
        exact increasing.concat
      · exact Meets.pure created
  · rw [nextQuery_outside inside upperLevelAndQuery elementName level nonempty]
    exact Meets.ok (.refl state)

variable {reader : XmlReader ν} {config : StoredQueryConfig ν}

/-- A parameter is read into the same query. -/
theorem readQueryParameter_address {elementTree : List ByteString} {element : Element}
    {level : Level} {query : AdHocQuery ν} :
    Meets Tolerated (readQueryParameter reader config elementTree element level query) fun result =>
      result.2.address = query.address := by
  unfold readQueryParameter
  dsimp only
  cases config.getParamDesc (parameterName elementTree element) with
  | error realName => exact .refused _
  | ok desc =>
      cases desc with
      | none => exact Meets.ok rfl
      | some desc =>
          dsimp only
          split
          · exact .refused _
          · split
            · exact .refused _
            · cases parameterValue reader element with
              | none => exact .refused _
              | some value =>
                  dsimp only
                  split
                  · exact Meets.ok rfl
                  · exact .refused _

/-- An element that is no operator leaves every query at its place. -/
theorem readFilterParameter_kept {elementTree : List ByteString} {upperLevelAndQuery : Option Nat}
    {element : Element} {level : Level} {state : FilterState ν} (nonempty : state.queries ≠ [])
    (upper : ∀ address, upperLevelAndQuery = some address → address ∈ state.addresses) :
    Meets Tolerated (readFilterParameter reader config elementTree upperLevelAndQuery element level
      state) fun result => result.2.addresses = state.addresses ∧
        result.2.orQueryIndexes = state.orQueryIndexes := by
  obtain ⟨last, back, isLast, _⟩ := back_of_nonempty nonempty
  have present : targetAddress elementTree upperLevelAndQuery last ∈ state.addresses := by
    cases upperLevelAndQuery with
    | none => exact isLast
    | some address =>
        unfold targetAddress
        dsimp only
        split
        · exact upper address rfl
        · exact isLast
  obtain ⟨query, dereferenced, _⟩ := deref_of_mem present
  have written : ∀ after : AdHocQuery ν, (state.write after).addresses = state.addresses := by
    intro after
    rw [FilterState.addresses, FilterState.write, List.map_map, FilterState.addresses]
    apply List.map_congr_left
    intro other _
    rw [Function.comp_apply]
    split
    · next same => exact same.symm
    · rfl
  unfold readFilterParameter
  rw [back]
  change Meets Tolerated (if isComparisonOperation element.elementName = true then _ else _) _
  split
  · cases text : readComparisonOperation reader element with
    | error failure => exact (readComparisonOperation_refused text).tolerated
    | ok newFilter =>
        change Meets Tolerated (state.deref _ >>= _) _
        rw [dereferenced]
        exact Meets.ok ⟨written _, rfl⟩
  · rw [dereferenced]
    apply readQueryParameter_address.bind
    intro result _
    exact Meets.pure ⟨written _, rfl⟩

end SmartMetWfs.AdHoc
