import SmartMetWfs.AdHoc.Leaves
import Mathlib.Data.List.Forall2

/-!
# Combining queries at the end of an AND element

The queries of two or more OR elements lie in the list one set after the other, each set
from its index in `or_query_indexes` on. Their combination is the conjunction of the
sets: a query for every choice of one query from each. Each of these, or each query of a
single OR element, then gets what the AND query itself carries.
-/

namespace SmartMetWfs.AdHoc

open Foundation Parameters

variable {ν : Type}

/-- The query at the position carries the content. -/
def CarriesAt (queries : List (AdHocQuery ν)) (index : Nat)
    (content : Multiset (Contribution ν)) : Prop :=
  ∃ query, queries[index]? = some query ∧ Carries query content

theorem CarriesAt.append {queries : List (AdHocQuery ν)} {index : Nat}
    {content : Multiset (Contribution ν)} (carries : CarriesAt queries index content)
    (more : List (AdHocQuery ν)) : CarriesAt (queries ++ more) index content := by
  obtain ⟨query, found, carriesContent⟩ := carries
  refine ⟨query, ?_, carriesContent⟩
  rw [List.getElem?_append_left (List.getElem?_eq_some_iff.mp found).1, found]

/-- The query at the index carries the content. -/
theorem CarriesAt.queryAt {state : FilterState ν} {index : Nat}
    {content : Multiset (Contribution ν)} (carries : CarriesAt state.queries index content) :
    ∃ query, state.queryAt index = .ok query ∧ Carries query content := by
  obtain ⟨query, found, carriesContent⟩ := carries
  exact ⟨query, by rw [FilterState.queryAt, found], carriesContent⟩

/-- A part of the list by its positions. -/
theorem carriesAt_range (after : List (AdHocQuery ν)) {part : List (AdHocQuery ν)}
    {contents : List (Multiset (Contribution ν))} (carries : List.Forall₂ Carries part contents) :
    ∀ before : List (AdHocQuery ν), List.Forall₂ (CarriesAt (before ++ (part ++ after)))
      (List.range' before.length contents.length) contents := by
  induction carries with
  | nil => exact fun _ => .nil
  | @cons query content part contents first _ ih =>
      intro before
      rw [List.length_cons, List.range'_succ]
      refine .cons ⟨query, ?_, first⟩ ?_
      · rw [List.getElem?_append_right le_rfl, Nat.sub_self]
        rfl
      · have shifted := ih (before ++ [query])
        rw [List.append_assoc, List.length_append] at shifted
        exact shifted

section

variable {caseSensitiveParams : Bool} {tolerated : Failure → Prop}

/-! ### Combining the sets of OR elements -/

/-- A combined query carries the contents of both, when they have no parameters. -/
theorem combineQueries_carries {state : FilterState ν} (distinct : Distinct state)
    {andQuery : AdHocQuery ν} (present : andQuery ∈ state.queries) {pair : Nat × Nat}
    {first second : Multiset (Contribution ν)} (noneFirst : parameters first = 0)
    (noneSecond : parameters second = 0)
    (carriesFirst : CarriesAt state.queries pair.1 first)
    (carriesSecond : CarriesAt state.queries pair.2 second) :
    Meets tolerated (combineQueries caseSensitiveParams andQuery.address state pair) fun result =>
      ∃ combined, result =
          ⟨state.queries ++ [combined], state.created + 1, state.orQueryIndexes⟩ ∧
        combined.address = state.created ∧ Carries combined (first + second) := by
  obtain ⟨orQuery1, found1, carries1⟩ := carriesFirst.queryAt
  obtain ⟨orQuery2, found2, carries2⟩ := carriesSecond.queryAt
  unfold combineQueries
  rw [found1, found2, distinct.deref_eq present]
  have created : Carries (.create caseSensitiveParams state.created : AdHocQuery ν) 0 :=
    Carries.create caseSensitiveParams state.created
  refine (carries1.copyParams noneFirst created).bind ?_
  intro query ⟨isNew, carriesQuery⟩
  refine (carries2.copyParams noneSecond carriesQuery).bind ?_
  intro combined ⟨sameAddress, carriesBoth⟩
  refine Meets.pure ⟨combined, rfl, sameAddress.trans isNew, ?_⟩
  rw [zero_add] at carriesBoth
  exact carriesBoth

/-- What a pair of positions stands for. -/
def PairCarries (queries : List (AdHocQuery ν)) (pair : Nat × Nat)
    (content : Multiset (Contribution ν)) : Prop :=
  ∃ first second, content = first + second ∧ CarriesAt queries pair.1 first ∧
    CarriesAt queries pair.2 second

/-- The pairs of two parts of the list stand for the conjunction of what these carry. -/
theorem pairCarries_combinePairs {queries : List (AdHocQuery ν)} {first1 first2 : Nat}
    {contents1 contents2 : List (Multiset (Contribution ν))}
    (carries1 : List.Forall₂ (CarriesAt queries) (List.range' first1 contents1.length) contents1)
    (carries2 : List.Forall₂ (CarriesAt queries) (List.range' first2 contents2.length) contents2) :
    List.Forall₂ (PairCarries queries)
      (combinePairs first1 (first1 + contents1.length) first2 (first2 + contents2.length))
      (contents1.flatMap fun first => contents2.map fun second => first + second) := by
  unfold combinePairs
  rw [Nat.add_sub_cancel_left, Nat.add_sub_cancel_left]
  refine List.rel_flatMap carries1 ?_
  intro index1 content1 carriesFirst
  refine List.rel_map ?_ carries2
  intro index2 content2 carriesSecond
  exact ⟨content1, content2, rfl, carriesFirst, carriesSecond⟩

/-- The queries for a list of pairs are appended to the list. -/
theorem combineQueries_foldlM {queries : List (AdHocQuery ν)} {andQuery : AdHocQuery ν}
    (present : andQuery ∈ queries) {pairs : List (Nat × Nat)}
    {contents : List (Multiset (Contribution ν))}
    (carries : List.Forall₂ (PairCarries queries) pairs contents) :
    ∀ {state : FilterState ν} (appended : List (AdHocQuery ν)),
      (∀ content ∈ contents, parameters content = 0) → Distinct state →
      state.queries = queries ++ appended →
      Meets tolerated
        (pairs.foldlM (combineQueries caseSensitiveParams andQuery.address) state) fun result =>
          ∃ added, result.queries = queries ++ appended ++ added ∧
            result.orQueryIndexes = state.orQueryIndexes ∧ Distinct result ∧
            List.Forall₂ Carries added contents := by
  induction carries with
  | nil =>
      intro state appended _ distinct split
      exact Meets.pure ⟨[], by rw [List.append_nil, split], rfl, distinct, .nil⟩
  | @cons pair content pairs contents head _ ih =>
      intro state appended noParameters distinct split
      obtain ⟨first, second, rfl, carriesFirst, carriesSecond⟩ := head
      obtain ⟨noneHead, noneRest⟩ := List.forall_mem_cons.mp noParameters
      obtain ⟨noneFirst, noneSecond⟩ := parameters_add_eq_zero.mp noneHead
      have inState : andQuery ∈ state.queries := by
        rw [split]
        exact List.mem_append_left _ present
      rw [List.foldlM_cons]
      refine (combineQueries_carries distinct inState noneFirst noneSecond
        (split ▸ carriesFirst.append appended) (split ▸ carriesSecond.append appended)).bind ?_
      rintro next ⟨combined, rfl, isNew, carriesCombined⟩
      refine (ih (appended ++ [combined]) noneRest (distinct.add isNew _) ?_).imp ?_
      · rw [split, List.append_assoc]
      · intro result ⟨added, queriesAfter, sameIndexes, distinctAfter, carriesAdded⟩
        refine ⟨combined :: added, ?_, sameIndexes, distinctAfter,
          .cons carriesCombined carriesAdded⟩
        rw [queriesAfter]
        simp only [List.append_assoc, List.singleton_append]

/-- The queries after a round: those of before, and the combinations of the round. -/
theorem combineRound_holds {queries : List (AdHocQuery ν)} {andQuery : AdHocQuery ν}
    (present : andQuery ∈ queries) {state : FilterState ν}
    (distinct : Distinct state) {old : List (AdHocQuery ν)} (split : state.queries = queries ++ old)
    {first1 first2 : Nat} {contents1 contents2 : List (Multiset (Contribution ν))}
    (none1 : WithoutParameters (contents1 : DisjunctiveForm (Contribution ν)))
    (none2 : WithoutParameters (contents2 : DisjunctiveForm (Contribution ν)))
    (carries1 : List.Forall₂ (CarriesAt state.queries) (List.range' first1 contents1.length)
      contents1)
    (carries2 : List.Forall₂ (CarriesAt state.queries) (List.range' first2 contents2.length)
      contents2) :
    Meets tolerated
      ((combinePairs first1 (first1 + contents1.length) first2 (first2 + contents2.length)).foldlM
        (combineQueries caseSensitiveParams andQuery.address) state >>= fun combined =>
          combined.eraseRange queries.length state.queries.length) fun result =>
      ∃ combined, result.queries = queries ++ combined ∧
        result.orQueryIndexes = state.orQueryIndexes ∧ Distinct result ∧
        Holds combined (DisjunctiveForm.conjoin contents1 contents2) := by
  have inState : andQuery ∈ state.queries := by
    rw [split]
    exact List.mem_append_left _ present
  have noParameters := none1.conjoin none2
  rw [DisjunctiveForm.conjoin_coe] at noParameters
  refine (combineQueries_foldlM inState (pairCarries_combinePairs carries1 carries2) []
    noParameters distinct (List.append_nil _).symm).bind ?_
  intro result ⟨added, queriesAfter, sameIndexes, distinctAfter, carriesAdded⟩
  rw [List.append_nil] at queriesAfter
  have bounds : queries.length ≤ state.queries.length ∧
      state.queries.length ≤ result.queries.length := by
    rw [queriesAfter, split]
    simp only [List.length_append]
    omega
  rw [FilterState.eraseRange, if_pos bounds]
  have kept : result.queries.take queries.length ++ result.queries.drop state.queries.length =
      queries ++ added := by
    rw [queriesAfter, List.drop_left, split, List.append_assoc, List.take_left]
  refine Meets.ok ⟨added, kept, sameIndexes, ?_, _, carriesAdded,
    (DisjunctiveForm.conjoin_coe _ _).symm⟩
  refine distinctAfter.sublist ?_ _
  rw [kept, queriesAfter, split, List.append_assoc]
  exact (List.sublist_append_right old added).append_left queries

/-- The positions where consecutive sets of queries begin. -/
def starts (offset : Nat) : List (List (Multiset (Contribution ν))) → List Nat
  | [] => []
  | contents :: sets => offset :: starts (offset + contents.length) sets

@[simp] theorem length_starts (offset : Nat) (sets : List (List (Multiset (Contribution ν)))) :
    (starts offset sets).length = sets.length := by
  induction sets generalizing offset with
  | nil => rfl
  | cons contents sets ih => rw [starts, List.length_cons, List.length_cons, ih]

/-- A set begins after those before it. -/
theorem getD_starts (done rest : List (List (Multiset (Contribution ν))))
    (contents : List (Multiset (Contribution ν))) : ∀ offset : Nat,
      (starts offset (done ++ contents :: rest)).getD done.length 0 =
        offset + done.flatten.length := by
  induction done with
  | nil => exact fun _ => rfl
  | cons first done ih =>
      intro offset
      rw [List.cons_append, starts, List.length_cons, List.getD_cons_succ, ih,
        List.flatten_cons, List.length_append, Nat.add_assoc]

/-- A set ends where the next one begins, the last one at the end of the list. -/
theorem end_of_set (done rest : List (List (Multiset (Contribution ν))))
    (contents : List (Multiset (Contribution ν))) (offset : Nat) :
    (if done.length + 1 < (starts offset (done ++ contents :: rest)).length then
        (starts offset (done ++ contents :: rest)).getD (done.length + 1) 0
      else offset + (done ++ contents :: rest).flatten.length) =
      offset + done.flatten.length + contents.length := by
  rw [length_starts]
  cases rest with
  | nil =>
      rw [if_neg (by simp)]
      simp only [List.flatten_append, List.flatten_cons, List.flatten_nil, List.append_nil,
        List.length_append, Nat.add_assoc]
  | cons next rest =>
      rw [if_pos (by simp)]
      have shifted := getD_starts (done ++ [contents]) rest next offset
      rw [List.append_assoc, List.length_append] at shifted
      refine shifted.trans ?_
      simp only [List.flatten_append, List.flatten_singleton, List.length_append, Nat.add_assoc]

/-- The positions of a set carry it. -/
theorem carriesAt_set {before part : List (AdHocQuery ν)}
    (done rest : List (List (Multiset (Contribution ν))))
    {contents : List (Multiset (Contribution ν))}
    (carries : List.Forall₂ Carries part (done ++ contents :: rest).flatten)
    (after : List (AdHocQuery ν)) :
    List.Forall₂ (CarriesAt (before ++ part ++ after))
      (List.range' (before.length + done.flatten.length) contents.length) contents := by
  have all := carriesAt_range after carries before
  rw [← List.append_assoc, List.flatten_append, List.flatten_cons, List.length_append,
    List.length_append, ← List.range'_append_1, ← List.range'_append_1] at all
  have fromSet := List.forall₂_drop done.flatten.length all
  rw [List.drop_left, List.drop_left' List.length_range'] at fromSet
  have set := List.forall₂_take contents.length fromSet
  rw [List.take_left, List.take_left' List.length_range'] at set
  exact set

/-- What is in the list while the sets of OR elements are combined: the queries up to the
AND query, the sets, and the combinations of the last round. -/
structure Combining (andQuery : AdHocQuery ν) (before part combined : List (AdHocQuery ν))
    (sets : List (List (Multiset (Contribution ν)))) (state : FilterState ν) : Prop where
  distinct : Distinct state
  present : andQuery ∈ before
  queries : state.queries = before ++ part ++ combined
  carries : List.Forall₂ Carries part sets.flatten
  indexes : state.orQueryIndexes = starts before.length sets

/-- The queries are those before, the combined ones and the sets. -/
theorem Combining.size {andQuery : AdHocQuery ν} {before part combined : List (AdHocQuery ν)}
    {sets : List (List (Multiset (Contribution ν)))} {state : FilterState ν}
    (combining : Combining andQuery before part combined sets state) :
    (before ++ part).length = before.length + sets.flatten.length := by
  rw [List.length_append, combining.carries.length_eq]

/-- The first round combines the first two sets. -/
theorem combineOrSet_first {andQuery : AdHocQuery ν} {before part : List (AdHocQuery ν)}
    {first second : List (Multiset (Contribution ν))}
    {sets : List (List (Multiset (Contribution ν)))} {state : FilterState ν}
    (noneFirst : WithoutParameters (first : DisjunctiveForm (Contribution ν)))
    (noneSecond : WithoutParameters (second : DisjunctiveForm (Contribution ν)))
    (combining : Combining andQuery before part [] (first :: second :: sets) state) :
    Meets tolerated
      (combineOrSet caseSensitiveParams andQuery.address (before ++ part).length state
        0) fun result =>
        ∃ combined, Combining andQuery before part combined (first :: second :: sets) result ∧
          Holds combined (DisjunctiveForm.conjoin first second) := by
  obtain ⟨distinct, present, queries, carries, indexes⟩ := id combining
  have carriesFirst : List.Forall₂ (CarriesAt state.queries)
      (List.range' before.length first.length) first := by
    rw [queries]
    exact carriesAt_set [] (second :: sets) carries []
  have carriesSecond : List.Forall₂ (CarriesAt state.queries)
      (List.range' (before.length + first.length) second.length) second := by
    have set := @carriesAt_set _ before part [first] sets second carries []
    rw [List.flatten_singleton] at set
    rw [queries]
    exact set
  have sizes : state.queries.length = before.length + (first :: second :: sets).flatten.length := by
    rw [queries, List.append_nil, combining.size]
  have firstEnd : (if 0 + 1 < state.orQueryIndexes.length then state.orQueryIndexes.getD (0 + 1) 0
      else (before ++ part).length) = before.length + first.length := by
    rw [indexes, combining.size]
    exact end_of_set [] (second :: sets) first before.length
  have secondEnd : (if (0 : Nat) = 0 ∧ 2 < state.orQueryIndexes.length then
      state.orQueryIndexes.getD (0 + 2) 0 else state.queries.length) =
        before.length + first.length + second.length := by
    have set := end_of_set [first] sets second before.length
    rw [List.flatten_singleton] at set
    rw [indexes, sizes]
    simp only [true_and]
    exact set
  have secondStart : state.orQueryIndexes.getD 1 0 = before.length + first.length := by
    rw [indexes]
    rfl
  have firstStart : state.orQueryIndexes.getD 0 0 = before.length := by
    rw [indexes]
    rfl
  have inQueries : andQuery ∈ before ++ part := List.mem_append_left _ present
  unfold combineOrSet
  dsimp only
  rw [firstEnd, secondEnd, if_pos rfl, secondStart, firstStart]
  refine (combineRound_holds inQueries distinct queries noneFirst noneSecond carriesFirst
    carriesSecond).imp ?_
  intro result ⟨combined, queriesAfter, sameIndexes, distinctAfter, holds⟩
  exact ⟨combined,
    ⟨distinctAfter, present, queriesAfter, carries, sameIndexes.trans indexes⟩, holds⟩

/-- A later round combines its set with the result of the round before. -/
theorem combineOrSet_next {andQuery : AdHocQuery ν} {before part combined : List (AdHocQuery ν)}
    {done rest : List (List (Multiset (Contribution ν)))}
    {contents : List (Multiset (Contribution ν))} {state : FilterState ν}
    {form : DisjunctiveForm (Contribution ν)} (notFirst : done.length ≠ 0)
    (noneSet : WithoutParameters (contents : DisjunctiveForm (Contribution ν)))
    (noneForm : WithoutParameters form)
    (combining : Combining andQuery before part combined (done ++ contents :: rest) state)
    (holds : Holds combined form) :
    Meets tolerated
      (combineOrSet caseSensitiveParams andQuery.address (before ++ part).length state done.length)
      fun result => ∃ combined', Combining andQuery before part combined' (done ++ contents :: rest)
          result ∧ Holds combined' (DisjunctiveForm.conjoin contents form) := by
  obtain ⟨distinct, present, queries, carries, indexes⟩ := id combining
  obtain ⟨contents', carriesCombined, rfl⟩ := holds
  have carriesSet : List.Forall₂ (CarriesAt state.queries)
      (List.range' (before.length + done.flatten.length) contents.length) contents := by
    rw [queries]
    exact carriesAt_set done rest carries combined
  have carriesOld : List.Forall₂ (CarriesAt state.queries)
      (List.range' (before ++ part).length contents'.length) contents' := by
    have old := carriesAt_range [] carriesCombined (before ++ part)
    rw [List.append_nil, ← queries] at old
    exact old
  have setEnd : (if done.length + 1 < state.orQueryIndexes.length then
      state.orQueryIndexes.getD (done.length + 1) 0 else (before ++ part).length) =
        before.length + done.flatten.length + contents.length := by
    rw [indexes, combining.size]
    exact end_of_set done rest contents before.length
  have setStart : state.orQueryIndexes.getD done.length 0 =
      before.length + done.flatten.length := by
    rw [indexes]
    exact getD_starts done rest contents before.length
  have oldEnd : state.queries.length = (before ++ part).length + contents'.length := by
    rw [queries, List.length_append, carriesCombined.length_eq]
  have inQueries : andQuery ∈ before ++ part := List.mem_append_left _ present
  unfold combineOrSet
  dsimp only
  rw [setEnd, setStart, if_neg notFirst, if_neg (fun both => notFirst both.1)]
  have round :=
    @combineRound_holds _ caseSensitiveParams tolerated _ _ inQueries _ distinct _ queries
    _ _ _ _ noneSet noneForm carriesSet carriesOld
  rw [← oldEnd] at round
  refine round.imp ?_
  intro result ⟨combined', queriesAfter, sameIndexes, distinctAfter, holdsAfter⟩
  exact ⟨combined', ⟨distinctAfter, present, queriesAfter, carries, sameIndexes.trans indexes⟩,
    holdsAfter⟩

/-- The rounds after the first one. -/
theorem combineOrSet_foldlM {andQuery : AdHocQuery ν} {before part : List (AdHocQuery ν)}
    (rest : List (List (Multiset (Contribution ν)))) :
    ∀ {done : List (List (Multiset (Contribution ν)))} {combined : List (AdHocQuery ν)}
      {state : FilterState ν} {form : DisjunctiveForm (Contribution ν)}, done.length ≠ 0 →
      (∀ contents ∈ rest, WithoutParameters (contents : DisjunctiveForm (Contribution ν))) →
      WithoutParameters form →
      Combining andQuery before part combined (done ++ rest) state → Holds combined form →
      Meets tolerated
        ((List.range' done.length rest.length).foldlM
          (combineOrSet caseSensitiveParams andQuery.address (before ++ part).length) state)
        fun result => ∃ combined', Combining andQuery before part combined' (done ++ rest) result ∧
          Holds combined' (DisjunctiveForm.conjoin form
            (DisjunctiveForm.conjoinAll (rest.map Multiset.ofList))) := by
  induction rest with
  | nil =>
      intro done combined state form _ _ _ combining holds
      refine Meets.pure ⟨combined, combining, ?_⟩
      rw [List.map_nil, DisjunctiveForm.conjoinAll, DisjunctiveForm.conjoin_zero_singleton]
      exact holds
  | cons contents rest ih =>
      intro done combined state form notFirst noneSets noneForm combining holds
      obtain ⟨noneSet, noneRest⟩ := List.forall_mem_cons.mp noneSets
      rw [List.length_cons, List.range'_succ, List.foldlM_cons]
      refine (combineOrSet_next notFirst noneSet noneForm combining holds).bind ?_
      rintro next ⟨combined', combining', holds'⟩
      rw [← List.singleton_append, ← List.append_assoc] at combining' ⊢
      have nextLength : (done ++ [contents]).length = done.length + 1 := List.length_append
      rw [← nextLength]
      refine (ih (by rw [nextLength]; exact Nat.succ_ne_zero _) noneRest (noneSet.conjoin noneForm)
        combining' holds').imp ?_
      rintro result ⟨combined'', combining'', holds''⟩
      refine ⟨combined'', combining'', ?_⟩
      rw [List.map_append, List.map_singleton, List.singleton_append, DisjunctiveForm.conjoinAll,
        ← DisjunctiveForm.conjoin_assoc, DisjunctiveForm.conjoin_comm form]
      exact holds''

/-- All rounds together combine all sets. -/
theorem combineOrSets_holds {andQuery : AdHocQuery ν} {before part : List (AdHocQuery ν)}
    {first second : List (Multiset (Contribution ν))}
    {rest : List (List (Multiset (Contribution ν)))} {state : FilterState ν}
    (noneSets : ∀ contents ∈ first :: second :: rest,
      WithoutParameters (contents : DisjunctiveForm (Contribution ν)))
    (combining : Combining andQuery before part [] (first :: second :: rest) state) :
    Meets tolerated
      ((0 :: List.range' 2 rest.length).foldlM
        (combineOrSet caseSensitiveParams andQuery.address (before ++ part).length) state)
      fun result => ∃ combined, Combining andQuery before part combined (first :: second :: rest)
          result ∧ Holds combined (DisjunctiveForm.conjoinAll
            ((first :: second :: rest).map Multiset.ofList)) := by
  rw [List.map_cons, List.map_cons, DisjunctiveForm.conjoinAll, DisjunctiveForm.conjoinAll,
    ← DisjunctiveForm.conjoin_assoc]
  obtain ⟨noneFirst, noneOthers⟩ := List.forall_mem_cons.mp noneSets
  obtain ⟨noneSecond, noneRest⟩ := List.forall_mem_cons.mp noneOthers
  rw [List.foldlM_cons]
  refine (combineOrSet_first noneFirst noneSecond combining).bind ?_
  rintro next ⟨combined, combiningNext, holdsNext⟩
  have notFirst : [first, second].length ≠ 0 := Nat.succ_ne_zero _
  refine (combineOrSet_foldlM rest notFirst noneRest (noneFirst.conjoin noneSecond) combiningNext
    holdsNext).imp ?_
  exact fun _ combined => combined

/-- The sets of two or more OR elements are replaced by their conjunction. -/
theorem combineOrQueries_holds {andQuery : AdHocQuery ν} {before part : List (AdHocQuery ν)}
    {sets : List (List (Multiset (Contribution ν)))}
    {state : FilterState ν} (several : 2 ≤ sets.length)
    (noneSets : ∀ contents ∈ sets, WithoutParameters (contents : DisjunctiveForm (Contribution ν)))
    (combining : Combining andQuery before part [] sets state) :
    Meets tolerated (combineOrQueries caseSensitiveParams andQuery.address state) fun result =>
      ∃ combined, result.queries = before ++ combined ∧ Distinct result ∧
        (∀ query ∈ combined, ∀ old ∈ part, query.address ≠ old.address) ∧
        Holds combined (DisjunctiveForm.conjoinAll (sets.map Multiset.ofList)) := by
  match sets, several with
  | first :: second :: rest, _ =>
      have size : state.queries.length = (before ++ part).length := by
        rw [combining.queries, List.append_nil]
      have rounds : state.orQueryIndexes.length - 2 = rest.length := by
        rw [combining.indexes, length_starts]
        rfl
      have start : state.orQueryIndexes.getD 0 0 = before.length := by
        rw [combining.indexes]
        rfl
      unfold combineOrQueries
      rw [rounds, size, start]
      refine (combineOrSets_holds noneSets combining).bind ?_
      intro result ⟨combined, ⟨distinct, _, queries, _, _⟩, holds⟩
      have bounds : before.length ≤ (before ++ part).length ∧
          (before ++ part).length ≤ result.queries.length := by
        rw [queries, List.length_append, List.length_append, List.length_append]
        omega
      have kept : result.queries.take before.length ++
          result.queries.drop (before ++ part).length = before ++ combined := by
        rw [queries, List.drop_left, List.append_assoc, List.take_left]
      have replaced : ∀ query ∈ combined, ∀ old ∈ part, query.address ≠ old.address := by
        intro query member old inPart same
        have nodup := distinct.nodup
        rw [queries, List.map_append, List.map_append] at nodup
        have apart := List.disjoint_of_nodup_append nodup
        exact apart (List.mem_append_right _ (List.mem_map_of_mem inPart))
          (same ▸ List.mem_map_of_mem member)
      rw [FilterState.eraseRange, if_pos bounds]
      refine Meets.ok ⟨combined, kept, distinct.sublist ?_ _, replaced, holds⟩
      rw [kept, queries, List.append_assoc]
      exact (List.sublist_append_right part combined).append_left before

/-! ### Distributing the AND query -/

/-- The reserved query is copied into a query, which then carries both contents. -/
theorem copyAndQuery_carries {state : FilterState ν} (distinct : Distinct state)
    {andQuery query : AdHocQuery ν} {before after : List (AdHocQuery ν)}
    (queries : state.queries = before ++ query :: after) (present : andQuery ∈ before)
    {content content' : Multiset (Contribution ν)} (carriesAnd : Carries andQuery content)
    (noParameters : parameters content = 0) (carries : Carries query content') :
    Meets tolerated (copyAndQuery andQuery.address state before.length) fun result =>
      ∃ copied, result = { state with queries := before ++ copied :: after } ∧
        copied.address = query.address ∧ Carries copied (content' + content) := by
  have found : state.queryAt before.length = .ok query := by
    rw [FilterState.queryAt, queries, List.getElem?_append_right le_rfl, Nat.sub_self]
    rfl
  have inState : andQuery ∈ state.queries := by
    rw [queries]
    exact List.mem_append_left _ present
  unfold copyAndQuery
  rw [found, distinct.deref_eq inState]
  refine (carriesAnd.copyParams noParameters carries).bind ?_
  intro copied ⟨sameAddress, carriesCopied⟩
  refine Meets.pure ⟨copied, ?_, sameAddress, carriesCopied⟩
  rw [queries, List.set_append_right _ _ le_rfl, Nat.sub_self, List.set_cons_zero]

/-- The reserved query is copied into each of the queries behind it. -/
theorem copyAndQuery_foldlM {andQuery : AdHocQuery ν} {content : Multiset (Contribution ν)}
    (carriesAnd : Carries andQuery content) (noParameters : parameters content = 0)
    {rest : List (AdHocQuery ν)} {contents : List (Multiset (Contribution ν))}
    (carries : List.Forall₂ Carries rest contents) :
    ∀ {before : List (AdHocQuery ν)} {state : FilterState ν}, andQuery ∈ before → Distinct state →
      state.queries = before ++ rest →
      Meets tolerated
        ((List.range' before.length rest.length).foldlM (copyAndQuery andQuery.address) state)
        fun result => ∃ copied, result = { state with queries := before ++ copied } ∧
          Distinct result ∧
          List.Forall₂ Carries copied (contents.map fun content' => content' + content) := by
  induction carries with
  | nil =>
      intro before state present distinct queries
      refine Meets.pure ⟨[], ?_, distinct, .nil⟩
      rw [← queries]
  | @cons query content' rest contents first _ ih =>
      intro before state present distinct queries
      rw [List.length_cons, List.range'_succ, List.foldlM_cons]
      refine (copyAndQuery_carries distinct queries present carriesAnd noParameters first).bind ?_
      rintro next ⟨copied, rfl, sameAddress, carriesCopied⟩
      have distinctNext := distinct.replace queries sameAddress state.orQueryIndexes
      have nextLength : (before ++ [copied]).length = before.length + 1 := List.length_append
      rw [← nextLength]
      refine (ih (List.mem_append_left _ present) distinctNext ?_).imp ?_
      · rw [List.append_assoc]
        rfl
      · rintro result ⟨others, rfl, distinctAfter, carriesOthers⟩
        rw [List.append_assoc] at distinctAfter ⊢
        exact ⟨copied :: others, rfl, distinctAfter, .cons carriesCopied carriesOthers⟩

/-- The last part of `handle_end_of_and_element`: what the AND query carries is added to
the queries behind it, and the AND query is removed. -/
theorem distribute_holds {state : FilterState ν} (distinct : Distinct state)
    {andQuery : AdHocQuery ν} {before part : List (AdHocQuery ν)}
    (queries : state.queries = before ++ andQuery :: part) (nonempty : part ≠ [])
    {content : Multiset (Contribution ν)} (carriesAnd : Carries andQuery content)
    (noParameters : parameters content = 0) {form : DisjunctiveForm (Contribution ν)}
    (holds : Holds part form) :
    Meets tolerated
      (if andQuery.isQueryUsed = false then state.eraseRange before.length (before.length + 1)
        else if before.length + 1 < state.queries.length then do
          let copied ← (List.range' (before.length + 1)
            (state.queries.length - (before.length + 1))).foldlM
              (copyAndQuery andQuery.address) state
          copied.eraseRange before.length (before.length + 1)
        else .ok state) fun result =>
      ∃ after, result.queries = before ++ after ∧
        result.orQueryIndexes = state.orQueryIndexes ∧ Distinct result ∧
        Holds after (DisjunctiveForm.conjoin {content} form) := by
  have erase : ∀ (result : FilterState ν) (after : List (AdHocQuery ν)), Distinct result →
      result.queries = before ++ andQuery :: after →
      result.eraseRange before.length (before.length + 1) =
          .ok { result with queries := before ++ after } ∧
        Distinct { result with queries := before ++ after } := by
    intro result after distinctResult resultQueries
    have bounds : before.length ≤ before.length + 1 ∧
        before.length + 1 ≤ result.queries.length := by
      rw [resultQueries, List.length_append, List.length_cons]
      omega
    refine ⟨?_, distinctResult.sublist ?_ _⟩
    · rw [FilterState.eraseRange, if_pos bounds, resultQueries, List.take_left,
        List.append_cons before andQuery after, List.drop_left' (by simp)]
    · rw [resultQueries]
      exact (List.sublist_cons_self andQuery after).append_left before
  obtain ⟨contents, carriesPart, rfl⟩ := holds
  by_cases unused : content = 0
  · subst unused
    have notUsed : andQuery.isQueryUsed = false :=
      Bool.eq_false_iff.mpr fun used => carriesAnd.isQueryUsed_iff.mp used rfl
    obtain ⟨erased, distinctErased⟩ := erase state part distinct queries
    rw [if_pos notUsed, erased, DisjunctiveForm.zero_singleton_conjoin]
    exact Meets.ok ⟨part, rfl, rfl, distinctErased, contents, carriesPart, rfl⟩
  · have used : andQuery.isQueryUsed ≠ false := by
      rw [carriesAnd.isQueryUsed_iff.mpr unused]
      exact Bool.true_eq_false_eq_False
    have sizes : state.queries.length = before.length + 1 + part.length := by
      rw [queries, List.length_append, List.length_cons]
      omega
    have more : before.length + 1 < state.queries.length := by
      rw [sizes]
      exact Nat.lt_add_of_pos_right (List.length_pos_iff.mpr nonempty)
    have front : (before ++ [andQuery]).length = before.length + 1 := List.length_append
    rw [if_neg used, if_pos more, sizes, Nat.add_sub_cancel_left, ← front]
    refine (copyAndQuery_foldlM carriesAnd noParameters carriesPart (by simp) distinct ?_).bind ?_
    · rw [queries, List.append_assoc]
      rfl
    · rintro result ⟨copied, rfl, distinctAfter, carriesCopied⟩
      obtain ⟨erased, distinctErased⟩ := erase _ copied distinctAfter (by simp)
      rw [front, erased]
      refine Meets.ok ⟨copied, rfl, rfl, distinctErased, _, carriesCopied, ?_⟩
      rw [DisjunctiveForm.singleton_conjoin, Multiset.map_coe]
      simp only [add_comm]

/-! ### The end of an AND element -/

/-- An AND query that is used and the last one remains. -/
theorem handleEndOfAndElement_last {state : FilterState ν} (distinct : Distinct state)
    {andQuery : AdHocQuery ν} {before : List (AdHocQuery ν)}
    (queries : state.queries = before ++ [andQuery]) (few : state.orQueryIndexes.length < 2)
    (used : andQuery.isQueryUsed = true) :
    handleEndOfAndElement caseSensitiveParams andQuery.address before.length state =
      .ok { state with orQueryIndexes := [] } := by
  have present : andQuery ∈ state.queries := by
    rw [queries]
    exact List.mem_append_right _ List.mem_cons_self
  have last : ¬ before.length + 1 < state.queries.length := by
    rw [queries, List.length_append]
    exact lt_irrefl _
  unfold handleEndOfAndElement
  rw [if_neg (Nat.not_le.mpr few)]
  change (do
    let query ← ({ state with orQueryIndexes := [] } : FilterState ν).deref andQuery.address
    _) = _
  rw [(distinct.with_indexes []).deref_eq present]
  change (if andQuery.isQueryUsed = false then _ else _) = _
  rw [used, if_neg Bool.true_eq_false_eq_False, if_neg last]

/-- The sets of queries that the OR elements of an AND element have left, and the indexes
that tell them apart when there are two or more. -/
structure Sets (first : Nat) (orQueryIndexes : List Nat)
    (sets : List (List (Multiset (Contribution ν)))) : Prop where
  occupied : ∀ contents ∈ sets, contents ≠ []
  indexes : if 2 ≤ sets.length then orQueryIndexes = starts first sets
    else orQueryIndexes.length < 2

/-- Sets that are not empty can be combined. -/
theorem Sets.conjoinAll_ne_zero {first : Nat} {orQueryIndexes : List Nat}
    {sets : List (List (Multiset (Contribution ν)))} (isSets : Sets first orQueryIndexes sets) :
    DisjunctiveForm.conjoinAll (sets.map Multiset.ofList) ≠ 0 :=
  DisjunctiveForm.conjoinAll_coe_ne_zero isSets.occupied

/-- After combining, the queries behind the AND query hold the conjunction of the sets. -/
theorem combined_holds {state : FilterState ν} (distinct : Distinct state)
    {andQuery : AdHocQuery ν} {before part : List (AdHocQuery ν)}
    (queries : state.queries = before ++ andQuery :: part)
    {sets : List (List (Multiset (Contribution ν)))} (some : sets ≠ [])
    (isSets : Sets (before.length + 1) state.orQueryIndexes sets)
    (carries : List.Forall₂ Carries part sets.flatten)
    (noneSets : 2 ≤ sets.length →
      ∀ contents ∈ sets, WithoutParameters (contents : DisjunctiveForm (Contribution ν))) :
    Meets tolerated
      (if 2 ≤ state.orQueryIndexes.length then
        combineOrQueries caseSensitiveParams andQuery.address state else .ok state) fun result =>
      ∃ combined, result.queries = before ++ andQuery :: combined ∧ Distinct result ∧
        Holds combined (DisjunctiveForm.conjoinAll (sets.map Multiset.ofList)) := by
  have indexes := isSets.indexes
  by_cases several : 2 ≤ sets.length
  · rw [if_pos several] at indexes
    have many : 2 ≤ state.orQueryIndexes.length := by
      rw [indexes, length_starts]
      exact several
    have front : (before ++ [andQuery]).length = before.length + 1 := List.length_append
    have combining : Combining andQuery (before ++ [andQuery]) part [] sets state := by
      refine ⟨distinct, List.mem_append_right before List.mem_cons_self, ?_, carries, ?_⟩
      · rw [queries, List.append_nil, List.append_assoc]
        rfl
      · rw [indexes, front]
    rw [if_pos many]
    refine (combineOrQueries_holds several (noneSets several) combining).imp ?_
    intro result ⟨combined, queriesAfter, distinctAfter, _, holds⟩
    rw [List.append_assoc] at queriesAfter
    exact ⟨combined, queriesAfter, distinctAfter, holds⟩
  · rw [if_neg several] at indexes
    rw [if_neg (Nat.not_le.mpr indexes)]
    have single : sets.length = 1 := by
      have positive := List.length_pos_iff.mpr some
      omega
    obtain ⟨contents, rfl⟩ := List.length_eq_one_iff.mp single
    rw [List.flatten_singleton] at carries
    exact Meets.ok ⟨part, queries, distinct, contents, carries,
      (DisjunctiveForm.conjoin_zero_singleton _).symm⟩

/-- An AND element leaves the conjunction of what its query carries with its sets. -/
theorem handleEndOfAndElement_holds {state : FilterState ν} (distinct : Distinct state)
    {andQuery : AdHocQuery ν} {before part : List (AdHocQuery ν)}
    (queries : state.queries = before ++ andQuery :: part)
    {content : Multiset (Contribution ν)} (carriesAnd : Carries andQuery content)
    {sets : List (List (Multiset (Contribution ν)))}
    (isSets : Sets (before.length + 1) state.orQueryIndexes sets)
    (carries : List.Forall₂ Carries part sets.flatten) (some : sets = [] → content ≠ 0)
    (noneOwn : sets ≠ [] → parameters content = 0)
    (noneSets : 2 ≤ sets.length →
      ∀ contents ∈ sets, WithoutParameters (contents : DisjunctiveForm (Contribution ν))) :
    Meets tolerated
      (handleEndOfAndElement caseSensitiveParams andQuery.address before.length state) fun result =>
      ∃ after, result.queries = before ++ after ∧ result.orQueryIndexes = [] ∧ Distinct result ∧
        Holds after (DisjunctiveForm.conjoin {content}
          (DisjunctiveForm.conjoinAll (sets.map Multiset.ofList))) := by
  by_cases none : sets = []
  · subst none
    obtain rfl := List.forall₂_nil_right_iff.mp carries
    rw [handleEndOfAndElement_last distinct queries isSets.indexes
      (carriesAnd.isQueryUsed_iff.mpr (some rfl))]
    refine Meets.ok ⟨[andQuery], queries, rfl, distinct.with_indexes [], [content],
      .cons carriesAnd .nil, ?_⟩
    exact (DisjunctiveForm.conjoin_zero_singleton _).symm
  · unfold handleEndOfAndElement
    refine (combined_holds distinct queries none isSets carries noneSets).bind ?_
    intro combinedState ⟨combined, queriesCombined, distinctCombined, holds⟩
    have nonempty : combined ≠ [] := by
      rintro rfl
      obtain ⟨contents, carriesNone, isForm⟩ := holds
      rw [List.forall₂_nil_left_iff.mp carriesNone] at isForm
      exact isSets.conjoinAll_ne_zero isForm.symm
    have present : andQuery ∈ combinedState.queries := by
      rw [queriesCombined]
      exact List.mem_append_right _ List.mem_cons_self
    have distinctCleared := distinctCombined.with_indexes []
    change Meets tolerated (do
      let query ← ({ combinedState with orQueryIndexes := [] } : FilterState ν).deref
        andQuery.address
      _) _
    rw [distinctCleared.deref_eq present]
    exact distribute_holds distinctCleared queriesCombined nonempty carriesAnd (noneOwn none) holds

end

end SmartMetWfs.AdHoc
