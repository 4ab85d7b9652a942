import SmartMetWfs.AdHoc.Addresses
import SmartMetWfs.AdHoc.Combination
import Mathlib.Data.List.Sections

/-!
# Combining OR elements takes every choice once

The queries behind the AND query form blocks, one for each OR element, and the indexes are
the positions where the blocks begin. What is asked of `combine_or_queries` is one new query
for every choice of one query from each block, with the parameters and conditions of the
chosen ones, in place of the queries of the blocks. It does so when no query of the blocks
has parameters; the first one that has is copied from values which have been destroyed.
-/

namespace SmartMetWfs.AdHoc

open Foundation Parameters

variable {ν : Type}

/-! ### Queries with one value a parameter -/

/-- The names of the parameters, one for each value. -/
def queryNames (query : AdHocQuery ν) : List ByteString :=
  query.params.params.entries.map Prod.fst

/-- No parameter stands twice in the query. -/
def SingleValued (query : AdHocQuery ν) : Prop := (queryNames query).Nodup

/-! ### Blocks of queries -/

/-- The positions where blocks begin that follow one another from a position on. -/
def blockStarts (first : Nat) : List (List (AdHocQuery ν)) → List Nat
  | [] => []
  | block :: blocks => first :: blockStarts (first + block.length) blocks

@[simp] theorem length_blockStarts (first : Nat) (blocks : List (List (AdHocQuery ν))) :
    (blockStarts first blocks).length = blocks.length := by
  induction blocks generalizing first with
  | nil => rfl
  | cons block blocks ih => rw [blockStarts, List.length_cons, List.length_cons, ih]

/-- The first block begins at the first index. -/
theorem getD_blockStarts (first : Nat) {blocks : List (List (AdHocQuery ν))}
    (several : 2 ≤ blocks.length) : (blockStarts first blocks).getD 0 0 = first := by
  match blocks, several with
  | _ :: _, _ => rfl

/-- Blocks that are not empty begin at positions that increase. -/
theorem increasing_blockStarts (first : Nat) {blocks : List (List (AdHocQuery ν))}
    (occupied : ∀ block ∈ blocks, block ≠ []) :
    Increasing (blockStarts first blocks) (first + blocks.flatten.length) ∧
      ∀ index ∈ blockStarts first blocks, first ≤ index := by
  induction blocks generalizing first with
  | nil => exact ⟨⟨.nil, nofun⟩, nofun⟩
  | cons block blocks ih =>
      obtain ⟨some, occupiedRest⟩ := List.forall_mem_cons.mp occupied
      have positive := List.length_pos_iff.mpr some
      obtain ⟨⟨pairwise, inside⟩, behind⟩ := ih (first + block.length) occupiedRest
      rw [blockStarts, List.flatten_cons, List.length_append, ← Nat.add_assoc]
      refine ⟨⟨List.pairwise_cons.mpr ⟨fun index member => ?_, pairwise⟩, ?_⟩, ?_⟩
      · have atLeast := behind index member
        omega
      · intro index member
        rcases List.mem_cons.mp member with rfl | later
        · omega
        · exact inside index later
      · intro index member
        rcases List.mem_cons.mp member with rfl | later
        · exact Nat.le_refl _
        · exact Nat.le_of_add_right_le (behind index later)

/-- The queries end in blocks with known conditions: the indexes tell where the blocks
begin, and parameters have one value and belong to one block. -/
structure InBlocks (conditionsOf : AdHocQuery ν → List ByteString)
    (before : List (AdHocQuery ν)) (blocks : List (List (AdHocQuery ν)))
    (state : FilterState ν) : Prop where
  queries : state.queries = before ++ blocks.flatten
  indexes : state.orQueryIndexes = blockStarts before.length blocks
  several : 2 ≤ blocks.length
  occupied : ∀ block ∈ blocks, block ≠ []
  singleValued : ∀ query ∈ blocks.flatten, SingleValued query
  lower : ∀ query ∈ blocks.flatten, LowerNames query.params
  disjoint : blocks.Pairwise fun block block' => ∀ query ∈ block, ∀ query' ∈ block',
    (queryNames query).Disjoint (queryNames query')
  filters : ∀ query ∈ blocks.flatten, query.filterExpression = renderFilter (conditionsOf query)

/-- The query has the parameters and the conditions of the chosen ones, and no others. -/
structure IsUnion (conditionsOf : AdHocQuery ν → List ByteString) (chosen : List (AdHocQuery ν))
    (query : AdHocQuery ν) : Prop where
  params : paramPairs query.params = (chosen.map fun other => paramPairs other.params).sum
  filter : ∃ texts : List ByteString, texts.Perm (chosen.flatMap conditionsOf) ∧
    query.filterExpression = renderFilter texts

section

variable {conditionsOf : AdHocQuery ν → List ByteString}

/-- What a query with known conditions carries. -/
def contentOf (conditionsOf : AdHocQuery ν → List ByteString) (query : AdHocQuery ν) :
    Multiset (Contribution ν) :=
  (paramPairs query.params).map (fun pair => .parameter pair.1 pair.2) +
    (conditionsOf query : Multiset ByteString).map .condition

/-- The parameters of a query are in its content. -/
theorem parameters_contentOf (query : AdHocQuery ν) :
    parameters (contentOf conditionsOf query) = paramPairs query.params := by
  have none : ∀ texts : Multiset ByteString,
      parameters (texts.map (.condition : ByteString → Contribution ν)) = 0 := by
    intro texts
    rw [parameters, Multiset.filterMap_map]
    refine Multiset.eq_zero_of_forall_notMem fun pair member => ?_
    obtain ⟨text, _, isPair⟩ := (Multiset.mem_filterMap _ _).mp member
    cases isPair
  rw [contentOf, parameters_add, none, add_zero, parameters, Multiset.filterMap_map]
  exact Multiset.filterMap_some _

/-- The conditions of a query are in its content. -/
theorem conditions_contentOf (query : AdHocQuery ν) :
    conditions (contentOf conditionsOf query) = ↑(conditionsOf query) := by
  have none : ∀ pairs : Multiset (ByteString × ν),
      conditions (pairs.map fun pair => .parameter pair.1 pair.2) = 0 := by
    intro pairs
    rw [conditions, Multiset.filterMap_map]
    refine Multiset.eq_zero_of_forall_notMem fun text member => ?_
    obtain ⟨pair, _, isText⟩ := (Multiset.mem_filterMap _ _).mp member
    cases isText
  rw [contentOf, conditions_add, none, zero_add, conditions, Multiset.filterMap_map]
  exact Multiset.filterMap_some _

/-- A query carries its content. -/
theorem carries_contentOf {query : AdHocQuery ν} (lower : LowerNames query.params)
    (filter : query.filterExpression = renderFilter (conditionsOf query)) :
    Carries query (contentOf conditionsOf query) :=
  ⟨(parameters_contentOf query).symm, lower, conditionsOf query, (conditions_contentOf query).symm,
    filter⟩

/-- The parameters of several queries are put together. -/
theorem parameters_sum (chosen : List (AdHocQuery ν)) :
    parameters (chosen.map (contentOf conditionsOf)).sum =
      (chosen.map fun other => paramPairs other.params).sum := by
  induction chosen with
  | nil => rfl
  | cons query chosen ih =>
      rw [List.map_cons, List.sum_cons, parameters_add, parameters_contentOf, ih, List.map_cons,
        List.sum_cons]

/-- The conditions of several queries are put together. -/
theorem conditions_sum (chosen : List (AdHocQuery ν)) :
    conditions (chosen.map (contentOf conditionsOf)).sum = ↑(chosen.flatMap conditionsOf) := by
  induction chosen with
  | nil => rfl
  | cons query chosen ih =>
      rw [List.map_cons, List.sum_cons, conditions_add, conditions_contentOf, ih, List.flatMap_cons,
        Multiset.coe_add]

/-- A query that carries what the chosen ones carry is their union. -/
theorem isUnion_of_carries {chosen : List (AdHocQuery ν)} {query : AdHocQuery ν}
    (carries : Carries query (chosen.map (contentOf conditionsOf)).sum) :
    IsUnion conditionsOf chosen query := by
  obtain ⟨pairs, _, texts, sameTexts, rendered⟩ := carries
  rw [parameters_sum] at pairs
  rw [conditions_sum] at sameTexts
  exact ⟨pairs, texts, Multiset.coe_eq_coe.mp sameTexts, rendered⟩

/-! ### Choices -/

/-- Blocks without repetitions have no choice twice. -/
theorem nodup_sections {α : Type} {lists : List (List α)} (nodup : ∀ list ∈ lists, list.Nodup) :
    lists.sections.Nodup := by
  induction lists with
  | nil => exact List.nodup_singleton []
  | cons list lists ih =>
      obtain ⟨nodupFirst, nodupRest⟩ := List.forall_mem_cons.mp nodup
      rw [List.sections, List.nodup_flatMap]
      refine ⟨fun chosen _ => nodupFirst.map fun _ _ same => (List.cons.inj same).1, ?_⟩
      refine (ih nodupRest).imp fun {chosen chosen'} different together inFirst inSecond => ?_
      obtain ⟨_, _, rfl⟩ := List.mem_map.mp inFirst
      obtain ⟨_, _, same⟩ := List.mem_map.mp inSecond
      exact different (List.cons.inj same).2.symm

/-- A change of the items changes the choices among them. -/
theorem sections_map {α β : Type} (change : α → β) (lists : List (List α)) :
    (lists.map (List.map change)).sections = lists.sections.map (List.map change) := by
  induction lists with
  | nil => rfl
  | cons list lists ih =>
      rw [List.map_cons, List.sections, ih, List.sections, List.map_flatMap, List.flatMap_map]
      simp only [List.map_map, Function.comp_def, List.map_cons]

/-! ### Combining blocks -/

/-- What the queries of blocks carry. -/
def contentsOf (conditionsOf : AdHocQuery ν → List ByteString)
    (blocks : List (List (AdHocQuery ν))) : List (List (Multiset (Contribution ν))) :=
  blocks.map (List.map (contentOf conditionsOf))

/-- The contents begin where the blocks do. -/
theorem starts_contentsOf (first : Nat) (blocks : List (List (AdHocQuery ν))) :
    starts first (contentsOf conditionsOf blocks) = blockStarts first blocks := by
  induction blocks generalizing first with
  | nil => rfl
  | cons block blocks ih =>
      rw [contentsOf, List.map_cons, starts, List.length_map, blockStarts]
      exact congrArg (first :: ·) (ih _)

/-- The conjunction of what the blocks carry is what the choices carry. -/
theorem conjoinAll_contentsOf (blocks : List (List (AdHocQuery ν))) :
    DisjunctiveForm.conjoinAll ((contentsOf conditionsOf blocks).map Multiset.ofList) =
      ↑(blocks.sections.map fun chosen => (chosen.map (contentOf conditionsOf)).sum) := by
  rw [DisjunctiveForm.conjoinAll_coe, contentsOf, sections_map, List.map_map]
  rfl

namespace InBlocks

variable {before : List (AdHocQuery ν)} {blocks : List (List (AdHocQuery ν))}
  {state : FilterState ν}

/-- Blocks of queries can be combined. -/
theorem combining (inBlocks : InBlocks conditionsOf before blocks state) (distinct : Distinct state)
    {andQuery : AdHocQuery ν} (present : andQuery ∈ before) :
    Combining andQuery before blocks.flatten [] (contentsOf conditionsOf blocks) state := by
  refine ⟨distinct, present, ?_, ?_, ?_⟩
  · rw [inBlocks.queries, List.append_nil]
  · rw [contentsOf, ← List.map_flatten, List.forall₂_map_right_iff, List.forall₂_same]
    exact fun query member =>
      carries_contentOf (inBlocks.lower query member) (inBlocks.filters query member)
  · rw [inBlocks.indexes, starts_contentsOf]

/-- Blocks of queries without parameters contribute none. -/
theorem withoutParameters {blocks : List (List (AdHocQuery ν))}
    (none : ∀ query ∈ blocks.flatten, HasNoParams query) :
    ∀ contents ∈ contentsOf conditionsOf blocks,
      WithoutParameters (contents : DisjunctiveForm (Contribution ν)) := by
  intro contents member content inContents
  obtain ⟨block, inList, rfl⟩ := List.mem_map.mp member
  obtain ⟨query, inBlock, rfl⟩ := List.mem_map.mp (Multiset.mem_coe.mp inContents)
  rw [parameters_contentOf, paramPairs, none query (List.mem_flatten_of_mem inList inBlock)]
  rfl

/-- No choice among the blocks is made twice. -/
theorem nodup_choices (inBlocks : InBlocks conditionsOf before blocks state)
    (distinct : Distinct state) : blocks.sections.Nodup := by
  have nodup := List.Nodup.of_map _ distinct.nodup
  rw [inBlocks.queries] at nodup
  have nodupBlocks := (List.nodup_append.mp nodup).2.1
  exact nodup_sections fun block member => (List.nodup_flatten.mp nodupBlocks).1 block member

end InBlocks

/-- The blocks are replaced by new queries, one for each choice of a query from every block,
and each is the union of the chosen ones. -/
def IsProduct (caseSensitiveParams : Bool) (conditionsOf : AdHocQuery ν → List ByteString)
    (andQuery : AdHocQuery ν) (before : List (AdHocQuery ν)) (blocks : List (List (AdHocQuery ν)))
    (state : FilterState ν) : Prop :=
  ∃ result combined choices,
    combineOrQueries caseSensitiveParams andQuery.address state = .ok result ∧
    result.queries = before ++ combined ∧
    (∀ query ∈ combined, ∀ old ∈ blocks.flatten, query.address ≠ old.address) ∧
    choices.Nodup ∧ (∀ chosen, chosen ∈ choices ↔ List.Forall₂ (· ∈ ·) chosen blocks) ∧
    List.Forall₂ (IsUnion conditionsOf) choices combined

/-- Without parameters the combination is the Cartesian product of the blocks. -/
theorem isProduct_of_hasNoParams (caseSensitiveParams : Bool) {state : FilterState ν}
    (distinct : Distinct state) {andQuery : AdHocQuery ν} {before : List (AdHocQuery ν)}
    (present : andQuery ∈ before) {blocks : List (List (AdHocQuery ν))}
    (inBlocks : InBlocks conditionsOf before blocks state)
    (none : ∀ query ∈ blocks.flatten, HasNoParams query) :
    IsProduct caseSensitiveParams conditionsOf andQuery before blocks state := by
  have several : 2 ≤ (contentsOf conditionsOf blocks).length := by
    rw [contentsOf, List.length_map]
    exact inBlocks.several
  have meets := @combineOrQueries_holds _ caseSensitiveParams (fun _ => False) _ _ _ _ _ several
    (InBlocks.withoutParameters none) (inBlocks.combining distinct present)
  cases ran : combineOrQueries caseSensitiveParams andQuery.address state with
  | error failure =>
      rw [ran] at meets
      exact meets.elim
  | ok result =>
      obtain ⟨combined, queries, _, replaced, contents, carries, isForm⟩ := meets.of_ok ran
      rw [conjoinAll_contentsOf] at isForm
      -- The order of the queries is that of some list of all choices.
      have reordered : ∃ choices : List (List (AdHocQuery ν)), contents = choices.map (fun chosen =>
          (chosen.map (contentOf conditionsOf)).sum) ∧ choices.Perm blocks.sections := by
        have commutes := congrFun₂ (List.eq_map_comp_perm fun chosen : List (AdHocQuery ν) =>
          (chosen.map (contentOf conditionsOf)).sum) contents blocks.sections
        exact commutes.mpr (Multiset.coe_eq_coe.mp isForm)
      obtain ⟨choices, rfl, perm⟩ := reordered
      refine ⟨result, combined, choices, ran, queries, replaced,
        perm.nodup_iff.mpr (inBlocks.nodup_choices distinct), fun chosen => ?_, ?_⟩
      · rw [perm.mem_iff, List.mem_sections]
      · rw [List.forall₂_map_right_iff] at carries
        exact carries.flip.imp fun _ _ => isUnion_of_carries

/-- If the blocks can be combined none of their queries has parameters. -/
theorem hasNoParams_of_combined {caseSensitiveParams : Bool} {state result : FilterState ν}
    {andQuery : AdHocQuery ν} {before : List (AdHocQuery ν)} (present : andQuery ∈ before)
    {blocks : List (List (AdHocQuery ν))} (inBlocks : InBlocks conditionsOf before blocks state)
    (ran : combineOrQueries caseSensitiveParams andQuery.address state = .ok result) :
    ∀ query ∈ blocks.flatten, HasNoParams query := by
  have size : state.queries.length = before.length + blocks.flatten.length := by
    rw [inBlocks.queries, List.length_append]
  have inState : andQuery.address ∈ state.addresses := by
    rw [FilterState.addresses, inBlocks.queries, List.map_append]
    exact List.mem_append_left _ (List.mem_map_of_mem present)
  have increasing : Increasing state.orQueryIndexes state.queries.length := by
    rw [inBlocks.indexes, size]
    exact (increasing_blockStarts before.length inBlocks.occupied).1
  have several : 2 ≤ state.orQueryIndexes.length := by
    rw [inBlocks.indexes, length_blockStarts]
    exact inBlocks.several
  have first : state.orQueryIndexes.getD 0 0 = before.length := by
    rw [inBlocks.indexes]
    exact getD_blockStarts before.length inBlocks.several
  obtain ⟨_, _, _, none⟩ :=
    (combineOrQueries_replaces inState increasing several).of_ok ran
  intro query member
  obtain ⟨index, inside, isQuery⟩ := List.mem_iff_getElem.mp member
  obtain ⟨found, stands, noParams⟩ := none (before.length + index) (by omega) (by omega)
  rw [inBlocks.queries, List.getElem?_append_right (Nat.le_add_right _ _), Nat.add_sub_cancel_left,
    List.getElem?_eq_getElem inside, isQuery] at stands
  rw [Option.some.inj stands]
  exact noParams

/-- The combination of the blocks is their product exactly if no query in them has
parameters. -/
theorem combineOrQueries_isProduct_iff (caseSensitiveParams : Bool)
    (conditionsOf : AdHocQuery ν → List ByteString) {state : FilterState ν}
    (distinct : Distinct state) {andQuery : AdHocQuery ν} {before : List (AdHocQuery ν)}
    (present : andQuery ∈ before) {blocks : List (List (AdHocQuery ν))}
    (inBlocks : InBlocks conditionsOf before blocks state) :
    IsProduct caseSensitiveParams conditionsOf andQuery before blocks state ↔
      ∀ query ∈ blocks.flatten, HasNoParams query := by
  constructor
  · intro ⟨_, _, _, ran, _⟩
    exact hasNoParams_of_combined present inBlocks ran
  · exact isProduct_of_hasNoParams caseSensitiveParams distinct present inBlocks

/-- A query with conditions, rendered as its filter expression. -/
def conditionQuery (address : Nat) (texts : List ByteString) : AdHocQuery Nat :=
  ⟨address, .empty false, renderFilter texts, []⟩

/-- A comparison or another in one OR element, and a third in the next one. -/
def comparisonBlocks : List (List (AdHocQuery Nat)) :=
  [[conditionQuery 1 [ascii "descendant::x = 1"], conditionQuery 2 [ascii "descendant::x = 2"]],
    [conditionQuery 3 [ascii "descendant::y = 3", ascii "descendant::z = 4"]]]

/-- The conditions of the queries at the addresses. -/
def comparisonsAt (query : AdHocQuery Nat) : List ByteString :=
  if query.address = 1 then [ascii "descendant::x = 1"]
  else if query.address = 2 then [ascii "descendant::x = 2"]
  else if query.address = 3 then [ascii "descendant::y = 3", ascii "descendant::z = 4"]
  else []

/-- The product of blocks of comparisons. -/
theorem comparisonBlocks_isProduct :
    IsProduct false comparisonsAt (.create false 0) [.create false 0] comparisonBlocks
      ⟨[.create false 0] ++ comparisonBlocks.flatten, 4, [1, 3]⟩ := by
  have inBlocks : InBlocks comparisonsAt [.create false 0] comparisonBlocks
      ⟨[.create false 0] ++ comparisonBlocks.flatten, 4, [1, 3]⟩ := by
    refine ⟨rfl, rfl, by decide, ?_, ?_, ?_, ?_, ?_⟩
    · simp [comparisonBlocks]
    · unfold SingleValued
      decide
    · unfold LowerNames
      decide
    · simp only [List.disjoint_left]
      decide
    · decide
  have distinct : Distinct (⟨[.create false 0] ++ comparisonBlocks.flatten, 4, [1, 3]⟩ :
      FilterState Nat) := ⟨by decide, by decide⟩
  have none : ∀ query ∈ comparisonBlocks.flatten, HasNoParams query := by
    intro query member
    simp only [comparisonBlocks, List.flatten_cons, List.flatten_nil, List.append_nil,
      List.cons_append, List.nil_append, List.mem_cons, List.not_mem_nil, or_false] at member
    rcases member with rfl | rfl | rfl <;> rfl
  exact (combineOrQueries_isProduct_iff false comparisonsAt distinct List.mem_cons_self
    inBlocks).mpr none

/-- Two areas in one OR element, and a time or a condition in another. -/
def areasAndTimes : List (List (AdHocQuery Nat)) :=
  [[⟨1, (RequestParameterMap.empty false).insertValue (ascii "bbox") 10, [], []⟩,
      ⟨2, (RequestParameterMap.empty false).insertValue (ascii "bbox") 20, [], []⟩],
    [⟨3, (RequestParameterMap.empty false).insertValue (ascii "starttime") 30, [], []⟩,
      conditionQuery 4 [ascii "descendant::x = 1"]]]

/-- The conditions of the queries at the addresses. -/
def conditionsAt (query : AdHocQuery Nat) : List ByteString :=
  if query.address = 4 then [ascii "descendant::x = 1"] else []

/-- The first area is read after it has been destroyed. -/
theorem areasAndTimes_notProduct :
    InBlocks conditionsAt [.create false 0] areasAndTimes
        ⟨[.create false 0] ++ areasAndTimes.flatten, 5, [1, 3]⟩ ∧
      ¬ IsProduct false conditionsAt (.create false 0) [.create false 0] areasAndTimes
        ⟨[.create false 0] ++ areasAndTimes.flatten, 5, [1, 3]⟩ := by
  constructor
  · refine ⟨rfl, rfl, by decide, ?_, ?_, ?_, ?_, ?_⟩
    · simp [areasAndTimes]
    · unfold SingleValued
      decide
    · unfold LowerNames
      decide
    · simp only [List.disjoint_left]
      decide
    · decide
  · intro ⟨result, _, _, ran, _⟩
    have fails : (combineOrQueries false 0
        (⟨[.create false 0] ++ areasAndTimes.flatten, 5, [1, 3]⟩ :
          FilterState Nat)).toOption.isSome =
          false := by decide
    change combineOrQueries false 0 _ = _ at ran
    rw [ran] at fails
    cases fails

end

end SmartMetWfs.AdHoc
