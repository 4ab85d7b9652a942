import SmartMetWfs.AdHoc.Sharing

/-!
# The queries of a separable filter

The walk of a separable filter leaves one query for each conjunction of the filter's
disjunctive form. A filter that is given a query of its own is walked below
`extractFilterElement_own`, the children of an OR element below
`extractFilterElements_taken` and those of an AND element below
`extractFilterElements_walking`.
-/

namespace SmartMetWfs.AdHoc

open Foundation Parameters FilterTree

variable {ν : Type} {reader : XmlReader ν} {config : StoredQueryConfig ν}
  {caseSensitiveParams : Bool}

/-- The queries of filters have been added to the list. -/
structure Added (queries : List (AdHocQuery ν)) (form : DisjunctiveForm (Contribution ν))
    (result : FilterState ν) : Prop where
  distinct : Distinct result
  queries : ∃ added, result.queries = queries ++ added ∧ Holds added form
  nonzero : ∀ conjunction ∈ form, conjunction ≠ 0

/-- Queries that carry something are taken. -/
theorem taken_of_carries {state : FilterState ν} {before added : List (AdHocQuery ν)}
    {contents : List (Multiset (Contribution ν))} (queries : state.queries = before ++ added)
    (some : added ≠ []) (carries : List.Forall₂ Carries added contents)
    (nonzero : ∀ content ∈ contents, content ≠ 0) (upperLevelAndQuery : Option Nat) :
    Taken state upperLevelAndQuery := by
  refine ⟨before ++ added.dropLast, added.getLast some, ?_, .inl ?_⟩
  · rw [queries, List.append_assoc, List.dropLast_append_getLast]
  · obtain ⟨content, inContents, carriesLast⟩ :=
      exists_of_mem_forall₂ carries (List.getLast_mem some)
    exact carriesLast.isQueryUsed_iff.mpr (nonzero content inContents)

/-- Queries that were added are behind those that were there. -/
theorem Added.taken {queries : List (AdHocQuery ν)} {form : DisjunctiveForm (Contribution ν)}
    {state : FilterState ν} (added : Added queries form state) (some : form ≠ 0)
    (upperLevelAndQuery : Option Nat) : Taken state upperLevelAndQuery := by
  obtain ⟨_, ⟨news, split, contents, carries, rfl⟩, nonzero⟩ := added
  refine taken_of_carries split ?_ carries nonzero upperLevelAndQuery
  rintro rfl
  rw [List.forall₂_nil_left_iff.mp carries] at some
  exact some rfl

theorem Added.trans {queries : List (AdHocQuery ν)} {form form' : DisjunctiveForm (Contribution ν)}
    {state state' : FilterState ν} (added : Added queries form state)
    (added' : Added state.queries form' state') : Added queries (form + form') state' := by
  obtain ⟨_, ⟨news, split, holds⟩, nonzero⟩ := added
  obtain ⟨distinct, ⟨news', split', holds'⟩, nonzero'⟩ := added'
  refine ⟨distinct, ⟨news ++ news', ?_, holds.append holds'⟩, fun conjunction member => ?_⟩
  · rw [split', split, List.append_assoc]
  · rcases Multiset.mem_add.mp member with inFirst | inSecond
    · exact nonzero conjunction inFirst
    · exact nonzero' conjunction inSecond

/-! ### The children of an AND element -/

/-- The list while the children of an AND element are walked: its query, and behind it the
sets of queries of the OR elements so far. The query has no parameters if there are OR
elements, as it is copied to their queries, and these have none if there are several, as
they are combined. -/
structure Walking (someOr severalOr : Bool) (before : List (AdHocQuery ν)) (andQuery : AdHocQuery ν)
    (part : List (AdHocQuery ν)) (content : Multiset (Contribution ν))
    (sets : List (List (Multiset (Contribution ν)))) (state : FilterState ν) : Prop where
  distinct : Distinct state
  queries : state.queries = before ++ andQuery :: part
  carriesAnd : Carries andQuery content
  carries : List.Forall₂ Carries part sets.flatten
  occupied : ∀ contents ∈ sets, contents ≠ []
  nonzero : ∀ conjunction ∈ sets.flatten, conjunction ≠ 0
  indexes : severalOr = true → sets ≠ [] → state.orQueryIndexes = starts (before.length + 1) sets
  ownWithout : someOr = true → parameters content = 0
  setsWithout : severalOr = true →
    ∀ contents ∈ sets, WithoutParameters (contents : DisjunctiveForm (Contribution ν))

/-- What an AND element asks for so far. -/
def formSoFar (content : Multiset (Contribution ν))
    (sets : List (List (Multiset (Contribution ν)))) : DisjunctiveForm (Contribution ν) :=
  DisjunctiveForm.conjoin {content} (DisjunctiveForm.conjoinAll (sets.map Multiset.ofList))

/-- A contribution to the reserved query is in every conjunction. -/
theorem formSoFar_add (content own : Multiset (Contribution ν))
    (sets : List (List (Multiset (Contribution ν)))) :
    formSoFar (content + own) sets = (formSoFar content sets).conjoin {own} := by
  have split : ({content + own} : DisjunctiveForm (Contribution ν)) =
      DisjunctiveForm.conjoin {content} {own} := by
    rw [DisjunctiveForm.singleton_conjoin, Multiset.map_singleton]
  unfold formSoFar
  rw [split, DisjunctiveForm.conjoin_assoc, DisjunctiveForm.conjoin_assoc,
    DisjunctiveForm.conjoin_comm {own}]

/-- One more set of alternatives. -/
theorem formSoFar_concat (content : Multiset (Contribution ν))
    (sets : List (List (Multiset (Contribution ν)))) (contents : List (Multiset (Contribution ν))) :
    formSoFar content (sets ++ [contents]) = (formSoFar content sets).conjoin contents := by
  unfold formSoFar
  rw [List.map_append, DisjunctiveForm.conjoinAll_append, DisjunctiveForm.conjoin_assoc,
    List.map_singleton, DisjunctiveForm.conjoinAll, DisjunctiveForm.conjoinAll,
    DisjunctiveForm.conjoin_zero_singleton]

/-- One more set begins behind the others. -/
theorem starts_concat (contents : List (Multiset (Contribution ν))) :
    ∀ (offset : Nat) (sets : List (List (Multiset (Contribution ν)))),
      starts offset (sets ++ [contents]) = starts offset sets ++ [offset + sets.flatten.length]
  | _, [] => rfl
  | offset, first :: sets => by
      rw [List.cons_append, starts, starts, starts_concat contents, List.cons_append,
        List.flatten_cons, List.length_append, Nat.add_assoc]

namespace Walking

variable {someOr severalOr : Bool} {before part : List (AdHocQuery ν)}
  {andQuery : AdHocQuery ν} {content : Multiset (Contribution ν)}
  {sets : List (List (Multiset (Contribution ν)))} {state : FilterState ν}

/-- There are queries behind the reserved one when there are sets. -/
theorem part_eq_nil (walking : Walking someOr severalOr before andQuery part content sets state) :
    part = [] ↔ sets = [] := by
  constructor
  · rintro rfl
    have none := List.forall₂_nil_left_iff.mp walking.carries
    cases sets with
    | nil => rfl
    | cons contents sets =>
        exact absurd (List.append_eq_nil_iff.mp none).1
          (walking.occupied contents List.mem_cons_self)
  · rintro rfl
    exact List.forall₂_nil_right_iff.mp walking.carries

/-- The queries up to here are taken: the AND query is reserved for its element. -/
theorem taken (walking : Walking someOr severalOr before andQuery part content sets state) :
    Taken state (some andQuery.address) := by
  cases part with
  | nil => exact ⟨before, andQuery, walking.queries, .inr rfl⟩
  | cons query part =>
      have queries : state.queries = (before ++ [andQuery]) ++ query :: part := by
        rw [walking.queries, List.append_assoc]
        rfl
      exact taken_of_carries queries (List.cons_ne_nil query part) walking.carries walking.nonzero _

/-- A leaf or an AND element has added something to the AND query. -/
theorem written (walking : Walking someOr severalOr before andQuery part content sets state)
    {written : AdHocQuery ν} {own : Multiset (Contribution ν)}
    (carriesWritten : Carries written (content + own))
    (ownWithout : someOr = true → parameters own = 0) {result : FilterState ν}
    (distinct : Distinct result) (queries : result.queries = before ++ written :: part)
    (same : sets ≠ [] → result.orQueryIndexes = state.orQueryIndexes) :
    Walking someOr severalOr before written part (content + own) sets result :=
  ⟨distinct, queries, carriesWritten, walking.carries, walking.occupied, walking.nonzero,
    fun isSeveral some => (same some).trans (walking.indexes isSeveral some),
    fun isSome => parameters_add_eq_zero.mpr ⟨walking.ownWithout isSome, ownWithout isSome⟩,
    walking.setsWithout⟩

/-- An OR element has added its queries. -/
theorem added (walking : Walking someOr severalOr before andQuery part content sets state)
    {form : DisjunctiveForm (Contribution ν)} (some : form ≠ 0) {result : FilterState ν}
    (added : Added state.queries form result)
    (formWithout : severalOr = true → WithoutParameters form)
    (stored : severalOr = true → (sets = [] → state.orQueryIndexes = []) ∧
      result.orQueryIndexes = state.orQueryIndexes ++ [state.queries.length]) :
    ∃ part', ∃ contents : List (Multiset (Contribution ν)), ↑contents = form ∧
      Walking someOr severalOr before andQuery part' content (sets ++ [contents]) result := by
  obtain ⟨distinct, ⟨news, split, contents, carries, rfl⟩, nonzero⟩ := added
  refine ⟨part ++ news, contents, rfl, distinct, ?_, walking.carriesAnd, ?_, ?_, ?_, ?_,
    walking.ownWithout, ?_⟩
  · rw [split, walking.queries, List.append_assoc, List.cons_append]
  · rw [List.flatten_append, List.flatten_singleton]
    exact List.rel_append walking.carries carries
  · intro other member
    rcases List.mem_append.mp member with old | new
    · exact walking.occupied other old
    · rw [List.mem_singleton.mp new]
      exact fun none => some (Multiset.coe_eq_zero _ |>.mpr none)
  · intro other member
    rw [List.flatten_append, List.flatten_singleton] at member
    rcases List.mem_append.mp member with old | new
    · exact walking.nonzero other old
    · exact nonzero other new
  · intro isSeveral _
    obtain ⟨fresh, appended⟩ := stored isSeveral
    have position : state.queries.length = before.length + 1 + sets.flatten.length := by
      rw [walking.queries, List.length_append, List.length_cons, walking.carries.length_eq]
      omega
    have old : state.orQueryIndexes = starts (before.length + 1) sets := by
      by_cases none : sets = []
      · rw [fresh none, none]
        rfl
      · exact walking.indexes isSeveral none
    rw [appended, old, position, starts_concat]
  · intro isSeveral other member
    rcases List.mem_append.mp member with old | new
    · exact walking.setsWithout isSeveral other old
    · rw [List.mem_singleton.mp new]
      exact formWithout isSeveral

/-- The sets at the end of the AND element. -/
theorem isSets (walking : Walking someOr severalOr before andQuery part content sets state)
    (isSeveral : severalOr = true ↔ 2 ≤ sets.length)
    (few : severalOr = true ∨ state.orQueryIndexes.length ≤ 1) :
    Sets (before.length + 1) state.orQueryIndexes sets := by
  refine ⟨walking.occupied, ?_⟩
  by_cases many : 2 ≤ sets.length
  · rw [if_pos many]
    refine walking.indexes (isSeveral.mpr many) ?_
    rintro rfl
    exact absurd many (Nat.not_succ_le_zero 1)
  · rw [if_neg many]
    exact Nat.lt_succ_of_le (few.resolve_left fun yes => many (isSeveral.mp yes))

/-- The end of an AND element whose children have been walked. -/
theorem ended (walking : Walking someOr severalOr before andQuery part content sets state)
    (isSome : sets ≠ [] → someOr = true) (isSeveral : severalOr = true ↔ 2 ≤ sets.length)
    (few : severalOr = true ∨ state.orQueryIndexes.length ≤ 1)
    (nonzero : ∀ conjunction ∈ formSoFar content sets, conjunction ≠ 0)
    (caseSensitiveParams : Bool) :
    Meets LeafRefused
      (handleEndOfAndElement caseSensitiveParams andQuery.address before.length state) fun result =>
      Added before (formSoFar content sets) result ∧ result.orQueryIndexes = [] := by
  have some : sets = [] → content ≠ 0 := by
    intro none
    refine nonzero content ?_
    rw [none, formSoFar, List.map_nil, DisjunctiveForm.conjoinAll,
      DisjunctiveForm.conjoin_zero_singleton]
    exact Multiset.mem_singleton_self content
  refine (@handleEndOfAndElement_holds _ caseSensitiveParams LeafRefused _ walking.distinct _ _ _
    walking.queries _ walking.carriesAnd _ (walking.isSets isSeveral few) walking.carries some
    (fun some => walking.ownWithout (isSome some))
    (fun many => walking.setsWithout (isSeveral.mpr many))).imp ?_
  rintro result ⟨added, queriesAfter, cleared, distinctAfter, holds⟩
  exact ⟨⟨distinctAfter, ⟨added, queriesAfter, holds⟩, nonzero⟩, cleared⟩

end Walking

/-! ### The walk -/

/-- A filter in this place is walked with a query of its own. -/
def Own (elementTree : List ByteString) (upperLevelAndQuery : Option Nat) : Prop :=
  (upperLevelAndQuery = none ∧ elementTree.head? ≠ some (ascii "fes:and")) ∨
    elementTree.head? = some (ascii "fes:or")

/-- The queries of the children are the element's own. -/
theorem Own.below {elementTree : List ByteString} {upperLevelAndQuery : Option Nat}
    (own : Own elementTree upperLevelAndQuery) :
    (if elementTree.head? ≠ some (ascii "fes:or") then upperLevelAndQuery else none) = none ∧
      elementTree.head? ≠ some (ascii "fes:and") := by
  rcases own with ⟨rfl, notAnd⟩ | inside
  · exact ⟨ite_self _, notAnd⟩
  · rw [inside]
    exact ⟨if_neg (not_not.mpr rfl), by decide⟩

mutual

/-- No index is stored or removed in a filter without AND elements. -/
theorem pendingAfter_of_andFree (tree : FilterTree) :
    ∀ pending : Nat, tree.andFree = true → tree.pendingAfter pending = some pending := by
  intro pending isAndFree
  match tree, isAndFree with
  | .leaf _, _ => rfl
  | .or _ children, isAndFree => exact pendingAfterOr_of_andFree children pending isAndFree

/-- Without AND elements nothing is pending after an OR element. -/
theorem pendingAfterOr_of_andFree (children : List FilterTree) :
    ∀ pending : Nat, allAndFree children = true →
      pendingAfterOr false pending children = some pending := by
  intro pending isAndFree
  match children, isAndFree with
  | [], _ => rfl
  | tree :: rest, isAndFree =>
      rw [allAndFree, Bool.and_eq_true] at isAndFree
      rw [pendingAfterOr, Bool.false_and, if_neg Bool.false_ne_true,
        pendingAfter_of_andFree tree pending isAndFree.1, Bool.false_and]
      exact pendingAfterOr_of_andFree rest pending isAndFree.2

end

/-- An OR element among several stores one index. -/
theorem pendingAfterOr_of_startsWithLeaf {children : List FilterTree} (pending : Nat)
    (leafFirst : startsWithLeaf children = true) (isAndFree : allAndFree children = true) :
    pendingAfterOr true pending children = some (pending + 1) := by
  match children, leafFirst, isAndFree with
  | .leaf _ :: rest, _, isAndFree =>
      rw [allAndFree, Bool.and_eq_true] at isAndFree
      exact pendingAfterOr_of_andFree rest (pending + 1) isAndFree.2

/-- An OR element below an AND element. Where there are several, the first one finds no index
pending, and each begins with a leaf. -/
theorem pendingAfterOr_of_child {severalOr : Bool} {sets : List (List (Multiset (Contribution ν)))}
    {indexes : List Nat} {after : Nat} {operator : Operator (ascii "fes:or")}
    {children : List FilterTree}
    (pending : pendingAfterChild severalOr (0 < sets.length) indexes.length
    (.or operator children) =
      some after) :
    pendingAfterOr true indexes.length children = some after ∧
      (severalOr = true → (sets = [] → indexes = []) ∧ startsWithLeaf children = true ∧
        allAndFree children = true) := by
  rw [pendingAfterChild] at pending
  cases severalOr with
  | false => exact ⟨pending, nofun⟩
  | true =>
      rw [if_pos rfl] at pending
      split at pending
      · next conditions =>
          rw [Bool.and_eq_true, Bool.and_eq_true, Bool.or_eq_true, decide_eq_true_eq,
            decide_eq_true_eq, List.length_pos_iff, List.length_eq_zero_iff] at conditions
          obtain ⟨⟨fresh, leafFirst⟩, isAndFree⟩ := conditions
          refine ⟨?_, fun _ => ⟨fun none => ?_, leafFirst, isAndFree⟩⟩
          · rw [pendingAfterOr_of_startsWithLeaf _ leafFirst isAndFree]
            exact pending
          · exact fresh.resolve_left (not_not.mpr none)
      · cases pending

/-- Inside an OR element of an AND element, the position of the first leaf is stored. -/
theorem storesIndex_eq {tree : FilterTree} {elementTree : List ByteString}
    (proper : Proper reader config (ascii "fes:or" :: elementTree) tree) (level : Level) :
    storesIndex (ascii "fes:or" :: elementTree) tree.element.elementName level =
      ((level.isFirstOrQuery && elementTree.head? = some (ascii "fes:and")) && tree.isLeaf) := by
  rw [Bool.eq_iff_iff, Bool.and_eq_true, Bool.and_eq_true, decide_eq_true_eq, storesIndex,
    decide_eq_true_eq, (elementName_cases proper).2, List.tail_cons, and_assoc]

/-! ### Operands without parameters -/

/-- Beside a tree there is another one with alternatives. -/
theorem exists_or_beside {before after : List FilterTree} {tree : FilterTree}
    (more : (if tree.isOr then 1 else 0) < (before ++ tree :: after).countP isOr) :
    ∃ other ∈ before ++ after, other.orFree = false := by
  rw [List.countP_append, List.countP_cons] at more
  have positive : 0 < (before ++ after).countP isOr := by
    rw [List.countP_append]
    omega
  obtain ⟨other, member, isOther⟩ := List.countP_pos_iff.mp positive
  refine ⟨other, member, ?_⟩
  cases other with
  | leaf _ => cases isOther
  | and _ _ => cases isOther
  | or _ _ => rfl

/-- Where there is an OR element the other operands ask for no parameters. -/
theorem asksNone_beside_or {elementTree : List ByteString} {children : List FilterTree}
    (pairwise : children.Pairwise (Beside reader config elementTree))
    (some : children.any isOr = true)
    {tree : FilterTree} (member : tree ∈ children) (notOr : tree.isOr = false) :
    parametersAsked reader config elementTree tree = 0 := by
  obtain ⟨before, after, rfl⟩ := List.append_of_mem member
  have positive := List.countP_pos_iff.mpr (List.any_eq_true.mp some)
  obtain ⟨other, isBeside, notFree⟩ := @exists_or_beside before after tree (by
    rw [notOr]
    exact positive)
  exact asksNone_of_pairwise pairwise isBeside notFree

/-- Where there are several OR elements no operand asks for parameters. -/
theorem asksNone_of_several {elementTree : List ByteString} {children : List FilterTree}
    (pairwise : children.Pairwise (Beside reader config elementTree))
    (isSeveral : several children = true) {tree : FilterTree} (member : tree ∈ children) :
    parametersAsked reader config elementTree tree = 0 := by
  obtain ⟨before, after, rfl⟩ := List.append_of_mem member
  have two := of_decide_eq_true isSeveral
  obtain ⟨other, isBeside, notFree⟩ := @exists_or_beside before after tree (by
    split <;> omega)
  exact asksNone_of_pairwise pairwise isBeside notFree

/-- What a filter without parameters adds to a query has none. -/
theorem parameters_of_form {elementTree : List ByteString} {tree : FilterTree}
    {own : Multiset (Contribution ν)} (form : dnf reader config elementTree tree = {own})
    (none : parametersAsked reader config elementTree tree = 0) : parameters own = 0 := by
  apply dnf_withoutParameters tree none
  rw [form]
  exact Multiset.mem_singleton_self own

mutual

/-- An element that has queries of its own makes one for each of its conjunctions. -/
theorem extractFilterElement_own (tree : FilterTree) :
    ∀ {elementTree : List ByteString} {upperLevelAndQuery : Option Nat} (level : Level)
      {state : FilterState ν} {before : List (AdHocQuery ν)} {slot : AdHocQuery ν} {after : Nat},
      Own elementTree upperLevelAndQuery → Proper reader config elementTree tree →
      ParametersOnce reader config elementTree tree →
      tree.pendingAfter state.orQueryIndexes.length = some after → Distinct state →
      state.queries = before ++ [slot] → Carries slot 0 →
      Meets LeafRefused
        (extractFilterElement caseSensitiveParams reader config elementTree upperLevelAndQuery level
          state tree.element) fun result =>
        result.1.isFirstOrQuery = level.isFirstOrQuery ∧
          Added before (dnf reader config elementTree tree) result.2 ∧
          result.2.orQueryIndexes.length = after ∧
          (tree.andFree = true → result.2.orQueryIndexes = state.orQueryIndexes) := by
  intro elementTree upperLevelAndQuery level state before slot after own proper once pending
    distinct queries free
  match tree, proper, once, pending with
  | .leaf element, proper, _, pending =>
      rw [Proper] at proper
      have receives : Receives elementTree upperLevelAndQuery slot [] := by
        rcases own with ⟨none, _⟩ | inside
        · exact .inr ⟨.inl none, rfl⟩
        · exact .inr ⟨.inr inside, rfl⟩
      refine (extractFilterElement_leaf caseSensitiveParams element level proper.1 distinct queries
        receives free).imp ?_
      rintro ⟨next, result⟩ ⟨sameFirst, written, content, rfl, sameAddress, isContent, carries⟩
      rw [zero_add] at carries
      have form : dnf reader config elementTree (.leaf element) = {content} := by
        rw [dnf, isContent]
        rfl
      refine ⟨sameFirst, ⟨distinct.replace queries sameAddress _, ?_, ?_⟩, Option.some.inj pending,
        fun _ => rfl⟩
      · exact ⟨[written], rfl, [content], .cons carries .nil, form.symm⟩
      · rintro conjunction member rfl
        rw [form] at member
        exact proper.2 (Multiset.mem_singleton.mp member ▸ isContent)
  | .or operator children, proper, once, pending =>
      rw [Proper] at proper
      rw [ParametersOnce] at once
      have nonempty : children ≠ [] := by
        rintro rfl
        exact absurd proper.1 (Nat.not_succ_le_zero 1)
      rw [FilterTree.element, extractFilterElement_or, own.below.1, dnf]
      refine (extractFilterElements_free children .start own.below.2 nonempty proper.2 once pending
        distinct queries free).bind ?_
      exact fun result holds => ⟨rfl, holds⟩
  | .and operator children, proper, once, pending =>
      rw [Proper] at proper
      rw [ParametersOnce] at once
      rw [pendingAfter] at pending
      split at pending
      · next separable =>
          have nonempty : children ≠ [] := by
            rintro rfl
            exact absurd proper.1 (Nat.not_succ_le_zero 1)
          have index : state.queries.length - 1 = before.length := by
            rw [queries, List.length_append]
            rfl
          have start : Walking (children.any isOr) (several children) before slot [] 0 [] state :=
            ⟨distinct, queries, free, .nil, nofun, nofun, fun _ some =>
              absurd rfl some, fun _ => rfl,
              nofun⟩
          have noneBeside := fun isSome (tree : FilterTree) (member : tree ∈ children) notOr =>
            asksNone_beside_or once.2 isSome member notOr
          have noneOfSeveral := fun isSeveral (tree : FilterTree) (member : tree ∈ children) =>
            asksNone_of_several once.2 isSeveral member
          rw [FilterTree.element, extractFilterElement_and, back_eq queries, index, dnf]
          refine (@extractFilterElements_walking children elementTree .start state _ _ _ _ _ _ []
            proper.2 once.1 noneBeside noneOfSeveral separable start).bind ?_
          intro walked ⟨andQuery, part, content, sets, sameAddress, walking, few, count, form,
            nonzero⟩
          have isSeveral : several children = true ↔ 2 ≤ sets.length := by
            rw [count, List.length_nil, Nat.zero_add, several, decide_eq_true_eq]
          have isSome : sets ≠ [] → children.any isOr = true := by
            intro some
            rw [List.any_eq_true, ← List.countP_pos_iff]
            rw [List.length_nil, Nat.zero_add] at count
            exact count ▸ List.length_pos_iff.mpr some
          have whole : formSoFar content sets =
              conjunction reader config (ascii "fes:and" :: elementTree) children := by
            rw [form, formSoFar, List.map_nil, DisjunctiveForm.conjoinAll,
              DisjunctiveForm.conjoin_zero_singleton, DisjunctiveForm.zero_singleton_conjoin]
          have ended :=
            walking.ended isSome isSeveral few (whole ▸ nonzero nonempty) caseSensitiveParams
          rw [sameAddress, whole] at ended
          refine ended.bind ?_
          intro result ⟨added, cleared⟩
          refine Meets.pure ⟨rfl, added, ?_, nofun⟩
          rw [cleared]
          exact Option.some.inj pending
      · cases pending

/-- The first child of an OR element is given the free query. -/
theorem extractFilterElements_free (children : List FilterTree) :
    ∀ {elementTree : List ByteString} (level : Level) {state : FilterState ν}
      {before : List (AdHocQuery ν)} {slot : AdHocQuery ν} {after : Nat},
      elementTree.head? ≠ some (ascii "fes:and") → children ≠ [] →
      AllProper reader config (ascii "fes:or" :: elementTree) children →
      AllParametersOnce reader config (ascii "fes:or" :: elementTree) children →
      pendingAfterOr false state.orQueryIndexes.length children = some after → Distinct state →
      state.queries = before ++ [slot] → Carries slot 0 →
      Meets LeafRefused
        (extractFilterElements caseSensitiveParams reader config
          (ascii "fes:or" :: elementTree) none
          level state (elements children)) fun result =>
        Added before (alternatives reader config (ascii "fes:or" :: elementTree) children) result ∧
          result.orQueryIndexes.length = after ∧
          (allAndFree children = true → result.orQueryIndexes = state.orQueryIndexes) := by
  intro elementTree level state before slot after notAnd nonempty proper once pending distinct
    queries free
  match children, nonempty, proper, once, pending with
  | tree :: rest, _, proper, once, pending =>
      rw [AllProper] at proper
      rw [AllParametersOnce] at once
      rw [pendingAfterOr, Bool.false_and, if_neg Bool.false_ne_true, Bool.false_and] at pending
      obtain ⟨middle, pendingTree, pendingRest⟩ := Option.bind_eq_some_iff.mp pending
      unfold elements extractFilterElements alternatives
      rw [if_neg (elementName_cases proper.1).1, nextQuery_free _ _ _ queries free]
      refine (extractFilterElement_own tree level (.inr List.head?_cons) proper.1 once.1 pendingTree
        distinct queries free).bind ?_
      intro ⟨nextLevel, next⟩ ⟨_, added, length, sameIndexes⟩
      have stores : (nextLevel.isFirstOrQuery && elementTree.head? = some (ascii "fes:and")) =
          false := by
        rw [decide_eq_false notAnd, Bool.and_false]
      refine (extractFilterElements_taken rest nextLevel stores proper.2 once.2
        (length ▸ pendingRest)
        added.distinct (added.taken (dnf_ne_zero tree proper.1) none)).imp ?_
      intro result ⟨addedRest, lengthRest, sameRest⟩
      refine ⟨added.trans addedRest, lengthRest, fun isAndFree => ?_⟩
      rw [allAndFree, Bool.and_eq_true] at isAndFree
      rw [sameRest isAndFree.2 nofun, if_neg Bool.false_ne_true, List.append_nil,
        sameIndexes isAndFree.1]

/-- The children of an OR element are given new queries. -/
theorem extractFilterElements_taken (children : List FilterTree) :
    ∀ {elementTree : List ByteString} {upperLevelAndQuery : Option Nat} (level : Level)
      {state : FilterState ν} {stores : Bool} {after : Nat},
      (level.isFirstOrQuery && elementTree.head? = some (ascii "fes:and")) = stores →
      AllProper reader config (ascii "fes:or" :: elementTree) children →
      AllParametersOnce reader config (ascii "fes:or" :: elementTree) children →
      pendingAfterOr stores state.orQueryIndexes.length children = some after → Distinct state →
      Taken state upperLevelAndQuery →
      Meets LeafRefused
        (extractFilterElements caseSensitiveParams reader config (ascii "fes:or" :: elementTree)
          upperLevelAndQuery level state (elements children)) fun result =>
        Added state.queries (alternatives reader config (ascii "fes:or" :: elementTree) children)
            result ∧
          result.orQueryIndexes.length = after ∧
          (allAndFree children = true → (stores = true → startsWithLeaf children = true) →
            result.orQueryIndexes =
              state.orQueryIndexes ++ if stores then [state.queries.length] else []) := by
  intro elementTree upperLevelAndQuery level state stores after isStores proper once pending
    distinct
    taken
  match children, proper, once, pending with
  | [], _, _, pending =>
      unfold elements extractFilterElements alternatives
      refine Meets.ok ⟨⟨distinct, ⟨[], (List.append_nil _).symm, [], .nil, rfl⟩, ?_⟩,
        Option.some.inj pending, fun _ leafFirst => ?_⟩
      · exact fun conjunction member => absurd member (Multiset.notMem_zero conjunction)
      · have notStores : stores = false := Bool.eq_false_iff.mpr fun yes =>
          Bool.false_ne_true (leafFirst yes)
        rw [notStores, if_neg Bool.false_ne_true, List.append_nil]
  | tree :: rest, proper, once, pending =>
      rw [AllProper] at proper
      rw [AllParametersOnce] at once
      rw [pendingAfterOr] at pending
      obtain ⟨middle, pendingTree, pendingRest⟩ := Option.bind_eq_some_iff.mp pending
      obtain ⟨fresh, isNext, freshFirst⟩ := @nextQuery_taken _ caseSensitiveParams
        (ascii "fes:or" :: elementTree) List.head?_cons upperLevelAndQuery state distinct taken
        tree.element.elementName level
      rw [storesIndex_eq proper.1, isStores] at isNext freshFirst
      unfold elements extractFilterElements alternatives
      rw [if_neg (elementName_cases proper.1).1, isNext]
      have length : (if (stores && tree.isLeaf) = true then
          state.orQueryIndexes ++ [state.queries.length] else state.orQueryIndexes).length =
            if (stores && tree.isLeaf) = true then state.orQueryIndexes.length + 1
              else state.orQueryIndexes.length := by
        split
        · exact List.length_append
        · rfl
      rw [← length] at pendingTree
      refine (extractFilterElement_own tree fresh (.inr List.head?_cons) proper.1 once.1 pendingTree
        (distinct.add rfl _) rfl (Carries.create caseSensitiveParams state.created)).bind ?_
      intro ⟨nextLevel, next⟩ ⟨sameFirst, added, lengthNext, sameIndexes⟩
      have storesRest : (nextLevel.isFirstOrQuery && elementTree.head? = some (ascii "fes:and")) =
          (stores && !tree.isLeaf) := by
        rw [sameFirst, freshFirst, ← isStores]
        cases level.isFirstOrQuery <;> cases decide (elementTree.head? = some (ascii "fes:and")) <;>
          cases tree.isLeaf <;> rfl
      refine (extractFilterElements_taken rest nextLevel storesRest proper.2 once.2
        (lengthNext ▸ pendingRest) added.distinct
        (added.taken (dnf_ne_zero tree proper.1) upperLevelAndQuery)).imp ?_
      intro result ⟨addedRest, lengthRest, sameRest⟩
      refine ⟨added.trans addedRest, lengthRest, fun isAndFree leafFirst => ?_⟩
      rw [allAndFree, Bool.and_eq_true] at isAndFree
      have leafStored : (stores && tree.isLeaf) = stores ∧ (stores && !tree.isLeaf) = false := by
        cases stores with
        | false => exact ⟨rfl, rfl⟩
        | true =>
            have isLeaf : tree.isLeaf = true := leafFirst rfl
            rw [isLeaf]
            exact ⟨rfl, rfl⟩
      rw [leafStored.2] at sameRest
      rw [sameRest isAndFree.2 nofun, if_neg Bool.false_ne_true, List.append_nil,
        sameIndexes isAndFree.1, leafStored.1]
      cases stores with
      | false => exact (List.append_nil _).symm
      | true => rfl

/-- A child of an AND element. -/
theorem extractFilterElement_walking (tree : FilterTree) :
    ∀ {elementTree : List ByteString} (level : Level) {state : FilterState ν}
      {someOr severalOr : Bool} {before part : List (AdHocQuery ν)} {andQuery : AdHocQuery ν}
      {content : Multiset (Contribution ν)} {sets : List (List (Multiset (Contribution ν)))}
      {after : Nat}, Proper reader config (ascii "fes:and" :: elementTree) tree →
      ParametersOnce reader config (ascii "fes:and" :: elementTree) tree →
      (someOr = true → tree.isOr = false →
        parametersAsked reader config (ascii "fes:and" :: elementTree) tree = 0) →
      (severalOr = true →
        parametersAsked reader config (ascii "fes:and" :: elementTree) tree = 0) →
      pendingAfterChild severalOr (0 < sets.length) state.orQueryIndexes.length tree = some after →
      Walking someOr severalOr before andQuery part content sets state →
      Meets LeafRefused
        (extractFilterElement caseSensitiveParams reader config (ascii "fes:and" :: elementTree)
          (some andQuery.address) level state tree.element) fun result =>
        ∃ andQuery' part' content' sets', andQuery'.address = andQuery.address ∧
          Walking someOr severalOr before andQuery' part' content' sets' result.2 ∧
          result.2.orQueryIndexes.length = after ∧
          sets'.length = sets.length + (if tree.isOr then 1 else 0) ∧
          formSoFar content' sets' = (formSoFar content sets).conjoin
            (dnf reader config (ascii "fes:and" :: elementTree) tree) ∧
          ∀ own ∈ dnf reader config (ascii "fes:and" :: elementTree) tree, own ≠ 0 := by
  intro elementTree level state someOr severalOr before part andQuery content sets after proper once
    noneBeside noneOfSeveral pending walking
  match tree, proper, once, noneBeside, noneOfSeveral, pending with
  | .leaf element, proper, _, noneBeside, _, pending =>
      refine (extractFilterElement_sharedLeaf proper level walking.distinct walking.queries
        walking.carriesAnd).imp ?_
      rintro ⟨next, result⟩ ⟨written, own, rfl, sameAddress, distinct, form, nonzero, carries⟩
      refine ⟨written, part, content + own, sets, sameAddress,
        walking.written carries (fun isSome => ?_) distinct rfl fun _ => rfl,
          Option.some.inj pending,
        rfl, ?_, ?_⟩
      · exact parameters_of_form form (noneBeside isSome rfl)
      · rw [form, formSoFar_add]
      · rw [form]
        exact fun other isOwn => Multiset.mem_singleton.mp isOwn ▸ nonzero
  | .and operator children, proper, _, noneBeside, _, pendingAnd =>
      rw [Proper] at proper
      rw [pendingAfterChild] at pendingAnd
      split at pendingAnd
      · next conditions =>
          simp only [Bool.and_eq_true, Bool.not_eq_true', decide_eq_false_iff_not, not_lt,
            Nat.le_zero, List.length_eq_zero_iff, decide_eq_true_eq] at conditions
          obtain ⟨⟨rfl, isOrFree⟩, few⟩ := conditions
          obtain rfl := walking.part_eq_nil.mpr rfl
          have nonempty : children ≠ [] := by
            rintro rfl
            exact absurd proper.1 (Nat.not_succ_le_zero 1)
          refine (extractFilterElement_sharedAnd nonempty walking.queries
            (extractFilterElements_shared children .start isOrFree proper.2 walking.distinct few
              walking.queries walking.carriesAnd)).imp ?_
          intro ⟨next, result⟩ ⟨⟨distinct, _, written, own, queries, sameAddress, form, carries⟩,
            cleared, nonzero⟩
          refine ⟨written, [], content + own, [], sameAddress,
            walking.written carries (fun isSome => ?_) distinct queries fun some => absurd rfl some,
            ?_, rfl, ?_, nonzero⟩
          · exact parameters_of_form form (noneBeside isSome rfl)
          · rw [cleared]
            exact Option.some.inj pendingAnd
          · rw [form, formSoFar_add]
      · cases pendingAnd
  | .or operator children, proper, once, _, noneOfSeveral, pending =>
      rw [Proper] at proper
      rw [ParametersOnce] at once
      have some : alternatives reader config (ascii "fes:or" :: ascii "fes:and" :: elementTree)
          children ≠ 0 := dnf_ne_zero (.or operator children) proper
      have outside : (ascii "fes:and" :: elementTree).head? ≠ Option.some (ascii "fes:or") := by
        rw [List.head?_cons]
        decide
      have stores : (Level.start.isFirstOrQuery &&
          (ascii "fes:and" :: elementTree).head? = Option.some (ascii "fes:and")) = true := by
        rw [List.head?_cons, decide_eq_true rfl]
        rfl
      have pendingOr := pendingAfterOr_of_child pending
      rw [FilterTree.element, extractFilterElement_or, if_pos outside, dnf]
      refine (extractFilterElements_taken children .start stores proper.2 once pendingOr.1
        walking.distinct walking.taken).bind ?_
      intro result ⟨added, length, sameIndexes⟩
      obtain ⟨part', contents, isForm, walkingAfter⟩ := walking.added some added
        (fun isSeveral => dnf_withoutParameters (.or operator children) (noneOfSeveral isSeveral))
        fun isSeveral =>
        have facts := pendingOr.2 isSeveral
        ⟨facts.1, sameIndexes facts.2.2 fun _ => facts.2.1⟩
      refine Meets.pure ⟨andQuery, part', content, sets ++ [contents], rfl, walkingAfter,
        length, ?_, ?_, added.nonzero⟩
      · exact List.length_append
      · rw [formSoFar_concat, isForm]

/-- The children of an AND element. -/
theorem extractFilterElements_walking (children : List FilterTree) :
    ∀ {elementTree : List ByteString} (level : Level) {state : FilterState ν}
      {someOr severalOr : Bool} {before part : List (AdHocQuery ν)} {andQuery : AdHocQuery ν}
      {content : Multiset (Contribution ν)} {sets : List (List (Multiset (Contribution ν)))},
      AllProper reader config (ascii "fes:and" :: elementTree) children →
      AllParametersOnce reader config (ascii "fes:and" :: elementTree) children →
      (someOr = true → ∀ tree ∈ children, tree.isOr = false →
        parametersAsked reader config (ascii "fes:and" :: elementTree) tree = 0) →
      (severalOr = true → ∀ tree ∈ children,
        parametersAsked reader config (ascii "fes:and" :: elementTree) tree = 0) →
      separableAnd severalOr (0 < sets.length) state.orQueryIndexes.length children = true →
      Walking someOr severalOr before andQuery part content sets state →
      Meets LeafRefused
        (extractFilterElements caseSensitiveParams reader config (ascii "fes:and" :: elementTree)
          (some andQuery.address) level state (elements children)) fun result =>
        ∃ andQuery' part' content' sets', andQuery'.address = andQuery.address ∧
          Walking someOr severalOr before andQuery' part' content' sets' result ∧
          (severalOr = true ∨ result.orQueryIndexes.length ≤ 1) ∧
          sets'.length = sets.length + children.countP isOr ∧
          formSoFar content' sets' = (formSoFar content sets).conjoin
            (conjunction reader config (ascii "fes:and" :: elementTree) children) ∧
          (children ≠ [] →
            ∀ own ∈ conjunction reader config (ascii "fes:and" :: elementTree) children,
              own ≠ 0) := by
  intro elementTree level state someOr severalOr before part andQuery content sets proper once
    noneBeside noneOfSeveral separable walking
  match children, proper, once, noneBeside, noneOfSeveral, separable with
  | [], _, _, _, _, separable =>
      rw [separableAnd, Bool.or_eq_true, decide_eq_true_eq] at separable
      unfold elements extractFilterElements conjunction
      refine Meets.ok ⟨andQuery, part, content, sets, rfl, walking, separable, rfl, ?_,
        fun some => absurd rfl some⟩
      rw [DisjunctiveForm.conjoin_zero_singleton]
  | tree :: rest, proper, once, noneBeside, noneOfSeveral, separable =>
      rw [AllProper] at proper
      rw [AllParametersOnce] at once
      rw [separableAnd] at separable
      split at separable
      · cases separable
      · next after pending =>
          have outside : (ascii "fes:and" :: elementTree).head? ≠ some (ascii "fes:or") := by
            rw [List.head?_cons]
            decide
          have nonempty : state.queries ≠ [] := by
            rw [walking.queries]
            simp
          unfold elements extractFilterElements conjunction
          rw [if_neg (elementName_cases proper.1).1, nextQuery_outside outside _ _ _ nonempty]
          refine (extractFilterElement_walking tree level proper.1 once.1
            (fun isSome => noneBeside isSome tree List.mem_cons_self)
            (fun isSeveral => noneOfSeveral isSeveral tree List.mem_cons_self) pending walking).bind
              ?_
          intro ⟨nextLevel, next⟩ ⟨andQuery', part', content', sets', sameAddress, walkingNext,
            length, count, form, nonzero⟩
          have seenOr : (decide (0 < sets.length) || tree.isOr) = decide (0 < sets'.length) := by
            rw [count]
            cases tree.isOr with
            | true => exact (Bool.or_true _).trans (decide_eq_true (Nat.succ_pos _)).symm
            | false => exact Bool.or_false _
          rw [seenOr, ← length] at separable
          have walked :=
            @extractFilterElements_walking rest elementTree nextLevel next someOr severalOr
            before part' andQuery' content' sets' proper.2 once.2
            (fun isSome other member => noneBeside isSome other (List.mem_cons_of_mem _ member))
            (fun isSeveral other member => noneOfSeveral isSeveral other
              (List.mem_cons_of_mem _ member)) separable walkingNext
          rw [sameAddress] at walked
          refine walked.imp ?_
          intro result ⟨andQuery'', part'', content'', sets'', sameAddress', walkingAfter,
            few, count',
            form', _⟩
          refine ⟨andQuery'', part'', content'', sets'', sameAddress', walkingAfter,
            few, ?_, ?_, fun _ => DisjunctiveForm.ne_zero_of_mem_conjoin nonzero⟩
          · rw [count', count, List.countP_cons, Nat.add_assoc,
              Nat.add_comm (rest.countP isOr)]
          · rw [form', form, DisjunctiveForm.conjoin_assoc]

end

/-! ### Whole filters -/

/-- The element is a filter element with the tree below it. -/
structure IsFilter (reader : XmlReader ν) (config : StoredQueryConfig ν) (root : Element)
    (tree : FilterTree) : Prop where
  notAnd : root.elementName ≠ ascii "fes:and"
  notOr : root.elementName ≠ ascii "fes:or"
  children : root.children = [tree.element]
  proper : Proper reader config [root.elementName] tree

/-- The queries of a separable filter whose parameters belong to one query each are the
conjunctions of its disjunctive form, unless the request is refused for a leaf. -/
theorem extractXmlParameters_holds {root : Element} {tree : FilterTree}
    (isFilter : IsFilter reader config root tree) (isSeparable : tree.separable = true)
    (once : ParametersOnce reader config [root.elementName] tree) :
    Meets LeafRefused (extractXmlParameters reader config root) fun result =>
      Holds result.queries (dnf reader config [root.elementName] tree) := by
  obtain ⟨notAnd, notOr, children, proper⟩ := isFilter
  obtain ⟨after, pending⟩ := Option.isSome_iff_exists.mp isSeparable
  have notInAnd : [root.elementName].head? ≠ some (ascii "fes:and") := fun same =>
    notAnd (Option.some.inj same)
  have notInOr : [root.elementName].head? ≠ some (ascii "fes:or") := fun same =>
    notOr (Option.some.inj same)
  let slot : AdHocQuery ν := .create config.useCaseSensitiveParams 0
  let start : FilterState ν := ⟨[slot], 1, []⟩
  have distinct : Distinct start := ⟨List.nodup_singleton _, fun query member => by
    rw [List.mem_singleton.mp member]
    exact Nat.one_pos⟩
  unfold extractXmlParameters
  rw [children]
  unfold extractFilterElements
  change Meets LeafRefused (if tree.element.elementName = ascii "fes:not" then _ else
    nextQuery config.useCaseSensitiveParams [root.elementName] none tree.element.elementName .start
      start >>= _) _
  rw [if_neg (elementName_cases proper).1,
    nextQuery_outside notInOr _ _ _ (List.cons_ne_nil slot [])]
  have isPending : tree.pendingAfter start.orQueryIndexes.length = some after := pending
  have split : start.queries = [] ++ [slot] := rfl
  refine (extractFilterElement_own tree .start (.inl ⟨rfl, notInAnd⟩) proper once isPending distinct
    split (Carries.create _ 0)).bind ?_
  intro ⟨level, result⟩ ⟨_, ⟨_, ⟨added, queries, holds⟩, _⟩, _⟩
  unfold extractFilterElements
  rw [List.nil_append] at queries
  refine Meets.ok ?_
  rw [queries]
  exact holds

/-! ### Filters over comparisons and boxes -/

/-- A comparison of the reference with a value. -/
def comparison (reference : ByteString) : FilterTree :=
  .leaf (.mk (ascii "fes:PropertyIsEqualTo") (ascii "PropertyIsEqualTo") fesNamespaceUri [] []
    [.mk (ascii "fes:ValueReference") (ascii "ValueReference") fesNamespaceUri [] reference [],
      .mk (ascii "fes:Literal") (ascii "Literal") fesNamespaceUri [] (ascii "1") []])

/-- The AND element. -/
def andElement : Operator (ascii "fes:and") :=
  ⟨ascii "fes:And", ascii "And", fesNamespaceUri, [], [], by decide⟩

/-- The OR element. -/
def orElement : Operator (ascii "fes:or") :=
  ⟨ascii "fes:Or", ascii "Or", fesNamespaceUri, [], [], by decide⟩

/-- The filter of a tree. -/
def filterElement (tree : FilterTree) : Element :=
  .mk (ascii "fes:Filter") (ascii "Filter") fesNamespaceUri [] [] [tree.element]

/-- A reader that takes texts as they are written. -/
def textReader : XmlReader ByteString where
  readEnvelope
    | .mk _ _ _ _ text _ => some text
  readDateTime _ := none
  readString
    | .mk _ _ _ _ text _ => some text
  checkLimits _ _ _ := true
  leavesRest text := text ≠ ascii "1"

/-- A stored query without parameters. -/
def noParameters : StoredQueryConfig ByteString := ⟨false, .empty, .empty⟩

/-- A comparison can be read anywhere. -/
theorem comparison_proper (config : StoredQueryConfig ByteString) (elementTree : List ByteString)
    (reference : ByteString) : Proper textReader config elementTree (comparison reference) := by
  have own : contributions textReader config elementTree (comparison reference).element =
      some {.condition (matchFilterExpression .any (readValueReference reference).1 (ascii "=")
        (ascii "1"))} := rfl
  rw [comparison, Proper]
  refine ⟨rfl, fun none => ?_⟩
  rw [comparison, FilterTree.element, none] at own
  exact Multiset.singleton_ne_zero _ (Option.some.inj own).symm

/-- One bounding box may be given. -/
def optionalBox : ParamDesc ByteString where
  name := ascii "bbox"
  minOccurs := 0
  maxOccurs := 1
  paramDef := ⟨.bbox, false, 1, 1⟩
  lowerLimit := none
  upperLimit := none
  conflictsWith := .empty

/-- A stored query whose only parameter is a bounding box. -/
def loneBox : StoredQueryConfig ByteString where
  useCaseSensitiveParams := true
  paramMap := OrderedMap.set (ascii "bbox") optionalBox .empty
  caseMap := .empty

/-- A bounding box with its corners. -/
def boundingBox (corners : ByteString) : FilterTree :=
  .leaf (.mk (ascii "fes:BBOX") (ascii "BBOX") fesNamespaceUri [] corners [])

/-- It gives the parameter its corners. -/
theorem boundingBox_own (elementTree : List ByteString) (corners : ByteString) :
    contributions textReader loneBox elementTree (boundingBox corners).element =
      some {.parameter (ascii "bbox") corners} := rfl

/-- It can be read anywhere. -/
theorem boundingBox_proper (elementTree : List ByteString) (corners : ByteString) :
    Proper textReader loneBox elementTree (boundingBox corners) := by
  have own := boundingBox_own elementTree corners
  rw [boundingBox, Proper]
  refine ⟨rfl, fun none => ?_⟩
  rw [boundingBox, FilterTree.element, none] at own
  exact Multiset.singleton_ne_zero _ (Option.some.inj own).symm

end SmartMetWfs.AdHoc
