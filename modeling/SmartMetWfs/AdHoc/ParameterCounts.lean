import Mathlib.Algebra.BigOperators.Group.Multiset.Basic
import Mathlib.Data.Nat.Cast.Basic
import Mathlib.Tactic.Ring
import SmartMetWfs.AdHoc.HeldParameters
import SmartMetWfs.AdHoc.NormalForm

/-!
# The normal form of a filter

The walk reads each parameter of a filter once, and no query is copied that has parameters.
If a parameter belongs to several conjunctions of the normal form the queries that are left
have too few parameters. A filter is therefore turned into its normal form only if no
parameter does, and a separable one always if its leaves are accepted.
-/

namespace SmartMetWfs.AdHoc

open Foundation Parameters FilterTree

variable {ν : Type}

/-! ### The parameters of a disjunctive form -/

/-- How many parameters the conjunctions of the form have together. -/
def totalParameters (form : DisjunctiveForm (Contribution ν)) : Nat :=
  (form.map fun content => Multiset.card (parameters content)).sum

/-- One conjunction has its own parameters. -/
@[simp] theorem totalParameters_singleton (content : Multiset (Contribution ν)) :
    totalParameters {content} = Multiset.card (parameters content) := by
  rw [totalParameters, Multiset.map_singleton, Multiset.sum_singleton]

/-- Alternatives have the parameters of both. -/
@[simp] theorem totalParameters_add (left right : DisjunctiveForm (Contribution ν)) :
    totalParameters (left + right) = totalParameters left + totalParameters right := by
  rw [totalParameters, Multiset.map_add, Multiset.sum_add]
  rfl

/-- Each conjunction of the one form occurs as often as there are conjunctions of the other. -/
theorem totalParameters_conjoin (left right : DisjunctiveForm (Contribution ν)) :
    totalParameters (DisjunctiveForm.conjoin left right) =
      totalParameters left * Multiset.card right + Multiset.card left * totalParameters right := by
  have beside : ∀ content : Multiset (Contribution ν),
      totalParameters (right.map fun other => content + other) =
        Multiset.card (parameters content) * Multiset.card right + totalParameters right := by
    intro content
    rw [totalParameters, Multiset.map_map]
    simp only [Function.comp_apply, parameters_add, Multiset.card_add]
    rw [Multiset.sum_map_add, Multiset.map_const', Multiset.sum_replicate, nsmul_eq_mul,
      Nat.cast_id, mul_comm]
    rfl
  induction left using Multiset.induction_on with
  | empty => simp [DisjunctiveForm.conjoin, totalParameters]
  | cons content left ih =>
      have split : DisjunctiveForm.conjoin (content ::ₘ left) right =
          right.map (fun other => content + other) + DisjunctiveForm.conjoin left right :=
        Multiset.cons_bind _ _ _
      have own : totalParameters (content ::ₘ left) =
          Multiset.card (parameters content) + totalParameters left := by
        rw [← Multiset.singleton_add, totalParameters_add, totalParameters_singleton]
      rw [split, totalParameters_add, beside, ih, own, Multiset.card_cons]
      ring

/-- There is a conjunction for every pair. -/
theorem card_conjoin (left right : DisjunctiveForm (Contribution ν)) :
    Multiset.card (DisjunctiveForm.conjoin left right) =
      Multiset.card left * Multiset.card right := by
  rw [DisjunctiveForm.conjoin, Multiset.card_bind]
  simp

section

variable {reader : XmlReader ν} {config : StoredQueryConfig ν}

/-- A proper tree has a conjunction. -/
theorem card_dnf_pos {tree : FilterTree} {elementTree : List ByteString}
    (proper : Proper reader config elementTree tree) :
    0 < Multiset.card (dnf reader config elementTree tree) :=
  Multiset.card_pos.mpr (dnf_ne_zero tree proper)

/-- Proper trees have a conjunction together. -/
theorem card_conjunction_pos {children : List FilterTree} {elementTree : List ByteString}
    (proper : AllProper reader config elementTree children) :
    0 < Multiset.card (conjunction reader config elementTree children) :=
  Multiset.card_pos.mpr (conjunction_ne_zero children proper)

mutual

/-- A filter with an OR element has several conjunctions. -/
theorem orFree_of_card_dnf : ∀ (tree : FilterTree) {elementTree : List ByteString},
    Proper reader config elementTree tree →
      Multiset.card (dnf reader config elementTree tree) = 1 → tree.orFree = true
  | .leaf _, _, _, _ => by rw [orFree]
  | .and _ children, _, proper, one => by
      rw [orFree]
      exact allOrFree_of_card_conjunction children proper.2 one
  | .or _ [], _, proper, _ => absurd proper.1 (by decide)
  | .or _ [_], _, proper, _ => absurd proper.1 (Nat.not_succ_le_self 1)
  | .or _ (first :: second :: rest), elementTree, proper, one => by
      obtain ⟨_, properFirst, properSecond, _⟩ := proper
      have someFirst := card_dnf_pos properFirst
      have someSecond := card_dnf_pos properSecond
      rw [dnf, alternatives, alternatives, Multiset.card_add, Multiset.card_add] at one
      omega

/-- Trees with a single conjunction have no alternatives that matter. -/
theorem allOrFree_of_card_conjunction : ∀ (children : List FilterTree)
    {elementTree : List ByteString}, AllProper reader config elementTree children →
      Multiset.card (conjunction reader config elementTree children) = 1 →
        allOrFree children = true
  | [], _, _, _ => by rw [allOrFree]
  | tree :: rest, _, proper, one => by
      rw [conjunction, card_conjoin] at one
      rw [allOrFree, Bool.and_eq_true]
      exact ⟨orFree_of_card_dnf tree proper.1 (Nat.eq_one_of_mul_eq_one_right one),
        allOrFree_of_card_conjunction rest proper.2 (Nat.eq_one_of_mul_eq_one_left one)⟩

end

/-- What holds of all trees holds of each. -/
theorem orFree_of_mem {children : List FilterTree} (free : allOrFree children = true)
    {tree : FilterTree} (member : tree ∈ children) : tree.orFree = true := by
  induction children with
  | nil => cases member
  | cons other children ih =>
      rw [allOrFree, Bool.and_eq_true] at free
      rcases List.mem_cons.mp member with rfl | inRest
      · exact free.1
      · exact ih free.2 inRest

/-- What one operand asks for is asked for by all of them. -/
theorem parametersAsked_le {children : List FilterTree} {elementTree : List ByteString}
    {tree : FilterTree} (member : tree ∈ children) :
    parametersAsked reader config elementTree tree ≤
      parametersAskedBy reader config elementTree children := by
  induction children with
  | nil => cases member
  | cons other children ih =>
      rw [parametersAskedBy]
      rcases List.mem_cons.mp member with rfl | inRest
      · exact Nat.le_add_right _ _
      · exact (ih inRest).trans (Nat.le_add_left _ _)

/-- Two numbers, each taken as often as there are conjunctions of the other form. -/
theorem asked_le_of_products {asked asked' total total' count count' : Nat} (le : asked ≤ total)
    (le' : asked' ≤ total') (pos : 0 < count) (pos' : 0 < count') :
    asked + asked' ≤ total * count' + count * total' ∧
      (total * count' + count * total' ≤ asked + asked' →
        total ≤ asked ∧ total' ≤ asked' ∧ (asked ≠ 0 → count' = 1) ∧ (asked' ≠ 0 → count = 1)) := by
  have atLeast := Nat.le_mul_of_pos_right total pos'
  have atLeast' := Nat.le_mul_of_pos_left total' pos
  refine ⟨by omega, fun atMost => ⟨by omega, by omega, fun some => ?_, fun some => ?_⟩⟩
  · have same : total * count' = total * 1 := by omega
    exact Nat.eq_of_mul_eq_mul_left (by omega) same
  · have same : count * total' = 1 * total' := by omega
    exact Nat.eq_of_mul_eq_mul_right (by omega) same

mutual

/-- The normal form has every parameter that is asked for, and some of them several times
unless each belongs to one query. -/
theorem parametersOnce_of_total : ∀ (tree : FilterTree) {elementTree : List ByteString},
    Proper reader config elementTree tree →
      parametersAsked reader config elementTree tree ≤
          totalParameters (dnf reader config elementTree tree) ∧
        (totalParameters (dnf reader config elementTree tree) ≤
          parametersAsked reader config elementTree tree →
            ParametersOnce reader config elementTree tree)
  | .leaf _, _, _ => by
      rw [parametersAsked, dnf, totalParameters_singleton, ParametersOnce]
      exact ⟨Nat.le_refl _, fun _ => trivial⟩
  | .and _ children, _, proper => by
      rw [parametersAsked, dnf, ParametersOnce]
      exact allParametersOnce_of_conjunction children proper.2
  | .or _ children, _, proper => by
      rw [parametersAsked, dnf, ParametersOnce]
      exact allParametersOnce_of_alternatives children proper.2

/-- When no parameter is copied in a conjunction each is given once. -/
theorem allParametersOnce_of_conjunction : ∀ (children : List FilterTree)
    {elementTree : List ByteString}, AllProper reader config elementTree children →
      parametersAskedBy reader config elementTree children ≤
          totalParameters (conjunction reader config elementTree children) ∧
        (totalParameters (conjunction reader config elementTree children) ≤
          parametersAskedBy reader config elementTree children →
            AllParametersOnce reader config elementTree children ∧
              children.Pairwise (Beside reader config elementTree))
  | [], _, _ => by
      rw [parametersAskedBy, AllParametersOnce]
      exact ⟨Nat.zero_le _, fun _ => ⟨trivial, .nil⟩⟩
  | tree :: rest, elementTree, proper => by
      obtain ⟨le, once⟩ := parametersOnce_of_total tree proper.1
      obtain ⟨leRest, onceRest⟩ := allParametersOnce_of_conjunction rest proper.2
      obtain ⟨atLeast, tight⟩ := asked_le_of_products le leRest (card_dnf_pos proper.1)
        (card_conjunction_pos proper.2)
      rw [parametersAskedBy, conjunction, totalParameters_conjoin, AllParametersOnce]
      refine ⟨atLeast, fun atMost => ?_⟩
      obtain ⟨same, sameRest, aloneRest, alone⟩ := tight atMost
      obtain ⟨allOnce, pairwise⟩ := onceRest sameRest
      refine ⟨⟨once same, allOnce⟩, List.pairwise_cons.mpr ⟨fun other member => ?_, pairwise⟩⟩
      refine ⟨fun some => ?_, fun some => ?_⟩
      · exact orFree_of_mem (allOrFree_of_card_conjunction rest proper.2 (aloneRest some)) member
      · refine orFree_of_card_dnf tree proper.1 (alone fun none => some ?_)
        exact Nat.le_zero.mp (none ▸ parametersAsked_le member)

/-- When no parameter is copied in the alternatives each is given once. -/
theorem allParametersOnce_of_alternatives : ∀ (children : List FilterTree)
    {elementTree : List ByteString}, AllProper reader config elementTree children →
      parametersAskedBy reader config elementTree children ≤
          totalParameters (alternatives reader config elementTree children) ∧
        (totalParameters (alternatives reader config elementTree children) ≤
          parametersAskedBy reader config elementTree children →
            AllParametersOnce reader config elementTree children)
  | [], _, _ => by
      rw [parametersAskedBy, AllParametersOnce]
      exact ⟨Nat.zero_le _, fun _ => trivial⟩
  | tree :: rest, _, proper => by
      obtain ⟨le, once⟩ := parametersOnce_of_total tree proper.1
      obtain ⟨leRest, onceRest⟩ := allParametersOnce_of_alternatives rest proper.2
      rw [parametersAskedBy, alternatives, totalParameters_add, AllParametersOnce]
      exact ⟨Nat.add_le_add le leRest, fun atMost => ⟨once (by omega), onceRest (by omega)⟩⟩

end

end

/-! ### The parameters that are read -/

section

variable {reader : XmlReader ν} {config : StoredQueryConfig ν} {caseSensitiveParams : Bool}
  {state middle result : FilterState ν}

/-- A state in which the walk goes on: no two queries have one address, and the indices lie
in order within the list. -/
structure Sound (state : FilterState ν) : Prop where
  distinct : Distinct state
  increasing : Increasing state.orQueryIndexes state.queries.length

/-- The queries have got at most that many parameters more. -/
structure Counted (state result : FilterState ν) (asked : Nat) : Prop where
  sound : Sound result
  atMost : result.held.length ≤ state.held.length + asked

theorem Counted.refl (sound : Sound state) : Counted state state 0 := ⟨sound, Nat.le_refl _⟩

theorem Counted.trans {asked asked' : Nat} (first : Counted state middle asked)
    (second : Counted middle result asked') : Counted state result (asked + asked') := by
  refine ⟨second.sound, ?_⟩
  have few := first.atMost
  have few' := second.atMost
  omega

/-- The choice of the next query reads no parameter. -/
theorem nextQuery_counted {elementTree : List ByteString} {upperLevelAndQuery : Option Nat}
    {elementName : ByteString} {level : Level} {next : Level × FilterState ν} (sound : Sound state)
    (ran : nextQuery caseSensitiveParams elementTree upperLevelAndQuery elementName level state =
      .ok next) : Counted state next.2 0 := by
  obtain ⟨kept, held⟩ := nextQuery_kept sound.distinct sound.increasing ran
  exact ⟨⟨kept.distinct, kept.increasing⟩, (congrArg List.length held).le⟩

/-- The end of an AND element reads no parameter. -/
theorem handleEndOfAndElement_counted {andQuery andQueryIndex : Nat} (sound : Sound state)
    (ran : handleEndOfAndElement caseSensitiveParams andQuery andQueryIndex state = .ok result) :
    Counted state result 0 := by
  have settled := handleEndOfAndElement_settled sound.distinct sound.increasing ran
  refine ⟨⟨settled.distinct, ?_⟩, settled.sublist.length_le⟩
  rw [settled.cleared]
  exact ⟨.nil, nofun⟩

/-- An element that is no operator reads as many parameters as it asks for. -/
theorem readFilterParameter_counted {elementTree : List ByteString}
    {upperLevelAndQuery : Option Nat} {element : Element} {level : Level}
    {read : Level × FilterState ν} (sound : Sound state)
    (ran : readFilterParameter reader config elementTree upperLevelAndQuery element level state =
      .ok read) :
    ∃ content, ownContribution reader config elementTree element = some content ∧
      Counted state read.2 (Multiset.card (parameters content)) := by
  obtain ⟨kept, _, query, _, _, into⟩ :=
    readFilterParameter_readInto sound.distinct sound.increasing ran
  have soundRead : Sound read.2 := ⟨kept.distinct, kept.increasing⟩
  cases into with
  | parameter desc value _ _ own held => exact ⟨_, own, soundRead, held.length_eq.le⟩
  | other _ own held =>
      obtain ⟨content, isOwn, none⟩ := own
      refine ⟨content, isOwn, soundRead, ?_⟩
      rw [held, none]
      exact Nat.le_refl _

mutual

/-- A leaf that is walked can be read, and gives no more parameters than it contributes. -/
theorem extractFilterElement_leaf_counted :
    ∀ (element : Element) {elementTree : List ByteString} {upperLevelAndQuery : Option Nat}
      {level : Level} {state : FilterState ν} {walked : Level × FilterState ν},
      element.isLeaf = true → Sound state →
        extractFilterElement caseSensitiveParams reader config elementTree upperLevelAndQuery level
          state element = .ok walked →
        ∃ content, contributions reader config elementTree element = some content ∧
          Counted state walked.2 (Multiset.card (parameters content))
  | .mk tagName localName namespaceUri attributes text children, elementTree, upperLevelAndQuery,
      level, state, walked, isLeaf, sound, ran => by
      obtain ⟨notAnd, _, _, inner⟩ := Element.isLeaf_mk isLeaf
      have name : (Element.mk tagName localName namespaceUri attributes text children).elementName =
          asciiTolowerCopy tagName := rfl
      unfold extractFilterElement at ran
      unfold contributions
      simp only [name] at ran ⊢
      cases own : isQueryParameter (asciiTolowerCopy tagName) ||
          isComparisonOperation (asciiTolowerCopy tagName) with
      | true =>
          rw [own, if_pos rfl] at ran
          rw [if_pos rfl]
          exact readFilterParameter_counted sound ran
      | false =>
          rw [own, if_neg Bool.false_ne_true, if_neg notAnd] at ran
          rw [if_neg Bool.false_ne_true]
          obtain ⟨last, within, rest⟩ := ok_of_bind ran
          cases rest
          exact extractFilterElements_leaves_counted children (inner own) sound within

/-- Single elements read as many parameters as they ask for. -/
theorem extractFilterElements_leaves_counted :
    ∀ (elements : List Element) {elementTree : List ByteString} {upperLevelAndQuery : Option Nat}
      {level : Level} {state result : FilterState ν},
      Element.areLeaves elements = true → Sound state →
        extractFilterElements caseSensitiveParams reader config elementTree upperLevelAndQuery level
          state elements = .ok result →
        ∃ content, contributionsOf reader config elementTree elements = some content ∧
          Counted state result (Multiset.card (parameters content))
  | [], elementTree, upperLevelAndQuery, level, state, result, _, sound, ran => by
      unfold extractFilterElements at ran
      cases ran
      unfold contributionsOf
      exact ⟨0, rfl, .refl sound⟩
  | element :: rest, elementTree, upperLevelAndQuery, level, state, result, leaves, sound, ran => by
      rw [Element.areLeaves, Bool.and_eq_true] at leaves
      unfold extractFilterElements at ran
      rw [if_neg (Element.isLeaf_notNot leaves.1)] at ran
      obtain ⟨next, chosen, ran⟩ := ok_of_bind ran
      obtain ⟨walked, first, ran⟩ := ok_of_bind ran
      have countedNext := nextQuery_counted sound chosen
      obtain ⟨content, readable, counted⟩ :=
        extractFilterElement_leaf_counted element leaves.1 countedNext.sound first
      obtain ⟨others, readableRest, countedRest⟩ :=
        extractFilterElements_leaves_counted rest leaves.2 counted.sound ran
      have whole := (countedNext.trans counted).trans countedRest
      unfold contributionsOf
      rw [readable, readableRest]
      refine ⟨content + others, rfl, ?_⟩
      rw [parameters_add, Multiset.card_add]
      rwa [Nat.zero_add] at whole

end

mutual

/-- A filter that is walked gives no more parameters than it asks for. -/
theorem extractFilterElement_counted :
    ∀ (tree : FilterTree) {elementTree : List ByteString} {upperLevelAndQuery : Option Nat}
      {level : Level} {state : FilterState ν} {walked : Level × FilterState ν},
      Proper reader config elementTree tree → Sound state →
        extractFilterElement caseSensitiveParams reader config elementTree upperLevelAndQuery level
          state tree.element = .ok walked →
        Counted state walked.2 (parametersAsked reader config elementTree tree)
  | .leaf element, elementTree, upperLevelAndQuery, level, state, walked, proper, sound, ran => by
      rw [Proper] at proper
      rw [FilterTree.element] at ran
      obtain ⟨content, readable, counted⟩ :=
        extractFilterElement_leaf_counted element proper.1 sound ran
      rw [parametersAsked, readable]
      exact counted
  | .and operator children, elementTree, upperLevelAndQuery, level, state, walked, proper, sound,
      ran => by
      rw [Proper] at proper
      rw [FilterTree.element, extractFilterElement_and] at ran
      obtain ⟨andQuery, _, ran⟩ := ok_of_bind ran
      obtain ⟨within, walks, ran⟩ := ok_of_bind ran
      obtain ⟨ended, ends, ran⟩ := ok_of_bind ran
      cases ran
      have counted := extractFilterElements_counted children proper.2 sound walks
      rw [parametersAsked]
      exact counted.trans (handleEndOfAndElement_counted counted.sound ends)
  | .or operator children, elementTree, upperLevelAndQuery, level, state, walked, proper, sound,
      ran => by
      rw [Proper] at proper
      rw [FilterTree.element, extractFilterElement_or] at ran
      obtain ⟨within, walks, ran⟩ := ok_of_bind ran
      cases ran
      rw [parametersAsked]
      exact extractFilterElements_counted children proper.2 sound walks

/-- Elements read as many parameters as they ask for. -/
theorem extractFilterElements_counted :
    ∀ (children : List FilterTree) {elementTree : List ByteString}
      {upperLevelAndQuery : Option Nat} {level : Level} {state result : FilterState ν},
      AllProper reader config elementTree children → Sound state →
        extractFilterElements caseSensitiveParams reader config elementTree upperLevelAndQuery level
          state (elements children) = .ok result →
        Counted state result (parametersAskedBy reader config elementTree children)
  | [], elementTree, upperLevelAndQuery, level, state, result, _, sound, ran => by
      unfold elements extractFilterElements at ran
      cases ran
      rw [parametersAskedBy]
      exact .refl sound
  | tree :: rest, elementTree, upperLevelAndQuery, level, state, result, proper, sound, ran => by
      rw [AllProper] at proper
      unfold elements extractFilterElements at ran
      rw [if_neg (elementName_cases proper.1).1] at ran
      obtain ⟨next, chosen, ran⟩ := ok_of_bind ran
      obtain ⟨walked, first, ran⟩ := ok_of_bind ran
      have countedNext := nextQuery_counted sound chosen
      have counted := extractFilterElement_counted tree proper.1 countedNext.sound first
      have countedRest := extractFilterElements_counted rest proper.2 counted.sound ran
      have whole := (countedNext.trans counted).trans countedRest
      rw [parametersAskedBy]
      rwa [Nat.zero_add] at whole

end

end

/-! ### Filters and their normal forms -/

section

variable (reader : XmlReader ν) (config : StoredQueryConfig ν)

/-- The queries that are left are the conjunctions of the filter, each with what its leaves
contribute. -/
def YieldsNormalForm (root : Element) (tree : FilterTree) : Prop :=
  ∃ result, extractXmlParameters reader config root = .ok result ∧
    Holds result.queries (dnf reader config [root.elementName] tree)

/-- A leaf of the filter cannot be read, or the stored query does not take its parameter. -/
def RefusedForLeaf (root : Element) : Prop :=
  ∃ failure, extractXmlParameters reader config root = .error failure ∧ LeafRefused failure

end

/-- There are as many queries as conjunctions. -/
theorem Holds.length_eq {queries : List (AdHocQuery ν)} {form : DisjunctiveForm (Contribution ν)}
    (holds : Holds queries form) : queries.length = Multiset.card form := by
  obtain ⟨contents, carries, rfl⟩ := holds
  exact carries.length_eq.trans (Multiset.coe_card contents).symm

theorem Holds.held_length {queries : List (AdHocQuery ν)} {form : DisjunctiveForm (Contribution ν)}
    (holds : Holds queries form) : (heldBy queries).length = totalParameters form := by
  obtain ⟨contents, carries, rfl⟩ := holds
  induction carries with
  | nil => rfl
  | @cons query content queries contents first _ ih =>
      have own : query.params.params.entries.length = Multiset.card (parameters content) := by
        rw [← first.pairs, paramPairs, Multiset.coe_card, List.length_map]
      rw [heldBy_cons, List.length_append, List.length_map, own, ih, ← Multiset.cons_coe,
        ← Multiset.singleton_add, totalParameters_add, totalParameters_singleton]

section

variable {reader : XmlReader ν} {config : StoredQueryConfig ν} {root : Element} {tree : FilterTree}

/-- The queries of a filter have no more parameters than it asks for. -/
theorem extractXmlParameters_held (isFilter : IsFilter reader config root tree)
    {result : FilterState ν} (extracted : extractXmlParameters reader config root = .ok result) :
    result.held.length ≤ parametersAsked reader config [root.elementName] tree := by
  obtain ⟨_, _, children, proper⟩ := isFilter
  let start : FilterState ν :=
    FilterState.createQuery config.useCaseSensitiveParams ⟨[], 0, []⟩
  have sound : Sound start := ⟨⟨List.nodup_singleton _, fun query member => by
    rw [List.mem_singleton.mp member]
    exact Nat.one_pos⟩, .nil, nofun⟩
  have walked : extractFilterElements config.useCaseSensitiveParams reader config
      [root.elementName] none .start start (elements [tree]) = .ok result := by
    rw [elements, elements, ← children]
    exact extracted
  have counted := extractFilterElements_counted [tree] ⟨proper, trivial⟩ sound walked
  have atMost := counted.atMost
  rw [parametersAskedBy, parametersAskedBy] at atMost
  exact atMost.trans (by simp [start, FilterState.held, FilterState.createQuery, heldBy,
    AdHocQuery.create, RequestParameterMap.empty, Multimap.empty])

/-- A separable filter whose parameters belong to one query each is turned into its normal
form, unless it is refused for a leaf, and no filter is that has a parameter for several
queries. -/
theorem yieldsNormalForm_of_separable (isFilter : IsFilter reader config root tree) :
    (tree.separable = true → ParametersOnce reader config [root.elementName] tree →
      RefusedForLeaf reader config root ∨ YieldsNormalForm reader config root tree) ∧
    (YieldsNormalForm reader config root tree →
      ParametersOnce reader config [root.elementName] tree) := by
  constructor
  · intro isSeparable once
    have holds := extractXmlParameters_holds isFilter isSeparable once
    cases extracted : extractXmlParameters reader config root with
    | error failure =>
        rw [extracted] at holds
        exact .inl ⟨failure, extracted, holds⟩
    | ok result => exact .inr ⟨result, extracted, holds.of_ok extracted⟩
  · intro ⟨result, extracted, holds⟩
    have few := extractXmlParameters_held isFilter extracted
    rw [FilterState.held, holds.held_length] at few
    exact (parametersOnce_of_total tree isFilter.proper).2 few

end

/-! ### Two filters -/

/-- A bounding box or two comparisons as alternatives inside an AND element. -/
def boxOrComparisons : FilterTree :=
  .and andElement [comparison (ascii "a"), .or orElement [boundingBox (ascii "1"),
    .and andElement [comparison (ascii "b"), comparison (ascii "c")]]]

/-- It is a filter of the stored query. -/
theorem boxOrComparisons_isFilter :
    IsFilter textReader loneBox (filterElement boxOrComparisons) boxOrComparisons := by
  refine ⟨by decide, by decide, rfl, ?_⟩
  simp only [boxOrComparisons, Proper, AllProper, comparison_proper, boundingBox_proper,
    List.length_cons, List.length_nil]
  decide

/-- It is separable, and its parameter belongs to one of its queries. -/
theorem boxOrComparisons_yieldsNormalForm :
    YieldsNormalForm textReader loneBox (filterElement boxOrComparisons) boxOrComparisons := by
  have once : ParametersOnce textReader loneBox [(filterElement boxOrComparisons).elementName]
      boxOrComparisons := by decide +kernel
  have accepted : (extractXmlParameters textReader loneBox
      (filterElement boxOrComparisons)).toOption.isSome = true := by decide +kernel
  rcases (yieldsNormalForm_of_separable boxOrComparisons_isFilter).1 (by decide) once with
    ⟨failure, failed, _⟩ | yields
  · rw [failed] at accepted
    cases accepted
  · exact yields

/-- An OR element within the second of two OR elements. -/
def nestedOr : FilterTree :=
  .and andElement [.or orElement [comparison (ascii "a"), comparison (ascii "b")],
    .or orElement [.or orElement [comparison (ascii "c"), comparison (ascii "d")],
      comparison (ascii "e")]]

/-- It is a filter of the stored query. -/
theorem nestedOr_isFilter : IsFilter textReader noParameters (filterElement nestedOr) nestedOr := by
  refine ⟨by decide, by decide, rfl, ?_⟩
  simp only [nestedOr, Proper, AllProper, comparison_proper, List.length_cons, List.length_nil]
  decide

/-- Only four of the six conjunctions of the filter have a query. -/
theorem nestedOr_loses_conjunctions :
    IsFilter textReader noParameters (filterElement nestedOr) nestedOr ∧
      ¬ RefusedForLeaf textReader noParameters (filterElement nestedOr) ∧
      ¬ YieldsNormalForm textReader noParameters (filterElement nestedOr) nestedOr := by
  have six : Multiset.card (dnf textReader noParameters [(filterElement nestedOr).elementName]
      nestedOr) = 6 := by decide +kernel
  have four : ((extractXmlParameters textReader noParameters (filterElement nestedOr)).toOption.map
      fun result => result.queries.length) = some 4 := by decide +kernel
  refine ⟨nestedOr_isFilter, fun ⟨failure, failed, _⟩ => ?_, fun ⟨result, extracted, holds⟩ => ?_⟩
  · rw [failed] at four
    cases four
  · rw [extracted] at four
    have length : result.queries.length = 4 := Option.some.inj four
    have count := holds.length_eq
    rw [six, length] at count
    exact absurd count (by decide)

end SmartMetWfs.AdHoc
