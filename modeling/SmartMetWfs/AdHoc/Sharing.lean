import SmartMetWfs.AdHoc.FilterTree

/-!
# Steps of the walk

Inside an OR element the walk creates a query for every element that finds the last one
taken. An AND element without OR elements inside, below another AND element, shares the
query of that element.
-/

namespace SmartMetWfs.AdHoc

open Foundation Parameters FilterTree

variable {ν : Type} {reader : XmlReader ν} {config : StoredQueryConfig ν}
  {caseSensitiveParams : Bool}

/-! ### Steps of the walk -/

theorem Holds.append {queries queries' : List (AdHocQuery ν)}
    {form form' : DisjunctiveForm (Contribution ν)} (holds : Holds queries form)
    (holds' : Holds queries' form') : Holds (queries ++ queries') (form + form') := by
  obtain ⟨contents, carries, rfl⟩ := holds
  obtain ⟨contents', carries', rfl⟩ := holds'
  exact ⟨contents ++ contents', List.rel_append carries carries', rfl⟩

/-- No further element may use the last query. -/
def Taken (state : FilterState ν) (upperLevelAndQuery : Option Nat) : Prop :=
  ∃ before last, state.queries = before ++ [last] ∧
    (last.isQueryUsed = true ∨ upperLevelAndQuery = some last.address)

/-- The position of the next query is stored for it. -/
def storesIndex (elementTree : List ByteString) (elementName : ByteString) (level : Level) : Bool :=
  level.isFirstOrQuery = true ∧ elementTree.tail.head? = some (ascii "fes:and") ∧
    elementName ≠ ascii "fes:and" ∧ elementName ≠ ascii "fes:or"

/-- A new query for an element inside an OR element. -/
theorem nextQuery_taken {elementTree : List ByteString}
    (inside : elementTree.head? = some (ascii "fes:or")) {upperLevelAndQuery : Option Nat}
    {state : FilterState ν} (distinct : Distinct state) (taken : Taken state upperLevelAndQuery)
    (elementName : ByteString) (level : Level) :
    ∃ fresh : Level,
      nextQuery caseSensitiveParams elementTree upperLevelAndQuery elementName level state =
        .ok (fresh, ⟨state.queries ++ [.create caseSensitiveParams state.created],
          state.created + 1,
          if storesIndex elementTree elementName level then
            state.orQueryIndexes ++ [state.queries.length] else state.orQueryIndexes⟩) ∧
      fresh.isFirstOrQuery =
        (level.isFirstOrQuery && !storesIndex elementTree elementName level) := by
  obtain ⟨before, last, queries, occupied⟩ := taken
  have isOccupied : (if last.isQueryUsed then .ok true
      else isReserved state last upperLevelAndQuery) = (.ok true : Except Failure Bool) := by
    rcases occupied with used | rfl
    · rw [used, if_pos rfl]
    · have present : last ∈ state.queries := by
        rw [queries]
        exact List.mem_append_right _ List.mem_cons_self
      have reserved : isReserved state last (some last.address) = .ok true := by
        rw [isReserved, distinct.deref_eq present]
        exact congrArg Except.ok (decide_eq_true rfl)
      rw [reserved, ite_self]
  have size : (state.createQuery caseSensitiveParams).queries.length - 1 =
      state.queries.length := by
    rw [FilterState.createQuery, List.length_append]
    rfl
  unfold nextQuery
  rw [back_eq queries]
  change ∃ fresh, (if elementTree.head? ≠ some (ascii "fes:or") then _ else
    ((if last.isQueryUsed then .ok true else isReserved state last upperLevelAndQuery) >>= _)) =
      _ ∧ _
  rw [if_neg (not_not.mpr inside), isOccupied]
  by_cases stores : level.isFirstOrQuery = true ∧ elementTree.tail.head? = some (ascii "fes:and") ∧
      elementName ≠ ascii "fes:and" ∧ elementName ≠ ascii "fes:or"
  · refine ⟨⟨0, .empty, false⟩, ?_, ?_⟩
    · change (if level.isFirstOrQuery = true ∧ _ then _ else _) = _
      rw [if_pos stores, storesIndex, decide_eq_true stores, if_pos rfl, size]
      rfl
    · rw [storesIndex, decide_eq_true stores, Bool.not_true, Bool.and_false]
  · refine ⟨⟨0, .empty, level.isFirstOrQuery⟩, ?_, ?_⟩
    · change (if level.isFirstOrQuery = true ∧ _ then _ else _) = _
      rw [if_neg stores, storesIndex, decide_eq_false stores, if_neg Bool.false_ne_true]
      rfl
    · rw [storesIndex, decide_eq_false stores, Bool.not_false, Bool.and_true]

/-- A free query is used for the next element. -/
theorem nextQuery_free (elementTree : List ByteString) (elementName : ByteString) (level : Level)
    {state : FilterState ν} {before : List (AdHocQuery ν)} {slot : AdHocQuery ν}
    (queries : state.queries = before ++ [slot]) (free : Carries slot 0) :
    nextQuery caseSensitiveParams elementTree none elementName level state =
      .ok (level, state) := by
  have unused : slot.isQueryUsed = false :=
    Bool.eq_false_iff.mpr fun used => free.isQueryUsed_iff.mp used rfl
  by_cases inside : elementTree.head? = some (ascii "fes:or")
  · unfold nextQuery
    rw [back_eq queries]
    change (if elementTree.head? ≠ some (ascii "fes:or") then _ else
      ((if slot.isQueryUsed then .ok true else isReserved state slot none) >>= _)) = _
    rw [if_neg (not_not.mpr inside), unused]
    rfl
  · exact nextQuery_outside inside none elementName level (by rw [queries]; simp)

/-- What an AND element does. -/
theorem extractFilterElement_and (operator : Operator (ascii "fes:and")) (children : List Element)
    (elementTree : List ByteString) (upperLevelAndQuery : Option Nat) (level : Level)
    (state : FilterState ν) :
    extractFilterElement caseSensitiveParams reader config elementTree upperLevelAndQuery
      level state
      (operator.element children) = (do
        let andQuery ← state.back
        let walked ← extractFilterElements caseSensitiveParams reader config
          (ascii "fes:and" :: elementTree) (some andQuery.address) .start state children
        let ended ← handleEndOfAndElement caseSensitiveParams andQuery.address
          (state.queries.length - 1) walked
        return (level, ended)) := by
  have neither : (isQueryParameter (ascii "fes:and") || isComparisonOperation (ascii "fes:and")) =
      false := by decide
  unfold Operator.element extractFilterElement
  have name := operator.elementName children
  unfold Operator.element at name
  simp only [name]
  rw [neither, if_neg Bool.false_ne_true, if_pos trivial]

/-- What an OR element does. -/
theorem extractFilterElement_or (operator : Operator (ascii "fes:or")) (children : List Element)
    (elementTree : List ByteString) (upperLevelAndQuery : Option Nat) (level : Level)
    (state : FilterState ν) :
    extractFilterElement caseSensitiveParams reader config elementTree upperLevelAndQuery
      level state
      (operator.element children) = (do
        let walked ← extractFilterElements caseSensitiveParams reader config
          (ascii "fes:or" :: elementTree)
          (if elementTree.head? ≠ some (ascii "fes:or") then upperLevelAndQuery else none) .start
          state children
        return (level, walked)) := by
  have neither : (isQueryParameter (ascii "fes:or") || isComparisonOperation (ascii "fes:or")) =
      false := by decide
  have notAnd : (ascii "fes:or" : ByteString) ≠ ascii "fes:and" := by decide
  unfold Operator.element extractFilterElement
  have name := operator.elementName children
  unfold Operator.element at name
  simp only [name]
  rw [neither, if_neg Bool.false_ne_true, if_neg notAnd]

/-! ### Sharing the query of an AND element -/

/-- What a filter without OR elements asks for has been added to the last query. -/
structure Shared (before : List (AdHocQuery ν)) (andQuery : AdHocQuery ν)
    (content : Multiset (Contribution ν)) (form : DisjunctiveForm (Contribution ν))
    (result : FilterState ν) : Prop where
  distinct : Distinct result
  few : result.orQueryIndexes.length ≤ 1
  queries : ∃ written own, result.queries = before ++ [written] ∧
    written.address = andQuery.address ∧ form = {own} ∧ Carries written (content + own)

/-- The end of an AND element that shares the query of the one around it. -/
theorem extractFilterElement_sharedAnd {operator : Operator (ascii "fes:and")}
    {children : List FilterTree} {elementTree : List ByteString} {upperLevelAndQuery : Option Nat}
    {level : Level} {state : FilterState ν} {before : List (AdHocQuery ν)}
    {andQuery : AdHocQuery ν} {content : Multiset (Contribution ν)} (nonempty : children ≠ [])
    (queries : state.queries = before ++ [andQuery])
    (walked : Meets LeafRefused
      (extractFilterElements caseSensitiveParams reader config (ascii "fes:and" :: elementTree)
        (some andQuery.address) .start state (elements children)) fun result =>
      Shared before andQuery content
          (conjunction reader config (ascii "fes:and" :: elementTree) children) result ∧
        (children ≠ [] →
          ∀ own ∈ conjunction reader config (ascii "fes:and" :: elementTree) children, own ≠ 0)) :
    Meets LeafRefused
      (extractFilterElement caseSensitiveParams reader config elementTree upperLevelAndQuery level
        state (FilterTree.and operator children).element) fun result =>
      Shared before andQuery content (dnf reader config elementTree (.and operator children))
          result.2 ∧ result.2.orQueryIndexes = [] ∧
        ∀ own ∈ dnf reader config elementTree (.and operator children), own ≠ 0 := by
  have index : state.queries.length - 1 = before.length := by
    rw [queries, List.length_append]
    rfl
  rw [FilterTree.element, extractFilterElement_and, back_eq queries, index, dnf]
  refine walked.bind ?_
  rintro result ⟨⟨distinct, few, written, own, queriesAfter, sameAddress, isForm, carries⟩, nonzero⟩
  have ownNonzero : own ≠ 0 := by
    apply nonzero nonempty own
    rw [isForm]
    exact Multiset.mem_singleton_self own
  have used : written.isQueryUsed = true := by
    refine carries.isQueryUsed_iff.mpr fun none => ownNonzero ?_
    have below := Multiset.le_add_left own content
    rw [none] at below
    exact Multiset.le_zero.mp below
  have ended := @handleEndOfAndElement_last _ caseSensitiveParams _ distinct _ _ queriesAfter
    (Nat.lt_succ_of_le few) used
  rw [sameAddress] at ended
  rw [ended]
  exact Meets.ok ⟨⟨distinct.with_indexes [], Nat.zero_le 1, written, own, queriesAfter, sameAddress,
    isForm, carries⟩, rfl, nonzero nonempty⟩

/-- A leaf in an AND element. -/
theorem extractFilterElement_sharedLeaf {element : Element} {elementTree : List ByteString}
    (proper : Proper reader config (ascii "fes:and" :: elementTree) (.leaf element)) (level : Level)
    {state : FilterState ν} (distinct : Distinct state) {before after : List (AdHocQuery ν)}
    {andQuery : AdHocQuery ν} (queries : state.queries = before ++ andQuery :: after)
    {content : Multiset (Contribution ν)} (carries : Carries andQuery content) :
    Meets LeafRefused
      (extractFilterElement caseSensitiveParams reader config (ascii "fes:and" :: elementTree)
        (some andQuery.address) level state element) fun result =>
      ∃ written own, result.2 = { state with queries := before ++ written :: after } ∧
        written.address = andQuery.address ∧ Distinct result.2 ∧
        dnf reader config (ascii "fes:and" :: elementTree) (.leaf element) = {own} ∧ own ≠ 0 ∧
        Carries written (content + own) := by
  have outside : (ascii "fes:and" :: elementTree).head? ≠ some (ascii "fes:or") := by
    rw [List.head?_cons]
    decide
  rw [Proper] at proper
  refine (extractFilterElement_leaf caseSensitiveParams element level proper.1 distinct queries
    (.inl ⟨rfl, outside⟩) carries).imp ?_
  rintro ⟨next, result⟩ ⟨_, written, own, rfl, sameAddress, isOwn, carriesOwn⟩
  refine ⟨written, own, rfl, sameAddress, distinct.replace queries sameAddress _, ?_, ?_,
    carriesOwn⟩
  · rw [dnf, isOwn]
    rfl
  · rintro rfl
    exact proper.2 isOwn

mutual

/-- An element without alternatives adds its content to the query that is shared. -/
theorem extractFilterElement_shared (tree : FilterTree) :
    ∀ {elementTree : List ByteString} (level : Level) {state : FilterState ν}
      {before : List (AdHocQuery ν)} {andQuery : AdHocQuery ν}
      {content : Multiset (Contribution ν)}, tree.orFree = true →
      Proper reader config (ascii "fes:and" :: elementTree) tree → Distinct state →
      state.orQueryIndexes.length ≤ 1 → state.queries = before ++ [andQuery] →
      Carries andQuery content →
      Meets LeafRefused
        (extractFilterElement caseSensitiveParams reader config (ascii "fes:and" :: elementTree)
          (some andQuery.address) level state tree.element) fun result =>
        Shared before andQuery content
            (dnf reader config (ascii "fes:and" :: elementTree) tree) result.2 ∧
          ∀ own ∈ dnf reader config (ascii "fes:and" :: elementTree) tree, own ≠ 0 := by
  intro elementTree level state before andQuery content isOrFree proper distinct few queries carries
  match tree, isOrFree, proper with
  | .leaf element, _, proper =>
      refine (extractFilterElement_sharedLeaf proper level distinct queries carries).imp ?_
      rintro ⟨next, result⟩ ⟨written, own, rfl, sameAddress, distinctAfter, isForm, nonzero,
        carriesOwn⟩
      refine ⟨⟨distinctAfter, few, written, own, rfl, sameAddress, isForm, carriesOwn⟩, ?_⟩
      rw [isForm]
      exact fun other isOwn => Multiset.mem_singleton.mp isOwn ▸ nonzero
  | .and operator children, isOrFree, proper =>
      rw [orFree] at isOrFree
      rw [Proper] at proper
      have nonempty : children ≠ [] := by
        rintro rfl
        exact absurd proper.1 (by decide)
      have walked := extractFilterElements_shared children .start isOrFree proper.2 distinct few
        queries carries
      refine (extractFilterElement_sharedAnd nonempty queries walked).imp ?_
      exact fun result holds => ⟨holds.1, holds.2.2⟩

/-- Several elements without alternatives add their contents to the shared query. -/
theorem extractFilterElements_shared (children : List FilterTree) :
    ∀ {elementTree : List ByteString} (level : Level) {state : FilterState ν}
      {before : List (AdHocQuery ν)} {andQuery : AdHocQuery ν}
      {content : Multiset (Contribution ν)}, allOrFree children = true →
      AllProper reader config (ascii "fes:and" :: elementTree) children → Distinct state →
      state.orQueryIndexes.length ≤ 1 → state.queries = before ++ [andQuery] →
      Carries andQuery content →
      Meets LeafRefused
        (extractFilterElements caseSensitiveParams reader config (ascii "fes:and" :: elementTree)
          (some andQuery.address) level state (elements children)) fun result =>
        Shared before andQuery content
            (conjunction reader config (ascii "fes:and" :: elementTree) children) result ∧
          (children ≠ [] →
            ∀ own ∈ conjunction reader config (ascii "fes:and" :: elementTree) children,
              own ≠ 0) := by
  intro elementTree level state before andQuery content isOrFree proper distinct few queries carries
  match children, isOrFree, proper with
  | [], _, _ =>
      unfold elements extractFilterElements
      refine Meets.ok ⟨⟨distinct, few, andQuery, 0, queries, rfl, rfl, ?_⟩, fun some =>
        absurd rfl some⟩
      rw [add_zero]
      exact carries
  | tree :: rest, isOrFree, proper =>
      rw [allOrFree, Bool.and_eq_true] at isOrFree
      rw [AllProper] at proper
      have outside : (ascii "fes:and" :: elementTree).head? ≠ some (ascii "fes:or") := by
        rw [List.head?_cons]
        decide
      have nonempty : state.queries ≠ [] := by
        rw [queries]
        simp
      unfold elements extractFilterElements conjunction
      rw [if_neg (elementName_cases proper.1).1, nextQuery_outside outside _ _ _ nonempty]
      refine (extractFilterElement_shared tree level isOrFree.1 proper.1 distinct few queries
        carries).bind ?_
      intro ⟨nextLevel, next⟩
        ⟨⟨distinctNext, fewNext, written, own, queriesNext, sameAddress, isForm,
        carriesOwn⟩, nonzero⟩
      have walked := @extractFilterElements_shared rest elementTree nextLevel next before written _
        isOrFree.2 proper.2 distinctNext fewNext queriesNext carriesOwn
      rw [sameAddress] at walked
      refine walked.imp ?_
      intro result ⟨⟨distinctAfter, fewAfter, rewritten, more, queriesAfter, sameAddress', isMore,
        carriesMore⟩, _⟩
      refine ⟨⟨distinctAfter, fewAfter, rewritten, own + more, queriesAfter,
        sameAddress'.trans sameAddress, ?_, ?_⟩, fun _ => ?_⟩
      · rw [isForm, isMore, DisjunctiveForm.singleton_conjoin, Multiset.map_singleton]
      · rw [← add_assoc]
        exact carriesMore
      · exact DisjunctiveForm.ne_zero_of_mem_conjoin nonzero

end

end SmartMetWfs.AdHoc
