import Mathlib.Data.List.Range
import SmartMetWfs.Request.GetPropertyValue

/-!
# Loops over values

What one result adds to the values, and what a run over all results adds. A page from the
first value on is returned as far as there are values, and a later page if it lies inside
the first result that has values; every other page that is not empty asks for an item
outside a result.
-/

namespace SmartMetWfs.Request

open Foundation Xml

/-! ### One result -/

/-- What is appended to the document, and at which positions the values stand. -/
structure Appended (before after : ValueCollection) (nodes : List Node) (positions : List Nat) :
    Prop where
  isElement : after.root.getNodeType = .elementNode
  children : after.root.children = before.root.children ++ nodes.map valueMember
  positions : after.positions = before.positions ++ positions

theorem Appended.refl {values : ValueCollection}
    (isElement : values.root.getNodeType = .elementNode) :
    Appended values values [] [] :=
  ⟨isElement, (List.append_nil _).symm, (List.append_nil _).symm⟩

theorem Appended.trans {first second third : ValueCollection} {nodes more : List Node}
    {positions others : List Nat} (left : Appended first second nodes positions)
    (right : Appended second third more others) :
    Appended first third (nodes ++ more) (positions ++ others) where
  isElement := right.isElement
  children := by rw [right.children, left.children, List.map_append, List.append_assoc]
  positions := by rw [right.positions, left.positions, List.append_assoc]

/-- A number that has been decreased several times. -/
def decreaseTimes (count : Nat) (value : Option Int) : Option Int :=
  value.map fun value => if 0 < value then max (value - count) 0 else value

theorem decreaseTimes_zero (value : Option Int) : decreaseTimes 0 value = value := by
  cases value with
  | none => rfl
  | some value =>
      simp only [decreaseTimes, Option.map_some, Option.some.injEq]
      split <;> omega

theorem decrease_decreaseTimes (count : Nat) (value : Option Int) :
    decrease (decreaseTimes count value) = decreaseTimes (count + 1) value := by
  cases value with
  | none => rfl
  | some value =>
      simp only [decrease, decreaseTimes, Option.map_some, Option.some.injEq]
      by_cases positive : 0 < value
      · simp only [positive, if_true]
        split <;> omega
      · simp only [positive, if_false]

/-- What the loop over a part of a result does. -/
structure Looped (before after : ValueCollection) (offset first count : Nat) (items : List Node) :
    Prop where
  appended : Appended before after (page first count items) (List.range' (offset + first) count)
  numMatched : after.numMatched = before.numMatched
  maxMembers : after.maxMembers = decreaseTimes count before.maxMembers
  startIndex : after.startIndex = decreaseTimes count before.startIndex

theorem page_succ {α : Type} {first count : Nat} {items : List α}
    (inside : first + count < items.length) :
    page first (count + 1) items = page first count items ++ [items[first + count]] := by
  have more : count < (items.drop first).length := by
    rw [List.length_drop]
    omega
  rw [page, page, List.take_succ_eq_append_getElem more, List.getElem_drop]

theorem appendMember_loop {xps : Snapshot} (offset : Nat) {first count : Nat}
    (inside : first + count ≤ xps.size) (values : ValueCollection)
    (isElement : values.root.getNodeType = .elementNode) :
    ∃ after, (List.range count).foldlM (appendMember xps offset first) values = .ok after ∧
      Looped values after offset first count xps.items := by
  induction count with
  | zero =>
      refine ⟨values, rfl, ?_, rfl, (decreaseTimes_zero _).symm, (decreaseTimes_zero _).symm⟩
      simpa [page] using Appended.refl isElement
  | succ count ih =>
      obtain ⟨before, ran, looped⟩ := ih (by omega)
      have within : first + count < xps.size := by omega
      have got := Snapshot.getItem_of_lt within
      rw [Int.natCast_add] at got
      rw [List.range_succ, List.foldlM_append, ran, ok_bind, List.foldlM_cons]
      have step : appendMember xps offset first before count = .ok { before with
          root := before.root.appendChild (valueMember xps.items[first + count])
          numReturned := before.numReturned + 1
          startIndex := decrease before.startIndex
          maxMembers := decrease before.maxMembers
          positions := before.positions ++ [offset + ((first : Int) + count).toNat] } := by
        rw [appendMember, got]
        rfl
      rw [step, ok_bind]
      refine ⟨_, rfl, ⟨?_, ?_, ?_⟩, looped.numMatched, ?_, ?_⟩
      · exact (Node.getNodeType_appendChild _ _).trans looped.appended.isElement
      · rw [Node.children_appendChild looped.appended.isElement, looped.appended.children,
          page_succ within, List.map_append, List.append_assoc]
        rfl
      · rw [looped.appended.positions, List.range'_concat, List.append_assoc]
        have position : offset + ((first : Int) + count).toNat = offset + first + 1 * count := by
          omega
        rw [position]
      · rw [looped.maxMembers, decrease_decreaseTimes]
      · rw [looped.startIndex, decrease_decreaseTimes]

/-- A loop that leaves the result does not end well. -/
theorem appendMember_loop_outside {xps : Snapshot} (offset : Nat) {first : Int} {count : Nat}
    (positive : count ≠ 0) (outside : first < 0 ∨ xps.size < first + count)
    (values after : ValueCollection) :
    (List.range count).foldlM (appendMember xps offset first) values ≠ .ok after := by
  induction count generalizing after with
  | zero => exact absurd rfl positive
  | succ count ih =>
      intro ran
      rw [List.range_succ, List.foldlM_append] at ran
      obtain ⟨middle, before, last⟩ := ok_of_bind ran
      by_cases earlier : count ≠ 0 ∧ (first < 0 ∨ xps.size < first + count)
      · exact ih earlier.1 earlier.2 middle before
      · have missing : xps.getItem (first + count) = none :=
          Snapshot.getItem_outside (by omega)
        rw [List.foldlM_cons, appendMember, missing] at last
        cases last

variable {context : RequestContext}

theorem copies_eq (source : Node) (values : ValueCollection)
    (isElement : values.root.getNodeType = .elementNode) :
    ∃ root isTimestampSet isSchemaLocationSet,
      copySchemaLocation context source (copyTimestamp source values) =
        { values with root, isTimestampSet, isSchemaLocationSet } ∧
      root.getNodeType = .elementNode ∧ root.children = values.root.children := by
  have stamped : ∃ root isTimestampSet, copyTimestamp source values =
      { values with root, isTimestampSet } ∧
        root.getNodeType = .elementNode ∧ root.children = values.root.children := by
    unfold copyTimestamp
    split
    · exact ⟨values.root, values.isTimestampSet, rfl, isElement, rfl⟩
    · split
      · refine ⟨_, _, rfl, ?_, ?_⟩ <;> simp [isElement]
      · exact ⟨values.root, values.isTimestampSet, rfl, isElement, rfl⟩
  obtain ⟨root, isTimestampSet, equal, rootIsElement, children⟩ := stamped
  rw [equal]
  unfold copySchemaLocation
  split
  · exact ⟨root, isTimestampSet, values.isSchemaLocationSet, rfl, rootIsElement, children⟩
  · refine ⟨_, isTimestampSet, true, rfl, ?_, ?_⟩ <;> simp [rootIsElement, children]

theorem calculateLoopLimits_ok {maxMembers startIndex : Option Int} {numMembers : Nat}
    {limits : Int × Int}
    (calculated : calculateLoopLimits maxMembers startIndex numMembers = .ok limits) :
    limits = (startIndex.getD 0,
      startIndex.getD 0 + min (maxMembers.getD unlimited) numMembers - 1) := by
  unfold calculateLoopLimits at calculated
  by_cases afterLast : InInt (startIndex.getD 0 + min (maxMembers.getD unlimited) numMembers)
  · rw [checkedInt_ok afterLast, ok_bind] at calculated
    by_cases last : InInt (startIndex.getD 0 + min (maxMembers.getD unlimited) numMembers - 1)
    · rw [checkedInt_ok last, ok_bind] at calculated
      exact (Except.ok.inj calculated).symm
    · rw [checkedInt_error last, error_bind] at calculated
      cases calculated
  · rw [checkedInt_error afterLast, error_bind] at calculated
    cases calculated

theorem calculateLoopLimits_inside {maxMembers startIndex : Option Int}
    {numMembers first count : Nat}
    (starts : startIndex.getD 0 = first)
    (counts : min (maxMembers.getD unlimited) (numMembers : Int) = count)
    (inside : first + count ≤ numMembers) (fits : numMembers < 2 ^ 31) :
    calculateLoopLimits maxMembers startIndex numMembers =
      .ok ((first : Int), (first : Int) + count - 1) := by
  have afterLast : InInt ((first : Int) + count) := by
    unfold InInt
    omega
  have last : InInt ((first : Int) + count - 1) := by
    unfold InInt
    omega
  unfold calculateLoopLimits
  rw [starts, counts, checkedInt_ok afterLast, ok_bind, checkedInt_ok last, ok_bind]
  rfl

theorem appendMembers_inside (values : ValueCollection) (extraction : Extraction) (offset : Nat)
    {first count : Nat} (isElement : values.root.getNodeType = .elementNode)
    (starts : values.startIndex.getD 0 = first)
    (counts : min (values.maxMembers.getD unlimited) (extraction.xps.size : Int) = count)
    (inside : first + count ≤ extraction.xps.size) :
    ∃ after, appendMembers context extraction offset values = .ok after ∧
      Looped values after offset first count extraction.xps.items := by
  obtain ⟨root, isTimestampSet, isSchemaLocationSet, copies, rootIsElement, children⟩ :=
    @copies_eq context extraction.root values isElement
  obtain ⟨after, ran, looped⟩ := appendMember_loop offset inside
    { values with root, isTimestampSet, isSchemaLocationSet } rootIsElement
  have steps : ((first : Int) + count - 1 - first + 1).toNat = count := by omega
  refine ⟨after, ?_, ⟨looped.appended.isElement, ?_, looped.appended.positions⟩, looped.numMatched,
    looped.maxMembers, looped.startIndex⟩
  · rw [appendMembers, calculateLoopLimits_inside starts counts inside extraction.xps.fits, ok_bind,
      steps, copies]
    exact ran
  · rw [looped.appended.children, children]

/-- A loop that asks for an item outside the result does not end well. -/
theorem appendMembers_outside {values : ValueCollection} (extraction : Extraction) (offset : Nat)
    (positive : 0 < min (values.maxMembers.getD unlimited) (extraction.xps.size : Int))
    (outside : values.startIndex.getD 0 < 0 ∨ (extraction.xps.size : Int) <
      values.startIndex.getD 0 + min (values.maxMembers.getD unlimited) extraction.xps.size)
    (after : ValueCollection) : appendMembers context extraction offset values ≠ .ok after := by
  intro ran
  unfold appendMembers at ran
  obtain ⟨limits, calculated, looped⟩ := ok_of_bind ran
  rw [calculateLoopLimits_ok calculated] at looped
  exact appendMember_loop_outside offset (by omega) (by omega) _ after looped

theorem addMatched_ok {values : ValueCollection} {numMembers : Nat}
    (few : values.numMatched + numMembers < 2 ^ 31) :
    addMatched values numMembers =
      .ok { values with numMatched := values.numMatched + numMembers } :=
  if_pos few

theorem appendExtraction_eq {values : ValueCollection} {extraction : Extraction}
    (nonempty : 0 < extraction.xps.size)
    (few : values.numMatched + extraction.xps.size < 2 ^ 31) :
    appendExtraction context values extraction =
      if wantsMore values then
        appendMembers context extraction values.numMatched
          { values with numMatched := values.numMatched + extraction.xps.size }
      else .ok { values with numMatched := values.numMatched + extraction.xps.size } := by
  rw [appendExtraction, if_pos nonempty, addMatched_ok few, ok_bind]
  rfl

/-- A result of which more values are wanted and can be had. -/
theorem appendExtraction_inside {values : ValueCollection} {extraction : Extraction}
    {first count : Nat} (isElement : values.root.getNodeType = .elementNode)
    (nonempty : 0 < extraction.xps.size)
    (few : values.numMatched + extraction.xps.size < 2 ^ 31) (wanted : wantsMore values = true)
    (starts : values.startIndex.getD 0 = first)
    (counts : min (values.maxMembers.getD unlimited) (extraction.xps.size : Int) = count)
    (inside : first + count ≤ extraction.xps.size) :
    ∃ after, appendExtraction context values extraction = .ok after ∧
      Appended values after (page first count extraction.xps.items)
        (List.range' (values.numMatched + first) count) ∧
      after.numMatched = values.numMatched + extraction.xps.size ∧
      after.maxMembers = decreaseTimes count values.maxMembers ∧
      after.startIndex = decreaseTimes count values.startIndex := by
  obtain ⟨after, ran, looped⟩ := @appendMembers_inside context
    { values with numMatched := values.numMatched + extraction.xps.size } extraction
    values.numMatched _ _ isElement starts counts inside
  have appended := looped.appended
  refine ⟨after, ?_, ⟨appended.isElement, appended.children, appended.positions⟩,
    looped.numMatched, looped.maxMembers, looped.startIndex⟩
  rw [appendExtraction_eq nonempty few, if_pos wanted]
  exact ran

/-- A result of which no more values are wanted. -/
theorem appendExtraction_unwanted {values : ValueCollection} {extraction : Extraction}
    (few : values.numMatched + extraction.xps.size < 2 ^ 31) (unwanted : wantsMore values = false) :
    appendExtraction context values extraction =
      .ok { values with numMatched := values.numMatched + extraction.xps.size } := by
  by_cases nonempty : 0 < extraction.xps.size
  · rw [appendExtraction_eq nonempty few, unwanted]
    rfl
  · rw [appendExtraction, if_neg nonempty, Nat.eq_zero_of_not_pos nonempty]
    rfl

theorem appendExtraction_few {values after : ValueCollection} {extraction : Extraction}
    (nonempty : 0 < extraction.xps.size)
    (ran : appendExtraction context values extraction = .ok after) :
    values.numMatched + extraction.xps.size < 2 ^ 31 := by
  by_contra many
  rw [appendExtraction, if_pos nonempty, addMatched, if_neg many] at ran
  cases ran

theorem wanted_positive {values : ValueCollection} {numMembers : Nat} (nonempty : 0 < numMembers)
    (wanted : wantsMore values = true) :
    0 < min (values.maxMembers.getD unlimited) (numMembers : Int) := by
  unfold wantsMore at wanted
  cases limit : values.maxMembers with
  | none =>
      simp only [Option.getD_none, unlimited]
      omega
  | some maxMembers =>
      rw [limit] at wanted
      have more := of_decide_eq_true wanted
      simp only [Option.getD_some]
      omega

theorem appendExtraction_outside {values : ValueCollection} {extraction : Extraction}
    (nonempty : 0 < extraction.xps.size) (wanted : wantsMore values = true)
    (outside : values.startIndex.getD 0 < 0 ∨ (extraction.xps.size : Int) <
      values.startIndex.getD 0 + min (values.maxMembers.getD unlimited) extraction.xps.size)
    (after : ValueCollection) : appendExtraction context values extraction ≠ .ok after := by
  intro ran
  rw [appendExtraction_eq nonempty (appendExtraction_few nonempty ran), if_pos wanted] at ran
  exact @appendMembers_outside context
    { values with numMatched := values.numMatched + extraction.xps.size } extraction
    values.numMatched (wanted_positive nonempty wanted) outside after ran

/-- The matching values are counted whatever is returned. -/
theorem appendExtraction_numMatched {values after : ValueCollection} {extraction : Extraction}
    (isElement : values.root.getNodeType = .elementNode)
    (ran : appendExtraction context values extraction = .ok after) :
    after.numMatched = values.numMatched + extraction.xps.size ∧
      after.root.getNodeType = .elementNode := by
  by_cases nonempty : 0 < extraction.xps.size
  · have few := appendExtraction_few nonempty ran
    cases wanted : wantsMore values with
    | false =>
        rw [appendExtraction_unwanted few wanted] at ran
        cases ran
        exact ⟨rfl, isElement⟩
    | true =>
        have positive := wanted_positive nonempty wanted
        by_cases outside : values.startIndex.getD 0 < 0 ∨ (extraction.xps.size : Int) <
            values.startIndex.getD 0 + min (values.maxMembers.getD unlimited) extraction.xps.size
        · exact absurd ran (appendExtraction_outside nonempty wanted outside after)
        · obtain ⟨after', ran', appended, numMatched, _⟩ :=
            @appendExtraction_inside context values extraction (values.startIndex.getD 0).toNat
              (min (values.maxMembers.getD unlimited) (extraction.xps.size : Int)).toNat isElement
              nonempty few wanted (by omega) (by omega) (by omega)
          cases ran.symm.trans ran'
          exact ⟨numMatched, appended.isElement⟩
  · rw [appendExtraction, if_neg nonempty] at ran
    cases ran
    exact ⟨(Nat.eq_zero_of_not_pos nonempty).symm ▸ rfl, isElement⟩

/-! ### All results -/

def allValues (extractions : List Extraction) : List Node :=
  extractions.flatMap fun extraction => extraction.xps.items

def sizes (extractions : List Extraction) : List Nat :=
  extractions.map fun extraction => extraction.xps.size

theorem length_allValues (extractions : List Extraction) :
    (allValues extractions).length = (sizes extractions).sum := by
  rw [allValues, List.length_flatMap]
  rfl

@[simp] theorem sizes_cons (extraction : Extraction) (extractions : List Extraction) :
    sizes (extraction :: extractions) = extraction.xps.size :: sizes extractions := rfl

@[simp] theorem allValues_cons (extraction : Extraction) (extractions : List Extraction) :
    allValues (extraction :: extractions) = extraction.xps.items ++ allValues extractions := rfl

/-- A run that ends well has not counted beyond the largest `int`. -/
theorem run_few {extractions : List Extraction} {values after : ValueCollection}
    (isElement : values.root.getNodeType = .elementNode)
    (ran : extractions.foldlM (appendExtraction context) values = .ok after) :
    (sizes extractions).sum = 0 ∨ values.numMatched + (sizes extractions).sum < 2 ^ 31 := by
  induction extractions generalizing values with
  | nil => exact .inl rfl
  | cons extraction extractions ih =>
      rw [List.foldlM_cons] at ran
      obtain ⟨middle, first, ranRest⟩ := ok_of_bind ran
      obtain ⟨numMatched, middleIsElement⟩ := appendExtraction_numMatched isElement first
      have rest := ih middleIsElement ranRest
      rw [sizes_cons, List.sum_cons]
      by_cases nonempty : 0 < extraction.xps.size
      · have few := appendExtraction_few nonempty first
        omega
      · omega

/-- When no more values are wanted the rest is only counted. -/
theorem run_unwanted {extractions : List Extraction} {values : ValueCollection}
    (isElement : values.root.getNodeType = .elementNode) (unwanted : wantsMore values = false)
    (few : values.numMatched + (sizes extractions).sum < 2 ^ 31) :
    ∃ after, extractions.foldlM (appendExtraction context) values = .ok after ∧
      Appended values after [] [] := by
  induction extractions generalizing values with
  | nil => exact ⟨values, rfl, .refl isElement⟩
  | cons extraction extractions ih =>
      rw [sizes_cons, List.sum_cons] at few
      rw [List.foldlM_cons, appendExtraction_unwanted (by omega) unwanted, ok_bind]
      obtain ⟨after, ran, appended⟩ := @ih
        { values with numMatched := values.numMatched + extraction.xps.size } isElement unwanted
        (by simpa only [Nat.add_assoc] using few)
      exact ⟨after, ran, appended.isElement, appended.children, appended.positions⟩

/-- An empty result changes nothing. -/
theorem appendExtraction_empty {values : ValueCollection} {extraction : Extraction}
    (empty : extraction.xps.size = 0) :
    appendExtraction context values extraction = .ok values := by
  rw [appendExtraction, if_neg (by omega)]
  rfl

theorem page_zero_append {α : Type} (count : Nat) (items more : List α) :
    page 0 count (items ++ more) =
      page 0 (min count items.length) items ++ page 0 (count - min count items.length) more := by
  rw [page, page, page, List.drop_zero, List.drop_zero, List.drop_zero, List.take_append]
  by_cases short : count ≤ items.length
  · simp [short]
  · have whole : min count items.length = items.length := by omega
    rw [whole, List.take_of_length_le (by omega), List.take_length]

/-- The positions of a page that goes through two results. -/
theorem range'_min_append (first count numMembers more : Nat) :
    List.range' first (min count (numMembers + more)) =
      List.range' first (min count numMembers) ++
        List.range' (first + numMembers) (min (count - min count numMembers) more) := by
  by_cases short : count ≤ numMembers
  · have zero : count - min count numMembers = 0 := by omega
    have same : min count (numMembers + more) = min count numMembers := by omega
    simp [zero, same]
  · have whole : min count numMembers = numMembers := by omega
    have same : min count (numMembers + more) = numMembers + min (count - numMembers) more := by
      omega
    rw [whole, same, List.range'_append_1]

/-- From the first value on every page is returned as far as there are values. -/
theorem run_fromFirst {extractions : List Extraction} {values : ValueCollection} {count : Nat}
    (isElement : values.root.getNodeType = .elementNode)
    (starts : values.startIndex.getD 0 = 0) (limit : values.maxMembers = some (count : Int))
    (few : values.numMatched + (sizes extractions).sum < 2 ^ 31) :
    ∃ after, extractions.foldlM (appendExtraction context) values = .ok after ∧
      Appended values after (page 0 count (allValues extractions))
        (List.range' values.numMatched (min count (sizes extractions).sum)) := by
  induction extractions generalizing values count with
  | nil =>
      refine ⟨values, rfl, ?_⟩
      simpa [allValues, sizes, page] using Appended.refl isElement
  | cons extraction extractions ih =>
      rw [sizes_cons, List.sum_cons] at few
      rw [List.foldlM_cons, allValues_cons, sizes_cons, List.sum_cons, page_zero_append]
      by_cases empty : extraction.xps.size = 0
      · have noItems : extraction.xps.items = [] := List.length_eq_zero_iff.mp empty
        obtain ⟨after, ran, appended⟩ := ih isElement starts limit (by omega)
        refine ⟨after, ?_, ?_⟩
        · rw [appendExtraction_empty empty, ok_bind, ran]
        · simpa [noItems, page, empty] using appended
      · by_cases none : count = 0
        · have unwanted : wantsMore values = false := by simp [wantsMore, limit, none]
          obtain ⟨after, ran, appended⟩ := @run_unwanted context (extraction :: extractions) values
            isElement unwanted (by rw [sizes_cons, List.sum_cons]; exact few)
          refine ⟨after, by rw [← ran, List.foldlM_cons], ?_⟩
          simpa [none, page] using appended
        · have wanted : wantsMore values = true := by
            simp only [wantsMore, limit, decide_eq_true_eq]
            omega
          obtain ⟨middle, first, appended, numMatched, maxMembers, startIndex⟩ :=
            @appendExtraction_inside context values extraction 0 (min count extraction.xps.size)
              isElement (by omega) (by omega) wanted starts
              (by rw [limit, Option.getD_some]; omega) (by omega)
          rw [first, ok_bind]
          have limit' : middle.maxMembers =
              some ((count - min count extraction.xps.size : Nat) : Int) := by
            rw [maxMembers, limit]
            simp only [decreaseTimes, Option.map_some, Option.some.injEq]
            split <;> omega
          have starts' : middle.startIndex.getD 0 = 0 := by
            rw [startIndex]
            cases start : values.startIndex with
            | none => rfl
            | some value =>
                rw [start] at starts
                simp only [Option.getD_some] at starts
                simp [decreaseTimes, starts]
          obtain ⟨after, ran, rest⟩ := ih appended.isElement starts' limit' (by omega)
          refine ⟨after, ran, ?_⟩
          rw [numMatched] at rest
          rw [range'_min_append]
          exact appended.trans rest

/-- The number of values of the first result that has any. -/
def firstSize : List Nat → Nat
  | [] => 0
  | size :: sizes => if size = 0 then firstSize sizes else size

theorem firstSize_le (sizes : List Nat) : firstSize sizes ≤ sizes.sum := by
  induction sizes with
  | nil => exact Nat.le_refl 0
  | cons size sizes ih =>
      rw [firstSize, List.sum_cons]
      split <;> omega

/-- The results before the first one that has values change nothing. -/
theorem exists_first {extractions : List Extraction} (some : 0 < (sizes extractions).sum)
    (values : ValueCollection) :
    ∃ extraction rest, 0 < extraction.xps.size ∧
      firstSize (sizes extractions) = extraction.xps.size ∧
      (sizes extractions).sum = extraction.xps.size + (sizes rest).sum ∧
      allValues extractions = extraction.xps.items ++ allValues rest ∧
      extractions.foldlM (appendExtraction context) values =
        (extraction :: rest).foldlM (appendExtraction context) values := by
  induction extractions with
  | nil => exact absurd some (Nat.lt_irrefl 0)
  | cons extraction extractions ih =>
      by_cases empty : extraction.xps.size = 0
      · have noItems : extraction.xps.items = [] := List.length_eq_zero_iff.mp empty
        rw [sizes_cons, List.sum_cons, empty, Nat.zero_add] at some
        obtain ⟨first, rest, nonempty, size, total, members, same⟩ := ih some
        refine ⟨first, rest, nonempty, ?_, ?_, ?_, ?_⟩
        · rw [sizes_cons, firstSize, if_pos empty, size]
        · rw [sizes_cons, List.sum_cons, empty, Nat.zero_add, total]
        · rw [allValues_cons, noItems, members]
          rfl
        · rw [List.foldlM_cons, appendExtraction_empty empty, ok_bind, same]
      · refine ⟨extraction, extractions, by omega, ?_, List.sum_cons, rfl, rfl⟩
        rw [sizes_cons, firstSize, if_neg empty]

/-- A page that begins later is returned if the first result with values has all of it. -/
theorem run_fromLater {extractions : List Extraction} {values : ValueCollection}
    {start count : Nat} (isElement : values.root.getNodeType = .elementNode)
    (starts : values.startIndex = some (start : Int))
    (limit : values.maxMembers = some (count : Int))
    (positive : 0 < count) (inside : start + count ≤ firstSize (sizes extractions))
    (few : values.numMatched + (sizes extractions).sum < 2 ^ 31) :
    ∃ after, extractions.foldlM (appendExtraction context) values = .ok after ∧
      Appended values after (page start count (allValues extractions))
        (List.range' (values.numMatched + start) count) := by
  have some : 0 < (sizes extractions).sum := by
    by_contra none
    have bounded := firstSize_le (sizes extractions)
    omega
  obtain ⟨extraction, rest, nonempty, size, total, members, same⟩ :=
    @exists_first context extractions some values
  rw [size] at inside
  have wanted : wantsMore values = true := by
    simp only [wantsMore, limit, decide_eq_true_eq]
    omega
  obtain ⟨middle, first, appended, numMatched, maxMembers, _⟩ :=
    @appendExtraction_inside context values extraction start count isElement nonempty (by omega)
      wanted (by rw [starts, Option.getD_some]) (by rw [limit, Option.getD_some]; omega) inside
  have unwanted : wantsMore middle = false := by
    rw [wantsMore, maxMembers, limit]
    simp only [decreaseTimes, Option.map_some, decide_eq_false_iff_not]
    split <;> omega
  obtain ⟨after, ran, afterwards⟩ := @run_unwanted context rest middle appended.isElement unwanted
    (by omega)
  refine ⟨after, ?_, ?_⟩
  · rw [same, List.foldlM_cons, first, ok_bind, ran]
  · have both := appended.trans afterwards
    have onPage : page start count (extraction.xps.items ++ allValues rest) =
        page start count extraction.xps.items := by
      have begins : start ≤ extraction.xps.items.length := by
        simp only [Snapshot.size] at inside
        omega
      have ends : count ≤ (extraction.xps.items.drop start).length := by
        rw [List.length_drop]
        simp only [Snapshot.size] at inside
        omega
      rw [page, page, List.drop_append_of_le_length begins, List.take_append_of_le_length ends]
    rw [members, onPage]
    simpa only [List.append_nil] using both

/-- Any other page that is not empty asks for an item outside the first result. -/
theorem run_outside {extractions : List Extraction} {values : ValueCollection} {start count : Int}
    (starts : values.startIndex = some start) (limit : values.maxMembers = some count)
    (positive : 0 < count) (later : start ≠ 0)
    (outside : start < 0 ∨ (firstSize (sizes extractions) : Int) < start + count)
    (nonempty : 0 < (sizes extractions).sum) (after : ValueCollection) :
    extractions.foldlM (appendExtraction context) values ≠ .ok after := by
  intro ran
  obtain ⟨extraction, rest, some, size, _, _, same⟩ :=
    @exists_first context extractions nonempty values
  have wanted : wantsMore values = true := by
    simp only [wantsMore, limit, decide_eq_true_eq]
    exact positive
  rw [same, List.foldlM_cons] at ran
  obtain ⟨middle, first, _⟩ := ok_of_bind ran
  apply appendExtraction_outside some wanted _ middle first
  rw [starts, limit, Option.getD_some, Option.getD_some]
  omega

/-- Without any values nothing happens. -/
theorem run_empty {extractions : List Extraction} (none : (sizes extractions).sum = 0)
    (values : ValueCollection) :
    extractions.foldlM (appendExtraction context) values = .ok values := by
  induction extractions with
  | nil => rfl
  | cons extraction extractions ih =>
      rw [sizes_cons, List.sum_cons] at none
      rw [List.foldlM_cons, appendExtraction_empty (by omega), ok_bind]
      exact ih (by omega)

end SmartMetWfs.Request
