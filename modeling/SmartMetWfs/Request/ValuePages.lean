import SmartMetWfs.Request.ValueLoops

/-!
# Pages of values

Of a page of values `GetPropertyValue` returns what it should if the page begins with the
first value or lies inside the first result that has any. As the values that are skipped
do not lower the number of those still to be skipped, no other page that is not empty is
returned.
-/

namespace SmartMetWfs.Request

open Foundation Xml

section WithoutCounts

variable {context : RequestContext}

/-! ### Without counts -/

/-- How many values of a result are returned at most if the request does not say. -/
def unlimitedCount : Nat := 0x7FFFFF

/-- Of every result as many values are returned as belong to the page that a request
without counts is given; the first result has `offset` values before it. -/
def DefaultPages (offset : Nat) : List Nat → Prop
  | [] => True
  | size :: sizes => min unlimitedCount size = min (defaultCount.toNat - offset) size ∧
      DefaultPages (offset + size) sizes

def unlimitedValues (extractions : List Extraction) : List Node :=
  extractions.flatMap fun extraction =>
    page 0 (min unlimitedCount extraction.xps.size) extraction.xps.items

def unlimitedPositions (offset : Nat) : List Nat → List Nat
  | [] => []
  | size :: sizes =>
      List.range' offset (min unlimitedCount size) ++ unlimitedPositions (offset + size) sizes

theorem run_unlimited {extractions : List Extraction} {values : ValueCollection}
    (isElement : values.root.getNodeType = .elementNode) (starts : values.startIndex = none)
    (limit : values.maxMembers = none)
    (few : values.numMatched + (sizes extractions).sum < 2 ^ 31) :
    ∃ after, extractions.foldlM (appendExtraction context) values = .ok after ∧
      Appended values after (unlimitedValues extractions)
        (unlimitedPositions values.numMatched (sizes extractions)) := by
  induction extractions generalizing values with
  | nil => exact ⟨values, rfl, .refl isElement⟩
  | cons extraction extractions ih =>
      rw [sizes_cons, List.sum_cons] at few
      rw [List.foldlM_cons, unlimitedValues, List.flatMap_cons, sizes_cons, unlimitedPositions]
      by_cases empty : extraction.xps.size = 0
      · have noItems : extraction.xps.items = [] := List.length_eq_zero_iff.mp empty
        obtain ⟨after, ran, appended⟩ := ih isElement starts limit (by omega)
        refine ⟨after, ?_, ?_⟩
        · rw [appendExtraction_empty empty, ok_bind, ran]
        · simpa [noItems, page, empty, unlimitedValues] using appended
      · have wanted : wantsMore values = true := by rw [wantsMore, limit]
        obtain ⟨middle, first, appended, numMatched, maxMembers, startIndex⟩ :=
          @appendExtraction_inside context values extraction 0
            (min unlimitedCount extraction.xps.size) isElement (by omega) (by omega) wanted
            (by rw [starts]; rfl)
            (by rw [limit, Option.getD_none, unlimited, unlimitedCount]; omega) (by omega)
        rw [limit] at maxMembers
        rw [starts] at startIndex
        obtain ⟨after, ran, rest⟩ := ih appended.isElement startIndex maxMembers (by omega)
        rw [numMatched] at rest
        refine ⟨after, ?_, appended.trans rest⟩
        rw [first, ok_bind, ran]

theorem le_of_mem_unlimitedPositions {offset position : Nat} {sizes : List Nat}
    (member : position ∈ unlimitedPositions offset sizes) : offset ≤ position := by
  induction sizes generalizing offset with
  | nil => cases member
  | cons size sizes ih =>
      rcases List.mem_append.mp member with here | later
      · exact (List.mem_range'_1.mp here).1
      · exact Nat.le_trans (Nat.le_add_right _ _) (ih later)

/-- Lists of positions with a border are equal if they are so on both sides of it. -/
theorem append_inj_of_border {border : Nat} {left left' right right' : List Nat}
    (below : ∀ position ∈ left, position < border) (below' : ∀ position ∈ left', position < border)
    (above : ∀ position ∈ right, border ≤ position)
    (above' : ∀ position ∈ right', border ≤ position) :
    left ++ right = left' ++ right' ↔ left = left' ∧ right = right' := by
  constructor
  · intro equal
    have filtered : ∀ {below above : List Nat}, (∀ position ∈ below, position < border) →
        (∀ position ∈ above, border ≤ position) →
        (below ++ above).filter (fun position => decide (position < border)) = below := by
      intro below above isBelow isAbove
      have kept := List.filter_eq_self.mpr fun position member =>
        decide_eq_true (isBelow position member)
      have dropped := List.filter_eq_nil_iff.mpr fun position member =>
        (decide_eq_false (Nat.not_lt.mpr (isAbove position member)) ▸ Bool.false_ne_true :
          ¬ decide (position < border) = true)
      rw [List.filter_append, kept, dropped, List.append_nil]
    have same : left = left' := by
      rw [← filtered below above, equal, filtered below' above']
    subst same
    exact ⟨rfl, List.append_cancel_left equal⟩
  · rintro ⟨rfl, rfl⟩
    rfl

theorem unlimitedPositions_eq_iff (offset : Nat) (sizes : List Nat) :
    unlimitedPositions offset sizes =
        List.range' offset (min (defaultCount.toNat - offset) sizes.sum) ↔
      DefaultPages offset sizes := by
  induction sizes generalizing offset with
  | nil => simp [unlimitedPositions, DefaultPages]
  | cons size sizes ih =>
      have left : defaultCount.toNat - offset - min (defaultCount.toNat - offset) size =
          min (defaultCount.toNat - (offset + size)) (defaultCount.toNat - (offset + size)) := by
        omega
      have below : ∀ count, ∀ position ∈ List.range' offset (min count size),
          position < offset + size := by
        intro count position member
        have last := (List.mem_range'_1.mp member).2
        omega
      rw [unlimitedPositions, List.sum_cons, range'_min_append, left, Nat.min_self,
        append_inj_of_border (below _) (below _) (fun _ => le_of_mem_unlimitedPositions)
          (fun _ member => (List.mem_range'_1.mp member).1), ih, DefaultPages]
      apply and_congr_left'
      constructor
      · intro equal
        simpa using congrArg List.length equal
      · intro equal
        rw [equal]

theorem unlimitedValues_eq {offset : Nat} {extractions : List Extraction}
    (pages : DefaultPages offset (sizes extractions)) :
    unlimitedValues extractions = page 0 (defaultCount.toNat - offset) (allValues extractions) := by
  induction extractions generalizing offset with
  | nil => simp [unlimitedValues, allValues, page]
  | cons extraction extractions ih =>
      obtain ⟨here, later⟩ := pages
      have left : defaultCount.toNat - offset -
          min (defaultCount.toNat - offset) extraction.xps.items.length =
            defaultCount.toNat - (offset + extraction.xps.size) := by
        rw [Snapshot.size]
        omega
      rw [allValues_cons, page_zero_append, left, ← ih later, unlimitedValues, List.flatMap_cons,
        here]
      rfl

end WithoutCounts

/-! ### The responses of a request -/

variable (context : RequestContext) (spp : PresentationParameters) (valueReference : ByteString)

/-- The results the values are taken from, if everything can be read. -/
def readExtractions (queries : List Query) (queryResponses : List ByteString) :
    Except RequestFailure (List Extraction) := do
  let texts ← (queries.zip queryResponses).mapM fun pair => extractionTexts context pair.1 pair.2
  texts.flatten.mapM (readExtraction context valueReference)

/-- The queries are answered, and values can be looked for in their responses: what is
found are the `extractions`. -/
structure ReadableValues (queries : List Query) (extractions : List Extraction) : Prop where
  notDebug : spp.outputFormat ≠ debugOutputFormat
  read : ∃ collected, collectQueryResponses context false queries = .ok collected ∧
    readExtractions context valueReference queries collected.queryResponses = .ok extractions

/-- Every query has a response, and none of them stands for an error. -/
structure AllSucceeded (queries : List Query) (collected : Collected) : Prop where
  sameLength : queries.length = collected.queryResponses.length
  succeeded : queries = [] ∨ collected.someSucceeded = true

/-- If errors are not handled every query succeeds or the request fails. -/
theorem collectQueryResponses_unhandled (queries : List Query) :
    Meets (fun _ => True) (collectQueryResponses context false queries) (AllSucceeded queries) := by
  unfold collectQueryResponses
  apply Meets.foldlM AllSucceeded
  · exact ⟨rfl, .inl rfl⟩
  · intro done query rest collected split holds
    unfold collectQueryResponse
    cases query.cachedResponse with
    | some cachedResponse =>
        apply Meets.pure
        exact ⟨by simp [holds.sameLength], .inr rfl⟩
    | none =>
        cases query.execute context.language context.hostname with
        | ok result =>
            apply Meets.pure
            exact ⟨by simp [holds.sameLength], .inr rfl⟩
        | error thrown => exact Meets.error trivial

theorem addResponses_eq {queries : List Query} {queryResponses : List ByteString}
    {extractions : List Extraction} (sameLength : queries.length = queryResponses.length)
    (read : readExtractions context valueReference queries queryResponses = .ok extractions)
    (values : ValueCollection) :
    addResponses context valueReference queries queryResponses values =
      extractions.foldlM (appendExtraction context) values := by
  have length : queryResponses.length = (queries.zip queryResponses).length := by
    rw [List.length_zip, sameLength, Nat.min_self]
  have pairs : addResponses context valueReference queries queryResponses values =
      (queries.zip queryResponses).foldlM
        (fun values pair => filterResponse context valueReference values pair.1 pair.2) values := by
    unfold addResponses
    rw [length]
    apply foldlM_range
    intro index pair found state
    obtain ⟨query, response⟩ := List.getElem?_zip_eq_some.mp found
    simp only [query, response]
  unfold readExtractions at read
  obtain ⟨texts, readTexts, readAll⟩ := ok_of_bind read
  have filtered : ∀ values (pair : Query × ByteString) result,
      extractionTexts context pair.1 pair.2 = .ok result →
        filterResponse context valueReference values pair.1 pair.2 =
          result.foldlM (extractProperty context valueReference) values := by
    intro values pair result readPair
    rw [filterResponse, readPair, ok_bind]
  have extracted : ∀ values text result,
      readExtraction context valueReference text = .ok result →
        extractProperty context valueReference values text =
          appendExtraction context values result := by
    intro values text result readText
    rw [extractProperty, readText, ok_bind]
  rw [pairs, foldlM_of_mapM filtered readTexts, ← foldlM_flatten,
    foldlM_of_mapM extracted readAll]

theorem executeGetPropertyValue_eq {queries : List Query} {extractions : List Extraction}
    (readable : ReadableValues context spp valueReference queries extractions) :
    executeGetPropertyValue context spp valueReference queries =
      (extractions.foldlM (appendExtraction context) (initialValues spp)).map fun values =>
        ⟨finalizeValues context values, false, values.positions⟩ := by
  obtain ⟨collected, ran, read⟩ := readable.read
  have succeeded := (collectQueryResponses_unhandled context queries).of_ok ran
  unfold executeGetPropertyValue
  rw [if_neg readable.notDebug]
  cases queries with
  | nil =>
      cases ran
      cases read
      rfl
  | cons query queries =>
      have some : collected.someSucceeded = true :=
        succeeded.succeeded.resolve_left (List.cons_ne_nil _ _)
      rw [ran]
      simp only [List.isEmpty_cons, Bool.false_eq_true, if_false, Except.mapError, ok_bind, some,
        if_true, Bool.not_true]
      rw [addResponses_eq context valueReference succeeded.sameLength read]
      cases extractions.foldlM (appendExtraction context) (initialValues spp) with
      | error failure => rfl
      | ok values => rfl

/-! ### The page that is asked for -/

/-- The answer has the values of the page that is asked for, in their order, and was
looking for nothing else. -/
def ReturnsPage (queries : List Query) (extractions : List Extraction) : Prop :=
  ∃ answer, executeGetPropertyValue context spp valueReference queries = .ok answer ∧
    answer.document.children =
      (page spp.startIndex.toNat spp.count.toNat (allValues extractions)).map valueMember ∧
    answer.positions =
      page spp.startIndex.toNat spp.count.toNat (List.range (allValues extractions).length)

/-- The page can be returned by going through results of these sizes. -/
def PageFits (sizes : List Nat) : Prop :=
  if spp.isHitsOnlyRequest then spp.count.toNat = 0 ∨ sizes.sum ≤ spp.startIndex.toNat
  else if spp.haveCounts then
    spp.count.toNat = 0 ∨ sizes.sum = 0 ∨
      (2 ^ 31 ≤ spp.count.toNat ∧ sizes.sum ≤ spp.startIndex.toNat) ∨
      (spp.count.toNat < 2 ^ 31 ∧ (spp.startIndex.toNat = 0 ∨
        spp.startIndex.toNat + spp.count.toNat ≤ firstSize sizes))
  else DefaultPages 0 sizes

theorem page_range (start count total : Nat) :
    page start count (List.range total) = List.range' start (min count (total - start)) := by
  rw [page, List.range_eq_range', List.drop_range', Nat.zero_add, Nat.mul_one]
  by_cases short : count ≤ total - start
  · rw [List.take_range'_of_length_ge short, Nat.min_eq_left short]
  · rw [List.take_range'_of_length_le (by omega), Nat.min_eq_right (by omega)]

variable {context spp valueReference}

theorem finalizeValues_children (values : ValueCollection) :
    (finalizeValues context values).children = values.root.children := by
  unfold finalizeValues
  cases values.isTimestampSet <;> cases values.isSchemaLocationSet <;> simp

theorem returnsPage_iff_of_run {queries : List Query} {extractions : List Extraction}
    (readable : ReadableValues context spp valueReference queries extractions)
    {values : ValueCollection} {nodes : List Node} {positions : List Nat}
    (ran : extractions.foldlM (appendExtraction context) (initialValues spp) = .ok values)
    (appended : Appended (initialValues spp) values nodes positions) :
    ReturnsPage context spp valueReference queries extractions ↔
      nodes.map valueMember = (page spp.startIndex.toNat spp.count.toNat
        (allValues extractions)).map valueMember ∧
      positions = List.range' spp.startIndex.toNat
        (min spp.count.toNat ((sizes extractions).sum - spp.startIndex.toNat)) := by
  have children : (finalizeValues context values).children = nodes.map valueMember := by
    rw [finalizeValues_children, appended.children]
    rfl
  have counted : values.positions = positions := appended.positions
  have answered := executeGetPropertyValue_eq context spp valueReference readable
  rw [ran] at answered
  unfold ReturnsPage
  rw [answered, page_range, length_allValues]
  constructor
  · intro ⟨answer, same, document, trace⟩
    cases same
    exact ⟨children.symm.trans document, counted.symm.trans trace⟩
  · intro ⟨document, trace⟩
    exact ⟨_, rfl, children.trans document, counted.trans trace⟩

/-- A page is returned only if the loop over the results ends well. -/
theorem ReturnsPage.ran {queries : List Query} {extractions : List Extraction}
    (readable : ReadableValues context spp valueReference queries extractions)
    (returns : ReturnsPage context spp valueReference queries extractions) :
    ∃ values, extractions.foldlM (appendExtraction context) (initialValues spp) = .ok values := by
  obtain ⟨answer, answered, _⟩ := returns
  rw [executeGetPropertyValue_eq context spp valueReference readable] at answered
  obtain ⟨values, ran, _⟩ := ok_of_bind answered
  exact ⟨values, ran⟩

/-- If nothing is wanted nothing is returned. -/
theorem returnsPage_unwanted {queries : List Query} {extractions : List Extraction}
    (readable : ReadableValues context spp valueReference queries extractions)
    (unwanted : wantsMore (initialValues spp) = false)
    (few : (allValues extractions).length < 2 ^ 31) :
    ReturnsPage context spp valueReference queries extractions ↔
      spp.count.toNat = 0 ∨ (allValues extractions).length ≤ spp.startIndex.toNat := by
  rw [length_allValues] at few
  obtain ⟨values, ran, appended⟩ := @run_unwanted context extractions _ rfl unwanted
    (by simpa [initialValues] using few)
  rw [returnsPage_iff_of_run readable ran appended, ← page_eq_nil]
  constructor
  · intro ⟨nodes, _⟩
    exact List.map_eq_nil_iff.mp nodes.symm
  · intro empty
    have none := (page_eq_nil _ _ _).mp empty
    rw [length_allValues] at none
    refine ⟨by rw [empty], ?_⟩
    rw [eq_comm, List.range'_eq_nil_iff]
    omega

/-- If there are no values every page is returned. -/
theorem returnsPage_empty {queries : List Query} {extractions : List Extraction}
    (readable : ReadableValues context spp valueReference queries extractions)
    (none : (allValues extractions).length = 0) :
    ReturnsPage context spp valueReference queries extractions := by
  have ran := @run_empty context extractions ((length_allValues extractions).symm.trans none)
    (initialValues spp)
  rw [returnsPage_iff_of_run readable ran (.refl rfl), ← length_allValues, none,
    List.length_eq_zero_iff.mp none]
  simp [page]

/-- The page of a request with counts. -/
theorem returnsPage_counts {queries : List Query} {extractions : List Extraction}
    (readable : ReadableValues context spp valueReference queries extractions)
    (results : spp.isHitsOnlyRequest = false) (counts : spp.haveCounts = true)
    (some : (allValues extractions).length ≠ 0) (few : (allValues extractions).length < 2 ^ 31)
    (positive : spp.count.toNat ≠ 0) (signed : spp.count.toNat < 2 ^ 31) :
    ReturnsPage context spp valueReference queries extractions ↔
      spp.startIndex.toNat = 0 ∨
        spp.startIndex.toNat + spp.count.toNat ≤ firstSize (sizes extractions) := by
  have limit : (initialValues spp).maxMembers = .some (spp.count.toNat : Int) := by
    have same : toInt spp.count = (spp.count.toNat : Int) := by rw [toInt_eq, if_pos signed]
    simp [initialValues, results, counts, same]
  have starts : (initialValues spp).startIndex = .some (toInt spp.startIndex) := by
    simp [initialValues, results, counts]
  have matched : (initialValues spp).numMatched = 0 := rfl
  rw [length_allValues] at some few
  by_cases fromFirst : spp.startIndex.toNat = 0
  · have zero : toInt spp.startIndex = 0 := by
      rw [toInt_eq, fromFirst]
      rfl
    rw [zero] at starts
    obtain ⟨values, ran, appended⟩ := @run_fromFirst context extractions _ _ rfl
      (by rw [starts]; rfl) limit (by omega)
    rw [returnsPage_iff_of_run readable ran appended, fromFirst]
    simp [matched]
  · by_cases inside : spp.startIndex.toNat + spp.count.toNat ≤ firstSize (sizes extractions)
    · have bounded := firstSize_le (sizes extractions)
      have start : toInt spp.startIndex = (spp.startIndex.toNat : Int) := by
        rw [toInt_eq, if_pos (by omega)]
      rw [start] at starts
      obtain ⟨values, ran, appended⟩ := @run_fromLater context extractions _ _ _ rfl starts limit
        (by omega) inside (by omega)
      rw [returnsPage_iff_of_run readable ran appended]
      have whole : min spp.count.toNat ((sizes extractions).sum - spp.startIndex.toNat) =
          spp.count.toNat := by
        omega
      simp [matched, inside, whole]
    · have bound := spp.startIndex_lt
      have outside : toInt spp.startIndex < 0 ∨ (firstSize (sizes extractions) : Int) <
          toInt spp.startIndex + spp.count.toNat := by
        rw [toInt_eq]
        split <;> omega
      have later : toInt spp.startIndex ≠ 0 := by
        rw [toInt_eq]
        split <;> omega
      apply iff_of_false
      · intro returns
        obtain ⟨values, ran⟩ := returns.ran readable
        exact run_outside starts limit (by omega) later outside (by omega) values ran
      · omega

/-- A request without counts is given the page that it has by default. -/
theorem returnsPage_unlimited {queries : List Query} {extractions : List Extraction}
    (readable : ReadableValues context spp valueReference queries extractions)
    (results : spp.isHitsOnlyRequest = false) (noCounts : spp.haveCounts = false)
    (few : (allValues extractions).length < 2 ^ 31) :
    ReturnsPage context spp valueReference queries extractions ↔
      DefaultPages 0 (sizes extractions) := by
  have limit : (initialValues spp).maxMembers = none := by
    simp [initialValues, results, noCounts]
  have starts : (initialValues spp).startIndex = none := by
    simp [initialValues, results, noCounts]
  obtain ⟨startIndex, count⟩ := spp.defaults noCounts
  rw [length_allValues] at few
  obtain ⟨values, ran, appended⟩ := @run_unlimited context extractions _ rfl starts limit
    (by simpa [initialValues] using few)
  rw [returnsPage_iff_of_run readable ran appended, startIndex, count]
  have positions := unlimitedPositions_eq_iff 0 (sizes extractions)
  constructor
  · intro ⟨_, trace⟩
    exact positions.mp trace
  · intro pages
    exact ⟨congrArg (List.map valueMember) (unlimitedValues_eq pages), positions.mpr pages⟩

/-- The values that are returned are those on the requested page exactly when an `int` can
count all values and the page fits the results: the count is zero, or there are no values,
or the page begins with the first value, or it lies inside the first result that has
values. A count from `2 ^ 31` on and a request for hits return nothing, and without counts
every result has its own limit. -/
theorem executeGetPropertyValue_returnsPage_iff {queries : List Query}
    {extractions : List Extraction}
    (readable : ReadableValues context spp valueReference queries extractions) :
    ReturnsPage context spp valueReference queries extractions ↔
      (allValues extractions).length < 2 ^ 31 ∧ PageFits spp (sizes extractions) := by
  by_cases few : (allValues extractions).length < 2 ^ 31
  · rw [and_iff_right few]
    cases hits : spp.isHitsOnlyRequest with
    | true =>
        have unwanted : wantsMore (initialValues spp) = false := by
          simp [wantsMore, initialValues, hits]
        rw [returnsPage_unwanted readable unwanted few, PageFits, hits, if_pos rfl,
          length_allValues]
    | false =>
        rw [PageFits, hits, if_neg Bool.false_ne_true]
        cases counts : spp.haveCounts with
        | false => exact returnsPage_unlimited readable hits counts few
        | true =>
            rw [if_pos rfl, ← length_allValues]
            by_cases negative : 2 ^ 31 ≤ spp.count.toNat ∨ spp.count.toNat = 0
            · have unwanted : wantsMore (initialValues spp) = false := by
                have bound := spp.count_lt
                simp only [wantsMore, initialValues, hits, counts, toInt_eq, Bool.false_eq_true,
                  if_false, if_true, decide_eq_false_iff_not]
                split <;> omega
              rw [returnsPage_unwanted readable unwanted few]
              omega
            · by_cases none : (allValues extractions).length = 0
              · exact iff_of_true (returnsPage_empty readable none) (.inr (.inl none))
              · rw [returnsPage_counts readable hits counts none few (by omega) (by omega)]
                omega
  · apply iff_of_false _ (fun fits => few fits.1)
    intro returns
    obtain ⟨values, ran⟩ := returns.ran readable
    have counted := run_few rfl ran
    rw [length_allValues] at few
    simp only [initialValues] at counted
    omega

def twoExtractions : List Extraction :=
  let extraction : Extraction := ⟨oneMember, ⟨[sampleMember (ascii "a")], oneMember_fits⟩⟩
  [extraction, extraction]

set_option maxRecDepth 20000 in
theorem readableValues_twoQueries (startIndex count : UInt32) :
    ReadableValues (sampleContext [oneMember]) (.ofCounts startIndex count) (ascii "//wfs:member")
      twoQueries twoExtractions := by
  have collected : collectQueryResponses (sampleContext [oneMember]) false twoQueries =
      .ok ⟨[writeNode oneMember, writeNode oneMember], true,
        [([], writeNode oneMember), ([], writeNode oneMember)]⟩ := rfl
  have notDebug : defaultOutputFormat ≠ debugOutputFormat := by decide
  exact ⟨notDebug, _, collected, rfl⟩

theorem executeGetPropertyValue_returnsPage_sample :
    ReturnsPage (sampleContext [oneMember]) (.ofCounts 0 2) (ascii "//wfs:member") twoQueries
        twoExtractions ↔
      (allValues twoExtractions).length < 2 ^ 31 ∧
        PageFits (.ofCounts 0 2) (sizes twoExtractions) :=
  executeGetPropertyValue_returnsPage_iff (readableValues_twoQueries 0 2)

/-- The second of two values is not found behind a first result with one value. -/
theorem secondValue_notReturned :
    ¬ ReturnsPage (sampleContext [oneMember]) (.ofCounts 1 1) (ascii "//wfs:member") twoQueries
      twoExtractions := by
  rw [returnsPage_counts (readableValues_twoQueries 1 1) rfl rfl (by decide) (by decide)
    (by decide) (by decide)]
  decide

end SmartMetWfs.Request
