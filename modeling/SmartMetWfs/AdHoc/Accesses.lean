import SmartMetWfs.AdHoc.Addresses
import SmartMetWfs.AdHoc.NormalForm
import SmartMetWfs.AdHoc.Walk

/-!
# Accesses to the list of queries

The walk holds pointers to the queries that are reserved for AND elements while the list
is shortened. No access is lost as long as the end of an AND element leaves the queries
alone that are still needed: the reserved one is not combined as if it came from an OR
element, is not removed if an outer AND element has it too, and is not removed as the
last one before further elements.
-/

namespace SmartMetWfs.AdHoc

open Foundation Parameters

variable {ν : Type}

/-- The reserved queries and their indices, the innermost one first. -/
def reservedQueries (frames : List Frame) : List (Nat × Nat) := frames.filterMap Frame.ending

/-- What the end of an AND element must leave alone. -/
structure LeavesNeeded (outer : List Frame) (state : FilterState ν) (andQuery andQueryIndex : Nat) :
    Prop where
  behind : 2 ≤ state.orQueryIndexes.length → andQueryIndex < state.orQueryIndexes.getD 0 0
  shared : andQuery ∈ (reservedQueries outer).map Prod.fst →
    state.orQueryIndexes.length < 2 ∧ IsUsed state andQuery ∧
      andQueryIndex + 1 = state.queries.length
  alone : state.queries.length = 1 → ¬ IsUsed state andQuery → ∀ frame ∈ outer, frame.rest = []

/-- If the next step ends an AND element it leaves alone what is needed. -/
def EndsWell (walk : Walk ν) : Prop :=
  ∀ frame outer andQuery andQueryIndex, walk.frames = frame :: outer → frame.rest = [] →
    frame.ending = some (andQuery, andQueryIndex) →
      LeavesNeeded outer walk.state andQuery andQueryIndex

/-- The AND query above the elements of a call is reserved by the call or one outside. -/
def UppersReserved : List Frame → Prop
  | [] => True
  | frame :: outer => (∀ address, frame.upperLevelAndQuery = some address →
      address ∈ (reservedQueries (frame :: outer)).map Prod.fst) ∧ UppersReserved outer

/-- The reserved queries stand at their indices, an inner one not before an outer one, the
indices of OR elements lie within the list, and it is empty only if there are no elements
left. -/
structure InList (walk : Walk ν) : Prop where
  placed : ∀ entry ∈ reservedQueries walk.frames,
    walk.state.addresses[entry.2]? = some entry.1
  ordered : (reservedQueries walk.frames).Pairwise fun inner outer => outer.2 ≤ inner.2
  uppers : UppersReserved walk.frames
  indexes : Increasing walk.state.orQueryIndexes walk.state.queries.length
  nonempty : walk.state.queries = [] → ∀ frame ∈ walk.frames, frame.rest = []

namespace InList

variable {frame : Frame} {outer frames : List Frame} {state next : FilterState ν}

/-- The query that an AND element has reserved is in the list. -/
theorem upper_mem (inList : InList ⟨frame :: outer, state⟩) :
    ∀ address, frame.upperLevelAndQuery = some address → address ∈ state.addresses := by
  intro address isUpper
  obtain ⟨entry, member, rfl⟩ := List.mem_map.mp (inList.uppers.1 address isUpper)
  exact List.mem_of_getElem? (inList.placed entry member)

/-- There is a query while elements are left. -/
theorem queries_nonempty (inList : InList ⟨frame :: outer, state⟩) (more : frame.rest ≠ []) :
    state.queries ≠ [] :=
  fun empty => more (inList.nonempty empty frame List.mem_cons_self)

/-- When queries are added everything stays in its place. -/
theorem grown (inList : InList ⟨frames, state⟩) (some : state.queries ≠ [])
    (grown : Grown state next) : InList ⟨frames, next⟩ where
  placed := by
    intro entry member
    obtain ⟨more, addresses⟩ := grown.addresses
    have found := inList.placed entry member
    have inside := (List.getElem?_eq_some_iff.mp found).1
    rw [addresses, List.getElem?_append_left inside]
    exact found
  ordered := inList.ordered
  uppers := inList.uppers
  indexes := grown.increasing inList.indexes
  nonempty empty := absurd empty (grown.nonempty some)

/-- What stands where is not changed by writing to queries. -/
theorem kept (inList : InList ⟨frames, state⟩) (addresses : next.addresses = state.addresses)
    (indexes : next.orQueryIndexes = state.orQueryIndexes) : InList ⟨frames, next⟩ := by
  have length := queries_length_of_addresses addresses
  refine ⟨fun entry member => ?_, inList.ordered, inList.uppers, ?_, fun empty => ?_⟩
  · rw [addresses]
    exact inList.placed entry member
  · rw [indexes, length]
    exact inList.indexes
  · apply inList.nonempty
    rw [empty] at length
    exact List.length_eq_zero_iff.mp length.symm

/-- A call goes on with other elements. -/
theorem goOn (inList : InList ⟨frame :: outer, state⟩) (some : state.queries ≠ [])
    (level : Level) (rest : List Element) :
    InList ⟨{ frame with level, rest } :: outer, state⟩ where
  placed := inList.placed
  ordered := inList.ordered
  uppers := inList.uppers
  indexes := inList.indexes
  nonempty empty := absurd empty some

/-- A call for the children of an AND element reserves the last query. -/
theorem callAnd (inList : InList ⟨frame :: outer, state⟩) {andQuery : Nat}
    (last : state.addresses[state.queries.length - 1]? = some andQuery)
    (elementTree : List ByteString) (level : Level) (children : List Element) :
    InList ⟨⟨elementTree, some andQuery, level, children,
      some (andQuery, state.queries.length - 1)⟩ :: frame :: outer, state⟩ where
  placed := by
    intro entry member
    rcases List.mem_cons.mp member with rfl | older
    · exact last
    · exact inList.placed entry older
  ordered := by
    apply List.pairwise_cons.mpr
    refine ⟨fun entry member => ?_, inList.ordered⟩
    have inside := (List.getElem?_eq_some_iff.mp (inList.placed entry member)).1
    rw [FilterState.addresses, List.length_map] at inside
    exact Nat.le_sub_one_of_lt inside
  uppers := by
    refine ⟨fun address isUpper => ?_, inList.uppers⟩
    cases isUpper
    exact List.mem_cons_self
  indexes := inList.indexes
  nonempty empty := by
    rw [FilterState.addresses, empty] at last
    cases last

/-- A call for the children of any other element has the AND query above or none. -/
theorem callOther (inList : InList ⟨frame :: outer, state⟩) (some : state.queries ≠ [])
    (elementTree : List ByteString) {upperLevelAndQuery : Option Nat} (level : Level)
    (children : List Element)
    (upper : upperLevelAndQuery = frame.upperLevelAndQuery ∨ upperLevelAndQuery = none) :
    InList ⟨⟨elementTree, upperLevelAndQuery, level, children, none⟩ :: frame :: outer, state⟩ where
  placed := inList.placed
  ordered := inList.ordered
  uppers := by
    refine ⟨fun address isUpper => ?_, inList.uppers⟩
    rcases upper with same | none
    · exact inList.uppers.1 address (same ▸ isUpper)
    · rw [none] at isUpper
      cases isUpper
  indexes := inList.indexes
  nonempty empty := absurd empty some

/-- A call that ends no AND element returns. -/
theorem pop (inList : InList ⟨frame :: outer, state⟩) (noEnding : frame.ending = none) :
    InList ⟨outer, state⟩ := by
  have same : reservedQueries (frame :: outer) = reservedQueries outer :=
    List.filterMap_cons_none noEnding
  refine ⟨?_, ?_, inList.uppers.2, inList.indexes, fun empty other member => ?_⟩
  · rw [← same]
    exact inList.placed
  · rw [← same]
    exact inList.ordered
  · exact inList.nonempty empty other (List.mem_cons_of_mem _ member)

/-- The end of an AND element that leaves alone what is needed. -/
theorem endAnd (inList : InList ⟨frame :: outer, state⟩) {andQuery andQueryIndex : Nat}
    (ending : frame.ending = some (andQuery, andQueryIndex))
    (leaves : LeavesNeeded outer state andQuery andQueryIndex) (caseSensitiveParams : Bool) :
    Meets Tolerated (handleEndOfAndElement caseSensitiveParams andQuery andQueryIndex state)
      fun result => InList ⟨outer, result⟩ := by
  have split : reservedQueries (frame :: outer) =
      (andQuery, andQueryIndex) :: reservedQueries outer := List.filterMap_cons_some ending
  have placed := inList.placed
  have ordered := inList.ordered
  change ∀ entry ∈ reservedQueries (frame :: outer), _ at placed
  change (reservedQueries (frame :: outer)).Pairwise _ at ordered
  rw [split] at placed ordered
  obtain ⟨before, orderedOuter⟩ := List.pairwise_cons.mp ordered
  have own := placed _ List.mem_cons_self
  apply (handleEndOfAndElement_ended own inList.indexes leaves.behind).imp
  intro result ended
  refine ⟨fun entry member => ?_, orderedOuter, inList.uppers.2, ?_, fun empty => ?_⟩
  · have found := placed entry (List.mem_cons_of_mem _ member)
    by_cases same : entry.2 = andQueryIndex
    · -- The outer AND element has the same query, which is therefore not removed.
      rw [same] at found
      have isShared : andQuery ∈ (reservedQueries outer).map Prod.fst := by
        have address : andQuery = entry.1 := Option.some.inj (own.symm.trans found)
        rw [address]
        exact List.mem_map_of_mem member
      obtain ⟨few, used, last⟩ := leaves.shared isShared
      rw [ended.kept few used last, same]
      exact found
    · have earlier : entry.2 < andQueryIndex := by
        have notAfter := before entry member
        omega
      have prefixes := congrArg (fun addresses => addresses[entry.2]?) ended.before
      simp only [List.getElem?_take, earlier, if_true] at prefixes
      exact prefixes.trans found
  · rw [ended.cleared]
    exact ⟨.nil, nofun⟩
  · obtain ⟨one, unused⟩ := ended.emptied empty
    exact leaves.alone one unused

end InList

/-! ### Steps and runs -/

variable {reader : XmlReader ν} {config : StoredQueryConfig ν} {caseSensitiveParams : Bool}

/-- An element is read or its children are called for. -/
theorem enterElement_inList {frame : Frame} {outer : List Frame} {state : FilterState ν}
    (inList : InList ⟨frame :: outer, state⟩) (some : state.queries ≠ []) (element : Element) :
    Meets Tolerated (enterElement reader config frame outer state element) InList := by
  unfold enterElement
  split
  · apply (readFilterParameter_kept some inList.upper_mem).bind
    intro read ⟨addresses, indexes⟩
    have stillSome : read.2.queries ≠ [] := by
      intro none
      have length := queries_length_of_addresses addresses
      rw [none] at length
      exact some (List.length_eq_zero_iff.mp length.symm)
    exact Meets.pure ((inList.kept addresses indexes).goOn stillSome read.1 frame.rest)
  · split
    · obtain ⟨andQuery, back, _, last⟩ := back_of_nonempty some
      rw [back]
      exact Meets.pure (inList.callAnd last _ _ _)
    · apply Meets.pure
      apply inList.callOther some
      split
      · exact .inl rfl
      · exact .inr rfl

/-- A step that ends no AND element too early leaves every query in the list that is still
needed and misses none. -/
theorem stepWalk_inList (walk : Walk ν) (inList : InList walk) (endsWell : EndsWell walk) :
    Meets Tolerated (stepWalk caseSensitiveParams reader config walk) InList := by
  obtain ⟨frames, state⟩ := walk
  unfold stepWalk
  cases frames with
  | nil => exact Meets.pure inList
  | cons frame outer =>
      dsimp only
      cases elements : frame.rest with
      | nil =>
          dsimp only
          unfold endFrame
          cases ending : frame.ending with
          | none => exact Meets.pure (inList.pop ending)
          | some reserved =>
              have leaves := endsWell frame outer reserved.1 reserved.2 rfl elements ending
              apply (inList.endAnd ending leaves caseSensitiveParams).bind
              intro ended stillInList
              exact Meets.pure stillInList
      | cons element rest =>
          have nonempty := inList.queries_nonempty (by simp [elements])
          dsimp only
          unfold nextElement
          split
          · exact .refused _
          · apply (nextQuery_grown nonempty inList.upper_mem).bind
            intro next grown
            have stillSome := grown.nonempty nonempty
            exact enterElement_inList ((inList.grown nonempty grown).goOn stillSome next.1 rest)
              stillSome element

/-- The walk starts with a query in the list. -/
theorem startWalk_inList (caseSensitiveParams : Bool) (root : Element) :
    InList (startWalk caseSensitiveParams root : Walk ν) where
  placed := nofun
  ordered := .nil
  uppers := ⟨nofun, trivial⟩
  indexes := ⟨.nil, nofun⟩
  nonempty := nofun

/-- As long as the ends of AND elements leave alone what is needed, the indices of OR
elements lie within the list and no step misses a query, and if all do the filter is not
walked into a missing query. -/
theorem accesses_inList (reader : XmlReader ν) (config : StoredQueryConfig ν) (root : Element) :
    (∀ walk, Reached (stepWalk config.useCaseSensitiveParams reader config) EndsWell
        (startWalk config.useCaseSensitiveParams root) walk →
      (∀ index ∈ walk.state.orQueryIndexes, index < walk.state.queries.length) ∧
        (EndsWell walk → ∀ fault,
          stepWalk config.useCaseSensitiveParams reader config walk ≠ .error (.faulted fault))) ∧
      ((∀ walk, Reached (stepWalk config.useCaseSensitiveParams reader config) EndsWell
          (startWalk config.useCaseSensitiveParams root) walk → EndsWell walk) →
        ∀ fault, extractXmlParameters reader config root ≠ .error (.faulted fault)) := by
  constructor
  · intro walk reached
    have inList := reached.invariant (startWalk_inList _ root) stepWalk_inList
    refine ⟨inList.indexes.inside, fun endsWell fault failed => ?_⟩
    have outcome : Meets Tolerated (stepWalk config.useCaseSensitiveParams reader config walk)
        InList := stepWalk_inList walk inList endsWell
    rw [failed] at outcome
    exact outcome fault rfl
  · intro allEndWell fault failed
    have leads := extractXmlParameters_leads reader config root
    have outcome := leads.tolerated (startWalk_inList _ root) stepWalk_inList allEndWell
    rw [failed] at outcome
    exact outcome fault rfl

/-! ### A filter that is walked to its end, and one with an access that is lost -/

instance (state : FilterState ν) (address : Nat) : Decidable (IsUsed state address) :=
  match found : state.deref address with
  | .error _ => .isFalse fun ⟨_, isThere, _⟩ => nomatch found.symm.trans isThere
  | .ok query => decidable_of_iff (query.isQueryUsed = true)
      ⟨fun used => ⟨query, found, used⟩, fun ⟨_, isThere, used⟩ =>
        Except.ok.inj (found.symm.trans isThere) ▸ used⟩

instance (outer : List Frame) (state : FilterState ν) (andQuery andQueryIndex : Nat) :
    Decidable (LeavesNeeded outer state andQuery andQueryIndex) :=
  decidable_of_iff
    ((2 ≤ state.orQueryIndexes.length → andQueryIndex < state.orQueryIndexes.getD 0 0) ∧
      (andQuery ∈ (reservedQueries outer).map Prod.fst →
        state.orQueryIndexes.length < 2 ∧ IsUsed state andQuery ∧
          andQueryIndex + 1 = state.queries.length) ∧
      (state.queries.length = 1 → ¬ IsUsed state andQuery →
        ∀ frame ∈ outer, frame.rest.isEmpty = true))
    ⟨fun ⟨behind, shared, alone⟩ => ⟨behind, shared, fun one unused frame member =>
        List.isEmpty_iff.mp (alone one unused frame member)⟩,
      fun ⟨behind, shared, alone⟩ => ⟨behind, shared, fun one unused frame member =>
        List.isEmpty_iff.mpr (alone one unused frame member)⟩⟩

/-- Whether the next step leaves alone what is needed. -/
def endsWell (walk : Walk ν) : Bool :=
  match walk.frames with
  | [] => true
  | frame :: outer =>
      match frame.ending with
      | none => true
      | some (andQuery, andQueryIndex) =>
          !frame.rest.isEmpty || decide (LeavesNeeded outer walk.state andQuery andQueryIndex)

/-- A walk that passes the test meets the condition. -/
theorem endsWell_sound {walk : Walk ν} (checked : endsWell walk = true) : EndsWell walk := by
  intro frame outer andQuery andQueryIndex frames noElements ending
  rw [endsWell, frames] at checked
  dsimp only at checked
  rw [ending, noElements] at checked
  exact of_decide_eq_true checked

/-- A comparison and two alternatives. -/
def withAlternatives : FilterTree :=
  .and andElement [comparison (ascii "a"),
    .or orElement [comparison (ascii "b"), comparison (ascii "c")]]

/-- The end of its AND element leaves alone what is needed in every state of the run, and so
nothing is missed. -/
theorem withAlternatives_missesNothing :
    (∀ walk, Reached (stepWalk false textReader noParameters) EndsWell
        (startWalk false (filterElement withAlternatives)) walk → EndsWell walk) ∧
      ∀ fault, extractXmlParameters textReader noParameters (filterElement withAlternatives) ≠
        .error (.faulted fault) := by
  have passes : passesUntil (stepWalk false textReader noParameters) endsWell
      (fun walk => walk.frames.isEmpty) 20 (startWalk false (filterElement withAlternatives)) =
        true := by
    decide +kernel
  have endWell : ∀ walk, Reached (stepWalk false textReader noParameters) EndsWell
      (startWalk false (filterElement withAlternatives)) walk → EndsWell walk := by
    intro walk reached
    refine Runs.of_passesUntil (fun _ => endsWell_sound) ?_ passes walk reached.runs
    intro walk noFrames
    unfold stepWalk
    rw [List.isEmpty_iff.mp noFrames]
    rfl
  exact ⟨endWell,
    (accesses_inList textReader noParameters (filterElement withAlternatives)).2 endWell⟩

/-- An AND element that is the first element of an AND element and has alternatives. -/
def alternativesFirst : FilterTree :=
  .and andElement [.and andElement [.or orElement [comparison (ascii "a"), comparison (ascii "b")],
    comparison (ascii "c")], comparison (ascii "d")]

/-- The inner AND element removes the query that is reserved for both, and the last
comparison is then written to it. -/
theorem alternativesFirst_missesQuery :
    extractXmlParameters textReader noParameters (filterElement alternativesFirst) =
      .error (.faulted .removedQuery) := by
  have missed : (match extractXmlParameters textReader noParameters
      (filterElement alternativesFirst) with
    | .error (.faulted fault) => some fault
    | _ => none) = some Fault.removedQuery := by decide +kernel
  revert missed
  cases extractXmlParameters textReader noParameters (filterElement alternativesFirst) with
  | ok result => exact nofun
  | error failure =>
      cases failure with
      | refused error => exact nofun
      | destroyedValue => exact nofun
      | faulted fault =>
          intro missed
          rw [Option.some.inj missed]

end SmartMetWfs.AdHoc
