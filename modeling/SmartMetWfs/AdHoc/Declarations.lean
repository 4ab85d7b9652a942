import SmartMetWfs.AdHoc.Accesses
import SmartMetWfs.AdHoc.HeldParameters

/-!
# The declarations of a stored query

`read_query_parameter` counts the occurrences of a parameter and collects the names it
forbids for one level of the filter at a time, while other levels may have given parameters
to the same query. In an extraction that succeeds parameters stay with the query they were
read into. Its queries therefore respect the declarations exactly if, whenever a parameter is
read, what the level lets through is something that the whole query has room for.
-/

namespace SmartMetWfs.AdHoc

open Foundation Parameters

variable {ν : Type}

/-- The declarations allow parameters to occur that often: none occurs too often, and none
occurs together with another one that it forbids. -/
def Allows (config : StoredQueryConfig ν) (occurrences : ByteString → Nat) : Prop :=
  ∀ name desc, config.Describes name desc → (occurrences name : Int) ≤ desc.maxOccurs ∧
    ∀ other, desc.Forbids other → other ≠ name → 0 < occurrences name → occurrences other = 0

section

variable {config : StoredQueryConfig ν}

theorem Allows.mono {occurrences occurrences' : ByteString → Nat}
    (allows : Allows config occurrences') (fewer : ∀ name, occurrences name ≤ occurrences' name) :
    Allows config occurrences := by
  intro name desc describes
  obtain ⟨few, apart⟩ := allows name desc describes
  have atMost := fewer name
  refine ⟨by omega, fun other forbids different some => ?_⟩
  have none := apart other forbids different (some.trans_le (fewer name))
  have atMostOther := fewer other
  omega

end

/-! ### Occurrences in a query -/

/-- How often a parameter occurs in a query. -/
def AdHocQuery.occurrences (query : AdHocQuery ν) (name : ByteString) : Nat :=
  query.params.params.count name

/-- How often the query at the address holds the parameter. -/
def timesHeld (held : List (Nat × ByteString × ParamInfo ν)) (address : Nat) (name : ByteString) :
    Nat :=
  held.countP fun entry => entry.1 = address ∧ entry.2.1 = name

/-- Every address holds what the declarations allow. -/
def Respects (config : StoredQueryConfig ν) (state : FilterState ν) : Prop :=
  ∀ address, Allows config (timesHeld state.held address)

section

variable {reader : XmlReader ν} {config : StoredQueryConfig ν} {caseSensitiveParams : Bool}

/-- The next step takes this element of the call into the query, with what the level has
counted. -/
def Takes (caseSensitiveParams : Bool) (walk : Walk ν) (frame : Frame) (element : Element)
    (level : Level) (query : AdHocQuery ν) : Prop :=
  ∃ outer rest next last, walk.frames = frame :: outer ∧ frame.rest = element :: rest ∧
    element.elementName ≠ ascii "fes:not" ∧
    (isQueryParameter element.elementName || isComparisonOperation element.elementName) = true ∧
    nextQuery caseSensitiveParams frame.elementTree frame.upperLevelAndQuery element.elementName
      frame.level walk.state = .ok (level, next) ∧
    next.back = .ok last ∧
    next.deref (targetAddress frame.elementTree frame.upperLevelAndQuery last) = .ok query

/-- Reserved queries are at their indices while they are in the list, and the inner ones are
not before the outer ones. -/
structure Steady (walk : Walk ν) : Prop where
  distinct : Distinct walk.state
  increasing : Increasing walk.state.orQueryIndexes walk.state.queries.length
  placed : ∀ entry ∈ reservedQueries walk.frames, Placed entry.1 entry.2 walk.state
  ordered : (reservedQueries walk.frames).Pairwise fun inner outer =>
    outer.1 ∈ walk.state.addresses → outer.2 ≤ inner.2

namespace Steady

variable {frame : Frame} {outer frames frames' : List Frame} {state result : FilterState ν}

/-- Calls that reserve the same queries. -/
theorem same (steady : Steady ⟨frames, state⟩)
    (reserved : reservedQueries frames' = reservedQueries frames) : Steady ⟨frames', state⟩ := by
  obtain ⟨distinct, increasing, placed, ordered⟩ := steady
  refine ⟨distinct, increasing, ?_, ?_⟩
  · change ∀ entry ∈ reservedQueries frames', _
    rw [reserved]
    exact placed
  · change (reservedQueries frames').Pairwise _
    rw [reserved]
    exact ordered

/-- A walk stays steady when the parameters stay with their queries. -/
theorem kept (steady : Steady ⟨frames, state⟩) (kept : Kept state result) :
    Steady ⟨frames, result⟩ where
  distinct := kept.distinct
  increasing := kept.increasing
  placed entry member := kept.placed (steady.placed entry member)
  ordered := by
    apply steady.ordered.imp_of_mem
    intro inner outer _ inReserved before present
    exact before (kept.later.present outer.1 present (steady.placed outer inReserved).old)

/-- A call for the children of an AND element reserves the last query. -/
theorem callAnd (steady : Steady ⟨frame :: outer, state⟩) {andQuery : AdHocQuery ν}
    (back : state.back = .ok andQuery) (elementTree : List ByteString) (level : Level)
    (children : List Element) :
    Steady ⟨⟨elementTree, some andQuery.address, level, children,
      some (andQuery.address, state.queries.length - 1)⟩ :: frame :: outer, state⟩ where
  distinct := steady.distinct
  increasing := steady.increasing
  placed := by
    intro entry member
    rcases List.mem_cons.mp member with rfl | older
    · have nonempty : state.queries ≠ [] := by
        intro empty
        rw [FilterState.back, empty] at back
        cases back
      obtain ⟨query, isBack, isThere, isLast⟩ := back_of_nonempty nonempty
      obtain rfl : query = andQuery := Except.ok.inj (isBack.symm.trans back)
      obtain ⟨other, inQueries, sameAddress⟩ := mem_addresses.mp isThere
      exact ⟨sameAddress ▸ steady.distinct.below other inQueries, fun _ => isLast⟩
    · exact steady.placed entry older
  ordered := by
    apply List.pairwise_cons.mpr
    refine ⟨fun entry member present => ?_, steady.ordered⟩
    have inside := (List.getElem?_eq_some_iff.mp ((steady.placed entry member).placed present)).1
    rw [FilterState.addresses, List.length_map] at inside
    exact Nat.le_sub_one_of_lt inside

/-- The end of an AND element leaves the reserved queries of the calls outside where they are,
and the parameters with their queries. -/
theorem endAnd (steady : Steady ⟨frame :: outer, state⟩) {reserved : Nat × Nat}
    (ending : frame.ending = some reserved)
    (ran : handleEndOfAndElement caseSensitiveParams reserved.1 reserved.2 state = .ok result) :
    Steady ⟨outer, result⟩ ∧ result.held = state.held := by
  have split : reservedQueries (frame :: outer) = reserved :: reservedQueries outer :=
    List.filterMap_cons_some ending
  obtain ⟨distinct, increasing, placed, ordered⟩ := steady
  change ∀ entry ∈ reservedQueries (frame :: outer), Placed entry.1 entry.2 state at placed
  change (reservedQueries (frame :: outer)).Pairwise _ at ordered
  rw [split] at placed ordered
  obtain ⟨before, orderedOuter⟩ := List.pairwise_cons.mp ordered
  have own := placed reserved List.mem_cons_self
  have settled := handleEndOfAndElement_settled distinct increasing ran
  have present : ∀ entry ∈ reservedQueries outer, entry.1 ∈ result.addresses →
      entry.1 ∈ state.addresses := fun entry member inResult =>
    settled.later.present entry.1 inResult (placed entry (List.mem_cons_of_mem _ member)).old
  refine ⟨⟨settled.distinct, ?_, fun entry member => ?_, ?_⟩, settled.held own⟩
  · rw [settled.cleared]
    exact ⟨.nil, nofun⟩
  · have outside := placed entry (List.mem_cons_of_mem _ member)
    refine ⟨outside.old.trans_le settled.later.created, fun inResult => ?_⟩
    have inState := present entry member inResult
    exact settled.kept own entry.2 entry.1 (before entry member inState) (outside.placed inState)
      inResult
  · apply orderedOuter.imp_of_mem
    intro inner outer' _ inReserved atMost inResult
    exact atMost (present outer' inReserved inResult)

end Steady

section

variable {walk next : Walk ν}

/-- A state takes one parameter at most. -/
theorem Takes.unique {frame frame' : Frame} {element element' : Element} {level level' : Level}
    {query query' : AdHocQuery ν} (takes : Takes caseSensitiveParams walk frame element level query)
    (takes' : Takes caseSensitiveParams walk frame' element' level' query') :
    frame = frame' ∧ element = element' ∧ level = level' ∧ query = query' := by
  obtain ⟨outer, rest, next, last, frames, elements, _, _, chosen, back, found⟩ := takes
  obtain ⟨outer', rest', next', last', frames', elements', _, _, chosen', back', found'⟩ := takes'
  obtain ⟨rfl, rfl⟩ := List.cons.inj (frames.symm.trans frames')
  obtain ⟨rfl, rfl⟩ := List.cons.inj (elements.symm.trans elements')
  obtain ⟨rfl, rfl⟩ := Prod.mk.inj (Except.ok.inj (chosen.symm.trans chosen'))
  obtain rfl := Except.ok.inj (back.symm.trans back')
  exact ⟨rfl, rfl, rfl, Except.ok.inj (found.symm.trans found')⟩

end

end

end SmartMetWfs.AdHoc
