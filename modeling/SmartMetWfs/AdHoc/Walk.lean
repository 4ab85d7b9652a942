import SmartMetWfs.AdHoc.Extraction
import SmartMetWfs.Foundation.Runs

/-!
# The walk in steps

The recursion of `extract_filter_elements` is a machine with a stack of its calls. A step
takes the next element of the innermost call, or returns from it when there is none and
handles the end of an AND element. The recursion leads through this machine.
-/

namespace SmartMetWfs.AdHoc

open Foundation Parameters

variable {ν : Type}

/-- A call of `extract_filter_elements`: its arguments and local variables, the elements
that are left, and, for the children of an AND element, its query and the index of that. -/
structure Frame where
  elementTree : List ByteString
  upperLevelAndQuery : Option Nat
  level : Level
  rest : List Element
  ending : Option (Nat × Nat)

/-- The calls, the innermost one first, and the state they share. -/
structure Walk (ν : Type) where
  frames : List Frame
  state : FilterState ν

variable (caseSensitiveParams : Bool) (reader : XmlReader ν) (config : StoredQueryConfig ν)

/-- An element for which the query has been chosen: it is read, or its children are called
for. -/
def enterElement (frame : Frame) (outer : List Frame) (state : FilterState ν) (element : Element) :
    Except Failure (Walk ν) :=
  if isQueryParameter element.elementName || isComparisonOperation element.elementName then do
    let read ← readFilterParameter reader config frame.elementTree frame.upperLevelAndQuery element
      frame.level state
    return ⟨{ frame with level := read.1 } :: outer, read.2⟩
  else if element.elementName = ascii "fes:and" then do
    let andQuery ← state.back
    return ⟨⟨element.elementName :: frame.elementTree, some andQuery.address, .start,
      element.children, some (andQuery.address, state.queries.length - 1)⟩ :: frame :: outer, state⟩
  else
    return ⟨⟨element.elementName :: frame.elementTree,
      if frame.elementTree.head? ≠ some (ascii "fes:or") then frame.upperLevelAndQuery else none,
      .start, element.children, none⟩ :: frame :: outer, state⟩

/-- The next element of a call. -/
def nextElement (frame : Frame) (outer : List Frame) (state : FilterState ν) (element : Element)
    (rest : List Element) : Except Failure (Walk ν) :=
  if element.elementName = ascii "fes:not" then .error (.refused .notSupported)
  else do
    let next ← nextQuery caseSensitiveParams frame.elementTree frame.upperLevelAndQuery
      element.elementName frame.level state
    enterElement reader config { frame with level := next.1, rest } outer next.2 element

/-- The end of a call. -/
def endFrame (frame : Frame) (outer : List Frame) (state : FilterState ν) :
    Except Failure (Walk ν) :=
  match frame.ending with
  | none => return ⟨outer, state⟩
  | some reserved => do
      let ended ← handleEndOfAndElement caseSensitiveParams reserved.1 reserved.2 state
      return ⟨outer, ended⟩

/-- The next step: an element is entered, or a frame without elements is left. -/
def stepWalk (walk : Walk ν) : Except Failure (Walk ν) :=
  match walk.frames with
  | [] => return walk
  | frame :: outer =>
      match frame.rest with
      | [] => endFrame caseSensitiveParams frame outer walk.state
      | element :: rest =>
          nextElement caseSensitiveParams reader config frame outer walk.state element rest

/-- The call for the children of the root, with one query in the list. -/
def startWalk (root : Element) : Walk ν :=
  ⟨[⟨[root.elementName], none, .start, root.children, none⟩],
    FilterState.createQuery caseSensitiveParams ⟨[], 0, []⟩⟩

/-! ### The recursion leads through the machine -/

variable {caseSensitiveParams reader config}

/-- The machine is at the end of the call. -/
def AtEnd (frame : Frame) (outer : List Frame) (state : FilterState ν) (walk : Walk ν) : Prop :=
  ∃ level, walk = ⟨{ frame with level, rest := [] } :: outer, state⟩

/-- At the end of its frame a walk leaves it. -/
theorem stepWalk_atEnd {frame : Frame} {outer : List Frame} {state : FilterState ν} {walk : Walk ν}
    (atEnd : AtEnd frame outer state walk) (caseSensitiveParams : Bool) (reader : XmlReader ν)
    (config : StoredQueryConfig ν) :
    stepWalk caseSensitiveParams reader config walk =
      endFrame caseSensitiveParams frame outer state := by
  obtain ⟨level, rfl⟩ := atEnd
  rfl

mutual

/-- The extraction of an element is a walk to the end of the element. -/
theorem extractFilterElement_leads :
    ∀ (element : Element) (frame : Frame) (outer : List Frame) (state : FilterState ν)
      (start : Walk ν),
      stepWalk caseSensitiveParams reader config start =
        enterElement reader config frame outer state element →
      Leads (stepWalk caseSensitiveParams reader config) start
        (extractFilterElement caseSensitiveParams reader config frame.elementTree
          frame.upperLevelAndQuery frame.level state element)
        fun result walk => walk = ⟨{ frame with level := result.1 } :: outer, result.2⟩
  | .mk tagName localName namespaceUri attributes text children, frame, outer, state, start,
      stepped => by
      have inner := extractFilterElements_leads children
      unfold extractFilterElement
      unfold enterElement at stepped
      dsimp only at stepped ⊢
      split at stepped
      · next isLeaf =>
          rw [if_pos isLeaf]
          cases read : readFilterParameter reader config frame.elementTree frame.upperLevelAndQuery
              (.mk tagName localName namespaceUri attributes text children) frame.level state with
          | error failure =>
              rw [read] at stepped
              exact .error stepped
          | ok result =>
              rw [read] at stepped
              exact .head stepped (.ok rfl)
      · next notLeaf =>
          rw [if_neg notLeaf]
          split at stepped
          · next isAnd =>
              rw [if_pos isAnd]
              cases back : state.back with
              | error failure =>
                  rw [back] at stepped
                  exact .error stepped
              | ok andQuery =>
                  rw [back] at stepped
                  apply Leads.head stepped
                  apply Leads.bind (inner _ _ _ rfl)
                  intro walked walk _ atEnd
                  have ends := stepWalk_atEnd atEnd caseSensitiveParams reader config
                  unfold endFrame at ends
                  dsimp only at ends
                  cases ended : handleEndOfAndElement caseSensitiveParams andQuery.address
                      (state.queries.length - 1) walked with
                  | error failure =>
                      rw [ended] at ends
                      exact .error ends
                  | ok result =>
                      rw [ended] at ends
                      exact .head ends (.ok rfl)
          · next notAnd =>
              rw [if_neg notAnd]
              apply Leads.head stepped
              apply Leads.bind (inner _ _ _ rfl)
              intro walked walk _ atEnd
              exact .head (stepWalk_atEnd atEnd caseSensitiveParams reader config) (.ok rfl)

/-- The extraction of several elements is a walk to the end of the frame. -/
theorem extractFilterElements_leads :
    ∀ (elements : List Element) (frame : Frame) (outer : List Frame) (state : FilterState ν),
      frame.rest = elements →
      Leads (stepWalk caseSensitiveParams reader config) ⟨frame :: outer, state⟩
        (extractFilterElements caseSensitiveParams reader config frame.elementTree
          frame.upperLevelAndQuery frame.level state elements)
        (AtEnd frame outer)
  | [], frame, outer, state, noElements => by
      unfold extractFilterElements
      exact .ok ⟨frame.level, by rw [← noElements]⟩
  | element :: rest, frame, outer, state, elements => by
      have stepped : stepWalk caseSensitiveParams reader config ⟨frame :: outer, state⟩ =
          nextElement caseSensitiveParams reader config frame outer state element rest := by
        unfold stepWalk
        simp only [elements]
      unfold extractFilterElements
      unfold nextElement at stepped
      split at stepped
      · next isNot =>
          rw [if_pos isNot]
          exact .error stepped
      · next notNot =>
          rw [if_neg notNot]
          cases next : nextQuery caseSensitiveParams frame.elementTree frame.upperLevelAndQuery
              element.elementName frame.level state with
          | error failure =>
              rw [next] at stepped
              exact .error stepped
          | ok result =>
              rw [next] at stepped
              apply Leads.bind (extractFilterElement_leads element
                { frame with level := result.1, rest } outer result.2 _ stepped)
              intro last walk _ arrived
              rw [arrived]
              exact extractFilterElements_leads rest { frame with level := last.1, rest } outer
                last.2 rfl

end

/-- The call for the children of the root. -/
def rootFrame (root : Element) : Frame :=
  ⟨[root.elementName], none, .start, root.children, none⟩

/-- The queries of a filter are what the machine has at the end of the call for the children
of the root. -/
theorem extractXmlParameters_leads (reader : XmlReader ν) (config : StoredQueryConfig ν)
    (root : Element) :
    Leads (stepWalk config.useCaseSensitiveParams reader config)
      (startWalk config.useCaseSensitiveParams root) (extractXmlParameters reader config root)
        (AtEnd (rootFrame root) []) :=
  extractFilterElements_leads root.children (rootFrame root) [] _ rfl

end SmartMetWfs.AdHoc
