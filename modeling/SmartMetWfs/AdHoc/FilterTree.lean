import SmartMetWfs.AdHoc.Combination

/-!
# Filter trees

A filter is a tree of AND and OR elements over leaves. Its meaning is a disjunctive form
over what the leaves contribute. The walk that turns a filter into queries keeps the
queries of the operators apart for some trees only; for these, the separable ones, it
leaves the disjunctive form.
-/

namespace SmartMetWfs.AdHoc

open Foundation Parameters

variable {ν : Type}

/-- An operator element without its children. -/
structure Operator (name : ByteString) where
  tagName : ByteString
  localName : ByteString
  namespaceUri : ByteString
  attributes : List (ByteString × ByteString)
  text : ByteString
  named : asciiTolowerCopy tagName = name

/-- The element of an operator with its children. -/
def Operator.element {name : ByteString} (operator : Operator name) (children : List Element) :
    Element :=
  .mk operator.tagName operator.localName operator.namespaceUri operator.attributes operator.text
    children

/-- An operator has the name it stands for. -/
theorem Operator.elementName {name : ByteString} (operator : Operator name)
    (children : List Element) : (operator.element children).elementName = name := operator.named

/-- A filter of operators over single elements. -/
inductive FilterTree
  | leaf (element : Element)
  | and (operator : Operator (ascii "fes:and")) (children : List FilterTree)
  | or (operator : Operator (ascii "fes:or")) (children : List FilterTree)

namespace FilterTree

mutual

/-- The element of a tree. -/
def element : FilterTree → Element
  | leaf element => element
  | and operator children => operator.element (elements children)
  | or operator children => operator.element (elements children)

/-- The elements of several trees. -/
def elements : List FilterTree → List Element
  | [] => []
  | tree :: rest => tree.element :: elements rest

end

/-- Whether a tree is a single element. -/
def isLeaf : FilterTree → Bool
  | leaf _ => true
  | _ => false

/-- Whether a tree is an OR element. -/
def isOr : FilterTree → Bool
  | or _ _ => true
  | _ => false

/-! ### The meaning of a filter -/

section

variable (reader : XmlReader ν) (config : StoredQueryConfig ν)

mutual

/-- The disjunctive form of a filter below the given elements. A leaf that cannot be read
stands for nothing; the request is refused for it. -/
def dnf (elementTree : List ByteString) : FilterTree → DisjunctiveForm (Contribution ν)
  | leaf element => {(contributions reader config elementTree element).getD 0}
  | and _ children => conjunction (ascii "fes:and" :: elementTree) children
  | or _ children => alternatives (ascii "fes:or" :: elementTree) children

/-- All of the trees hold. -/
def conjunction (elementTree : List ByteString) :
    List FilterTree → DisjunctiveForm (Contribution ν)
  | [] => {0}
  | tree :: rest => (dnf elementTree tree).conjoin (conjunction elementTree rest)

/-- One of the trees holds. -/
def alternatives (elementTree : List ByteString) :
    List FilterTree → DisjunctiveForm (Contribution ν)
  | [] => 0
  | tree :: rest => dnf elementTree tree + alternatives elementTree rest

end

mutual

/-- Every operator has at least two children, and every leaf contributes something that
the stored query has, unless it cannot be read. -/
def Proper (elementTree : List ByteString) : FilterTree → Prop
  | leaf element => element.isLeaf = true ∧ contributions reader config elementTree element ≠ some 0
  | and _ children => 2 ≤ children.length ∧ AllProper (ascii "fes:and" :: elementTree) children
  | or _ children => 2 ≤ children.length ∧ AllProper (ascii "fes:or" :: elementTree) children

/-- Each of the trees is proper. -/
def AllProper (elementTree : List ByteString) : List FilterTree → Prop
  | [] => True
  | tree :: rest => Proper elementTree tree ∧ AllProper elementTree rest

end

end

section

variable {reader : XmlReader ν} {config : StoredQueryConfig ν}

mutual

/-- A filter asks for something. -/
theorem dnf_ne_zero : ∀ (tree : FilterTree) {elementTree : List ByteString},
    Proper reader config elementTree tree → dnf reader config elementTree tree ≠ 0
  | leaf _, _, _ => Multiset.singleton_ne_zero _
  | and _ children, _, proper => conjunction_ne_zero children proper.2
  | or _ [], _, proper => absurd proper.1 (by decide)
  | or _ (tree :: rest), _, proper => alternatives_ne_zero tree rest proper.2.1

/-- Proper trees can hold together. -/
theorem conjunction_ne_zero : ∀ (children : List FilterTree) {elementTree : List ByteString},
    AllProper reader config elementTree children →
      conjunction reader config elementTree children ≠ 0
  | [], _, _ => Multiset.singleton_ne_zero _
  | tree :: rest, _, proper =>
      DisjunctiveForm.conjoin_ne_zero (dnf_ne_zero tree proper.1)
        (conjunction_ne_zero rest proper.2)

/-- One of several proper trees can hold. -/
theorem alternatives_ne_zero : ∀ (tree : FilterTree) (rest : List FilterTree)
    {elementTree : List ByteString}, Proper reader config elementTree tree →
      alternatives reader config elementTree (tree :: rest) ≠ 0
  | tree, rest, elementTree, proper => by
      rw [alternatives]
      intro none
      have below := Multiset.le_add_right (dnf reader config elementTree tree)
        (alternatives reader config elementTree rest)
      rw [none] at below
      exact dnf_ne_zero tree proper (Multiset.le_zero.mp below)

end

/-- A proper tree is a single element, an AND element or an OR element by its name. -/
theorem elementName_cases {tree : FilterTree} {elementTree : List ByteString}
    (proper : Proper reader config elementTree tree) :
    tree.element.elementName ≠ ascii "fes:not" ∧
      (tree.isLeaf = true ↔ tree.element.elementName ≠ ascii "fes:and" ∧
        tree.element.elementName ≠ ascii "fes:or") := by
  cases tree with
  | leaf element =>
      rw [Proper] at proper
      rw [FilterTree.element]
      obtain ⟨_, _, _, _, _, _⟩ := element
      obtain ⟨notAnd, notOr, notNot, _⟩ := Element.isLeaf_mk proper.1
      exact ⟨notNot, fun _ => ⟨notAnd, notOr⟩, fun _ => rfl⟩
  | and operator children =>
      rw [FilterTree.element, operator.elementName]
      exact ⟨by decide, nofun, fun neither => absurd rfl neither.1⟩
  | or operator children =>
      rw [FilterTree.element, operator.elementName]
      exact ⟨by decide, nofun, fun neither => absurd rfl neither.2⟩

end

/-! ### Separable filters -/

mutual

/-- There is no OR element in the tree. -/
def orFree : FilterTree → Bool
  | leaf _ => true
  | and _ children => allOrFree children
  | or _ _ => false

/-- There is no OR element in the trees. -/
def allOrFree : List FilterTree → Bool
  | [] => true
  | tree :: rest => tree.orFree && allOrFree rest

end

mutual

/-- There is no AND element in the tree. -/
def andFree : FilterTree → Bool
  | leaf _ => true
  | and _ _ => false
  | or _ children => allAndFree children

/-- There is no AND element in the trees. -/
def allAndFree : List FilterTree → Bool
  | [] => true
  | tree :: rest => tree.andFree && allAndFree rest

end

/-- The first of the trees is a single element. -/
def startsWithLeaf : List FilterTree → Bool
  | tree :: _ => tree.isLeaf
  | [] => false

/-- There are two or more OR elements. -/
def several (children : List FilterTree) : Bool := 2 ≤ children.countP isOr

mutual

/-- The length of `or_query_indexes` after a filter that has a query of its own, if the
walk keeps its queries apart. -/
def pendingAfter (pending : Nat) : FilterTree → Option Nat
  | leaf _ => some pending
  | and _ children =>
    if separableAnd (several children) false pending children then some 0 else none
  | or _ children => pendingAfterOr false pending children

/-- After the children of an OR element. The first leaf among them has its position stored
when the OR element is a child of an AND element. -/
def pendingAfterOr (stores : Bool) (pending : Nat) : List FilterTree → Option Nat
  | [] => some pending
  | tree :: rest =>
      (pendingAfter (if stores && tree.isLeaf then pending + 1 else pending) tree).bind
        fun after => pendingAfterOr (stores && !tree.isLeaf) after rest

/-- After a child of an AND element. An AND element there shares the query as long as no
OR element has come. Several OR elements must each store the position of their first
query, which no AND element inside them may clear. -/
def pendingAfterChild (severalOr seenOr : Bool) (pending : Nat) : FilterTree → Option Nat
  | leaf _ => some pending
  | and _ children => if !seenOr && allOrFree children && pending ≤ 1 then some 0 else none
  | or _ children =>
      if severalOr then
        if (seenOr || pending = 0) && startsWithLeaf children && allAndFree children then
          some (pending + 1)
        else none
      else pendingAfterOr true pending children

/-- The walk keeps the queries of these children of an AND element apart. -/
def separableAnd (severalOr seenOr : Bool) (pending : Nat) : List FilterTree → Bool
  | [] => severalOr || pending ≤ 1
  | tree :: rest =>
      match pendingAfterChild severalOr seenOr pending tree with
      | none => false
      | some after => separableAnd severalOr (seenOr || tree.isOr) after rest

end

/-- The walk keeps the queries of the filter apart. -/
def separable (tree : FilterTree) : Bool := (tree.pendingAfter 0).isSome

/-! ### Parameters in one query -/

section

variable (reader : XmlReader ν) (config : StoredQueryConfig ν)

mutual

/-- How many parameters the leaves of a filter ask for. -/
def parametersAsked (elementTree : List ByteString) : FilterTree → Nat
  | leaf element =>
      Multiset.card (parameters ((contributions reader config elementTree element).getD 0))
  | and _ children => parametersAskedBy (ascii "fes:and" :: elementTree) children
  | or _ children => parametersAskedBy (ascii "fes:or" :: elementTree) children

/-- How many elements of the trees give a parameter. -/
def parametersAskedBy (elementTree : List ByteString) : List FilterTree → Nat
  | [] => 0
  | tree :: rest => parametersAsked elementTree tree + parametersAskedBy elementTree rest

end

/-- Two operands of an AND element: if one asks for a parameter the other has no OR element. -/
def Beside (elementTree : List ByteString) (tree other : FilterTree) : Prop :=
  (parametersAsked reader config elementTree tree ≠ 0 → other.orFree = true) ∧
    (parametersAsked reader config elementTree other ≠ 0 → tree.orFree = true)

mutual

/-- No parameter belongs to more than one query: beside an operand of an AND element that
asks for one no operand has an OR element. -/
def ParametersOnce (elementTree : List ByteString) : FilterTree → Prop
  | leaf _ => True
  | and _ children => AllParametersOnce (ascii "fes:and" :: elementTree) children ∧
      children.Pairwise (Beside reader config (ascii "fes:and" :: elementTree))
  | or _ children => AllParametersOnce (ascii "fes:or" :: elementTree) children

/-- In each of the trees parameters are given once. -/
def AllParametersOnce (elementTree : List ByteString) : List FilterTree → Prop
  | [] => True
  | tree :: rest => ParametersOnce elementTree tree ∧ AllParametersOnce elementTree rest

end

instance (elementTree : List ByteString) (tree other : FilterTree) :
    Decidable (Beside reader config elementTree tree other) :=
  inferInstanceAs (Decidable (_ ∧ _))

mutual

instance decidableParametersOnce : ∀ (elementTree : List ByteString) (tree : FilterTree),
    Decidable (ParametersOnce reader config elementTree tree)
  | _, leaf _ => .isTrue trivial
  | elementTree, and _ children =>
      have := decidableAllParametersOnce (ascii "fes:and" :: elementTree) children
      inferInstanceAs (Decidable (_ ∧ _))
  | elementTree, or _ children =>
    decidableAllParametersOnce (ascii "fes:or" :: elementTree) children

instance decidableAllParametersOnce : ∀ (elementTree : List ByteString)
    (children : List FilterTree), Decidable (AllParametersOnce reader config elementTree children)
  | _, [] => .isTrue trivial
  | elementTree, tree :: rest =>
      have := decidableParametersOnce elementTree tree
      have := decidableAllParametersOnce elementTree rest
      inferInstanceAs (Decidable (_ ∧ _))

end

end

section

variable {reader : XmlReader ν} {config : StoredQueryConfig ν}

mutual

/-- A filter that asks for no parameters means none. -/
theorem dnf_withoutParameters : ∀ (tree : FilterTree) {elementTree : List ByteString},
    parametersAsked reader config elementTree tree = 0 →
      WithoutParameters (dnf reader config elementTree tree)
  | leaf _, _, asksNone => fun _ member => by
      rw [Multiset.mem_singleton.mp member]
      exact Multiset.card_eq_zero.mp asksNone
  | and _ children, _, asksNone => conjunction_withoutParameters children asksNone
  | or _ children, _, asksNone => alternatives_withoutParameters children asksNone

/-- Without elements for parameters a conjunction has none. -/
theorem conjunction_withoutParameters : ∀ (children : List FilterTree)
    {elementTree : List ByteString}, parametersAskedBy reader config elementTree children = 0 →
      WithoutParameters (conjunction reader config elementTree children)
  | [], _, _ => fun _ member => by
      rw [Multiset.mem_singleton.mp member]
      rfl
  | tree :: rest, _, asksNone => by
      have parts := Nat.add_eq_zero_iff.mp asksNone
      exact (dnf_withoutParameters tree parts.1).conjoin
        (conjunction_withoutParameters rest parts.2)

/-- Without elements for parameters the alternatives have none. -/
theorem alternatives_withoutParameters : ∀ (children : List FilterTree)
    {elementTree : List ByteString}, parametersAskedBy reader config elementTree children = 0 →
      WithoutParameters (alternatives reader config elementTree children)
  | [], _, _ => nofun
  | tree :: rest, _, asksNone => fun content member => by
      have parts := Nat.add_eq_zero_iff.mp asksNone
      rcases Multiset.mem_add.mp member with inFirst | inRest
      · exact dnf_withoutParameters tree parts.1 content inFirst
      · exact alternatives_withoutParameters rest parts.2 content inRest

end

/-- An operand of an AND element beside one with an OR element asks for no parameter. -/
theorem asksNone_of_pairwise {elementTree : List ByteString} {before after : List FilterTree}
    {tree other : FilterTree}
    (pairwise : (before ++ tree :: after).Pairwise (Beside reader config elementTree))
    (member : other ∈ before ++ after) (notFree : other.orFree = false) :
    parametersAsked reader config elementTree tree = 0 := by
  have apart := (List.pairwise_cons.mp (List.pairwise_middle (fun both => both.symm) |>.mp
    pairwise)).1 other member
  by_contra some
  rw [apart.1 some] at notFree
  cases notFree

end

end FilterTree

end SmartMetWfs.AdHoc
