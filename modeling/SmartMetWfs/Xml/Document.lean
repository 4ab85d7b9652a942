import SmartMetWfs.Core.ByteString
import SmartMetWfs.Foundation.Selection

/-!
# XML documents

Responses are read and put together as DOM trees. A tree is a value here: importing a
node into another document is using it there. What the libraries do, parsing, evaluating
XPath expressions, finding prefixes and serialising, is a parameter.
-/

namespace SmartMetWfs.Xml

open Foundation

/-- A DOM node. -/
inductive Node
  | element (tagName : ByteString) (namespaceUri : Option ByteString)
      (attributes : List (ByteString × ByteString)) (children : List Node)
  | attr (name value : ByteString)
  | text (value : ByteString)

/-- The three kinds of node, `getNodeType`. -/
inductive NodeType
  | elementNode
  | attributeNode
  | textNode
  deriving DecidableEq

namespace Node

/-- `getNodeType`. -/
def getNodeType : Node → NodeType
  | .element _ _ _ _ => .elementNode
  | .attr _ _ => .attributeNode
  | .text _ => .textNode

/-- `getNodeName`: the qualified name, for a text a name of its own. -/
def getNodeName : Node → ByteString
  | .element tagName _ _ _ => tagName
  | .attr name _ => name
  | .text _ => ascii "#text"

/-- `getNodeValue`: an element has none. -/
def getValue : Node → ByteString
  | .element _ _ _ _ => []
  | .attr _ value => value
  | .text value => value

/-- The children of an element, in the order of the document. -/
def children : Node → List Node
  | .element _ _ _ children => children
  | _ => []

/-- The attributes of an element. -/
def attributes : Node → List (ByteString × ByteString)
  | .element _ _ attributes _ => attributes
  | _ => []

/-- The namespace of an element, if it has one. -/
def namespaceUri : Node → Option ByteString
  | .element _ namespaceUri _ _ => namespaceUri
  | _ => none

/-- What stands in front of the colon of a name. -/
def getPrefix (node : Node) : Option ByteString :=
  if 58 ∈ node.getNodeName then some (node.getNodeName.takeWhile fun byte => byte ≠ 58) else none

/-- `getLocalName`: what follows the first colon of the name. -/
def getLocalName (node : Node) : ByteString :=
  if 58 ∈ node.getNodeName then (node.getNodeName.dropWhile fun byte => byte ≠ 58).drop 1
  else node.getNodeName

/-- `getAttribute`: the value of the first attribute of the name. -/
def getAttribute (node : Node) (name : ByteString) : Option ByteString :=
  (node.attributes.find? fun entry => entry.1 = name).map Prod.snd

/-- Put an attribute in its place or behind the others. -/
def putAttribute (name value : ByteString) :
    List (ByteString × ByteString) → List (ByteString × ByteString)
  | [] => [(name, value)]
  | entry :: rest =>
      if entry.1 = name then (name, value) :: rest else entry :: putAttribute name value rest

/-- `set_attr`. -/
def setAttr (name value : ByteString) : Node → Node
  | .element tagName namespaceUri attributes children =>
      .element tagName namespaceUri (putAttribute name value attributes) children
  | node => node

/-- `appendChild`: the child is the last one. Only an element has children. -/
def appendChild (parent child : Node) : Node :=
  match parent with
  | .element tagName namespaceUri attributes children =>
      .element tagName namespaceUri attributes (children ++ [child])
  | node => node

/-- `importNode` without the children. -/
def importShallow : Node → Node
  | .element tagName namespaceUri attributes _ => .element tagName namespaceUri attributes []
  | node => node

/-- `create_element`. -/
def createElement (namespaceUri tagName : ByteString) : Node := .element tagName namespaceUri [] []

/-- An attribute that is set leaves the children. -/
@[simp] theorem children_setAttr (name value : ByteString) (node : Node) :
    (node.setAttr name value).children = node.children := by
  cases node <;> rfl

/-- An attribute that is set leaves the kind of node. -/
@[simp] theorem getNodeType_setAttr (name value : ByteString) (node : Node) :
    (node.setAttr name value).getNodeType = node.getNodeType := by
  cases node <;> rfl

/-- A child that is appended leaves the kind of node. -/
@[simp] theorem getNodeType_appendChild (parent child : Node) :
    (parent.appendChild child).getNodeType = parent.getNodeType := by
  cases parent <;> rfl

/-- A shallow copy is of the same kind. -/
@[simp] theorem getNodeType_importShallow (node : Node) :
    node.importShallow.getNodeType = node.getNodeType := by
  cases node <;> rfl

/-- The children of an element are followed by the one that is appended. -/
@[simp] theorem children_appendChild {parent : Node} (isElement : parent.getNodeType = .elementNode)
    (child : Node) : (parent.appendChild child).children = parent.children ++ [child] := by
  cases parent with
  | element => rfl
  | attr => cases isElement
  | text => cases isElement

/-- A shallow copy has no children. -/
@[simp] theorem children_importShallow (node : Node) : node.importShallow.children = [] := by
  cases node <;> rfl

/-- The attribute that is put has the value, the others keep theirs. -/
theorem find?_putAttribute (name other value : ByteString)
    (attributes : List (ByteString × ByteString)) :
    ((putAttribute name value attributes).find? fun entry => entry.1 = other).map Prod.snd =
      if other = name then some value
      else (attributes.find? fun entry => entry.1 = other).map Prod.snd := by
  induction attributes with
  | nil => by_cases same : name = other <;> simp [putAttribute, same, eq_comm]
  | cons entry rest ih =>
      by_cases placed : entry.1 = name
      · by_cases same : name = other <;> simp [putAttribute, placed, same, eq_comm]
      · by_cases found : entry.1 = other
        · have distinct : other ≠ name := fun same => placed (found.trans same)
          simp [putAttribute, found, distinct]
        · simpa [putAttribute, placed, found] using ih

/-- An attribute that is set is read back and no other is touched. -/
theorem getAttribute_setAttr {node : Node} (isElement : node.getNodeType = .elementNode)
    (name other value : ByteString) :
    (node.setAttr name value).getAttribute other =
      if other = name then some value else node.getAttribute other := by
  cases node with
  | element tagName namespaceUri attributes children => exact find?_putAttribute _ _ _ _
  | attr => cases isElement
  | text => cases isElement

/-- A child that is appended leaves the attributes. -/
@[simp] theorem getAttribute_appendChild (parent child : Node) (name : ByteString) :
    (parent.appendChild child).getAttribute name = parent.getAttribute name := by
  cases parent <;> rfl

/-- A shallow copy has the same attributes. -/
@[simp] theorem getAttribute_importShallow (node : Node) (name : ByteString) :
    node.importShallow.getAttribute name = node.getAttribute name := by
  cases node <;> rfl

/-- Any number of children leaves the kind of node. -/
theorem getNodeType_foldl_appendChild (items : List Node) (parent : Node) :
    (items.foldl appendChild parent).getNodeType = parent.getNodeType := by
  induction items generalizing parent with
  | nil => rfl
  | cons item items ih => exact (ih _).trans (getNodeType_appendChild parent item)

/-- Children that are appended one after the other follow in their order. -/
theorem children_foldl_appendChild (items : List Node) {parent : Node}
    (isElement : parent.getNodeType = .elementNode) :
    (items.foldl appendChild parent).children = parent.children ++ items := by
  induction items generalizing parent with
  | nil => simp
  | cons item items ih =>
      rw [List.foldl_cons, ih ((getNodeType_appendChild parent item).trans isElement),
        children_appendChild isElement, List.append_assoc]
      rfl

/-- Any number of children leaves the attributes. -/
theorem getAttribute_foldl_appendChild (items : List Node) (parent : Node) (name : ByteString) :
    (items.foldl appendChild parent).getAttribute name = parent.getAttribute name := by
  induction items generalizing parent with
  | nil => rfl
  | cons item items ih => exact (ih _).trans (getAttribute_appendChild parent item name)

end Node

/-- The result of an XPath query: nodes that an `int` can index. -/
structure Snapshot where
  items : List Node
  fits : items.length < 2 ^ 31

namespace Snapshot

/-- The number of items. -/
def size (snapshot : Snapshot) : Nat := snapshot.items.length

/-- `XPathSnapshot::get_item`: nothing is found outside the snapshot. -/
def getItem (snapshot : Snapshot) (ind : Int) : Option Node :=
  if 0 ≤ ind then snapshot.items[ind.toNat]? else none

/-- A loop over `count` indices that gets the item of each. -/
def getItems (snapshot : Snapshot) (first : Int) (count : Nat) : Option (List Node) :=
  (List.range count).mapM fun step : Nat => snapshot.getItem (first + step)

@[simp] theorem getItems_zero (snapshot : Snapshot) (first : Int) :
    snapshot.getItems first 0 = some [] := rfl

/-- The first item, and those that follow it. -/
theorem getItems_succ (snapshot : Snapshot) (first : Int) (count : Nat) :
    snapshot.getItems first (count + 1) = (snapshot.getItem first).bind fun item =>
      (snapshot.getItems (first + 1) count).map (item :: ·) := by
  unfold getItems
  rw [List.range_succ_eq_map, List.mapM_cons, List.mapM_map]
  have shifted : (fun step : Nat => snapshot.getItem (first + step)) ∘ Nat.succ =
      fun step : Nat => snapshot.getItem (first + 1 + step) := by
    funext step
    apply congrArg snapshot.getItem
    rw [Nat.succ_eq_add_one]
    omega
  rw [shifted, Int.natCast_zero, Int.add_zero]
  cases snapshot.getItem first with
  | none => rfl
  | some item =>
      cases (List.range count).mapM fun step : Nat => snapshot.getItem (first + 1 + step) <;> rfl

/-- An index inside the snapshot has its item. -/
theorem getItem_of_lt {snapshot : Snapshot} {ind : Nat} (inside : ind < snapshot.items.length) :
    snapshot.getItem ind = some snapshot.items[ind] := by
  simp [getItem, List.getElem?_eq_getElem inside]

/-- An index outside the snapshot has none. -/
theorem getItem_outside {snapshot : Snapshot} {ind : Int}
    (outside : ind < 0 ∨ snapshot.size ≤ ind) : snapshot.getItem ind = none := by
  rw [getItem]
  simp only [size] at outside
  split
  · rw [List.getElem?_eq_none_iff]
    omega
  · rfl

/-- Inside the snapshot a loop gets the items of a page. -/
theorem getItems_page {snapshot : Snapshot} (first count : Nat)
    (inside : first + count ≤ snapshot.size) :
    snapshot.getItems first count = some (page first count snapshot.items) := by
  induction count generalizing first with
  | zero => simp [page]
  | succ count ih =>
      have begins : first < snapshot.items.length := by
        simp only [size] at inside
        omega
      have rest := ih (first + 1) (by omega)
      rw [Int.natCast_add, Int.natCast_one] at rest
      have split : page first (count + 1) snapshot.items =
          snapshot.items[first] :: page (first + 1) count snapshot.items := by
        rw [page, List.drop_eq_getElem_cons begins, List.take_succ_cons, page]
      rw [getItems_succ, getItem_of_lt begins, rest, split]
      rfl

/-- A loop that leaves the snapshot gets nothing. -/
theorem getItems_outside {snapshot : Snapshot} (first : Int) {count : Nat}
    (positive : count ≠ 0) (outside : first < 0 ∨ snapshot.size < first + count) :
    snapshot.getItems first count = none := by
  induction count generalizing first with
  | zero => exact absurd rfl positive
  | succ count ih =>
      rw [getItems_succ]
      by_cases here : first < 0 ∨ snapshot.size ≤ first
      · rw [getItem_outside here]
        rfl
      · rw [ih (first + 1) (by omega) (by omega)]
        cases snapshot.getItem first <;> rfl

end Snapshot

/-- Why a document cannot be read. -/
inductive XmlFailure
  | notParsed
  | badExpression
  | uriNotFound
  deriving DecidableEq

/-- The XML libraries; a document is given by its root element. An absent attribute has an
empty text. -/
structure XmlLibrary where
  parseDomDocument : ByteString → Except XmlFailure Node
  getAttributeNS : Node → ByteString → ByteString → ByteString
  xpathQuery : Node → ByteString → Except XmlFailure Snapshot
  lookupPrefix : Node → ByteString → Except XmlFailure ByteString
  xml2string : Node → ByteString

/-- The namespace of the service. -/
def wfsNamespaceUri : ByteString := ascii "http://www.opengis.net/wfs/2.0"

/-- The namespace of schema instances. -/
def xsiNamespaceUri : ByteString := ascii "http://www.w3.org/2001/XMLSchema-instance"

/-! ### Known documents -/

mutual

/-- The text of a node without line breaks. -/
def writeNode : Node → ByteString
  | .element tagName _ attributes children =>
      ascii "<" ++ tagName ++ (attributes.flatMap fun entry =>
        ascii " " ++ entry.1 ++ ascii "=\"" ++ entry.2 ++ ascii "\"") ++ ascii ">" ++
          writeNodes children ++ ascii "</" ++ tagName ++ ascii ">"
  | .attr _ value => value
  | .text value => value

/-- Nodes are written one after the other. -/
def writeNodes : List Node → ByteString
  | [] => []
  | node :: nodes => writeNode node ++ writeNodes nodes

end

/-- The nodes as a result of a query, unless there are too many. -/
def snapshotOf (items : List Node) : Except XmlFailure Snapshot :=
  if fits : items.length < 2 ^ 31 then .ok ⟨items, fits⟩ else .error .badExpression

/-- Libraries for documents that are known with their texts and have their members right
under the root. -/
def knownDocuments (documents : List (ByteString × Node)) : XmlLibrary where
  parseDomDocument text :=
    match documents.find? fun entry => entry.1 = text with
    | some entry => .ok entry.2
    | none => .error .notParsed
  getAttributeNS element _ localName :=
    (element.getAttribute (ascii "xsi:" ++ localName)).getD []
  xpathQuery document expression :=
    if expression = ascii "/wfs:FeatureCollection/wfs:member" ∨
      expression = ascii "//wfs:member" then
      snapshotOf (document.children.filter fun node => node.getNodeName = ascii "wfs:member")
    else .error .badExpression
  lookupPrefix document uri :=
    if document.namespaceUri = some uri then .ok (document.getPrefix.getD [])
    else .error .uriNotFound
  xml2string := writeNode

/-- A feature collection with its members. -/
def sampleCollection (attributes : List (ByteString × ByteString)) (members : List Node) : Node :=
  .element (ascii "wfs:FeatureCollection") (some wfsNamespaceUri)
    ((ascii "xmlns:wfs", wfsNamespaceUri) :: attributes) members

/-- A member with a text. -/
def sampleMember (text : ByteString) : Node :=
  .element (ascii "wfs:member") (some wfsNamespaceUri) [] [.text text]

end SmartMetWfs.Xml
