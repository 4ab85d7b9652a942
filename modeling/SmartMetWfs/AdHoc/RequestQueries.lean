import SmartMetWfs.AdHoc.Aliases
import SmartMetWfs.AdHoc.Extraction
import SmartMetWfs.Foundation.Outcomes

/-!
# Queries of a request

The children of a GetFeature or GetPropertyValue document are queries: a stored query, or an ad
hoc query for types of features, with property names and aliases of its own. All of them are put
on one list, and `AdHocQuery::create_from_xml` adds the projection and replaces the aliases
along the whole list that it is given. So the clauses of a child reach all ad hoc queries before
it, and a stored query before it makes the request fail.
-/

namespace SmartMetWfs.AdHoc

open Foundation Parameters

/-- An element of the list of queries. An ad hoc query has the identifier of the stored query
that answers it. -/
inductive QueryBase (κ ν : Type)
  | storedQuery (query : κ)
  | query (id : ByteString) (query : AdHocQuery ν)

/-- Why a document is not accepted. -/
inductive RequestError (ε : Type)
  | missingTypeNames
  | unknownTypeName (name : ByteString)
  | noStoredQueryId
  | handler (error : ε)
  | filter (failure : Failure)
  | unreadableProperty
  | aliasCount (message : ByteString)
  /-- `dynamic_cast` throws `std::bad_cast`. -/
  | badCast
  | unexpectedElement (name : ByteString)

variable {ε κ ν : Type}

/-- What the queries are made with. -/
structure QuerySource (ε κ ν : Type) where
  typenameQryMap : List (ByteString × List ByteString)
  getConfig : ByteString → Except ε (StoredQueryConfig ν)
  processParams : ByteString → RequestParameterMap ν → Except ε (RequestParameterMap ν)
  createStoredQuery : Element → Except ε κ
  reader : XmlReader ν
  useCaseSensitiveParams : Bool

/-- The namespace of the service. -/
def wfsNamespace : ByteString := ascii "http://www.opengis.net/wfs/2.0"

/-- `get_child_elements`, for one name. -/
def childElements (element : Element) (ns name : ByteString) : List Element :=
  element.children.filter fun child => child.namespaceUri = ns && child.localName = name

/-- `get_xml_typenames`. -/
def getXmlTypenames (queryRoot : Element) : Except (RequestError ε) (List ByteString) :=
  if queryRoot.namespaceUri = wfsNamespace ∧ queryRoot.localName = ascii "Query" then
    match queryRoot.getAttr (ascii "typeNames") with
    | some typeNames => .ok (typeNames.splitOn 32)
    | none => .error .missingTypeNames
  else .ok []

namespace QuerySource

variable (source : QuerySource ε κ ν)

/-- `TypeNameStoredQueryMap::get_stored_queries_by_name`. -/
def getStoredQueriesByName (name : ByteString) : Except (RequestError ε) (List ByteString) :=
  match source.typenameQryMap.lookup (asciiTolowerCopy name) with
  | some queries => .ok queries
  | none => .error (.unknownTypeName name)

/-- `get_stored_query_ids_from_typenames`. -/
def getStoredQueryIdsFromTypenames (typeNames : List ByteString) :
    Except (RequestError ε) (List ByteString) :=
  (typeNames.mapM fun typeName => source.getStoredQueriesByName (asciiTolowerCopy typeName)).map
    List.flatten

/-- `process_parms`, for one query. -/
def processParms (queryId : ByteString) (query : AdHocQuery ν) :
    Except (RequestError ε) (AdHocQuery ν) :=
  ((source.processParams queryId query.params).mapError .handler).map fun params =>
    { query with params := params }

/-- The queries of the filter, or one with default values. -/
def extractQueries (config : StoredQueryConfig ν) (queryRoot : Element) :
    Except (RequestError ε) (List (AdHocQuery ν)) :=
  match childElements queryRoot fesNamespaceUri (ascii "Filter") with
  | filterRoot :: _ =>
      ((extractXmlParameters source.reader config filterRoot).mapError .filter).map
        FilterState.queries
  | [] => .ok [.create source.useCaseSensitiveParams 0]

/-- One turn of the loop over the identifiers. -/
def batchOfQueries (queryRoot : Element) (queryId : ByteString) :
    Except (RequestError ε) (List (ByteString × AdHocQuery ν)) := do
  let config ← (source.getConfig queryId).mapError .handler
  let extracted ← source.extractQueries config queryRoot
  let batch ← extracted.mapM (source.processParms queryId)
  return batch.map fun query => (queryId, query)

/-- The queries that `create_from_xml` makes of an element, with their identifiers. -/
def makeQueries (queryRoot : Element) :
    Except (RequestError ε) (List (ByteString × AdHocQuery ν)) := do
  let typeNames ← getXmlTypenames queryRoot
  let storedQueryIds ← source.getStoredQueryIdsFromTypenames typeNames
  if storedQueryIds = [] then .error .noStoredQueryId
  else (storedQueryIds.mapM (source.batchOfQueries queryRoot)).map List.flatten

end QuerySource

/-! ### Clauses -/

/-- A loop along the list that casts each element to an ad hoc query. -/
def forEachQuery (change : AdHocQuery ν → AdHocQuery ν) (queries : List (QueryBase κ ν)) :
    Except (RequestError ε) (List (QueryBase κ ν)) :=
  queries.mapM fun
    | .query id query => .ok (.query id (change query))
    | .storedQuery _ => .error .badCast

/-- The path to any of the properties. -/
def projection (propertyNames : List ByteString) : ByteString :=
  ascii "//(" ++ List.intercalate (ascii " | ") propertyNames ++ ascii ")"

/-- `add_projection_clause`. -/
def addProjectionClause (propertyNames : List ByteString) (queries : List (QueryBase κ ν)) :
    Except (RequestError ε) (List (QueryBase κ ν)) :=
  if propertyNames = [] then .ok queries
  else
    forEachQuery (fun query =>
      { query with filterExpression := query.filterExpression ++ projection propertyNames }) queries

/-- The names in the PropertyName elements. -/
def readPropertyNames (reader : XmlReader ν) (queryRoot : Element) :
    Except (RequestError ε) (List ByteString) :=
  (childElements queryRoot wfsNamespace (ascii "PropertyName")).mapM fun property =>
    match reader.readString property with
    | some name => .ok name
    | none => .error .unreadableProperty

/-- The aliases and the type names, if there are aliases. -/
def readAliases (queryRoot : Element) : List ByteString × List ByteString :=
  match queryRoot.getAttr (ascii "aliases") with
  | none | some [] => ([], [])
  | some aliases =>
      (aliases.splitOn 32, ((queryRoot.getAttr (ascii "typeNames")).getD []).splitOn 32)

/-- `replace_aliases`, on a list that may have other queries too. -/
def replaceAliasesOfAll (aliases typeNames : List ByteString) (queries : List (QueryBase κ ν)) :
    Except (RequestError ε) (List (QueryBase κ ν)) :=
  if aliases = [] then .ok queries
  else if aliases.length ≠ typeNames.length then
    .error (.aliasCount
      (ascii "The number of aliases does not match the number of type names."))
  else
    forEachQuery (fun query =>
      if query.filterExpression = [] then query
      else
        { query with
          filterExpression := (aliases.zip typeNames).foldl replaceAlias query.filterExpression })
      queries

/-- The children of the document that are looked at. -/
def queryElements (root : Element) : List Element :=
  root.children.filter fun child => child.namespaceUri = wfsNamespace

namespace QuerySource

variable (source : QuerySource ε κ ν)

/-- `AdHocQuery::create_from_xml`. -/
def createFromXml (queryRoot : Element) (queries : List (QueryBase κ ν)) :
    Except (RequestError ε) (List (QueryBase κ ν)) := do
  let made ← source.makeQueries queryRoot
  let propertyNames ← readPropertyNames source.reader queryRoot
  let queries ← addProjectionClause propertyNames
    (queries ++ made.map fun item => .query item.1 item.2)
  replaceAliasesOfAll (readAliases queryRoot).1 (readAliases queryRoot).2 queries

/-- One turn of the loop in `GetFeature::create_from_xml` and in
`GetPropertyValue::create_from_xml`. -/
def createQuery (queries : List (QueryBase κ ν)) (child : Element) :
    Except (RequestError ε) (List (QueryBase κ ν)) :=
  if child.localName = ascii "Query" then source.createFromXml child queries
  else if child.localName = ascii "StoredQuery" then
    ((source.createStoredQuery child).mapError .handler).map fun query =>
      queries ++ [.storedQuery query]
  else .error (.unexpectedElement child.localName)

/-- The queries of the document. -/
def createQueries (root : Element) : Except (RequestError ε) (List (QueryBase κ ν)) :=
  (queryElements root).foldlM source.createQuery []

end QuerySource

/-! ### What a clause does to a list -/

namespace QueryBase

/-- Whether a query is an ad hoc query. -/
def IsAdHoc : QueryBase κ ν → Prop
  | query _ _ => True
  | storedQuery _ => False

/-- An ad hoc query is changed, a stored query stays. -/
def change (edit : AdHocQuery ν → AdHocQuery ν) : QueryBase κ ν → QueryBase κ ν
  | query id adHoc => query id (edit adHoc)
  | storedQuery stored => storedQuery stored

/-- A change makes no ad hoc query of another one. -/
@[simp]
theorem isAdHoc_change {edit : AdHocQuery ν → AdHocQuery ν} {element : QueryBase κ ν} :
    (element.change edit).IsAdHoc ↔ element.IsAdHoc := by
  cases element <;> rfl

/-- Two changes are one change. -/
theorem change_comp (first second : AdHocQuery ν → AdHocQuery ν) :
    (QueryBase.change second ∘ QueryBase.change first : QueryBase κ ν → QueryBase κ ν) =
      QueryBase.change (second ∘ first) := by
  funext element
  cases element <;> rfl

/-- Nothing is changed. -/
@[simp]
theorem change_id : QueryBase.change id = (id : QueryBase κ ν → QueryBase κ ν) := by
  funext element
  cases element <;> rfl

end QueryBase

/-- The clauses of an element: its property names, and its aliases with their type names. -/
structure Clauses where
  propertyNames : List ByteString
  aliases : List (ByteString × ByteString)

namespace Clauses

/-- Without property names and aliases. -/
def Plain (clauses : Clauses) : Prop := clauses.propertyNames = [] ∧ clauses.aliases = []

/-- The projection is put behind the filter. -/
def project (clauses : Clauses) (query : AdHocQuery ν) : AdHocQuery ν :=
  if clauses.propertyNames = [] then query
  else
    { query with filterExpression := query.filterExpression ++ projection clauses.propertyNames }

/-- The aliases are replaced in the filter. -/
def rename (clauses : Clauses) (query : AdHocQuery ν) : AdHocQuery ν :=
  { query with filterExpression := clauses.aliases.foldl replaceAlias query.filterExpression }

/-- The projection is added first, and the aliases are replaced in it, too. -/
def apply (clauses : Clauses) (query : AdHocQuery ν) : AdHocQuery ν :=
  clauses.rename (clauses.project query)

/-- Plain clauses change nothing. -/
theorem Plain.apply {clauses : Clauses} (plain : clauses.Plain) :
    clauses.apply = (id : AdHocQuery ν → AdHocQuery ν) := by
  funext query
  simp [Clauses.apply, project, rename, plain.1, plain.2]

end Clauses

/-- Every query is changed when all are ad hoc queries. -/
theorem forEachQuery_yields (edit : AdHocQuery ν → AdHocQuery ν) (queries : List (QueryBase κ ν)) :
    Yields (forEachQuery edit queries : Except (RequestError ε) _)
      (∀ element ∈ queries, element.IsAdHoc) (queries.map (QueryBase.change edit)) := by
  apply Yields.mapM
  intro element
  cases element with
  | query id adHoc => exact .ok _
  | storedQuery stored => exact .error _ _

/-- The projection is added when all are ad hoc queries or there are no property names. -/
theorem addProjectionClause_yields (clauses : Clauses) (queries : List (QueryBase κ ν)) :
    Yields (addProjectionClause clauses.propertyNames queries : Except (RequestError ε) _)
      (clauses.propertyNames = [] ∨ ∀ element ∈ queries, element.IsAdHoc)
      (queries.map (QueryBase.change clauses.project)) := by
  rw [addProjectionClause]
  split
  · next none =>
      have same : clauses.project = (id : AdHocQuery ν → AdHocQuery ν) := by
        funext query
        rw [Clauses.project, if_pos none, id]
      rw [same, QueryBase.change_id, List.map_id]
      exact (Yields.ok queries).congr (iff_of_true trivial (.inl none)) fun _ => rfl
  · next some =>
      apply (forEachQuery_yields _ queries).congr (or_iff_right some).symm
      intro _
      apply List.map_congr_left
      intro element _
      cases element with
      | query id adHoc => rw [QueryBase.change, QueryBase.change, Clauses.project, if_neg some]
      | storedQuery stored => rfl

/-- The aliases are replaced when all are ad hoc queries or there are no aliases. -/
theorem replaceAliasesOfAll_yields {aliases typeNames : List ByteString} {clauses : Clauses}
    (paired : clauses.aliases = aliases.zip typeNames) (queries : List (QueryBase κ ν)) :
    Yields (replaceAliasesOfAll aliases typeNames queries : Except (RequestError ε) _)
      (aliases = [] ∨ aliases.length = typeNames.length ∧ ∀ element ∈ queries, element.IsAdHoc)
      (queries.map (QueryBase.change clauses.rename)) := by
  rw [replaceAliasesOfAll]
  split_ifs with none mismatch
  · have same : clauses.rename = (id : AdHocQuery ν → AdHocQuery ν) := by
      funext query
      simp [Clauses.rename, paired, none]
    rw [same, QueryBase.change_id, List.map_id]
    exact (Yields.ok queries).congr (iff_of_true trivial (.inl none)) fun _ => rfl
  · apply (Yields.error _ queries).congr
    · exact iff_of_false id fun holds => holds.elim none fun counted => mismatch counted.1
    · intro holds
      exact (holds.elim none fun counted => mismatch counted.1).elim
  · apply (forEachQuery_yields _ queries).congr
    · rw [or_iff_right none, and_iff_right (not_not.mp mismatch)]
    · intro _
      apply List.map_congr_left
      intro element _
      cases element with
      | query id adHoc =>
          rw [QueryBase.change, QueryBase.change, Clauses.rename, paired]
          split
          · next empty => rw [empty, foldl_replaceAlias_nil, ← empty]
          · rfl
      | storedQuery stored => rfl

end SmartMetWfs.AdHoc
