import SmartMetWfs.AdHoc.RequestQueries

/-!
# Children of a request

What a child of the document is worth by itself, and what the list of all queries becomes: the
clauses of a child, its property names and aliases, are carried out on its own queries and on
those of all children before it. So a child can only have clauses if there is no stored query
before it; if only the first child has any, then the children do not meddle with one another.
-/

namespace SmartMetWfs.AdHoc

open Foundation Parameters

variable {ε κ ν : Type}

/-! ### What a child is worth by itself -/

/-- What a child of the document contributes: a stored query, or ad hoc queries and the clauses
that go with them. -/
inductive Part (κ ν : Type)
  | storedQuery (query : κ)
  | query (made : List (ByteString × AdHocQuery ν)) (clauses : Clauses)

namespace Part

/-- The queries that a child of the request gives. -/
def queries : Part κ ν → List (QueryBase κ ν)
  | storedQuery stored => [.storedQuery stored]
  | query made _ => made.map fun item => .query item.1 item.2

/-- The property names and aliases of a child. -/
def clauses : Part κ ν → Clauses
  | storedQuery _ => ⟨[], []⟩
  | query _ clauses => clauses

/-- What the child does to a query on the list. -/
def edit (part : Part κ ν) : QueryBase κ ν → QueryBase κ ν := QueryBase.change part.clauses.apply

/-- The clauses of the child can be carried out along these queries. -/
def Suits (part : Part κ ν) (queries : List (QueryBase κ ν)) : Prop :=
  part.clauses.Plain ∨ ∀ element ∈ queries, element.IsAdHoc

end Part

/-- Each alias with its type name. -/
def pairAliases (aliases typeNames : List ByteString) :
    Except (RequestError ε) (List (ByteString × ByteString)) :=
  if aliases = [] ∨ aliases.length = typeNames.length then .ok (aliases.zip typeNames)
  else .error (.aliasCount
    (ascii "The number of aliases does not match the number of type names."))

/-- The property names and aliases of a query element. -/
def readClauses (reader : XmlReader ν) (queryRoot : Element) :
    Except (RequestError ε) Clauses := do
  let propertyNames ← readPropertyNames reader queryRoot
  let aliases ← pairAliases (readAliases queryRoot).1 (readAliases queryRoot).2
  return ⟨propertyNames, aliases⟩

/-- What a child of the request says by itself. -/
def QuerySource.readPart (source : QuerySource ε κ ν) (child : Element) :
    Except (RequestError ε) (Part κ ν) :=
  if child.localName = ascii "Query" then do
    let made ← source.makeQueries child
    let clauses ← readClauses source.reader child
    return .query made clauses
  else if child.localName = ascii "StoredQuery" then
    ((source.createStoredQuery child).mapError .handler).map .storedQuery
  else .error (.unexpectedElement child.localName)

/-- Counted aliases are paired to nothing only when there are none. -/
theorem zip_eq_nil_of_counted {aliases typeNames : List ByteString}
    (counted : aliases = [] ∨ aliases.length = typeNames.length) :
    aliases.zip typeNames = [] ↔ aliases = [] := by
  rw [List.zip_eq_nil_iff]
  constructor
  · rintro (none | none)
    · exact none
    · obtain none' | same := counted
      · exact none'
      · rw [none, List.length_nil] at same
        exact List.eq_nil_of_length_eq_zero same
  · exact .inl

/-- Aliases are paired when there are none or as many as type names. -/
theorem pairAliases_yields (aliases typeNames : List ByteString) :
    Yields (pairAliases aliases typeNames : Except (RequestError ε) _)
      (aliases = [] ∨ aliases.length = typeNames.length) (aliases.zip typeNames) :=
  Yields.ite Iff.rfl _ _

/-- The clauses are carried out on a list exactly if they can be read and there is none of them
or all queries on the list are ad hoc queries. -/
theorem clauses_iff {reader : XmlReader ν} {queryRoot : Element}
    {queries result : List (QueryBase κ ν)} :
    (readPropertyNames reader queryRoot >>= fun propertyNames =>
      addProjectionClause propertyNames queries >>= fun projected =>
        replaceAliasesOfAll (readAliases queryRoot).1 (readAliases queryRoot).2 projected) =
          (.ok result : Except (RequestError ε) _) ↔
      ∃ clauses, (readClauses reader queryRoot : Except (RequestError ε) _) = .ok clauses ∧
        (clauses.Plain ∨ ∀ element ∈ queries, element.IsAdHoc) ∧
        result = queries.map (QueryBase.change clauses.apply) := by
  rw [readClauses]
  cases (readPropertyNames reader queryRoot : Except (RequestError ε) _) with
  | error failure => exact iff_of_false nofun nofun
  | ok propertyNames =>
      obtain ⟨aliases, typeNames⟩ := readAliases queryRoot
      let clauses : Clauses := ⟨propertyNames, aliases.zip typeNames⟩
      have projects := addProjectionClause_yields (ε := ε) clauses queries
      have paired : clauses.aliases = aliases.zip typeNames := rfl
      have renames := replaceAliasesOfAll_yields (ε := ε) paired
        (queries.map (QueryBase.change clauses.project))
      have reads := (pairAliases_yields (ε := ε) aliases typeNames).map (Clauses.mk propertyNames)
      have whole : (queries.map (QueryBase.change clauses.project)).map
          (QueryBase.change clauses.rename) = queries.map (QueryBase.change clauses.apply) := by
        rw [List.map_map, QueryBase.change_comp]
        rfl
      have allProjected : (∀ element ∈ queries.map (QueryBase.change clauses.project),
          element.IsAdHoc) ↔ ∀ element ∈ queries, element.IsAdHoc := by simp
      refine ((projects.bind renames) result).trans ?_
      rw [whole, allProjected]
      constructor
      · rintro ⟨⟨projected, renamed⟩, same⟩
        have counted : aliases = [] ∨ aliases.length = typeNames.length := by tauto
        have plain : clauses.Plain ↔ propertyNames = [] ∧ aliases = [] :=
          and_congr_right fun _ => zip_eq_nil_of_counted counted
        exact ⟨clauses, (reads clauses).mpr ⟨counted, rfl⟩, by tauto, same⟩
      · rintro ⟨other, read, suits, same⟩
        obtain ⟨counted, rfl⟩ := (reads other).mp read
        have plain : clauses.Plain ↔ propertyNames = [] ∧ aliases = [] :=
          and_congr_right fun _ => zip_eq_nil_of_counted counted
        exact ⟨by tauto, same⟩

/-! ### One child -/

namespace QuerySource

variable {source : QuerySource ε κ ν}

/-- The queries of a query element are ad hoc queries. -/
theorem part_isAdHoc (made : List (ByteString × AdHocQuery ν)) (clauses : Clauses) :
    ∀ element ∈ (Part.query made clauses : Part κ ν).queries, element.IsAdHoc := by
  intro element member
  obtain ⟨item, inMade, rfl⟩ := List.mem_map.mp member
  trivial

/-- A query element is accepted with its queries, projected and renamed after all earlier ones. -/
theorem createFromXml_iff {queryRoot : Element} {queries result : List (QueryBase κ ν)} :
    source.createFromXml queryRoot queries = .ok result ↔
      ∃ made clauses, source.makeQueries queryRoot = .ok made ∧
        readClauses source.reader queryRoot = (.ok clauses : Except (RequestError ε) _) ∧
        (Part.query made clauses).Suits queries ∧
        result = (queries ++ (Part.query made clauses).queries).map
          (Part.query made clauses : Part κ ν).edit := by
  rw [createFromXml]
  cases source.makeQueries queryRoot with
  | error failure => exact iff_of_false nofun nofun
  | ok made =>
      refine clauses_iff.trans ⟨?_, ?_⟩
      · rintro ⟨clauses, read, suits, same⟩
        refine ⟨made, clauses, rfl, read, ?_, same⟩
        apply suits.imp_right
        intro all element member
        exact all element (List.mem_append_left _ member)
      · rintro ⟨other, clauses, sameMade, read, suits, same⟩
        cases sameMade
        refine ⟨clauses, read, ?_, same⟩
        apply suits.imp_right
        intro all
        exact List.forall_mem_append.mpr ⟨all, part_isAdHoc made clauses⟩

/-- A child is taken if it can be read and its clauses can be carried out along the queries
before it, and then they are. -/
theorem createQuery_iff {child : Element} {queries result : List (QueryBase κ ν)} :
    source.createQuery queries child = .ok result ↔
      ∃ part, source.readPart child = .ok part ∧ part.Suits queries ∧
        result = (queries ++ part.queries).map part.edit := by
  rw [createQuery, readPart]
  split_ifs with isQuery isStored
  · rw [createFromXml_iff]
    cases source.makeQueries child with
    | error failure => exact iff_of_false nofun nofun
    | ok made =>
        cases (readClauses source.reader child : Except (RequestError ε) _) with
        | error failure => exact iff_of_false nofun nofun
        | ok clauses =>
            constructor
            · rintro ⟨_, _, ⟨⟩, ⟨⟩, suits, same⟩
              exact ⟨_, rfl, suits, same⟩
            · rintro ⟨_, ⟨⟩, suits, same⟩
              exact ⟨made, clauses, rfl, rfl, suits, same⟩
  · cases source.createStoredQuery child with
    | error failure => exact iff_of_false nofun nofun
    | ok stored =>
        have plain : (Part.storedQuery stored : Part κ ν).clauses.Plain := ⟨rfl, rfl⟩
        have unedited : (Part.storedQuery stored : Part κ ν).edit = id := by
          rw [Part.edit, plain.apply, QueryBase.change_id]
        constructor
        · rintro ⟨⟩
          refine ⟨.storedQuery stored, rfl, .inl plain, ?_⟩
          rw [unedited, List.map_id]
          rfl
        · rintro ⟨_, ⟨⟩, -, rfl⟩
          rw [unedited, List.map_id]
          rfl
  · exact iff_of_false nofun nofun

/-! ### The whole list -/

end QuerySource

namespace Part

/-- What these children do to a query on the list, one after the other. -/
def editAll (parts : List (Part κ ν)) (element : QueryBase κ ν) : QueryBase κ ν :=
  parts.foldl (fun element part => part.edit element) element

/-- The queries of all children, each edited by its own child and by all later ones. -/
def gather : List (Part κ ν) → List (QueryBase κ ν)
  | [] => []
  | part :: parts => part.queries.map (editAll (part :: parts)) ++ gather parts

/-- No child has clauses and a stored query before it. -/
def Castable (parts : List (Part κ ν)) : Prop :=
  parts.Pairwise fun earlier later => later.Suits earlier.queries

theorem editAll_nil : (editAll [] : QueryBase κ ν → QueryBase κ ν) = id := rfl

/-- The edits of later children come after those of the first. -/
theorem editAll_cons (part : Part κ ν) (parts : List (Part κ ν)) :
    editAll (part :: parts) = editAll parts ∘ part.edit := rfl

/-- An edit makes no ad hoc query of another one. -/
@[simp]
theorem isAdHoc_edit {part : Part κ ν} {element : QueryBase κ ν} :
    (part.edit element).IsAdHoc ↔ element.IsAdHoc :=
  QueryBase.isAdHoc_change

/-- Whether the queries suit a child does not depend on earlier edits. -/
theorem suits_map_edit {part earlier : Part κ ν} {queries : List (QueryBase κ ν)} :
    part.Suits (queries.map earlier.edit) ↔ part.Suits queries := by
  simp [Suits]

theorem suits_append {part : Part κ ν} {queries others : List (QueryBase κ ν)} :
    part.Suits (queries ++ others) ↔ part.Suits queries ∧ part.Suits others := by
  rw [Suits, List.forall_mem_append, or_and_left]
  rfl

/-- After one more child, the others have to suit what was there and what it brought. -/
theorem suits_next {part : Part κ ν} {parts : List (Part κ ν)} {queries : List (QueryBase κ ν)} :
    ((∀ later ∈ parts, later.Suits ((queries ++ part.queries).map part.edit)) ∧ Castable parts) ↔
      (∀ later ∈ parts, later.Suits queries) ∧ Castable (part :: parts) := by
  simp only [suits_map_edit, suits_append, Castable, List.pairwise_cons]
  constructor
  · rintro ⟨suit, castable⟩
    exact ⟨fun later member => (suit later member).1,
      fun later member => (suit later member).2, castable⟩
  · rintro ⟨suit, brought, castable⟩
    exact ⟨fun later member => ⟨suit later member, brought later member⟩, castable⟩

end Part

namespace QuerySource

open SmartMetWfs.AdHoc.Part

variable {source : QuerySource ε κ ν}

/-- The loop over the children, from a list that has queries already. -/
theorem foldlM_createQuery_iff {children : List Element} {queries result : List (QueryBase κ ν)} :
    children.foldlM source.createQuery queries = .ok result ↔
      ∃ parts, children.mapM source.readPart = .ok parts ∧
        ((∀ part ∈ parts, part.Suits queries) ∧ Castable parts) ∧
        result = queries.map (editAll parts) ++ gather parts := by
  induction children generalizing queries with
  | nil =>
      constructor
      · rintro ⟨⟩
        refine ⟨[], rfl, ⟨List.forall_mem_nil _, List.Pairwise.nil⟩, ?_⟩
        simp [editAll_nil, gather]
      · rintro ⟨_, ⟨⟩, -, rfl⟩
        simp [editAll_nil, gather, pure, Except.pure]
  | cons child children ih =>
      have follows (part : Part κ ν) (parts : List (Part κ ν)) :
          ((queries ++ part.queries).map part.edit).map (editAll parts) ++ gather parts =
            queries.map (editAll (part :: parts)) ++ gather (part :: parts) := by
        simp [editAll_cons, gather]
      rw [List.foldlM_cons]
      constructor
      · intro ran
        obtain ⟨middle, stepped, rest⟩ := ok_of_bind ran
        obtain ⟨part, read, suits, rfl⟩ := createQuery_iff.mp stepped
        obtain ⟨parts, readAll, suit, rfl⟩ := ih.mp rest
        obtain ⟨suitRest, castable⟩ := suits_next.mp suit
        rw [List.mapM_cons, read, readAll]
        exact ⟨part :: parts, rfl, ⟨List.forall_mem_cons.mpr ⟨suits, suitRest⟩, castable⟩,
          follows part parts⟩
      · rintro ⟨all, readAll, ⟨suit, castable⟩, rfl⟩
        obtain ⟨part, parts, read, readRest, rfl⟩ := ok_of_mapM_cons readAll
        obtain ⟨suits, suitRest⟩ := List.forall_mem_cons.mp suit
        rw [createQuery_iff.mpr ⟨part, read, suits, rfl⟩]
        have suitNext := suits_next.mpr ⟨suitRest, castable⟩
        exact ih.mpr ⟨parts, readRest, suitNext, (follows part parts).symm⟩

/-- No queries suit every child. -/
theorem suits_nil (parts : List (Part κ ν)) : ∀ part ∈ parts, part.Suits [] :=
  fun _ _ => .inr (List.forall_mem_nil _)

/-- A document whose children can be read and cast gives the gathered queries. -/
theorem createQueries_gather {root : Element} {parts : List (Part κ ν)}
    (read : (queryElements root).mapM source.readPart = .ok parts) (castable : Castable parts) :
    source.createQueries root = .ok (gather parts) :=
  foldlM_createQuery_iff.mpr ⟨parts, read, ⟨suits_nil parts, castable⟩, rfl⟩

/-- A document is accepted exactly if its children can be read and none of them has clauses and a
stored query before it. Its queries then are those of the children in their order, and the
clauses of each child are carried out on its own queries and on all earlier ones. -/
theorem createQueries_iff {root : Element} {result : List (QueryBase κ ν)} :
    source.createQueries root = .ok result ↔
      ∃ parts, (queryElements root).mapM source.readPart = .ok parts ∧ Castable parts ∧
        result = gather parts := by
  constructor
  · intro accepted
    obtain ⟨parts, read, suit, rfl⟩ := foldlM_createQuery_iff.mp accepted
    exact ⟨parts, read, suit.2, rfl⟩
  · rintro ⟨parts, read, castable, rfl⟩
    exact createQueries_gather read castable

/-! ### A server with one feature type -/

/-- An element with the name of a property. -/
def propertyElement (name : ByteString) : Element :=
  .mk (ascii "wfs:PropertyName") (ascii "PropertyName") wfsNamespace [] name []

/-- A query element with one property name. -/
def projectedElement (propertyName : ByteString) : Element :=
  .mk (ascii "wfs:Query") (ascii "Query") wfsNamespace [(ascii "typeNames", ascii "t")] []
    [propertyElement propertyName]

/-- An element for a stored query. -/
def storedElement : Element :=
  .mk (ascii "wfs:StoredQuery") (ascii "StoredQuery") wfsNamespace [] [] []

/-- The root element of a request. -/
def getFeatureElement (children : List Element) : Element :=
  .mk (ascii "wfs:GetFeature") (ascii "GetFeature") wfsNamespace [] [] children

/-- One feature type, with one stored query that takes no parameters. -/
def plainSource : QuerySource Unit Unit Unit where
  typenameQryMap := [(ascii "t", [ascii "q"])]
  getConfig _ := .ok (.initial true)
  processParams _ params := .ok params
  createStoredQuery _ := .ok ()
  reader :=
    { readEnvelope _ := none
      readDateTime _ := none
      readString := fun | .mk _ _ _ _ text _ => some text
      checkLimits _ _ _ := true
      leavesRest _ := false }
  useCaseSensitiveParams := true

/-- What the query element says. -/
def projectedPart (propertyName : ByteString) : Part Unit Unit :=
  .query [(ascii "q", .create true 0)] ⟨[propertyName], []⟩

example : plainSource.createQueries
    (getFeatureElement [projectedElement (ascii "a"), projectedElement (ascii "b")]) =
      .ok [.query (ascii "q") { AdHocQuery.create true 0 with
          filterExpression := ascii "//(a)//(b)" },
        .query (ascii "q") { AdHocQuery.create true 0 with filterExpression := ascii "//(b)" }] :=
  rfl

/-! ### Documents that are refused -/

/-- Among mixed queries one cannot be cast. -/
theorem forEachQuery_badCast {edit : AdHocQuery ν → AdHocQuery ν} {queries : List (QueryBase κ ν)}
    (mixed : ¬∀ element ∈ queries, element.IsAdHoc) :
    (forEachQuery edit queries : Except (RequestError ε) _) = .error .badCast := by
  induction queries with
  | nil => exact absurd (List.forall_mem_nil _) mixed
  | cons element queries ih =>
      rw [forEachQuery, List.mapM_cons]
      cases element with
      | storedQuery stored => rfl
      | query id adHoc =>
          have rest := ih fun all => mixed (List.forall_mem_cons.mpr ⟨trivial, all⟩)
          rw [forEachQuery] at rest
          rw [rest]
          rfl

/-- A query element with property names or aliases fails behind a stored query. -/
theorem createFromXml_badCast {queryRoot : Element} {queries : List (QueryBase κ ν)}
    {made : List (ByteString × AdHocQuery ν)} {clauses : Clauses}
    (makes : source.makeQueries queryRoot = .ok made)
    (read : readClauses source.reader queryRoot = (.ok clauses : Except (RequestError ε) _))
    (unsuited : ¬(Part.query made clauses).Suits queries) :
    source.createFromXml queryRoot queries = .error .badCast := by
  obtain ⟨clausy, mixed⟩ := not_or.mp unsuited
  have mixedToo : ¬∀ element ∈ queries ++ made.map fun item => .query item.1 item.2,
      element.IsAdHoc := fun all => mixed (List.forall_mem_append.mp all).1
  rw [createFromXml, makes]
  rw [readClauses] at read
  obtain ⟨propertyNames, names, pairs⟩ := ok_of_bind read
  obtain ⟨aliases, paired, same⟩ := ok_of_bind pairs
  cases same
  obtain ⟨counted, rfl⟩ := (pairAliases_yields _ _ _).mp paired
  rw [names]
  by_cases none : propertyNames = []
  · have aliased : (readAliases queryRoot).1 ≠ [] := by
      intro noAlias
      exact clausy ⟨none, (zip_eq_nil_of_counted counted).mpr noAlias⟩
    have sameLength := not_not.mpr (counted.resolve_left aliased)
    change (addProjectionClause propertyNames _ >>= _) = _
    rw [addProjectionClause, if_pos none]
    change replaceAliasesOfAll _ _ _ = _
    rw [replaceAliasesOfAll, if_neg aliased, if_neg sameLength, forEachQuery_badCast mixedToo]
  · change (addProjectionClause propertyNames _ >>= _) = _
    rw [addProjectionClause, if_neg none, forEachQuery_badCast mixedToo]
    rfl

/-- A child that earlier queries do not suit fails. -/
theorem createQuery_badCast {child : Element} {part : Part κ ν} {queries : List (QueryBase κ ν)}
    (read : source.readPart child = .ok part) (unsuited : ¬part.Suits queries) :
    source.createQuery queries child = .error .badCast := by
  rw [readPart] at read
  rw [createQuery]
  split_ifs at read ⊢ with isQuery isStored
  · obtain ⟨made, makes, rest⟩ := ok_of_bind read
    obtain ⟨clauses, readThem, same⟩ := ok_of_bind rest
    cases same
    exact createFromXml_badCast makes readThem unsuited
  · cases created : source.createStoredQuery child with
    | error failure =>
        rw [created] at read
        cases read
    | ok stored =>
        rw [created] at read
        cases read
        exact absurd (.inl ⟨rfl, rfl⟩) unsuited

/-- Children fail when one of them is not suited by the queries before it. -/
theorem foldlM_createQuery_badCast {children : List Element} {parts : List (Part κ ν)}
    {queries : List (QueryBase κ ν)} (read : children.mapM source.readPart = .ok parts)
    (unsuited : ¬((∀ part ∈ parts, part.Suits queries) ∧ Castable parts)) :
    children.foldlM source.createQuery queries = .error .badCast := by
  induction children generalizing queries parts with
  | nil =>
      cases read
      exact absurd ⟨List.forall_mem_nil _, List.Pairwise.nil⟩ unsuited
  | cons child children ih =>
      obtain ⟨part, others, readOne, readRest, rfl⟩ := ok_of_mapM_cons read
      rw [List.foldlM_cons]
      by_cases suits : part.Suits queries
      · rw [createQuery_iff.mpr ⟨part, readOne, suits, rfl⟩]
        apply ih readRest
        intro suit
        obtain ⟨suitRest, castable⟩ := suits_next.mp suit
        exact unsuited ⟨List.forall_mem_cons.mpr ⟨suits, suitRest⟩, castable⟩
      · rw [createQuery_badCast readOne suits]
        rfl

/-- A document whose children can all be read is refused by a failing cast, if one of them has
clauses and a stored query stands before it. -/
theorem createQueries_badCast {root : Element} {parts : List (Part κ ν)}
    (read : (queryElements root).mapM source.readPart = .ok parts) (uncastable : ¬Castable parts) :
    source.createQueries root = .error .badCast :=
  foldlM_createQuery_badCast read fun suit => uncastable suit.2

/-- What its two children say. -/
theorem storedFirst_parts :
    (queryElements (getFeatureElement [storedElement, projectedElement (ascii "a")])).mapM
      plainSource.readPart = .ok [.storedQuery (), projectedPart (ascii "a")] := rfl

/-- The stored query before the projection cannot be cast. -/
theorem storedFirst_uncastable : ¬Castable [.storedQuery (), projectedPart (ascii "a")] := by
  intro castable
  obtain plain | all := List.rel_of_pairwise_cons castable List.mem_cons_self
  · cases plain.1
  · exact all (.storedQuery ()) List.mem_cons_self

/-- The document is refused. -/
theorem storedFirst_refused :
    plainSource.createQueries
      (getFeatureElement [storedElement, projectedElement (ascii "a")]) = .error .badCast :=
  createQueries_badCast storedFirst_parts storedFirst_uncastable

/-! ### Children that keep apart -/

/-- Without property names and aliases nothing is edited. -/
theorem editAll_of_plain {parts : List (Part κ ν)} (plain : ∀ part ∈ parts, part.clauses.Plain) :
    (editAll parts : QueryBase κ ν → QueryBase κ ν) = id := by
  induction parts with
  | nil => rfl
  | cons part parts ih =>
      obtain ⟨first, rest⟩ := List.forall_mem_cons.mp plain
      rw [editAll_cons, ih rest, Part.edit, first.apply, QueryBase.change_id]
      rfl

/-- Then every child edits its own queries only. -/
theorem gather_of_plain {parts : List (Part κ ν)}
    (plain : ∀ part ∈ parts.tail, part.clauses.Plain) :
    gather parts = parts.flatMap fun part => part.queries.map part.edit := by
  induction parts with
  | nil => rfl
  | cons part parts ih =>
      have plainRest : ∀ later ∈ parts, later.clauses.Plain := plain
      have rest := ih fun later member => plainRest later (List.mem_of_mem_tail member)
      rw [gather, editAll_cons, editAll_of_plain plainRest, rest, List.flatMap_cons]
      rfl

/-- A child by itself is always accepted. -/
theorem createQuery_alone {child : Element} {part : Part κ ν}
    (read : source.readPart child = .ok part) :
    source.createQuery [] child = .ok (part.queries.map part.edit) :=
  createQuery_iff.mpr ⟨part, read, .inr (List.forall_mem_nil _), rfl⟩

/-- Each child of a list is accepted by itself. -/
theorem mapM_createQuery_alone {children : List Element} {parts : List (Part κ ν)}
    (read : children.mapM source.readPart = .ok parts) :
    children.mapM (source.createQuery []) =
      .ok (parts.map fun part => part.queries.map part.edit) := by
  induction children generalizing parts with
  | nil =>
      cases read
      rfl
  | cons child children ih =>
      obtain ⟨part, others, readOne, readRest, rfl⟩ := ok_of_mapM_cons read
      rw [List.mapM_cons, createQuery_alone readOne, ih readRest]
      rfl

/-- If no child after the first has clauses, then the queries of the document are those that
each child has in a document of its own. -/
theorem createQueries_apart {root : Element} {parts : List (Part κ ν)}
    (read : (queryElements root).mapM source.readPart = .ok parts)
    (plain : ∀ part ∈ parts.tail, part.clauses.Plain) :
    ∃ alone, (queryElements root).mapM (source.createQuery []) = .ok alone ∧
      source.createQueries root = .ok alone.flatten := by
  have castable : Castable parts := by
    cases parts with
    | nil => exact List.Pairwise.nil
    | cons part parts =>
        have plainRest : ∀ later ∈ parts, later.clauses.Plain := plain
        refine List.pairwise_cons.mpr ⟨fun later member => .inl (plainRest later member), ?_⟩
        apply List.pairwise_of_forall_mem_list
        exact fun earlier _ later member => .inl (plainRest later member)
  refine ⟨_, mapM_createQuery_alone read, ?_⟩
  rw [createQueries_gather read castable, gather_of_plain plain, List.flatMap_def]

/-- What its two children say. -/
theorem storedLast_parts :
    (queryElements (getFeatureElement [projectedElement (ascii "a"), storedElement])).mapM
      plainSource.readPart = .ok [projectedPart (ascii "a"), .storedQuery ()] := rfl

/-- Its queries are those of the two children apart. -/
theorem storedLast_apart :
    ∃ alone,
      (queryElements (getFeatureElement [projectedElement (ascii "a"), storedElement])).mapM
        (plainSource.createQuery []) = .ok alone ∧
      plainSource.createQueries (getFeatureElement [projectedElement (ascii "a"), storedElement]) =
        .ok alone.flatten :=
  createQueries_apart storedLast_parts fun part member => by
    obtain rfl := List.mem_singleton.mp member
    exact ⟨rfl, rfl⟩

end QuerySource

end SmartMetWfs.AdHoc
