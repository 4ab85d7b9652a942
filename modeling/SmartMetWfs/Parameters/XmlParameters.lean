import SmartMetWfs.Foundation.Outcomes
import SmartMetWfs.Parameters.StoredQuery
import SmartMetWfs.Xml.ParameterExtractor

/-!
# XML parameters of a stored query

`StoredQuery::extract_xml_parameters` goes through the parameter elements of a query in
their order. The occurrences of names are counted and conflicts are looked for as in a
request with key-value pairs, but the values come from the extractor of the XML type of a
parameter, and how many there may be is not looked at.
-/

namespace SmartMetWfs.Parameters

open Foundation Xml

/-- A configuration with the XML types of its parameters, and what values are read with. -/
structure ParameterSource where
  config : StoredQueryConfig Value
  xmlType : ByteString → ByteString
  reader : ValueReader Value
  conversions : ValueConversions
  xml2string : Node → ByteString

/-- Why an element is refused. -/
inductive XmlParamError
  | missingName
  | paramError (failure : ParamError)
  | notExtracted (name : ByteString) (failure : ExtractFailure)
  | outsideLimits (name : ByteString)

variable (source : ParameterSource)

/-- One parameter element of the query. -/
def extractXmlParameter (state : ExtractState Value) (element : Node) :
    Except XmlParamError (ExtractState Value) :=
  match element.getAttribute (ascii "name") with
  | none => .error .missingName
  | some paramName =>
      match source.config.getParamDesc paramName with
      | .error realName => .error (.paramError (.missingDescription realName))
      | .ok none => .ok { state with
          query := { state.query with
            skippedParams := state.query.skippedParams ++ [source.xml2string element] } }
      | .ok (some paramDesc) =>
          if state.forbidden.contains paramName then
            .error (.paramError (.conflictingParam paramName))
          else
            ((checkParamMaxOccurs (state.paramNameSet.count paramName + 1) paramDesc.maxOccurs
              paramName).mapError .paramError).bind fun _ =>
                match extractParam source.conversions element (source.xmlType paramDesc.name) with
                | .error failure => .error (.notExtracted paramName failure)
                | .ok values =>
                    match values.foldlM (insertChecked source.reader paramName paramDesc)
                        state.query.params with
                    | none => .error (.outsideLimits paramName)
                    | some params => .ok
                        { query := { state.query with params }
                          paramNameSet := paramName ::ₘ state.paramNameSet
                          forbidden := paramDesc.conflictsWith.keys.foldl
                            (fun forbidden it => OrderedSet.insert (asciiTolowerCopy it) forbidden)
                            state.forbidden }

/-- The elements of parameters in a query. -/
def paramElements (queryRoot : Node) : List Node :=
  getChildElements queryRoot wfsNamespaceUri (ascii "Parameter")

/-- `extract_xml_parameters`. -/
def extractXmlParameters (queryRoot : Node) : Except XmlParamError (StoredQuery Value) := do
  let state ← (paramElements queryRoot).foldlM (extractXmlParameter source) (.start source.config)
  (source.config.paramMap.entries.forM fun entry =>
    checkParamMinOccurs (state.paramNameSet.count entry.2.name) entry.2.minOccurs
      entry.2.name).mapError .paramError
  return state.query

/-! ### Occurrences -/

/-- A parameter of a request with the values that are read of it. -/
structure Occurrence where
  name : ByteString
  desc : ParamDesc Value
  values : List Value

/-- An array has as many values as its declaration allows. -/
def Occurrence.WithinSizes (occurrence : Occurrence) : Prop :=
  occurrence.desc.paramDef.isArray = true →
    occurrence.desc.paramDef.minSize ≤ occurrence.values.length ∧
      occurrence.values.length ≤ occurrence.desc.paramDef.maxSize

/-- What an item of a request gives, if it is a parameter. -/
def kvpOccurrence (item : ByteString × ByteString) : Option Occurrence :=
  match source.config.getParamDesc item.1 with
  | .ok (some desc) =>
      (kvpValues source.reader item.1 item.2 desc).map fun values => ⟨item.1, desc, values⟩
  | _ => none

/-- What an element of a document gives, if it is a parameter. -/
def xmlOccurrence (element : Node) : Option Occurrence :=
  match element.getAttribute (ascii "name") with
  | none => none
  | some paramName =>
      match source.config.getParamDesc paramName with
      | .ok (some desc) =>
          (extractParam source.conversions element (source.xmlType desc.name)).toOption.map
            fun values => ⟨paramName, desc, values⟩
      | _ => none

/-- The occurrences of a request, in the order of its names. -/
def kvpOccurrences (request : List (ByteString × ByteString)) : List Occurrence :=
  (parameterMap request).entries.filterMap (kvpOccurrence source)

/-- The occurrences of a document, in its order. -/
def xmlOccurrences (queryRoot : Node) : List Occurrence :=
  (paramElements queryRoot).filterMap (xmlOccurrence source)

/-- The occurrences are inserted one after the other. -/
def insertOccurrences (params : RequestParameterMap Value) (occurrences : List Occurrence) :
    RequestParameterMap Value :=
  occurrences.foldl (fun params occurrence => params.insertValues occurrence.name occurrence.values)
    params

/-- The query has the values of the occurrences, and the sizes of its arrays are right. -/
structure Enforced (query : StoredQuery Value) (occurrences : List Occurrence) : Prop where
  params : query.params =
    insertOccurrences (.empty source.config.useCaseSensitiveParams) occurrences
  sizes : ∀ occurrence ∈ occurrences, occurrence.WithinSizes

variable {source}

/-- If every step inserts the values of its own occurrence, a loop inserts those of all. -/
theorem params_of_steps {ι ε : Type} {step : ExtractState Value → ι → Except ε (ExtractState Value)}
    {occurrence : ι → Option Occurrence}
    (inserts : ∀ state item after, step state item = .ok after →
      after.query.params = insertOccurrences state.query.params (occurrence item).toList)
    (items : List ι) {start after : ExtractState Value}
    (ran : items.foldlM step start = .ok after) :
    after.query.params = insertOccurrences start.query.params (items.filterMap occurrence) := by
  have meets : Meets (fun _ => True) (items.foldlM step start) fun after =>
      after.query.params = insertOccurrences start.query.params (items.filterMap occurrence) := by
    apply Meets.foldlM fun done (after : ExtractState Value) =>
      after.query.params = insertOccurrences start.query.params (done.filterMap occurrence)
    · rfl
    · intro done item rest state split holds
      cases stepped : step state item with
      | error failure => exact Meets.error trivial
      | ok after =>
          apply Meets.ok
          rw [inserts state item after stepped, holds, List.filterMap_append]
          unfold insertOccurrences
          rw [List.foldl_append]
          cases own : occurrence item <;> simp [own]
  exact meets.of_ok ran

/-- An item that is accepted inserts its occurrence. -/
theorem extractKvpParameter_inserts (state : ExtractState Value) (item : ByteString × ByteString)
    (after : ExtractState Value)
    (stepped : extractKvpParameter source.reader source.config state item = .ok after) :
    after.query.params =
      insertOccurrences state.query.params (kvpOccurrence source item).toList := by
  unfold extractKvpParameter at stepped
  unfold kvpOccurrence
  cases found : source.config.getParamDesc item.1 with
  | error realName =>
      simp only [found] at stepped
      cases stepped
  | ok paramDesc =>
      simp only [found] at stepped ⊢
      cases forbidden : state.forbidden.contains item.1 with
      | true =>
          rw [forbidden, if_pos rfl] at stepped
          cases stepped
      | false =>
          rw [forbidden, if_neg Bool.false_ne_true] at stepped
          cases paramDesc with
          | none =>
              cases stepped
              rfl
          | some desc =>
              obtain ⟨_, _, inserted⟩ := ok_of_bind stepped
              simp only [insertKvpValues_eq] at inserted
              cases values : kvpValues source.reader item.1 item.2 desc with
              | none =>
                  rw [values] at inserted
                  cases inserted
              | some values' =>
                  rw [values] at inserted
                  cases inserted
                  simp only [values]
                  rfl

/-- What a parameter element that is accepted does. -/
inductive ElementStep (source : ParameterSource) (state : ExtractState Value) (element : Node)
    (after : ExtractState Value) : Prop
  | skipped (paramName : ByteString)
      (named : element.getAttribute (ascii "name") = some paramName)
      (unknown : source.config.getParamDesc paramName = .ok none)
      (isAfter : after = { state with
        query := { state.query with
          skippedParams := state.query.skippedParams ++ [source.xml2string element] } })
  | taken (paramName : ByteString) (desc : ParamDesc Value) (values : List Value)
      (named : element.getAttribute (ascii "name") = some paramName)
      (describes : source.config.Describes paramName desc)
      (free : state.forbidden.contains paramName = false)
      (few : (state.paramNameSet.count paramName : Int) + 1 ≤ desc.maxOccurs)
      (extracted : extractParam source.conversions element (source.xmlType desc.name) = .ok values)
      (isAfter : after =
        { query := { state.query with params := state.query.params.insertValues paramName values }
          paramNameSet := paramName ::ₘ state.paramNameSet
          forbidden := desc.conflictsWith.keys.foldl
            (fun forbidden it => OrderedSet.insert (asciiTolowerCopy it) forbidden)
            state.forbidden })

/-- An element that is accepted makes a step. -/
theorem extractXmlParameter_ok {state after : ExtractState Value} {element : Node}
    (stepped : extractXmlParameter source state element = .ok after) :
    ElementStep source state element after := by
  unfold extractXmlParameter at stepped
  cases named : element.getAttribute (ascii "name") with
  | none =>
      rw [named] at stepped
      cases stepped
  | some paramName =>
      simp only [named] at stepped
      cases found : source.config.getParamDesc paramName with
      | error realName =>
          rw [found] at stepped
          cases stepped
      | ok paramDesc =>
          rw [found] at stepped
          cases paramDesc with
          | none =>
              cases stepped
              exact .skipped paramName named found rfl
          | some desc =>
              simp only at stepped
              cases free : state.forbidden.contains paramName with
              | true =>
                  rw [free, if_pos rfl] at stepped
                  cases stepped
              | false =>
                  rw [free, if_neg Bool.false_ne_true] at stepped
                  obtain ⟨_, counted, inserted⟩ := ok_of_bind stepped
                  have few : (state.paramNameSet.count paramName : Int) + 1 ≤ desc.maxOccurs := by
                    unfold checkParamMaxOccurs at counted
                    split at counted
                    · cases counted
                    · next few => exact Int.not_lt.mp few
                  cases extracted : extractParam source.conversions element
                      (source.xmlType desc.name) with
                  | error failure =>
                      rw [extracted] at inserted
                      cases inserted
                  | ok values =>
                      simp only [extracted, foldlM_insertChecked] at inserted
                      split at inserted
                      · cases inserted
                      · next params limited =>
                          cases inserted
                          split at limited
                          · cases limited
                            exact .taken paramName desc values named found free few extracted rfl
                          · cases limited

/-- An element that is accepted inserts its occurrence. -/
theorem extractXmlParameter_inserts (state : ExtractState Value) (element : Node)
    (after : ExtractState Value) (stepped : extractXmlParameter source state element = .ok after) :
    after.query.params =
      insertOccurrences state.query.params (xmlOccurrence source element).toList := by
  unfold xmlOccurrence
  cases extractXmlParameter_ok stepped with
  | skipped paramName named unknown isAfter =>
      simp only [named, unknown, isAfter]
      rfl
  | taken paramName desc values named describes _ _ extracted isAfter =>
      unfold StoredQueryConfig.Describes at describes
      simp only [named, describes, extracted, isAfter]
      rfl

/-! ### Array sizes -/

/-- The parameters of a request are its occurrences. -/
theorem extractKvpParameters_params {request : List (ByteString × ByteString)}
    {query : StoredQuery Value}
    (accepted : extractKvpParameters source.reader source.config request = .ok query) :
    query.params = insertOccurrences (.empty source.config.useCaseSensitiveParams)
      (kvpOccurrences source request) := by
  obtain ⟨state, ran, rest⟩ := ok_of_bind accepted
  obtain ⟨_, _, returned⟩ := ok_of_bind rest
  cases returned
  exact params_of_steps extractKvpParameter_inserts _ ran

/-- The parameters of a document are its occurrences. -/
theorem extractXmlParameters_params {queryRoot : Node} {query : StoredQuery Value}
    (accepted : extractXmlParameters source queryRoot = .ok query) :
    query.params = insertOccurrences (.empty source.config.useCaseSensitiveParams)
      (xmlOccurrences source queryRoot) := by
  obtain ⟨state, ran, rest⟩ := ok_of_bind accepted
  obtain ⟨_, _, returned⟩ := ok_of_bind rest
  cases returned
  exact params_of_steps extractXmlParameter_inserts _ ran

/-- The texts of an array are counted before they are read. -/
theorem kvpValues_withinSizes {reader : ValueReader Value} {paramName valueStr : ByteString}
    {desc : ParamDesc Value} {values : List Value}
    (read : kvpValues reader paramName valueStr desc = some values) :
    (⟨paramName, desc, values⟩ : Occurrence).WithinSizes := by
  intro isArray
  obtain ⟨readAll, _⟩ := Option.filter_eq_some_iff.mp read
  rw [if_pos isArray] at readAll
  unfold StoredQueryParamDef.readValues at readAll
  split at readAll
  · next sizes =>
      rw [length_of_mapM readAll]
      exact sizes
  · cases readAll

/-- In a request with key-value pairs every array has a size that is declared. -/
theorem extractKvpParameters_enforced {request : List (ByteString × ByteString)}
    {query : StoredQuery Value}
    (accepted : extractKvpParameters source.reader source.config request = .ok query) :
    Enforced source query (kvpOccurrences source request) where
  params := extractKvpParameters_params accepted
  sizes := by
    intro occurrence member
    obtain ⟨item, _, read⟩ := List.mem_filterMap.mp member
    unfold kvpOccurrence at read
    split at read
    · obtain ⟨values, readValues, rfl⟩ := Option.map_eq_some_iff.mp read
      exact kvpValues_withinSizes readValues
    · cases read

/-- An array element has as many items as the declaration of its parameter allows. -/
def SizeFits (source : ParameterSource) (element : Node) : Prop :=
  ∀ paramName desc type, element.getAttribute (ascii "name") = some paramName →
    source.config.Describes paramName desc → desc.paramDef.isArray = true →
      findType (source.xmlType desc.name) = some type →
        desc.paramDef.minSize ≤ type.itemCount element ∧
          type.itemCount element ≤ desc.paramDef.maxSize

/-- An element that is accepted has values. -/
theorem extractParam_of_accepted {state after : ExtractState Value} {element : Node}
    {paramName : ByteString} {desc : ParamDesc Value}
    (accepted : extractXmlParameter source state element = .ok after)
    (named : element.getAttribute (ascii "name") = some paramName)
    (describes : source.config.Describes paramName desc) :
    ∃ values, extractParam source.conversions element (source.xmlType desc.name) = .ok values := by
  cases extractXmlParameter_ok accepted with
  | skipped paramName' named' unknown _ =>
      cases named.symm.trans named'
      cases Except.ok.inj (describes.symm.trans unknown)
  | taken paramName' desc' values named' describes' _ _ extracted _ =>
      cases named.symm.trans named'
      cases Except.ok.inj (describes.symm.trans describes')
      exact ⟨values, extracted⟩

/-- The size of an accepted occurrence is right if and only if that of its element is. -/
theorem withinSizes_iff {state after : ExtractState Value} {element : Node}
    (accepted : extractXmlParameter source state element = .ok after) :
    (∀ occurrence, xmlOccurrence source element = some occurrence → occurrence.WithinSizes) ↔
      SizeFits source element := by
  constructor
  · intro within paramName desc type named describes isArray found
    obtain ⟨values, extracted⟩ := extractParam_of_accepted accepted named describes
    obtain ⟨type', found', length⟩ := extractParam_length extracted
    cases found.symm.trans found'
    have occurs : xmlOccurrence source element = some ⟨paramName, desc, values⟩ := by
      unfold StoredQueryConfig.Describes at describes
      unfold xmlOccurrence
      simp only [named, describes, extracted]
      rfl
    rw [← length]
    exact within _ occurs isArray
  · intro fits occurrence occurs isArray
    unfold xmlOccurrence at occurs
    split at occurs
    · cases occurs
    · next paramName named =>
        split at occurs
        · next desc describes =>
            obtain ⟨values, extracted, rfl⟩ := Option.map_eq_some_iff.mp occurs
            cases read : extractParam source.conversions element (source.xmlType desc.name) with
            | error failure =>
                rw [read] at extracted
                cases extracted
            | ok values' =>
                rw [read] at extracted
                cases extracted
                obtain ⟨type, found, length⟩ := extractParam_length read
                rw [length]
                exact fits paramName desc type named describes isArray found
        · cases occurs

/-- The sizes of arrays are right in both forms of a request exactly when each array
element of the XML form has as many items as its declaration allows: only with key-value
pairs the sizes are looked at. -/
theorem arraySizes_enforced_iff (request : List (ByteString × ByteString)) {queryRoot : Node}
    {query : StoredQuery Value} (accepted : extractXmlParameters source queryRoot = .ok query) :
    ((∀ kvpQuery, extractKvpParameters source.reader source.config request = .ok kvpQuery →
        Enforced source kvpQuery (kvpOccurrences source request)) ∧
      Enforced source query (xmlOccurrences source queryRoot)) ↔
    ∀ element ∈ paramElements queryRoot, SizeFits source element := by
  obtain ⟨state, ran, _⟩ := ok_of_bind accepted
  constructor
  · intro ⟨_, enforced⟩ element member
    obtain ⟨before, after, stepped⟩ := step_ok_of_foldlM ran member
    apply (withinSizes_iff stepped).mp
    intro occurrence occurs
    exact enforced.sizes occurrence (List.mem_filterMap.mpr ⟨element, member, occurs⟩)
  · intro fits
    refine ⟨fun kvpQuery => extractKvpParameters_enforced, extractXmlParameters_params accepted, ?_⟩
    intro occurrence member
    obtain ⟨element, inElements, occurs⟩ := List.mem_filterMap.mp member
    obtain ⟨before, after, stepped⟩ := step_ok_of_foldlM ran inElements
    exact (withinSizes_iff stepped).mpr (fits element inElements) occurrence occurs

/-! ### A list of names -/

/-- One parameter: a list of one or two names. -/
def namesDesc : ParamDesc Value where
  name := ascii "names"
  minOccurs := 0
  maxOccurs := 1
  paramDef := ⟨.string, true, 1, 2⟩
  lowerLimit := none
  upperLimit := none
  conflictsWith := .empty

/-- A stored query with an array of names. -/
def namesSource : ParameterSource where
  config :=
    { useCaseSensitiveParams := false
      paramMap := OrderedMap.set (ascii "names") namesDesc .empty
      caseMap := OrderedMap.set (ascii "names") (ascii "names") .empty }
  xmlType _ := ascii "gml:NameList"
  reader := ⟨fun _ valueStr => some (.string valueStr), fun _ => none, fun _ _ _ => true⟩
  conversions := ⟨fun _ => none, fun _ => none, fun _ => none, fun _ => none, fun _ => none⟩
  xml2string := writeNode

/-- A parameter element with a text. -/
def namesElement (text : ByteString) : Node :=
  .element (ascii "wfs:Parameter") (some wfsNamespaceUri) [(ascii "name", ascii "names")]
    [.text text]

/-- A query with one parameter element. -/
def namesRoot (text : ByteString) : Node :=
  .element (ascii "wfs:StoredQuery") (some wfsNamespaceUri) [] [namesElement text]

/-- The query with so many names. -/
def namesQuery (names : List ByteString) : StoredQuery Value :=
  ⟨insertOccurrences (.empty false) [⟨ascii "names", namesDesc, names.map .string⟩], []⟩

/-- The sizes are enforced in both forms of a request for two names. -/
theorem arraySizes_enforced_sample :
    ((∀ kvpQuery,
        extractKvpParameters namesSource.reader namesSource.config
          [(ascii "names", ascii "a,b")] = .ok kvpQuery →
        Enforced namesSource kvpQuery (kvpOccurrences namesSource [(ascii "names", ascii "a,b")])) ∧
      Enforced namesSource (namesQuery [ascii "a", ascii "b"])
        (xmlOccurrences namesSource (namesRoot (ascii "a b")))) ↔
    ∀ element ∈ paramElements (namesRoot (ascii "a b")), SizeFits namesSource element :=
  arraySizes_enforced_iff _ rfl

/-- Three names are refused with key-value pairs and accepted in XML. -/
theorem threeNames_accepted :
    listItems (ascii " \t\r\n") (namesElement (ascii "a b c")) =
        some ((ascii "a,b,c").splitOn 44) ∧
      (∃ failure, extractKvpParameters namesSource.reader namesSource.config
        [(ascii "names", ascii "a,b,c")] = .error failure) ∧
      ∃ query, extractXmlParameters namesSource (namesRoot (ascii "a b c")) = .ok query ∧
        ¬ Enforced namesSource query (xmlOccurrences namesSource (namesRoot (ascii "a b c"))) := by
  have occurs : xmlOccurrence namesSource (namesElement (ascii "a b c")) =
      some ⟨ascii "names", namesDesc, [.string (ascii "a"), .string (ascii "b"),
        .string (ascii "c")]⟩ := rfl
  refine ⟨rfl, ⟨.unreadable (ascii "names") (ascii "a,b,c"), rfl⟩,
    namesQuery [ascii "a", ascii "b", ascii "c"], rfl, ?_⟩
  intro enforced
  have sizes := enforced.sizes _ (List.mem_filterMap.mpr ⟨_, List.mem_cons_self, occurs⟩) rfl
  exact absurd sizes.2 (by decide)

end SmartMetWfs.Parameters
