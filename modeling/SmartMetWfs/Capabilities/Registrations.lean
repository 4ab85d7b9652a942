import SmartMetWfs.Foundation.ThreadPool
import SmartMetWfs.Capabilities.ReturnTypes

/-!
# Registered stored queries and their readers

Handlers of stored queries are constructed and removed while requests list what there is.
The constructor of a handler registers the features and the data sets of its configuration
with `WfsCapabilities` one by one; only when it has come to its end is the handler added to
the `StoredQueryMap`. A listing takes the names of the handlers first and then looks up each
of them. Between any two of these steps the other threads may do anything.
-/

namespace SmartMetWfs.Capabilities

open Foundation

/-! ### Handlers -/

/-- An entry of `datasetids`. -/
structure DataSetDef where
  dataSet : ByteString
  storedQuery : ByteString
  ns : ByteString
  deriving DecidableEq

/-- The handlers that return the types of all stored queries, and the others. -/
inductive HandlerKind
  | ordinary
  | getFeatureById
  | getDataSetById (dataSetIds : List DataSetDef)
  deriving DecidableEq

/-- `StoredQueryConfig`, as far as it is registered and listed. -/
structure QueryConfig where
  queryId : ByteString
  returnTypeNames : List ByteString
  hidden : Bool
  kind : HandlerKind
  deriving DecidableEq

/-- The data sets of a query. -/
def QueryConfig.dataSetIds (config : QueryConfig) : List DataSetDef :=
  match config.kind with
  | .getDataSetById dataSetIds => dataSetIds
  | .ordinary | .getFeatureById => []

/-- The name under which the handler of the configuration is found. -/
def QueryConfig.key (config : QueryConfig) : ByteString := asciiTolowerCopy config.queryId

/-- A handler with the data sets that it has read. -/
structure Handler where
  config : QueryConfig
  dataSetMap : OrderedMap ByteString ByteString
  deriving DecidableEq

/-- The part of `WfsCapabilities` and `StoredQueryMap` that changes. -/
structure Registry where
  usedFeatures : OrderedSet ByteString
  dataSetMap : OrderedMap ByteString ByteString
  handlerMap : OrderedMap ByteString Handler
  deriving DecidableEq

namespace Registry

/-- Nothing is registered. -/
def initial : Registry := ⟨.empty, .empty, .empty⟩

/-- `register_feature_use`, if the feature is known. -/
def useFeature (registry : Registry) (name : ByteString) : Registry :=
  { registry with usedFeatures := OrderedSet.insert name registry.usedFeatures }

/-- `register_data_set`, if the code is new. -/
def addDataSet (registry : Registry) (code ns : ByteString) : Registry :=
  { registry with dataSetMap := registry.dataSetMap.set code ns }

/-- A handler under its key. -/
def addHandler (registry : Registry) (handler : Handler) : Registry :=
  { registry with handlerMap := registry.handlerMap.set handler.config.key handler }

/-- The handler of a key is gone. -/
def eraseHandler (registry : Registry) (name : ByteString) : Registry :=
  { registry with handlerMap := registry.handlerMap.erase name }

/-- `get_return_type_names`. -/
def returnTypeNames (registry : Registry) : List ByteString :=
  ((registry.handlerMap.entries.flatMap fun entry => entry.2.config.returnTypeNames).foldl
    (fun set name => OrderedSet.insert name set) OrderedMap.empty).keys

end Registry

/-! ### Construction -/

/-- Why a handler is not constructed. -/
inductive ConstructionError
  | featureNotFound (name : ByteString)
  | duplicateDataSetId (dataSet : ByteString)
  | duplicateRegistration (code ns : ByteString)
  | other
  deriving DecidableEq

/-- Where a construction is: what is left to be registered, or how it has ended. -/
inductive ConstructionStage
  | features (names : List ByteString)
  | dataSets (rest : List DataSetDef)
  | initialising
  | added
  | failed (error : ConstructionError)
  deriving DecidableEq

/-- `StoredQueryMap::add_handler` of a configuration. The data sets are those that the
handler maps to stored queries; each of them has been registered. -/
structure Construction where
  config : QueryConfig
  stage : ConstructionStage
  dataSetMap : OrderedMap ByteString ByteString
  deriving DecidableEq

/-- A construction registers its types first, unless it is hidden. -/
def Construction.start (config : QueryConfig) : Construction :=
  ⟨config, .features (if config.hidden then [] else config.returnTypeNames), .empty⟩

/-! ### Listings -/

/-- What is asked to be listed. -/
inductive ListingRequest
  | listStoredQueries
  | describeStoredQueries (ids : List ByteString)
  deriving DecidableEq

/-- A type as it is listed. -/
structure ListedType where
  name : ByteString
  ns : ByteString
  nsLoc : Option ByteString
  deriving DecidableEq

/-- The types of a query in either kind of listing. -/
inductive EntryTypes
  | listed (returnTypes : List ListedType)
  | described (returnTypes : DescribedTypes)
  deriving DecidableEq

/-- A stored query in the response, less what is said about it in some language. -/
structure QueryEntry where
  id : ByteString
  types : EntryTypes
  deriving DecidableEq

/-- How far a listing has come. -/
inductive ListingStage
  | starting
  | scanning (names : List ByteString) (entries : List QueryEntry)
  | collecting (handler : Handler) (names : List ByteString) (entries : List QueryEntry)
  | finished (entries : List QueryEntry)
  | failed (error : ListingError)
  deriving DecidableEq

namespace ListingRequest

/-- Whether the handler is to be listed, `show_hidden or not handler->is_hidden()`. -/
def shows (request : ListingRequest) (handler : Handler) : Bool :=
  match request with
  | .listStoredQueries => !handler.config.hidden
  | .describeStoredQueries ids => !ids.isEmpty || !handler.config.hidden

/-- The names that are gone through. The names of all handlers are those of a map, so that
sorting them leaves them as they are. -/
def names (request : ListingRequest) (registry : Registry) : List ByteString :=
  match request with
  | .listStoredQueries => registry.handlerMap.keys
  | .describeStoredQueries ids => if ids.isEmpty then registry.handlerMap.keys else ids

end ListingRequest

section

variable (features : Features)

/-- A type by its name. -/
def listedType (name : ByteString) : Except ListingError ListedType :=
  match features.find name with
  | none => .error (.featureNotFound name)
  | some feature => .ok ⟨feature.xmlType, feature.xmlNamespace, feature.xmlNamespaceLoc⟩

/-- Whether one of the types is hidden. -/
def hasHiddenFeature (returnTypes : List ByteString) : Bool :=
  returnTypes.any fun name => (features.find name).any FeatureDef.hidden

/-- The entry of a handler with these return types, unless it is skipped. -/
def describeQuery (request : ListingRequest) (handler : Handler) (returnTypes : List ByteString) :
    Except ListingError (Option QueryEntry) :=
  match request with
  | .listStoredQueries => do
      let listed ← returnTypes.mapM (listedType features)
      return some ⟨handler.config.queryId, .listed listed⟩
  | .describeStoredQueries ids =>
      if ids.isEmpty && hasHiddenFeature features returnTypes then return none
      else do
        let described ← describeTypes features returnTypes
        return some ⟨handler.config.queryId, .described described⟩

/-- The listing after one more handler. -/
def afterQuery (request : ListingRequest) (handler : Handler) (returnTypes : List ByteString)
    (names : List ByteString) (entries : List QueryEntry) : ListingStage :=
  match describeQuery features request handler returnTypes with
  | .error error => .failed error
  | .ok none => .scanning names entries
  | .ok (some entry) => .scanning names (entries ++ [entry])

/-- One access of a listing to the handlers. -/
def listingStep (registry : Registry) (request : ListingRequest) :
    ListingStage → Option ListingStage
  | .starting => some (.scanning (request.names registry) [])
  | .scanning [] entries => some (.finished entries)
  | .scanning (name :: names) entries =>
      match registry.handlerMap.find (asciiTolowerCopy name) with
      | none => some (.failed (.noHandler name))
      | some handler =>
          if request.shows handler then
            if handler.config.kind = .ordinary then
              some (afterQuery features request handler handler.config.returnTypeNames names
                entries)
            else some (.collecting handler names entries)
          else some (.scanning names entries)
  | .collecting handler names entries =>
      some (afterQuery features request handler registry.returnTypeNames names entries)
  | .finished _ | .failed _ => none

/-! ### Capabilities -/

/-- A feature as the capabilities have it. -/
structure FeatureEntry where
  nsAlias : ByteString
  xmlType : ByteString
  name : ByteString
  ns : ByteString
  loc : Option ByteString
  defaultCrs : ByteString
  otherCrs : List ByteString
  deriving DecidableEq

/-- The prefix of the name, or one that stands for it. -/
def FeatureDef.nsAlias (feature : FeatureDef) : ByteString :=
  if 58 ∈ feature.name then feature.name.takeWhile (· ≠ 58) else ascii "wfsns001"

/-- The feature as it is listed. -/
def FeatureDef.entry (feature : FeatureDef) : FeatureEntry :=
  ⟨feature.nsAlias, feature.xmlType, feature.name, feature.xmlNamespace, feature.xmlNamespaceLoc,
    feature.defaultCrs, feature.otherCrs⟩

/-- `features.at(name)`. -/
def featureAt (name : ByteString) : Except ListingError FeatureDef :=
  match features.find name with
  | none => .error .outOfRange
  | some feature => .ok feature

/-- The features that `GetCapabilities` lists. -/
def listedFeatures (usedNames : List ByteString) : Except ListingError (List FeatureEntry) := do
  let used ← usedNames.mapM (featureAt features)
  return (used.filter fun feature => !feature.hidden).map FeatureDef.entry

/-- `GetCapabilities` reads the used features first and then the data sets. -/
inductive CapabilitiesStage
  | starting
  | dataSets (features : List FeatureEntry)
  | finished (features : List FeatureEntry) (dataSets : List (ByteString × ByteString))
  | failed (error : ListingError)
  deriving DecidableEq

/-- The next step of the capabilities. -/
def capabilitiesStep (registry : Registry) : CapabilitiesStage → Option CapabilitiesStage
  | .starting =>
      match listedFeatures features registry.usedFeatures.keys with
      | .error error => some (.failed error)
      | .ok listed => some (.dataSets listed)
  | .dataSets listed => some (.finished listed registry.dataSetMap.entries)
  | .finished _ _ | .failed _ => none

/-! ### Steps -/

/-- What a thread of the server does. -/
inductive Thread
  | construct (construction : Construction)
  | remove (name : ByteString) (done : Bool)
  | listing (request : ListingRequest) (stage : ListingStage)
  | capabilities (stage : CapabilitiesStage)
  deriving DecidableEq

/-- Any step of a constructor can fail for a reason of its own. -/
inductive Choice
  | proceeds
  | fails
  deriving DecidableEq

/-- A step of the constructor of a handler, or adding the handler when it has ended. -/
def constructionStep (registry : Registry) (construction : Construction) :
    Option (Registry × Construction) :=
  match construction.stage with
  | .features [] =>
      some (registry, { construction with stage := .dataSets construction.config.dataSetIds })
  | .features (name :: names) =>
      if (features.find name).isSome then
        some (registry.useFeature name, { construction with stage := .features names })
      else some (registry, { construction with stage := .failed (.featureNotFound name) })
  | .dataSets [] => some (registry, { construction with stage := .initialising })
  | .dataSets (item :: rest) =>
      if (construction.dataSetMap.find item.dataSet).isSome then
        some (registry, { construction with stage := .failed (.duplicateDataSetId item.dataSet) })
      else if (registry.dataSetMap.find item.dataSet).isSome then
        some (registry,
          { construction with stage := .failed (.duplicateRegistration item.dataSet item.ns) })
      else
        some (registry.addDataSet item.dataSet item.ns, { construction with
          stage := .dataSets rest
          dataSetMap := construction.dataSetMap.set item.dataSet item.storedQuery })
  | .initialising =>
      some (registry.addHandler ⟨construction.config, construction.dataSetMap⟩,
        { construction with stage := .added })
  | .added | .failed _ => none

/-- The construction has come to its end. -/
def Construction.ended (construction : Construction) : Bool :=
  match construction.stage with
  | .added | .failed _ => true
  | .features _ | .dataSets _ | .initialising => false

/-- A step of a thread. -/
def act (pool : Pool Registry Thread) (thread : Thread) (choice : Choice) :
    Option (Effect Registry Thread) :=
  match thread, choice with
  | .construct construction, .proceeds =>
      (constructionStep features pool.shared construction).map fun next =>
        ⟨next.1, .construct next.2, []⟩
  | .construct construction, .fails =>
      if construction.ended then none
      else some ⟨pool.shared, .construct { construction with stage := .failed .other }, []⟩
  | .remove name false, .proceeds => some ⟨pool.shared.eraseHandler name, .remove name true, []⟩
  | .listing request stage, .proceeds =>
      (listingStep features pool.shared request stage).map fun next =>
        ⟨pool.shared, .listing request next, []⟩
  | .capabilities stage, .proceeds =>
      (capabilitiesStep features pool.shared stage).map fun next =>
        ⟨pool.shared, .capabilities next, []⟩
  | .remove _ _, _ | .listing _ _, .fails | .capabilities _, .fails => none

end

/-- The threads as they are when they start. -/
def Thread.isNew : Thread → Bool
  | .construct construction => construction = .start construction.config
  | .remove _ done => !done
  | .listing _ stage => stage = .starting
  | .capabilities stage => stage = .starting

/-- Calls start new threads; those that there are make their steps in any order. -/
def Starts (_ : Pool Registry Thread) : PoolEvent Thread Choice → Prop
  | .call thread => thread.isNew = true
  | .run _ _ => True

instance : ∀ pool event, Decidable (Starts pool event)
  | _, .call thread => inferInstanceAs (Decidable (thread.isNew = true))
  | _, .run _ _ => inferInstanceAs (Decidable True)

/-- What is reached from the start of the server. -/
abbrev ServerState (features : Features) (pool : Pool Registry Thread) : Prop :=
  Pool.Reached (act features) Starts ⟨.initial, []⟩ pool

end SmartMetWfs.Capabilities
