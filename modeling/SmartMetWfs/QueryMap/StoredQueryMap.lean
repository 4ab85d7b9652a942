import SmartMetWfs.Core.ByteString
import SmartMetWfs.Foundation.OrderedMap

/-!
# The stored query map

`StoredQueryMap` serves one handler for each stored query identifier and follows
the configuration files on disk: it is told of created, modified and deleted files,
reads the files whose content digest has changed, and loads, replaces or removes
handlers accordingly. Initial loading may hand the construction of a handler to a
background task.

The model carries the state of the class through its methods. Parsing a
configuration text, computing a digest and constructing a handler happen outside;
the log messages are left out.
-/

namespace SmartMetWfs.QueryMap

open Foundation

/-- What a configuration declares, as far as the map looks at it. -/
structure Declaration where
  queryId : ByteString
  disabled : Bool
  test : Bool
  demo : Bool
  deriving DecidableEq

/-- `StoredQueryConfig`: a configuration file as it was read. -/
structure StoredQueryConfig where
  fileName : ByteString
  content : ByteString
  declaration : Declaration
  deriving DecidableEq

/-- The identifier that the file declares. -/
def StoredQueryConfig.queryId (config : StoredQueryConfig) : ByteString :=
  config.declaration.queryId

/-- `StoredQueryHandlerBase`. The map never holds one object under two keys, so
comparing handlers by value compares the objects. -/
structure StoredQueryHandler where
  config : StoredQueryConfig
  deriving DecidableEq

/-- `get_query_name`. -/
def StoredQueryHandler.queryName (handler : StoredQueryHandler) : ByteString :=
  handler.config.queryId

/-- The configuration parser, the digest and the settings of the plugin. -/
structure Library (δ : Type) where
  parseConfig : ByteString → Option Declaration
  digest : ByteString → δ
  enableTestQueries : Bool
  enableDemoQueries : Bool
  backgroundInit : Bool

/-- The regular files with their contents, and which handlers can be constructed. -/
structure Scene where
  files : ByteString → Option ByteString
  constructs : StoredQueryConfig → Bool

/-- Why a file is not loaded. -/
inductive LoadError where
  | config
  | construction
  deriving DecidableEq

/-- `StoredQueryMap` with its `FileContentChecker`; `initTasks` holds the background
tasks that have not finished. -/
structure StoredQueryMap (δ : Type) where
  fileHashMap : OrderedMap ByteString δ
  handlerMap : OrderedMap ByteString StoredQueryHandler
  duplicate : OrderedSet ByteString
  initTasks : List StoredQueryConfig
  reloadRequired : Bool
  loadFailed : Bool

/-- The state after a method, and what the method throws. -/
structure Outcome (δ : Type) where
  queries : StoredQueryMap δ
  error : Option LoadError

/-- The limit given to `FileContentChecker`. -/
def maxSize : Nat := 131072

namespace StoredQueryMap

variable {δ : Type} [DecidableEq δ]

/-- The map before anything is loaded. -/
def initial : StoredQueryMap δ := ⟨.empty, .empty, .empty, [], false, false⟩

/-- `check_file_hash`: whether the file has to be read, remembering its digest. -/
def checkFileHash (lib : Library δ) (files : ByteString → Option ByteString)
    (queries : StoredQueryMap δ) (fn : ByteString) : Bool × StoredQueryMap δ :=
  match files fn with
  | none => (false, queries)
  | some content =>
      if content.length < maxSize then
        let digest := lib.digest content
        if queries.fileHashMap.find fn = some digest then (false, queries)
        else (true, { queries with fileHashMap := queries.fileHashMap.set fn digest })
      else (false, queries)

/-- `remove_file_hash`. -/
def removeFileHash (queries : StoredQueryMap δ) (fn : ByteString) : StoredQueryMap δ :=
  { queries with fileHashMap := queries.fileHashMap.erase fn }

/-- `get_handler_by_file_name`: the first handler in key order. -/
def getHandlerByFileName (queries : StoredQueryMap δ) (configFileName : ByteString) :
    Option StoredQueryHandler :=
  (queries.handlerMap.entries.find? fun entry =>
    entry.2.config.fileName = configFileName).map Prod.snd

/-- `get_handler_by_name_nothrow`. -/
def getHandlerByNameNothrow (queries : StoredQueryMap δ) (name : ByteString) :
    Option StoredQueryHandler :=
  queries.handlerMap.find (asciiTolowerCopy name)

/-- `add_handler` for a handler: a handler with the same name is overridden. -/
def addHandler (queries : StoredQueryMap δ) (handler : StoredQueryHandler) : StoredQueryMap δ :=
  { queries with handlerMap := queries.handlerMap.set (asciiTolowerCopy handler.queryName) handler }

/-- A task has failed. -/
def notifyFailed (queries : StoredQueryMap δ) : StoredQueryMap δ :=
  { queries with loadFailed := true }

/-- `add_handler` for a configuration: construct the handler and add it. -/
def addConfig (constructs : StoredQueryConfig → Bool) (queries : StoredQueryMap δ)
    (sqhConfig : StoredQueryConfig) : Outcome δ :=
  if constructs sqhConfig then ⟨queries.addHandler ⟨sqhConfig⟩, none⟩
  else ⟨queries.notifyFailed, some .construction⟩

/-- `enqueue_query_add`. -/
def enqueueQueryAdd (lib : Library δ) (constructs : StoredQueryConfig → Bool)
    (queries : StoredQueryMap δ) (sqhConfig : StoredQueryConfig) (initialUpdate : Bool) :
    Outcome δ :=
  if lib.backgroundInit ∧ initialUpdate then
    ⟨{ queries with initTasks := queries.initTasks ++ [sqhConfig] }, none⟩
  else queries.addConfig constructs sqhConfig

/-- A background task runs; its failure is reported by the error handler of the
task group. -/
def runTask (constructs : StoredQueryConfig → Bool) (queries : StoredQueryMap δ)
    (task : StoredQueryConfig) : StoredQueryMap δ :=
  ({ queries with initTasks := queries.initTasks.erase task }.addConfig constructs task).queries

/-- `should_be_ignored`. -/
def shouldBeIgnored (lib : Library δ) (config : Declaration) : Bool :=
  config.disabled || (!lib.enableTestQueries && config.test) ||
    (!lib.enableDemoQueries && config.demo)

/-- `request_reload`. -/
def requestReload (queries : StoredQueryMap δ) : StoredQueryMap δ :=
  { queries with reloadRequired := true }

/-- `handle_query_ignore`. -/
def handleQueryIgnore (queries : StoredQueryMap δ) (sqhConfig : StoredQueryConfig) :
    StoredQueryMap δ :=
  match queries.getHandlerByNameNothrow sqhConfig.queryId with
  | some prevHandler =>
      if sqhConfig.fileName = prevHandler.config.fileName then
        { queries with handlerMap := queries.handlerMap.erase (asciiTolowerCopy sqhConfig.queryId) }
      else queries.requestReload
  | none => queries

/-- `handle_query_remove`. -/
def handleQueryRemove (queries : StoredQueryMap δ) (configFileName : ByteString) :
    StoredQueryMap δ :=
  let queries := queries.removeFileHash configFileName
  let handler := queries.getHandlerByFileName configFileName
  let queries := { queries with duplicate := queries.duplicate.erase configFileName }
  match handler with
  | some handler =>
      { queries with
        handlerMap := queries.handlerMap.erase (asciiTolowerCopy handler.config.queryId) }
  | none => queries

/-- The constructor of `StoredQueryConfig` on a file. -/
def readConfig (lib : Library δ) (files : ByteString → Option ByteString) (fn : ByteString) :
    Option StoredQueryConfig := do
  let content ← files fn
  let declaration ← lib.parseConfig content
  pure ⟨fn, content, declaration⟩

/-- `handle_query_add` up to its look at the handler map. -/
inductive Checked where
  | unchanged
  | failed
  | read (sqhConfig : StoredQueryConfig) (prevHandler : Option StoredQueryHandler)

/-- What is known of a file before it is added. -/
def checkQueryAdd (lib : Library δ) (files : ByteString → Option ByteString)
    (queries : StoredQueryMap δ) (configFileName : ByteString) : Checked × StoredQueryMap δ :=
  match queries.checkFileHash lib files configFileName with
  | (false, queries) => (.unchanged, queries)
  | (true, queries) =>
      match readConfig lib files configFileName with
      | none => (.failed, queries)
      | some sqhConfig =>
          (.read sqhConfig (queries.getHandlerByNameNothrow sqhConfig.queryId), queries)

/-- The rest of `handle_query_add`, which acts on what the look has shown. -/
def finishQueryAdd (lib : Library δ) (constructs : StoredQueryConfig → Bool)
    (queries : StoredQueryMap δ) (checked : Checked) (initialUpdate : Bool) : Outcome δ :=
  match checked with
  | .unchanged => ⟨queries, none⟩
  | .failed => ⟨queries, some .config⟩
  | .read sqhConfig (some _) =>
      ⟨{ queries with duplicate := queries.duplicate.insert sqhConfig.fileName }, none⟩
  | .read sqhConfig none =>
      let queries := { queries with duplicate := queries.duplicate.erase sqhConfig.fileName }
      if shouldBeIgnored lib sqhConfig.declaration then ⟨queries.handleQueryIgnore sqhConfig, none⟩
      else queries.enqueueQueryAdd lib constructs sqhConfig initialUpdate

/-- `handle_query_add`. -/
def handleQueryAdd (lib : Library δ) (scene : Scene) (queries : StoredQueryMap δ)
    (configFileName : ByteString) (initialUpdate : Bool) : Outcome δ :=
  let (checked, queries) := queries.checkQueryAdd lib scene.files configFileName
  queries.finishQueryAdd lib scene.constructs checked initialUpdate

/-- The load that `handle_query_modify` makes for an enabled configuration. The old
identifier is erased as it is spelt in the old configuration. -/
def replaceHandler (lib : Library δ) (constructs : StoredQueryConfig → Bool)
    (queries : StoredQueryMap δ) (sqhConfig : StoredQueryConfig) : Outcome δ :=
  let ph1 := queries.getHandlerByFileName sqhConfig.fileName
  let ph2 := queries.getHandlerByNameNothrow sqhConfig.queryId
  match ph1 with
  | some handler =>
      if ph2.isSome ∧ ph1 ≠ ph2 then ⟨queries.requestReload, none⟩
      else
        match queries.enqueueQueryAdd lib constructs sqhConfig false with
        | ⟨queries, some error⟩ => ⟨queries, some error⟩
        | ⟨queries, none⟩ =>
            if ph2 ≠ ph1 then
              ⟨{ queries with handlerMap := queries.handlerMap.erase handler.config.queryId }, none⟩
            else ⟨queries, none⟩
  | none =>
      if ph2.isSome then ⟨queries.requestReload, none⟩
      else queries.enqueueQueryAdd lib constructs sqhConfig false

/-- `handle_query_modify`. -/
def handleQueryModify (lib : Library δ) (scene : Scene) (queries : StoredQueryMap δ)
    (configFileName : ByteString) : Outcome δ :=
  match queries.checkFileHash lib scene.files configFileName with
  | (false, queries) => ⟨queries, none⟩
  | (true, queries) =>
      match readConfig lib scene.files configFileName with
      | none => ⟨queries, some .config⟩
      | some sqhConfig =>
          if shouldBeIgnored lib sqhConfig.declaration then
            ⟨{ queries with duplicate := queries.duplicate.erase configFileName }.handleQueryIgnore
              sqhConfig, none⟩
          else queries.replaceHandler lib scene.constructs sqhConfig

end StoredQueryMap

/-- The changes the directory monitor is asked to report. -/
inductive Change where
  | create
  | modify
  | delete
  deriving DecidableEq

/-- The names that `handle_config_file_change` takes for configuration files. -/
def isConfigName (name : ByteString) : Bool :=
  !(ascii ".").isPrefixOf name && !(ascii "#").isPrefixOf name && (ascii ".conf").isSuffixOf name

namespace StoredQueryMap

variable {δ : Type} [DecidableEq δ]

/-- `handle_config_file_change`. -/
def handleConfigFileChange (lib : Library δ) (scene : Scene) (queries : StoredQueryMap δ)
    (fn : ByteString) (change : Change) (initialUpdate : Bool) : Outcome δ :=
  if (change = .delete ∨ (scene.files fn).isSome) ∧ isConfigName fn then
    match change with
    | .delete => ⟨queries.handleQueryRemove fn, none⟩
    | .create => queries.handleQueryAdd lib scene fn initialUpdate
    | .modify => queries.handleQueryModify lib scene fn
  else ⟨queries, none⟩

/-- `retry_duplicates`: what a retry throws is only reported. -/
def retryDuplicates (lib : Library δ) (scene : Scene) (queries : StoredQueryMap δ) :
    StoredQueryMap δ :=
  queries.duplicate.keys.foldl
    (fun queries fn => (queries.handleQueryAdd lib scene fn false).queries) queries

end StoredQueryMap

end SmartMetWfs.QueryMap
