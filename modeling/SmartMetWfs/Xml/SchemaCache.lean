import SmartMetWfs.Core.ByteString
import SmartMetWfs.Foundation.OrderedMap
import SmartMetWfs.Foundation.ThreadPool

/-!
# The schemas of the XML parsers

The parsers of all threads resolve references to schemas with one `EntityResolver`. It holds
the schemas that were loaded beforehand and those that have been downloaded since. A download
is started only by a thread in a `DownloadScope`, and threads wait for its result outside the
lock of the resolver. `merge_downloaded_schemas` waits for all downloads under the lock.
-/

namespace SmartMetWfs.Xml

open Foundation

/-! ### References -/

/-- `xercesc::XMLResourceIdentifier::ResourceIdentifierType`. -/
inductive ResourceIdentifierType
  | schemaGrammar
  | schemaImport
  | schemaInclude
  | schemaRedefine
  | externalEntity
  | unKnown
  deriving DecidableEq

/-- What the parser says of a resource that it needs. -/
structure ResourceIdentifier where
  type : ResourceIdentifierType
  systemId : Option ByteString
  baseUri : Option ByteString
  deriving DecidableEq

namespace ResourceIdentifier

/-- Whether the resource is a schema or part of one. -/
def isSchema (identifier : ResourceIdentifier) : Bool :=
  match identifier.type with
  | .schemaGrammar => true
  | .schemaImport => true
  | .schemaInclude => true
  | .schemaRedefine => true
  | .externalEntity => false
  | .unKnown => false

end ResourceIdentifier

/-- Whether a text begins like an address of the web. -/
def isUrl (text : ByteString) : Bool :=
  text.take 7 = ascii "http://" || text.take 8 = ascii "https://"

/-- The byte of a slash. -/
def slash : UInt8 := 47

/-- The text up to its last slash, if it has one. -/
def upToLastSlash (text : ByteString) : Option ByteString :=
  let kept := (text.reverse.dropWhile fun byte => byte ≠ slash).reverse
  if kept = [] then none else some kept

/-- The URI for which `resolveEntity` asks `get_schema`, if it gets so far. -/
def remoteUri (identifier : ResourceIdentifier) : Option ByteString :=
  let systemId := identifier.systemId.getD []
  let baseUri := identifier.baseUri.getD []
  if !identifier.isSchema then none
  else if isUrl systemId then some systemId
  else if systemId = [] then none
  else if systemId.head? = some slash || baseUri.head? = some slash then none
  else (upToLastSlash baseUri).map fun path => path ++ systemId

/-! ### The resolver and its threads -/

/-- A download with the thread that carries out its last attempt. -/
structure Download where
  task : Nat
  numFailed : Nat
  lastFailed : Int
  deriving DecidableEq

/-- What the threads share; `locked` tells whether `merge_downloaded_schemas` has the lock.
`get_schema` has it during one step only. -/
structure EntityResolver where
  locked : Bool
  cache : OrderedMap ByteString ByteString
  downloadMap : OrderedMap ByteString Download
  enableDownload : Bool

/-- Where a thread of the server is. A thread is lost when it uses its iterator after the
entry has been erased: what happens then is undefined. -/
inductive Stage
  | parsing
  | unlocked (uri : ByteString) (downloading : Bool)
  | waiting (uri : ByteString) (downloading : Bool) (task : Nat)
  | merging (next : List ByteString)
  | lost
  | finished
  deriving DecidableEq

/-- A thread of the server: the values of `download_allowed_in_thread` that its scopes have
saved and the present one, what it has referred to, each time with whether this was in a
scope, and which schemas it was given. -/
structure ServerThread where
  saved : List Bool
  downloadAllowed : Bool
  stage : Stage
  references : List (Bool × ResourceIdentifier)
  received : List (ByteString × ByteString)
  deriving DecidableEq

/-- A thread of the server before it parses anything. -/
def ServerThread.start : ServerThread := ⟨[], false, .parsing, [], []⟩

/-- The thread after it has referred to a schema or something else. -/
def ServerThread.refersTo (thread : ServerThread) (identifier : ResourceIdentifier) :
    ServerThread :=
  { thread with references := thread.references ++ [(!thread.saved.isEmpty, identifier)] }

/-- A download in the background ends with the content or an exception. -/
inductive Thread
  | server (thread : ServerThread)
  | download (uri : ByteString)
  | downloaded (uri : ByteString) (result : Option ByteString)
  deriving DecidableEq

/-- What a thread does next. -/
inductive Choice
  | enterScope
  | leaveScope
  | resolve (identifier : ResourceIdentifier) (now : Int)
  | proceed (now : Int)
  | merge
  | finish
  | performs (result : Option ByteString)
  deriving DecidableEq

/-- The resolver with the threads that use it. -/
abbrev Resolution := Pool EntityResolver Thread

/-- `select_download`: whether a new attempt has to be made, given the entry of the URI. -/
def selectDownload (entry : Option Download) (now : Int) : Bool :=
  match entry with
  | none => true
  | some download =>
      if download.numFailed ≠ 0 ∧ download.numFailed < 100 then
        let inc : Int := if download.numFailed < 10 then 10 else 600
        now > download.lastFailed + inc
      else false

/-- The entry with the attempt of the thread `task`. -/
def withTask (entry : Option Download) (task : Nat) : Download :=
  match entry with
  | none => ⟨task, 0, 0⟩
  | some download => { download with task := task }

/-- `get_schema` as far as it has the lock. A new thread would have the number `task`. -/
def getSchema (resolver : EntityResolver) (thread : ServerThread) (task : Nat) (uri : ByteString)
    (now : Int) : Effect EntityResolver Thread :=
  match resolver.cache.find uri with
  | some content =>
      ⟨resolver, .server { thread with received := thread.received ++ [(uri, content)] }, []⟩
  | none =>
      if resolver.enableDownload && thread.downloadAllowed then
        let entry := resolver.downloadMap.find uri
        if selectDownload entry now then
          ⟨{ resolver with downloadMap := resolver.downloadMap.set uri (withTask entry task) },
            .server { thread with stage := .unlocked uri true }, [.download uri]⟩
        else ⟨resolver, .server { thread with stage := .unlocked uri false }, []⟩
      else ⟨resolver, .server thread, []⟩

/-- The entry of a URI is changed through an iterator. -/
def updateEntry (resolver : EntityResolver) (thread : ServerThread) (uri : ByteString)
    (change : Download → Download) : Effect EntityResolver Thread :=
  match resolver.downloadMap.find uri with
  | some download =>
      ⟨{ resolver with downloadMap := resolver.downloadMap.set uri (change download) },
        .server { thread with stage := .parsing }, []⟩
  | none => ⟨resolver, .server { thread with stage := .lost }, []⟩

/-- `get_schema` after the task has ended. -/
def finishDownload (resolver : EntityResolver) (thread : ServerThread) (uri : ByteString)
    (downloading : Bool) (result : Option ByteString) (now : Int) :
    Effect EntityResolver Thread :=
  match result with
  | some content =>
      updateEntry resolver { thread with received := thread.received ++ [(uri, content)] } uri
        fun download => { download with numFailed := 0 }
  | none =>
      if downloading then
        updateEntry resolver thread uri fun download =>
          { download with numFailed := download.numFailed + 1, lastFailed := now }
      else ⟨resolver, .server { thread with stage := .parsing }, []⟩

/-- A turn of the loop of `merge_downloaded_schemas`, if the task has ended. -/
def mergeNext (resolution : Resolution) (thread : ServerThread) (uri : ByteString)
    (next : List ByteString) : Option (Effect EntityResolver Thread) :=
  let resolver := resolution.shared
  match resolver.downloadMap.find uri with
  | none => none
  | some download =>
      match resolution.threads[download.task]? with
      | some (.downloaded _ (some content)) =>
          some ⟨{ resolver with
              cache := resolver.cache.set uri content
              downloadMap := resolver.downloadMap.erase uri },
            .server { thread with stage := .merging next }, []⟩
      | some (.downloaded _ none) =>
          some ⟨resolver, .server { thread with stage := .merging next }, []⟩
      | _ => none

/-- A step of a thread of the server. -/
def serverAct (resolution : Resolution) (thread : ServerThread) (choice : Choice) :
    Option (Effect EntityResolver Thread) :=
  let resolver := resolution.shared
  match thread.stage, choice with
  | .parsing, .enterScope =>
      some ⟨resolver, .server { thread with
        saved := thread.downloadAllowed :: thread.saved
        downloadAllowed := true }, []⟩
  | .parsing, .leaveScope =>
      match thread.saved with
      | [] => none
      | previous :: saved =>
          some ⟨resolver, .server { thread with saved := saved, downloadAllowed := previous }, []⟩
  | .parsing, .resolve identifier now =>
      match remoteUri identifier with
      | none => some ⟨resolver, .server (thread.refersTo identifier), []⟩
      | some uri =>
          if resolver.locked then none
          else some (getSchema resolver (thread.refersTo identifier) resolution.threads.length uri
            now)
  | .parsing, .merge =>
      if resolver.locked then none
      else some ⟨{ resolver with locked := true },
        .server { thread with stage := .merging resolver.downloadMap.keys }, []⟩
  | .parsing, .finish =>
      if thread.saved = [] then some ⟨resolver, .server { thread with stage := .finished }, []⟩
      else none
  | .unlocked uri downloading, .proceed _ =>
      match resolver.downloadMap.find uri with
      | none => some ⟨resolver, .server { thread with stage := .lost }, []⟩
      | some download =>
          some ⟨resolver,
            .server { thread with stage := .waiting uri downloading download.task }, []⟩
  | .waiting uri downloading task, .proceed now =>
      match resolution.threads[task]? with
      | some (.downloaded _ result) =>
          some (finishDownload resolver thread uri downloading result now)
      | _ => none
  | .merging (uri :: next), .proceed _ => mergeNext resolution thread uri next
  | .merging [], .proceed _ =>
      some ⟨{ resolver with locked := false }, .server { thread with stage := .parsing }, []⟩
  | _, _ => none

/-- What a thread of either kind does with its choice. -/
def resolve (resolution : Resolution) (thread : Thread) (choice : Choice) :
    Option (Effect EntityResolver Thread) :=
  match thread, choice with
  | .server thread, _ => serverAct resolution thread choice
  | .download uri, .performs result => some ⟨resolution.shared, .downloaded uri result, []⟩
  | .download _, _ => none
  | .downloaded _ _, _ => none

/-- The thread `task` is or was to download the schema. -/
def Attempt (threads : List Thread) (task : Nat) (uri : ByteString) : Prop :=
  threads[task]? = some (.download uri) ∨
    ∃ result, threads[task]? = some (.downloaded uri result)

/-- A task is an attempt for one address. -/
theorem Attempt.uri_eq {threads : List Thread} {task : Nat} {uri uri' : ByteString}
    {result : Option ByteString} (attempt : Attempt threads task uri)
    (ended : threads[task]? = some (.downloaded uri' result)) : uri' = uri := by
  rcases attempt with running | ⟨result', ended'⟩
  · cases running.symm.trans ended
  · cases ended'.symm.trans ended
    rfl

/-- What a step of a thread of the server may do. -/
inductive ServerStep (resolution : Resolution) (thread : ServerThread) :
    Effect EntityResolver Thread → Prop
  | enters (parsing : thread.stage = .parsing) :
      ServerStep resolution thread ⟨resolution.shared, .server { thread with
        saved := thread.downloadAllowed :: thread.saved
        downloadAllowed := true }, []⟩
  | leaves (previous : Bool) (saved : List Bool) (parsing : thread.stage = .parsing)
      (nested : thread.saved = previous :: saved) :
      ServerStep resolution thread ⟨resolution.shared,
        .server { thread with saved := saved, downloadAllowed := previous }, []⟩
  | refers (identifier : ResourceIdentifier) (parsing : thread.stage = .parsing) :
      ServerStep resolution thread
        ⟨resolution.shared, .server (thread.refersTo identifier), []⟩
  | finds (identifier : ResourceIdentifier) (uri content : ByteString)
      (parsing : thread.stage = .parsing) (named : remoteUri identifier = some uri)
      (cached : resolution.shared.cache.find uri = some content) :
      ServerStep resolution thread ⟨resolution.shared, .server { thread.refersTo identifier with
        received := thread.received ++ [(uri, content)] }, []⟩
  | starts (identifier : ResourceIdentifier) (uri : ByteString) (now : Int)
      (parsing : thread.stage = .parsing) (named : remoteUri identifier = some uri)
      (free : resolution.shared.locked = false)
      (missing : resolution.shared.cache.find uri = none)
      (enabled : resolution.shared.enableDownload = true) (allowed : thread.downloadAllowed = true)
      (selected : selectDownload (resolution.shared.downloadMap.find uri) now = true) :
      ServerStep resolution thread ⟨{ resolution.shared with
          downloadMap := resolution.shared.downloadMap.set uri
            (withTask (resolution.shared.downloadMap.find uri) resolution.threads.length) },
        .server { thread.refersTo identifier with stage := .unlocked uri true }, [.download uri]⟩
  | joins (identifier : ResourceIdentifier) (uri : ByteString) (download : Download)
      (parsing : thread.stage = .parsing) (named : remoteUri identifier = some uri)
      (free : resolution.shared.locked = false)
      (found : resolution.shared.downloadMap.find uri = some download) :
      ServerStep resolution thread ⟨resolution.shared,
        .server { thread.refersTo identifier with stage := .unlocked uri false }, []⟩
  | locks (parsing : thread.stage = .parsing) (free : resolution.shared.locked = false) :
      ServerStep resolution thread ⟨{ resolution.shared with locked := true },
        .server { thread with stage := .merging resolution.shared.downloadMap.keys }, []⟩
  | finishes (parsing : thread.stage = .parsing) :
      ServerStep resolution thread
        ⟨resolution.shared, .server { thread with stage := .finished }, []⟩
  | copies (uri : ByteString) (downloading : Bool) (download : Download)
      (unlocked : thread.stage = .unlocked uri downloading)
      (found : resolution.shared.downloadMap.find uri = some download) :
      ServerStep resolution thread ⟨resolution.shared,
        .server { thread with stage := .waiting uri downloading download.task }, []⟩
  | loses (uri : ByteString) (downloading : Bool) (received : List (ByteString × ByteString))
      (outside : thread.stage = .unlocked uri downloading ∧ received = thread.received ∨
        ∃ task result, thread.stage = .waiting uri downloading task ∧
          resolution.threads[task]? = some (.downloaded uri result) ∧
          received = thread.received ++ (result.map fun content => (uri, content)).toList)
      (erased : resolution.shared.downloadMap.find uri = none) :
      ServerStep resolution thread
        ⟨resolution.shared, .server { thread with stage := .lost, received := received }, []⟩
  | gets (uri : ByteString) (downloading : Bool) (task : Nat) (content : ByteString)
      (download : Download) (waiting : thread.stage = .waiting uri downloading task)
      (ended : resolution.threads[task]? = some (.downloaded uri (some content)))
      (found : resolution.shared.downloadMap.find uri = some download) :
      ServerStep resolution thread ⟨{ resolution.shared with
          downloadMap := resolution.shared.downloadMap.set uri { download with numFailed := 0 } },
        .server { thread with
          stage := .parsing
          received := thread.received ++ [(uri, content)] }, []⟩
  | counts (uri : ByteString) (task : Nat) (download : Download) (now : Int)
      (waiting : thread.stage = .waiting uri true task)
      (ended : resolution.threads[task]? = some (.downloaded uri none))
      (found : resolution.shared.downloadMap.find uri = some download) :
      ServerStep resolution thread ⟨{ resolution.shared with
          downloadMap := resolution.shared.downloadMap.set uri
            { download with numFailed := download.numFailed + 1, lastFailed := now } },
        .server { thread with stage := .parsing }, []⟩
  | fails (uri : ByteString) (task : Nat) (waiting : thread.stage = .waiting uri false task) :
      ServerStep resolution thread
        ⟨resolution.shared, .server { thread with stage := .parsing }, []⟩
  | merges (uri content : ByteString) (next : List ByteString) (download : Download)
      (merging : thread.stage = .merging (uri :: next))
      (found : resolution.shared.downloadMap.find uri = some download)
      (ended : resolution.threads[download.task]? = some (.downloaded uri (some content))) :
      ServerStep resolution thread ⟨{ resolution.shared with
          cache := resolution.shared.cache.set uri content
          downloadMap := resolution.shared.downloadMap.erase uri },
        .server { thread with stage := .merging next }, []⟩
  | skips (uri : ByteString) (next : List ByteString)
      (merging : thread.stage = .merging (uri :: next)) :
      ServerStep resolution thread
        ⟨resolution.shared, .server { thread with stage := .merging next }, []⟩
  | unlocks (merging : thread.stage = .merging []) :
      ServerStep resolution thread ⟨{ resolution.shared with locked := false },
        .server { thread with stage := .parsing }, []⟩

section Steps

variable {resolution : Resolution} {thread : ServerThread} {choice : Choice}
  {effect : Effect EntityResolver Thread}

/-- A request for a schema that is not cached is a step of the server. -/
theorem getSchema_step {identifier : ResourceIdentifier} {uri : ByteString} {now : Int}
    (parsing : thread.stage = .parsing) (named : remoteUri identifier = some uri)
    (free : resolution.shared.locked = false) :
    ServerStep resolution thread (getSchema resolution.shared (thread.refersTo identifier)
      resolution.threads.length uri now) := by
  unfold getSchema
  cases cached : resolution.shared.cache.find uri with
  | some content => exact .finds identifier uri content parsing named cached
  | none =>
      simp only []
      split
      · next permitted =>
          obtain ⟨enabled, allowed⟩ := Bool.and_eq_true_iff.mp permitted
          cases selected : selectDownload (resolution.shared.downloadMap.find uri) now with
          | true =>
              exact .starts identifier uri now parsing named free cached enabled allowed selected
          | false =>
              cases found : resolution.shared.downloadMap.find uri with
              | none =>
                  rw [found] at selected
                  cases selected
              | some download => exact .joins identifier uri download parsing named free found
      · exact .refers identifier parsing

/-- The end of a wait is a step of the server. -/
theorem finishDownload_step {uri : ByteString} {downloading : Bool} {task : Nat}
    {result : Option ByteString} {now : Int}
    (waiting : thread.stage = .waiting uri downloading task)
    (ended : resolution.threads[task]? = some (.downloaded uri result)) :
    ServerStep resolution thread
      (finishDownload resolution.shared thread uri downloading result now) := by
  unfold finishDownload updateEntry
  cases result with
  | some content =>
      cases found : resolution.shared.downloadMap.find uri with
      | none =>
          exact .loses uri downloading _ (.inr ⟨task, some content, waiting, ended, rfl⟩) found
      | some download => exact .gets uri downloading task content download waiting ended found
  | none =>
      cases downloading with
      | false => exact .fails uri task waiting
      | true =>
          cases found : resolution.shared.downloadMap.find uri with
          | none =>
              exact .loses uri true _ (.inr ⟨task, none, waiting, ended,
                (List.append_nil thread.received).symm⟩) found
          | some download => exact .counts uri task download now waiting ended found

/-- The steps, given that tasks are attempts to download what they are kept for. -/
theorem serverAct_step
    (entries : ∀ uri download, resolution.shared.downloadMap.find uri = some download →
      Attempt resolution.threads download.task uri)
    (waits : ∀ uri downloading task, thread.stage = .waiting uri downloading task →
      Attempt resolution.threads task uri)
    (acted : serverAct resolution thread choice = some effect) :
    ServerStep resolution thread effect := by
  unfold serverAct at acted
  dsimp only at acted
  split at acted
  · next parsing =>
      obtain rfl := Option.some.inj acted
      exact .enters parsing
  · next parsing =>
      split at acted
      · cases acted
      · next previous saved nested =>
          obtain rfl := Option.some.inj acted
          exact .leaves previous saved parsing nested
  · next identifier now parsing =>
      split at acted
      · obtain rfl := Option.some.inj acted
        exact .refers identifier parsing
      · next uri named =>
          split at acted
          · cases acted
          · next free =>
              obtain rfl := Option.some.inj acted
              exact getSchema_step parsing named (Bool.eq_false_iff.mpr free)
  · next parsing =>
      split at acted
      · cases acted
      · next free =>
          obtain rfl := Option.some.inj acted
          exact .locks parsing (Bool.eq_false_iff.mpr free)
  · next parsing =>
      split at acted
      · obtain rfl := Option.some.inj acted
        exact .finishes parsing
      · cases acted
  · next uri downloading _ unlocked =>
      cases found : resolution.shared.downloadMap.find uri with
      | none =>
          rw [found] at acted
          obtain rfl := Option.some.inj acted
          exact .loses uri downloading _ (.inl ⟨unlocked, rfl⟩) found
      | some download =>
          rw [found] at acted
          obtain rfl := Option.some.inj acted
          exact .copies uri downloading download unlocked found
  · next uri downloading task now waiting =>
      split at acted
      · next ended =>
          obtain rfl := Option.some.inj acted
          obtain rfl := (waits uri downloading task waiting).uri_eq ended
          exact finishDownload_step waiting ended
      · cases acted
  · next uri next _ merging =>
      unfold mergeNext at acted
      dsimp only at acted
      split at acted
      · cases acted
      · next download found =>
          split at acted
          · next content ended =>
              obtain rfl := Option.some.inj acted
              obtain rfl := (entries uri download found).uri_eq ended
              exact .merges _ content next download merging found ended
          · obtain rfl := Option.some.inj acted
            exact .skips uri next merging
          · cases acted
  · next merging =>
      obtain rfl := Option.some.inj acted
      exact .unlocks merging
  · cases acted

end Steps

/-- New threads are threads of the server that have done nothing yet. -/
def Enters (_ : Resolution) : PoolEvent Thread Choice → Prop
  | .call thread => thread = .server .start
  | .run _ _ => True

instance (resolution : Resolution) : DecidablePred (Enters resolution)
  | .call thread => inferInstanceAs (Decidable (thread = .server .start))
  | .run _ _ => inferInstanceAs (Decidable True)

/-- After `load_schema_cache` and, if it is configured, `enable_schema_download`. -/
def loaded (preloaded : OrderedMap ByteString ByteString) (enableDownload : Bool) : Resolution :=
  ⟨⟨false, preloaded, .empty, enableDownload⟩, []⟩

end SmartMetWfs.Xml
