import SmartMetWfs.QueryMap.Soundness

/-!
# The parallel initial load

At start the monitoring thread takes the files it finds one after the other. Each is
read and its identifier looked up in the handler map; what the thread does next, such
as queueing a background task for the file, happens later, and tasks that are queued
finish at any time in between, in any order. Lookups and insertions are the atomic
steps.

The duplicate check precedes the insertion that it is meant to guard. Two files with
one identifier can both pass it, and then the task that finishes last is served. When
no two files share an identifier, every order leads to the same map.
-/

namespace SmartMetWfs.QueryMap

open Foundation StoredQueryMap

/-- The regular files found at start, in the order in which they are reported. -/
structure InitialFiles where
  names : List ByteString
  files : ByteString → Option ByteString
  nodup : names.Nodup
  present : ∀ fn ∈ names, (files fn).isSome

/-- The size of the task group. -/
def maxTasks : Nat := 10

/-- The thread's remaining files, the file it has looked up but not dealt with, and
the map with the unfinished tasks. -/
structure LoadState (δ : Type) where
  todo : List ByteString
  current : Option Checked
  queries : StoredQueryMap δ

variable {δ : Type}

section

variable [DecidableEq δ]

/-- The first part of `handle_config_file_change` for a created file. -/
def checkFile (lib : Library δ) (files : ByteString → Option ByteString)
    (queries : StoredQueryMap δ) (fn : ByteString) : Checked × StoredQueryMap δ :=
  if isConfigName fn then queries.checkQueryAdd lib files fn else (.unchanged, queries)

/-- The thread looks the next file up, unless a reload is required; it deals with the
file it has looked up, waiting for room in the task group; or a task finishes. -/
inductive LoadStep (lib : Library δ) (scene : Scene) : LoadState δ → LoadState δ → Prop
  | check {fn : ByteString} {rest : List ByteString} {queries : StoredQueryMap δ}
      (noReload : queries.reloadRequired = false) :
      LoadStep lib scene ⟨fn :: rest, none, queries⟩
        ⟨rest, some (checkFile lib scene.files queries fn).1,
          (checkFile lib scene.files queries fn).2⟩
  | act {todo : List ByteString} {checked : Checked} {queries : StoredQueryMap δ}
      (room : (queries.finishQueryAdd lib scene.constructs checked true).queries.initTasks.length ≤
        maxTasks) :
      LoadStep lib scene ⟨todo, some checked, queries⟩
        ⟨todo, none, (queries.finishQueryAdd lib scene.constructs checked true).queries⟩
  | finish {todo : List ByteString} {current : Option Checked} {queries : StoredQueryMap δ}
      {task : StoredQueryConfig} (queued : task ∈ queries.initTasks) :
      LoadStep lib scene ⟨todo, current, queries⟩
        ⟨todo, current, queries.runTask scene.constructs task⟩

end

/-- The thread is through with the files or has stopped, and no task is left. -/
def LoadState.Finished (state : LoadState δ) : Prop :=
  (state.todo = [] ∨ state.queries.reloadRequired = true) ∧ state.current = none ∧
    state.queries.initTasks = []

/-- The states in which the initial load can end. -/
def Loads [DecidableEq δ] (lib : Library δ) (constructs : StoredQueryConfig → Bool)
    (found : InitialFiles)
    (state : LoadState δ) : Prop :=
  Relation.ReflTransGen (LoadStep lib ⟨found.files, constructs⟩) ⟨found.names, none, .initial⟩
    state ∧ state.Finished

/-- The configuration is what the file is read as. -/
structure ReadsAs (lib : Library δ) (files : ByteString → Option ByteString)
    (config : StoredQueryConfig) : Prop where
  named : isConfigName config.fileName = true
  stored : files config.fileName = some config.content
  short : config.content.length < maxSize
  parsed : lib.parseConfig config.content = some config.declaration

/-- The key of the handler. -/
def StoredQueryConfig.key (config : StoredQueryConfig) : ByteString :=
  asciiTolowerCopy config.queryId

/-- Two files found at start share the identifier, and one of them is not ignored. -/
def SharedKey (lib : Library δ) (found : InitialFiles) (key : ByteString) : Prop :=
  ∃ config config', config.fileName ∈ found.names ∧ config'.fileName ∈ found.names ∧
    ReadsAs lib found.files config ∧ ReadsAs lib found.files config' ∧
    config.fileName ≠ config'.fileName ∧ config.key = key ∧ config'.key = key ∧
    shouldBeIgnored lib config.declaration = false

/-- Every order of the initial load ends with the same handler map, and of the files that
share an identifier one is served and the others are recorded as duplicates. -/
def OrderIndependent [DecidableEq δ] (lib : Library δ) (constructs : StoredQueryConfig → Bool)
    (found : InitialFiles) : Prop :=
  (∀ state state', Loads lib constructs found state → Loads lib constructs found state' →
    state.queries.handlerMap = state'.queries.handlerMap) ∧
  ∀ state, Loads lib constructs found state → ∀ key, SharedKey lib found key →
    ∃ fn ∈ found.names, (∃ handler, state.queries.handlerMap.find key = some handler ∧
        handler.config.fileName = fn) ∧
      ∀ config, config.fileName ∈ found.names → ReadsAs lib found.files config →
        config.key = key → config.fileName ≠ fn →
          state.queries.duplicate.contains config.fileName = true

/-- A file is read in one way only. -/
theorem ReadsAs.unique {lib : Library δ} {files : ByteString → Option ByteString}
    {config config' : StoredQueryConfig} (reads : ReadsAs lib files config)
    (reads' : ReadsAs lib files config') (sameFile : config.fileName = config'.fileName) :
    config = config' := by
  obtain ⟨fileName, content, declaration⟩ := config
  obtain ⟨fileName', content', declaration'⟩ := config'
  cases sameFile
  cases reads.stored.symm.trans reads'.stored
  cases reads.parsed.symm.trans reads'.parsed
  rfl

/-! ### Looking a file up -/

/-- What looking a new file up can show: the file is not one to be read, or its
configuration with the handler that has its identifier. -/
inductive CheckOutcome (lib : Library δ) (files : ByteString → Option ByteString)
    (queries : StoredQueryMap δ) (fn : ByteString) : Checked × StoredQueryMap δ → Prop
  | skipped {checked : Checked} {after : StoredQueryMap δ}
      (unread : ∀ config, ReadsAs lib files config → config.fileName ≠ fn)
      (silent : checked = .unchanged ∨ checked = .failed)
      (same : after = queries ∨ ∃ content, after = queries.remember lib fn content) :
      CheckOutcome lib files queries fn (checked, after)
  | read {config : StoredQueryConfig} (reads : ReadsAs lib files config)
      (ofFile : config.fileName = fn) :
      CheckOutcome lib files queries fn
        (.read config (queries.getHandlerByNameNothrow config.queryId),
          queries.remember lib fn config.content)

/-- A file is refused, or it becomes a task. -/
theorem checkFile_outcome [DecidableEq δ] (lib : Library δ)
    (files : ByteString → Option ByteString) {queries : StoredQueryMap δ} {fn : ByteString}
    (unknown : queries.fileHashMap.find fn = none) :
    CheckOutcome lib files queries fn (checkFile lib files queries fn) := by
  unfold checkFile
  split
  · next named =>
      unfold checkQueryAdd
      rcases queries.checkFileHash_cases lib files fn with
        ⟨unnoticed, checked⟩ | ⟨content, stored, notices, checked⟩
      · rw [checked]
        refine .skipped (fun config reads ofFile => ?_) (.inl rfl) (.inl rfl)
        have stored := reads.stored
        rw [ofFile] at stored
        exact unnoticed config.content stored ⟨reads.short, by rw [unknown]; nofun⟩
      · rw [checked]
        simp only [readConfig, stored, Option.bind_eq_bind, Option.bind_some]
        cases parsed : lib.parseConfig content with
        | none =>
            refine .skipped (fun config reads ofFile => ?_) (.inr rfl) (.inr ⟨content, rfl⟩)
            have stored' := reads.stored
            rw [ofFile] at stored'
            cases stored.symm.trans stored'
            cases parsed.symm.trans reads.parsed
        | some declaration =>
            have reads : ReadsAs lib files ⟨fn, content, declaration⟩ :=
              ⟨named, stored, notices.1, parsed⟩
            exact .read reads rfl
  · next otherName =>
      refine .skipped (fun config reads ofFile => ?_) (.inl rfl) (.inl rfl)
      exact otherName (ofFile ▸ reads.named)

/-! ### Loads without shared identifiers -/

/-- A configuration that the initial load tries to serve. -/
structure Loadable (lib : Library δ) (found : InitialFiles) (config : StoredQueryConfig) :
    Prop where
  member : config.fileName ∈ found.names
  reads : ReadsAs lib found.files config
  enabled : shouldBeIgnored lib config.declaration = false

/-- Without shared identifiers the identifier of a loadable configuration is its own. -/
theorem Loadable.unique {lib : Library δ} {found : InitialFiles}
    (unshared : ∀ key, ¬ SharedKey lib found key) {config config' : StoredQueryConfig}
    (loadable : Loadable lib found config) (member : config'.fileName ∈ found.names)
    (reads : ReadsAs lib found.files config') (sameKey : config.key = config'.key) :
    config = config' := by
  by_cases sameFile : config.fileName = config'.fileName
  · exact loadable.reads.unique reads sameFile
  · exact absurd ⟨config, config', loadable.member, member, loadable.reads, reads, sameFile, rfl,
      sameKey.symm, loadable.enabled⟩ (unshared config.key)

/-- Nothing has been made from the file yet. -/
def Untouched (queries : StoredQueryMap δ) (fn : ByteString) : Prop :=
  (∀ key handler, queries.handlerMap.find key = some handler → handler.config.fileName ≠ fn) ∧
    ∀ task ∈ queries.initTasks, task.fileName ≠ fn

/-- The state of a load without shared identifiers: handlers and tasks belong to loadable
configurations, the files still to be done are untouched, and every configuration
whose handler can be constructed is still to be done, in work or served. -/
structure Orderly (lib : Library δ) (constructs : StoredQueryConfig → Bool)
    (found : InitialFiles) (state : LoadState δ) : Prop where
  noReload : state.queries.reloadRequired = false
  nodup : state.todo.Nodup
  members : ∀ fn ∈ state.todo, fn ∈ found.names
  unknown : ∀ fn ∈ state.todo, state.queries.fileHashMap.find fn = none
  untouched : ∀ fn ∈ state.todo, Untouched state.queries fn
  handlers : ∀ key handler, state.queries.handlerMap.find key = some handler →
    Loadable lib found handler.config ∧ constructs handler.config = true ∧
      key = handler.config.key
  tasks : ∀ task ∈ state.queries.initTasks, Loadable lib found task
  current : ∀ config prev, state.current = some (.read config prev) → prev = none ∧
    config.fileName ∈ found.names ∧ ReadsAs lib found.files config ∧
      config.fileName ∉ state.todo ∧ Untouched state.queries config.fileName
  covered : ∀ config, Loadable lib found config → constructs config = true →
    config.fileName ∈ state.todo ∨ state.current = some (.read config none) ∨
      config ∈ state.queries.initTasks ∨
      state.queries.handlerMap.find config.key = some ⟨config⟩

section

variable {lib : Library δ} {constructs : StoredQueryConfig → Bool} {found : InitialFiles}

/-- The load starts in order. -/
theorem orderly_initial (lib : Library δ) (constructs : StoredQueryConfig → Bool)
    (found : InitialFiles) : Orderly lib constructs found ⟨found.names, none, .initial⟩ where
  noReload := rfl
  nodup := found.nodup
  members _ member := member
  unknown _ _ := rfl
  untouched _ _ := ⟨nofun, nofun⟩
  handlers := nofun
  tasks := nofun
  current := nofun
  covered _ loadable _ := .inl loadable.member

/-- A readable file that is untouched has its identifier free. -/
theorem Orderly.free (unshared : ∀ key, ¬ SharedKey lib found key) {state : LoadState δ}
    (orderly : Orderly lib constructs found state) {config : StoredQueryConfig}
    (member : config.fileName ∈ found.names) (reads : ReadsAs lib found.files config)
    (untouched : Untouched state.queries config.fileName) :
    state.queries.handlerMap.find config.key = none := by
  cases holder : state.queries.handlerMap.find config.key with
  | none => rfl
  | some handler =>
      obtain ⟨loadable, _, sameKey⟩ := orderly.handlers config.key handler holder
      have same := loadable.unique unshared member reads sameKey.symm
      exact absurd (congrArg StoredQueryConfig.fileName same)
        (untouched.1 config.key handler holder)

/-- A file that is checked keeps the order. -/
theorem Orderly.check [DecidableEq δ] (unshared : ∀ key, ¬ SharedKey lib found key)
    {fn : ByteString} {rest : List ByteString} {queries : StoredQueryMap δ}
    (orderly : Orderly lib constructs found ⟨fn :: rest, none, queries⟩) :
    Orderly lib constructs found ⟨rest, some (checkFile lib found.files queries fn).1,
      (checkFile lib found.files queries fn).2⟩ := by
  have outcome := checkFile_outcome lib found.files (orderly.unknown fn List.mem_cons_self)
  obtain ⟨notLater, restNodup⟩ := List.nodup_cons.mp orderly.nodup
  have later : ∀ name ∈ rest, name ∈ fn :: rest := fun name => List.mem_cons_of_mem fn
  have otherThan : ∀ name ∈ rest, name ≠ fn := by
    rintro name member rfl
    exact notLater member
  generalize checkFile lib found.files queries fn = result at outcome ⊢
  cases outcome with
  | @skipped checked after unread silent same =>
      have keeps : after.handlerMap = queries.handlerMap ∧ after.initTasks = queries.initTasks ∧
          after.reloadRequired = queries.reloadRequired := by
        rcases same with rfl | ⟨content, rfl⟩ <;> exact ⟨rfl, rfl, rfl⟩
      obtain ⟨sameMap, sameTasks, sameReload⟩ := keeps
      refine ⟨sameReload.trans orderly.noReload, restNodup,
        fun name member => orderly.members name (later name member), fun name member => ?_,
        fun name member => ?_, ?_, ?_, fun config prev looked => ?_,
        fun config loadable built => ?_⟩
      · rcases same with rfl | ⟨content, rfl⟩
        · exact orderly.unknown name (later name member)
        · exact (OrderedMap.find_set_ne (otherThan name member) _ _).trans
            (orderly.unknown name (later name member))
      · unfold Untouched
        rw [sameMap, sameTasks]
        exact orderly.untouched name (later name member)
      · simpa only [sameMap] using orderly.handlers
      · simpa only [sameTasks] using orderly.tasks
      · rcases silent with rfl | rfl <;> cases looked
      · simp only [sameMap, sameTasks]
        rcases orderly.covered config loadable built with todo | looked | done
        · rcases List.mem_cons.mp todo with isHead | inRest
          · exact absurd isHead (unread config loadable.reads)
          · exact .inl inRest
        · cases looked
        · exact .inr (.inr done)
  | @read config reads ofFile =>
      subst ofFile
      have untouched := orderly.untouched config.fileName List.mem_cons_self
      have member := orderly.members config.fileName List.mem_cons_self
      have free : queries.getHandlerByNameNothrow config.queryId = none :=
        orderly.free unshared member reads untouched
      refine ⟨orderly.noReload, restNodup,
        fun name member => orderly.members name (later name member),
        fun name member => (OrderedMap.find_set_ne (otherThan name member) _ _).trans
          (orderly.unknown name (later name member)),
        fun name member => orderly.untouched name (later name member), orderly.handlers,
        orderly.tasks, fun other prev looked => ?_, fun other loadable built => ?_⟩
      · cases looked
        exact ⟨free, member, reads, notLater, untouched⟩
      · rcases orderly.covered other loadable built with todo | looked | done
        · rcases List.mem_cons.mp todo with isHead | inRest
          · rw [loadable.reads.unique reads isHead]
            exact .inr (.inl (by rw [free]))
          · exact .inl inRest
        · cases looked
        · exact .inr (.inr done)

/-- What is done with the checked file keeps the order. -/
theorem Orderly.act (parallel : lib.backgroundInit = true)
    (unshared : ∀ key, ¬ SharedKey lib found key)
    {todo : List ByteString} {checked : Checked} {queries : StoredQueryMap δ}
    (orderly : Orderly lib constructs found ⟨todo, some checked, queries⟩) :
    Orderly lib constructs found
      ⟨todo, none, (queries.finishQueryAdd lib constructs checked true).queries⟩ := by
  -- Nothing that was looked up without a configuration is left to be covered.
  have dropped : (∀ config, checked ≠ .read config none) →
      Orderly lib constructs found ⟨todo, none, queries⟩ := fun silent =>
    ⟨orderly.noReload, orderly.nodup, orderly.members, orderly.unknown, orderly.untouched,
      orderly.handlers, orderly.tasks, (fun _ _ looked => by cases looked),
      fun config loadable built => by
        rcases orderly.covered config loadable built with todo | looked | done
        · exact .inl todo
        · exact absurd (Option.some.inj looked) (silent config)
        · exact .inr (.inr done)⟩
  cases checked with
  | unchanged => exact dropped fun _ same => by cases same
  | failed => exact dropped fun _ same => by cases same
  | read config prev =>
      obtain ⟨rfl, member, reads, notTodo, untouched⟩ := orderly.current config prev rfl
      have free : queries.handlerMap.find config.key = none :=
        orderly.free unshared member reads untouched
      cases enabled : shouldBeIgnored lib config.declaration with
      | true =>
          have nothing : (queries.finishQueryAdd lib constructs (.read config none) true).queries =
              { queries with duplicate := queries.duplicate.erase config.fileName } := by
            simp only [finishQueryAdd, enabled, if_true]
            exact handleQueryIgnore_of_none free
          rw [nothing]
          refine ⟨orderly.noReload, orderly.nodup, orderly.members, orderly.unknown,
            orderly.untouched, orderly.handlers, orderly.tasks,
            (fun _ _ looked => by cases looked),
            fun other loadable built => ?_⟩
          rcases orderly.covered other loadable built with todo | looked | done
          · exact .inl todo
          · cases looked
            cases enabled.symm.trans loadable.enabled
          · exact .inr (.inr done)
      | false =>
          have queued : (queries.finishQueryAdd lib constructs (.read config none) true).queries =
              { queries with
                duplicate := queries.duplicate.erase config.fileName
                initTasks := queries.initTasks ++ [config] } := by
            simp [finishQueryAdd, enabled, enqueueQueryAdd, parallel]
          rw [queued]
          refine ⟨orderly.noReload, orderly.nodup, orderly.members, orderly.unknown,
            fun name waiting => ⟨(orderly.untouched name waiting).1, fun task inTasks => ?_⟩,
            orderly.handlers, fun task inTasks => ?_, (fun _ _ looked => by cases looked),
            fun other loadable built => ?_⟩
          · rcases List.mem_append.mp inTasks with old | new
            · exact (orderly.untouched name waiting).2 task old
            · rw [List.mem_singleton.mp new]
              rintro rfl
              exact notTodo waiting
          · rcases List.mem_append.mp inTasks with old | new
            · exact orderly.tasks task old
            · rw [List.mem_singleton.mp new]
              exact ⟨member, reads, enabled⟩
          · rcases orderly.covered other loadable built with todo | looked | old | served
            · exact .inl todo
            · cases looked
              exact .inr (.inr (.inl (List.mem_append_right _ List.mem_cons_self)))
            · exact .inr (.inr (.inl (List.mem_append_left _ old)))
            · exact .inr (.inr (.inr served))

/-- A task that ends keeps the order. -/
theorem Orderly.finish (unshared : ∀ key, ¬ SharedKey lib found key)
    {todo : List ByteString} {current : Option Checked} {queries : StoredQueryMap δ}
    (orderly : Orderly lib constructs found ⟨todo, current, queries⟩) {task : StoredQueryConfig}
    (queued : task ∈ queries.initTasks) :
    Orderly lib constructs found ⟨todo, current, queries.runTask constructs task⟩ := by
  have loadable := orderly.tasks task queued
  have leaves : ∀ name, Untouched queries name → Untouched
      (queries.runTask constructs task) name := by
    intro name untouched
    refine ⟨fun key handler found' => ?_, fun other member => ?_⟩
    · unfold runTask addConfig at found'
      split at found'
      · change (queries.handlerMap.set task.key ⟨task⟩).find key = some handler at found'
        rw [OrderedMap.find_set] at found'
        split at found'
        · cases found'
          exact untouched.2 task queued
        · exact untouched.1 key handler found'
      · exact untouched.1 key handler found'
    · rw [runTask_initTasks] at member
      exact untouched.2 other (List.mem_of_mem_erase member)
  have hashes : (queries.runTask constructs task).fileHashMap = queries.fileHashMap :=
    addConfig_fileHashMap _ _ _
  refine ⟨(runTask_reloadRequired _ _ _).trans orderly.noReload, orderly.nodup, orderly.members,
    fun name member => ?_, fun name member => leaves name (orderly.untouched name member),
    fun key handler found' => ?_, fun other member => ?_, fun config prev looked => ?_,
    fun config loadable' built => ?_⟩
  · change (queries.runTask constructs task).fileHashMap.find name = none
    rw [hashes]
    exact orderly.unknown name member
  · change (queries.runTask constructs task).handlerMap.find key = some handler at found'
    unfold runTask addConfig at found'
    split at found'
    · next built =>
        change (queries.handlerMap.set task.key ⟨task⟩).find key = some handler at found'
        rw [OrderedMap.find_set] at found'
        split at found'
        · next same =>
            cases found'
            exact ⟨loadable, built, same⟩
        · exact orderly.handlers key handler found'
    · exact orderly.handlers key handler found'
  · change other ∈ (queries.runTask constructs task).initTasks at member
    rw [runTask_initTasks] at member
    exact orderly.tasks other (List.mem_of_mem_erase member)
  · obtain ⟨none, member, reads, notTodo, untouched⟩ := orderly.current config prev looked
    exact ⟨none, member, reads, notTodo, leaves _ untouched⟩
  · change _ ∨ _ ∨ config ∈ (queries.runTask constructs task).initTasks ∨
      (queries.runTask constructs task).handlerMap.find config.key = some ⟨config⟩
    rw [runTask_initTasks]
    have served : config = task ∨ queries.handlerMap.find config.key = some ⟨config⟩ →
        (queries.runTask constructs task).handlerMap.find config.key = some ⟨config⟩ := by
      intro known
      unfold runTask addConfig
      split
      · change (queries.handlerMap.set task.key ⟨task⟩).find config.key = some ⟨config⟩
        rw [OrderedMap.find_set]
        split
        · next sameKey =>
            rw [loadable'.unique unshared loadable.member loadable.reads sameKey]
        · next otherKey =>
            rcases known with rfl | found'
            · exact absurd rfl otherKey
            · exact found'
      · next unbuilt =>
          rcases known with rfl | found'
          · exact absurd built unbuilt
          · exact found'
    rcases orderly.covered config loadable' built with todo | looked | pending | found'
    · exact .inl todo
    · exact .inr (.inl looked)
    · by_cases same : config = task
      · exact .inr (.inr (.inr (served (.inl same))))
      · exact .inr (.inr (.inl ((List.mem_erase_of_ne same).mpr pending)))
    · exact .inr (.inr (.inr (served (.inr found'))))

/-- In every state of the load there is order. -/
theorem Orderly.of_loads [DecidableEq δ] (parallel : lib.backgroundInit = true)
    (unshared : ∀ key, ¬ SharedKey lib found key) {state : LoadState δ}
    (loads : Loads lib constructs found state) : Orderly lib constructs found state := by
  obtain ⟨run, -⟩ := loads
  induction run with
  | refl => exact orderly_initial lib constructs found
  | tail run step ih =>
      cases step with
      | check noReload => exact ih.check unshared
      | act room => exact ih.act parallel unshared
      | finish queued => exact ih.finish unshared queued

/-- The handlers at the end of a load without shared identifiers. -/
theorem Orderly.find_iff {state : LoadState δ} (orderly : Orderly lib constructs found state)
    (finished : state.Finished) (key : ByteString) (handler : StoredQueryHandler) :
    state.queries.handlerMap.find key = some handler ↔
      Loadable lib found handler.config ∧ constructs handler.config = true ∧
        key = handler.config.key := by
  constructor
  · exact orderly.handlers key handler
  · rintro ⟨loadable, built, rfl⟩
    obtain ⟨todo | reload, current, tasks⟩ := finished
    · rcases orderly.covered handler.config loadable built with waiting | looked | pending | served
      · rw [todo] at waiting
        cases waiting
      · cases current.symm.trans looked
      · rw [tasks] at pending
        cases pending
      · exact served
    · cases orderly.noReload.symm.trans reload

/-- Without shared identifiers all orders end alike. -/
theorem orderIndependent_of_unshared [DecidableEq δ] (parallel : lib.backgroundInit = true)
    (unshared : ∀ key, ¬ SharedKey lib found key) : OrderIndependent lib constructs found := by
  refine ⟨fun state state' loads loads' => ?_, fun _ _ key shared => absurd shared (unshared key)⟩
  refine OrderedMap.ext_find fun key => Option.ext fun handler => ?_
  rw [(Orderly.of_loads parallel unshared loads).find_iff loads.2,
    (Orderly.of_loads parallel unshared loads').find_iff loads'.2]

/-! ### A load with a shared identifier

The first file with the shared identifier has its task, if it gets one, kept waiting;
every other task finishes at once. The second file with the identifier is then looked
up while no handler has it, and neither of the two is recorded as a duplicate. -/

/-- What the thread does to the map for one more file: handlers are left alone, a task
may be queued, and the file becomes a duplicate only if its identifier is held. -/
structure Handled (lib : Library δ) (found : InitialFiles) (fn : ByteString)
    (before after : StoredQueryMap δ) : Prop where
  reload : after.reloadRequired = before.reloadRequired
  handlerMap : after.handlerMap = before.handlerMap
  tasks : after.initTasks = before.initTasks ∨ ∃ config, ReadsAs lib found.files config ∧
    config.fileName = fn ∧ after.initTasks = before.initTasks ++ [config]
  duplicate : ∀ name, after.duplicate.contains name = true →
    before.duplicate.contains name = true ∨
      (name = fn ∧ ∃ config, ReadsAs lib found.files config ∧ config.fileName = fn ∧
        before.handlerMap.find config.key ≠ none)

/-- A file that was loaded by itself is handled as in the load of all. -/
theorem handled_of_outcome (parallel : lib.backgroundInit = true) {fn : ByteString}
    (named : isConfigName fn = true) {queries : StoredQueryMap δ} {outcome : Outcome δ}
    (ended : AddOutcome lib ⟨found.files, constructs⟩ queries fn true outcome) :
    Handled lib found fn queries outcome.queries := by
  cases ended with
  | unnoticed unnoticed => exact ⟨rfl, rfl, .inl rfl, fun name old => .inl old⟩
  | unreadable stored notices unparsed => exact ⟨rfl, rfl, .inl rfl, fun name old => .inl old⟩
  | @duplicate content declaration stored notices parsed held =>
      refine ⟨rfl, rfl, .inl rfl, fun name contained => ?_⟩
      rcases OrderedSet.contains_insert.mp contained with rfl | old
      · refine .inr ⟨rfl, ⟨name, content, declaration⟩, ⟨named, stored, notices.1, parsed⟩, rfl, ?_⟩
        exact Option.isSome_iff_ne_none.mp held
      · exact .inl old
  | ignored stored notices parsed ignored =>
      exact ⟨rfl, rfl, .inl rfl,
        fun name contained => .inl (OrderedSet.contains_erase.mp contained).2⟩
  | @enqueued content declaration stored notices parsed free enabled =>
      have reads : ReadsAs lib found.files ⟨fn, content, declaration⟩ :=
        ⟨named, stored, notices.1, parsed⟩
      unfold enqueueQueryAdd
      rw [if_pos ⟨parallel, rfl⟩]
      exact ⟨rfl, rfl, .inr ⟨_, reads, rfl, rfl⟩,
        fun name contained => .inl (OrderedSet.contains_erase.mp contained).2⟩

end

section

variable {lib : Library δ} {constructs : StoredQueryConfig → Bool} {found : InitialFiles}

/-- Runs of the load from between two files to between two files. -/
def LoadRuns [DecidableEq δ] (lib : Library δ) (constructs : StoredQueryConfig → Bool)
    (found : InitialFiles) (todo : List ByteString) (queries : StoredQueryMap δ)
    (todo' : List ByteString) (queries' : StoredQueryMap δ) : Prop :=
  Relation.ReflTransGen (LoadStep lib ⟨found.files, constructs⟩) ⟨todo, none, queries⟩
    ⟨todo', none, queries'⟩

variable [DecidableEq δ]

section

variable (lib constructs found)

/-- The thread takes one file, with nothing in between. -/
theorem load_file (parallel : lib.backgroundInit = true) (fn : ByteString)
    (rest : List ByteString) {queries : StoredQueryMap δ}
    (noReload : queries.reloadRequired = false) (room : queries.initTasks.length < maxTasks) :
    ∃ after, LoadRuns lib constructs found (fn :: rest) queries rest after ∧
      Handled lib found fn queries after := by
  have handled : Handled lib found fn queries
      ((checkFile lib found.files queries fn).2.finishQueryAdd lib constructs
        (checkFile lib found.files queries fn).1 true).queries := by
    unfold checkFile
    split
    · next named =>
        exact handled_of_outcome parallel named
          (handleQueryAdd_outcome lib ⟨found.files, constructs⟩ queries fn true)
    · exact ⟨rfl, rfl, .inl rfl, fun name old => .inl old⟩
  refine ⟨_, (Relation.ReflTransGen.single (.check noReload)).tail (.act ?_), handled⟩
  rcases handled.tasks with same | ⟨config, _, _, added⟩
  · rw [same]
    omega
  · rw [added, List.length_append, List.length_singleton]
    omega

/-- The thread takes one file and its task, if it gets one, finishes at once. Other
identifiers stay as they are. -/
theorem load_file_now (parallel : lib.backgroundInit = true) (fn : ByteString)
    (rest : List ByteString) {queries : StoredQueryMap δ}
    (noReload : queries.reloadRequired = false) (room : queries.initTasks.length ≤ 1) :
    ∃ after, LoadRuns lib constructs found (fn :: rest) queries rest after ∧
      after.reloadRequired = false ∧ after.initTasks = queries.initTasks ∧
      (∀ key, (∀ config, ReadsAs lib found.files config → config.fileName = fn →
        config.key ≠ key) → after.handlerMap.find key = queries.handlerMap.find key) ∧
      ∀ name, after.duplicate.contains name = true →
        queries.duplicate.contains name = true ∨
          (name = fn ∧ ∃ config, ReadsAs lib found.files config ∧ config.fileName = fn ∧
            queries.handlerMap.find config.key ≠ none) := by
  obtain ⟨after, run, handled⟩ := load_file lib constructs found parallel fn rest noReload
    (Nat.lt_of_le_of_lt room (by decide : 1 < maxTasks))
  rcases handled.tasks with same | ⟨task, reads, ofFile, added⟩
  · exact ⟨after, run, handled.reload.trans noReload, same,
      fun key _ => by rw [handled.handlerMap], handled.duplicate⟩
  · have queued : task ∈ after.initTasks := by
      rw [added]
      exact List.mem_append_right _ List.mem_cons_self
    have tasks : (after.runTask constructs task).initTasks = queries.initTasks := by
      rw [runTask_initTasks, added]
      match waiting : queries.initTasks, room with
      | [], _ => simp
      | [other], _ => by_cases same : other = task <;> simp [same]
    have duplicate : (after.runTask constructs task).duplicate = after.duplicate :=
      addConfig_duplicate _ _ _
    refine ⟨after.runTask constructs task, run.tail (.finish queued), ?_, tasks,
      fun key others => ?_, fun name contained => ?_⟩
    · exact (runTask_reloadRequired _ _ _).trans (handled.reload.trans noReload)
    · rw [← handled.handlerMap]
      unfold runTask addConfig
      split
      · exact OrderedMap.find_set_ne (Ne.symm (others task reads ofFile)) _ _
      · rfl
    · rw [duplicate] at contained
      exact handled.duplicate name contained

/-- The thread takes files none of which has the identifier. -/
theorem load_files_now (parallel : lib.backgroundInit = true) (key : ByteString)
    (rest names : List ByteString) :
    ∀ queries : StoredQueryMap δ, queries.reloadRequired = false →
      queries.initTasks.length ≤ 1 →
      ∃ after, LoadRuns lib constructs found (names ++ rest) queries rest after ∧
        after.reloadRequired = false ∧ after.initTasks = queries.initTasks ∧
        ((∀ fn ∈ names, ∀ config, ReadsAs lib found.files config → config.fileName = fn →
          config.key ≠ key) → after.handlerMap.find key = queries.handlerMap.find key) ∧
        ∀ name, after.duplicate.contains name = true →
          queries.duplicate.contains name = true ∨ name ∈ names := by
  induction names with
  | nil =>
      intro queries noReload room
      exact ⟨queries, .refl, noReload, rfl, fun _ => rfl, fun name old => .inl old⟩
  | cons fn names ih =>
      intro queries noReload room
      obtain ⟨middle, runFirst, middleReload, middleTasks, middleFind, middleDuplicate⟩ :=
        load_file_now lib constructs found parallel fn (names ++ rest) noReload room
      obtain ⟨after, runRest, afterReload, afterTasks, afterFind, afterDuplicate⟩ :=
        ih middle middleReload (middleTasks ▸ room)
      refine ⟨after, runFirst.trans runRest, afterReload, afterTasks.trans middleTasks,
        fun others => ?_, fun name contained => ?_⟩
      · obtain ⟨first, later⟩ := List.forall_mem_cons.mp others
        exact (afterFind later).trans (middleFind key first)
      · rcases afterDuplicate name contained with old | inNames
        · rcases middleDuplicate name old with older | ⟨rfl, _⟩
          · exact .inl older
          · exact .inr List.mem_cons_self
        · exact .inr (List.mem_cons_of_mem _ inNames)

/-- Tasks that are left over finish. -/
theorem load_rest {queries : StoredQueryMap δ} (room : queries.initTasks.length ≤ 1) :
    ∃ after, LoadRuns lib constructs found [] queries [] after ∧ after.initTasks = [] ∧
      after.duplicate = queries.duplicate := by
  match waiting : queries.initTasks, room with
  | [], _ => exact ⟨queries, .refl, waiting, rfl⟩
  | [task], _ =>
      have queued : task ∈ queries.initTasks := by
        rw [waiting]
        exact List.mem_cons_self
      refine ⟨queries.runTask constructs task, .single (.finish queued), ?_,
        addConfig_duplicate _ _ _⟩
      rw [runTask_initTasks, waiting, List.erase_cons_head]

end

/-- The first two of the elements with a property. -/
theorem exists_first_two {α : Type} {property : α → Prop} {items : List α} {one other : α}
    (memOne : one ∈ items) (memOther : other ∈ items) (hasOne : property one)
    (hasOther : property other) (distinct : one ≠ other) :
    ∃ before first between second after,
      items = before ++ first :: (between ++ second :: after) ∧ property first ∧
        property second ∧ (∀ item ∈ before, ¬ property item) ∧
        ∀ item ∈ between, ¬ property item := by
  classical
  have inOne : one ∈ items.filter property := List.mem_filter.mpr ⟨memOne, by simpa using hasOne⟩
  have inOther : other ∈ items.filter property :=
    List.mem_filter.mpr ⟨memOther, by simpa using hasOther⟩
  match kept : items.filter property with
  | [] => rw [kept] at inOne; cases inOne
  | [only] =>
      rw [kept] at inOne inOther
      exact absurd ((List.mem_singleton.mp inOne).trans (List.mem_singleton.mp inOther).symm)
        distinct
  | first :: second :: others =>
      obtain ⟨before, rest, rfl, noneBefore, hasFirst, restKept⟩ := List.filter_eq_cons_iff.mp kept
      obtain ⟨between, after, rfl, noneBetween, hasSecond, _⟩ := List.filter_eq_cons_iff.mp restKept
      exact ⟨before, first, between, second, after, rfl, by simpa using hasFirst,
        by simpa using hasSecond, by simpa using noneBefore, by simpa using noneBetween⟩

/-- The file is read as a configuration with the identifier. -/
def HasKey (lib : Library δ) (files : ByteString → Option ByteString) (key fn : ByteString) :
    Prop :=
  ∃ config, ReadsAs lib files config ∧ config.fileName = fn ∧ config.key = key

omit [DecidableEq δ] in
/-- The file has the key that is read from it. -/
theorem HasKey.key_eq {files : ByteString → Option ByteString} {key fn : ByteString}
    (hasKey : HasKey lib files key fn) {config : StoredQueryConfig}
    (reads : ReadsAs lib files config) (ofFile : config.fileName = fn) : config.key = key := by
  obtain ⟨config', reads', ofFile', rfl⟩ := hasKey
  rw [reads.unique reads' (ofFile.trans ofFile'.symm)]

variable (constructs) in
/-- When the first of two files with the identifier keeps its task waiting, neither of them
is recorded as a duplicate. -/
theorem load_two (parallel : lib.backgroundInit = true) {key first second : ByteString}
    {before between : List ByteString} (rest : List ByteString)
    (hasFirst : HasKey lib found.files key first)
    (hasSecond : HasKey lib found.files key second)
    (noneBefore : ∀ fn ∈ before, ¬ HasKey lib found.files key fn)
    (noneBetween : ∀ fn ∈ between, ¬ HasKey lib found.files key fn) :
    ∃ after, LoadRuns lib constructs found (before ++ first :: (between ++ second :: rest))
        .initial [] after ∧ after.initTasks = [] ∧
      ∀ name, after.duplicate.contains name = true →
        name ∈ before ∨ name ∈ between ∨ name ∈ rest := by
  have spare : ∀ names : List ByteString, (∀ fn ∈ names, ¬ HasKey lib found.files key fn) →
      ∀ fn ∈ names, ∀ config, ReadsAs lib found.files config → config.fileName = fn →
        config.key ≠ key :=
    fun names none fn member config reads ofFile sameKey =>
      none fn member ⟨config, reads, ofFile, sameKey⟩
  -- The files before the first one with the identifier.
  obtain ⟨queries₁, run₁, reload₁, tasks₁, find₁, duplicate₁⟩ := load_files_now lib
    constructs found parallel key (first :: (between ++ second :: rest)) before
    .initial rfl (Nat.zero_le 1)
  have free₁ : queries₁.handlerMap.find key = none := find₁ (spare before noneBefore)
  -- The first one, whose task is kept waiting.
  have room₁ : queries₁.initTasks.length < maxTasks := by
    rw [tasks₁]
    exact (by decide : 0 < maxTasks)
  obtain ⟨queries₂, run₂, handled₂⟩ := load_file lib constructs found parallel
    first (between ++ second :: rest) reload₁ room₁
  have waiting₂ : queries₂.initTasks.length ≤ 1 := by
    rcases handled₂.tasks with same | ⟨task, _, _, added⟩
    · rw [same, tasks₁]
      exact Nat.zero_le 1
    · rw [added, tasks₁]
      exact Nat.le_refl 1
  -- The files up to the second one with the identifier, and that one.
  obtain ⟨queries₃, run₃, reload₃, tasks₃, find₃, duplicate₃⟩ := load_files_now lib
    constructs found parallel key (second :: rest) between queries₂
    (handled₂.reload.trans reload₁) waiting₂
  have free₃ : queries₃.handlerMap.find key = none := by
    rw [find₃ (spare between noneBetween), handled₂.handlerMap, free₁]
  obtain ⟨queries₄, run₄, reload₄, tasks₄, _, duplicate₄⟩ := load_file_now lib
    constructs found parallel second rest reload₃ (tasks₃ ▸ waiting₂)
  -- All others, and the task that has waited.
  obtain ⟨queries₅, run₅, reload₅, tasks₅, _, duplicate₅⟩ := load_files_now lib
    constructs found parallel key [] rest queries₄ reload₄
    ((tasks₄.trans tasks₃) ▸ waiting₂)
  rw [List.append_nil] at run₅
  obtain ⟨queries₆, run₆, tasks₆, duplicate₆⟩ := load_rest lib constructs
    found (((tasks₅.trans tasks₄).trans tasks₃) ▸ waiting₂)
  have recorded : ∀ name, queries₆.duplicate.contains name = true →
      name ∈ before ∨ name ∈ between ∨ name ∈ rest := by
    intro name contained
    rw [duplicate₆] at contained
    rcases duplicate₅ name contained with contained | inRest
    · rcases duplicate₄ name contained with contained | ⟨rfl, config, reads, ofFile, held⟩
      · rcases duplicate₃ name contained with contained | inBetween
        · rcases handled₂.duplicate name contained with contained | ⟨rfl, config, reads,
            ofFile, held⟩
          · rcases duplicate₁ name contained with contained | inBefore
            · cases contained
            · exact .inl inBefore
          · rw [hasFirst.key_eq reads ofFile] at held
            exact absurd free₁ held
        · exact .inr (.inl inBetween)
      · rw [hasSecond.key_eq reads ofFile] at held
        exact absurd free₃ held
    · exact .inr (.inr inRest)
  exact ⟨queries₆, ((((run₁.trans run₂).trans run₃).trans run₄).trans run₅).trans run₆, tasks₆,
    recorded⟩

variable (constructs) in
/-- With a shared identifier some load records neither of two files that have it as a
duplicate. -/
theorem exists_unrecorded (parallel : lib.backgroundInit = true) {key : ByteString}
    (shared : SharedKey lib found key) :
    ∃ state, Loads lib constructs found state ∧ ∃ first second, first ∈ found.names ∧
      second ∈ found.names ∧ first ≠ second ∧ HasKey lib found.files key first ∧
      HasKey lib found.files key second ∧
      state.queries.duplicate.contains first = false ∧
      state.queries.duplicate.contains second = false := by
  obtain ⟨config, config', member, member', reads, reads', otherFile, sameKey, sameKey', _⟩ :=
    shared
  have hasOne : HasKey lib found.files key config.fileName := ⟨config, reads, rfl, sameKey⟩
  have hasOther : HasKey lib found.files key config'.fileName := ⟨config', reads', rfl, sameKey'⟩
  obtain ⟨before, first, between, second, rest, split, hasFirst, hasSecond, noneBefore,
    noneBetween⟩ := exists_first_two member member' hasOne hasOther otherFile
  obtain ⟨after, run, tasks, recorded⟩ := load_two constructs parallel rest hasFirst hasSecond
    noneBefore noneBetween
  have nodup := found.nodup
  rw [← split] at run
  rw [split] at nodup
  obtain ⟨_, afterBefore, apart⟩ := List.nodup_append.mp nodup
  obtain ⟨firstFresh, restNodup⟩ := List.nodup_cons.mp afterBefore
  obtain ⟨_, secondNodup, apart'⟩ := List.nodup_append.mp restNodup
  obtain ⟨secondFresh, _⟩ := List.nodup_cons.mp secondNodup
  refine ⟨⟨[], none, after⟩, ⟨run, .inl rfl, rfl, tasks⟩, first, second, ?_, ?_, ?_, hasFirst,
    hasSecond, ?_, ?_⟩
  · rw [split]
    simp
  · rw [split]
    simp
  · rintro rfl
    exact firstFresh (by simp)
  · rw [Bool.eq_false_iff]
    intro contained
    rcases recorded first contained with inBefore | inBetween | inRest
    · exact apart first inBefore first List.mem_cons_self rfl
    · exact firstFresh (List.mem_append_left _ inBetween)
    · exact firstFresh (List.mem_append_right _ (List.mem_cons_of_mem _ inRest))
  · rw [Bool.eq_false_iff]
    intro contained
    rcases recorded second contained with inBefore | inBetween | inRest
    · exact apart second inBefore second (by simp) rfl
    · exact apart' second inBetween second List.mem_cons_self rfl
    · exact secondFresh inRest

/-- A shared identifier spoils the initial load. -/
theorem not_orderIndependent_of_shared (parallel : lib.backgroundInit = true) {key : ByteString}
    (shared : SharedKey lib found key) : ¬ OrderIndependent lib constructs found := by
  intro ⟨_, served⟩
  obtain ⟨state, loads, first, second, memFirst, memSecond, distinct, hasFirst, hasSecond,
    firstUnrecorded, secondUnrecorded⟩ := exists_unrecorded constructs parallel shared
  obtain ⟨fn, _, _, others⟩ := served state loads key shared
  have unrecorded : ∀ name, name ∈ found.names → HasKey lib found.files key name →
      state.queries.duplicate.contains name = false → name = fn := by
    rintro name member ⟨config, reads, rfl, sameKey⟩ missing
    by_contra other
    cases missing.symm.trans (others config member reads sameKey other)
  exact distinct ((unrecorded first memFirst hasFirst firstUnrecorded).trans
    (unrecorded second memSecond hasSecond secondUnrecorded).symm)

/-- The initial load is independent of the order exactly when no two of the files, one of
them to be served, share an identifier. -/
theorem orderIndependent_iff (lib : Library δ) (constructs : StoredQueryConfig → Bool)
    (found : InitialFiles) (parallel : lib.backgroundInit = true) :
    OrderIndependent lib constructs found ↔ ∀ key, ¬ SharedKey lib found key := by
  constructor
  · intro independent key shared
    exact not_orderIndependent_of_shared parallel shared independent
  · exact orderIndependent_of_unshared parallel

end

/-- The sample library with the parallel initialisation switched on. -/
def parallelLibrary : Library ByteString := { sampleLibrary with backgroundInit := true }

/-- The two files that are found at start, with the second one's identifier. -/
def foundFiles (id : ByteString) : InitialFiles where
  names := [ascii "a.conf", ascii "b.conf"]
  files := sampleFiles
    [(ascii "a.conf", configText (ascii "foo")), (ascii "b.conf", configText id)]
  nodup := by decide
  present := by
    intro fn member
    rcases List.mem_cons.mp member with rfl | member
    · rfl
    · rcases List.mem_singleton.mp member with rfl
      rfl

/-- The identifiers are read as in the sequential initialisation. -/
theorem parallel_parseConfig {id : ByteString} (plain : 34 ∉ id) :
    parallelLibrary.parseConfig (configText id) = some ⟨id, false, false, false⟩ :=
  parseConfig_configText plain

/-- A file with a complete text is served under the identifier in it. -/
theorem key_of_configText {files : ByteString → Option ByteString} {config : StoredQueryConfig}
    {fn id : ByteString} (reads : ReadsAs parallelLibrary files config)
    (ofFile : config.fileName = fn) (stored : files fn = some (configText id))
    (plain : 34 ∉ id) : config.key = asciiTolowerCopy id := by
  have content : config.content = configText id := by
    have read := reads.stored
    rw [ofFile, stored] at read
    exact (Option.some.inj read).symm
  have parsed := reads.parsed
  rw [content, parallel_parseConfig plain] at parsed
  rw [StoredQueryConfig.key, StoredQueryConfig.queryId, ← Option.some.inj parsed]

/-- With different identifiers the order does not matter. -/
theorem orderIndependent_iff_sample :
    OrderIndependent parallelLibrary (fun _ => true) (foundFiles (ascii "bar")) := by
  refine (orderIndependent_iff parallelLibrary (fun _ => true) (foundFiles (ascii "bar")) rfl).mpr
    ?_
  intro key ⟨config, config', member, member', reads, reads', otherFile, sameKey, sameKey', _⟩
  have keys : ∀ config, config.fileName ∈ (foundFiles (ascii "bar")).names →
      ReadsAs parallelLibrary (foundFiles (ascii "bar")).files config →
      (config.fileName = ascii "a.conf" ∧ config.key = asciiTolowerCopy (ascii "foo")) ∨
        (config.fileName = ascii "b.conf" ∧ config.key = asciiTolowerCopy (ascii "bar")) := by
    intro config member reads
    rcases List.mem_cons.mp member with ofFile | member
    · exact .inl ⟨ofFile, key_of_configText reads ofFile rfl (by decide)⟩
    · have ofFile := List.mem_singleton.mp member
      exact .inr ⟨ofFile, key_of_configText reads ofFile rfl (by decide)⟩
  have differ : asciiTolowerCopy (ascii "foo") ≠ asciiTolowerCopy (ascii "bar") := by decide
  rcases keys config member reads with ⟨file, key₁⟩ | ⟨file, key₁⟩ <;>
    rcases keys config' member' reads' with ⟨file', key₂⟩ | ⟨file', key₂⟩
  · exact otherFile (file.trans file'.symm)
  · exact differ (key₁.symm.trans (sameKey.trans (sameKey'.symm.trans key₂)))
  · exact differ (key₂.symm.trans (sameKey'.trans (sameKey.symm.trans key₁)))
  · exact otherFile (file.trans file'.symm)

/-- Two files with one identifier spoil the parallel load. -/
theorem shared_identifier_races :
    ¬ OrderIndependent parallelLibrary (fun _ => true) (foundFiles (ascii "foo")) := by
  have reads : ∀ fn ∈ (foundFiles (ascii "foo")).names,
      ReadsAs parallelLibrary (foundFiles (ascii "foo")).files
        ⟨fn, configText (ascii "foo"), ⟨ascii "foo", false, false, false⟩⟩ := by
    intro fn member
    have short : (configText (ascii "foo")).length < maxSize := configText_short (by decide)
    rcases List.mem_cons.mp member with rfl | member
    · exact ⟨by decide, rfl, short, parallel_parseConfig (by decide)⟩
    · rcases List.mem_singleton.mp member with rfl
      exact ⟨by decide, rfl, short, parallel_parseConfig (by decide)⟩
  have first : ascii "a.conf" ∈ (foundFiles (ascii "foo")).names := List.mem_cons_self
  have second : ascii "b.conf" ∈ (foundFiles (ascii "foo")).names :=
    List.mem_cons_of_mem _ List.mem_cons_self
  exact not_orderIndependent_of_shared rfl
    ⟨_, _, first, second, reads _ first, reads _ second, by decide, rfl, rfl, by decide⟩

end SmartMetWfs.QueryMap
