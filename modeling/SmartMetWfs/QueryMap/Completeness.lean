import SmartMetWfs.QueryMap.Soundness

/-!
# Completeness of the handler map

The map is complete when every configuration file that is not kept out by another
loaded file is itself loaded, that is, when every declared identifier is held by a
handler. Loading keeps identifiers held. What can lose one is a handler that cannot
be constructed, and an identifier that is released although a file which was refused
as a duplicate declares it: the retry of the duplicates passes by every file whose
digest is remembered, and so by all of them.
-/

namespace SmartMetWfs.QueryMap

open Foundation

variable {δ : Type} [DecidableEq δ]

/-- A configuration file that no other loaded file keeps out is loaded. -/
def Complete (lib : Library δ) (files : ByteString → Option ByteString)
    (handlers : OrderedMap ByteString StoredQueryHandler) : Prop :=
  ∀ fn key, isConfigName fn = true → Declares lib files fn key →
    (∀ handler, handlers.find key = some handler → handler.config.fileName = fn) →
      ∃ handler, handlers.find key = some handler ∧ handler.config.fileName = fn

namespace StoredQueryMap

/-- A handler has the identifier, or a pending task will add one. -/
def Held (queries : StoredQueryMap δ) (key : ByteString) : Prop :=
  (∃ handler, queries.handlerMap.find key = some handler) ∨
    ∃ task ∈ queries.initTasks, asciiTolowerCopy task.queryId = key

/-- Handling the event, if it gets that far, takes the identifier out of the map. -/
def Releases (lib : Library δ) (constructs : StoredQueryConfig → Bool)
    (queries : StoredQueryMap δ) : FileEvent → ByteString → Prop
  | .create _ _, _ => False
  | .delete fn, key => ∃ handler, queries.getHandlerByFileName fn = some handler ∧
      key = asciiTolowerCopy handler.queryName
  | .modify fn content, key => queries.Notices lib fn content ∧ ∃ declaration,
      lib.parseConfig content = some declaration ∧
        ((shouldBeIgnored lib declaration = true ∧ key = asciiTolowerCopy declaration.queryId ∧
          ∃ handler, queries.handlerMap.find key = some handler ∧ handler.config.fileName = fn) ∨
        (shouldBeIgnored lib declaration = false ∧
          constructs ⟨fn, content, declaration⟩ = true ∧
          queries.getHandlerByNameNothrow declaration.queryId = none ∧
          ∃ handler, queries.getHandlerByFileName fn = some handler ∧ key = handler.queryName))

/-- Every handler stands under its own identifier. -/
def Keyed (handlers : OrderedMap ByteString StoredQueryHandler) : Prop :=
  ∀ key handler, handlers.find key = some handler → key = asciiTolowerCopy handler.queryName

omit [DecidableEq δ]

variable {queries : StoredQueryMap δ} {key : ByteString}

/-- A handler that is added leaves what is held. -/
theorem Held.addHandler (held : queries.Held key) (handler : StoredQueryHandler) :
    (queries.addHandler handler).Held key := by
  rcases held with ⟨holder, found⟩ | pending
  · by_cases same : key = asciiTolowerCopy handler.queryName
    · subst same
      exact .inl ⟨handler, OrderedMap.find_set_self _ _ _⟩
    · exact .inl ⟨holder, (OrderedMap.find_set_ne same _ _).trans found⟩
  · exact .inr pending

/-- Its own key is held. -/
theorem held_addHandler (queries : StoredQueryMap δ) (handler : StoredQueryHandler) :
    (queries.addHandler handler).Held (asciiTolowerCopy handler.queryName) :=
  .inl ⟨handler, OrderedMap.find_set_self _ _ _⟩

/-- A configuration that is added leaves what is held. -/
theorem Held.addConfig (held : queries.Held key) (constructs : StoredQueryConfig → Bool)
    (sqhConfig : StoredQueryConfig) :
    (queries.addConfig constructs sqhConfig).queries.Held key := by
  unfold StoredQueryMap.addConfig
  split
  · exact held.addHandler _
  · exact held

/-- A task that is queued leaves what is held. -/
theorem Held.enqueue (held : queries.Held key) (lib : Library δ)
    (constructs : StoredQueryConfig → Bool) (sqhConfig : StoredQueryConfig)
    (initialUpdate : Bool) :
    (queries.enqueueQueryAdd lib constructs sqhConfig initialUpdate).queries.Held key := by
  unfold enqueueQueryAdd
  split
  · rcases held with found | ⟨task, member, same⟩
    · exact .inl found
    · exact .inr ⟨task, List.mem_append_left _ member, same⟩
  · exact held.addConfig _ _

/-- A load that is queued or succeeds makes its own identifier held. -/
theorem held_enqueue (queries : StoredQueryMap δ) {lib : Library δ}
    {constructs : StoredQueryConfig → Bool} {sqhConfig : StoredQueryConfig} {initialUpdate : Bool}
    (loads : (lib.backgroundInit = true ∧ initialUpdate = true) ∨ constructs sqhConfig = true) :
    (queries.enqueueQueryAdd lib constructs sqhConfig initialUpdate).queries.Held
      (asciiTolowerCopy sqhConfig.queryId) := by
  unfold enqueueQueryAdd
  split
  · exact .inr ⟨sqhConfig, List.mem_append_right _ List.mem_cons_self, rfl⟩
  · next synchronous =>
      rcases loads with queued | built
      · exact absurd queued synchronous
      · unfold StoredQueryMap.addConfig
        rw [if_pos built]
        exact held_addHandler queries ⟨sqhConfig⟩

/-- An erasure releases one identifier only. -/
theorem Held.erase (held : queries.Held key) {handlers : OrderedMap ByteString StoredQueryHandler}
    {erased : ByteString} (handlerMap : handlers = queries.handlerMap.erase erased)
    (kept : key = erased → ∃ task ∈ queries.initTasks, asciiTolowerCopy task.queryId = key) :
    { queries with handlerMap := handlers }.Held key := by
  rcases held with ⟨holder, found⟩ | pending
  · by_cases same : key = erased
    · exact .inr (kept same)
    · refine .inl ⟨holder, ?_⟩
      change handlers.find key = some holder
      rw [handlerMap, OrderedMap.find_erase_ne same, found]
  · exact .inr pending

/-- Adding a file releases nothing. -/
theorem AddOutcome.held {lib : Library δ} {scene : Scene} {fn : ByteString}
    {initialUpdate : Bool} {outcome : Outcome δ}
    (ended : AddOutcome lib scene queries fn initialUpdate outcome) (held : queries.Held key) :
    outcome.queries.Held key := by
  cases ended with
  | unnoticed unnoticed => exact held
  | unreadable stored notices unparsed => exact held
  | duplicate stored notices parsed holder => exact held
  | ignored stored notices parsed ignored => exact held
  | @enqueued content declaration stored notices parsed free enabled =>
      have start : { queries.remember lib fn content with
        duplicate := queries.duplicate.erase fn }.Held key := held
      exact start.enqueue _ _ _ _

/-- An added file has its identifier held when it is noticed and can be loaded. -/
theorem AddOutcome.covers {lib : Library δ} {scene : Scene} {fn content : ByteString}
    {initialUpdate : Bool} {outcome : Outcome δ} {declaration : Declaration}
    (ended : AddOutcome lib scene queries fn initialUpdate outcome)
    (holds : scene.files fn = some content) (parses : lib.parseConfig content = some declaration)
    (enabled : shouldBeIgnored lib declaration = false)
    (loads : ¬ queries.Held (asciiTolowerCopy declaration.queryId) →
      queries.Notices lib fn content ∧
        ((lib.backgroundInit = true ∧ initialUpdate = true) ∨
          scene.constructs ⟨fn, content, declaration⟩ = true)) :
    outcome.queries.Held (asciiTolowerCopy declaration.queryId) := by
  by_cases held : queries.Held (asciiTolowerCopy declaration.queryId)
  · exact ended.held held
  · obtain ⟨noticed, loads⟩ := loads held
    cases ended with
    | unnoticed unnoticed => exact absurd noticed (unnoticed content holds)
    | unreadable stored notices unparsed =>
        cases holds.symm.trans stored
        cases unparsed.symm.trans parses
    | duplicate stored notices parsed holder =>
        cases holds.symm.trans stored
        cases parses.symm.trans parsed
        exact .inl (Option.isSome_iff_exists.mp holder)
    | ignored stored notices parsed ignored =>
        cases holds.symm.trans stored
        cases parses.symm.trans parsed
        cases enabled.symm.trans ignored
    | enqueued stored notices parsed free enabled =>
        cases holds.symm.trans stored
        cases parses.symm.trans parsed
        exact held_enqueue _ loads

/-- Handling a modification keeps what it does not release. -/
theorem ModifyOutcome.held {lib : Library δ} {scene : Scene} {fn content : ByteString}
    {outcome : Outcome δ} (ended : ModifyOutcome lib scene queries fn outcome)
    (holds : scene.files fn = some content) (held : queries.Held key)
    (kept : Releases lib scene.constructs queries (.modify fn content) key →
      ∃ task ∈ queries.initTasks, asciiTolowerCopy task.queryId = key) :
    outcome.queries.Held key := by
  cases ended with
  | unnoticed unnoticed => exact held
  | unreadable stored notices unparsed => exact held
  | @ignored stored_content declaration after stored notices parsed ignored outcome =>
      cases holds.symm.trans stored
      cases outcome with
      | nothing free => exact held
      | reload holder foreign => exact held
      | @removed handler holder own =>
          have start : { queries.remember lib fn content with
            duplicate := queries.duplicate.erase fn }.Held key := held
          refine start.erase rfl ?_
          rintro rfl
          exact kept ⟨notices, declaration, parsed, .inl ⟨ignored, rfl, handler, holder, own⟩⟩
  | @replaced stored_content declaration after stored notices parsed enabled outcome =>
      cases holds.symm.trans stored
      cases outcome with
      | reload holder foreign => exact held
      | failed unbuilt own => exact held
      | added built own =>
          have start : (queries.remember lib fn content).Held key := held
          exact start.addHandler _
      | @renamed handler built old free =>
          have start : (queries.remember lib fn content).Held key := held
          refine (start.addHandler ⟨⟨fn, content, declaration⟩⟩).erase rfl fun same => ?_
          exact kept ⟨notices, declaration, parsed,
            .inr ⟨enabled, built, free, handler, old, same⟩⟩

/-- A modified file has its identifier held when it is noticed and can be loaded. -/
theorem ModifyOutcome.covers {lib : Library δ} {scene : Scene} {fn content : ByteString}
    {outcome : Outcome δ} {declaration : Declaration}
    (ended : ModifyOutcome lib scene queries fn outcome)
    (keyed : Keyed queries.handlerMap) (holds : scene.files fn = some content)
    (parses : lib.parseConfig content = some declaration)
    (enabled : shouldBeIgnored lib declaration = false)
    (loads : ¬ queries.Held (asciiTolowerCopy declaration.queryId) →
      queries.Notices lib fn content ∧ scene.constructs ⟨fn, content, declaration⟩ = true) :
    outcome.queries.Held (asciiTolowerCopy declaration.queryId) := by
  cases ended with
  | unnoticed unnoticed =>
      by_contra lost
      exact unnoticed content holds (loads lost).1
  | unreadable stored notices unparsed =>
      cases holds.symm.trans stored
      cases unparsed.symm.trans parses
  | ignored stored notices parsed ignored outcome =>
      cases holds.symm.trans stored
      cases parses.symm.trans parsed
      cases enabled.symm.trans ignored
  | replaced stored notices parsed enabled outcome =>
      cases holds.symm.trans stored
      cases parses.symm.trans parsed
      cases outcome with
      | reload holder foreign => exact .inl (Option.isSome_iff_exists.mp holder)
      | failed unbuilt own =>
          by_contra lost
          cases unbuilt.symm.trans (loads lost).2
      | added built own => exact held_addHandler _ _
      | @renamed handler built old free =>
          refine (held_addHandler (queries.remember lib fn content)
            ⟨⟨fn, content, declaration⟩⟩).erase rfl fun same => ?_
          -- The old identifier has a handler, the new one has none yet.
          obtain ⟨oldKey, oldFound, _⟩ := getHandlerByFileName_some old
          have oldName : oldKey = asciiTolowerCopy handler.queryName :=
            keyed oldKey handler oldFound
          have spelt : handler.queryName = asciiTolowerCopy declaration.queryId := same.symm
          rw [spelt, asciiTolowerCopy_idempotent] at oldName
          rw [oldName] at oldFound
          cases free.symm.trans oldFound

/-- A removal leaves what is held unless it releases the key. -/
theorem handleQueryRemove_held (held : queries.Held key) {fn : ByteString}
    {lib : Library δ} {constructs : StoredQueryConfig → Bool}
    (kept : Releases lib constructs queries (.delete fn) key →
      ∃ task ∈ queries.initTasks, asciiTolowerCopy task.queryId = key) :
    (queries.handleQueryRemove fn).Held key := by
  cases byFile : queries.getHandlerByFileName fn with
  | none =>
      rw [handleQueryRemove_of_none byFile]
      exact held
  | some handler =>
      rw [handleQueryRemove_of_some byFile]
      have start : { queries.removeFileHash fn with
        duplicate := queries.duplicate.erase fn }.Held key := held
      refine start.erase rfl fun same => ?_
      exact kept ⟨handler, byFile, same⟩

/-- A handler is set under its own key. -/
theorem Keyed.set {handlers : OrderedMap ByteString StoredQueryHandler} (keyed : Keyed handlers)
    (handler : StoredQueryHandler) :
    Keyed (handlers.set (asciiTolowerCopy handler.queryName) handler) := by
  intro key holder found
  rw [OrderedMap.find_set] at found
  split at found
  · next same =>
      cases found
      exact same
  · exact keyed key holder found

/-- Handlers that stay are under their own keys. -/
theorem Keyed.erase {handlers : OrderedMap ByteString StoredQueryHandler} (keyed : Keyed handlers)
    (erased : ByteString) : Keyed (handlers.erase erased) := by
  intro key holder found
  rw [OrderedMap.find_erase] at found
  split at found
  · cases found
  · exact keyed key holder found

/-- A configuration is added under its own key. -/
theorem Keyed.addConfig (keyed : Keyed queries.handlerMap) (constructs : StoredQueryConfig → Bool)
    (sqhConfig : StoredQueryConfig) :
    Keyed (queries.addConfig constructs sqhConfig).queries.handlerMap := by
  unfold StoredQueryMap.addConfig
  split
  · exact keyed.set ⟨sqhConfig⟩
  · exact keyed

/-- An addition keeps the handlers under their keys. -/
theorem AddOutcome.keyed {lib : Library δ} {scene : Scene} {fn : ByteString}
    {initialUpdate : Bool} {outcome : Outcome δ}
    (ended : AddOutcome lib scene queries fn initialUpdate outcome)
    (keyed : Keyed queries.handlerMap) : Keyed outcome.queries.handlerMap := by
  cases ended with
  | unnoticed unnoticed => exact keyed
  | unreadable stored notices unparsed => exact keyed
  | duplicate stored notices parsed holder => exact keyed
  | ignored stored notices parsed ignored => exact keyed
  | @enqueued content declaration stored notices parsed free enabled =>
      unfold enqueueQueryAdd
      split
      · exact keyed
      · have start : Keyed { queries.remember lib fn content with
          duplicate := queries.duplicate.erase fn }.handlerMap := keyed
        exact start.addConfig _ _

/-- A modification keeps the handlers under their keys. -/
theorem ModifyOutcome.keyed {lib : Library δ} {scene : Scene} {fn : ByteString}
    {outcome : Outcome δ} (ended : ModifyOutcome lib scene queries fn outcome)
    (keyed : Keyed queries.handlerMap) : Keyed outcome.queries.handlerMap := by
  cases ended with
  | unnoticed unnoticed => exact keyed
  | unreadable stored notices unparsed => exact keyed
  | ignored stored notices parsed ignored outcome =>
      cases outcome with
      | nothing free => exact keyed
      | reload holder foreign => exact keyed
      | removed holder own => exact keyed.erase _
  | replaced stored notices parsed enabled outcome =>
      cases outcome with
      | reload holder foreign => exact keyed
      | failed unbuilt own => exact keyed
      | added built own => exact keyed.set _
      | renamed built old free => exact (keyed.set _).erase _

/-- A removal keeps the handlers under their keys. -/
theorem handleQueryRemove_keyed (keyed : Keyed queries.handlerMap) (fn : ByteString) :
    Keyed (queries.handleQueryRemove fn).handlerMap := by
  unfold handleQueryRemove
  dsimp only
  split
  · exact keyed.erase _
  · exact keyed

end StoredQueryMap

open StoredQueryMap

/-- A configuration file whose new identifier nobody holds is noticed and can be loaded,
and nothing else declares an identifier that the event releases. A task that finishes
constructs its handler, or else its identifier is not needed. -/
def KeepsServing (lib : Library δ) (constructs : StoredQueryConfig → Bool) (world : World δ) :
    Step → Prop
  | .event event initialUpdate => isConfigName event.fileName = true →
      (∀ content declaration, event.content = some content →
        lib.parseConfig content = some declaration → shouldBeIgnored lib declaration = false →
        ¬ world.queries.Held (asciiTolowerCopy declaration.queryId) →
          world.queries.Notices lib event.fileName content ∧
            ((event.change = .create ∧ lib.backgroundInit = true ∧ initialUpdate = true) ∨
              constructs ⟨event.fileName, content, declaration⟩ = true)) ∧
      ∀ key, Releases lib constructs world.queries event key → ∀ fn, fn ≠ event.fileName →
        isConfigName fn = true → Declares lib world.files fn key →
          ∃ task ∈ world.queries.initTasks, asciiTolowerCopy task.queryId = key
  | .retry => True
  | .task task => constructs task = true ∨ ∀ fn, isConfigName fn = true →
      Declares lib world.files fn (asciiTolowerCopy task.queryId) →
        { world.queries with initTasks := world.queries.initTasks.erase task }.Held
          (asciiTolowerCopy task.queryId)

namespace World

/-- Every identifier that a configuration file declares is held. -/
structure Served (lib : Library δ) (world : World δ) : Prop where
  remembers : Remembers lib world
  keyed : Keyed world.queries.handlerMap
  held : ∀ fn key, isConfigName fn = true → Declares lib world.files fn key →
    world.queries.Held key

omit [DecidableEq δ] in
/-- At the start there is no file to serve. -/
theorem served_initial (lib : Library δ) : Served lib (initial : World δ) :=
  ⟨remembers_initial lib, nofun, fun _ _ _ ⟨_, _, stored, _⟩ => nomatch stored⟩

omit [DecidableEq δ] in
/-- After an event everything declared is held if the changed file has its identifier
held and no other file loses its own. -/
theorem Served.after_event {lib : Library δ} {world : World δ} (served : Served lib world)
    {event : FileEvent} {after : StoredQueryMap δ}
    (own : ∀ content declaration, event.content = some content →
      lib.parseConfig content = some declaration → shouldBeIgnored lib declaration = false →
        after.Held (asciiTolowerCopy declaration.queryId))
    (others : ∀ fn key, fn ≠ event.fileName → isConfigName fn = true →
      Declares lib world.files fn key → world.queries.Held key → after.Held key) :
    ∀ fn key, isConfigName fn = true → Declares lib (event.apply world.files) fn key →
      after.Held key := by
  intro fn key named declares
  by_cases same : fn = event.fileName
  · subst same
    obtain ⟨content, declaration, stored, parsed, enabled, rfl⟩ := declares
    rw [FileEvent.apply_self] at stored
    exact own content declaration stored parsed enabled
  · have before := declares.of_same_file (FileEvent.apply_ne same world.files).symm
    exact others fn key same named before (served.held fn key named before)

/-- One step keeps everything declared held. -/
theorem Served.next {lib : Library δ} {world : World δ} (served : Served lib world)
    {constructs : StoredQueryConfig → Bool} {step : Step}
    (keeps : KeepsServing lib constructs world step) :
    Served lib (world.next lib constructs step) := by
  have remembers := served.remembers.next constructs step
  cases step with
  | event event initialUpdate =>
      cases configName : isConfigName event.fileName with
      | false =>
          rw [next_otherName constructs initialUpdate configName] at remembers ⊢
          refine ⟨remembers, served.keyed, fun fn key named declares => ?_⟩
          have other : fn ≠ event.fileName := by
            rintro rfl
            cases configName.symm.trans named
          exact served.held fn key named
            (declares.of_same_file (FileEvent.apply_ne other world.files).symm)
      | true =>
          obtain ⟨loads, releases⟩ := keeps configName
          cases event with
          | create fn content =>
              have named : isConfigName fn = true := configName
              rw [next_create constructs initialUpdate named] at remembers ⊢
              have holds : (FileEvent.create fn content).apply world.files fn = some content :=
                (FileEvent.create fn content).apply_self world.files
              have outcome := handleQueryAdd_outcome lib
                ⟨(FileEvent.create fn content).apply world.files, constructs⟩ world.queries fn
                initialUpdate
              refine ⟨remembers, outcome.keyed served.keyed, served.after_event
                (fun content' declaration same parsed enabled => ?_)
                fun name key _ _ _ held => outcome.held held⟩
              cases same
              refine outcome.covers holds parsed enabled fun free => ?_
              exact (loads content declaration rfl parsed enabled free).imp_right
                fun loaded => loaded.imp_left And.right
          | modify fn content =>
              have named : isConfigName fn = true := configName
              rw [next_modify constructs initialUpdate named] at remembers ⊢
              have holds : (FileEvent.modify fn content).apply world.files fn = some content :=
                (FileEvent.modify fn content).apply_self world.files
              have outcome := handleQueryModify_outcome lib
                ⟨(FileEvent.modify fn content).apply world.files, constructs⟩ world.queries fn
              refine ⟨remembers, outcome.keyed served.keyed, served.after_event
                (fun content' declaration same parsed enabled => ?_)
                fun name key other configFile declares held => ?_⟩
              · cases same
                refine outcome.covers served.keyed holds parsed enabled fun free => ?_
                obtain ⟨noticed, created | built⟩ :=
                  loads content declaration rfl parsed enabled free
                · cases created.1
                · exact ⟨noticed, built⟩
              · exact outcome.held holds held fun released =>
                  releases key released name other configFile declares
          | delete fn =>
              have named : isConfigName fn = true := configName
              rw [next_delete constructs initialUpdate named] at remembers ⊢
              refine ⟨remembers, handleQueryRemove_keyed served.keyed fn, served.after_event
                (fun content declaration same => nomatch same)
                fun name key other configFile declares held => ?_⟩
              exact handleQueryRemove_held held fun released =>
                releases key released name other configFile declares
  | retry =>
      rw [World.next, served.remembers.retryDuplicates]
      exact served
  | task task =>
      have start : Keyed { world.queries with
        initTasks := world.queries.initTasks.erase task }.handlerMap := served.keyed
      refine ⟨remembers, start.addConfig constructs task, fun fn key named declares => ?_⟩
      change (world.queries.runTask constructs task).Held key
      unfold runTask
      by_cases own : key = asciiTolowerCopy task.queryId
      · subst own
        rcases keeps with built | unneeded
        · rw [StoredQueryMap.addConfig, if_pos built]
          exact held_addHandler _ ⟨task⟩
        · exact (unneeded fn named declares).addConfig _ _
      · have kept : { world.queries with
            initTasks := world.queries.initTasks.erase task }.Held key := by
          rcases served.held fn key named declares with found | ⟨other, member, same⟩
          · exact .inl found
          · refine .inr ⟨other, (List.mem_erase_of_ne ?_).mpr member, same⟩
            rintro rfl
            exact own same.symm
        exact kept.addConfig _ _

/-- In every run whose steps keep serving what is declared, every world reached with no
task pending has a complete handler map; a retry of the duplicates need not come last. -/
theorem handlerMap_complete (lib : Library δ) {world : World δ}
    (reaches : Reaches lib (KeepsServing lib) world) (finished : world.queries.initTasks = []) :
    Complete lib world.files world.queries.handlerMap := by
  have served : Served lib world := by
    apply reaches.invariant (served_initial lib)
    intro constructs world step served possible keeps
    exact served.next keeps
  intro fn key named declares own
  rcases served.held fn key named declares with ⟨handler, found⟩ | ⟨task, member, _⟩
  · exact ⟨handler, found, own handler found⟩
  · rw [finished] at member
    cases member

/-! ### A file among others -/

/-- A second file is created, for another identifier. -/
def pairStep : Step := .event (.create (ascii "b.conf") (configText (ascii "bar"))) false

/-- The first file is deleted. -/
def deleteStep : Step := .event (.delete (ascii "a.conf")) false

/-- Two files for two identifiers. -/
def pairWorld : World ByteString :=
  (createdWorld (ascii "foo")).next sampleLibrary (fun _ => true) pairStep

/-- Only the second file is left. -/
def leftWorld : World ByteString := pairWorld.next sampleLibrary (fun _ => true) deleteStep

/-- A created file is noticed, and its handler is constructed. -/
theorem keepsServing_create {world : World ByteString} {fn id : ByteString}
    (notices : world.queries.Notices sampleLibrary fn (configText id)) :
    KeepsServing sampleLibrary (fun _ => true) world
      (.event (.create fn (configText id)) false) := by
  refine fun _ => ⟨?_, nofun⟩
  rintro _ declaration ⟨rfl⟩ _ _ _
  exact ⟨notices, .inr rfl⟩

/-- Deleting the first file releases an identifier that the second one does not declare. -/
theorem keepsServing_delete :
    KeepsServing sampleLibrary (fun _ => true) pairWorld deleteStep := by
  refine fun _ => ⟨nofun, ?_⟩
  rintro key ⟨handler, found, rfl⟩ fn differs _ ⟨content, declaration, stored, parsed, _, same⟩
  have holder : (pairWorld.queries.getHandlerByFileName (ascii "a.conf")).map
      StoredQueryHandler.queryName = some (ascii "foo") := by decide +kernel
  rw [found] at holder
  rw [Option.some.inj holder] at same
  by_cases second : fn = ascii "b.conf"
  · subst second
    have content_eq : pairWorld.files (ascii "b.conf") = some (configText (ascii "bar")) := rfl
    cases content_eq.symm.trans stored
    rw [parseConfig_configText (by decide)] at parsed
    cases parsed
    exact absurd same (by decide)
  · have missing : pairWorld.files fn = none := by
      change FileEvent.apply (.create (ascii "b.conf") _)
        (FileEvent.apply (.create (ascii "a.conf") _) _) fn = none
      rw [FileEvent.apply_ne second]
      exact @FileEvent.apply_ne (.create (ascii "a.conf") (configText (ascii "foo"))) fn differs _
    cases missing.symm.trans stored

/-- The second file is loaded. -/
theorem handlerMap_complete_sample :
    (∃ handler, leftWorld.queries.handlerMap.find (ascii "bar") = some handler) ∧
      Complete sampleLibrary leftWorld.files leftWorld.queries.handlerMap := by
  have created : Moves sampleLibrary (KeepsServing sampleLibrary) initial
      (createdWorld (ascii "foo")) :=
    ⟨fun _ => true, createStep (ascii "foo"), ⟨rfl, rfl⟩,
      keepsServing_create ⟨by decide +kernel, nofun⟩, rfl⟩
  have second : Moves sampleLibrary (KeepsServing sampleLibrary) (createdWorld (ascii "foo"))
      pairWorld :=
    ⟨fun _ => true, pairStep, ⟨by decide +kernel, by decide +kernel⟩,
      keepsServing_create ⟨by decide +kernel, by decide +kernel⟩, rfl⟩
  have deleted : Moves sampleLibrary (KeepsServing sampleLibrary) pairWorld leftWorld :=
    ⟨fun _ => true, deleteStep, ⟨by decide +kernel, by decide +kernel⟩, keepsServing_delete, rfl⟩
  exact ⟨Option.isSome_iff_exists.mp (by decide +kernel),
    handlerMap_complete sampleLibrary (((Relation.ReflTransGen.single created).tail second).tail
      deleted) (by decide +kernel)⟩

/-! ### A refused duplicate -/

/-- A second file with the identifier of the first. -/
def secondStep : Step := .event (.create (ascii "b.conf") (configText (ascii "foo"))) false

/-- A file was refused as a duplicate. -/
def refusedWorld : World ByteString :=
  (createdWorld (ascii "foo")).next sampleLibrary (fun _ => true) secondStep

/-- The first file is deleted. -/
def releasedWorld : World ByteString :=
  refusedWorld.next sampleLibrary (fun _ => true) deleteStep

/-- The retry after the other one is gone. -/
def retriedWorld : World ByteString := releasedWorld.next sampleLibrary (fun _ => true) .retry

/-- The file is still refused. -/
theorem retriedWorld_state :
    retriedWorld.files (ascii "b.conf") = some (configText (ascii "foo")) ∧
      retriedWorld.queries.duplicate.keys = [ascii "b.conf"] ∧
      retriedWorld.queries.handlerMap.entries = [] := by
  decide +kernel

/-- A file that was refused as a duplicate is not loaded after the file that held its
identifier has been deleted and the duplicates have been retried. -/
theorem refused_duplicate_not_loaded :
    Reaches sampleLibrary (fun constructs _ step =>
      ReadSucceeds sampleLibrary step ∧ ∀ config, constructs config = true) retriedWorld ∧
      retriedWorld.queries.reloadRequired = false ∧ retriedWorld.queries.initTasks = [] ∧
      ¬ Complete sampleLibrary retriedWorld.files retriedWorld.queries.handlerMap := by
  have readSecond : ReadSucceeds sampleLibrary secondStep := by
    intro _ _ reported
    cases reported
    rw [parseConfig_configText (by decide)]
    exact ⟨configText_short (by decide), rfl⟩
  have created : Moves sampleLibrary (fun constructs _ step =>
      ReadSucceeds sampleLibrary step ∧ ∀ config, constructs config = true) initial
      (createdWorld (ascii "foo")) :=
    ⟨fun _ => true, createStep (ascii "foo"), ⟨rfl, rfl⟩,
      ⟨readSucceeds_configText (by decide) (by decide) (.inl rfl), fun _ => rfl⟩, rfl⟩
  have refused : Moves sampleLibrary (fun constructs _ step =>
      ReadSucceeds sampleLibrary step ∧ ∀ config, constructs config = true)
      (createdWorld (ascii "foo")) refusedWorld :=
    ⟨fun _ => true, secondStep, ⟨by decide +kernel, by decide +kernel⟩,
      ⟨readSecond, fun _ => rfl⟩, rfl⟩
  have released : Moves sampleLibrary (fun constructs _ step =>
      ReadSucceeds sampleLibrary step ∧ ∀ config, constructs config = true)
      refusedWorld releasedWorld :=
    ⟨fun _ => true, deleteStep, ⟨by decide +kernel, by decide +kernel⟩,
      ⟨nofun, fun _ => rfl⟩, rfl⟩
  have retried : Moves sampleLibrary (fun constructs _ step =>
      ReadSucceeds sampleLibrary step ∧ ∀ config, constructs config = true)
      releasedWorld retriedWorld :=
    ⟨fun _ => true, .retry, trivial, ⟨trivial, fun _ => rfl⟩, rfl⟩
  obtain ⟨stored, _, entries⟩ := retriedWorld_state
  have noHandler : ∀ key handler, retriedWorld.queries.handlerMap.find key ≠ some handler := by
    intro key handler found
    have member := OrderedMap.find_eq_some.mp found
    rw [entries] at member
    cases member
  refine ⟨(((Relation.ReflTransGen.single created).tail refused).tail released).tail retried,
    by decide +kernel, by decide +kernel, fun complete => ?_⟩
  obtain ⟨handler, found, _⟩ := complete (ascii "b.conf") (ascii "foo") (by decide)
    ⟨_, _, stored, parseConfig_configText (by decide), rfl, by decide⟩
    fun handler found => absurd found (noHandler _ _)
  exact noHandler _ _ found

end World

end SmartMetWfs.QueryMap
