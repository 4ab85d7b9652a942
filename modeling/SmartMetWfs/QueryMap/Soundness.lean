import SmartMetWfs.QueryMap.World

/-!
# Soundness of the handler map

A handler map is sound over the files on disk when each handler stands under the
identifier that its file declares now, and no file has two handlers. Adding a
handler for the file that changed, erasing a handler and changing a file without
handlers keep a map sound.

A modification that gives a loaded file another identifier is the one event that can
break soundness: the old handler is found under its old identifier only when that is
spelt in lower case, and only once the new handler has been constructed; a file that
is disabled in the same change is not looked up by name at all.
-/

namespace SmartMetWfs.QueryMap

open Foundation

variable {δ : Type} [DecidableEq δ]

/-- The file declares the identifier, and is neither disabled nor ignored. -/
def Declares (lib : Library δ) (files : ByteString → Option ByteString) (fn key : ByteString) :
    Prop :=
  ∃ content declaration, files fn = some content ∧
    lib.parseConfig content = some declaration ∧
    StoredQueryMap.shouldBeIgnored lib declaration = false ∧
    asciiTolowerCopy declaration.queryId = key

omit [DecidableEq δ] in
/-- A file declares one identifier at most. -/
theorem Declares.unique {lib : Library δ} {files : ByteString → Option ByteString}
    {fn key key' : ByteString} (declares : Declares lib files fn key)
    (declares' : Declares lib files fn key') : key = key' := by
  obtain ⟨content, declaration, stored, parsed, _, rfl⟩ := declares
  obtain ⟨content', declaration', stored', parsed', _, rfl⟩ := declares'
  cases stored.symm.trans stored'
  cases parsed.symm.trans parsed'
  rfl

omit [DecidableEq δ] in
/-- A file declares what it did while it is the same. -/
theorem Declares.of_same_file {lib : Library δ} {files files' : ByteString → Option ByteString}
    {fn key : ByteString} (declares : Declares lib files fn key) (same : files' fn = files fn) :
    Declares lib files' fn key := by
  obtain ⟨content, declaration, stored, rest⟩ := declares
  exact ⟨content, declaration, same.trans stored, rest⟩

/-- A configuration as the parser made it from a configuration file. -/
structure StoredQueryConfig.Built (lib : Library δ) (config : StoredQueryConfig) : Prop where
  named : isConfigName config.fileName = true
  parsed : lib.parseConfig config.content = some config.declaration

/-- Every handler was built from a file that now declares the identifier under which
the handler is found, and no file has two handlers. -/
structure Sound (lib : Library δ) (files : ByteString → Option ByteString)
    (handlers : OrderedMap ByteString StoredQueryHandler) : Prop where
  built : ∀ key handler, handlers.find key = some handler → handler.config.Built lib
  keyed : ∀ key handler, handlers.find key = some handler →
    key = asciiTolowerCopy handler.queryName
  declared : ∀ key handler, handlers.find key = some handler →
    Declares lib files handler.config.fileName key
  single : ∀ key key' handler handler', handlers.find key = some handler →
    handlers.find key' = some handler' →
    handler.config.fileName = handler'.config.fileName → key = key'

namespace Sound

variable {lib : Library δ} {files files' : ByteString → Option ByteString}
  {handlers : OrderedMap ByteString StoredQueryHandler} {fn : ByteString}

omit [DecidableEq δ]

/-- Without handlers everything is sound. -/
theorem empty (lib : Library δ) (files : ByteString → Option ByteString) :
    Sound lib files .empty :=
  ⟨nofun, nofun, nofun, nofun⟩

/-- A file may change as long as it goes on declaring what it is found under. -/
theorem change_file (sound : Sound lib files handlers)
    (others : ∀ name, name ≠ fn → files' name = files name)
    (own : ∀ key handler, handlers.find key = some handler → handler.config.fileName = fn →
      Declares lib files' fn key) : Sound lib files' handlers where
  built := sound.built
  keyed := sound.keyed
  declared key handler found := by
    by_cases same : handler.config.fileName = fn
    · rw [same]
      exact own key handler found same
    · exact (sound.declared key handler found).of_same_file (others _ same)
  single := sound.single

/-- A handler that is removed leaves the others sound. -/
theorem erase (sound : Sound lib files handlers) (key : ByteString) :
    Sound lib files (handlers.erase key) := by
  have kept : ∀ name handler, (handlers.erase key).find name = some handler →
      handlers.find name = some handler := by
    intro name handler found
    rw [OrderedMap.find_erase] at found
    split at found
    · cases found
    · exact found
  exact ⟨fun name handler found => sound.built name handler (kept _ _ found),
    fun name handler found => sound.keyed name handler (kept _ _ found),
    fun name handler found => sound.declared name handler (kept _ _ found),
    fun name name' handler handler' found found' =>
      sound.single name name' handler handler' (kept _ _ found) (kept _ _ found')⟩

/-- A handler for the file that changed replaces whatever the file had. -/
theorem set (sound : Sound lib files handlers)
    (others : ∀ name, name ≠ fn → files' name = files name) {config : StoredQueryConfig}
    (built : config.Built lib) (ofFile : config.fileName = fn)
    (declares : Declares lib files' fn (asciiTolowerCopy config.queryId))
    (own : ∀ key handler, handlers.find key = some handler → handler.config.fileName = fn →
      key = asciiTolowerCopy config.queryId) :
    Sound lib files' (handlers.set (asciiTolowerCopy config.queryId) ⟨config⟩) := by
  have cases_found : ∀ {key handler},
      (handlers.set (asciiTolowerCopy config.queryId) ⟨config⟩).find key = some handler →
        (key = asciiTolowerCopy config.queryId ∧ handler = ⟨config⟩) ∨
        (key ≠ asciiTolowerCopy config.queryId ∧ handlers.find key = some handler ∧
          handler.config.fileName ≠ fn) := by
    intro key handler found
    rw [OrderedMap.find_set] at found
    split at found
    · next same => exact .inl ⟨same, (Option.some.inj found).symm⟩
    · next other =>
        exact .inr ⟨other, found, fun ofFile => other (own key handler found ofFile)⟩
  refine ⟨fun key handler found => ?_, fun key handler found => ?_, fun key handler found => ?_,
    fun key key' handler handler' found found' sameFile => ?_⟩
  · rcases cases_found found with ⟨rfl, rfl⟩ | ⟨_, old, _⟩
    · exact built
    · exact sound.built key handler old
  · rcases cases_found found with ⟨rfl, rfl⟩ | ⟨_, old, _⟩
    · rfl
    · exact sound.keyed key handler old
  · rcases cases_found found with ⟨rfl, rfl⟩ | ⟨_, old, otherFile⟩
    · exact ofFile ▸ declares
    · exact (sound.declared key handler old).of_same_file (others _ otherFile)
  · rcases cases_found found with ⟨rfl, rfl⟩ | ⟨_, old, otherFile⟩
    · rcases cases_found found' with ⟨rfl, rfl⟩ | ⟨_, old', otherFile'⟩
      · rfl
      · exact absurd (sameFile.symm.trans ofFile) otherFile'
    · rcases cases_found found' with ⟨rfl, rfl⟩ | ⟨_, old', otherFile'⟩
      · exact absurd (sameFile.trans ofFile) otherFile
      · exact sound.single key key' handler handler' old old' sameFile

end Sound

namespace StoredQueryMap

omit [DecidableEq δ]

/-- A handler that is found by its file is in the map. -/
theorem getHandlerByFileName_some {queries : StoredQueryMap δ} {fn : ByteString}
    {handler : StoredQueryHandler} (found : queries.getHandlerByFileName fn = some handler) :
    ∃ key, queries.handlerMap.find key = some handler ∧ handler.config.fileName = fn := by
  obtain ⟨entry, located, rfl⟩ := Option.map_eq_some_iff.mp found
  refine ⟨entry.1, OrderedMap.find_eq_some.mpr (List.mem_of_find?_eq_some located), ?_⟩
  simpa using List.find?_some located

/-- Where none is found no handler is of the file. -/
theorem getHandlerByFileName_none {queries : StoredQueryMap δ} {fn : ByteString}
    (missing : queries.getHandlerByFileName fn = none) {key : ByteString}
    {handler : StoredQueryHandler} (found : queries.handlerMap.find key = some handler) :
    handler.config.fileName ≠ fn := by
  have located := List.find?_eq_none.mp (Option.map_eq_none_iff.mp missing)
  simpa using located _ (OrderedMap.find_eq_some.mp found)

/-- A file without handlers may be added. -/
theorem AddOutcome.sound {lib : Library δ} {scene : Scene} {queries : StoredQueryMap δ}
    {fn : ByteString} {initialUpdate : Bool} {outcome : Outcome δ}
    (ended : AddOutcome lib scene queries fn initialUpdate outcome)
    (sound : Sound lib scene.files queries.handlerMap) (named : isConfigName fn = true)
    (absent : ∀ key handler, queries.handlerMap.find key = some handler →
      handler.config.fileName ≠ fn) :
    Sound lib scene.files outcome.queries.handlerMap := by
  cases ended with
  | unnoticed unnoticed => exact sound
  | unreadable stored notices unparsed => exact sound
  | duplicate stored notices parsed held => exact sound
  | ignored stored notices parsed ignored => exact sound
  | @enqueued content declaration stored notices parsed free enabled =>
      unfold enqueueQueryAdd
      split
      · exact sound
      · unfold addConfig
        split
        · have others : ∀ name, name ≠ fn → scene.files name = scene.files name := fun _ _ => rfl
          refine sound.set others ⟨named, parsed⟩ rfl
            ⟨content, declaration, stored, parsed, enabled, rfl⟩ fun key handler found ofFile => ?_
          exact absurd ofFile (absent key handler found)
        · exact sound

/-- A modified file may be ignored when it still declares the identifier under which
it is found. -/
theorem IgnoreOutcome.sound {lib : Library δ} {files files' : ByteString → Option ByteString}
    {queries after : StoredQueryMap δ} {sqhConfig : StoredQueryConfig}
    (ended : IgnoreOutcome queries sqhConfig after) (sound : Sound lib files queries.handlerMap)
    (others : ∀ name, name ≠ sqhConfig.fileName → files' name = files name)
    (keeps : ∀ key handler, queries.handlerMap.find key = some handler →
      handler.config.fileName = sqhConfig.fileName → asciiTolowerCopy sqhConfig.queryId = key)
    (noReload : after.reloadRequired = false) :
    Sound lib files' after.handlerMap := by
  cases ended with
  | nothing free =>
      refine sound.change_file others fun key handler found ofFile => ?_
      rw [← keeps key handler found ofFile] at found
      cases free.symm.trans found
  | removed held own =>
      refine (sound.erase _).change_file others fun key handler found ofFile => ?_
      rw [OrderedMap.find_erase] at found
      split at found
      · cases found
      · next other => exact absurd (keeps key handler found ofFile).symm other
  | reload held foreign => cases noReload

/-- A modified file may be loaded when it keeps its identifier, or when its handler is
constructed and its old identifier is spelt in lower case. -/
theorem ReplaceOutcome.sound {lib : Library δ} {constructs : StoredQueryConfig → Bool}
    {files files' : ByteString → Option ByteString} {queries : StoredQueryMap δ}
    {sqhConfig : StoredQueryConfig} {outcome : Outcome δ}
    (ended : ReplaceOutcome constructs queries sqhConfig outcome)
    (sound : Sound lib files queries.handlerMap)
    (others : ∀ name, name ≠ sqhConfig.fileName → files' name = files name)
    (built : sqhConfig.Built lib)
    (declares : Declares lib files' sqhConfig.fileName (asciiTolowerCopy sqhConfig.queryId))
    (keeps : ∀ key handler, queries.handlerMap.find key = some handler →
      handler.config.fileName = sqhConfig.fileName →
        asciiTolowerCopy sqhConfig.queryId = key ∨
        (constructs sqhConfig = true ∧ asciiTolowerCopy handler.queryName = handler.queryName))
    (noReload : outcome.queries.reloadRequired = false) :
    Sound lib files' outcome.queries.handlerMap := by
  cases ended with
  | reload held foreign => cases noReload
  | failed unbuilt own =>
      refine sound.change_file others fun key handler found ofFile => ?_
      rcases keeps key handler found ofFile with same | ⟨constructed, _⟩
      · exact same ▸ declares
      · cases unbuilt.symm.trans constructed
  | added constructed own =>
      refine sound.set others built rfl declares fun key handler found ofFile => ?_
      -- The file has a handler, which is then the holder of the identifier.
      cases byFile : queries.getHandlerByFileName sqhConfig.fileName with
      | none => exact absurd ofFile (getHandlerByFileName_none byFile found)
      | some holder =>
          obtain ⟨_, _, holderFile⟩ := getHandlerByFileName_some byFile
          exact sound.single key _ handler holder found (own.symm.trans byFile)
            (ofFile.trans holderFile.symm)
  | @renamed old constructed byFile free =>
      obtain ⟨oldKey, oldFound, oldFile⟩ := getHandlerByFileName_some byFile
      have oldName : oldKey = asciiTolowerCopy old.queryName := sound.keyed oldKey old oldFound
      have moved : asciiTolowerCopy sqhConfig.queryId ≠ oldKey := by
        rintro rfl
        cases free.symm.trans oldFound
      have lowerCase : oldKey = old.config.queryId := by
        rcases keeps oldKey old oldFound oldFile with same | ⟨_, lower⟩
        · exact absurd same moved
        · exact oldName.trans lower
      -- Erasing the old identifier after the insertion is erasing it before.
      have swapped : (queries.addHandler ⟨sqhConfig⟩).handlerMap.erase old.config.queryId =
          (queries.handlerMap.erase oldKey).set (asciiTolowerCopy sqhConfig.queryId)
            ⟨sqhConfig⟩ := by
        rw [← lowerCase]
        exact OrderedMap.erase_set_comm moved _ _
      change Sound lib files' ((queries.addHandler ⟨sqhConfig⟩).handlerMap.erase old.config.queryId)
      rw [swapped]
      refine (sound.erase oldKey).set others built rfl declares fun key handler found ofFile => ?_
      rw [OrderedMap.find_erase] at found
      split at found
      · cases found
      · next other =>
          exact absurd (sound.single key oldKey handler old found oldFound
            (ofFile.trans oldFile.symm)) other

/-- Removing a file removes its handler. -/
theorem handleQueryRemove_sound {lib : Library δ} {files files' : ByteString → Option ByteString}
    {queries : StoredQueryMap δ} {fn : ByteString} (sound : Sound lib files queries.handlerMap)
    (others : ∀ name, name ≠ fn → files' name = files name) :
    Sound lib files' (queries.handleQueryRemove fn).handlerMap := by
  cases byFile : queries.getHandlerByFileName fn with
  | none =>
      rw [handleQueryRemove_of_none byFile]
      refine sound.change_file others fun key handler found ofFile => ?_
      exact absurd ofFile (getHandlerByFileName_none byFile found)
  | some old =>
      obtain ⟨oldKey, oldFound, oldFile⟩ := getHandlerByFileName_some byFile
      have oldName : oldKey = asciiTolowerCopy old.queryName := sound.keyed oldKey old oldFound
      rw [handleQueryRemove_of_some byFile]
      refine (sound.erase _).change_file others fun key handler found ofFile => ?_
      rw [OrderedMap.find_erase] at found
      split at found
      · cases found
      · next other =>
          have same := sound.single key oldKey handler old found oldFound
            (ofFile.trans oldFile.symm)
          exact absurd (same.trans oldName) other

/-! ### Queued tasks -/

/-- An addition queues tasks of the initial update only. -/
theorem AddOutcome.initTasks {lib : Library δ} {scene : Scene} {queries : StoredQueryMap δ}
    {fn : ByteString} {initialUpdate : Bool} {outcome : Outcome δ}
    (ended : AddOutcome lib scene queries fn initialUpdate outcome)
    (named : isConfigName fn = true) :
    ∀ task ∈ outcome.queries.initTasks, task ∈ queries.initTasks ∨ task.Built lib := by
  intro task member
  cases ended with
  | unnoticed unnoticed => exact .inl member
  | unreadable stored notices unparsed => exact .inl member
  | duplicate stored notices parsed held => exact .inl member
  | ignored stored notices parsed ignored => exact .inl member
  | enqueued stored notices parsed free enabled =>
      unfold enqueueQueryAdd addConfig at member
      split at member
      · rcases List.mem_append.mp member with old | new
        · exact .inl old
        · rw [List.mem_singleton.mp new]
          exact .inr ⟨named, parsed⟩
      · split at member <;> exact .inl member

/-- A modification queues no task. -/
theorem ModifyOutcome.initTasks {lib : Library δ} {scene : Scene} {queries : StoredQueryMap δ}
    {fn : ByteString} {outcome : Outcome δ}
    (ended : ModifyOutcome lib scene queries fn outcome) :
    outcome.queries.initTasks = queries.initTasks := by
  cases ended with
  | unnoticed unnoticed => rfl
  | unreadable stored notices unparsed => rfl
  | ignored stored notices parsed ignored outcome => cases outcome <;> rfl
  | replaced stored notices parsed enabled outcome => cases outcome <;> rfl

/-- A removal queues no task. -/
theorem handleQueryRemove_initTasks (queries : StoredQueryMap δ) (fn : ByteString) :
    (queries.handleQueryRemove fn).initTasks = queries.initTasks := by
  unfold handleQueryRemove
  dsimp only
  split <;> rfl

/-- A task that runs is taken off the queue. -/
theorem runTask_initTasks (constructs : StoredQueryConfig → Bool) (queries : StoredQueryMap δ)
    (task : StoredQueryConfig) :
    (queries.runTask constructs task).initTasks = queries.initTasks.erase task := by
  unfold runTask addConfig
  split <;> rfl

/-- A task that runs does not ask for a reload. -/
theorem runTask_reloadRequired (constructs : StoredQueryConfig → Bool)
    (queries : StoredQueryMap δ) (task : StoredQueryConfig) :
    (queries.runTask constructs task).reloadRequired = queries.reloadRequired := by
  unfold runTask addConfig
  split <;> rfl

end StoredQueryMap

/-- Created and modified configuration files can be read: they are small enough and
parse. -/
def ReadSucceeds (lib : Library δ) : Step → Prop
  | .event event _ => isConfigName event.fileName = true → ∀ content,
      event.content = some content →
        content.length < maxSize ∧ (lib.parseConfig content).isSome = true
  | _ => True

/-- A modification leaves each loaded file enabled under its identifier. Any other change
does not go unnoticed because of equal digests, and it disables the file under its
identifier or else leaves it enabled with a handler that can be constructed and an old
identifier in lower case. A task that finishes was made for what its file still
declares. -/
def KeepsIdentifier (lib : Library δ) (constructs : StoredQueryConfig → Bool) (world : World δ) :
    Step → Prop
  | .event (.modify fn content) _ =>
      ∀ key handler declaration, world.queries.handlerMap.find key = some handler →
        handler.config.fileName = fn → lib.parseConfig content = some declaration →
          (asciiTolowerCopy declaration.queryId = key ∧
            StoredQueryMap.shouldBeIgnored lib declaration = false) ∨
          ((∀ old, world.files fn = some old → lib.digest old = lib.digest content →
            old = content) ∧
            (asciiTolowerCopy declaration.queryId = key ∨
              (StoredQueryMap.shouldBeIgnored lib declaration = false ∧
                constructs ⟨fn, content, declaration⟩ = true ∧
                asciiTolowerCopy handler.queryName = handler.queryName)))
  | .task task => Declares lib world.files task.fileName (asciiTolowerCopy task.queryId)
  | _ => True

namespace World

/-- What soundness rests on along a run. -/
structure Settled (lib : Library δ) (world : World δ) : Prop where
  remembers : Remembers lib world
  short : ∀ fn content, isConfigName fn = true → world.files fn = some content →
    content.length < maxSize
  tasks : ∀ task ∈ world.queries.initTasks, task.Built lib
  sound : world.queries.reloadRequired = false →
    Sound lib world.files world.queries.handlerMap

omit [DecidableEq δ] in
/-- At the start nothing is pending. -/
theorem settled_initial (lib : Library δ) : Settled lib (initial : World δ) :=
  ⟨remembers_initial lib, nofun, nofun, fun _ => Sound.empty lib _⟩

omit [DecidableEq δ] in
/-- Only configuration files have handlers, so other files may change. -/
theorem Settled.other_file {lib : Library δ} {world : World δ} (settled : Settled lib world)
    {event : FileEvent} (otherName : isConfigName event.fileName = false)
    (noReload : world.queries.reloadRequired = false) :
    Sound lib (event.apply world.files) world.queries.handlerMap := by
  have sound := settled.sound noReload
  refine sound.change_file (fun name other => FileEvent.apply_ne other world.files)
    fun key handler found ofFile => ?_
  have named := (sound.built key handler found).named
  rw [ofFile, otherName] at named
  cases named

/-- A file that is created leaves nothing pending. -/
theorem Settled.create {lib : Library δ} {world : World δ} (settled : Settled lib world)
    {fn content : ByteString} (named : isConfigName fn = true)
    (absent : world.files fn = none) (noReload : world.queries.reloadRequired = false)
    (constructs : StoredQueryConfig → Bool) (initialUpdate : Bool) :
    Sound lib ((FileEvent.create fn content).apply world.files)
      (world.queries.handleQueryAdd lib ⟨(FileEvent.create fn content).apply world.files,
        constructs⟩ fn initialUpdate).queries.handlerMap := by
  have sound := settled.sound noReload
  have noHandler : ∀ key handler, world.queries.handlerMap.find key = some handler →
      handler.config.fileName ≠ fn := by
    rintro key handler found rfl
    obtain ⟨_, _, stored, _⟩ := sound.declared key handler found
    cases absent.symm.trans stored
  have outcome := StoredQueryMap.handleQueryAdd_outcome lib
    ⟨(FileEvent.create fn content).apply world.files, constructs⟩ world.queries fn initialUpdate
  apply outcome.sound _ named noHandler
  exact sound.change_file (fun name other => FileEvent.apply_ne other world.files)
    fun key handler found ofFile => absurd ofFile (noHandler key handler found)

/-- A file that is modified leaves nothing pending. -/
theorem Settled.modify {lib : Library δ} {world : World δ} (settled : Settled lib world)
    {fn content : ByteString} (named : isConfigName fn = true)
    (present : (world.files fn).isSome = true)
    (readable : content.length < maxSize ∧ (lib.parseConfig content).isSome = true)
    (noReload : world.queries.reloadRequired = false)
    (constructs : StoredQueryConfig → Bool) (initialUpdate : Bool)
    (keeps : KeepsIdentifier lib constructs world (.event (.modify fn content) initialUpdate))
    (noReloadAfter : (world.queries.handleQueryModify lib
      ⟨(FileEvent.modify fn content).apply world.files, constructs⟩ fn).queries.reloadRequired =
        false) :
    Sound lib ((FileEvent.modify fn content).apply world.files)
      (world.queries.handleQueryModify lib ⟨(FileEvent.modify fn content).apply world.files,
        constructs⟩ fn).queries.handlerMap := by
  have sound := settled.sound noReload
  have others : ∀ name, name ≠ fn →
      (FileEvent.modify fn content).apply world.files name = world.files name :=
    fun name other => FileEvent.apply_ne other world.files
  have holds : (FileEvent.modify fn content).apply world.files fn = some content :=
    (FileEvent.modify fn content).apply_self world.files
  have outcome := StoredQueryMap.handleQueryModify_outcome lib
    ⟨(FileEvent.modify fn content).apply world.files, constructs⟩ world.queries fn
  generalize world.queries.handleQueryModify lib _ fn = result at outcome noReloadAfter ⊢
  obtain ⟨declaration, parsed⟩ := Option.isSome_iff_exists.mp readable.2
  have moves : ∀ key handler, world.queries.handlerMap.find key = some handler →
      handler.config.fileName = fn → asciiTolowerCopy declaration.queryId = key ∨
        (StoredQueryMap.shouldBeIgnored lib declaration = false ∧
          constructs ⟨fn, content, declaration⟩ = true ∧
          asciiTolowerCopy handler.queryName = handler.queryName) := by
    intro key handler found ofFile
    rcases keeps key handler declaration found ofFile parsed with ⟨same, _⟩ | ⟨_, moves⟩
    · exact .inl same
    · exact moves
  cases outcome with
  | unnoticed unnoticed =>
      refine sound.change_file others fun key handler found ofFile => ?_
      rcases keeps key handler declaration found ofFile parsed with
        ⟨same, enabled⟩ | ⟨noCollision, _⟩
      · exact ⟨content, declaration, holds, parsed, enabled, same⟩
      · obtain ⟨old, stored⟩ := Option.isSome_iff_exists.mp present
        have known : world.queries.fileHashMap.find fn = some (lib.digest content) :=
          by_contra fun unknown => unnoticed content holds ⟨readable.1, unknown⟩
        have remembered := settled.remembers.present fn old named stored
          (settled.short fn old named stored)
        have sameContent : old = content :=
          noCollision old stored (Option.some.inj (remembered.symm.trans known))
        have declared := sound.declared key handler found
        rw [ofFile] at declared
        exact declared.of_same_file (holds.trans (sameContent ▸ stored.symm))
  | unreadable stored notices unparsed =>
      cases holds.symm.trans stored
      cases unparsed.symm.trans parsed
  | ignored stored notices parsed' ignored outcome =>
      cases holds.symm.trans stored
      cases parsed.symm.trans parsed'
      refine outcome.sound sound others (fun key handler found ofFile => ?_) noReloadAfter
      rcases moves key handler found ofFile with same | ⟨enabled, _⟩
      · exact same
      · cases ignored.symm.trans enabled
  | replaced stored notices parsed' enabled outcome =>
      cases holds.symm.trans stored
      cases parsed.symm.trans parsed'
      refine outcome.sound sound others ⟨named, parsed⟩
        ⟨content, declaration, holds, parsed, enabled, rfl⟩
        (fun key handler found ofFile => ?_) noReloadAfter
      exact (moves key handler found ofFile).imp_right And.right

omit [DecidableEq δ] in
/-- A task that was made for what its file still declares may finish. -/
theorem Settled.task {lib : Library δ} {world : World δ} (settled : Settled lib world)
    {task : StoredQueryConfig} (queued : task ∈ world.queries.initTasks)
    (declares : Declares lib world.files task.fileName (asciiTolowerCopy task.queryId))
    (noReload : world.queries.reloadRequired = false)
    (constructs : StoredQueryConfig → Bool) :
    Sound lib world.files (world.queries.runTask constructs task).handlerMap := by
  have sound := settled.sound noReload
  unfold StoredQueryMap.runTask StoredQueryMap.addConfig
  split
  · have others : ∀ name, name ≠ task.fileName → world.files name = world.files name :=
      fun _ _ => rfl
    refine sound.set others (settled.tasks task queued) rfl declares
      fun key handler found ofFile => ?_
    have declared := sound.declared key handler found
    rw [ofFile] at declared
    exact declared.unique declares
  · exact sound

/-- One step keeps a world settled. -/
theorem Settled.next {lib : Library δ} {world : World δ} (settled : Settled lib world)
    {constructs : StoredQueryConfig → Bool} {step : Step} (possible : world.Possible step)
    (reads : ReadSucceeds lib step) (keeps : KeepsIdentifier lib constructs world step) :
    Settled lib (world.next lib constructs step) := by
  have remembers := settled.remembers.next constructs step
  cases step with
  | event event initialUpdate =>
      obtain ⟨possible, noReload⟩ := possible
      -- The files stay small, since the changed one could be read.
      have short : ∀ fn content, isConfigName fn = true →
          event.apply world.files fn = some content → content.length < maxSize := by
        intro fn content named stored
        by_cases same : fn = event.fileName
        · subst same
          rw [FileEvent.apply_self] at stored
          exact (reads named content stored).1
        · rw [FileEvent.apply_ne same] at stored
          exact settled.short fn content named stored
      cases configName : isConfigName event.fileName with
      | false =>
          rw [next_otherName constructs initialUpdate configName] at remembers ⊢
          exact ⟨remembers, short, settled.tasks, fun _ => settled.other_file configName noReload⟩
      | true =>
          cases event with
          | create fn content =>
              have named : isConfigName fn = true := configName
              rw [next_create constructs initialUpdate named] at remembers ⊢
              refine ⟨remembers, short, fun task member => ?_, fun _ => ?_⟩
              · rcases (StoredQueryMap.handleQueryAdd_outcome _ _ _ _ _).initTasks named task member
                  with old | built
                · exact settled.tasks task old
                · exact built
              · exact settled.create named possible noReload constructs initialUpdate
          | modify fn content =>
              have named : isConfigName fn = true := configName
              rw [next_modify constructs initialUpdate named] at remembers ⊢
              refine ⟨remembers, short, fun task member => ?_, fun noReloadAfter => ?_⟩
              · rw [(StoredQueryMap.handleQueryModify_outcome _ _ _ _).initTasks] at member
                exact settled.tasks task member
              · exact settled.modify named possible (reads named content rfl) noReload constructs
                  initialUpdate keeps noReloadAfter
          | delete fn =>
              have named : isConfigName fn = true := configName
              rw [next_delete constructs initialUpdate named] at remembers ⊢
              refine ⟨remembers, short, fun task member => ?_, fun _ => ?_⟩
              · rw [StoredQueryMap.handleQueryRemove_initTasks] at member
                exact settled.tasks task member
              · exact StoredQueryMap.handleQueryRemove_sound (settled.sound noReload)
                  fun name other => FileEvent.apply_ne other world.files
  | retry =>
      rw [World.next, settled.remembers.retryDuplicates]
      exact settled
  | task task =>
      refine ⟨remembers, settled.short, fun other member => ?_, fun noReloadAfter => ?_⟩
      · change other ∈ (world.queries.runTask constructs task).initTasks at member
        rw [StoredQueryMap.runTask_initTasks] at member
        exact settled.tasks other (List.mem_of_mem_erase member)
      · have noReload : world.queries.reloadRequired = false :=
          (StoredQueryMap.runTask_reloadRequired constructs world.queries task).symm.trans
            noReloadAfter
        exact settled.task possible keeps noReload constructs

/-- In every run whose configuration files can be read and whose modifications keep
identifiers, every world reached without requiring a reload has a sound handler map. -/
theorem handlerMap_sound (lib : Library δ) {world : World δ}
    (reaches : Reaches lib (fun constructs world step =>
      ReadSucceeds lib step ∧ KeepsIdentifier lib constructs world step) world)
    (noReload : world.queries.reloadRequired = false) :
    Sound lib world.files world.queries.handlerMap := by
  have settled : Settled lib world := by
    apply reaches.invariant (settled_initial lib)
    intro constructs world step settled possible met
    exact settled.next possible met.1 met.2
  exact settled.sound noReload

/-! ### A file that changes its identifier -/

/-- A file is created with an identifier. -/
def createStep (id : ByteString) : Step :=
  .event (.create (ascii "a.conf") (configText id)) false

/-- Its identifier is changed. -/
def modifyStep (id : ByteString) : Step :=
  .event (.modify (ascii "a.conf") (configText id)) false

/-- A loaded file whose identifier is changed, with every handler constructed. -/
def createdWorld (id : ByteString) : World ByteString :=
  initial.next sampleLibrary (fun _ => true) (createStep id)

/-- The file after the change. -/
def renamedWorld (oldId newId : ByteString) : World ByteString :=
  (createdWorld oldId).next sampleLibrary (fun _ => true) (modifyStep newId)

/-- A report of a file with an identifier of moderate length can be read. -/
theorem readSucceeds_configText {step : Step} {id : ByteString} (short : id.length < 100)
    (plain : 34 ∉ id) (reports : step = createStep id ∨ step = modifyStep id) :
    ReadSucceeds sampleLibrary step := by
  have readable : (configText id).length < maxSize ∧
      (sampleLibrary.parseConfig (configText id)).isSome = true := by
    rw [parseConfig_configText plain]
    exact ⟨configText_short short, rfl⟩
  rcases reports with rfl | rfl
  · intro _ _ reported
    cases reported
    exact readable
  · intro _ _ reported
    cases reported
    exact readable

/-- The handler of the created file. -/
theorem createdWorld_entries :
    (createdWorld (ascii "foo")).queries.handlerMap.entries =
      [(ascii "foo", ⟨⟨ascii "a.conf", configText (ascii "foo"),
        ⟨ascii "foo", false, false, false⟩⟩⟩)] := by
  decide +kernel

/-- The handlers are those of the file after the change. -/
theorem handlerMap_sound_sample :
    Sound sampleLibrary (renamedWorld (ascii "foo") (ascii "bar")).files
      (renamedWorld (ascii "foo") (ascii "bar")).queries.handlerMap := by
  have created : Moves sampleLibrary (fun constructs world step =>
      ReadSucceeds sampleLibrary step ∧ KeepsIdentifier sampleLibrary constructs world step)
      initial (createdWorld (ascii "foo")) :=
    ⟨fun _ => true, createStep (ascii "foo"), ⟨rfl, rfl⟩,
      ⟨readSucceeds_configText (by decide) (by decide) (.inl rfl), trivial⟩, rfl⟩
  have keeps : KeepsIdentifier sampleLibrary (fun _ => true) (createdWorld (ascii "foo"))
      (modifyStep (ascii "bar")) := by
    intro key handler declaration found ofFile parsed
    have member := OrderedMap.find_eq_some.mp found
    rw [createdWorld_entries] at member
    cases List.mem_singleton.mp member
    cases parsed.symm.trans (parseConfig_configText (by decide))
    exact .inr ⟨fun old _ same => same, .inr (by decide +kernel)⟩
  have renamed : Moves sampleLibrary (fun constructs world step =>
      ReadSucceeds sampleLibrary step ∧ KeepsIdentifier sampleLibrary constructs world step)
      (createdWorld (ascii "foo")) (renamedWorld (ascii "foo") (ascii "bar")) :=
    ⟨fun _ => true, modifyStep (ascii "bar"), ⟨by decide +kernel, by decide +kernel⟩,
      ⟨readSucceeds_configText (by decide) (by decide) (.inr rfl), keeps⟩, rfl⟩
  exact handlerMap_sound sampleLibrary ((Relation.ReflTransGen.single created).tail renamed)
    (by decide +kernel)

/-- A file whose identifier had a capital letter goes on being served under it after the
identifier has changed. -/
theorem old_identifier_served :
    ∃ world, Reaches sampleLibrary (fun _ _ step => ReadSucceeds sampleLibrary step) world ∧
      world.queries.reloadRequired = false ∧
      ¬ Sound sampleLibrary world.files world.queries.handlerMap := by
  have created : Moves sampleLibrary (fun _ _ step => ReadSucceeds sampleLibrary step)
      initial (createdWorld (ascii "Foo")) :=
    ⟨fun _ => true, createStep (ascii "Foo"), ⟨rfl, rfl⟩,
      readSucceeds_configText (by decide) (by decide) (.inl rfl), rfl⟩
  have renamed : Moves sampleLibrary (fun _ _ step => ReadSucceeds sampleLibrary step)
      (createdWorld (ascii "Foo")) (renamedWorld (ascii "Foo") (ascii "bar")) :=
    ⟨fun _ => true, modifyStep (ascii "bar"), ⟨by decide +kernel, by decide +kernel⟩,
      readSucceeds_configText (by decide) (by decide) (.inr rfl), rfl⟩
  refine ⟨renamedWorld (ascii "Foo") (ascii "bar"),
    (Relation.ReflTransGen.single created).tail renamed, by decide +kernel, fun sound => ?_⟩
  have old : (renamedWorld (ascii "Foo") (ascii "bar")).queries.handlerMap.find (ascii "foo") =
      some ⟨⟨ascii "a.conf", configText (ascii "Foo"), ⟨ascii "Foo", false, false, false⟩⟩⟩ := by
    decide +kernel
  have new : (renamedWorld (ascii "Foo") (ascii "bar")).queries.handlerMap.find (ascii "bar") =
      some ⟨⟨ascii "a.conf", configText (ascii "bar"), ⟨ascii "bar", false, false, false⟩⟩⟩ := by
    decide +kernel
  have same : ascii "foo" = ascii "bar" := sound.single _ _ _ _ old new rfl
  revert same
  decide

end World

end SmartMetWfs.QueryMap
