import SmartMetWfs.QueryMap.Steps
import Mathlib.Logic.Function.Basic
import Mathlib.Logic.Relation

/-!
# Runs of the stored query map

A world pairs the map with the files on disk. It moves by file events, which change
one file and are handled at once, by retries of the duplicates and by background
tasks that finish. As every handler reads no file but its own, a batch of events on
different files moves the map as its events do one by one.

In every reachable world the remembered digests are those of the current files, so
that a retry of the duplicates never finds anything to read.
-/

namespace SmartMetWfs.QueryMap

open Foundation

/-- A change of a file on disk. -/
inductive FileEvent where
  | create (fn content : ByteString)
  | modify (fn content : ByteString)
  | delete (fn : ByteString)

namespace FileEvent

/-- The file of the event. -/
def fileName : FileEvent → ByteString
  | .create fn _ | .modify fn _ | .delete fn => fn

/-- The kind of change. -/
def change : FileEvent → Change
  | .create .. => .create
  | .modify .. => .modify
  | .delete _ => .delete

/-- What the file holds afterwards. -/
def content : FileEvent → Option ByteString
  | .create _ content | .modify _ content => some content
  | .delete _ => none

/-- A file is created where there is none and otherwise modified or deleted. -/
def Possible (files : ByteString → Option ByteString) : FileEvent → Prop
  | .create fn _ => files fn = none
  | .modify fn _ | .delete fn => (files fn).isSome

instance (files : ByteString → Option ByteString) :
    DecidablePred (Possible files) := fun event => by
  cases event <;> unfold Possible <;> infer_instance

/-- The files after the event. -/
def apply (event : FileEvent) (files : ByteString → Option ByteString) :
    ByteString → Option ByteString :=
  Function.update files event.fileName event.content

/-- The file of the event has its content. -/
@[simp] theorem apply_self (event : FileEvent) (files : ByteString → Option ByteString) :
    event.apply files event.fileName = event.content :=
  Function.update_self ..

theorem apply_ne {event : FileEvent} {name : ByteString} (distinct : name ≠ event.fileName)
    (files : ByteString → Option ByteString) : event.apply files name = files name :=
  Function.update_of_ne distinct ..

end FileEvent

/-- The files on disk and the map. -/
structure World (δ : Type) where
  files : ByteString → Option ByteString
  queries : StoredQueryMap δ

/-- A file event, handled as initial or later update, a retry, or a finished task. -/
inductive Step where
  | event (event : FileEvent) (initialUpdate : Bool)
  | retry
  | task (task : StoredQueryConfig)

namespace World

variable {δ : Type} [DecidableEq δ]

/-- No files and no handlers. -/
def initial : World δ := ⟨fun _ => none, .initial⟩

/-- Events are no longer handled once a reload is required; only pending tasks finish. -/
def Possible (world : World δ) : Step → Prop
  | .event event _ => event.Possible world.files ∧ world.queries.reloadRequired = false
  | .retry => True
  | .task task => task ∈ world.queries.initTasks

/-- The world after a step, given which handlers can be constructed during it. -/
def next (lib : Library δ) (constructs : StoredQueryConfig → Bool) (world : World δ) :
    Step → World δ
  | .event event initialUpdate =>
      let files := event.apply world.files
      ⟨files, (world.queries.handleConfigFileChange lib ⟨files, constructs⟩ event.fileName
        event.change initialUpdate).queries⟩
  | .retry => ⟨world.files, world.queries.retryDuplicates lib ⟨world.files, constructs⟩⟩
  | .task task => ⟨world.files, world.queries.runTask constructs task⟩

/-- One possible step under a condition on the world before it. -/
def Moves (lib : Library δ)
    (condition : (StoredQueryConfig → Bool) → World δ → Step → Prop)
    (before after : World δ) : Prop :=
  ∃ constructs step, before.Possible step ∧ condition constructs before step ∧
    after = before.next lib constructs step

/-- The worlds that runs of steps under the condition reach. -/
def Reaches (lib : Library δ)
    (condition : (StoredQueryConfig → Bool) → World δ → Step → Prop) (world : World δ) : Prop :=
  Relation.ReflTransGen (Moves lib condition) initial world

/-- What holds at first and is kept by every step holds in every reachable world. -/
theorem Reaches.invariant {lib : Library δ}
    {condition : (StoredQueryConfig → Bool) → World δ → Step → Prop} {predicate : World δ → Prop}
    (start : predicate initial)
    (keeps : ∀ constructs world step, predicate world → world.Possible step →
      condition constructs world step → predicate (world.next lib constructs step))
    {world : World δ} (reaches : Reaches lib condition world) : predicate world := by
  induction reaches with
  | refl => exact start
  | tail run move ih =>
      obtain ⟨constructs, step, possible, met, rfl⟩ := move
      exact keeps constructs _ step ih possible met

/-! ### One step

A file that is not a configuration file is not handled; the handler of any other event
runs on the files as the event leaves them. -/

section

variable {lib : Library δ} {world : World δ} (constructs : StoredQueryConfig → Bool)
  (initialUpdate : Bool)

/-- A file with another name changes nothing in the map. -/
theorem next_otherName {event : FileEvent} (otherName : isConfigName event.fileName = false) :
    world.next lib constructs (.event event initialUpdate) =
      ⟨event.apply world.files, world.queries⟩ := by
  simp [next, StoredQueryMap.handleConfigFileChange, otherName]

/-- A file that is created is added. -/
theorem next_create {fn content : ByteString} (configName : isConfigName fn = true) :
    world.next lib constructs (.event (.create fn content) initialUpdate) =
      ⟨(FileEvent.create fn content).apply world.files,
        (world.queries.handleQueryAdd lib ⟨(FileEvent.create fn content).apply world.files,
          constructs⟩ fn initialUpdate).queries⟩ := by
  have stored := (FileEvent.create fn content).apply_self world.files
  simp only [FileEvent.fileName, FileEvent.content] at stored
  simp [next, StoredQueryMap.handleConfigFileChange, FileEvent.fileName, FileEvent.change,
    configName, stored]

/-- A file that is modified is looked at again. -/
theorem next_modify {fn content : ByteString} (configName : isConfigName fn = true) :
    world.next lib constructs (.event (.modify fn content) initialUpdate) =
      ⟨(FileEvent.modify fn content).apply world.files,
        (world.queries.handleQueryModify lib ⟨(FileEvent.modify fn content).apply world.files,
          constructs⟩ fn).queries⟩ := by
  have stored := (FileEvent.modify fn content).apply_self world.files
  simp only [FileEvent.fileName, FileEvent.content] at stored
  simp [next, StoredQueryMap.handleConfigFileChange, FileEvent.fileName, FileEvent.change,
    configName, stored]

/-- A file that is deleted is removed. -/
theorem next_delete {fn : ByteString} (configName : isConfigName fn = true) :
    world.next lib constructs (.event (.delete fn) initialUpdate) =
      ⟨(FileEvent.delete fn).apply world.files, world.queries.handleQueryRemove fn⟩ := by
  simp [next, StoredQueryMap.handleConfigFileChange, FileEvent.fileName, FileEvent.change,
    configName]

end

/-! ### Remembered digests -/

/-- Configuration files that are small enough have their digests remembered, absent
files and other files have none, and duplicates are configuration files. -/
structure Remembers (lib : Library δ) (world : World δ) : Prop where
  present : ∀ fn content, isConfigName fn = true → world.files fn = some content →
    content.length < maxSize → world.queries.fileHashMap.find fn = some (lib.digest content)
  absent : ∀ fn, world.files fn = none → world.queries.fileHashMap.find fn = none
  named : ∀ fn, isConfigName fn = false → world.queries.fileHashMap.find fn = none
  duplicates : ∀ fn, world.queries.duplicate.contains fn = true → isConfigName fn = true

omit [DecidableEq δ] in
/-- At the start there is nothing to remember. -/
theorem remembers_initial (lib : Library δ) : Remembers lib (initial : World δ) :=
  ⟨nofun, fun _ _ => rfl, fun _ _ => rfl, nofun⟩

omit [DecidableEq δ] in
/-- What a digest check leaves behind is remembered for the changed files. -/
theorem Remembers.follow {lib : Library δ} {world : World δ} (remembers : Remembers lib world)
    {event : FileEvent} {content : ByteString} (holds : event.content = some content)
    (configName : isConfigName event.fileName = true) {after : StoredQueryMap δ}
    (follows : StoredQueryMap.Follows lib (event.apply world.files) event.fileName world.queries
      after) :
    Remembers lib ⟨event.apply world.files, after⟩ where
  present fn content' named stored short := by
    by_cases same : fn = event.fileName
    · subst same
      exact follows.own content' stored short
    · rw [follows.other fn same]
      exact remembers.present fn content' named
        ((FileEvent.apply_ne same _).symm.trans stored) short
  absent fn missing := by
    by_cases same : fn = event.fileName
    · subst same
      cases (holds.symm.trans (event.apply_self world.files).symm).trans missing
    · rw [follows.other fn same]
      exact remembers.absent fn ((FileEvent.apply_ne same _).symm.trans missing)
  named fn otherName := by
    have distinct : fn ≠ event.fileName := by
      rintro rfl
      exact Bool.false_ne_true (otherName.symm.trans configName)
    rw [follows.other fn distinct]
    exact remembers.named fn otherName
  duplicates fn contained := by
    rcases follows.duplicate fn contained with rfl | old
    · exact configName
    · exact remembers.duplicates fn old

omit [DecidableEq δ] in
/-- A file that is not a configuration file may change without notice. -/
theorem Remembers.other_file {lib : Library δ} {world : World δ} (remembers : Remembers lib world)
    {event : FileEvent} (otherName : isConfigName event.fileName = false) :
    Remembers lib ⟨event.apply world.files, world.queries⟩ where
  present fn content named stored short := by
    have distinct : fn ≠ event.fileName := by
      rintro rfl
      exact Bool.false_ne_true (otherName.symm.trans named)
    exact remembers.present fn content named
      ((FileEvent.apply_ne distinct _).symm.trans stored) short
  absent fn missing := by
    by_cases same : fn = event.fileName
    · exact remembers.named fn (same ▸ otherName)
    · exact remembers.absent fn ((FileEvent.apply_ne same _).symm.trans missing)
  named := remembers.named
  duplicates := remembers.duplicates

omit [DecidableEq δ] in
/-- Removing a file removes its digest. -/
theorem Remembers.remove {lib : Library δ} {world : World δ} (remembers : Remembers lib world)
    (fn : ByteString) :
    Remembers lib ⟨(FileEvent.delete fn).apply world.files,
      world.queries.handleQueryRemove fn⟩ := by
  have hashes : (world.queries.handleQueryRemove fn).fileHashMap =
      world.queries.fileHashMap.erase fn := by
    unfold StoredQueryMap.handleQueryRemove
    dsimp only
    split <;> rfl
  have duplicate : (world.queries.handleQueryRemove fn).duplicate =
      world.queries.duplicate.erase fn := by
    unfold StoredQueryMap.handleQueryRemove
    dsimp only
    split <;> rfl
  have others : ∀ name, name ≠ fn →
      (FileEvent.delete fn).apply world.files name = world.files name :=
    fun name distinct => FileEvent.apply_ne distinct _
  refine ⟨fun name content named stored short => ?_, fun name missing => ?_,
    fun name otherName => ?_, fun name contained => ?_⟩
  · by_cases same : name = fn
    · subst same
      cases ((FileEvent.delete name).apply_self world.files).symm.trans stored
    · rw [hashes, OrderedMap.find_erase_ne same]
      exact remembers.present name content named ((others name same).symm.trans stored) short
  · by_cases same : name = fn
    · rw [hashes, same, OrderedMap.find_erase_self]
    · rw [hashes, OrderedMap.find_erase_ne same]
      exact remembers.absent name ((others name same).symm.trans missing)
  · rw [hashes, OrderedMap.find_erase]
    split
    · rfl
    · exact remembers.named name otherName
  · rw [duplicate] at contained
    exact remembers.duplicates name (OrderedSet.contains_erase.mp contained).2

omit [DecidableEq δ] in
/-- Nothing is noticed of a file whose digest is remembered. -/
theorem Remembers.unnoticed {lib : Library δ} {world : World δ} (remembers : Remembers lib world)
    {fn : ByteString} (configName : isConfigName fn = true) :
    ∀ content, world.files fn = some content → ¬ world.queries.Notices lib fn content := by
  intro content stored ⟨short, unknown⟩
  exact unknown (remembers.present fn content configName stored short)

/-- A retry of the duplicates changes nothing: the digest of each of them was
remembered when it was refused. -/
theorem Remembers.retryDuplicates {lib : Library δ} {world : World δ}
    (remembers : Remembers lib world) (constructs : StoredQueryConfig → Bool) :
    world.queries.retryDuplicates lib ⟨world.files, constructs⟩ = world.queries := by
  have each : ∀ names : List ByteString, (∀ fn ∈ names, isConfigName fn = true) →
      names.foldl (fun queries fn => (queries.handleQueryAdd lib ⟨world.files, constructs⟩ fn
        false).queries) world.queries = world.queries := by
    intro names configNames
    induction names with
    | nil => rfl
    | cons fn names ih =>
        obtain ⟨configName, rest⟩ := List.forall_mem_cons.mp configNames
        rw [List.foldl_cons, StoredQueryMap.handleQueryAdd_unnoticed lib _ false
          (remembers.unnoticed configName)]
        exact ih rest
  exact each _ fun fn member => remembers.duplicates fn (OrderedSet.contains_of_mem_keys member)

/-- Every step keeps the digests of the current files remembered. -/
theorem Remembers.next {lib : Library δ} {world : World δ} (remembers : Remembers lib world)
    (constructs : StoredQueryConfig → Bool) (step : Step) :
    Remembers lib (world.next lib constructs step) := by
  cases step with
  | event event initialUpdate =>
      cases configName : isConfigName event.fileName with
      | false =>
          rw [next_otherName constructs initialUpdate configName]
          exact remembers.other_file configName
      | true =>
          cases event with
          | create fn content =>
              have named : isConfigName fn = true := configName
              rw [next_create constructs initialUpdate named]
              have outcome := StoredQueryMap.handleQueryAdd_outcome lib
                ⟨(FileEvent.create fn content).apply world.files, constructs⟩ world.queries fn
                initialUpdate
              exact remembers.follow rfl configName outcome.follows
          | modify fn content =>
              have named : isConfigName fn = true := configName
              rw [next_modify constructs initialUpdate named]
              have outcome := StoredQueryMap.handleQueryModify_outcome lib
                ⟨(FileEvent.modify fn content).apply world.files, constructs⟩ world.queries fn
              exact remembers.follow rfl configName outcome.follows
          | delete fn =>
              have named : isConfigName fn = true := configName
              rw [next_delete constructs initialUpdate named]
              exact remembers.remove fn
  | retry =>
      rw [World.next, remembers.retryDuplicates]
      exact remembers
  | task task =>
      have hashes : (world.queries.runTask constructs task).fileHashMap =
          world.queries.fileHashMap := StoredQueryMap.addConfig_fileHashMap _ _ _
      have duplicate : (world.queries.runTask constructs task).duplicate =
          world.queries.duplicate := StoredQueryMap.addConfig_duplicate _ _ _
      refine ⟨?_, ?_, ?_, ?_⟩
      · intro fn content
        change _ → _ → _ → (world.queries.runTask constructs task).fileHashMap.find fn = _
        rw [hashes]
        exact remembers.present fn content
      · intro fn
        change _ → (world.queries.runTask constructs task).fileHashMap.find fn = _
        rw [hashes]
        exact remembers.absent fn
      · intro fn
        change _ → (world.queries.runTask constructs task).fileHashMap.find fn = _
        rw [hashes]
        exact remembers.named fn
      · intro fn
        change (world.queries.runTask constructs task).duplicate.contains fn = true → _
        rw [duplicate]
        exact remembers.duplicates fn

end World

/-! ### A small library -/

/-- What follows the identifier in a complete configuration text. -/
def configTail : ByteString :=
  ascii "\";constructor_name=\"a\";title=\x7beng=\"\";\x7d;abstract=\x7beng=\"\";\x7d;" ++
    ascii "returnTypeNames=[];parameters=();"

/-- The text of a configuration with an identifier. -/
def configText (id : ByteString) : ByteString := ascii "id=\"" ++ id ++ configTail

/-- The text of a configuration that is disabled. -/
def disabledConfigText (id : ByteString) : ByteString :=
  ascii "id=\"" ++ id ++ configTail ++ ascii "disabled=true;"

/-- A library that reads the texts above and compares files by their contents. -/
def sampleLibrary : Library ByteString where
  parseConfig content :=
    let id := (content.drop 4).takeWhile (· ≠ 34)
    if content = configText id then some ⟨id, false, false, false⟩
    else if content = disabledConfigText id then some ⟨id, true, false, false⟩
    else none
  digest content := content
  enableTestQueries := true
  enableDemoQueries := true
  backgroundInit := false

/-- The text of an identifier without quotation marks is read as this identifier. -/
theorem parseConfig_configText {id : ByteString} (plain : 34 ∉ id) :
    sampleLibrary.parseConfig (configText id) = some ⟨id, false, false, false⟩ := by
  have afterStart : (configText id).drop 4 = id ++ configTail := by
    rw [configText, List.append_assoc]
    exact List.drop_left' (by decide)
  have others : ∀ byte ∈ id, decide (byte ≠ 34) = true := by
    intro byte member
    apply decide_eq_true
    intro isMark
    rw [isMark] at member
    exact plain member
  have readBack : ((configText id).drop 4).takeWhile (· ≠ 34) = id := by
    rw [afterStart, List.takeWhile_append_of_pos others,
      show configTail.takeWhile (· ≠ 34) = [] by decide, List.append_nil]
  unfold sampleLibrary
  dsimp only
  rw [readBack, if_pos rfl]

/-- It is short enough to be read. -/
theorem configText_short {id : ByteString} (short : id.length < 100) :
    (configText id).length < maxSize := by
  have tail : configTail.length < 200 := by decide +kernel
  have start : (ascii "id=\"").length = 4 := by decide
  simp only [configText, List.length_append, maxSize]
  omega

/-- The files of a list of names with contents. -/
def sampleFiles (listing : List (ByteString × ByteString)) (fn : ByteString) : Option ByteString :=
  (listing.find? fun entry => entry.1 = fn).map Prod.snd

end SmartMetWfs.QueryMap
