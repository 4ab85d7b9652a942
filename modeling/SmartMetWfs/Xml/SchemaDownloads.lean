import SmartMetWfs.Xml.SchemaCache

/-!
# Where schemas come from

In every interleaving of parsers, downloads and merges a thread is given, for a URI that it
has referred to, the schema that was loaded beforehand or else the content of a download of
that URI. Downloads are made only of schemas that are missing and that a thread has referred
to in a `DownloadScope`, and a schema is downloaded again only after a download has failed.
-/

namespace SmartMetWfs.Xml

open Foundation

/-! ### Threads go on -/

/-- A later state of a thread. -/
inductive GoesOn : Thread → Thread → Prop
  | server (thread after : ServerThread)
      (references : ∀ reference ∈ thread.references, reference ∈ after.references) :
      GoesOn (.server thread) (.server after)
  | downloads (uri : ByteString) : GoesOn (.download uri) (.download uri)
  | performs (uri : ByteString) (result : Option ByteString) :
      GoesOn (.download uri) (.downloaded uri result)
  | ended (uri : ByteString) (result : Option ByteString) :
      GoesOn (.downloaded uri result) (.downloaded uri result)

theorem GoesOn.refl (thread : Thread) : GoesOn thread thread := by
  cases thread with
  | server thread => exact .server thread thread fun _ member => member
  | download uri => exact .downloads uri
  | downloaded uri result => exact .ended uri result

/-- Every thread is still there and has gone on. -/
def Later (threads threads' : List Thread) : Prop :=
  ∀ (place : Nat) thread, threads[place]? = some thread →
    ∃ after, threads'[place]? = some after ∧ GoesOn thread after

/-- A download of the schema has given this content. -/
def Succeeded (threads : List Thread) (uri content : ByteString) : Prop :=
  ∃ task : Nat, threads[task]? = some (.downloaded uri (some content))

/-- A download of the schema has failed. -/
def Failed (threads : List Thread) (uri : ByteString) : Prop :=
  ∃ task : Nat, threads[task]? = some (.downloaded uri none)

/-- A thread has referred to the schema in a scope. -/
def Referred (threads : List Thread) (uri : ByteString) : Prop :=
  ∃ (place : Nat) (thread : ServerThread) (identifier : ResourceIdentifier),
    threads[place]? = some (.server thread) ∧
    (true, identifier) ∈ thread.references ∧ remoteUri identifier = some uri

section Later

variable {threads threads' : List Thread} (goOn : Later threads threads')

include goOn

/-- An attempt stays one. -/
theorem Attempt.later {task : Nat} {uri : ByteString} (attempt : Attempt threads task uri) :
    Attempt threads' task uri := by
  rcases attempt with running | ⟨result, ended⟩
  · obtain ⟨after, found, goesOn⟩ := goOn _ _ running
    cases goesOn with
    | downloads => exact .inl found
    | performs _ result => exact .inr ⟨result, found⟩
  · obtain ⟨after, found, goesOn⟩ := goOn _ _ ended
    cases goesOn
    exact .inr ⟨result, found⟩

/-- An attempt that has succeeded stays so. -/
theorem Succeeded.later {uri content : ByteString} (succeeded : Succeeded threads uri content) :
    Succeeded threads' uri content := by
  obtain ⟨task, ended⟩ := succeeded
  obtain ⟨after, found, goesOn⟩ := goOn _ _ ended
  cases goesOn
  exact ⟨task, found⟩

/-- An attempt that has failed stays so. -/
theorem Failed.later {uri : ByteString} (failed : Failed threads uri) : Failed threads' uri := by
  obtain ⟨task, ended⟩ := failed
  obtain ⟨after, found, goesOn⟩ := goOn _ _ ended
  cases goesOn
  exact ⟨task, found⟩

/-- What has been referred to stays so. -/
theorem Referred.later {uri : ByteString} (referred : Referred threads uri) :
    Referred threads' uri := by
  obtain ⟨place, thread, identifier, there, member, named⟩ := referred
  obtain ⟨after, found, goesOn⟩ := goOn _ _ there
  cases goesOn with
  | server _ after references => exact ⟨place, after, identifier, found, references _ member, named⟩

end Later

/-! ### What holds of the threads -/

/-- The scopes of a thread have saved what was in force before them: nothing was allowed
outside all scopes. -/
def ScopesNested (allowed : Bool) : List Bool → Prop
  | [] => allowed = false
  | previous :: saved => allowed = true ∧ ScopesNested previous saved

/-- Downloads are allowed while a scope is open. -/
theorem ScopesNested.allowed_iff {allowed : Bool} {saved : List Bool}
    (nested : ScopesNested allowed saved) : allowed = true ↔ saved.isEmpty = false := by
  cases saved with
  | nil =>
      rw [show allowed = false from nested]
      simp
  | cons previous saved => simp [nested.1]

/-- A schema is what was loaded beforehand or, if there was nothing, a downloaded text. -/
def Origin (preloaded : OrderedMap ByteString ByteString) (threads : List Thread)
    (uri content : ByteString) : Prop :=
  preloaded.find uri = some content ∨
    preloaded.find uri = none ∧ Succeeded threads uri content

/-- The origin of a text stays. -/
theorem Origin.later {preloaded : OrderedMap ByteString ByteString}
    {threads threads' : List Thread} (goOn : Later threads threads') {uri content : ByteString}
    (origin : Origin preloaded threads uri content) : Origin preloaded threads' uri content :=
  origin.imp_right fun ⟨missing, succeeded⟩ => ⟨missing, succeeded.later goOn⟩

/-- The thread has referred to the schema. -/
def ServerThread.Asked (thread : ServerThread) (uri : ByteString) : Prop :=
  ∃ reference ∈ thread.references, remoteUri reference.2 = some uri

/-- What holds of a thread of the server in every state. -/
structure SoundThread (preloaded : OrderedMap ByteString ByteString) (threads : List Thread)
    (thread : ServerThread) : Prop where
  nested : ScopesNested thread.downloadAllowed thread.saved
  unlocked : ∀ uri downloading, thread.stage = .unlocked uri downloading → thread.Asked uri
  waiting : ∀ uri downloading task, thread.stage = .waiting uri downloading task →
    thread.Asked uri ∧ Attempt threads task uri
  received : ∀ entry ∈ thread.received,
    thread.Asked entry.1 ∧ Origin preloaded threads entry.1 entry.2

/-- It holds whatever the other threads do. -/
theorem SoundThread.later {preloaded : OrderedMap ByteString ByteString}
    {threads threads' : List Thread} (goOn : Later threads threads') {thread : ServerThread}
    (sound : SoundThread preloaded threads thread) : SoundThread preloaded threads' thread where
  nested := sound.nested
  unlocked := sound.unlocked
  waiting uri downloading task stage :=
    ⟨(sound.waiting uri downloading task stage).1,
      (sound.waiting uri downloading task stage).2.later goOn⟩
  received entry member :=
    ⟨(sound.received entry member).1, (sound.received entry member).2.later goOn⟩

/-- What holds of the resolver and its threads in all interleavings. -/
structure Sound (preloaded : OrderedMap ByteString ByteString) (enableDownload : Bool)
    (resolution : Resolution) : Prop where
  enabled : resolution.shared.enableDownload = enableDownload
  kept : ∀ uri content, preloaded.find uri = some content →
    resolution.shared.cache.find uri = some content
  origin : ∀ uri content, resolution.shared.cache.find uri = some content →
    Origin preloaded resolution.threads uri content
  entries : ∀ uri download, resolution.shared.downloadMap.find uri = some download →
    resolution.shared.cache.find uri = none ∧ Attempt resolution.threads download.task uri ∧
      (download.numFailed ≠ 0 → Failed resolution.threads uri)
  attempts : ∀ task uri, Attempt resolution.threads task uri →
    preloaded.find uri = none ∧ enableDownload = true ∧ Referred resolution.threads uri
  known : ∀ task uri, Attempt resolution.threads task uri →
    resolution.shared.downloadMap.find uri = none → resolution.shared.cache.find uri ≠ none
  repeated : ∀ task task' uri, Attempt resolution.threads task uri →
    Attempt resolution.threads task' uri → task ≠ task' → Failed resolution.threads uri
  servers : ∀ (place : Nat) thread, resolution.threads[place]? = some (.server thread) →
    SoundThread preloaded resolution.threads thread

/-- It holds when the resolver has been loaded. -/
theorem sound_loaded (preloaded : OrderedMap ByteString ByteString) (enableDownload : Bool) :
    Sound preloaded enableDownload (loaded preloaded enableDownload) := by
  have none : ∀ (task : Nat) uri, ¬ Attempt [] task uri := by
    rintro task uri (running | ⟨result, ended⟩)
    · cases running
    · cases ended
  refine ⟨rfl, fun _ _ found => found, fun _ _ found => .inl found, ?_, ?_, ?_, ?_, ?_⟩
  · intro uri download found
    cases found
  · exact fun task uri attempt => absurd attempt (none task uri)
  · exact fun task uri attempt => absurd attempt (none task uri)
  · exact fun task task' uri attempt => absurd attempt (none task uri)
  · intro place thread there
    cases there

/-! ### Steps -/

/-- What a step does to the resolver, and which download it starts. -/
inductive SharedChange (resolution : Resolution) (effect : Effect EntityResolver Thread) : Prop
  | keeps (cache : effect.shared.cache = resolution.shared.cache)
      (downloadMap : effect.shared.downloadMap = resolution.shared.downloadMap)
      (enabled : effect.shared.enableDownload = resolution.shared.enableDownload)
      (started : effect.started = [])
  | updates (uri : ByteString) (download after : Download)
      (found : resolution.shared.downloadMap.find uri = some download)
      (task : after.task = download.task)
      (failed : after.numFailed ≠ 0 → Failed resolution.threads uri)
      (shared : effect.shared = { resolution.shared with
        downloadMap := resolution.shared.downloadMap.set uri after })
      (started : effect.started = [])
  | starts (uri : ByteString) (thread : ServerThread) (identifier : ResourceIdentifier)
      (missing : resolution.shared.cache.find uri = none)
      (enabled : resolution.shared.enableDownload = true)
      (again : ∀ download, resolution.shared.downloadMap.find uri = some download →
        download.numFailed ≠ 0)
      (refers : effect.thread = .server thread) (inScope : (true, identifier) ∈ thread.references)
      (named : remoteUri identifier = some uri)
      (shared : effect.shared = { resolution.shared with
        downloadMap := resolution.shared.downloadMap.set uri
          (withTask (resolution.shared.downloadMap.find uri) resolution.threads.length) })
      (started : effect.started = [.download uri])
  | merges (uri content : ByteString) (download : Download)
      (found : resolution.shared.downloadMap.find uri = some download)
      (succeeded : Succeeded resolution.threads uri content)
      (shared : effect.shared = { resolution.shared with
        cache := resolution.shared.cache.set uri content
        downloadMap := resolution.shared.downloadMap.erase uri })
      (started : effect.started = [])

section Steps

variable {preloaded : OrderedMap ByteString ByteString} {enableDownload : Bool}
  {resolution : Resolution} {thread : ServerThread} {effect : Effect EntityResolver Thread}

/-- An address is selected again after a failure only. -/
theorem selectDownload_again {entry : Option Download} {now : Int}
    (selected : selectDownload entry now = true) :
    ∀ download, entry = some download → download.numFailed ≠ 0 := by
  intro download found
  subst found
  unfold selectDownload at selected
  dsimp only at selected
  split at selected
  · next failed => exact failed.1
  · cases selected

/-- A reference is remembered with the scope it was made in. -/
theorem mem_refersTo (thread : ServerThread) (identifier : ResourceIdentifier) :
    (!thread.saved.isEmpty, identifier) ∈ (thread.refersTo identifier).references :=
  List.mem_append_right _ (List.mem_singleton_self _)

/-- What a step of the server changes in the resolver. -/
theorem ServerStep.sharedChange (step : ServerStep resolution thread effect)
    (sound : SoundThread preloaded resolution.threads thread) : SharedChange resolution effect := by
  cases step with
  | starts identifier uri now _ named _ missing enabled allowed selected =>
      refine .starts uri _ identifier missing enabled (selectDownload_again selected) rfl ?_ named
        rfl rfl
      have inScope := mem_refersTo thread identifier
      rw [sound.nested.allowed_iff.mp allowed] at inScope
      exact inScope
  | gets uri downloading task content download waiting ended found =>
      exact .updates uri download { download with numFailed := 0 } found rfl
        (fun failed => absurd rfl failed) rfl rfl
  | counts uri task download now waiting ended found =>
      exact .updates uri download
        { download with numFailed := download.numFailed + 1, lastFailed := now } found rfl
        (fun _ => ⟨task, ended⟩) rfl rfl
  | merges uri content next download merging found ended =>
      exact .merges uri content download found ⟨download.task, ended⟩ rfl rfl
  | _ => exact .keeps rfl rfl rfl rfl

/-- A thread of the server goes on as one. -/
theorem ServerStep.goesOn (step : ServerStep resolution thread effect) :
    ∃ after, effect.thread = .server after ∧
      ∀ reference ∈ thread.references, reference ∈ after.references := by
  cases step with
  | refers | finds | starts | joins =>
      exact ⟨_, rfl, fun _ member => List.mem_append_left _ member⟩
  | _ => exact ⟨_, rfl, fun _ member => member⟩

/-- A thread outside its scopes' ends stays sound if what is new to it is. -/
theorem SoundThread.moves {threads : List Thread} {after : ServerThread}
    (own : SoundThread preloaded threads thread) (saved : after.saved = thread.saved)
    (allowed : after.downloadAllowed = thread.downloadAllowed)
    (references : ∀ reference ∈ thread.references, reference ∈ after.references)
    (unlocked : ∀ uri downloading, after.stage = .unlocked uri downloading → after.Asked uri)
    (waiting : ∀ uri downloading task, after.stage = .waiting uri downloading task →
      after.Asked uri ∧ Attempt threads task uri)
    (received : ∀ entry ∈ after.received, entry ∈ thread.received ∨
      after.Asked entry.1 ∧ Origin preloaded threads entry.1 entry.2) :
    SoundThread preloaded threads after where
  nested := by
    rw [saved, allowed]
    exact own.nested
  unlocked := unlocked
  waiting := waiting
  received := by
    intro entry member
    rcases received entry member with before | new
    · obtain ⟨⟨reference, inReferences, named⟩, origin⟩ := own.received entry before
      exact ⟨⟨reference, references reference inReferences, named⟩, origin⟩
    · exact new

/-- A thread that refers to a schema has asked for it. -/
theorem asked_refersTo (thread : ServerThread) {identifier : ResourceIdentifier} {uri : ByteString}
    (named : remoteUri identifier = some uri) : (thread.refersTo identifier).Asked uri :=
  ⟨_, mem_refersTo thread identifier, named⟩

/-- What a task has downloaded was referred to in a scope. -/
theorem Sound.origin_downloaded (sound : Sound preloaded enableDownload resolution) {task : Nat}
    {uri content : ByteString}
    (ended : resolution.threads[task]? = some (.downloaded uri (some content))) :
    Origin preloaded resolution.threads uri content :=
  .inr ⟨(sound.attempts task uri (.inr ⟨_, ended⟩)).1, task, ended⟩

/-- A thread stays sound when it makes a step. -/
theorem ServerStep.soundThread (step : ServerStep resolution thread effect)
    (sound : Sound preloaded enableDownload resolution)
    (own : SoundThread preloaded resolution.threads thread) :
    ∃ after, effect.thread = .server after ∧ SoundThread preloaded resolution.threads after := by
  have refers : ∀ identifier, ∀ reference ∈ thread.references,
      reference ∈ (thread.refersTo identifier).references :=
    fun _ _ member => List.mem_append_left _ member
  have keeps : ∀ reference ∈ thread.references, reference ∈ thread.references :=
    fun _ member => member
  cases step with
  | enters parsing =>
      exact ⟨_, rfl, ⟨rfl, own.nested⟩,
        (fun _ _ outside => nomatch parsing.symm.trans outside),
        (fun _ _ _ outside => nomatch parsing.symm.trans outside), own.received⟩
  | leaves previous saved parsing nested =>
      have outer := own.nested
      rw [nested] at outer
      exact ⟨_, rfl, outer.2,
        (fun _ _ outside => nomatch parsing.symm.trans outside),
        (fun _ _ _ outside => nomatch parsing.symm.trans outside), own.received⟩
  | refers identifier parsing =>
      exact ⟨_, rfl, own.moves rfl rfl (refers identifier)
        (fun _ _ outside => nomatch parsing.symm.trans outside)
        (fun _ _ _ outside => nomatch parsing.symm.trans outside)
        fun _ member => .inl member⟩
  | finds identifier uri content parsing named cached =>
      refine ⟨_, rfl, own.moves rfl rfl (refers identifier)
        (fun _ _ outside => nomatch parsing.symm.trans outside)
        (fun _ _ _ outside => nomatch parsing.symm.trans outside)
        fun entry member => ?_⟩
      rcases List.mem_append.mp member with before | new
      · exact .inl before
      · obtain rfl := List.mem_singleton.mp new
        exact .inr ⟨asked_refersTo thread named, sound.origin uri content cached⟩
  | starts identifier uri now _ named =>
      refine ⟨_, rfl, own.moves rfl rfl (refers identifier) ?_ nofun fun _ member => .inl member⟩
      intro uri' downloading same
      cases same
      exact asked_refersTo thread named
  | joins identifier uri download _ named =>
      refine ⟨_, rfl, own.moves rfl rfl (refers identifier) ?_ nofun fun _ member => .inl member⟩
      intro uri' downloading same
      cases same
      exact asked_refersTo thread named
  | locks => exact ⟨_, rfl, own.moves rfl rfl keeps nofun nofun fun _ member => .inl member⟩
  | copies uri downloading download unlocked found =>
      refine ⟨_, rfl, own.moves rfl rfl keeps nofun ?_ fun _ member => .inl member⟩
      intro uri' downloading' task same
      cases same
      exact ⟨own.unlocked uri downloading unlocked, (sound.entries uri download found).2.1⟩
  | loses uri downloading received outside erased =>
      refine ⟨_, rfl, own.moves rfl rfl keeps nofun nofun fun entry member => ?_⟩
      rcases outside with ⟨-, same⟩ | ⟨task, result, waiting, ended, same⟩
      · exact .inl (same ▸ member)
      · rw [same] at member
        rcases List.mem_append.mp member with before | new
        · exact .inl before
        · cases result with
          | none => cases new
          | some content =>
              obtain rfl := List.mem_singleton.mp new
              exact .inr ⟨(own.waiting uri downloading task waiting).1,
                sound.origin_downloaded ended⟩
  | gets uri downloading task content download waiting ended found =>
      refine ⟨_, rfl, own.moves rfl rfl keeps nofun nofun fun entry member => ?_⟩
      rcases List.mem_append.mp member with before | new
      · exact .inl before
      · obtain rfl := List.mem_singleton.mp new
        exact .inr ⟨(own.waiting uri downloading task waiting).1, sound.origin_downloaded ended⟩
  | counts | fails | merges | skips | unlocks | finishes =>
      exact ⟨_, rfl, own.moves rfl rfl keeps nofun nofun fun _ member => .inl member⟩

end Steps

section Threads

variable {threads : List Thread} {tid : Nat} {old : Thread}
  {effect : Effect EntityResolver Thread}

/-- A step lets one thread go on and leaves the others. -/
theorem later_threadsAfter (found : threads[tid]? = some old) (goesOn : GoesOn old effect.thread) :
    Later threads (Pool.threadsAfter threads tid effect) := by
  intro place thread there
  by_cases self : place = tid
  · subst self
    obtain rfl := Option.some.inj (found.symm.trans there)
    exact ⟨effect.thread, Pool.threadsAfter_self (List.getElem?_eq_some_iff.mp found).1, goesOn⟩
  · exact ⟨thread, Pool.threadsAfter_other self there, .refl thread⟩

/-- An attempt has been one before, or the step has started it. -/
theorem attempt_threadsAfter (found : threads[tid]? = some old)
    (goesOn : GoesOn old effect.thread) {task : Nat} {uri : ByteString}
    (attempt : Attempt (Pool.threadsAfter threads tid effect) task uri) :
    Attempt threads task uri ∨ ∃ offset thread, task = threads.length + offset ∧
      effect.started[offset]? = some thread ∧
        (thread = .download uri ∨ ∃ result, thread = .downloaded uri result) := by
  have before : ∀ thread, (Pool.threadsAfter threads tid effect)[task]? = some thread →
      (thread = .download uri ∨ ∃ result, thread = .downloaded uri result) →
      Attempt threads task uri ∨ ∃ offset thread, task = threads.length + offset ∧
        effect.started[offset]? = some thread ∧
          (thread = .download uri ∨ ∃ result, thread = .downloaded uri result) := by
    intro thread there isAttempt
    rcases Pool.threadsAfter_cases there with ⟨rfl, same⟩ | ⟨-, other⟩ | ⟨offset, same, started⟩
    · rw [← same] at goesOn
      left
      cases goesOn with
      | server => rcases isAttempt with running | ⟨result, ended⟩ <;> contradiction
      | downloads uri' =>
          rcases isAttempt with running | ⟨result, ended⟩
          · cases running
            exact .inl found
          · cases ended
      | performs uri' result' =>
          rcases isAttempt with running | ⟨result, ended⟩
          · cases running
          · cases ended
            exact .inl found
      | ended uri' result' =>
          rcases isAttempt with running | ⟨result, ended⟩
          · cases running
          · cases ended
            exact .inr ⟨_, found⟩
    · left
      rcases isAttempt with rfl | ⟨result, rfl⟩
      · exact .inl other
      · exact .inr ⟨result, other⟩
    · exact .inr ⟨offset, thread, same, started, isAttempt⟩
  rcases attempt with running | ⟨result, ended⟩
  · exact before _ running (.inl rfl)
  · exact before _ ended (.inr ⟨result, rfl⟩)

end Threads

section Runs

variable {preloaded : OrderedMap ByteString ByteString} {enableDownload : Bool}
  {resolution : Resolution} {effect : Effect EntityResolver Thread}

/-- The new attempts after a step. -/
theorem SharedChange.attempt (change : SharedChange resolution effect) {tid : Nat} {old : Thread}
    (found : resolution.threads[tid]? = some old) (goesOn : GoesOn old effect.thread) {task : Nat}
    {uri : ByteString}
    (attempt : Attempt (Pool.threadsAfter resolution.threads tid effect) task uri) :
    Attempt resolution.threads task uri ∨
      task = resolution.threads.length ∧ effect.started = [.download uri] := by
  rcases attempt_threadsAfter found goesOn attempt with
    before | ⟨offset, thread, same, started, isAttempt⟩
  · exact .inl before
  · right
    cases change with
    | starts uri' _ _ _ _ _ _ _ _ _ starts =>
        rw [starts] at started ⊢
        cases offset with
        | zero =>
            obtain rfl := Option.some.inj started
            rcases isAttempt with running | ⟨result, ended⟩
            · cases running
              exact ⟨same, rfl⟩
            · cases ended
        | succ offset => cases started
    | keeps _ _ _ none | updates _ _ _ _ _ _ _ none | merges _ _ _ _ _ _ none =>
        rw [none] at started
        cases started

/-- No step enables downloads. -/
theorem SharedChange.enabled_eq (change : SharedChange resolution effect) :
    effect.shared.enableDownload = resolution.shared.enableDownload := by
  cases change with
  | keeps _ _ enabled _ => exact enabled
  | updates _ _ _ _ _ _ shared _ => rw [shared]
  | starts _ _ _ _ _ _ _ _ _ shared _ => rw [shared]
  | merges _ _ _ _ _ shared _ => rw [shared]

/-- The content of a schema is what it was, or has just been merged. -/
theorem SharedChange.cache_find (change : SharedChange resolution effect) (uri : ByteString) :
    effect.shared.cache.find uri = resolution.shared.cache.find uri ∨
      ∃ content download, resolution.shared.downloadMap.find uri = some download ∧
        Succeeded resolution.threads uri content ∧
        effect.shared.cache.find uri = some content ∧
        effect.shared.downloadMap.find uri = none := by
  cases change with
  | keeps cache _ _ _ => exact .inl (by rw [cache])
  | updates _ _ _ _ _ _ shared _ => exact .inl (by rw [shared])
  | starts _ _ _ _ _ _ _ _ _ shared _ => exact .inl (by rw [shared])
  | merges uri' content download found succeeded shared _ =>
      rw [shared]
      dsimp only
      rw [OrderedMap.find_set, OrderedMap.find_erase]
      split
      · next same =>
          subst same
          exact .inr ⟨content, download, found, succeeded, rfl, rfl⟩
      · exact .inl rfl

/-- An entry has been there with the same task, or the step has started its task. -/
theorem SharedChange.entry (change : SharedChange resolution effect) {uri : ByteString}
    {download : Download} (found : effect.shared.downloadMap.find uri = some download) :
    (∃ before, resolution.shared.downloadMap.find uri = some before ∧
      download.task = before.task ∧
        (download.numFailed ≠ 0 → before.numFailed ≠ 0 ∨ Failed resolution.threads uri)) ∨
    (download.task = resolution.threads.length ∧ effect.started = [.download uri] ∧
      resolution.shared.cache.find uri = none ∧
        (download.numFailed ≠ 0 → ∃ before, resolution.shared.downloadMap.find uri = some before ∧
          before.numFailed ≠ 0)) := by
  cases change with
  | keeps _ downloadMap _ _ =>
      rw [downloadMap] at found
      exact .inl ⟨download, found, rfl, .inl⟩
  | updates uri' before after there task failed shared _ =>
      rw [shared] at found
      dsimp only at found
      rw [OrderedMap.find_set] at found
      split at found
      · next same =>
          subst same
          obtain rfl := Option.some.inj found
          exact .inl ⟨before, there, task, fun some => .inr (failed some)⟩
      · exact .inl ⟨download, found, rfl, .inl⟩
  | starts uri' _ _ missing _ _ _ _ _ shared started =>
      rw [shared] at found
      dsimp only at found
      rw [OrderedMap.find_set] at found
      split at found
      · next same =>
          subst same
          right
          obtain rfl := Option.some.inj found
          cases before : resolution.shared.downloadMap.find uri with
          | none => exact ⟨rfl, started, missing, fun some => absurd rfl some⟩
          | some download => exact ⟨rfl, started, missing, fun some => ⟨download, rfl, some⟩⟩
      · exact .inl ⟨download, found, rfl, .inl⟩
  | merges uri' _ _ _ _ shared _ =>
      rw [shared] at found
      dsimp only at found
      rw [OrderedMap.find_erase] at found
      split at found
      · cases found
      · exact .inl ⟨download, found, rfl, .inl⟩

/-- An entry goes only when its schema is in the cache. -/
theorem SharedChange.known (change : SharedChange resolution effect) {uri : ByteString}
    (gone : effect.shared.downloadMap.find uri = none) :
    resolution.shared.downloadMap.find uri = none ∧
        effect.started ≠ [.download uri] ∨ effect.shared.cache.find uri ≠ none := by
  cases change with
  | keeps _ downloadMap _ started =>
      rw [downloadMap] at gone
      refine .inl ⟨gone, ?_⟩
      simp [started]
  | updates uri' before after there task failed shared started =>
      rw [shared] at gone
      dsimp only at gone
      rw [OrderedMap.find_set] at gone
      split at gone
      · cases gone
      · refine .inl ⟨gone, ?_⟩
        simp [started]
  | starts uri' _ _ missing _ _ _ _ _ shared started =>
      rw [shared] at gone
      dsimp only at gone
      rw [OrderedMap.find_set] at gone
      split at gone
      · cases gone
      · next other =>
          refine .inl ⟨gone, ?_⟩
          simp [started, Ne.symm other]
  | merges uri' content _ _ _ shared started =>
      rw [shared] at gone ⊢
      dsimp only at gone ⊢
      rw [OrderedMap.find_erase] at gone
      rw [OrderedMap.find_set]
      split at gone
      · next same =>
          right
          simp [same]
      · refine .inl ⟨gone, ?_⟩
        simp [started]

/-- A download is started of a missing schema only, once more only if it has failed. -/
theorem SharedChange.new (change : SharedChange resolution effect) {uri : ByteString}
    (new : effect.started = [.download uri]) : resolution.shared.cache.find uri = none ∧
      resolution.shared.enableDownload = true ∧
      (∀ download, resolution.shared.downloadMap.find uri = some download →
        download.numFailed ≠ 0) ∧
      ∃ thread identifier, effect.thread = .server thread ∧
        (true, identifier) ∈ thread.references ∧ remoteUri identifier = some uri := by
  cases change with
  | starts uri' thread identifier missing enabled again refers inScope named _ started =>
      rw [started] at new
      obtain ⟨same, -⟩ := List.cons.inj new
      cases same
      exact ⟨missing, enabled, again, thread, identifier, refers, inScope, named⟩
  | keeps _ _ _ started | updates _ _ _ _ _ _ _ started | merges _ _ _ _ _ _ started =>
      rw [started] at new
      cases new

/-- A step keeps everything sound when its thread and the resolver are. -/
theorem Sound.after (sound : Sound preloaded enableDownload resolution) {tid : Nat} {old : Thread}
    (found : resolution.threads[tid]? = some old) (goesOn : GoesOn old effect.thread)
    (change : SharedChange resolution effect)
    (own : ∀ thread, effect.thread = .server thread →
      SoundThread preloaded resolution.threads thread) :
    Sound preloaded enableDownload
      ⟨effect.shared, Pool.threadsAfter resolution.threads tid effect⟩ := by
  have goOn := later_threadsAfter found goesOn
  have within := (List.getElem?_eq_some_iff.mp found).1
  have entryMissing : ∀ uri download,
      resolution.shared.downloadMap.find uri = some download → preloaded.find uri = none := by
    intro uri download there
    cases loadedBefore : preloaded.find uri with
    | none => rfl
    | some content =>
        cases (sound.entries uri download there).1.symm.trans (sound.kept uri content loadedBefore)
  refine ⟨change.enabled_eq.trans sound.enabled, ?_, ?_, ?_, ?_, ?_, ?_, ?_⟩
  · intro uri content loadedBefore
    rcases change.cache_find uri with same | ⟨_, download, there, -⟩
    · exact same.trans (sound.kept uri content loadedBefore)
    · cases (entryMissing uri download there).symm.trans loadedBefore
  · intro uri content cached
    rcases change.cache_find uri with same | ⟨content', download, there, succeeded, now, -⟩
    · exact (sound.origin uri content (same.symm.trans cached)).later goOn
    · cases now.symm.trans cached
      exact .inr ⟨entryMissing uri download there, succeeded.later goOn⟩
  · intro uri download there
    have uncached : effect.shared.cache.find uri = resolution.shared.cache.find uri := by
      rcases change.cache_find uri with same | ⟨_, _, _, _, _, gone⟩
      · exact same
      · cases gone.symm.trans there
    rcases change.entry there with
      ⟨before, at_uri, task, failed⟩ | ⟨task, started, missing, failed⟩
    · obtain ⟨missing, attempt, failedBefore⟩ := sound.entries uri before at_uri
      refine ⟨uncached.trans missing, ?_, fun some => ?_⟩
      · rw [task]
        exact attempt.later goOn
      · rcases failed some with earlier | failed
        · exact (failedBefore earlier).later goOn
        · exact failed.later goOn
    · refine ⟨uncached.trans missing, ?_, fun some => ?_⟩
      · left
        rw [task]
        exact (@Pool.threadsAfter_started _ _ _ _ effect 0).trans (by rw [started]; rfl)
      · obtain ⟨before, at_uri, some⟩ := failed some
        exact ((sound.entries uri before at_uri).2.2 some).later goOn
  · intro task uri attempt
    rcases change.attempt found goesOn attempt with before | ⟨-, started⟩
    · obtain ⟨missing, enabled, referred⟩ := sound.attempts task uri before
      exact ⟨missing, enabled, referred.later goOn⟩
    · obtain ⟨missing, enabled, -, thread, identifier, same, inScope, named⟩ := change.new started
      refine ⟨?_, sound.enabled.symm.trans enabled, tid, thread, identifier, ?_, inScope, named⟩
      · cases loadedBefore : preloaded.find uri with
        | none => rfl
        | some content => cases missing.symm.trans (sound.kept uri content loadedBefore)
      · rw [← same]
        exact Pool.threadsAfter_self within
  · intro task uri attempt gone
    rcases change.known gone with ⟨goneBefore, notStarted⟩ | cached
    · rcases change.attempt found goesOn attempt with before | ⟨-, started⟩
      · rcases change.cache_find uri with same | ⟨_, _, there, -⟩
        · exact fun missing => sound.known task uri before goneBefore (same.symm.trans missing)
        · cases goneBefore.symm.trans there
      · exact absurd started notStarted
    · exact cached
  · intro task task' uri attempt attempt' different
    have once : ∀ task, Attempt resolution.threads task uri → effect.started = [.download uri] →
        Failed resolution.threads uri := by
      intro task attempt started
      obtain ⟨missing, -, again, -⟩ := change.new started
      cases there : resolution.shared.downloadMap.find uri with
      | none => exact absurd missing (sound.known task uri attempt there)
      | some download => exact (sound.entries uri download there).2.2 (again download there)
    rcases change.attempt found goesOn attempt with before | ⟨last, started⟩
    · rcases change.attempt found goesOn attempt' with before' | ⟨-, started⟩
      · exact (sound.repeated task task' uri before before' different).later goOn
      · exact (once task before started).later goOn
    · rcases change.attempt found goesOn attempt' with before' | ⟨last', -⟩
      · exact (once task' before' started).later goOn
      · exact absurd (last.trans last'.symm) different
  · intro place thread there
    rcases Pool.threadsAfter_cases there with ⟨-, self⟩ | ⟨-, other⟩ | ⟨offset, -, started⟩
    · exact (own thread self.symm).later goOn
    · exact (sound.servers place thread other).later goOn
    · cases change with
      | starts _ _ _ _ _ _ _ _ _ _ starts =>
          rw [starts] at started
          rcases offset with _ | offset <;> cases started
      | keeps _ _ _ none | updates _ _ _ _ _ _ _ none | merges _ _ _ _ _ _ none =>
          rw [none] at started
          cases started

/-- A new thread is sound. -/
theorem Sound.after_call (sound : Sound preloaded enableDownload resolution) :
    Sound preloaded enableDownload
      { resolution with threads := resolution.threads ++ [.server .start] } := by
  have goOn : Later resolution.threads (resolution.threads ++ [.server .start]) :=
    fun _ thread there => ⟨thread, (List.getElem?_append_left
      (List.getElem?_eq_some_iff.mp there).1).trans there, .refl thread⟩
  have earlier : ∀ (place : Nat) thread,
      (resolution.threads ++ [.server .start])[place]? = some thread →
        resolution.threads[place]? = some thread ∨ thread = .server .start := by
    intro place thread there
    rw [List.getElem?_append] at there
    split at there
    · exact .inl there
    · exact .inr (List.mem_singleton.mp (List.mem_of_getElem? there))
  have attempts : ∀ task uri, Attempt (resolution.threads ++ [.server .start]) task uri →
      Attempt resolution.threads task uri := by
    rintro task uri (running | ⟨result, ended⟩)
    · rcases earlier _ _ running with before | new
      · exact .inl before
      · cases new
    · rcases earlier _ _ ended with before | new
      · exact .inr ⟨result, before⟩
      · cases new
  refine ⟨sound.enabled, sound.kept, ?_, ?_, ?_, ?_, ?_, ?_⟩
  · exact fun uri content cached => (sound.origin uri content cached).later goOn
  · intro uri download found
    obtain ⟨missing, attempt, failed⟩ := sound.entries uri download found
    exact ⟨missing, attempt.later goOn, fun some => (failed some).later goOn⟩
  · intro task uri attempt
    obtain ⟨missing, enabled, referred⟩ := sound.attempts task uri (attempts task uri attempt)
    exact ⟨missing, enabled, referred.later goOn⟩
  · exact fun task uri attempt => sound.known task uri (attempts task uri attempt)
  · exact fun task task' uri attempt attempt' different =>
      (sound.repeated task task' uri (attempts task uri attempt) (attempts task' uri attempt')
        different).later goOn
  · intro place thread there
    rcases earlier place _ there with before | new
    · exact (sound.servers place thread before).later goOn
    · cases new
      exact ⟨rfl, nofun, nofun, fun _ member => nomatch member⟩

/-- Every event keeps everything sound. -/
theorem Sound.step {event : PoolEvent Thread Choice} {after : Resolution}
    (sound : Sound preloaded enableDownload resolution) (enters : Enters resolution event)
    (stepped : resolution.step resolve event = some after) :
    Sound preloaded enableDownload after := by
  cases event with
  | call thread =>
      obtain rfl : thread = .server .start := enters
      rw [Pool.step_call stepped]
      exact sound.after_call
  | run tid choice =>
      obtain ⟨thread, effect, found, acted, rfl⟩ := Pool.step_run stepped
      unfold resolve at acted
      split at acted
      · next thread =>
          have own := sound.servers tid thread found
          have step := serverAct_step (fun uri download there =>
            (sound.entries uri download there).2.1) (fun uri downloading task waiting =>
              (own.waiting uri downloading task waiting).2) acted
          obtain ⟨now, same, references⟩ := step.goesOn
          apply sound.after found
          · rw [same]
            exact .server thread now references
          · exact step.sharedChange own
          · intro later isServer
            obtain ⟨now, same, soundThread⟩ := step.soundThread sound own
            cases same.symm.trans isServer
            exact soundThread
      · next uri result =>
          obtain rfl := Option.some.inj acted
          exact sound.after found (.performs uri result) (.keeps rfl rfl rfl rfl) nofun
      · cases acted
      · cases acted

/-- In every reachable state everything is sound. -/
theorem sound_of_reached
    (reached : Pool.Reached resolve Enters (loaded preloaded enableDownload) resolution) :
    Sound preloaded enableDownload resolution :=
  reached.invariant (sound_loaded preloaded enableDownload) fun _ _ _ => Sound.step

/-! ### What threads are given, and what is downloaded -/

/-- What ends with the last slash begins as the text does. -/
theorem upToLastSlash_head {text path : ByteString} (upTo : upToLastSlash text = some path) :
    ∃ first rest, path = first :: rest ∧ text.head? = some first := by
  unfold upToLastSlash at upTo
  dsimp only at upTo
  split at upTo
  · cases upTo
  · next nonempty =>
      obtain rfl := Option.some.inj upTo
      obtain ⟨first, rest, same⟩ := List.exists_cons_of_ne_nil nonempty
      have initial : (text.reverse.dropWhile fun byte => byte ≠ slash).reverse <+: text := by
        rw [← List.reverse_suffix, List.reverse_reverse]
        exact List.dropWhile_suffix _
      obtain ⟨others, whole⟩ := initial
      refine ⟨first, rest, same, ?_⟩
      rw [← whole, same]
      rfl

/-- Only schemas get a URI, and the URI is no absolute path. -/
theorem remoteUri_schema {identifier : ResourceIdentifier} {uri : ByteString}
    (named : remoteUri identifier = some uri) :
    identifier.isSchema = true ∧ uri.head? ≠ some slash := by
  unfold remoteUri at named
  dsimp only at named
  split at named
  · cases named
  · next schema =>
      refine ⟨by simpa using schema, ?_⟩
      split at named
      · next url =>
          obtain rfl := Option.some.inj named
          intro first
          obtain ⟨rest, same⟩ := List.head?_eq_some_iff.mp first
          rw [same] at url
          revert url
          simp [isUrl, slash, ascii]
      · split at named
        · cases named
        · split at named
          · cases named
          · next relative =>
              obtain ⟨path, upTo, rfl⟩ := Option.map_eq_some_iff.mp named
              obtain ⟨first, rest, rfl, atFirst⟩ := upToLastSlash_head upTo
              simp only [Bool.or_eq_true, decide_eq_true_eq, not_or, atFirst] at relative
              exact relative.2

/-- A thread is given the schemas that it has referred to: what was loaded beforehand for the
URI or, if there was nothing, the content that a download of this URI gave. -/
theorem received_schema_origin
    (reached : Pool.Reached resolve Enters (loaded preloaded enableDownload) resolution)
    {place : Nat} {thread : ServerThread}
    (there : resolution.threads[place]? = some (.server thread)) {uri content : ByteString}
    (received : (uri, content) ∈ thread.received) :
    (∃ reference ∈ thread.references, remoteUri reference.2 = some uri ∧
      reference.2.isSchema = true ∧ uri.head? ≠ some slash) ∧
    (preloaded.find uri = some content ∨ preloaded.find uri = none ∧
      ∃ task : Nat, resolution.threads[task]? = some (.downloaded uri (some content))) := by
  obtain ⟨⟨reference, member, named⟩, origin⟩ :=
    ((sound_of_reached reached).servers place thread there).received _ received
  exact ⟨⟨reference, member, named, remoteUri_schema named⟩, origin⟩

/-- A schema is downloaded only if downloads are enabled, it was not loaded beforehand and a
thread has referred to it in a scope, and again only if a download of it has failed. -/
theorem download_in_scope
    (reached : Pool.Reached resolve Enters (loaded preloaded enableDownload) resolution)
    {task : Nat} {uri : ByteString} (attempt : Attempt resolution.threads task uri) :
    enableDownload = true ∧ preloaded.find uri = none ∧
      (∃ (place : Nat) (thread : ServerThread) (identifier : ResourceIdentifier),
        resolution.threads[place]? = some (.server thread) ∧
          (true, identifier) ∈ thread.references ∧ remoteUri identifier = some uri) ∧
      ∀ task', Attempt resolution.threads task' uri → task' ≠ task →
        ∃ failed : Nat, resolution.threads[failed]? = some (.downloaded uri none) := by
  have sound := sound_of_reached reached
  obtain ⟨missing, enabled, referred⟩ := sound.attempts task uri attempt
  exact ⟨enabled, missing, referred, fun task' attempt' different =>
    sound.repeated task' task uri attempt' attempt different⟩

end Runs

/-! ### A download -/

/-- An import of a schema with an address. -/
def sampleIdentifier : ResourceIdentifier := ⟨.schemaImport, some (ascii "http://a"), none⟩

/-- A thread downloads a schema in a scope. -/
def downloadEvents : List (PoolEvent Thread Choice) :=
  [.call (.server .start), .run 0 .enterScope, .run 0 (.resolve sampleIdentifier 0),
    .run 1 (.performs (some (ascii "x"))), .run 0 (.proceed 1), .run 0 (.proceed 2)]

/-- The thread after the download. -/
def suppliedThread : ServerThread :=
  ⟨[false], true, .parsing, [(true, sampleIdentifier)], [(ascii "http://a", ascii "x")]⟩

/-- A resolver after its first download. -/
def afterDownload : Resolution :=
  ⟨⟨false, .empty, OrderedMap.set (ascii "http://a") ⟨1, 0, 0⟩ .empty, true⟩,
    [.server suppliedThread, .downloaded (ascii "http://a") (some (ascii "x"))]⟩

/-- It is reached from an empty cache. -/
theorem afterDownload_reached : Pool.Reached resolve Enters (loaded .empty true) afterDownload :=
  Pool.Reached.start.replay
    (show Pool.replay resolve Enters (loaded .empty true) downloadEvents =
      some afterDownload by rfl)

/-- The text that was downloaded had been referred to. -/
theorem suppliedThread_origin :
    (∃ reference ∈ suppliedThread.references, remoteUri reference.2 = some (ascii "http://a") ∧
      reference.2.isSchema = true ∧ (ascii "http://a").head? ≠ some slash) ∧
    ((OrderedMap.empty : OrderedMap ByteString ByteString).find (ascii "http://a") =
        some (ascii "x") ∨
      (OrderedMap.empty : OrderedMap ByteString ByteString).find (ascii "http://a") = none ∧
        ∃ task : Nat, afterDownload.threads[task]? =
          some (.downloaded (ascii "http://a") (some (ascii "x")))) :=
  @received_schema_origin _ _ _ afterDownload_reached 0 suppliedThread rfl _ _
    (List.mem_singleton_self _)

/-- The reference was made in a scope. -/
theorem afterDownload_in_scope :
    ∃ (place : Nat) (thread : ServerThread) (identifier : ResourceIdentifier),
      afterDownload.threads[place]? = some (.server thread) ∧
        (true, identifier) ∈ thread.references ∧ remoteUri identifier = some (ascii "http://a") :=
  (@download_in_scope _ _ _ afterDownload_reached 1 (ascii "http://a") (.inr ⟨_, rfl⟩)).2.2.1

end SmartMetWfs.Xml
