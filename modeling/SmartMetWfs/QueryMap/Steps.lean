import SmartMetWfs.QueryMap.StoredQueryMap

/-!
# Steps of the stored query map

The ways in which handling a file event can end are listed once for each handler,
with what is then known of the file and of the map. What the map keeps along its
runs is read off these lists.
-/

namespace SmartMetWfs.QueryMap

open Foundation

variable {δ : Type} [DecidableEq δ]

namespace StoredQueryMap

/-- The file can be read and its digest is not the remembered one. -/
def Notices (lib : Library δ) (queries : StoredQueryMap δ) (fn content : ByteString) : Prop :=
  content.length < maxSize ∧ queries.fileHashMap.find fn ≠ some (lib.digest content)

/-- The map once the digest of a file is remembered. -/
def remember (lib : Library δ) (queries : StoredQueryMap δ) (fn content : ByteString) :
    StoredQueryMap δ :=
  { queries with fileHashMap := queries.fileHashMap.set fn (lib.digest content) }

/-- A file is noticed or not. -/
theorem checkFileHash_cases (lib : Library δ) (files : ByteString → Option ByteString)
    (queries : StoredQueryMap δ) (fn : ByteString) :
    ((∀ content, files fn = some content → ¬ queries.Notices lib fn content) ∧
      queries.checkFileHash lib files fn = (false, queries)) ∨
    ∃ content, files fn = some content ∧ queries.Notices lib fn content ∧
      queries.checkFileHash lib files fn = (true, queries.remember lib fn content) := by
  unfold checkFileHash
  cases stored : files fn with
  | none => exact .inl ⟨nofun, rfl⟩
  | some content =>
      by_cases short : content.length < maxSize
      · by_cases known : queries.fileHashMap.find fn = some (lib.digest content)
        · refine .inl ⟨?_, ?_⟩
          · rintro _ ⟨rfl⟩ notices
            exact notices.2 known
          · simp only [short, known, if_true]
        · refine .inr ⟨content, rfl, ⟨short, known⟩, ?_⟩
          simp only [short, known, if_true, if_false]
          rfl
      · refine .inl ⟨?_, ?_⟩
        · rintro _ ⟨rfl⟩ notices
          exact short notices.1
        · simp only [short, if_false]

omit [DecidableEq δ] in
/-- An identifier without a handler leaves nothing to ignore. -/
theorem handleQueryIgnore_of_none {queries : StoredQueryMap δ} {sqhConfig : StoredQueryConfig}
    (free : queries.getHandlerByNameNothrow sqhConfig.queryId = none) :
    queries.handleQueryIgnore sqhConfig = queries := by
  unfold handleQueryIgnore
  rw [free]

omit [DecidableEq δ] in
/-- A file without a handler is forgotten. -/
theorem handleQueryRemove_of_none {queries : StoredQueryMap δ} {fn : ByteString}
    (byFile : queries.getHandlerByFileName fn = none) : queries.handleQueryRemove fn =
      { queries.removeFileHash fn with duplicate := queries.duplicate.erase fn } := by
  have free : (queries.removeFileHash fn).getHandlerByFileName fn = none := byFile
  simp only [handleQueryRemove, free]
  rfl

omit [DecidableEq δ] in
/-- The handler of the file is removed. -/
theorem handleQueryRemove_of_some {queries : StoredQueryMap δ} {fn : ByteString}
    {handler : StoredQueryHandler} (byFile : queries.getHandlerByFileName fn = some handler) :
    queries.handleQueryRemove fn =
      { queries.removeFileHash fn with
        duplicate := queries.duplicate.erase fn
        handlerMap := queries.handlerMap.erase (asciiTolowerCopy handler.config.queryId) } := by
  have held : (queries.removeFileHash fn).getHandlerByFileName fn = some handler := byFile
  simp only [handleQueryRemove, held]
  rfl

/-- How `handle_query_add` can end. -/
inductive AddOutcome (lib : Library δ) (scene : Scene) (queries : StoredQueryMap δ)
    (fn : ByteString) (initialUpdate : Bool) : Outcome δ → Prop
  | unnoticed
      (unnoticed : ∀ content, scene.files fn = some content → ¬ queries.Notices lib fn content) :
      AddOutcome lib scene queries fn initialUpdate ⟨queries, none⟩
  | unreadable {content : ByteString} (stored : scene.files fn = some content)
      (notices : queries.Notices lib fn content) (unparsed : lib.parseConfig content = none) :
      AddOutcome lib scene queries fn initialUpdate ⟨queries.remember lib fn content, some .config⟩
  | duplicate {content : ByteString} {declaration : Declaration}
      (stored : scene.files fn = some content) (notices : queries.Notices lib fn content)
      (parsed : lib.parseConfig content = some declaration)
      (held : (queries.getHandlerByNameNothrow declaration.queryId).isSome) :
      AddOutcome lib scene queries fn initialUpdate
        ⟨{ queries.remember lib fn content with duplicate := queries.duplicate.insert fn }, none⟩
  | ignored {content : ByteString} {declaration : Declaration}
      (stored : scene.files fn = some content) (notices : queries.Notices lib fn content)
      (parsed : lib.parseConfig content = some declaration)
      (ignored : shouldBeIgnored lib declaration = true) :
      AddOutcome lib scene queries fn initialUpdate
        ⟨{ queries.remember lib fn content with duplicate := queries.duplicate.erase fn }, none⟩
  | enqueued {content : ByteString} {declaration : Declaration}
      (stored : scene.files fn = some content) (notices : queries.Notices lib fn content)
      (parsed : lib.parseConfig content = some declaration)
      (free : queries.getHandlerByNameNothrow declaration.queryId = none)
      (enabled : shouldBeIgnored lib declaration = false) :
      AddOutcome lib scene queries fn initialUpdate
        ({ queries.remember lib fn content with
          duplicate := queries.duplicate.erase fn }.enqueueQueryAdd lib scene.constructs
            ⟨fn, content, declaration⟩ initialUpdate)

/-- What an addition can do. -/
theorem handleQueryAdd_outcome (lib : Library δ) (scene : Scene) (queries : StoredQueryMap δ)
    (fn : ByteString) (initialUpdate : Bool) :
    AddOutcome lib scene queries fn initialUpdate
      (queries.handleQueryAdd lib scene fn initialUpdate) := by
  unfold handleQueryAdd checkQueryAdd
  rcases queries.checkFileHash_cases lib scene.files fn with
    ⟨unnoticed, checked⟩ | ⟨content, stored, notices, checked⟩
  · rw [checked]
    exact .unnoticed unnoticed
  · rw [checked]
    simp only [readConfig, stored, Option.bind_eq_bind, Option.bind_some]
    cases parsed : lib.parseConfig content with
    | none => exact .unreadable stored notices parsed
    | some declaration =>
        simp only [Option.bind_some, Option.pure_def]
        change AddOutcome _ _ _ _ _ (finishQueryAdd _ _ _ (.read _
          (queries.getHandlerByNameNothrow declaration.queryId)) _)
        cases held : queries.getHandlerByNameNothrow declaration.queryId with
        | some handler => exact .duplicate stored notices parsed (held ▸ rfl)
        | none =>
            simp only [finishQueryAdd]
            cases enabled : shouldBeIgnored lib declaration with
            | true =>
                have nothing : handleQueryIgnore { queries.remember lib fn content with
                    duplicate := queries.duplicate.erase fn } ⟨fn, content, declaration⟩ =
                      { queries.remember lib fn content with
                        duplicate := queries.duplicate.erase fn } :=
                  handleQueryIgnore_of_none held
                rw [if_pos rfl]
                change AddOutcome _ _ _ _ _
                  ⟨handleQueryIgnore { queries.remember lib fn content with
                    duplicate := queries.duplicate.erase fn } _, none⟩
                rw [nothing]
                exact .ignored stored notices parsed enabled
            | false => exact .enqueued stored notices parsed held enabled

/-- A file with nothing to notice is left alone. -/
theorem handleQueryAdd_unnoticed (lib : Library δ) (scene : Scene) {queries : StoredQueryMap δ}
    {fn : ByteString} (initialUpdate : Bool)
    (unnoticed : ∀ content, scene.files fn = some content → ¬ queries.Notices lib fn content) :
    queries.handleQueryAdd lib scene fn initialUpdate = ⟨queries, none⟩ := by
  unfold handleQueryAdd checkQueryAdd
  rcases queries.checkFileHash_cases lib scene.files fn with
    ⟨_, checked⟩ | ⟨content, stored, notices, _⟩
  · rw [checked]
    rfl
  · exact absurd notices (unnoticed content stored)

/-- A file that is not noticed is not modified. -/
theorem handleQueryModify_unnoticed (lib : Library δ) (scene : Scene)
    {queries : StoredQueryMap δ} {fn : ByteString}
    (unnoticed : ∀ content, scene.files fn = some content → ¬ queries.Notices lib fn content) :
    queries.handleQueryModify lib scene fn = ⟨queries, none⟩ := by
  unfold handleQueryModify
  rcases queries.checkFileHash_cases lib scene.files fn with
    ⟨_, checked⟩ | ⟨content, stored, notices, _⟩
  · rw [checked]
  · exact absurd notices (unnoticed content stored)

/-- How `handle_query_ignore` can end. -/
inductive IgnoreOutcome (queries : StoredQueryMap δ) (sqhConfig : StoredQueryConfig) :
    StoredQueryMap δ → Prop
  | nothing (free : queries.getHandlerByNameNothrow sqhConfig.queryId = none) :
      IgnoreOutcome queries sqhConfig queries
  | removed {handler : StoredQueryHandler}
      (held : queries.getHandlerByNameNothrow sqhConfig.queryId = some handler)
      (own : handler.config.fileName = sqhConfig.fileName) :
      IgnoreOutcome queries sqhConfig
        { queries with handlerMap := queries.handlerMap.erase (asciiTolowerCopy sqhConfig.queryId) }
  | reload {handler : StoredQueryHandler}
      (held : queries.getHandlerByNameNothrow sqhConfig.queryId = some handler)
      (foreign : handler.config.fileName ≠ sqhConfig.fileName) :
      IgnoreOutcome queries sqhConfig queries.requestReload

omit [DecidableEq δ] in
/-- What an ignored file can do. -/
theorem handleQueryIgnore_outcome (queries : StoredQueryMap δ) (sqhConfig : StoredQueryConfig) :
    IgnoreOutcome queries sqhConfig (queries.handleQueryIgnore sqhConfig) := by
  unfold handleQueryIgnore
  cases held : queries.getHandlerByNameNothrow sqhConfig.queryId with
  | none => exact .nothing held
  | some handler =>
      by_cases own : sqhConfig.fileName = handler.config.fileName
      · simp only [own, if_true]
        exact .removed held own.symm
      · simp only [own, if_false]
        exact .reload held (Ne.symm own)

/-- How the load of a modified file can end: the identifier belongs to another file,
the handler cannot be constructed, it is added under an identifier that is the
file's own or free, or the file also leaves an old identifier. -/
inductive ReplaceOutcome (constructs : StoredQueryConfig → Bool) (queries : StoredQueryMap δ)
    (sqhConfig : StoredQueryConfig) : Outcome δ → Prop
  | reload (held : (queries.getHandlerByNameNothrow sqhConfig.queryId).isSome)
      (foreign : queries.getHandlerByFileName sqhConfig.fileName ≠
        queries.getHandlerByNameNothrow sqhConfig.queryId) :
      ReplaceOutcome constructs queries sqhConfig ⟨queries.requestReload, none⟩
  | failed (unbuilt : constructs sqhConfig = false)
      (own : queries.getHandlerByNameNothrow sqhConfig.queryId = none ∨
        queries.getHandlerByFileName sqhConfig.fileName =
          queries.getHandlerByNameNothrow sqhConfig.queryId) :
      ReplaceOutcome constructs queries sqhConfig ⟨queries.notifyFailed, some .construction⟩
  | added (built : constructs sqhConfig = true)
      (own : queries.getHandlerByFileName sqhConfig.fileName =
        queries.getHandlerByNameNothrow sqhConfig.queryId) :
      ReplaceOutcome constructs queries sqhConfig ⟨queries.addHandler ⟨sqhConfig⟩, none⟩
  | renamed {handler : StoredQueryHandler} (built : constructs sqhConfig = true)
      (old : queries.getHandlerByFileName sqhConfig.fileName = some handler)
      (free : queries.getHandlerByNameNothrow sqhConfig.queryId = none) :
      ReplaceOutcome constructs queries sqhConfig
        ⟨{ queries with
          handlerMap := (queries.addHandler ⟨sqhConfig⟩).handlerMap.erase handler.config.queryId },
          none⟩

omit [DecidableEq δ] in
/-- What a replacement can do. -/
theorem replaceHandler_outcome (lib : Library δ) (constructs : StoredQueryConfig → Bool)
    (queries : StoredQueryMap δ) (sqhConfig : StoredQueryConfig) :
    ReplaceOutcome constructs queries sqhConfig
      (queries.replaceHandler lib constructs sqhConfig) := by
  have synchronous : queries.enqueueQueryAdd lib constructs sqhConfig false =
      queries.addConfig constructs sqhConfig := by simp [enqueueQueryAdd]
  unfold replaceHandler
  rw [synchronous]
  cases byFile : queries.getHandlerByFileName sqhConfig.fileName with
  | none =>
      cases byName : queries.getHandlerByNameNothrow sqhConfig.queryId with
      | some holder =>
          simp only [Option.isSome_some, if_true]
          exact .reload (byName ▸ rfl) (by rw [byFile, byName]; nofun)
      | none =>
          simp only [Option.isSome_none, Bool.false_eq_true, if_false]
          unfold addConfig
          split
          · next built => exact .added built (byFile.trans byName.symm)
          · next unbuilt => exact .failed (by simpa using unbuilt) (.inl byName)
  | some handler =>
      by_cases foreign : (queries.getHandlerByNameNothrow sqhConfig.queryId).isSome ∧
          some handler ≠ queries.getHandlerByNameNothrow sqhConfig.queryId
      · simp only [foreign, ne_eq, not_false_eq_true, and_self, if_true]
        exact .reload foreign.1 (byFile ▸ foreign.2)
      · simp only [foreign, if_false]
        have own : queries.getHandlerByNameNothrow sqhConfig.queryId = none ∨
            some handler = queries.getHandlerByNameNothrow sqhConfig.queryId := by
          rcases Option.eq_none_or_eq_some (queries.getHandlerByNameNothrow sqhConfig.queryId) with
            free | ⟨holder, held⟩
          · exact .inl free
          · refine .inr (by_contra fun other => foreign ⟨held ▸ rfl, other⟩)
        unfold addConfig
        by_cases built : constructs sqhConfig = true
        · simp only [built, if_true]
          rcases own with free | same
          · simp only [free, ne_eq, reduceCtorEq, not_false_eq_true, if_true]
            exact .renamed built byFile free
          · simp only [same, ne_eq, not_true_eq_false, if_false]
            exact .added built (byFile.trans same)
        · simp only [built]
          exact .failed (by simpa using built) (own.imp_right byFile.trans)

/-- How `handle_query_modify` can end. -/
inductive ModifyOutcome (lib : Library δ) (scene : Scene) (queries : StoredQueryMap δ)
    (fn : ByteString) : Outcome δ → Prop
  | unnoticed
      (unnoticed : ∀ content, scene.files fn = some content → ¬ queries.Notices lib fn content) :
      ModifyOutcome lib scene queries fn ⟨queries, none⟩
  | unreadable {content : ByteString} (stored : scene.files fn = some content)
      (notices : queries.Notices lib fn content) (unparsed : lib.parseConfig content = none) :
      ModifyOutcome lib scene queries fn ⟨queries.remember lib fn content, some .config⟩
  | ignored {content : ByteString} {declaration : Declaration} {after : StoredQueryMap δ}
      (stored : scene.files fn = some content) (notices : queries.Notices lib fn content)
      (parsed : lib.parseConfig content = some declaration)
      (ignored : shouldBeIgnored lib declaration = true)
      (outcome : IgnoreOutcome { queries.remember lib fn content with
        duplicate := queries.duplicate.erase fn } ⟨fn, content, declaration⟩ after) :
      ModifyOutcome lib scene queries fn ⟨after, none⟩
  | replaced {content : ByteString} {declaration : Declaration} {after : Outcome δ}
      (stored : scene.files fn = some content) (notices : queries.Notices lib fn content)
      (parsed : lib.parseConfig content = some declaration)
      (enabled : shouldBeIgnored lib declaration = false)
      (outcome : ReplaceOutcome scene.constructs (queries.remember lib fn content)
        ⟨fn, content, declaration⟩ after) :
      ModifyOutcome lib scene queries fn after

/-- What a modification can do. -/
theorem handleQueryModify_outcome (lib : Library δ) (scene : Scene) (queries : StoredQueryMap δ)
    (fn : ByteString) :
    ModifyOutcome lib scene queries fn (queries.handleQueryModify lib scene fn) := by
  unfold handleQueryModify
  rcases queries.checkFileHash_cases lib scene.files fn with
    ⟨unnoticed, checked⟩ | ⟨content, stored, notices, checked⟩
  · rw [checked]
    exact .unnoticed unnoticed
  · rw [checked]
    simp only [readConfig, stored, Option.bind_eq_bind, Option.bind_some]
    cases parsed : lib.parseConfig content with
    | none => exact .unreadable stored notices parsed
    | some declaration =>
        simp only [Option.bind_some, Option.pure_def]
        cases enabled : shouldBeIgnored lib declaration with
        | true =>
            simp only [if_true]
            exact .ignored stored notices parsed enabled (handleQueryIgnore_outcome _ _)
        | false =>
            simp only [Bool.false_eq_true, if_false]
            exact .replaced stored notices parsed enabled (replaceHandler_outcome lib _ _ _)

/-! ### What the handlers leave alone -/

omit [DecidableEq δ] in
/-- A configuration that is added leaves the hashes. -/
@[simp] theorem addConfig_fileHashMap (constructs : StoredQueryConfig → Bool)
    (queries : StoredQueryMap δ) (sqhConfig : StoredQueryConfig) :
    (queries.addConfig constructs sqhConfig).queries.fileHashMap = queries.fileHashMap := by
  unfold addConfig
  split <;> rfl

omit [DecidableEq δ] in
/-- A configuration that is added leaves the duplicates. -/
@[simp] theorem addConfig_duplicate (constructs : StoredQueryConfig → Bool)
    (queries : StoredQueryMap δ) (sqhConfig : StoredQueryConfig) :
    (queries.addConfig constructs sqhConfig).queries.duplicate = queries.duplicate := by
  unfold addConfig
  split <;> rfl

omit [DecidableEq δ] in
/-- A task that is queued leaves the hashes. -/
@[simp] theorem enqueueQueryAdd_fileHashMap (lib : Library δ)
    (constructs : StoredQueryConfig → Bool) (queries : StoredQueryMap δ)
    (sqhConfig : StoredQueryConfig) (initialUpdate : Bool) :
    (queries.enqueueQueryAdd lib constructs sqhConfig initialUpdate).queries.fileHashMap =
      queries.fileHashMap := by
  unfold enqueueQueryAdd
  split
  · rfl
  · exact addConfig_fileHashMap _ _ _

omit [DecidableEq δ] in
/-- A task that is queued leaves the duplicates. -/
@[simp] theorem enqueueQueryAdd_duplicate (lib : Library δ)
    (constructs : StoredQueryConfig → Bool) (queries : StoredQueryMap δ)
    (sqhConfig : StoredQueryConfig) (initialUpdate : Bool) :
    (queries.enqueueQueryAdd lib constructs sqhConfig initialUpdate).queries.duplicate =
      queries.duplicate := by
  unfold enqueueQueryAdd
  split
  · rfl
  · exact addConfig_duplicate _ _ _

/-- The digest of the file is looked at and remembered, and no other digest changes;
no other file becomes a duplicate. -/
structure Follows (lib : Library δ) (files : ByteString → Option ByteString) (fn : ByteString)
    (before after : StoredQueryMap δ) : Prop where
  own : ∀ content, files fn = some content → content.length < maxSize →
    after.fileHashMap.find fn = some (lib.digest content)
  other : ∀ name, name ≠ fn → after.fileHashMap.find name = before.fileHashMap.find name
  duplicate : ∀ name, after.duplicate.contains name = true →
    name = fn ∨ before.duplicate.contains name = true

omit [DecidableEq δ] in
/-- A file that is not noticed is followed already. -/
theorem Follows.of_unnoticed {lib : Library δ} {files : ByteString → Option ByteString}
    {fn : ByteString} {queries : StoredQueryMap δ}
    (unnoticed : ∀ content, files fn = some content → ¬ queries.Notices lib fn content) :
    Follows lib files fn queries queries where
  own content stored short :=
    by_contra fun unknown => unnoticed content stored ⟨short, unknown⟩
  other _ _ := rfl
  duplicate _ contained := .inr contained

omit [DecidableEq δ] in
/-- A file whose hash is remembered is followed. -/
theorem Follows.of_remember {lib : Library δ} {files : ByteString → Option ByteString}
    {fn content : ByteString} {queries after : StoredQueryMap δ}
    (stored : files fn = some content)
    (hashes : after.fileHashMap = (queries.remember lib fn content).fileHashMap)
    (duplicate : ∀ name, after.duplicate.contains name = true →
      name = fn ∨ queries.duplicate.contains name = true) :
    Follows lib files fn queries after where
  own content' stored' _ := by
    cases stored.symm.trans stored'
    rw [hashes]
    exact OrderedMap.find_set_self _ _ _
  other name distinct := by
    rw [hashes]
    exact OrderedMap.find_set_ne distinct _ _
  duplicate := duplicate

omit [DecidableEq δ] in
/-- After an addition the file is followed. -/
theorem AddOutcome.follows {lib : Library δ} {scene : Scene} {queries : StoredQueryMap δ}
    {fn : ByteString} {initialUpdate : Bool} {outcome : Outcome δ}
    (ended : AddOutcome lib scene queries fn initialUpdate outcome) :
    Follows lib scene.files fn queries outcome.queries := by
  cases ended with
  | unnoticed unnoticed => exact .of_unnoticed unnoticed
  | unreadable stored notices unparsed =>
      exact .of_remember stored rfl fun name contained => .inr contained
  | duplicate stored notices parsed held =>
      exact .of_remember stored rfl fun name contained =>
        OrderedSet.contains_insert.mp contained
  | ignored stored notices parsed ignored =>
      exact .of_remember stored rfl fun name contained =>
        .inr (OrderedSet.contains_erase.mp contained).2
  | enqueued stored notices parsed free enabled =>
      refine .of_remember stored (enqueueQueryAdd_fileHashMap _ _ _ _ _) fun name contained => ?_
      rw [enqueueQueryAdd_duplicate] at contained
      exact .inr (OrderedSet.contains_erase.mp contained).2

omit [DecidableEq δ] in
/-- After a modification the file is followed. -/
theorem ModifyOutcome.follows {lib : Library δ} {scene : Scene} {queries : StoredQueryMap δ}
    {fn : ByteString} {outcome : Outcome δ}
    (ended : ModifyOutcome lib scene queries fn outcome) :
    Follows lib scene.files fn queries outcome.queries := by
  cases ended with
  | unnoticed unnoticed => exact .of_unnoticed unnoticed
  | unreadable stored notices unparsed =>
      exact .of_remember stored rfl fun name contained => .inr contained
  | ignored stored notices parsed ignored outcome =>
      cases outcome with
      | nothing free =>
          exact .of_remember stored rfl fun name contained =>
            .inr (OrderedSet.contains_erase.mp contained).2
      | removed held own =>
          exact .of_remember stored rfl fun name contained =>
            .inr (OrderedSet.contains_erase.mp contained).2
      | reload held foreign =>
          exact .of_remember stored rfl fun name contained =>
            .inr (OrderedSet.contains_erase.mp contained).2
  | replaced stored notices parsed enabled outcome =>
      cases outcome with
      | reload held foreign => exact .of_remember stored rfl fun name contained => .inr contained
      | failed unbuilt own => exact .of_remember stored rfl fun name contained => .inr contained
      | added built own => exact .of_remember stored rfl fun name contained => .inr contained
      | renamed built old free => exact .of_remember stored rfl fun name contained => .inr contained

end StoredQueryMap

end SmartMetWfs.QueryMap
