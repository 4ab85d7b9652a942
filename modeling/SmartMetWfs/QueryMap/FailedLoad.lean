import SmartMetWfs.QueryMap.World

/-!
# Failed loads

`check_file_hash` remembers the digest of a file before the file is parsed and its
handler constructed. When either of the two throws, the digest stays, and handling
the same event again with the same content stops at the digest check. The load is
not attempted a second time, whatever has become of the cause of the failure.
-/

namespace SmartMetWfs.QueryMap

open Foundation

variable {δ : Type} [DecidableEq δ]

namespace StoredQueryMap

/-- The digest check lets the file through to be read. -/
def RereadsFile (lib : Library δ) (queries : StoredQueryMap δ)
    (files : ByteString → Option ByteString) (fn : ByteString) : Prop :=
  (queries.checkFileHash lib files fn).1 = true

instance (lib : Library δ) (queries : StoredQueryMap δ) (files : ByteString → Option ByteString)
    (fn : ByteString) : Decidable (queries.RereadsFile lib files fn) :=
  inferInstanceAs (Decidable (_ = true))

omit [DecidableEq δ] in
/-- After a handler has followed a file there is nothing left to notice of it. -/
theorem Follows.unnoticed {lib lib' : Library δ} {files : ByteString → Option ByteString}
    {fn : ByteString} {before after : StoredQueryMap δ}
    (follows : Follows lib files fn before after)
    (sameDigest : lib'.digest = lib.digest) :
    ∀ content, files fn = some content → ¬ after.Notices lib' fn content := by
  intro content stored ⟨short, unknown⟩
  rw [sameDigest] at unknown
  exact unknown (follows.own content stored short)

/-- A file that is not noticed is not read again. -/
theorem not_rereadsFile {lib : Library δ} {queries : StoredQueryMap δ}
    {files : ByteString → Option ByteString} {fn : ByteString}
    (unnoticed : ∀ content, files fn = some content → ¬ queries.Notices lib fn content) :
    ¬ queries.RereadsFile lib files fn := by
  unfold RereadsFile
  rcases queries.checkFileHash_cases lib files fn with
    ⟨_, checked⟩ | ⟨content, stored, notices, _⟩
  · rw [checked]
    exact Bool.false_ne_true
  · exact absurd notices (unnoticed content stored)

/-- Only a created or modified configuration file can fail to load, and its handler
has then looked at its digest. -/
theorem follows_of_failure {lib : Library δ} {scene : Scene} {queries : StoredQueryMap δ}
    {fn : ByteString} {change : Change} {initialUpdate : Bool}
    (fails : (queries.handleConfigFileChange lib scene fn change initialUpdate).error ≠ none) :
    (change = .create ∨ change = .modify) ∧
      Follows lib scene.files fn queries
        (queries.handleConfigFileChange lib scene fn change initialUpdate).queries := by
  unfold handleConfigFileChange at fails ⊢
  split at fails
  · next handled =>
      rw [if_pos handled]
      cases change with
      | create => exact ⟨.inl rfl, (handleQueryAdd_outcome _ _ _ _ _).follows⟩
      | modify => exact ⟨.inr rfl, (handleQueryModify_outcome _ _ _ _).follows⟩
      | delete => exact absurd rfl fails
  · exact absurd rfl fails

/-- A change that is not noticed leaves the map. -/
theorem handleConfigFileChange_unnoticed (lib : Library δ) (scene : Scene)
    {queries : StoredQueryMap δ} {fn : ByteString} {change : Change} (initialUpdate : Bool)
    (present : change = .create ∨ change = .modify)
    (unnoticed : ∀ content, scene.files fn = some content → ¬ queries.Notices lib fn content) :
    queries.handleConfigFileChange lib scene fn change initialUpdate = ⟨queries, none⟩ := by
  unfold handleConfigFileChange
  split
  · rcases present with rfl | rfl
    · exact handleQueryAdd_unnoticed lib scene initialUpdate unnoticed
    · exact handleQueryModify_unnoticed lib scene unnoticed
  · rfl

/-- After every event that fails, the file is not read again, and handling the event
again changes nothing: neither a parser nor a handler factory that would succeed now
is asked. -/
theorem failed_load_not_retried (lib : Library δ) (scene : Scene) (queries : StoredQueryMap δ)
    (fn : ByteString) (change : Change) (initialUpdate : Bool)
    (fails : (queries.handleConfigFileChange lib scene fn change initialUpdate).error ≠ none) :
    let after := (queries.handleConfigFileChange lib scene fn change initialUpdate).queries
    ¬ after.RereadsFile lib scene.files fn ∧
      ∀ (lib' : Library δ) (constructs' : StoredQueryConfig → Bool), lib'.digest = lib.digest →
        after.handleConfigFileChange lib' ⟨scene.files, constructs'⟩ fn change initialUpdate =
          ⟨after, none⟩ := by
  intro after
  obtain ⟨present, follows⟩ := follows_of_failure fails
  refine ⟨not_rereadsFile (follows.unnoticed rfl), fun lib' constructs' sameDigest => ?_⟩
  exact handleConfigFileChange_unnoticed lib' _ initialUpdate present (follows.unnoticed sameDigest)

end StoredQueryMap

/-! ### A failing load -/

/-- One configuration file. -/
def loneFile : ByteString → Option ByteString :=
  sampleFiles [(ascii "a.conf", configText (ascii "q"))]

/-- The file is reported while its handler cannot be constructed. -/
def failedLoad : Outcome ByteString :=
  StoredQueryMap.initial.handleConfigFileChange sampleLibrary ⟨loneFile, fun _ => false⟩
    (ascii "a.conf") .create false

/-- The file is reported again when every handler can be constructed. -/
def repeatedLoad : Outcome ByteString :=
  failedLoad.queries.handleConfigFileChange sampleLibrary ⟨loneFile, fun _ => true⟩
    (ascii "a.conf") .create false

/-- The file is not read again, whatever the library. -/
theorem failed_load_not_retried_sample :
    ¬ failedLoad.queries.RereadsFile sampleLibrary loneFile (ascii "a.conf") ∧
      ∀ (lib' : Library ByteString) (constructs' : StoredQueryConfig → Bool),
        lib'.digest = sampleLibrary.digest →
          failedLoad.queries.handleConfigFileChange lib' ⟨loneFile, constructs'⟩ (ascii "a.conf")
            .create false = ⟨failedLoad.queries, none⟩ := by
  have fails : failedLoad.error ≠ none := by decide +kernel
  exact StoredQueryMap.failed_load_not_retried sampleLibrary ⟨loneFile, fun _ => false⟩
    .initial (ascii "a.conf") .create false fails

/-- The load failed, and the next event does not repeat it. -/
theorem failed_load_stays :
    failedLoad.error = some .construction ∧
      ¬ failedLoad.queries.RereadsFile sampleLibrary loneFile (ascii "a.conf") ∧
      repeatedLoad.error = none ∧ repeatedLoad.queries.handlerMap.keys = [] := by
  decide +kernel

end SmartMetWfs.QueryMap
