import SmartMetWfs.Xml.SchemaDownloads

/-!
# Merging downloaded schemas

`merge_downloaded_schemas` waits for downloads while it has the lock of the resolver, and it
erases the entries of which other threads may have iterators. In a fair run it ends all the
same and gives the lock back. No thread uses an erased entry as long as merges are begun only
when no thread has such an iterator.
-/

namespace SmartMetWfs.Xml

open Foundation

/-! ### The lock -/

/-- The thread is in the loop of `merge_downloaded_schemas`. -/
def Merges (resolution : Resolution) (place : Nat) (thread : ServerThread)
    (next : List ByteString) : Prop :=
  resolution.threads[place]? = some (.server thread) ∧ thread.stage = .merging next

/-- Only the thread that has the lock is in the loop, and the entries to come are there. -/
structure Locking (resolution : Resolution) : Prop where
  locked : ∀ place thread next, Merges resolution place thread next →
    resolution.shared.locked = true
  entries : ∀ place thread next, Merges resolution place thread next →
    next.Nodup ∧ ∀ uri ∈ next, ∃ download, resolution.shared.downloadMap.find uri = some download
  once : ∀ place place' thread thread' next next', Merges resolution place thread next →
    Merges resolution place' thread' next' → place = place'
  held : resolution.shared.locked = true →
    ∃ place thread next, Merges resolution place thread next

/-- Nothing is locked when the resolver has been loaded. -/
theorem locking_loaded (preloaded : OrderedMap ByteString ByteString) (enableDownload : Bool) :
    Locking (loaded preloaded enableDownload) := by
  refine ⟨?_, ?_, ?_, nofun⟩
  · rintro place thread next ⟨there, -⟩
    cases there
  · rintro place thread next ⟨there, -⟩
    cases there
  · rintro place place' thread thread' next next' ⟨there, -⟩
    cases there

section Steps

variable {resolution : Resolution} {thread : ServerThread}
  {effect : Effect EntityResolver Thread}

/-- While another thread has the lock, a step keeps it and all entries with their tasks. -/
theorem ServerStep.locked (step : ServerStep resolution thread effect)
    (locked : resolution.shared.locked = true) (apart : ∀ next, thread.stage ≠ .merging next) :
    effect.shared.locked = true ∧
      (∀ next after, effect.thread = .server after → after.stage ≠ .merging next) ∧
      ∀ uri download, resolution.shared.downloadMap.find uri = some download →
        ∃ after, effect.shared.downloadMap.find uri = some after ∧ after.task = download.task := by
  have updated : ∀ (uri : ByteString) (before changed : Download),
      resolution.shared.downloadMap.find uri = some before → changed.task = before.task →
      ∀ uri' download, resolution.shared.downloadMap.find uri' = some download →
        ∃ after, (resolution.shared.downloadMap.set uri changed).find uri' = some after ∧
          after.task = download.task := by
    intro uri before changed found sameTask uri' download there
    rw [OrderedMap.find_set]
    split
    · next same =>
        subst same
        cases found.symm.trans there
        exact ⟨changed, rfl, sameTask⟩
    · exact ⟨download, there, rfl⟩
  cases step with
  | starts _ _ _ _ _ free => cases locked.symm.trans free
  | locks _ free => cases locked.symm.trans free
  | merges _ _ _ _ merging => exact absurd merging (apart _)
  | skips _ _ merging => exact absurd merging (apart _)
  | unlocks merging => exact absurd merging (apart _)
  | gets uri downloading task content download waiting ended found =>
      refine ⟨locked, ?_, updated uri download _ found rfl⟩
      rintro next after same
      cases same
      exact nofun
  | counts uri task download now waiting ended found =>
      refine ⟨locked, ?_, updated uri download _ found rfl⟩
      rintro next after same
      cases same
      exact nofun
  | enters parsing | leaves _ _ parsing | refers _ parsing | finds _ _ _ parsing =>
      refine ⟨locked, ?_, fun uri download there => ⟨download, there, rfl⟩⟩
      rintro next after same
      cases same
      exact apart next
  | joins | copies | loses | fails | finishes =>
      refine ⟨locked, ?_, fun uri download there => ⟨download, there, rfl⟩⟩
      rintro next after same
      cases same
      exact nofun

/-- A thread that is in the loop after its step has the lock, and the entries are there. -/
theorem ServerStep.merging (step : ServerStep resolution thread effect)
    (before : ∀ next, thread.stage = .merging next → resolution.shared.locked = true ∧
      next.Nodup ∧ ∀ uri ∈ next, ∃ download, resolution.shared.downloadMap.find uri = some download)
    {after : ServerThread} {next : List ByteString} (same : effect.thread = .server after)
    (merging : after.stage = .merging next) :
    effect.shared.locked = true ∧ next.Nodup ∧
      ∀ uri ∈ next, ∃ download, effect.shared.downloadMap.find uri = some download := by
  cases step with
  | enters parsing | leaves _ _ parsing | refers _ parsing | finds _ _ _ parsing =>
      cases same
      cases parsing.symm.trans merging
  | locks =>
      cases same
      cases merging
      exact ⟨rfl, OrderedMap.nodup_keys _, fun uri member => OrderedMap.mem_keys.mp member⟩
  | merges uri content rest download wasMerging =>
      cases same
      cases merging
      obtain ⟨locked, nodup, entries⟩ := before _ wasMerging
      obtain ⟨fresh, nodup⟩ := List.nodup_cons.mp nodup
      refine ⟨locked, nodup, fun uri' member => ?_⟩
      obtain ⟨download', found⟩ := entries uri' (List.mem_cons_of_mem _ member)
      have other : uri' ≠ uri := by
        rintro rfl
        exact fresh member
      exact ⟨download', (OrderedMap.find_erase_ne other _).trans found⟩
  | skips uri rest wasMerging =>
      cases same
      cases merging
      obtain ⟨locked, nodup, entries⟩ := before _ wasMerging
      exact ⟨locked, (List.nodup_cons.mp nodup).2,
        fun uri member => entries uri (List.mem_cons_of_mem _ member)⟩
  | _ =>
      cases same
      cases merging

/-- If the lock is taken after a step, the thread has it, or another one had it before. -/
theorem ServerStep.held (step : ServerStep resolution thread effect)
    (locked : effect.shared.locked = true) :
    (∃ after next, effect.thread = .server after ∧ after.stage = .merging next) ∨
      resolution.shared.locked = true ∧ ∀ next, thread.stage ≠ .merging next := by
  cases step with
  | starts _ _ _ _ _ free | joins _ _ _ _ _ free => cases locked.symm.trans free
  | locks | merges | skips => exact .inl ⟨_, _, rfl, rfl⟩
  | unlocks => cases locked
  | enters parsing | leaves _ _ parsing | refers _ parsing | finds _ _ _ parsing
    | finishes parsing =>
      exact .inr ⟨locked, fun next stage => nomatch parsing.symm.trans stage⟩
  | copies _ _ _ unlocked =>
      exact .inr ⟨locked, fun next stage => nomatch unlocked.symm.trans stage⟩
  | gets _ _ _ _ _ waiting | counts _ _ _ _ waiting | fails _ _ waiting =>
      exact .inr ⟨locked, fun next stage => nomatch waiting.symm.trans stage⟩
  | loses _ _ _ outside =>
      refine .inr ⟨locked, fun next stage => ?_⟩
      rcases outside with ⟨unlocked, -⟩ | ⟨_, _, waiting, -⟩
      · cases unlocked.symm.trans stage
      · cases waiting.symm.trans stage

/-- The step of a thread of the server, if the step is one of a thread of the server. -/
theorem Sound.serverStep {preloaded : OrderedMap ByteString ByteString} {enableDownload : Bool}
    (sound : Sound preloaded enableDownload resolution) {tid : Nat}
    (found : resolution.threads[tid]? = some (.server thread)) {choice : Choice}
    (acted : resolve resolution (.server thread) choice = some effect) :
    ServerStep resolution thread effect :=
  serverAct_step (fun uri download there => (sound.entries uri download there).2.1)
    (fun uri downloading task waiting =>
      ((sound.servers tid thread found).waiting uri downloading task waiting).2) acted

/-- A thread in the loop after a step was there before or has made the step. -/
theorem merges_after {tid : Nat} {place : Nat} {after : ServerThread} {next : List ByteString}
    (starts : ∀ other, .server other ∉ effect.started)
    (merges : Merges ⟨effect.shared, Pool.threadsAfter resolution.threads tid effect⟩ place after
      next) :
    place = tid ∧ effect.thread = .server after ∧ after.stage = .merging next ∨
      place ≠ tid ∧ Merges resolution place after next := by
  obtain ⟨there, stage⟩ := merges
  rcases Pool.threadsAfter_cases there with ⟨same, self⟩ | ⟨other, before⟩ | ⟨offset, -, started⟩
  · exact .inl ⟨same, self.symm, stage⟩
  · exact .inr ⟨other, before, stage⟩
  · exact absurd (List.mem_of_getElem? started) (starts after)

/-- A step of the server starts no thread of the server. -/
theorem ServerStep.started (step : ServerStep resolution thread effect) :
    ∀ other, .server other ∉ effect.started := by
  cases step <;> simp

/-- A step of the server keeps the account of the lock. -/
theorem Locking.after_step {tid : Nat} (locking : Locking resolution)
    (found : resolution.threads[tid]? = some (.server thread))
    (step : ServerStep resolution thread effect) :
    Locking ⟨effect.shared, Pool.threadsAfter resolution.threads tid effect⟩ := by
  have own : ∀ next, thread.stage = .merging next → resolution.shared.locked = true ∧
      next.Nodup ∧ ∀ uri ∈ next, ∃ download,
        resolution.shared.downloadMap.find uri = some download :=
    fun next stage => ⟨locking.locked tid thread next ⟨found, stage⟩,
      locking.entries tid thread next ⟨found, stage⟩⟩
  have others : ∀ place after next, place ≠ tid → Merges resolution place after next →
      effect.shared.locked = true ∧
        (∀ next after, effect.thread = .server after → after.stage ≠ .merging next) ∧
        ∀ uri download, resolution.shared.downloadMap.find uri = some download →
          ∃ after, effect.shared.downloadMap.find uri = some after ∧
            after.task = download.task := by
    intro place after next other merges
    exact step.locked (locking.locked place after next merges) fun next' stage =>
      other (locking.once place tid after thread next next' merges ⟨found, stage⟩)
  refine ⟨?_, ?_, ?_, ?_⟩
  · intro place after next merges
    rcases merges_after step.started merges with ⟨-, same, stage⟩ | ⟨other, before⟩
    · exact (step.merging own same stage).1
    · exact (others place after next other before).1
  · intro place after next merges
    rcases merges_after step.started merges with ⟨-, same, stage⟩ | ⟨other, before⟩
    · exact (step.merging own same stage).2
    · obtain ⟨nodup, entries⟩ := locking.entries place after next before
      refine ⟨nodup, fun uri member => ?_⟩
      obtain ⟨download, there⟩ := entries uri member
      obtain ⟨download', there', -⟩ := (others place after next other before).2.2 uri download there
      exact ⟨download', there'⟩
  · intro place place' after after' next next' merges merges'
    rcases merges_after step.started merges with ⟨rfl, same, stage⟩ | ⟨other, before⟩
    · rcases merges_after step.started merges' with ⟨rfl, -⟩ | ⟨other', before'⟩
      · rfl
      · exact absurd stage ((others place' after' next' other' before').2.1 next after same)
    · rcases merges_after step.started merges' with ⟨rfl, same', stage'⟩ | ⟨other', before'⟩
      · exact absurd stage' ((others place after next other before).2.1 next' after' same')
      · exact locking.once place place' after after' next next' before before'
  · intro locked
    rcases step.held locked with ⟨after, next, same, stage⟩ | ⟨lockedBefore, apart⟩
    · refine ⟨tid, after, next, ?_, stage⟩
      rw [← same]
      exact Pool.threadsAfter_self (List.getElem?_eq_some_iff.mp found).1
    · obtain ⟨place, holder, next, there, stage⟩ := locking.held lockedBefore
      refine ⟨place, holder, next, Pool.threadsAfter_other ?_ there, stage⟩
      rintro rfl
      cases found.symm.trans there
      exact apart next stage

end Steps

/-- What holds in all interleavings, with the lock. -/
def SoundLocking (preloaded : OrderedMap ByteString ByteString) (enableDownload : Bool)
    (resolution : Resolution) : Prop :=
  Sound preloaded enableDownload resolution ∧ Locking resolution

section Runs

variable {preloaded : OrderedMap ByteString ByteString} {enableDownload : Bool}

/-- Whoever joins the threads outside the loop changes nothing. -/
theorem Locking.same_merges {resolution after : Resolution} (locking : Locking resolution)
    (shared : after.shared = resolution.shared)
    (goOn : ∀ (place : Nat) thread, resolution.threads[place]? = some (.server thread) →
      after.threads[place]? = some (.server thread))
    (before : ∀ place thread next, Merges after place thread next →
      Merges resolution place thread next) : Locking after := by
  refine ⟨?_, ?_, ?_, ?_⟩
  · intro place thread next merges
    rw [shared]
    exact locking.locked place thread next (before place thread next merges)
  · intro place thread next merges
    rw [shared]
    exact locking.entries place thread next (before place thread next merges)
  · intro place place' thread thread' next next' merges merges'
    exact locking.once place place' thread thread' next next' (before place thread next merges)
      (before place' thread' next' merges')
  · intro locked
    rw [shared] at locked
    obtain ⟨place, thread, next, there, stage⟩ := locking.held locked
    exact ⟨place, thread, next, goOn place thread there, stage⟩

/-- Every event keeps the account of the lock. -/
theorem Locking.step {resolution after : Resolution} {event : PoolEvent Thread Choice}
    (sound : Sound preloaded enableDownload resolution) (locking : Locking resolution)
    (enters : Enters resolution event) (stepped : resolution.step resolve event = some after) :
    Locking after := by
  cases event with
  | call thread =>
      obtain rfl : thread = .server .start := enters
      rw [Pool.step_call stepped]
      refine locking.same_merges rfl (fun place thread there => (List.getElem?_append_left
        (List.getElem?_eq_some_iff.mp there).1).trans there) ?_
      rintro place thread next ⟨there, stage⟩
      rw [List.getElem?_append] at there
      split at there
      · exact ⟨there, stage⟩
      · cases List.mem_singleton.mp (List.mem_of_getElem? there)
        cases stage
  | run tid choice =>
      obtain ⟨thread, effect, found, acted, rfl⟩ := Pool.step_run stepped
      cases thread with
      | server thread => exact locking.after_step found (sound.serverStep found acted)
      | download uri =>
          cases choice with
          | performs result =>
              obtain rfl := Option.some.inj acted
              refine locking.same_merges rfl (fun place thread there =>
                Pool.threadsAfter_other ?_ there) fun place thread next merges => ?_
              · rintro rfl
                cases found.symm.trans there
              rcases @merges_after resolution
                ⟨resolution.shared, .downloaded uri result, []⟩ _ _ _ _
                (fun _ => List.not_mem_nil) merges with ⟨-, same, -⟩ | ⟨-, merges⟩
              · cases same
              · exact merges
          | _ => cases acted
      | downloaded uri result => cases acted

/-- Every event keeps both the account of the lock and what is sound. -/
theorem SoundLocking.step {resolution after : Resolution} {event : PoolEvent Thread Choice}
    (holds : SoundLocking preloaded enableDownload resolution) (enters : Enters resolution event)
    (stepped : resolution.step resolve event = some after) :
    SoundLocking preloaded enableDownload after :=
  ⟨holds.1.step enters stepped, holds.2.step holds.1 enters stepped⟩

/-- Both hold in every reachable state. -/
theorem soundLocking_of_reached {resolution : Resolution}
    (reached : Pool.Reached resolve Enters (loaded preloaded enableDownload) resolution) :
    SoundLocking preloaded enableDownload resolution :=
  reached.invariant ⟨sound_loaded _ _, locking_loaded _ _⟩ fun _ _ _ => SoundLocking.step

/-! ### Merges end -/

variable {run : Pool.InfiniteRun resolve Enters}

/-- After an event every thread is there and has gone on. -/
theorem later_step {resolution after : Resolution} {event : PoolEvent Thread Choice}
    (holds : SoundLocking preloaded enableDownload resolution)
    (stepped : resolution.step resolve event = some after) :
    Later resolution.threads after.threads := by
  cases event with
  | call thread =>
      rw [Pool.step_call stepped]
      exact fun place thread there => ⟨thread, (List.getElem?_append_left
        (List.getElem?_eq_some_iff.mp there).1).trans there, .refl thread⟩
  | run tid choice =>
      obtain ⟨thread, effect, found, acted, rfl⟩ := Pool.step_run stepped
      apply later_threadsAfter found
      cases thread with
      | server thread =>
          obtain ⟨after, same, references⟩ := (holds.1.serverStep found acted).goesOn
          rw [same]
          exact .server thread after references
      | download uri =>
          cases choice with
          | performs result =>
              obtain rfl := Option.some.inj acted
              exact .performs uri result
          | _ => cases acted
      | downloaded uri result => cases acted

/-- The thread `task` has ended its download. -/
def Ended (resolution : Resolution) (task : Nat) (uri : ByteString) : Prop :=
  ∃ result, resolution.threads[task]? = some (.downloaded uri result)

/-- A task that has ended stays so. -/
theorem Ended.step {resolution after : Resolution} {event : PoolEvent Thread Choice} {task : Nat}
    {uri : ByteString} (ended : Ended resolution task uri)
    (holds : SoundLocking preloaded enableDownload resolution)
    (stepped : resolution.step resolve event = some after) : Ended after task uri := by
  obtain ⟨result, there⟩ := ended
  obtain ⟨now, found, goesOn⟩ := later_step holds stepped _ _ there
  cases goesOn
  exact ⟨result, found⟩

/-- In a fair run every download ends. -/
theorem download_ends (fair : run.Fair) {time : Nat} {task : Nat} {uri : ByteString}
    (attempt : Attempt (run.state time).threads task uri) :
    ∃ later, time ≤ later ∧ Ended (run.state later) task uri := by
  rcases attempt with running | ended
  · refine @Pool.InfiniteRun.eventually_steps _ _ _ _ _ run task (.download uri) (fun _ => True)
      (fun resolution => Ended resolution task uri) ?_ ?_ ?_ fair time trivial running
    · exact fun _ _ _ _ _ _ => trivial
    · intro resolution _ there
      exact (Pool.canRun_iff there).mpr ⟨.performs none, rfl⟩
    · intro resolution choice after _ _ there stepped
      obtain ⟨thread, effect, found, acted, rfl⟩ := Pool.step_run stepped
      cases found.symm.trans there
      cases choice with
      | performs result =>
          obtain rfl := Option.some.inj acted
          exact ⟨result, Pool.threadsAfter_self (List.getElem?_eq_some_iff.mp there).1⟩
      | _ => cases acted
  · exact ⟨time, Nat.le_refl _, ended⟩

/-- The loop makes a turn when the thread makes a step. -/
theorem Merges.turn {resolution after : Resolution} {place : Nat} {thread : ServerThread}
    {uri : ByteString} {next : List ByteString} {choice : Choice}
    (merges : Merges resolution place thread (uri :: next))
    (stepped : resolution.step resolve (.run place choice) = some after) :
    Merges after place { thread with stage := .merging next } next := by
  obtain ⟨there, stage⟩ := merges
  obtain ⟨_, effect, found, acted, rfl⟩ := Pool.step_run stepped
  cases found.symm.trans there
  refine ⟨(Pool.threadsAfter_self (List.getElem?_eq_some_iff.mp there).1).trans ?_, rfl⟩
  simp only [resolve, serverAct, stage] at acted
  cases choice with
  | proceed now =>
      dsimp only [mergeNext] at acted
      split at acted
      · cases acted
      · split at acted
        · obtain rfl := Option.some.inj acted
          rfl
        · obtain rfl := Option.some.inj acted
          rfl
        · cases acted
  | _ => cases acted

/-- While a thread is in the loop, the steps of the others keep all entries and their tasks. -/
theorem Merges.entry_kept {resolution after : Resolution} {event : PoolEvent Thread Choice}
    {place : Nat} {thread : ServerThread} {next : List ByteString}
    (holds : SoundLocking preloaded enableDownload resolution)
    (merges : Merges resolution place thread next)
    (stepped : resolution.step resolve event = some after)
    (other : ∀ choice, event ≠ .run place choice) {uri : ByteString} {download : Download}
    (found : resolution.shared.downloadMap.find uri = some download) :
    ∃ now, after.shared.downloadMap.find uri = some now ∧ now.task = download.task := by
  cases event with
  | call thread =>
      rw [Pool.step_call stepped]
      exact ⟨download, found, rfl⟩
  | run tid choice =>
      obtain ⟨actor, effect, there, acted, rfl⟩ := Pool.step_run stepped
      cases actor with
      | server actor =>
          apply ((holds.1.serverStep there acted).locked
            (holds.2.locked place thread next merges) ?_).2.2 uri download found
          intro next' stage
          have same := holds.2.once tid place actor thread next' next ⟨there, stage⟩ merges
          exact other choice (by rw [same])
      | download uri' =>
          cases choice with
          | performs result =>
              obtain rfl := Option.some.inj acted
              exact ⟨download, found, rfl⟩
          | _ => cases acted
      | downloaded uri' result => cases acted

/-- In a fair run the loop makes its next turn. -/
theorem merge_turns (fair : run.Fair) {time : Nat}
    (holds : SoundLocking preloaded enableDownload (run.state time)) {place : Nat}
    {thread : ServerThread} {uri : ByteString} {next : List ByteString}
    (merges : Merges (run.state time) place thread (uri :: next)) :
    ∃ later, time ≤ later ∧ SoundLocking preloaded enableDownload (run.state later) ∧
      Merges (run.state later) place { thread with stage := .merging next } next := by
  obtain ⟨download, found⟩ :=
    (holds.2.entries place thread _ merges).2 uri List.mem_cons_self
  obtain ⟨endTime, since, ended⟩ :=
    download_ends fair (holds.1.entries uri download found).2.1
  let here : Resolution → Prop := fun resolution =>
    SoundLocking preloaded enableDownload resolution ∧
      Merges resolution place thread (uri :: next) ∧
      ∃ now, resolution.shared.downloadMap.find uri = some now ∧ now.task = download.task
  let turned : Resolution → Prop := fun resolution =>
    SoundLocking preloaded enableDownload resolution ∧
      Merges resolution place { thread with stage := .merging next } next
  have keeps : ∀ resolution event after, here resolution → Enters resolution event →
      resolution.step resolve event = some after → here after ∨ turned after := by
    rintro resolution event after ⟨holds, merges, now, found, task⟩ enters stepped
    by_cases own : ∃ choice, event = .run place choice
    · obtain ⟨choice, rfl⟩ := own
      exact .inr ⟨holds.step enters stepped, merges.turn stepped⟩
    · have other := fun choice same => own ⟨choice, same⟩
      obtain ⟨later, found', task'⟩ := merges.entry_kept holds stepped other found
      exact .inl ⟨holds.step enters stepped,
        ⟨Pool.step_frame stepped merges.1 other, merges.2⟩, later, found', task'.trans task⟩
  have turn : ∀ resolution choice after, here resolution →
      Enters resolution (.run place choice) →
      resolution.step resolve (.run place choice) = some after → turned after :=
    fun resolution choice after ⟨holds, merges, _⟩ enters stepped =>
      ⟨holds.step enters stepped, merges.turn stepped⟩
  rcases Pool.InfiniteRun.first_step keeps ⟨holds, merges, download, found, rfl⟩ merges.1 since with
    ⟨final, after, done⟩ | ⟨first, choice, after, still, -, runs⟩ | ⟨still, -⟩
  · exact ⟨final, after, done⟩
  · rcases run.moves first with ⟨idle, -⟩ | ⟨event, happens, enters, stepped⟩
    · cases runs.symm.trans idle
    · obtain rfl := Option.some.inj (runs.symm.trans happens)
      exact ⟨first + 1, Nat.le_succ_of_le after, turn _ _ _ still enters stepped⟩
  · obtain ⟨later, after, done⟩ := @Pool.InfiniteRun.eventually_done _ _ _ _ _ run place turned
      (fun resolution => here resolution ∧ Ended resolution download.task uri) (by
        rintro resolution event after ⟨still, ended⟩ enters stepped
        exact (keeps _ _ _ still enters stepped).imp_left fun still' =>
          ⟨still', ended.step still.1 stepped⟩) Nat _ Nat.lt_wfRel.wf (fun _ => 0) (by
        rintro resolution ⟨⟨holds, merges, now, found, task⟩, result, ended⟩
        refine (Pool.canRun_iff merges.1).mpr ⟨.proceed 0, ?_⟩
        simp only [resolve, serverAct, merges.2, mergeNext, found, task, ended]
        cases result <;> rfl) (by
        intro resolution choice after _ _ ⟨still, _⟩ enters stepped _ _
        exact .inl (turn _ _ _ still enters stepped)) fair endTime ⟨still, ended⟩
    exact ⟨later, since.trans after, done⟩

/-- In a fair run a merge ends and gives the lock back: the downloads for which it waits end
without the lock. -/
theorem merge_releases_lock (fair : run.Fair) {time : Nat}
    (reached : Pool.Reached resolve Enters (loaded preloaded enableDownload) (run.state time))
    (locked : (run.state time).shared.locked = true) :
    ∃ later, time ≤ later ∧ (run.state later).shared.locked = false := by
  have holds := soundLocking_of_reached reached
  obtain ⟨place, thread, next, merges⟩ := holds.2.held locked
  clear reached locked
  induction next generalizing time thread with
  | nil =>
      refine @Pool.InfiniteRun.eventually_steps _ _ _ _ _ run place (.server thread)
        (fun _ => True) (fun resolution => resolution.shared.locked = false) ?_ ?_ ?_ fair time
        trivial merges.1
      · exact fun _ _ _ _ _ _ => trivial
      · intro resolution _ there
        refine (Pool.canRun_iff there).mpr ⟨.proceed 0, ?_⟩
        simp [resolve, serverAct, merges.2]
      · intro resolution choice after _ _ there stepped
        obtain ⟨_, effect, found, acted, rfl⟩ := Pool.step_run stepped
        cases found.symm.trans there
        simp only [resolve, serverAct, merges.2] at acted
        cases choice with
        | proceed now =>
            obtain rfl := Option.some.inj acted
            rfl
        | _ => cases acted
  | cons uri next ih =>
      obtain ⟨turned, since, holds, merges⟩ := merge_turns fair holds merges
      obtain ⟨later, after, free⟩ := ih holds _ merges
      exact ⟨later, since.trans after, free⟩

end Runs

/-- A thread merges the schema that it has downloaded. -/
def mergeEvents : List (PoolEvent Thread Choice) :=
  downloadEvents ++ [.run 0 .leaveScope, .run 0 .merge, .run 0 (.proceed 3), .run 0 (.proceed 4),
    .run 0 .finish]

/-- The schema is in the cache, and all threads have ended. -/
def afterMerge : Resolution :=
  ⟨⟨false, OrderedMap.set (ascii "http://a") (ascii "x") .empty, .empty, true⟩,
    [.server { suppliedThread with saved := [], downloadAllowed := false, stage := .finished },
      .downloaded (ascii "http://a") (some (ascii "x"))]⟩

/-- The events lead to the state after a merge. -/
theorem mergeEvents_lead :
    Pool.replay resolve Enters (loaded .empty true) mergeEvents = some afterMerge := by
  rfl

/-- Nothing is left to do there. -/
theorem afterMerge_idle (tid : Nat) : ¬Pool.CanRun resolve afterMerge tid := by
  intro ⟨choice, possible⟩
  rcases tid with _ | _ | tid <;> cases possible

/-- The lock is given back in the run of these events. -/
theorem merge_releases_sample :
    ∃ later, 8 ≤ later ∧
      ((Pool.InfiniteRun.ofEvents _ _ _ mergeEvents_lead).state later).shared.locked = false :=
  @merge_releases_lock .empty true _
    (Pool.InfiniteRun.ofEvents_fair mergeEvents_lead afterMerge_idle) 8
    (Pool.Reached.start.replay (show Pool.replay resolve Enters (loaded .empty true)
      (mergeEvents.take 8) =
        some ((Pool.InfiniteRun.ofEvents _ _ _ mergeEvents_lead).state 8) by rfl))
    rfl

/-! ### Erased entries -/

/-- The URI of the entry of which the thread has an iterator outside the lock. -/
def ServerThread.iterator (thread : ServerThread) : Option ByteString :=
  match thread.stage with
  | .unlocked uri _ => some uri
  | .waiting uri _ _ => some uri
  | _ => none

/-- Whether a thread holds an iterator into the map of downloads. -/
def Thread.hasIterator : Thread → Bool
  | .server thread => thread.iterator.isSome
  | _ => false

/-- Merges are begun only when no thread has an iterator. -/
def QuietlyEnters (resolution : Resolution) : PoolEvent Thread Choice → Prop
  | .call thread => thread = .server .start
  | .run _ choice => choice = .merge → ∀ thread ∈ resolution.threads, thread.hasIterator = false

instance (resolution : Resolution) : DecidablePred (QuietlyEnters resolution)
  | .call thread => inferInstanceAs (Decidable (thread = .server .start))
  | .run _ choice => inferInstanceAs (Decidable (choice = .merge →
      ∀ thread ∈ resolution.threads, thread.hasIterator = false))

/-- A quiet event is one that can happen. -/
theorem QuietlyEnters.enters {resolution : Resolution} {event : PoolEvent Thread Choice}
    (quietly : QuietlyEnters resolution event) : Enters resolution event := by
  cases event with
  | call thread => exact quietly
  | run tid choice => trivial

/-- Iterators are valid, none exists while there is a merge, and no thread is lost. -/
structure Quiet (resolution : Resolution) : Prop where
  free : resolution.shared.locked = true → ∀ thread ∈ resolution.threads,
    thread.hasIterator = false
  valid : ∀ (place : Nat) thread uri, resolution.threads[place]? = some (.server thread) →
    thread.iterator = some uri → resolution.shared.downloadMap.find uri ≠ none
  safe : ∀ (place : Nat) thread, resolution.threads[place]? = some (.server thread) →
    thread.stage ≠ .lost

section Quiet

variable {resolution : Resolution} {thread after : ServerThread}
  {effect : Effect EntityResolver Thread}

/-- An iterator is an old one, or it was taken when nothing was locked. -/
theorem ServerStep.iterator (step : ServerStep resolution thread effect)
    (same : effect.thread = .server after) {uri : ByteString} (has : after.iterator = some uri) :
    thread.iterator = some uri ∨
      effect.shared.locked = false ∧ effect.shared.downloadMap.find uri ≠ none := by
  cases step with
  | starts identifier uri' now _ _ free =>
      cases same
      cases has
      refine .inr ⟨free, ?_⟩
      simp
  | joins identifier uri' download _ _ free found =>
      cases same
      cases has
      refine .inr ⟨free, ?_⟩
      simp [found]
  | copies uri' downloading download unlocked =>
      cases same
      cases has
      left
      simp [ServerThread.iterator, unlocked]
  | enters parsing | leaves _ _ parsing | refers _ parsing | finds _ _ _ parsing =>
      cases same
      simp [ServerThread.iterator, ServerThread.refersTo, parsing] at has
  | _ =>
      cases same
      cases has

/-- Entries are erased only by the thread that merges. -/
theorem ServerStep.entries_kept (step : ServerStep resolution thread effect) {uri : ByteString}
    (present : resolution.shared.downloadMap.find uri ≠ none) :
    effect.shared.downloadMap.find uri ≠ none ∨ ∃ next, thread.stage = .merging next := by
  cases step with
  | merges _ _ _ _ merging => exact .inr ⟨_, merging⟩
  | starts | gets | counts =>
      left
      dsimp only
      rw [OrderedMap.find_set]
      split
      · exact Option.some_ne_none _
      · exact present
  | _ => exact .inl present

/-- A thread is lost by using an iterator of an erased entry. -/
theorem ServerStep.lost (step : ServerStep resolution thread effect)
    (same : effect.thread = .server after) (lost : after.stage = .lost) :
    ∃ uri, thread.iterator = some uri ∧ resolution.shared.downloadMap.find uri = none := by
  cases step with
  | loses uri downloading received outside erased =>
      refine ⟨uri, ?_, erased⟩
      rcases outside with ⟨unlocked, -⟩ | ⟨task, result, waiting, -⟩
      · simp [ServerThread.iterator, unlocked]
      · simp [ServerThread.iterator, waiting]
  | enters parsing | leaves _ _ parsing | refers _ parsing | finds _ _ _ parsing =>
      cases same
      cases parsing.symm.trans lost
  | _ =>
      cases same
      cases lost

/-- A request for a schema leaves the lock as it is. -/
theorem getSchema_locked (resolver : EntityResolver) (thread : ServerThread) (task : Nat)
    (uri : ByteString) (now : Int) :
    (getSchema resolver thread task uri now).shared.locked = resolver.locked := by
  unfold getSchema
  split
  · rfl
  · split
    · dsimp only
      split <;> rfl
    · rfl

/-- The lock is taken by the choice to merge. -/
theorem serverAct_locked {choice : Choice} (parsing : thread.stage = .parsing)
    (acted : serverAct resolution thread choice = some effect) :
    effect.shared.locked = resolution.shared.locked ∨ choice = .merge := by
  simp only [serverAct, parsing] at acted
  cases choice with
  | merge => exact .inr rfl
  | enterScope =>
      obtain rfl := Option.some.inj acted
      exact .inl rfl
  | leaveScope =>
      dsimp only at acted
      split at acted
      · cases acted
      · obtain rfl := Option.some.inj acted
        exact .inl rfl
  | resolve identifier now =>
      dsimp only at acted
      split at acted
      · obtain rfl := Option.some.inj acted
        exact .inl rfl
      · split at acted
        · cases acted
        · obtain rfl := Option.some.inj acted
          exact .inl (getSchema_locked _ _ _ _ _)
  | finish =>
      dsimp only at acted
      split at acted
      · obtain rfl := Option.some.inj acted
        exact .inl rfl
      · cases acted
  | proceed now => cases acted
  | performs result => cases acted

/-- If the lock is taken after a step, it was before, or no thread had an iterator. -/
theorem ServerStep.locked_before {tid : Nat} {choice : Choice}
    (step : ServerStep resolution thread effect)
    (acted : serverAct resolution thread choice = some effect)
    (quietly : QuietlyEnters resolution (.run tid choice)) (locked : effect.shared.locked = true) :
    resolution.shared.locked = true ∨
      ∀ other ∈ resolution.threads, other.hasIterator = false := by
  cases step with
  | locks parsing free =>
      rcases serverAct_locked parsing acted with same | rfl
      · cases (locked.symm.trans same).trans free
      · exact .inr (quietly rfl)
  | starts _ _ _ _ _ free | joins _ _ _ _ _ free => cases locked.symm.trans free
  | unlocks => cases locked
  | _ => exact .inl locked

/-- A step of the server under quiet merges keeps all iterators valid. -/
theorem Quiet.after_step {tid : Nat} {choice : Choice} (quiet : Quiet resolution)
    (locking : Locking resolution) (quietly : QuietlyEnters resolution (.run tid choice))
    (found : resolution.threads[tid]? = some (.server thread))
    (step : ServerStep resolution thread effect)
    (acted : serverAct resolution thread choice = some effect) :
    Quiet ⟨effect.shared, Pool.threadsAfter resolution.threads tid effect⟩ := by
  have earlier : ∀ (place : Nat) other,
      (Pool.threadsAfter resolution.threads tid effect)[place]? = some (.server other) →
        effect.thread = .server other ∨ resolution.threads[place]? = some (.server other) := by
    intro place other there
    rcases Pool.threadsAfter_cases there with ⟨-, self⟩ | ⟨-, before⟩ | ⟨offset, -, started⟩
    · exact .inl self.symm
    · exact .inr before
    · exact absurd (List.mem_of_getElem? started) (step.started other)
  have noIterator : effect.shared.locked = true →
      ∀ (place : Nat) other, resolution.threads[place]? = some (.server other) →
        other.iterator = none := by
    intro locked place other there
    have none : (Thread.server other).hasIterator = false := by
      rcases step.locked_before acted quietly locked with before | quietThreads
      · exact quiet.free before _ (List.mem_of_getElem? there)
      · exact quietThreads _ (List.mem_of_getElem? there)
    exact Option.isNone_iff_eq_none.mp (Option.isSome_eq_false_iff.mp none)
  refine ⟨?_, ?_, ?_⟩
  · intro locked other member
    cases other with
    | server other =>
        obtain ⟨place, there⟩ := List.mem_iff_getElem?.mp member
        have none : other.iterator = none := by
          rcases earlier place other there with same | before
          · cases has : other.iterator with
            | none => rfl
            | some uri =>
                rcases step.iterator same has with before | ⟨free, -⟩
                · cases before.symm.trans (noIterator locked tid thread found)
                · cases locked.symm.trans free
          · exact noIterator locked place other before
        simp [Thread.hasIterator, none]
    | download uri => rfl
    | downloaded uri result => rfl
  · intro place other uri there has
    have kept : ∀ (place : Nat) other, resolution.threads[place]? = some (.server other) →
        other.iterator = some uri → effect.shared.downloadMap.find uri ≠ none := by
      intro place other there has
      rcases step.entries_kept (quiet.valid place other uri there has) with still | ⟨next, stage⟩
      · exact still
      · have free := quiet.free (locking.locked tid thread next ⟨found, stage⟩) _
          (List.mem_of_getElem? there)
        simp [Thread.hasIterator, has] at free
    rcases earlier place other there with same | before
    · rcases step.iterator same has with before | ⟨-, present⟩
      · exact kept tid thread found before
      · exact present
    · exact kept place other before has
  · intro place other there lost
    rcases earlier place other there with same | before
    · obtain ⟨uri, has, erased⟩ := step.lost same lost
      exact quiet.valid tid thread uri found has erased
    · exact quiet.safe place other before lost

/-- Iterators stay valid while the resolver is not changed and none is new. -/
theorem Quiet.same_shared {after : Resolution} (quiet : Quiet resolution)
    (shared : after.shared = resolution.shared)
    (before : ∀ (place : Nat) thread, after.threads[place]? = some (.server thread) →
      resolution.threads[place]? = some (.server thread) ∨ thread = .start) : Quiet after := by
  refine ⟨?_, ?_, ?_⟩
  · intro locked other member
    rw [shared] at locked
    cases other with
    | server other =>
        obtain ⟨place, there⟩ := List.mem_iff_getElem?.mp member
        rcases before place other there with there | rfl
        · exact quiet.free locked _ (List.mem_of_getElem? there)
        · rfl
    | download uri => rfl
    | downloaded uri result => rfl
  · intro place other uri there has
    rw [shared]
    rcases before place other there with there | rfl
    · exact quiet.valid place other uri there has
    · cases has
  · intro place other there lost
    rcases before place other there with there | rfl
    · exact quiet.safe place other there lost
    · cases lost

variable {preloaded : OrderedMap ByteString ByteString} {enableDownload : Bool}

/-- Every quiet event keeps all iterators valid. -/
theorem Quiet.step {after : Resolution} {event : PoolEvent Thread Choice}
    (holds : SoundLocking preloaded enableDownload resolution) (quiet : Quiet resolution)
    (quietly : QuietlyEnters resolution event)
    (stepped : resolution.step resolve event = some after) : Quiet after := by
  cases event with
  | call thread =>
      obtain rfl : thread = .server .start := quietly
      rw [Pool.step_call stepped]
      refine quiet.same_shared rfl fun place thread there => ?_
      rw [List.getElem?_append] at there
      split at there
      · exact .inl there
      · cases List.mem_singleton.mp (List.mem_of_getElem? there)
        exact .inr rfl
  | run tid choice =>
      obtain ⟨thread, effect, found, acted, rfl⟩ := Pool.step_run stepped
      cases thread with
      | server thread =>
          exact quiet.after_step holds.2 quietly found (holds.1.serverStep found acted) acted
      | download uri =>
          cases choice with
          | performs result =>
              obtain rfl := Option.some.inj acted
              refine quiet.same_shared rfl fun place thread there => ?_
              rcases Pool.threadsAfter_cases there with
                ⟨-, same⟩ | ⟨-, before⟩ | ⟨offset, -, started⟩
              · cases same
              · exact .inl before
              · cases started
          | _ => cases acted
      | downloaded uri result => cases acted

/-- As long as merges are begun only when no thread has an iterator outside the lock, no
thread uses the iterator of an erased entry, in whatever order the threads proceed. -/
theorem iterators_valid
    (reached : Pool.Reached resolve QuietlyEnters (loaded preloaded enableDownload) resolution)
    {place : Nat} (there : resolution.threads[place]? = some (.server thread)) :
    thread.stage ≠ .lost ∧ ∀ uri, thread.iterator = some uri →
      ∃ download, resolution.shared.downloadMap.find uri = some download := by
  have holds : SoundLocking preloaded enableDownload resolution ∧ Quiet resolution := by
    apply reached.invariant
    · refine ⟨⟨sound_loaded _ _, locking_loaded _ _⟩, nofun, ?_, ?_⟩
      · intro place thread uri there
        cases there
      · intro place thread there
        cases there
    · intro resolution event after holds quietly stepped
      exact ⟨holds.1.step quietly.enters stepped, holds.2.step holds.1 quietly stepped⟩
  exact ⟨holds.2.safe place thread there, fun uri has =>
    Option.ne_none_iff_exists'.mp (holds.2.valid place thread uri there has)⟩

end Quiet

/-- The schema that is downloaded after a merge. -/
def laterIdentifier : ResourceIdentifier := ⟨.schemaImport, some (ascii "http://b"), none⟩

/-- A thread starts a download after another one has merged its own. -/
def laterEvents : List (PoolEvent Thread Choice) :=
  mergeEvents ++ [.call (.server .start), .run 2 .enterScope, .run 2 (.resolve laterIdentifier 5)]

/-- The thread that has just started a download. -/
def startingThread : ServerThread :=
  ⟨[false], true, .unlocked (ascii "http://b") true, [(true, laterIdentifier)], []⟩

/-- A download has been started after the merge. -/
def whileStarting : Resolution :=
  ⟨⟨false, OrderedMap.set (ascii "http://a") (ascii "x") .empty,
      OrderedMap.set (ascii "http://b") ⟨3, 0, 0⟩ .empty, true⟩,
    afterMerge.threads ++ [.server startingThread, .download (ascii "http://b")]⟩

/-- It is reached by quiet events. -/
theorem whileStarting_reached :
    Pool.Reached resolve QuietlyEnters (loaded .empty true) whileStarting :=
  Pool.Reached.start.replay (show Pool.replay resolve QuietlyEnters (loaded .empty true)
    laterEvents = some whileStarting by rfl)

/-- The iterator of the thread that starts it points to its entry. -/
theorem startingThread_valid :
    startingThread.stage ≠ .lost ∧ ∀ uri, startingThread.iterator = some uri →
      ∃ download, whileStarting.shared.downloadMap.find uri = some download :=
  @iterators_valid _ startingThread .empty true whileStarting_reached 2 rfl

end SmartMetWfs.Xml
