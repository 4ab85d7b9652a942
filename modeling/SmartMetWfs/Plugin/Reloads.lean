import SmartMetWfs.Plugin.UpdateLoop

/-!
# Reloads

`itsReloading` keeps reloads apart as long as no thread looks at it between the look of
another thread and its `itsReloading = true`, and none while the server's own `init`, which
does not use the flag, is running. Then the content handlers are those of the published
implementation whenever no reload is in progress, unless one has failed: a failed reload
leaves the flag set, so that no reload ever comes through again.
-/

namespace SmartMetWfs.Plugin

open Foundation

/-- In progress, but not yet, or not at all, guarded by `itsReloading`. -/
def Activity.unguarded : Activity → Bool
  | .setReloading _ | .init .server _ => true
  | _ => false

/-- Whether a thread is about to look at the flag. -/
def Activity.looksAtReloading : Activity → Bool
  | .checkReloading _ => true
  | _ => false

/-- Looking at `itsReloading` and setting it is not interrupted. -/
def Exclusive (plugin : PluginState) : PoolEvent Activity Choice → Prop
  | .call activity => CalledFromOutside activity
  | .run tid _ =>
      plugin.threads[tid]?.any Activity.looksAtReloading = true →
        ∀ other ∈ plugin.threads, other.unguarded = false

instance (plugin : PluginState) : DecidablePred (Exclusive plugin)
  | .call activity => inferInstanceAs (Decidable (CalledFromOutside activity))
  | .run tid _ => inferInstanceAs (Decidable
      (plugin.threads[tid]?.any Activity.looksAtReloading = true →
        ∀ other ∈ plugin.threads, other.unguarded = false))

/-- The handlers of all languages. -/
def languageHandlers (impl : PluginImpl) : List ContentHandler :=
  impl.languages.map (languageHandler impl)

/-- The content handlers are those of the published implementation. -/
def Settled (members : Members) : Prop :=
  ∃ impl, members.pluginImpl = some impl ∧
    members.contentHandlers = languageHandlers impl ++ [defaultHandler impl]

/-- What has been done to the content handlers where `init` is. -/
def Stage (failed : Prop) (members : Members) : Activity → Prop
  | .setReloading _ => Settled members ∨ failed
  | .clearReloading _ => Settled members
  | .init caller point =>
      match point with
      | .construct | .removeContentHandlers _ => caller = .server ∨ Settled members ∨ failed
      | .addLanguages newImpl left =>
          ∃ added, newImpl.languages = added ++ left ∧
            members.contentHandlers = added.map (languageHandler newImpl)
      | .ensureUpdateLoopStarted newImpl | .clearShuttingDown newImpl | .startUpdateLoop newImpl
        | .store newImpl => members.contentHandlers = languageHandlers newImpl
      | .addDefault =>
          ∃ impl, members.pluginImpl = some impl ∧ members.contentHandlers = languageHandlers impl
      | .addAdminHandlers => Settled members
  | _ => True

/-- The server's `init` has failed. -/
def ServerFailed (plugin : PluginState) : Prop := .threw .server ∈ plugin.threads

/-- At most one reload is in progress, and guarded by the flag. -/
structure OneAtATime (plugin : PluginState) : Prop where
  single : ∀ (tid tid' : Nat) activity activity', plugin.threads[tid]? = some activity →
    plugin.threads[tid']? = some activity' → activity.inProgress = true →
    activity'.inProgress = true → tid = tid'
  guarded : ∀ activity ∈ plugin.threads, activity.inProgress = true →
    activity.unguarded = false → plugin.shared.isReloading = true
  stage : ∀ activity ∈ plugin.threads, activity.inProgress = true →
    Stage (ServerFailed plugin) plugin.shared activity
  quiet : (∀ activity ∈ plugin.threads, activity.inProgress = false) →
    plugin.shared.isReloading = false → Settled plugin.shared ∨ ServerFailed plugin

section Steps

variable {plugin : PluginState} {tid : Nat} {activity : Activity}
  {effect : Effect Members Activity}

/-- A thread that is not in progress changes nothing that a reload changes, and gets in
progress only where the flag is unset. -/
theorem Transition.outside (transition : Transition plugin activity effect)
    (outside : activity.inProgress = false) :
    effect.shared.pluginImpl = plugin.shared.pluginImpl ∧
      effect.shared.contentHandlers = plugin.shared.contentHandlers ∧
      effect.shared.isReloading = plugin.shared.isReloading ∧
      (effect.thread.inProgress = true → ∃ caller, activity = .checkReloading caller ∧
        effect.thread = .setReloading caller ∧ plugin.shared.isReloading = false) := by
  cases transition with
  | accepted caller idle => exact ⟨rfl, rfl, rfl, fun _ => ⟨caller, rfl, rfl, idle⟩⟩
  | refused caller => exact ⟨rfl, rfl, rfl, fun inside => by cases caller <;> cases inside⟩
  | loopEnds | loopGoesOn | nothingToReload | reloadWanted | stopBegun | taken | nothingToTake
    | joined | stopDone => exact ⟨rfl, rfl, rfl, nofun⟩
  | _ => cases outside

/-- What a step of a thread in progress does: it goes on to its next stage, ends a reload, or
fails. -/
theorem Transition.inside (transition : Transition plugin activity effect)
    (inside : activity.inProgress = true)
    (guarded : activity.unguarded = false → plugin.shared.isReloading = true)
    {failed : Prop} (stage : Stage failed plugin.shared activity) :
    (effect.thread.inProgress = true ∧ Stage failed effect.shared effect.thread ∧
        (effect.thread.unguarded = false → effect.shared.isReloading = true)) ∨
      (effect.thread.inProgress = false ∧ effect.thread ≠ .threw .server ∧ Settled effect.shared) ∨
      (effect.thread.inProgress = false ∧ effect.shared.isReloading = true) ∨
      effect.thread = .threw .server := by
  have guarded_of : ∀ {caller point}, activity = .init caller point →
      (Activity.init caller point).unguarded = false → plugin.shared.isReloading = true := by
    rintro caller point rfl unguarded
    exact guarded unguarded
  cases transition with
  | constructed caller newImpl =>
      refine .inl ⟨rfl, stage, fun unguarded => guarded ?_⟩
      cases caller <;> first | rfl | cases unguarded
  | failed caller point =>
      cases caller with
      | server => exact .inr (.inr (.inr rfl))
      | admin => exact .inr (.inr (.inl ⟨rfl, guarded rfl⟩))
      | updateLoop => exact .inr (.inr (.inl ⟨rfl, guarded rfl⟩))
  | removed caller newImpl =>
      refine .inl ⟨rfl, ⟨[], rfl, rfl⟩, fun unguarded => guarded ?_⟩
      cases caller <;> first | rfl | cases unguarded
  | added caller newImpl language left =>
      obtain ⟨added, languages, handlers⟩ := stage
      refine .inl ⟨rfl, ⟨added ++ [language], ?_, ?_⟩, fun unguarded => guarded ?_⟩
      · rw [languages, List.append_assoc]
        rfl
      · simp only [handlers, List.map_append]
        rfl
      · cases caller <;> first | rfl | cases unguarded
  | allAdded caller newImpl =>
      obtain ⟨added, languages, handlers⟩ := stage
      refine .inl ⟨rfl, ?_, fun unguarded => guarded ?_⟩
      · change plugin.shared.contentHandlers = languageHandlers newImpl
        rw [handlers, languageHandlers, languages, List.append_nil]
      · cases caller <;> first | rfl | cases unguarded
  | stored caller newImpl =>
      refine .inl ⟨rfl, ⟨newImpl, rfl, stage⟩, fun unguarded => guarded ?_⟩
      cases caller <;> first | rfl | cases unguarded
  | defaultAdded caller impl published =>
      obtain ⟨impl', published', handlers⟩ := stage
      obtain rfl := Option.some.inj (published.symm.trans published')
      refine .inl ⟨rfl, ⟨impl, published, by rw [← handlers]⟩, fun unguarded => guarded ?_⟩
      cases caller <;> first | rfl | cases unguarded
  | initialised caller =>
      cases caller with
      | server => exact .inr (.inl ⟨rfl, nofun, stage⟩)
      | admin => exact .inl ⟨rfl, stage, fun _ => guarded rfl⟩
      | updateLoop => exact .inl ⟨rfl, stage, fun _ => guarded rfl⟩
  | begun caller =>
      exact .inl ⟨rfl, .inr stage, fun _ => rfl⟩
  | reloaded caller =>
      refine .inr (.inl ⟨?_, ?_, stage⟩)
      · cases caller <;> rfl
      · cases caller <;> nofun
  | loopNotWanted caller | loopWanted caller | cleared caller | loopPresent caller
    | loopStarted caller =>
      refine .inl ⟨rfl, stage, fun unguarded => guarded ?_⟩
      cases caller <;> first | rfl | cases unguarded
  | _ => cases inside

/-- A stage stays when less is known of failures. -/
theorem Stage.imp {failed failed' : Prop} {members members' : Members} {activity : Activity}
    (stage : Stage failed members activity) (weaker : failed → failed')
    (same : members'.pluginImpl = members.pluginImpl)
    (same' : members'.contentHandlers = members.contentHandlers) :
    Stage failed' members' activity := by
  have settled : Settled members → Settled members' := fun ⟨impl, published, handlers⟩ =>
    ⟨impl, same.trans published, same'.trans handlers⟩
  cases activity with
  | setReloading => exact Or.imp settled weaker stage
  | clearReloading => exact settled stage
  | init caller point =>
      cases point with
      | construct | removeContentHandlers => exact Or.imp_right (Or.imp settled weaker) stage
      | addLanguages newImpl left =>
          obtain ⟨added, languages, handlers⟩ := stage
          exact ⟨added, languages, same'.trans handlers⟩
      | addDefault =>
          obtain ⟨impl, published, handlers⟩ := stage
          exact ⟨impl, same.trans published, same'.trans handlers⟩
      | addAdminHandlers => exact settled stage
      | _ => exact same'.trans stage
  | _ => exact trivial

/-- A failure of the server's `init` is not forgotten. -/
theorem ServerFailed.after_step (failed : ServerFailed plugin)
    (transition : Transition plugin activity effect)
    (found : plugin.threads[tid]? = some activity) :
      ServerFailed (afterStep plugin tid effect) := by
  obtain ⟨place, there⟩ := List.mem_iff_getElem?.mp failed
  refine List.mem_of_getElem? (Pool.threadsAfter_other (fun same => ?_) there)
  subst same
  obtain rfl := Option.some.inj (found.symm.trans there)
  cases transition

/-- A thread in progress after a step is the one that made it, or has been before. -/
theorem inProgress_after (transition : Transition plugin activity effect) {place : Nat}
    {other : Activity} (there : (afterStep plugin tid effect).threads[place]? = some other)
    (inside : other.inProgress = true) :
    (place = tid ∧ other = effect.thread) ∨
    (place ≠ tid ∧ plugin.threads[place]? = some other) := by
  rcases Pool.threadsAfter_cases there with self | before | ⟨offset, -, started⟩
  · exact .inl self
  · exact .inr before
  · cases transition with
    | loopStarted =>
        rw [List.mem_singleton.mp (List.mem_of_getElem? started)] at inside
        cases inside
    | _ => cases started

/-- A thread outside a reload leaves one at a time. -/
theorem OneAtATime.after_outside (holds : OneAtATime plugin)
    (found : plugin.threads[tid]? = some activity)
    (transition : Transition plugin activity effect) (outside : activity.inProgress = false)
    (exclusive : ∀ caller, activity = .checkReloading caller →
      ∀ other ∈ plugin.threads, other.unguarded = false) :
    OneAtATime (afterStep plugin tid effect) := by
  obtain ⟨within, -⟩ := List.getElem?_eq_some_iff.mp found
  obtain ⟨same, same', flag, entering⟩ := transition.outside outside
  have self : (afterStep plugin tid effect).threads[tid]? = some effect.thread :=
    Pool.threadsAfter_self within
  cases enters : effect.thread.inProgress with
  | true =>
      obtain ⟨caller, rfl, next, idle⟩ := entering enters
      -- no other thread is in progress: it would be unguarded, or the flag be set
      have alone : ∀ other ∈ plugin.threads, other.inProgress = false := by
        intro other member
        by_contra inside
        have guarded := holds.guarded other member (by simpa using inside)
          (exclusive caller rfl other member)
        cases idle.symm.trans guarded
      have only : ∀ {place : Nat} {other},
          (afterStep plugin tid effect).threads[place]? = some other →
          other.inProgress = true → place = tid ∧ other = effect.thread := by
        intro place other there inside
        rcases inProgress_after transition there inside with here | ⟨-, before⟩
        · exact here
        · exact absurd inside (by simp [alone other (List.mem_of_getElem? before)])
      refine ⟨?_, ?_, ?_, ?_⟩
      · intro place place' other other' there there' inside inside'
        exact (only there inside).1.trans (only there' inside').1.symm
      · intro other member inside unguarded
        obtain ⟨place, there⟩ := List.mem_iff_getElem?.mp member
        obtain rfl := (only there inside).2
        rw [next] at unguarded
        cases unguarded
      · intro other member inside
        obtain ⟨place, there⟩ := List.mem_iff_getElem?.mp member
        obtain rfl := (only there inside).2
        rw [next]
        refine @Stage.imp (ServerFailed plugin) _ _ _ (.setReloading caller)
          (holds.quiet alone idle) ?_ same same'
        exact fun failed => failed.after_step transition found
      · intro quiet
        exact absurd enters (by simp [quiet _ (List.mem_of_getElem? self)])
  | false =>
      have before : ∀ {place : Nat} {other},
          (afterStep plugin tid effect).threads[place]? = some other →
          other.inProgress = true → plugin.threads[place]? = some other := by
        intro place other there inside
        rcases inProgress_after transition there inside with ⟨-, rfl⟩ | ⟨-, before⟩
        · exact absurd inside (by simp [enters])
        · exact before
      refine ⟨?_, ?_, ?_, ?_⟩
      · intro place place' other other' there there' inside inside'
        exact holds.single place place' other other' (before there inside) (before there' inside')
          inside inside'
      · intro other member inside unguarded
        obtain ⟨place, there⟩ := List.mem_iff_getElem?.mp member
        exact flag.trans
          (holds.guarded other (List.mem_of_getElem? (before there inside)) inside unguarded)
      · intro other member inside
        obtain ⟨place, there⟩ := List.mem_iff_getElem?.mp member
        refine (holds.stage other (List.mem_of_getElem? (before there inside)) inside).imp ?_
          same same'
        exact fun failed => failed.after_step transition found
      · intro quiet idle
        have quiet' : ∀ other ∈ plugin.threads, other.inProgress = false := by
          intro other member
          obtain ⟨place, there⟩ := List.mem_iff_getElem?.mp member
          by_cases here : place = tid
          · subst here
            obtain rfl := Option.some.inj (found.symm.trans there)
            exact outside
          · exact quiet other (List.mem_of_getElem? (Pool.threadsAfter_other here there))
        rcases holds.quiet quiet' (flag.symm.trans idle) with ⟨impl, published, handlers⟩ | failed
        · exact .inl ⟨impl, same.trans published, same'.trans handlers⟩
        · exact .inr (failed.after_step transition found)

/-- The thread inside a reload is still the only one. -/
theorem OneAtATime.after_inside (holds : OneAtATime plugin)
    (found : plugin.threads[tid]? = some activity)
    (transition : Transition plugin activity effect) (inside : activity.inProgress = true) :
    OneAtATime (afterStep plugin tid effect) := by
  obtain ⟨within, -⟩ := List.getElem?_eq_some_iff.mp found
  have member := List.mem_of_getElem? found
  have self : effect.thread ∈ (afterStep plugin tid effect).threads :=
    List.mem_of_getElem? (Pool.threadsAfter_self within)
  have keepsFailed : ServerFailed plugin → ServerFailed (afterStep plugin tid effect) :=
    fun failed => failed.after_step transition found
  have next := transition.inside inside (holds.guarded activity member inside)
    ((holds.stage activity member inside).imp keepsFailed rfl rfl)
  have only : ∀ {place : Nat} {other}, (afterStep plugin tid effect).threads[place]? = some other →
      other.inProgress = true → place = tid ∧ other = effect.thread := by
    intro place other there inside'
    rcases inProgress_after transition there inside' with here | ⟨apart, before⟩
    · exact here
    · exact absurd (holds.single place tid other activity before found inside' inside) apart
  refine ⟨?_, ?_, ?_, ?_⟩
  · intro place place' other other' there there' inside inside'
    exact (only there inside).1.trans (only there' inside').1.symm
  · intro other member' inside' unguarded
    obtain ⟨place, there⟩ := List.mem_iff_getElem?.mp member'
    obtain rfl := (only there inside').2
    rcases next with ⟨-, -, guarded⟩ | ⟨outside, -⟩ | ⟨outside, -⟩ | threw
    · exact guarded unguarded
    · cases inside'.symm.trans outside
    · cases inside'.symm.trans outside
    · rw [threw] at inside'
      cases inside'
  · intro other member' inside'
    obtain ⟨place, there⟩ := List.mem_iff_getElem?.mp member'
    obtain rfl := (only there inside').2
    rcases next with ⟨-, stage, -⟩ | ⟨outside, -⟩ | ⟨outside, -⟩ | threw
    · exact stage
    · cases inside'.symm.trans outside
    · cases inside'.symm.trans outside
    · rw [threw] at inside'
      cases inside'
  · intro quiet idle
    rcases next with ⟨inside', -⟩ | ⟨-, -, settled⟩ | ⟨-, reloading⟩ | threw
    · exact absurd inside' (by simp [quiet _ self])
    · exact .inl settled
    · cases idle.symm.trans reloading
    · rw [threw] at self
      exact .inr self

end Steps

/-- A call leaves one at a time. -/
theorem OneAtATime.after_call {plugin : PluginState} (holds : OneAtATime plugin) {call : Activity}
    (outside : CalledFromOutside call) :
    OneAtATime { plugin with threads := plugin.threads ++ [call] } := by
  have quietCall : call.inProgress = false := by
    rcases calledFromOutside_iff.mp outside with rfl | rfl <;> rfl
  have before : ∀ {place : Nat} {other}, (plugin.threads ++ [call])[place]? = some other →
      other.inProgress = true → plugin.threads[place]? = some other := by
    intro place other there inside
    rw [List.getElem?_append] at there
    split at there
    · exact there
    · rw [List.mem_singleton.mp (List.mem_of_getElem? there), quietCall] at inside
      cases inside
  refine ⟨?_, ?_, ?_, ?_⟩
  · intro place place' other other' there there' inside inside'
    exact holds.single place place' other other' (before there inside) (before there' inside')
      inside inside'
  · intro other member inside unguarded
    obtain ⟨place, there⟩ := List.mem_iff_getElem?.mp member
    exact holds.guarded other (List.mem_of_getElem? (before there inside)) inside unguarded
  · intro other member inside
    obtain ⟨place, there⟩ := List.mem_iff_getElem?.mp member
    exact (holds.stage other (List.mem_of_getElem? (before there inside)) inside).imp
      (List.mem_append_left _) rfl rfl
  · intro quiet idle
    exact (holds.quiet (fun other member => quiet other (List.mem_append_left _ member))
      idle).imp_right
      (List.mem_append_left _)

/-- Every event that is exclusive leaves one at a time. -/
theorem OneAtATime.step {plugin after : PluginState} {event : PoolEvent Activity Choice}
    (holds : OneAtATime plugin) (exclusive : Exclusive plugin event)
    (stepped : plugin.step act event = some after) : OneAtATime after := by
  cases event with
  | call call =>
      rw [Pool.step_call stepped]
      exact holds.after_call exclusive
  | run tid choice =>
      obtain ⟨activity, effect, found, acted, rfl⟩ := Pool.step_run stepped
      have transition := act_transition acted
      cases progress : activity.inProgress with
      | true => exact holds.after_inside found transition progress
      | false =>
          refine holds.after_outside found transition progress fun caller same => ?_
          subst same
          exact exclusive (by rw [found]; rfl)

/-- At the start there is no reload. -/
theorem oneAtATime_initial : OneAtATime initial := by
  refine ⟨?_, ?_, ?_, ?_⟩
  · intro tid tid' activity activity' found found' _ _
    rcases tid with _ | tid
    · rcases tid' with _ | tid'
      · rfl
      · cases found'
    · cases found
  · intro activity member _ unguarded
    rw [List.mem_singleton.mp member] at unguarded
    cases unguarded
  · intro activity member _
    rw [List.mem_singleton.mp member]
    exact .inl rfl
  · intro quiet
    cases quiet _ (List.mem_singleton_self _)

/-- In every state reached by exclusive events there is one reload at a time. -/
theorem oneAtATime_of_reached {plugin : PluginState}
    (reached : Pool.Reached act Exclusive initial plugin) : OneAtATime plugin :=
  reached.invariant oneAtATime_initial fun _ _ _ => OneAtATime.step

/-- In runs in which looking at `itsReloading` and setting it is not interrupted no two reloads
are ever in progress, and when none is and the flag is unset, the content handlers are
exactly those of the published implementation. -/
theorem handlers_match_published {plugin : PluginState}
    (reached : Pool.Reached act Exclusive initial plugin) (started : ¬ServerFailed plugin) :
    (∀ (tid tid' : Nat) activity activity', plugin.threads[tid]? = some activity →
      plugin.threads[tid']? = some activity' → activity.inProgress = true →
      activity'.inProgress = true → tid = tid') ∧
    ((∀ activity ∈ plugin.threads, activity.inProgress = false) →
      plugin.shared.isReloading = false → Settled plugin.shared) := by
  have holds := oneAtATime_of_reached reached
  exact ⟨holds.single, fun quiet idle => (holds.quiet quiet idle).resolve_right started⟩

/-- The server's `init`, to its end. -/
def initEvents : List (PoolEvent Activity Choice) :=
  startEvents ++ [.run 0 .succeeds, .run 0 .succeeds, .run 0 .succeeds]

/-- The members after the first initialisation. -/
def servingMembers : Members :=
  ⟨some plainImpl, false, false, some 1, [defaultHandler plainImpl]⟩

/-- An administrator's reload, up to the construction. -/
def reloadEvents : List (PoolEvent Activity Choice) :=
  initEvents ++ [.call (.checkReloading .admin), .run 2 .succeeds, .run 2 .succeeds]

/-- An implementation with handlers of two languages. -/
def bilingualImpl : PluginImpl := ⟨ascii "/wfs", [ascii "eng", ascii "fin"], true⟩

/-- The members after a reload with two languages. -/
def reloadedMembers : Members :=
  ⟨some bilingualImpl, false, false, some 1,
    languageHandlers bilingualImpl ++ [defaultHandler bilingualImpl]⟩

/-- The plugin after the reload. -/
def reloadedPlugin : PluginState :=
  ⟨reloadedMembers, [.returned .server true, .updateCheck, .returned .admin true]⟩

/-- After the reload the handlers are those of the new implementation. -/
theorem reloaded_handlers_match :
    (∀ (tid tid' : Nat) activity activity', reloadedPlugin.threads[tid]? = some activity →
      reloadedPlugin.threads[tid']? = some activity' → activity.inProgress = true →
      activity'.inProgress = true → tid = tid') ∧
    ((∀ activity ∈ reloadedPlugin.threads, activity.inProgress = false) →
      reloadedMembers.isReloading = false → Settled reloadedMembers) :=
  @handlers_match_published reloadedPlugin
    (Pool.Reached.start.replay (show Pool.replay act Exclusive initial
      (reloadEvents ++ .run 2 (.constructs bilingualImpl) ::
        List.replicate 11 (.run 2 .succeeds)) = some _ by decide))
    (by unfold ServerFailed; decide)

/-- A reload has failed and none is in progress: nothing is as the reloads would have it any
more. `known` threads have been there when it failed. -/
structure Stuck (members : Members) (known : Nat) (plugin : PluginState) : Prop where
  reloading : plugin.shared.isReloading = true
  sameImpl : plugin.shared.pluginImpl = members.pluginImpl
  sameHandlers : plugin.shared.contentHandlers = members.contentHandlers
  quiet : ∀ activity ∈ plugin.threads, activity.inProgress = false
  refused : ∀ place caller result, known ≤ place →
    plugin.threads[place]? = some (.returned caller result) → result = false

/-- What has returned stays so. -/
theorem Transition.returned {plugin : PluginState} {activity : Activity}
    {effect : Effect Members Activity} (transition : Transition plugin activity effect)
    (outside : activity.inProgress = false) {caller : Caller} {result : Bool}
    (returns : effect.thread = .returned caller result) : result = false := by
  cases transition with
  | refused by_ =>
      cases by_ <;> cases returns <;> rfl
  | accepted | loopEnds | loopGoesOn | nothingToReload | reloadWanted | stopBegun | taken
    | nothingToTake | joined | stopDone => cases returns
  | _ => cases outside

/-- What is stuck stays so. -/
theorem Stuck.step {members : Members} {known : Nat} {plugin after : PluginState}
    {event : PoolEvent Activity Choice} (holds : Stuck members known plugin)
    (possible : Possible plugin event) (stepped : plugin.step act event = some after) :
    Stuck members known after := by
  cases event with
  | call call =>
      rw [Pool.step_call stepped]
      refine ⟨holds.reloading, holds.sameImpl, holds.sameHandlers, ?_, ?_⟩
      · intro activity member
        rcases List.mem_append.mp member with before | new
        · exact holds.quiet activity before
        · rw [List.mem_singleton.mp new]
          rcases calledFromOutside_iff.mp possible with rfl | rfl <;> rfl
      · intro place caller result later there
        rw [List.getElem?_append] at there
        split at there
        · exact holds.refused place caller result later there
        · obtain rfl := List.mem_singleton.mp (List.mem_of_getElem? there)
          exact possible.elim
  | run tid choice =>
      obtain ⟨activity, effect, found, acted, rfl⟩ := Pool.step_run stepped
      have transition := act_transition acted
      have outside := holds.quiet activity (List.mem_of_getElem? found)
      obtain ⟨same, same', flag, entering⟩ := transition.outside outside
      refine ⟨flag.trans holds.reloading, same.trans holds.sameImpl,
        same'.trans holds.sameHandlers, ?_, ?_⟩
      · intro other member
        obtain ⟨place, there⟩ := List.mem_iff_getElem?.mp member
        by_contra inside
        rw [Bool.not_eq_false] at inside
        rcases inProgress_after transition there inside with ⟨-, rfl⟩ | ⟨-, before⟩
        · obtain ⟨_, _, _, idle⟩ := entering inside
          cases holds.reloading.symm.trans idle
        · exact absurd inside (by simp [holds.quiet other (List.mem_of_getElem? before)])
      · intro place caller result later there
        rcases Pool.threadsAfter_cases there with ⟨-, returns⟩ | ⟨-, before⟩ | ⟨offset, -, started⟩
        · exact transition.returned outside returns.symm
        · exact holds.refused place caller result later before
        · cases transition with
          | loopStarted => cases outside
          | _ => cases started

/-- After a reload has failed, whatever happens next, the published implementation and the
content handlers stay as they are and no reload comes through; where the construction has
failed they are a published implementation and its own handlers. -/
theorem failed_reload_is_final {plugin after later : PluginState}
    (reached : Pool.Reached act Exclusive initial plugin) {tid : Nat} {caller : Caller}
    {point : InitPoint} {choice : Choice}
    (found : plugin.threads[tid]? = some (.init caller point)) (reloads : caller ≠ .server)
    (stepped : plugin.step act (.run tid choice) = some after)
    (failed : after.threads[tid]? = some caller.throws)
    (run : Pool.Reached act Possible after later) :
    Stuck after.shared after.threads.length later ∧
      (point = .construct → ¬ServerFailed plugin → Settled later.shared) := by
  have holds := oneAtATime_of_reached reached
  have member := List.mem_of_getElem? found
  obtain ⟨_, effect, found', acted, rfl⟩ := Pool.step_run stepped
  obtain rfl := Option.some.inj (found.symm.trans found')
  obtain ⟨within, -⟩ := List.getElem?_eq_some_iff.mp found
  have threw : effect.thread = caller.throws :=
    Option.some.inj ((Pool.threadsAfter_self within).symm.trans failed)
  have transition := act_transition acted
  have leaves : caller.throws.inProgress = false := by cases caller <;> rfl
  obtain ⟨unchanged, alone⟩ : effect.shared = plugin.shared ∧ effect.started = [] := by
    cases transition with
    | failed => exact ⟨rfl, rfl⟩
    | initialised => cases caller <;> first | exact absurd rfl reloads | cases threw
    | _ => cases caller <;> cases threw
  have stuck : Stuck effect.shared (Pool.threadsAfter plugin.threads tid effect).length
      (afterStep plugin tid effect) := by
    refine ⟨?_, rfl, rfl, ?_, ?_⟩
    · have guarded : (Activity.init caller point).unguarded = false := by
        cases caller <;> first | exact absurd rfl reloads | rfl
      exact (congrArg Members.isReloading unchanged).trans (holds.guarded _ member rfl guarded)
    · intro other member'
      obtain ⟨place, there⟩ := List.mem_iff_getElem?.mp member'
      by_contra inside
      rw [Bool.not_eq_false] at inside
      rcases inProgress_after transition there inside with ⟨-, rfl⟩ | ⟨apart, before⟩
      · rw [threw, leaves] at inside
        cases inside
      · exact apart (holds.single place tid other _ before found inside rfl)
    · intro place by_ result beyond there
      obtain ⟨within', -⟩ := List.getElem?_eq_some_iff.mp there
      exact absurd within' (Nat.not_lt.mpr beyond)
  have final := run.invariant stuck fun _ _ _ => Stuck.step
  refine ⟨final, fun constructing healthy => ?_⟩
  subst constructing
  rcases holds.stage _ member rfl with server | ⟨impl, published, handlers⟩ | broken
  · exact absurd server reloads
  · refine ⟨impl, ?_, ?_⟩
    · rw [final.sameImpl, unchanged, published]
    · rw [final.sameHandlers, unchanged, handlers]
  · exact absurd broken healthy

/-- The members while the reload constructs a new implementation. -/
def reloadingMembers : Members := { servingMembers with isReloading := true }

/-- The events lead into a reload. -/
theorem reloadEvents_lead : Pool.replay act Exclusive initial reloadEvents =
    some ⟨reloadingMembers, [.returned .server true, .updateCheck, .init .admin .construct]⟩ := by
  decide

/-- A reload that fails is the last one. -/
theorem plain_failed_reload_is_final :
    Stuck reloadingMembers 3
        ⟨reloadingMembers, [.returned .server true, .updateCheck, .threw .admin]⟩ ∧
      (InitPoint.construct = .construct →
        ¬ServerFailed ⟨reloadingMembers,
          [.returned .server true, .updateCheck, .init .admin .construct]⟩ →
        Settled reloadingMembers) :=
  failed_reload_is_final
    (Pool.Reached.start.replay reloadEvents_lead)
    (show _ = some (Activity.init .admin .construct) from rfl) (by decide)
    (show Pool.step act _ (.run 2 .fails) = some _ from rfl) rfl .start

end SmartMetWfs.Plugin
