import SmartMetWfs.Plugin.Lifecycle

/-!
# The thread of the update loop

The thread object of a running update loop is held by the plugin or by a stop that waits
for the thread to end, never by both and never by two stops, whatever `init`, `reload` and
`stopUpdateLoop` do at the same time. So no thread object is destroyed while its thread may
still run, and no thread waits for one that cannot go on.
-/

namespace SmartMetWfs.Plugin

open Foundation

/-- What a step does to the thread object of the update loop. -/
inductive ThreadChange (plugin : PluginState) (activity : Activity)
    (effect : Effect Members Activity) : Prop
  | keeps (same : effect.shared.updateLoopThread = plugin.shared.updateLoopThread)
      (started : effect.started = []) (apart : ∀ loop, effect.thread ≠ .join loop)
      (joined : ∀ loop, activity = .join loop → plugin.threads[loop]? = some .ended)
  | starts (absent : plugin.shared.updateLoopThread = none)
      (held : effect.shared.updateLoopThread = some plugin.threads.length)
      (started : effect.started = [.updateCheck]) (apart : ∀ loop, effect.thread ≠ .join loop)
      (joined : ∀ loop, activity ≠ .join loop)
  | takes (loop : Nat) (held : plugin.shared.updateLoopThread = some loop)
      (absent : effect.shared.updateLoopThread = none) (started : effect.started = [])
      (waits : effect.thread = .join loop) (joined : ∀ loop, activity ≠ .join loop)

/-- A return is no wait for a loop. -/
theorem Caller.returns_ne_join (caller : Caller) (result : Bool) (loop : Nat) :
    caller.returns result ≠ .join loop := by
  cases caller <;> simp [Caller.returns]

/-- An exception is no wait for a loop. -/
theorem Caller.throws_ne_join (caller : Caller) (loop : Nat) : caller.throws ≠ .join loop := by
  cases caller <;> simp [Caller.throws]

/-- The end of the initialisation is no wait for a loop. -/
theorem Caller.initialised_ne_join (caller : Caller) (loop : Nat) :
    caller.initialised ≠ .join loop := by
  cases caller <;> simp [Caller.initialised]

/-- A transition keeps, starts or takes the loop. -/
theorem Transition.threadChange {plugin : PluginState} {activity : Activity}
    {effect : Effect Members Activity} (transition : Transition plugin activity effect) :
    ThreadChange plugin activity effect := by
  cases transition with
  | loopStarted caller newImpl absent => exact .starts absent rfl rfl nofun nofun
  | taken loop held => exact .takes loop held rfl rfl rfl nofun
  | failed caller => exact .keeps rfl rfl caller.throws_ne_join nofun
  | initialised caller => exact .keeps rfl rfl caller.initialised_ne_join nofun
  | refused caller => exact .keeps rfl rfl (caller.returns_ne_join false) nofun
  | reloaded caller => exact .keeps rfl rfl (caller.returns_ne_join true) nofun
  | joined loop hasEnded =>
      refine .keeps rfl rfl nofun fun loop' joins => ?_
      cases joins
      exact hasEnded
  | _ => exact .keeps rfl rfl nofun nofun

/-- A thread that runs the update loop goes on to do so, and no other begins to. -/
theorem Transition.isLoop {plugin : PluginState} {activity : Activity}
    {effect : Effect Members Activity} (transition : Transition plugin activity effect) :
    effect.thread.isLoop = activity.isLoop := by
  cases transition with
  | failed caller | initialised caller | refused caller | reloaded caller => cases caller <;> rfl
  | _ => rfl

/-- Who holds the thread object of an update loop. -/
inductive Owner where
  | plugin
  | stop (tid : Nat)

/-- Who holds the thread of a loop. -/
def Owns (plugin : PluginState) : Owner → Nat → Prop
  | .plugin, loop => plugin.shared.updateLoopThread = some loop
  | .stop tid, loop => plugin.threads[tid]? = some (.join loop)

/-- The thread is one of the update loop. -/
def RunsLoop (plugin : PluginState) (loop : Nat) : Prop :=
  ∃ activity, plugin.threads[loop]? = some activity ∧ activity.isLoop

/-- Only threads of the update loop are held, each by one owner, and all that have not
ended are held. -/
structure Held (plugin : PluginState) : Prop where
  loops : ∀ owner loop, Owns plugin owner loop → RunsLoop plugin loop
  once : ∀ owner owner' loop, Owns plugin owner loop → Owns plugin owner' loop → owner = owner'
  held : ∀ loop activity, plugin.threads[loop]? = some activity → activity.isLoop = true →
    activity ≠ .ended → ∃ owner, Owns plugin owner loop

/-- At the start there is no loop. -/
theorem held_initial : Held initial where
  loops owner loop owns := by
    cases owner with
    | plugin => cases owns
    | stop tid => rcases tid with _ | tid <;> cases owns
  once owner owner' loop owns := by
    cases owner with
    | plugin => cases owns
    | stop tid => rcases tid with _ | tid <;> cases owns
  held loop activity found isLoop := by
    rcases loop with _ | loop
    · cases found
      cases isLoop
    · cases found

section Steps

variable {plugin : PluginState} {tid : Nat} {activity : Activity}
  {effect : Effect Members Activity}

/-- The plugin after a step of a thread. -/
def afterStep (plugin : PluginState) (tid : Nat) (effect : Effect Members Activity) : PluginState :=
  ⟨effect.shared, Pool.threadsAfter plugin.threads tid effect⟩

/-- A loop runs on. -/
theorem RunsLoop.after_step (transition : Transition plugin activity effect)
    (found : plugin.threads[tid]? = some activity) {loop : Nat} (runs : RunsLoop plugin loop) :
    RunsLoop (afterStep plugin tid effect) loop := by
  obtain ⟨other, there, isLoop⟩ := runs
  by_cases same : loop = tid
  · subst same
    obtain rfl := Option.some.inj (found.symm.trans there)
    obtain ⟨within, -⟩ := List.getElem?_eq_some_iff.mp found
    exact ⟨effect.thread, Pool.threadsAfter_self within, transition.isLoop.trans isLoop⟩
  · exact ⟨other, Pool.threadsAfter_other same there, isLoop⟩

/-- A stop other than the thread that made the step waits for the same thread as before. -/
theorem owns_of_after (apart : ∀ loop, effect.thread ≠ .join loop)
    (started : ∀ (offset loop : Nat), effect.started[offset]? ≠ some (.join loop))
    {waiting loop : Nat}
    (owns : Owns (afterStep plugin tid effect) (.stop waiting) loop) :
    waiting ≠ tid ∧ Owns plugin (.stop waiting) loop := by
  rcases Pool.threadsAfter_cases owns with ⟨-, same⟩ | ⟨other, there⟩ | ⟨offset, -, there⟩
  · exact absurd same.symm (apart loop)
  · exact ⟨other, there⟩
  · exact absurd there (started offset loop)

/-- A loop that runs after the step has been running before or has been started. -/
theorem running_before (found : plugin.threads[tid]? = some activity)
    (transition : Transition plugin activity effect) {loop : Nat} {other : Activity}
    (there : (afterStep plugin tid effect).threads[loop]? = some other)
    (isLoop : other.isLoop = true) (running : other ≠ .ended) :
    (∃ earlier, plugin.threads[loop]? = some earlier ∧ earlier.isLoop = true ∧ earlier ≠ .ended) ∨
      ∃ offset, loop = plugin.threads.length + offset ∧ effect.started[offset]? = some other := by
  rcases Pool.threadsAfter_cases there with ⟨rfl, rfl⟩ | ⟨-, there'⟩ | new
  · refine .inl ⟨activity, found, transition.isLoop ▸ isLoop, ?_⟩
    rintro rfl
    cases transition
  · exact .inl ⟨other, there', isLoop, running⟩
  · exact .inr new

/-- A loop keeps its owner unless the plugin gives it away or the stop that has waited for it
goes on. -/
theorem Held.owner_after (holds : Held plugin) (found : plugin.threads[tid]? = some activity)
    {loop : Nat} {earlier : Activity} (there : plugin.threads[loop]? = some earlier)
    (isLoop : earlier.isLoop = true) (running : earlier ≠ .ended)
    (fromPlugin : plugin.shared.updateLoopThread = some loop →
      ∃ owner, Owns (afterStep plugin tid effect) owner loop)
    (waits : activity ≠ .join loop) : ∃ owner, Owns (afterStep plugin tid effect) owner loop := by
  obtain ⟨owner, owns⟩ := holds.held loop earlier there isLoop running
  cases owner with
  | plugin => exact fromPlugin owns
  | stop waiting =>
      refine ⟨.stop waiting, Pool.threadsAfter_other (fun self => ?_) owns⟩
      subst self
      exact waits (Option.some.inj (found.symm.trans owns))

/-- A step that keeps the loop keeps its owner. -/
theorem Held.after_keeps (holds : Held plugin) (found : plugin.threads[tid]? = some activity)
    (transition : Transition plugin activity effect)
    (same : effect.shared.updateLoopThread = plugin.shared.updateLoopThread)
    (started : effect.started = []) (apart : ∀ loop, effect.thread ≠ .join loop)
    (joined : ∀ loop, activity = .join loop → plugin.threads[loop]? = some .ended) :
    Held (afterStep plugin tid effect) := by
  have before : ∀ {owner loop}, Owns (afterStep plugin tid effect) owner loop →
      Owns plugin owner loop := by
    intro owner loop owns
    cases owner with
    | plugin => exact same.symm.trans owns
    | stop waiting =>
        exact (owns_of_after apart (fun offset loop => by simp [started]) owns).2
  refine ⟨?_, ?_, ?_⟩
  · intro owner loop owns
    exact (holds.loops owner loop (before owns)).after_step transition found
  · intro owner owner' loop owns owns'
    exact holds.once owner owner' loop (before owns) (before owns')
  · intro loop other there isLoop running
    rcases running_before found transition there isLoop running with
      ⟨earlier, there', isLoop', running'⟩ | ⟨offset, -, new⟩
    · refine holds.owner_after found there' isLoop' running' (fun held => ?_) fun joins => ?_
      · exact ⟨.plugin, same.trans held⟩
      · exact running' (Option.some.inj (there'.symm.trans (joined loop joins)))
    · rw [started] at new
      cases new

/-- A loop that is started is the plugin's. -/
theorem Held.after_starts (holds : Held plugin) (found : plugin.threads[tid]? = some activity)
    (transition : Transition plugin activity effect)
    (absent : plugin.shared.updateLoopThread = none)
    (held : effect.shared.updateLoopThread = some plugin.threads.length)
    (started : effect.started = [.updateCheck]) (apart : ∀ loop, effect.thread ≠ .join loop)
    (joined : ∀ loop, activity ≠ .join loop) : Held (afterStep plugin tid effect) := by
  have new : (afterStep plugin tid effect).threads[plugin.threads.length]? = some .updateCheck := by
    have := @Pool.threadsAfter_started _ _ plugin.threads tid effect 0
    rwa [started] at this
  have before : ∀ {owner loop}, Owns (afterStep plugin tid effect) owner loop →
      (owner = .plugin ∧ loop = plugin.threads.length) ∨
        ((∃ waiting, owner = .stop waiting) ∧ Owns plugin owner loop) := by
    intro owner loop owns
    cases owner with
    | plugin => exact .inl ⟨rfl, Option.some.inj (owns.symm.trans held)⟩
    | stop waiting =>
        refine .inr ⟨⟨waiting, rfl⟩, (owns_of_after apart (fun offset loop => ?_) owns).2⟩
        rw [started]
        rcases offset with _ | offset <;> simp
  -- the threads held before are among the earlier ones
  have earlier : ∀ {owner loop}, Owns plugin owner loop → loop ≠ plugin.threads.length := by
    intro owner loop owns same
    obtain ⟨_, there, _⟩ := holds.loops owner loop owns
    rw [same] at there
    simp at there
  refine ⟨?_, ?_, ?_⟩
  · intro owner loop owns
    rcases before owns with ⟨-, rfl⟩ | ⟨-, owns'⟩
    · exact ⟨.updateCheck, new, rfl⟩
    · exact (holds.loops owner loop owns').after_step transition found
  · intro owner owner' loop owns owns'
    rcases before owns with ⟨rfl, rfl⟩ | ⟨-, owned⟩ <;>
      rcases before owns' with ⟨rfl, same⟩ | ⟨-, owned'⟩
    · rfl
    · exact absurd rfl (earlier owned')
    · exact absurd same (earlier owned)
    · exact holds.once owner owner' loop owned owned'
  · intro loop other there isLoop running
    rcases running_before found transition there isLoop running with
      ⟨earlier, there', isLoop', running'⟩ | ⟨offset, rfl, there'⟩
    · refine holds.owner_after found there' isLoop' running' (fun owns => ?_) (joined loop)
      exact absurd (absent.symm.trans owns) (Option.some_ne_none loop).symm
    · rw [started] at there'
      rcases offset with _ | offset
      · exact ⟨.plugin, held⟩
      · cases there'

/-- A loop that is taken has the stop as its owner. -/
theorem Held.after_takes (holds : Held plugin) (found : plugin.threads[tid]? = some activity)
    (transition : Transition plugin activity effect) {taken : Nat}
    (held : plugin.shared.updateLoopThread = some taken)
    (absent : effect.shared.updateLoopThread = none) (started : effect.started = [])
    (waits : effect.thread = .join taken) (joined : ∀ loop, activity ≠ .join loop) :
    Held (afterStep plugin tid effect) := by
  obtain ⟨within, -⟩ := List.getElem?_eq_some_iff.mp found
  -- the thread changes hands: what the plugin has held the stop holds now
  have before : ∀ {owner loop}, Owns (afterStep plugin tid effect) owner loop →
      (owner = .stop tid ∧ loop = taken) ∨
        ((∃ waiting, owner = .stop waiting ∧ waiting ≠ tid) ∧ Owns plugin owner loop) := by
    intro owner loop owns
    cases owner with
    | plugin => exact absurd (absent.symm.trans owns) (Option.some_ne_none loop).symm
    | stop waiting =>
        rcases Pool.threadsAfter_cases owns with ⟨rfl, same⟩ | ⟨other, there⟩ | ⟨offset, -, there⟩
        · rw [waits] at same
          cases same
          exact .inl ⟨rfl, rfl⟩
        · exact .inr ⟨⟨waiting, rfl, other⟩, there⟩
        · rw [started] at there
          cases there
  have unheld : ∀ {owner}, (∃ waiting, owner = Owner.stop waiting ∧ waiting ≠ tid) →
      ¬Owns plugin owner taken := by
    intro owner ⟨waiting, named, _⟩ owns
    have := holds.once owner .plugin taken owns held
    rw [named] at this
    cases this
  refine ⟨?_, ?_, ?_⟩
  · intro owner loop owns
    rcases before owns with ⟨-, rfl⟩ | ⟨-, owns'⟩
    · exact (holds.loops .plugin loop held).after_step transition found
    · exact (holds.loops owner loop owns').after_step transition found
  · intro owner owner' loop owns owns'
    rcases before owns with ⟨rfl, rfl⟩ | ⟨stop, owned⟩ <;>
      rcases before owns' with ⟨rfl, same⟩ | ⟨stop', owned'⟩
    · rfl
    · exact absurd owned' (unheld stop')
    · exact absurd owned (same ▸ unheld stop)
    · exact holds.once owner owner' loop owned owned'
  · intro loop other there isLoop running
    rcases running_before found transition there isLoop running with
      ⟨earlier, there', isLoop', running'⟩ | ⟨offset, -, there'⟩
    · refine holds.owner_after found there' isLoop' running' (fun owns => ?_) (joined loop)
      obtain rfl := Option.some.inj (held.symm.trans owns)
      exact ⟨.stop tid, (Pool.threadsAfter_self within).trans (congrArg some waits)⟩
    · rw [started] at there'
      cases there'

/-- Every step keeps one owner for each loop. -/
theorem Held.after_step (holds : Held plugin) (found : plugin.threads[tid]? = some activity)
    (transition : Transition plugin activity effect) : Held (afterStep plugin tid effect) := by
  cases transition.threadChange with
  | keeps same started apart joined =>
      exact holds.after_keeps found transition same started apart joined
  | starts absent held started apart joined =>
      exact holds.after_starts found transition absent held started apart joined
  | takes loop held absent started waits joined =>
      exact holds.after_takes found transition held absent started waits joined

/-- A call keeps one owner for each loop. -/
theorem Held.after_call (holds : Held plugin) {call : Activity} (outside : CalledFromOutside call) :
    Held { plugin with threads := plugin.threads ++ [call] } := by
  have notJoin : ∀ loop, call ≠ .join loop := by
    rintro loop rfl
    exact outside
  have notLoop : call.isLoop = false := by
    cases call with
    | checkReloading caller => cases caller <;> first | rfl | exact outside.elim
    | setShuttingDown => rfl
    | _ => exact outside.elim
  have later : ∀ {place : Nat} {thread}, plugin.threads[place]? = some thread →
      (plugin.threads ++ [call])[place]? = some thread := by
    intro place thread there
    obtain ⟨within, -⟩ := List.getElem?_eq_some_iff.mp there
    exact (List.getElem?_append_left within).trans there
  have earlier : ∀ {place : Nat} {thread}, (plugin.threads ++ [call])[place]? = some thread →
      plugin.threads[place]? = some thread ∨ thread = call := by
    intro place thread there
    rw [List.getElem?_append] at there
    split at there
    · exact .inl there
    · exact .inr (List.mem_singleton.mp (List.mem_of_getElem? there))
  have before :
      ∀ {owner loop}, Owns { plugin with threads := plugin.threads ++ [call] } owner loop →
      Owns plugin owner loop := by
    intro owner loop owns
    cases owner with
    | plugin => exact owns
    | stop waiting => exact (earlier owns).resolve_right (notJoin loop).symm
  refine ⟨?_, ?_, ?_⟩
  · intro owner loop owns
    obtain ⟨activity, there, isLoop⟩ := holds.loops owner loop (before owns)
    exact ⟨activity, later there, isLoop⟩
  · intro owner owner' loop owns owns'
    exact holds.once owner owner' loop (before owns) (before owns')
  · intro loop activity there isLoop running
    rcases earlier there with there' | rfl
    · obtain ⟨owner, owns⟩ := holds.held loop activity there' isLoop running
      refine ⟨owner, ?_⟩
      cases owner with
      | plugin => exact owns
      | stop waiting => exact later owns
    · rw [notLoop] at isLoop
      cases isLoop

end Steps

/-- Every event keeps one owner for each loop. -/
theorem Held.step {plugin after : PluginState} {event : PoolEvent Activity Choice}
    (holds : Held plugin) (possible : Possible plugin event)
    (stepped : plugin.step act event = some after) : Held after := by
  cases event with
  | call call =>
      rw [Pool.step_call stepped]
      exact holds.after_call possible
  | run tid choice =>
      obtain ⟨activity, effect, found, acted, rfl⟩ := Pool.step_run stepped
      exact holds.after_step found (act_transition acted)

/-- In every reachable state each loop has one owner. -/
theorem held_of_reached {plugin : PluginState}
    (reached : Pool.Reached act Possible initial plugin) :
    Held plugin :=
  reached.invariant held_initial fun _ _ _ => Held.step

/-- In every interleaving the thread object of a running update loop has exactly one owner,
the plugin or a stop that waits for it. -/
theorem running_loop_owned_once {plugin : PluginState}
    (reached : Pool.Reached act Possible initial plugin) {loop : Nat} {activity : Activity}
    (found : plugin.threads[loop]? = some activity) (isLoop : activity.isLoop = true)
    (running : activity ≠ .ended) : ∃! owner, Owns plugin owner loop := by
  have holds := held_of_reached reached
  obtain ⟨owner, owns⟩ := holds.held loop activity found isLoop running
  exact ⟨owner, owns, fun owner' owns' => holds.once owner' owner loop owns' owns⟩

/-- An implementation without languages. -/
def plainImpl : PluginImpl := ⟨ascii "/wfs", [], true⟩

/-- `init` up to where the update loop has been started. -/
def startEvents : List (PoolEvent Activity Choice) :=
  [.run 0 (.constructs plainImpl), .run 0 .succeeds, .run 0 .succeeds, .run 0 .succeeds,
    .run 0 .succeeds, .run 0 .succeeds]

/-- The plugin after its loop was started. -/
def startedPlugin : PluginState :=
  ⟨⟨none, false, false, some 1, []⟩, [.init .server (.store plainImpl), .updateCheck]⟩

/-- The loop has one owner. -/
theorem started_loop_owned_once : ∃! owner, Owns startedPlugin owner 1 :=
  running_loop_owned_once
    (Pool.Reached.start.replay (show Pool.replay act Possible initial startEvents =
      some startedPlugin by decide)) rfl rfl (by decide)

end SmartMetWfs.Plugin
