import Mathlib.Data.Prod.Lex
import SmartMetWfs.Plugin.UpdateLoop

/-!
# Stopping the update loop

No thread is ever stuck: one that cannot go on waits for an update loop that can. Whether a
stop comes to an end is another matter. `ensureUpdateLoopStarted` resets `itsShuttingDown`
after it has found it unset, and a stop resets it when it is done, so that a stop may wait for
a loop that is never told to end. If stops do not overlap, and do not begin while a loop is
about to be started, each of them comes to an end and leaves no loop running.
-/

namespace SmartMetWfs.Plugin

open Foundation

/-- Where an implementation is looked at one has been published. -/
def Published (plugin : PluginState) : Prop :=
  ∀ (tid : Nat) caller, plugin.threads[tid]? = some (.init caller .addDefault) →
    plugin.shared.pluginImpl.isSome

/-- What has been published stays so. -/
theorem Transition.published {plugin : PluginState} {activity : Activity}
    {effect : Effect Members Activity} (transition : Transition plugin activity effect)
    (already : plugin.shared.pluginImpl.isSome) : effect.shared.pluginImpl.isSome := by
  cases transition <;> first | exact already | rfl

/-- Only an update loop is started. -/
theorem Transition.started {plugin : PluginState} {activity : Activity}
    {effect : Effect Members Activity} (transition : Transition plugin activity effect)
    {started : Activity} (member : started ∈ effect.started) : started = .updateCheck := by
  cases transition with
  | loopStarted => exact List.mem_singleton.mp member
  | _ => cases member

/-- Only a step that publishes leads to where the implementation is looked at. -/
theorem Transition.addDefault {plugin : PluginState} {activity : Activity}
    {effect : Effect Members Activity} (transition : Transition plugin activity effect)
    {caller : Caller} (next : effect.thread = .init caller .addDefault) :
    effect.shared.pluginImpl.isSome := by
  cases transition with
  | stored => rfl
  | failed by' | initialised by' | refused by' | reloaded by' => cases by' <;> cases next
  | _ => cases next

/-- Every event keeps the implementation published before the loop runs. -/
theorem Published.step {plugin after : PluginState} {event : PoolEvent Activity Choice}
    (holds : Published plugin) (possible : Possible plugin event)
    (stepped : plugin.step act event = some after) : Published after := by
  intro place caller there
  cases event with
  | call call =>
      rw [Pool.step_call stepped] at there ⊢
      rw [List.getElem?_append] at there
      split at there
      · exact holds place caller there
      · obtain rfl := List.mem_singleton.mp (List.mem_of_getElem? there)
        exact possible.elim
  | run tid choice =>
      obtain ⟨activity, effect, found, acted, rfl⟩ := Pool.step_run stepped
      have transition := act_transition acted
      rcases Pool.threadsAfter_cases there with ⟨-, next⟩ | ⟨-, there'⟩ | ⟨offset, -, started⟩
      · exact transition.addDefault next.symm
      · exact transition.published (holds place caller there')
      · cases transition.started (List.mem_of_getElem? started)

/-- In every reachable state it is so. -/
theorem published_of_reached {plugin : PluginState}
    (reached : Pool.Reached act Possible initial plugin) : Published plugin := by
  refine reached.invariant ?_ fun _ _ _ => Published.step
  intro tid caller there
  rcases tid with _ | tid <;> cases there

/-- A thread that is not finished can go on unless it waits for another to end. -/
theorem canRun_of_not_join {plugin : PluginState} (published : Published plugin) {tid : Nat}
    {activity : Activity} (found : plugin.threads[tid]? = some activity)
    (unfinished : activity.finished = false) (free : ∀ loop, activity ≠ .join loop) :
    Pool.CanRun act plugin tid := by
  apply (Pool.canRun_iff found).mpr
  cases activity with
  | init caller point =>
      refine ⟨.fails, ?_⟩
      cases point with
      | addLanguages newImpl left => cases left <;> rfl
      | ensureUpdateLoopStarted newImpl =>
          simp only [act, initStep]
          split <;> rfl
      | startUpdateLoop newImpl =>
          simp only [act, initStep]
          split <;> rfl
      | addDefault =>
          obtain ⟨impl, present⟩ := Option.isSome_iff_exists.mp (published tid caller found)
          simp [act, initStep, present]
      | _ => rfl
  | checkReloading caller =>
      refine ⟨.fails, ?_⟩
      simp only [act]
      split <;> rfl
  | updateCheck =>
      refine ⟨.fails, ?_⟩
      simp only [act]
      split <;> rfl
  | poll =>
      refine ⟨.fails, ?_⟩
      simp only [act]
      split
      · rfl
      · split <;> rfl
  | takeThread =>
      refine ⟨.fails, ?_⟩
      simp only [act]
      split <;> rfl
  | join loop => exact absurd rfl (free loop)
  | ended => cases unfinished
  | stopped => cases unfinished
  | returned => cases unfinished
  | threw => cases unfinished
  | _ => exact ⟨.fails, rfl⟩

/-- In every interleaving a thread that is not finished can go on, or waits for an update
loop that has ended or can go on. -/
theorem no_deadlock {plugin : PluginState} (reached : Pool.Reached act Possible initial plugin)
    {tid : Nat} {activity : Activity} (found : plugin.threads[tid]? = some activity)
    (unfinished : activity.finished = false) :
    Pool.CanRun act plugin tid ∨
      ∃ loop, activity = .join loop ∧ Pool.CanRun act plugin loop := by
  have published := published_of_reached reached
  by_cases waits : ∃ loop, activity = .join loop
  · obtain ⟨loop, rfl⟩ := waits
    obtain ⟨other, there, isLoop⟩ := (held_of_reached reached).loops (.stop tid) loop found
    by_cases hasEnded : other = .ended
    · subst hasEnded
      left
      exact (Pool.canRun_iff found).mpr ⟨.fails, by simp [act, there]⟩
    · refine .inr ⟨loop, rfl, canRun_of_not_join published there ?_ ?_⟩
      · cases other with
        | ended => exact absurd rfl hasEnded
        | stopped | returned | threw => cases isLoop
        | _ => rfl
      · rintro loop' rfl
        cases isLoop
  · exact .inl (canRun_of_not_join published found unfinished fun loop joins => waits ⟨loop, joins⟩)

/-- A stop that waits for the loop, and the loop on its way to its end. -/
def waitingPlugin : PluginState :=
  ⟨⟨none, true, false, none, []⟩, [.init .server (.store plainImpl), .updateCheck, .join 1]⟩

/-- The thread that waits can go on, or the loop can. -/
theorem waiting_no_deadlock :
    Pool.CanRun act waitingPlugin 2 ∨
      ∃ loop, Activity.join 1 = .join loop ∧ Pool.CanRun act waitingPlugin loop :=
  no_deadlock
    (Pool.Reached.start.replay (show Pool.replay act Possible initial
      (startEvents ++ [.call .setShuttingDown, .run 2 .succeeds, .run 2 .succeeds]) =
        some waitingPlugin by decide)) rfl rfl

/-- Stops do not overlap, and none begins while a loop is about to be started. -/
def Orderly (plugin : PluginState) : PoolEvent Activity Choice → Prop
  | .call activity =>
      CalledFromOutside activity ∧
        (activity = .setShuttingDown → ∀ other ∈ plugin.threads, other.isStop = false)
  | .run tid _ =>
      plugin.threads[tid]? = some .setShuttingDown →
        ∀ other ∈ plugin.threads, other.startsLoop = false

instance (plugin : PluginState) : DecidablePred (Orderly plugin)
  | .call activity => inferInstanceAs (Decidable (CalledFromOutside activity ∧
      (activity = .setShuttingDown → ∀ other ∈ plugin.threads, other.isStop = false)))
  | .run tid _ => inferInstanceAs (Decidable (plugin.threads[tid]? = some .setShuttingDown →
      ∀ other ∈ plugin.threads, other.startsLoop = false))

/-- While a stop is in progress, it is the only one, `itsShuttingDown` is set, no loop is about
to be started, and the thread object has been taken. -/
structure StopInOrder (plugin : PluginState) : Prop where
  single : ∀ (tid tid' : Nat) activity activity', plugin.threads[tid]? = some activity →
    plugin.threads[tid']? = some activity' → activity.isStop = true → activity'.isStop = true →
    tid = tid'
  told : ∀ activity ∈ plugin.threads, activity.isStopping = true →
    plugin.shared.isShuttingDown = true
  noStart : ∀ activity ∈ plugin.threads, activity.isStopping = true →
    ∀ other ∈ plugin.threads, other.startsLoop = false
  taken : ∀ activity ∈ plugin.threads, activity.isStopping = true → activity ≠ .takeThread →
    plugin.shared.updateLoopThread = none

/-- Who is stopping is in a stop. -/
theorem Activity.isStop_of_isStopping {activity : Activity}
    (stopping : activity.isStopping = true) :
    activity.isStop = true := by
  cases activity <;> first | exact stopping | cases stopping

section Steps

variable {plugin : PluginState} {activity : Activity} {effect : Effect Members Activity}

/-- No thread gets into a stop. -/
theorem Transition.isStop_before (transition : Transition plugin activity effect)
    (stops : effect.thread.isStop = true) : activity.isStop = true := by
  cases transition with
  | failed caller | initialised caller | refused caller | reloaded caller =>
      cases caller <;> cases stops
  | stopBegun | taken | nothingToTake | joined => rfl
  | _ => cases stops

/-- What a step does to `itsShuttingDown`. -/
theorem Transition.isShuttingDown (transition : Transition plugin activity effect) :
    effect.shared.isShuttingDown = plugin.shared.isShuttingDown ∨
      (activity = .setShuttingDown ∧ effect.shared.isShuttingDown = true) ∨
      activity.startsLoop = true ∨ (activity = .resetShuttingDown ∧ effect.thread = .stopped) := by
  cases transition with
  | cleared => exact .inr (.inr (.inl rfl))
  | stopBegun => exact .inr (.inl ⟨rfl, rfl⟩)
  | stopDone => exact .inr (.inr (.inr ⟨rfl, rfl⟩))
  | _ => exact .inl rfl

/-- A thread starts a loop only when the plugin is not shutting down. -/
theorem Transition.startsLoop_before (transition : Transition plugin activity effect)
    (starts : effect.thread.startsLoop = true) :
    activity.startsLoop = true ∨ plugin.shared.isShuttingDown = false := by
  cases transition with
  | loopWanted _ _ running => exact .inr running
  | cleared => exact .inl rfl
  | failed caller | initialised caller | refused caller | reloaded caller =>
      cases caller <;> cases starts
  | _ => cases starts

/-- A stop on its way sets the flag, takes the thread object, or finds both done. -/
theorem Transition.isStopping (transition : Transition plugin activity effect)
    (stopping : effect.thread.isStopping = true) :
    (activity = .setShuttingDown ∧ effect.thread = .takeThread ∧
        effect.shared.isShuttingDown = true) ∨
      (activity.isStopping = true ∧ effect.shared.isShuttingDown = plugin.shared.isShuttingDown ∧
        (activity = .takeThread → effect.shared.updateLoopThread = none)) := by
  cases transition with
  | stopBegun => exact .inl ⟨rfl, rfl, rfl⟩
  | taken => exact .inr ⟨rfl, rfl, fun _ => rfl⟩
  | nothingToTake absent => exact .inr ⟨rfl, rfl, fun _ => absent⟩
  | joined => exact .inr ⟨rfl, rfl, nofun⟩
  | failed caller | initialised caller | refused caller | reloaded caller =>
      cases caller <;> cases stopping
  | _ => cases stopping

/-- A thread object appears only when a loop is about to be started. -/
theorem Transition.updateLoopThread (transition : Transition plugin activity effect)
    (absent : plugin.shared.updateLoopThread = none) :
    effect.shared.updateLoopThread = none ∨ activity.startsLoop = true := by
  cases transition with
  | loopStarted => exact .inr rfl
  | taken => exact .inl rfl
  | _ => exact .inl absent

end Steps

/-- A thread after a step: the one that made it, one of the others, or a new loop. -/
theorem thread_after {plugin : PluginState} {tid : Nat} {activity : Activity}
    {effect : Effect Members Activity} (transition : Transition plugin activity effect)
    {place : Nat} {other : Activity}
    (there : (afterStep plugin tid effect).threads[place]? = some other) :
    (place = tid ∧ other = effect.thread) ∨ (place ≠ tid ∧ plugin.threads[place]? = some other) ∨
      other = .updateCheck := by
  rcases Pool.threadsAfter_cases there with self | before | ⟨offset, -, started⟩
  · exact .inl self
  · exact .inr (.inl before)
  · exact .inr (.inr (transition.started (List.mem_of_getElem? started)))

/-- A step keeps the order of the stop. -/
theorem StopInOrder.after_step {plugin : PluginState} {tid : Nat} {activity : Activity}
    {effect : Effect Members Activity} (holds : StopInOrder plugin)
    (found : plugin.threads[tid]? = some activity)
    (transition : Transition plugin activity effect)
    (orderly : activity = .setShuttingDown → ∀ other ∈ plugin.threads, other.startsLoop = false) :
    StopInOrder (afterStep plugin tid effect) := by
  have member := List.mem_of_getElem? found
  -- a stop in progress afterwards is the thread itself or has been in progress before
  have stopping_cases : ∀ other ∈ (afterStep plugin tid effect).threads, other.isStopping = true →
      other = effect.thread ∨
        (∃ place, place ≠ tid ∧ plugin.threads[place]? = some other) := by
    intro other there stopping
    obtain ⟨place, there⟩ := List.mem_iff_getElem?.mp there
    rcases thread_after transition there with ⟨-, self⟩ | before | rfl
    · exact .inl self
    · exact .inr ⟨place, before⟩
    · cases stopping
  -- while another stop is in progress the thread does not touch what the stop relies on
  have undisturbed : ∀ {place : Nat} {other}, place ≠ tid → plugin.threads[place]? = some other →
      other.isStopping = true → activity.isStop = false ∧ activity.startsLoop = false := by
    intro place other apart there stopping
    constructor
    · by_contra stops
      exact apart (holds.single place tid other activity there found
        (Activity.isStop_of_isStopping stopping) (by simpa using stops))
    · exact holds.noStart other (List.mem_of_getElem? there) stopping activity member
  have noStart_after : plugin.shared.isShuttingDown = true →
      (∀ other ∈ plugin.threads, other.startsLoop = false) →
      ∀ other ∈ (afterStep plugin tid effect).threads, other.startsLoop = false := by
    intro told before other there
    by_contra starts
    rw [Bool.not_eq_false] at starts
    obtain ⟨place, there⟩ := List.mem_iff_getElem?.mp there
    rcases thread_after transition there with ⟨-, rfl⟩ | ⟨-, there'⟩ | rfl
    · rcases transition.startsLoop_before starts with starts' | running
      · exact absurd (before activity member) (by simp [starts'])
      · exact absurd told (by simp [running])
    · exact absurd (before other (List.mem_of_getElem? there')) (by simp [starts])
    · cases starts
  refine ⟨?_, ?_, ?_, ?_⟩
  · intro place place' other other' there there' stops stops'
    have back : ∀ {place : Nat} {other},
        (afterStep plugin tid effect).threads[place]? = some other →
        other.isStop = true → ∃ earlier, plugin.threads[place]? = some earlier ∧
          earlier.isStop = true := by
      intro place other there stops
      rcases thread_after transition there with ⟨rfl, rfl⟩ | ⟨-, before⟩ | rfl
      · exact ⟨activity, found, transition.isStop_before stops⟩
      · exact ⟨other, before, stops⟩
      · cases stops
    obtain ⟨_, before, earlier⟩ := back there stops
    obtain ⟨_, before', earlier'⟩ := back there' stops'
    exact holds.single place place' _ _ before before' earlier earlier'
  · intro other there stopping
    rcases stopping_cases other there stopping with rfl | ⟨place, apart, before⟩
    · rcases transition.isStopping stopping with ⟨-, -, set⟩ | ⟨stopping', same, -⟩
      · exact set
      · exact same.trans (holds.told activity member stopping')
    · obtain ⟨notStop, notStart⟩ := undisturbed apart before stopping
      have told := holds.told other (List.mem_of_getElem? before) stopping
      rcases transition.isShuttingDown with same | ⟨-, set⟩ | starts | ⟨rfl, -⟩
      · exact same.trans told
      · exact set
      · exact absurd notStart (by simp [starts])
      · cases notStop
  · intro other there stopping
    rcases stopping_cases other there stopping with rfl | ⟨place, apart, before⟩
    · rcases transition.isStopping stopping with ⟨rfl, next, -⟩ | ⟨stopping', -, -⟩
      · intro third there'
        obtain ⟨place, there'⟩ := List.mem_iff_getElem?.mp there'
        rcases thread_after transition there' with ⟨-, rfl⟩ | ⟨-, before⟩ | rfl
        · rw [next]
          rfl
        · exact orderly rfl third (List.mem_of_getElem? before)
        · rfl
      · exact noStart_after (holds.told activity member stopping')
          (holds.noStart activity member stopping')
    · have member' := List.mem_of_getElem? before
      exact noStart_after (holds.told other member' stopping) (holds.noStart other member' stopping)
  · intro other there stopping past
    rcases stopping_cases other there stopping with rfl | ⟨place, apart, before⟩
    · rcases transition.isStopping stopping with ⟨-, next, -⟩ | ⟨stopping', -, takes⟩
      · exact absurd next past
      · by_cases taking : activity = .takeThread
        · exact takes taking
        · rcases transition.updateLoopThread (holds.taken activity member stopping' taking) with
            absent | starts
          · exact absent
          · exact absurd (holds.noStart activity member stopping' activity member)
              (by simp [starts])
    · obtain ⟨-, notStart⟩ := undisturbed apart before stopping
      rcases transition.updateLoopThread
          (holds.taken other (List.mem_of_getElem? before) stopping past) with absent | starts
      · exact absent
      · exact absurd notStart (by simp [starts])

/-- A call keeps the order of the stop. -/
theorem StopInOrder.after_call {plugin : PluginState} (holds : StopInOrder plugin) {call : Activity}
    (outside : CalledFromOutside call)
    (orderly : call = .setShuttingDown → ∀ other ∈ plugin.threads, other.isStop = false) :
    StopInOrder { plugin with threads := plugin.threads ++ [call] } := by
  have notStopping : call.isStopping = false := by
    cases call <;> first | rfl | exact outside.elim
  have notStart : call.startsLoop = false := by
    cases call <;> first | rfl | exact outside.elim
  have isCall : call.isStop = true → call = .setShuttingDown := by
    intro stops
    cases call <;> first | rfl | exact outside.elim | cases stops
  have earlier : ∀ other ∈ plugin.threads ++ [call], other.isStopping = true →
      other ∈ plugin.threads := by
    intro other there stopping
    rcases List.mem_append.mp there with before | new
    · exact before
    · rw [List.mem_singleton.mp new, notStopping] at stopping
      cases stopping
  refine ⟨?_, ?_, ?_, ?_⟩
  · intro place place' other other' there there' stops stops'
    have cases_ : ∀ {place : Nat} {other}, (plugin.threads ++ [call])[place]? = some other →
        plugin.threads[place]? = some other ∨ (place = plugin.threads.length ∧ other = call) := by
      intro place other there
      rw [List.getElem?_append] at there
      split at there
      · exact .inl there
      · next beyond =>
          obtain ⟨within, rfl⟩ := List.getElem?_eq_some_iff.mp there
          rw [List.length_singleton] at within
          exact .inr ⟨by omega, by simp⟩
    rcases cases_ there with before | ⟨rfl, rfl⟩ <;> rcases cases_ there' with before' | ⟨rfl, rfl⟩
    · exact holds.single place place' other other' before before' stops stops'
    · have := orderly (isCall stops') other (List.mem_of_getElem? before)
      exact absurd stops (by simp [this])
    · have := orderly (isCall stops) other' (List.mem_of_getElem? before')
      exact absurd stops' (by simp [this])
    · rfl
  · intro other there stopping
    exact holds.told other (earlier other there stopping) stopping
  · intro other there stopping third there'
    rcases List.mem_append.mp there' with before | new
    · exact holds.noStart other (earlier other there stopping) stopping third before
    · rw [List.mem_singleton.mp new, notStart]
  · intro other there stopping past
    exact holds.taken other (earlier other there stopping) stopping past

/-- An orderly event is one that can happen. -/
theorem Orderly.possible {plugin : PluginState} {event : PoolEvent Activity Choice}
    (orderly : Orderly plugin event) : Possible plugin event := by
  cases event with
  | call call => exact orderly.1
  | run tid choice => exact trivial

/-- Every orderly event keeps the order of the stop. -/
theorem StopInOrder.step {plugin after : PluginState} {event : PoolEvent Activity Choice}
    (holds : StopInOrder plugin) (orderly : Orderly plugin event)
    (stepped : plugin.step act event = some after) : StopInOrder after := by
  cases event with
  | call call =>
      rw [Pool.step_call stepped]
      exact holds.after_call orderly.1 orderly.2
  | run tid choice =>
      obtain ⟨activity, effect, found, acted, rfl⟩ := Pool.step_run stepped
      refine holds.after_step found (act_transition acted) fun same => ?_
      subst same
      exact orderly found

/-- At the start there is no stop. -/
theorem stopInOrder_initial : StopInOrder initial := by
  have only : ∀ activity ∈ initial.threads, activity.isStop = false := by
    intro activity member
    rw [List.mem_singleton.mp member]
    rfl
  have none : ∀ activity ∈ initial.threads, activity.isStopping ≠ true := by
    intro activity member stopping
    exact absurd (Activity.isStop_of_isStopping stopping) (by simp [only activity member])
  refine ⟨?_, ?_, ?_, ?_⟩
  · intro tid tid' activity activity' found _ stops
    exact absurd stops (by simp [only activity (List.mem_of_getElem? found)])
  · exact fun activity member stopping => absurd stopping (none activity member)
  · exact fun activity member stopping => absurd stopping (none activity member)
  · exact fun activity member stopping => absurd stopping (none activity member)

/-- What holds in all orderly runs. -/
structure InOrder (plugin : PluginState) : Prop where
  held : Held plugin
  published : Published plugin
  stops : StopInOrder plugin

/-- Every orderly event keeps everything in order. -/
theorem InOrder.step (plugin : PluginState) (event : PoolEvent Activity Choice)
    (after : PluginState)
    (holds : InOrder plugin) (orderly : Orderly plugin event)
    (stepped : plugin.step act event = some after) : InOrder after :=
  ⟨holds.held.step orderly.possible stepped, holds.published.step orderly.possible stepped,
    holds.stops.step orderly stepped⟩

/-- In every state reached by orderly events everything is in order. -/
theorem inOrder_of_reached {plugin : PluginState}
    (reached : Pool.Reached act Orderly initial plugin) : InOrder plugin := by
  have possible := reached.weaken fun _ _ => Orderly.possible
  exact ⟨held_of_reached possible, published_of_reached possible,
    reached.invariant stopInOrder_initial fun _ _ _ => StopInOrder.step⟩

/-- When a stop is about to return no update loop is running. -/
theorem InOrder.all_ended {plugin : PluginState} (holds : InOrder plugin) {tid : Nat}
    (found : plugin.threads[tid]? = some .resetShuttingDown) {loop : Nat} {activity : Activity}
    (there : plugin.threads[loop]? = some activity) (isLoop : activity.isLoop = true) :
    activity = .ended := by
  by_contra running
  obtain ⟨owner, owns⟩ := holds.held.held loop activity there isLoop running
  have member := List.mem_of_getElem? found
  cases owner with
  | plugin =>
      have absent := holds.stops.taken _ member rfl nofun
      exact absurd (absent.symm.trans owns) (Option.some_ne_none loop).symm
  | stop waiting =>
      obtain rfl := holds.stops.single tid waiting _ _ found owns rfl rfl
      cases found.symm.trans owns

/-- How far a loop that is told to end is from its end; languages that are still to be added
count within their stage. -/
def loopRank : Activity → Nat × Nat
  | .updateCheck => (1, 0)
  | .clearReloading _ => (2, 0)
  | .init _ .addAdminHandlers => (3, 0)
  | .init _ .addDefault => (4, 0)
  | .init _ (.store _) => (5, 0)
  | .init _ (.startUpdateLoop _) | .init _ (.clearShuttingDown _) => (6, 0)
  | .init _ (.ensureUpdateLoopStarted _) => (7, 0)
  | .init _ (.addLanguages _ left) => (8, left.length)
  | .init _ (.removeContentHandlers _) => (9, 0)
  | .init _ .construct => (10, 0)
  | .setReloading _ => (11, 0)
  | .checkReloading _ => (12, 0)
  | .poll => (13, 0)
  | _ => (0, 0)

/-- Each step of a loop that is told to end brings it closer to its end. -/
theorem Transition.loopRank_lt {plugin : PluginState} {activity : Activity}
    {effect : Effect Members Activity} (transition : Transition plugin activity effect)
    (isLoop : activity.isLoop = true) (told : plugin.shared.isShuttingDown = true)
    (noStart : activity.startsLoop = false) :
    Prod.Lex (· < ·) (· < ·) (loopRank effect.thread) (loopRank activity) := by
  have lower : ∀ {stage stage' left left' : Nat}, stage < stage' →
      Prod.Lex (· < ·) (· < ·) (stage, left) (stage', left') := fun below => .left _ _ below
  have throws : ∀ point, (Activity.init .updateLoop point).startsLoop = false →
      Prod.Lex (· < ·) (· < ·) (1, 0) (loopRank (.init .updateLoop point)) := by
    intro point _
    cases point <;> exact lower (by omega)
  cases transition with
  | failed caller point =>
      obtain rfl := of_decide_eq_true isLoop
      exact throws point noStart
  | added caller newImpl language left => exact .right _ (Nat.lt_succ_self left.length)
  | refused caller | initialised caller | reloaded caller =>
      obtain rfl := of_decide_eq_true isLoop
      exact lower (by omega)
  | loopWanted _ _ running => cases told.symm.trans running
  | loopGoesOn running => cases told.symm.trans running
  | cleared | loopPresent | loopStarted => cases noStart
  | nothingToReload | reloadWanted | loopEnds => exact lower (by omega)
  | stopBegun | taken | nothingToTake | joined | stopDone => cases isLoop
  | _ => exact lower (by omega)

section Progress

variable {run : Pool.InfiniteRun act Orderly} (fair : run.Fair) {tid : Nat}

include fair

/-- A loop that a stop waits for comes to its end. -/
theorem joined_loop_ends {time loop : Nat} (holds : InOrder (run.state time))
    (waits : (run.state time).threads[tid]? = some (.join loop)) :
    ∃ later, time ≤ later ∧ InOrder (run.state later) ∧
      (run.state later).threads[tid]? = some (.join loop) ∧
      (run.state later).threads[loop]? = some .ended := by
  let done := fun plugin : PluginState => InOrder plugin ∧
    plugin.threads[tid]? = some (.join loop) ∧ plugin.threads[loop]? = some .ended
  let waiting := fun plugin : PluginState => InOrder plugin ∧
    plugin.threads[tid]? = some (.join loop) ∧ plugin.threads[loop]? ≠ some .ended
  have sorted : ∀ plugin : PluginState, InOrder plugin →
      plugin.threads[tid]? = some (.join loop) → waiting plugin ∨ done plugin := by
    intro plugin holds waits
    by_cases hasEnded : plugin.threads[loop]? = some .ended
    · exact .inr ⟨holds, waits, hasEnded⟩
    · exact .inl ⟨holds, waits, hasEnded⟩
  rcases sorted _ holds waits with still | hasEnded
  swap
  · exact ⟨time, le_rfl, hasEnded⟩
  refine @Pool.InfiniteRun.eventually_done _ _ _ act Orderly run loop done waiting ?_ _ _
    (WellFounded.prod_lex Nat.lt_wfRel.wf Nat.lt_wfRel.wf) loopRank ?_ ?_ fair time still
  · -- the stop itself cannot go on
    intro plugin event after ⟨holds, waits, running⟩ orderly stepped
    refine sorted after (holds.step _ _ _ orderly stepped) (Pool.step_frame stepped waits ?_)
    rintro choice rfl
    obtain ⟨activity, effect, found, acted, rfl⟩ := Pool.step_run stepped
    obtain rfl := Option.some.inj (waits.symm.trans found)
    simp only [act, if_neg running] at acted
    cases acted
  · intro plugin ⟨holds, waits, running⟩
    obtain ⟨activity, there, isLoop⟩ := holds.held.loops (.stop tid) loop waits
    have unended : activity ≠ .ended := by
      rintro rfl
      exact running there
    refine canRun_of_not_join holds.published there ?_ ?_
    · cases activity with
      | ended => exact absurd rfl unended
      | stopped | returned | threw => cases isLoop
      | _ => rfl
    · rintro loop' rfl
      cases isLoop
  · intro plugin choice after activity activity' ⟨holds, waits, running⟩ _ stepped there there'
    right
    obtain ⟨_, effect, found, acted, rfl⟩ := Pool.step_run stepped
    obtain rfl := Option.some.inj (there.symm.trans found)
    obtain ⟨within, -⟩ := List.getElem?_eq_some_iff.mp there
    obtain rfl := Option.some.inj ((Pool.threadsAfter_self within).symm.trans there')
    obtain ⟨_, same, isLoop⟩ := holds.held.loops (.stop tid) loop waits
    obtain rfl := Option.some.inj (there.symm.trans same)
    have member := List.mem_of_getElem? waits
    exact (act_transition acted).loopRank_lt isLoop (holds.stops.told _ member rfl)
      (holds.stops.noStart _ member rfl _ (List.mem_of_getElem? there))

/-- A stop makes its next step if it does not wait. -/
theorem stop_steps {time : Nat} (holds : InOrder (run.state time)) {activity : Activity}
    (found : (run.state time).threads[tid]? = some activity)
    (unfinished : activity.finished = false)
    (free : ∀ loop, activity = .join loop → (run.state time).threads[loop]? = some .ended) :
    ∃ later plugin effect, time ≤ later ∧ InOrder plugin ∧
      plugin.threads[tid]? = some activity ∧ Transition plugin activity effect ∧
      run.state later = afterStep plugin tid effect ∧ InOrder (run.state later) := by
  let ready := fun plugin : PluginState => InOrder plugin ∧
    ∀ loop, activity = .join loop → plugin.threads[loop]? = some .ended
  let next := fun after : PluginState => ∃ plugin effect, InOrder plugin ∧
    plugin.threads[tid]? = some activity ∧ Transition plugin activity effect ∧
    after = afterStep plugin tid effect ∧ InOrder after
  suffices stepped : ∃ later, time ≤ later ∧ next (run.state later) by
    obtain ⟨later, since, plugin, effect, facts⟩ := stepped
    exact ⟨later, plugin, effect, since, facts⟩
  refine @Pool.InfiniteRun.eventually_steps _ _ _ act Orderly run tid activity ready next ?_ ?_ ?_
    fair time ⟨holds, free⟩ found
  · intro plugin event after ⟨holds, free⟩ orderly stepped
    refine ⟨holds.step _ _ _ orderly stepped, fun loop joins => ?_⟩
    refine Pool.step_frame stepped (free loop joins) ?_
    rintro choice rfl
    obtain ⟨_, effect, there, acted, rfl⟩ := Pool.step_run stepped
    obtain rfl := Option.some.inj ((free loop joins).symm.trans there)
    cases acted
  · intro plugin ⟨holds, free⟩ there
    by_cases joins : ∃ loop, activity = .join loop
    · obtain ⟨loop, rfl⟩ := joins
      exact (Pool.canRun_iff there).mpr ⟨.fails, by simp [act, free loop rfl]⟩
    · exact canRun_of_not_join holds.published there unfinished fun loop same => joins ⟨loop, same⟩
  · intro plugin choice after ⟨holds, _⟩ orderly there stepped
    have kept := holds.step plugin (.run tid choice) after orderly stepped
    obtain ⟨_, effect, found, acted, rfl⟩ := Pool.step_run stepped
    obtain rfl := Option.some.inj (there.symm.trans found)
    exact ⟨plugin, effect, holds, there, act_transition acted, rfl, kept⟩

/-- A stop that has been called from outside comes to its last step. -/
theorem stop_reaches_reset {time : Nat} (holds : InOrder (run.state time)) {activity : Activity}
    (found : (run.state time).threads[tid]? = some activity) (stops : activity.isStop = true) :
    ∃ later, time ≤ later ∧ InOrder (run.state later) ∧
      (run.state later).threads[tid]? = some .resetShuttingDown := by
  have moved : ∀ {plugin : PluginState} {before effect}, plugin.threads[tid]? = some before →
      (afterStep plugin tid effect).threads[tid]? = some effect.thread := by
    intro plugin before effect there
    obtain ⟨within, -⟩ := List.getElem?_eq_some_iff.mp there
    exact Pool.threadsAfter_self within
  have from_join : ∀ {time loop}, InOrder (run.state time) →
      (run.state time).threads[tid]? = some (.join loop) →
      ∃ later, time ≤ later ∧ InOrder (run.state later) ∧
        (run.state later).threads[tid]? = some .resetShuttingDown := by
    intro time loop holds waits
    obtain ⟨ended, since, holds', waits', hasEnded⟩ := joined_loop_ends fair holds waits
    obtain ⟨later, plugin, effect, since', _, there, transition, same, holds''⟩ :=
      stop_steps fair holds' waits' rfl fun loop' joins => by
        cases joins
        exact hasEnded
    refine ⟨later, since.trans since', holds'', ?_⟩
    rw [same, moved there]
    cases transition
    rfl
  have from_take : ∀ {time}, InOrder (run.state time) →
      (run.state time).threads[tid]? = some .takeThread →
      ∃ later, time ≤ later ∧ InOrder (run.state later) ∧
        (run.state later).threads[tid]? = some .resetShuttingDown := by
    intro time holds found
    obtain ⟨later, plugin, effect, since, _, there, transition, same, holds'⟩ :=
      stop_steps fair holds found rfl nofun
    have now := same ▸ moved there
    cases transition with
    | taken loop held =>
        obtain ⟨later', since', facts⟩ := from_join holds' now
        exact ⟨later', since.trans since', facts⟩
    | nothingToTake absent => exact ⟨later, since, holds', now⟩
  cases activity with
  | setShuttingDown =>
      obtain ⟨later, plugin, effect, since, _, there, transition, same, holds'⟩ :=
        stop_steps fair holds found rfl nofun
      have now := same ▸ moved there
      cases transition
      obtain ⟨later', since', facts⟩ := from_take holds' now
      exact ⟨later', since.trans since', facts⟩
  | takeThread => exact from_take holds found
  | join loop => exact from_join holds found
  | resetShuttingDown => exact ⟨time, le_rfl, holds, found⟩
  | _ => cases stops

end Progress

/-- In a fair run in which stops do not overlap and none begins while a loop is about to be
started, every stop returns, and leaves no update loop running. -/
theorem stop_ends_update_loop {run : Pool.InfiniteRun act Orderly} (fair : run.Fair)
    (reached : Pool.Reached act Orderly initial (run.state 0)) {time tid : Nat}
    {activity : Activity}
    (found : (run.state time).threads[tid]? = some activity) (stops : activity.isStop = true) :
    ∃ later, time ≤ later ∧ (run.state later).threads[tid]? = some .stopped ∧
      ∀ (loop : Nat) other, (run.state later).threads[loop]? = some other →
        other.isLoop = true → other = .ended := by
  have holds := Pool.InfiniteRun.always (inOrder_of_reached reached) InOrder.step (Nat.zero_le time)
  obtain ⟨reset, since, holds', found'⟩ := stop_reaches_reset fair holds found stops
  obtain ⟨later, plugin, effect, since', holds'', there, transition, same, _⟩ :=
    stop_steps fair holds' found' rfl nofun
  obtain ⟨within, -⟩ := List.getElem?_eq_some_iff.mp there
  refine ⟨later, since.trans since', ?_, ?_⟩
  · rw [same]
    refine (Pool.threadsAfter_self within).trans ?_
    cases transition
    rfl
  · intro loop other there' isLoop
    rw [same] at there'
    rcases Pool.threadsAfter_cases there' with ⟨-, rfl⟩ | ⟨-, before⟩ | ⟨offset, -, started⟩
    · cases transition
      cases isLoop
    · exact holds''.all_ended there before isLoop
    · cases transition
      cases started

/-- The loop is started, the stop called, and the loop ends when it is told to. -/
def stopEvents : List (PoolEvent Activity Choice) :=
  startEvents ++ [.run 0 .succeeds, .run 0 .succeeds, .run 0 .succeeds, .call .setShuttingDown,
    .run 2 .succeeds, .run 2 .succeeds, .run 1 .succeeds, .run 2 .succeeds, .run 2 .succeeds]

/-- The plugin after its stop. -/
def stoppedPlugin : PluginState :=
  ⟨⟨some plainImpl, false, false, none, [defaultHandler plainImpl]⟩,
    [.returned .server true, .ended, .stopped]⟩

/-- The events lead to it. -/
theorem stopEvents_lead : Pool.replay act Orderly initial stopEvents = some stoppedPlugin := by
  decide

/-- Nothing is left to do. -/
theorem stoppedPlugin_idle (tid : Nat) : ¬Pool.CanRun act stoppedPlugin tid := by
  intro ⟨choice, possible⟩
  rcases tid with _ | _ | _ | tid <;> cases possible

/-- In the run of these events the loop has ended. -/
theorem plain_stop_ends_update_loop :
    ∃ later, 10 ≤ later ∧
      ((Pool.InfiniteRun.ofEvents _ _ _ stopEvents_lead).state later).threads[2]? = some .stopped ∧
      ∀ (loop : Nat) other,
        ((Pool.InfiniteRun.ofEvents _ _ _ stopEvents_lead).state later).threads[loop]? =
          some other →
        other.isLoop = true → other = .ended :=
  stop_ends_update_loop (Pool.InfiniteRun.ofEvents_fair stopEvents_lead stoppedPlugin_idle) .start
    (show _ = some Activity.setShuttingDown by decide) rfl

end SmartMetWfs.Plugin
