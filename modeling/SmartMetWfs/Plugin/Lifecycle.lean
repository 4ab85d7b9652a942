import SmartMetWfs.Core.ByteString
import SmartMetWfs.Foundation.ThreadPool

/-!
# The life of the plugin

`Plugin` publishes one implementation at a time and replaces it when a reload is asked for
by an administrator or found necessary by the update loop. The loop runs in a thread of its
own, which `init` starts and `stopUpdateLoop` ends. Any number of reloads and stops run at
the same time; each step below is one access to what they share, or one critical section of
`itsUpdateNotifyMutex`.

Constructing an implementation, registering a content handler and asking an implementation
whether it has to be reloaded end as they may.
-/

namespace SmartMetWfs.Plugin

open Foundation

/-- `PluginImpl`, as far as its configuration matters here. -/
structure PluginImpl where
  defaultUrl : ByteString
  languages : List ByteString
  enableConfigurationPolling : Bool
  deriving DecidableEq

/-- A content handler of the plugin in the reactor, with the language bound to it. -/
structure ContentHandler where
  url : ByteString
  language : ByteString
  deriving DecidableEq

/-- The handler for one language. -/
def languageHandler (impl : PluginImpl) (language : ByteString) : ContentHandler :=
  ⟨impl.defaultUrl ++ ascii "/" ++ language, language⟩

/-- The handler without a language. -/
def defaultHandler (impl : PluginImpl) : ContentHandler := ⟨impl.defaultUrl, []⟩

/-- Who has called `init`, directly or through `reload`. -/
inductive Caller where
  | server
  | admin
  | updateLoop
  deriving DecidableEq

/-- Where `init` is. -/
inductive InitPoint where
  | construct
  | removeContentHandlers (newImpl : PluginImpl)
  | addLanguages (newImpl : PluginImpl) (left : List ByteString)
  | ensureUpdateLoopStarted (newImpl : PluginImpl)
  | clearShuttingDown (newImpl : PluginImpl)
  | startUpdateLoop (newImpl : PluginImpl)
  | store (newImpl : PluginImpl)
  | addDefault
  | addAdminHandlers
  deriving DecidableEq

/-- What a thread is doing. -/
inductive Activity where
  | checkReloading (caller : Caller)
  | setReloading (caller : Caller)
  | init (caller : Caller) (point : InitPoint)
  | clearReloading (caller : Caller)
  | updateCheck
  | poll
  | ended
  | setShuttingDown
  | takeThread
  | join (loop : Nat)
  | resetShuttingDown
  | stopped
  | returned (caller : Caller) (result : Bool)
  | threw (caller : Caller)
  deriving DecidableEq

/-- The members of `Plugin`, and its content handlers in the reactor in the order in which
they were added. -/
structure Members where
  pluginImpl : Option PluginImpl
  isShuttingDown : Bool
  isReloading : Bool
  updateLoopThread : Option Nat
  contentHandlers : List ContentHandler
  deriving DecidableEq

/-- What is decided outside. -/
inductive Choice where
  | constructs (newImpl : PluginImpl)
  | fails
  | succeeds
  deriving DecidableEq

/-- The plugin with its threads. -/
abbrev PluginState := Pool Members Activity

/-- Where a call of `reload` goes on that returns. -/
def Caller.returns : Caller → Bool → Activity
  | .updateLoop, _ => .updateCheck
  | caller, result => .returned caller result

/-- Where an exception of `init` or `reload` goes; the update loop only reports it. -/
def Caller.throws : Caller → Activity
  | .updateLoop => .updateCheck
  | caller => .threw caller

/-- Where a call of `init` goes on that returns. -/
def Caller.initialised : Caller → Activity
  | .server => .returned .server true
  | caller => .clearReloading caller

/-- A step of `init`. -/
def initStep (plugin : PluginState) (caller : Caller) (point : InitPoint) (choice : Choice) :
    Option (Effect Members Activity) :=
  let members := plugin.shared
  match point, choice with
  | .construct, .constructs newImpl =>
      some ⟨members, .init caller (.removeContentHandlers newImpl), []⟩
  | .construct, .fails => some ⟨members, caller.throws, []⟩
  | .construct, .succeeds => none
  | .removeContentHandlers newImpl, _ =>
      some ⟨{ members with contentHandlers := [] },
        .init caller (.addLanguages newImpl newImpl.languages), []⟩
  | .addLanguages newImpl [],
    _ => some ⟨members, .init caller (.ensureUpdateLoopStarted newImpl), []⟩
  | .addLanguages newImpl (language :: left), .succeeds =>
      let handlers := members.contentHandlers ++ [languageHandler newImpl language]
      some ⟨{ members with contentHandlers := handlers },
        .init caller (.addLanguages newImpl left), []⟩
  | .addLanguages _ (_ :: _), .fails => some ⟨members, caller.throws, []⟩
  | .addLanguages _ (_ :: _), .constructs _ => none
  | .ensureUpdateLoopStarted newImpl, _ =>
      if members.isShuttingDown then some ⟨members, .init caller (.store newImpl), []⟩
      else some ⟨members, .init caller (.clearShuttingDown newImpl), []⟩
  | .clearShuttingDown newImpl, _ =>
      some ⟨{ members with isShuttingDown := false }, .init caller (.startUpdateLoop newImpl), []⟩
  | .startUpdateLoop newImpl, _ =>
      match members.updateLoopThread with
      | some _ => some ⟨members, .init caller (.store newImpl), []⟩
      | none =>
          some ⟨{ members with updateLoopThread := some plugin.threads.length },
            .init caller (.store newImpl), [.updateCheck]⟩
  | .store newImpl, _ =>
      some ⟨{ members with pluginImpl := some newImpl }, .init caller .addDefault, []⟩
  | .addDefault, _ =>
      -- undefined without an implementation, whose configuration is looked at first
      match members.pluginImpl, choice with
      | none, _ | some _, .constructs _ => none
      | some _, .fails => some ⟨members, caller.throws, []⟩
      | some impl, .succeeds =>
          let handlers := members.contentHandlers ++ [defaultHandler impl]
          some ⟨{ members with contentHandlers := handlers }, .init caller .addAdminHandlers, []⟩
  | .addAdminHandlers, .succeeds => some ⟨members, caller.initialised, []⟩
  | .addAdminHandlers, .fails => some ⟨members, caller.throws, []⟩
  | .addAdminHandlers, .constructs _ => none

/-- A step of a thread: of `init`, `reload`, `updateLoop` or `stopUpdateLoop`. -/
def act (plugin : PluginState) (activity : Activity) (choice : Choice) :
    Option (Effect Members Activity) :=
  let members := plugin.shared
  match activity with
  | .init caller point => initStep plugin caller point choice
  | .checkReloading caller =>
      if members.isReloading then some ⟨members, caller.returns false, []⟩
      else some ⟨members, .setReloading caller, []⟩
  | .setReloading caller =>
      some ⟨{ members with isReloading := true }, .init caller .construct, []⟩
  | .clearReloading caller =>
      some ⟨{ members with isReloading := false }, caller.returns true, []⟩
  | .updateCheck =>
      if members.isShuttingDown then some ⟨members, .ended, []⟩ else some ⟨members, .poll, []⟩
  | .poll =>
      match members.pluginImpl with
      | none => some ⟨members, .updateCheck, []⟩
      | some impl =>
          -- `is_reload_required(true)`; what it throws is only reported
          if impl.enableConfigurationPolling ∧ choice = .succeeds then
            some ⟨members, .checkReloading .updateLoop, []⟩
          else some ⟨members, .updateCheck, []⟩
  | .setShuttingDown => some ⟨{ members with isShuttingDown := true }, .takeThread, []⟩
  | .takeThread =>
      match members.updateLoopThread with
      | some loop => some ⟨{ members with updateLoopThread := none }, .join loop, []⟩
      | none => some ⟨members, .resetShuttingDown, []⟩
  | .join loop =>
      if plugin.threads[loop]? = some .ended then some ⟨members, .resetShuttingDown, []⟩ else none
  | .resetShuttingDown => some ⟨{ members with isShuttingDown := false }, .stopped, []⟩
  | .ended | .stopped | .returned .. | .threw _ => none

/-- The calls from outside: `reload` by an administrator and `stopUpdateLoop`, by
`shutdown` or by the destructor. -/
def CalledFromOutside : Activity → Prop
  | .checkReloading .admin | .setShuttingDown => True
  | _ => False

/-- From outside there are reloads and the shutdown. -/
theorem calledFromOutside_iff {activity : Activity} :
    CalledFromOutside activity ↔ activity = .checkReloading .admin ∨
      activity = .setShuttingDown := by
  constructor
  · intro outside
    cases activity with
    | checkReloading caller => cases caller <;> first | exact .inl rfl | exact outside.elim
    | setShuttingDown => exact .inr rfl
    | _ => exact outside.elim
  · rintro (rfl | rfl) <;> trivial

instance : DecidablePred CalledFromOutside := fun _ => decidable_of_iff' _ calledFromOutside_iff

/-- The events that may happen: anything that threads do, and calls from outside. -/
def Possible (_ : PluginState) : PoolEvent Activity Choice → Prop
  | .call activity => CalledFromOutside activity
  | .run _ _ => True

instance (plugin : PluginState) : DecidablePred (Possible plugin)
  | .call activity => inferInstanceAs (Decidable (CalledFromOutside activity))
  | .run _ _ => isTrue trivial

/-- The server has just called `init` of a new plugin. -/
def initial : PluginState := ⟨⟨none, false, false, none, []⟩, [.init .server .construct]⟩

/-- The reload, or the server's `init`, has passed the check of `itsReloading` and has not
finished. -/
def Activity.inProgress : Activity → Bool
  | .setReloading _ | .init .. | .clearReloading _ => true
  | _ => false

/-- The thread has nothing left to do. -/
def Activity.finished : Activity → Bool
  | .ended | .stopped | .returned .. | .threw _ => true
  | _ => false

/-- A thread that runs `updateLoop`, also within a reload. -/
def Activity.isLoop : Activity → Bool
  | .updateCheck | .poll | .ended => true
  | .checkReloading caller | .setReloading caller | .init caller _ | .clearReloading caller =>
      caller = .updateLoop
  | _ => false

/-- A stop that has set `itsShuttingDown` and has not reset it. -/
def Activity.isStopping : Activity → Bool
  | .takeThread | .join _ | .resetShuttingDown => true
  | _ => false

/-- A stop that has been called and has not returned. -/
def Activity.isStop : Activity → Bool
  | .setShuttingDown => true
  | activity => activity.isStopping

/-- `ensureUpdateLoopStarted` has found that it may start a loop and has not done so yet. -/
def Activity.startsLoop : Activity → Bool
  | .init _ (.clearShuttingDown _) | .init _ (.startUpdateLoop _) => true
  | _ => false

/-- What a step can do: one case for each way it goes. -/
inductive Transition (plugin : PluginState) : Activity → Effect Members Activity → Prop
  | constructed (caller : Caller) (newImpl : PluginImpl) :
      Transition plugin (.init caller .construct)
        ⟨plugin.shared, .init caller (.removeContentHandlers newImpl), []⟩
  | failed (caller : Caller) (point : InitPoint) :
      Transition plugin (.init caller point) ⟨plugin.shared, caller.throws, []⟩
  | removed (caller : Caller) (newImpl : PluginImpl) :
      Transition plugin (.init caller (.removeContentHandlers newImpl))
        ⟨{ plugin.shared with contentHandlers := [] },
          .init caller (.addLanguages newImpl newImpl.languages), []⟩
  | added (caller : Caller) (newImpl : PluginImpl) (language : ByteString)
      (left : List ByteString) :
      Transition plugin (.init caller (.addLanguages newImpl (language :: left)))
        ⟨{ plugin.shared with
            contentHandlers :=
              plugin.shared.contentHandlers ++ [languageHandler newImpl language] },
          .init caller (.addLanguages newImpl left), []⟩
  | allAdded (caller : Caller) (newImpl : PluginImpl) :
      Transition plugin (.init caller (.addLanguages newImpl []))
        ⟨plugin.shared, .init caller (.ensureUpdateLoopStarted newImpl), []⟩
  | loopNotWanted (caller : Caller) (newImpl : PluginImpl)
      (stopping : plugin.shared.isShuttingDown = true) :
      Transition plugin (.init caller (.ensureUpdateLoopStarted newImpl))
        ⟨plugin.shared, .init caller (.store newImpl), []⟩
  | loopWanted (caller : Caller) (newImpl : PluginImpl)
      (running : plugin.shared.isShuttingDown = false) :
      Transition plugin (.init caller (.ensureUpdateLoopStarted newImpl))
        ⟨plugin.shared, .init caller (.clearShuttingDown newImpl), []⟩
  | cleared (caller : Caller) (newImpl : PluginImpl) :
      Transition plugin (.init caller (.clearShuttingDown newImpl))
        ⟨{ plugin.shared with isShuttingDown := false },
          .init caller (.startUpdateLoop newImpl), []⟩
  | loopPresent (caller : Caller) (newImpl : PluginImpl) :
      Transition plugin (.init caller (.startUpdateLoop newImpl))
        ⟨plugin.shared, .init caller (.store newImpl), []⟩
  | loopStarted (caller : Caller) (newImpl : PluginImpl)
      (absent : plugin.shared.updateLoopThread = none) :
      Transition plugin (.init caller (.startUpdateLoop newImpl))
        ⟨{ plugin.shared with updateLoopThread := some plugin.threads.length },
          .init caller (.store newImpl), [.updateCheck]⟩
  | stored (caller : Caller) (newImpl : PluginImpl) :
      Transition plugin (.init caller (.store newImpl))
        ⟨{ plugin.shared with pluginImpl := some newImpl }, .init caller .addDefault, []⟩
  | defaultAdded (caller : Caller) (impl : PluginImpl)
      (published : plugin.shared.pluginImpl = some impl) :
      Transition plugin (.init caller .addDefault)
        ⟨{ plugin.shared with
            contentHandlers := plugin.shared.contentHandlers ++ [defaultHandler impl] },
          .init caller .addAdminHandlers, []⟩
  | initialised (caller : Caller) :
      Transition plugin (.init caller .addAdminHandlers) ⟨plugin.shared, caller.initialised, []⟩
  | refused (caller : Caller) (reloading : plugin.shared.isReloading = true) :
      Transition plugin (.checkReloading caller) ⟨plugin.shared, caller.returns false, []⟩
  | accepted (caller : Caller) (idle : plugin.shared.isReloading = false) :
      Transition plugin (.checkReloading caller) ⟨plugin.shared, .setReloading caller, []⟩
  | begun (caller : Caller) :
      Transition plugin (.setReloading caller)
        ⟨{ plugin.shared with isReloading := true }, .init caller .construct, []⟩
  | reloaded (caller : Caller) :
      Transition plugin (.clearReloading caller)
        ⟨{ plugin.shared with isReloading := false }, caller.returns true, []⟩
  | loopEnds (stopping : plugin.shared.isShuttingDown = true) :
      Transition plugin .updateCheck ⟨plugin.shared, .ended, []⟩
  | loopGoesOn (running : plugin.shared.isShuttingDown = false) :
      Transition plugin .updateCheck ⟨plugin.shared, .poll, []⟩
  | nothingToReload : Transition plugin .poll ⟨plugin.shared, .updateCheck, []⟩
  | reloadWanted (impl : PluginImpl) (published : plugin.shared.pluginImpl = some impl) :
      Transition plugin .poll ⟨plugin.shared, .checkReloading .updateLoop, []⟩
  | stopBegun :
      Transition plugin .setShuttingDown
        ⟨{ plugin.shared with isShuttingDown := true }, .takeThread, []⟩
  | taken (loop : Nat) (held : plugin.shared.updateLoopThread = some loop) :
      Transition plugin .takeThread
        ⟨{ plugin.shared with updateLoopThread := none }, .join loop, []⟩
  | nothingToTake (absent : plugin.shared.updateLoopThread = none) :
      Transition plugin .takeThread ⟨plugin.shared, .resetShuttingDown, []⟩
  | joined (loop : Nat) (hasEnded : plugin.threads[loop]? = some .ended) :
      Transition plugin (.join loop) ⟨plugin.shared, .resetShuttingDown, []⟩
  | stopDone :
      Transition plugin .resetShuttingDown
        ⟨{ plugin.shared with isShuttingDown := false }, .stopped, []⟩

/-- A step of the initialisation is a transition. -/
theorem initStep_transition {plugin : PluginState} {caller : Caller} {point : InitPoint}
    {choice : Choice} {effect : Effect Members Activity}
    (stepped : initStep plugin caller point choice = some effect) :
    Transition plugin (.init caller point) effect := by
  unfold initStep at stepped
  split at stepped
  case h_9 newImpl =>
    dsimp only at stepped
    split at stepped
    · next stopping =>
        cases stepped
        exact .loopNotWanted caller newImpl stopping
    · next running =>
        cases stepped
        exact .loopWanted caller newImpl (Bool.eq_false_iff.mpr running)
  case h_11 newImpl =>
    dsimp only at stepped
    split at stepped
    · cases stepped
      exact .loopPresent caller newImpl
    · next absent =>
        cases stepped
        exact .loopStarted caller newImpl absent
  case h_13 =>
    dsimp only at stepped
    split at stepped
    · cases stepped
    · cases stepped
    · cases stepped
      exact .failed caller .addDefault
    · next impl published =>
        cases stepped
        exact .defaultAdded caller impl published
  all_goals cases stepped
  all_goals constructor

/-- What a thread does is a transition. -/
theorem act_transition {plugin : PluginState} {activity : Activity} {choice : Choice}
    {effect : Effect Members Activity} (acted : act plugin activity choice = some effect) :
    Transition plugin activity effect := by
  cases activity with
  | init caller point => exact initStep_transition acted
  | checkReloading caller =>
      simp only [act] at acted
      split at acted
      · next reloading =>
          cases acted
          exact .refused caller reloading
      · next idle =>
          cases acted
          exact .accepted caller (Bool.eq_false_iff.mpr idle)
  | setReloading caller =>
      cases acted
      exact .begun caller
  | clearReloading caller =>
      cases acted
      exact .reloaded caller
  | updateCheck =>
      simp only [act] at acted
      split at acted
      · next stopping =>
          cases acted
          exact .loopEnds stopping
      · next running =>
          cases acted
          exact .loopGoesOn (Bool.eq_false_iff.mpr running)
  | poll =>
      simp only [act] at acted
      split at acted
      · cases acted
        exact .nothingToReload
      · next impl published =>
          split at acted
          · cases acted
            exact .reloadWanted impl published
          · cases acted
            exact .nothingToReload
  | setShuttingDown =>
      cases acted
      exact .stopBegun
  | takeThread =>
      simp only [act] at acted
      split at acted
      · next loop held =>
          cases acted
          exact .taken loop held
      · next absent =>
          cases acted
          exact .nothingToTake absent
  | join loop =>
      simp only [act] at acted
      split at acted
      · next hasEnded =>
          cases acted
          exact .joined loop hasEnded
      · cases acted
  | resetShuttingDown =>
      cases acted
      exact .stopDone
  | ended => cases acted
  | stopped => cases acted
  | returned => cases acted
  | threw => cases acted

end SmartMetWfs.Plugin
