import SmartMetWfs.Capabilities.Registrations

/-!
# What a step can do

A step of a constructor registers a feature or a data set, adds the handler, or leaves what is
shared as it was. A removal takes one handler out, and the other threads only read. These facts
are stated once; what holds of all runs is derived from them.
-/

namespace SmartMetWfs.Capabilities

open Foundation

variable {features : Features}

/-- A step of a construction, with what is registered before and after. -/
inductive Construction.Step (features : Features) (registry : Registry)
    (construction : Construction) :
    Registry → Construction → Prop
  | featuresDone (stage : construction.stage = .features []) :
      Step features registry construction registry
        { construction with stage := .dataSets construction.config.dataSetIds }
  | feature {name : ByteString} {names : List ByteString}
      (stage : construction.stage = .features (name :: names))
      (known : (features.find name).isSome) :
      Step features registry construction (registry.useFeature name)
        { construction with stage := .features names }
  | dataSetsDone (stage : construction.stage = .dataSets []) :
      Step features registry construction registry { construction with stage := .initialising }
  | dataSet {item : DataSetDef} {rest : List DataSetDef}
      (stage : construction.stage = .dataSets (item :: rest))
      (fresh : registry.dataSetMap.find item.dataSet = none) :
      Step features registry construction (registry.addDataSet item.dataSet item.ns)
        { construction with
          stage := .dataSets rest
          dataSetMap := construction.dataSetMap.set item.dataSet item.storedQuery }
  | added (stage : construction.stage = .initialising) :
      Step features registry construction
        (registry.addHandler ⟨construction.config, construction.dataSetMap⟩)
        { construction with stage := .added }
  | failed (error : ConstructionError) (going : construction.ended = false) :
      Step features registry construction registry { construction with stage := .failed error }

/-- What a construction does is one of its steps. -/
theorem step_of_constructionStep {registry : Registry} {construction : Construction}
    {next : Registry × Construction}
    (stepped : constructionStep features registry construction = some next) :
    construction.Step features registry next.1 next.2 := by
  unfold constructionStep at stepped
  have going : ∀ {stage}, construction.stage = stage →
      (stage ≠ .added ∧ ∀ error, stage ≠ .failed error) → construction.ended = false := by
    intro stage same ⟨notAdded, notFailed⟩
    unfold Construction.ended
    rw [same]
    cases stage with
    | added => exact absurd rfl notAdded
    | failed error => exact absurd rfl (notFailed error)
    | features _ | dataSets _ | initialising => rfl
  split at stepped
  · next stage =>
      cases stepped
      exact .featuresDone stage
  · next name names stage =>
      split at stepped
      · next known =>
          cases stepped
          exact .feature stage known
      · cases stepped
        exact .failed _ (going stage ⟨nofun, nofun⟩)
  · next stage =>
      cases stepped
      exact .dataSetsDone stage
  · next item rest stage =>
      split at stepped
      · cases stepped
        exact .failed _ (going stage ⟨nofun, nofun⟩)
      · split at stepped
        · cases stepped
          exact .failed _ (going stage ⟨nofun, nofun⟩)
        · next fresh =>
            cases stepped
            exact .dataSet stage (Option.not_isSome_iff_eq_none.mp fresh)
  · next stage =>
      cases stepped
      exact .added stage
  · cases stepped
  · cases stepped

/-- A step keeps the configuration. -/
theorem Construction.Step.config {registry registry' : Registry}
    {construction construction' : Construction}
    (step : construction.Step features registry registry' construction') :
    construction'.config = construction.config := by
  cases step <;> rfl

/-- A step of a thread, with what is registered before and after. -/
inductive Moves (features : Features) (registry : Registry) : Thread → Registry → Thread → Prop
  | construct {construction construction' : Construction} {registry' : Registry}
      (step : construction.Step features registry registry' construction') :
      Moves features registry (.construct construction) registry' (.construct construction')
  | remove (name : ByteString) :
      Moves features registry (.remove name false) (registry.eraseHandler name) (.remove name true)
  | listing {request : ListingRequest} {stage next : ListingStage}
      (step : listingStep features registry request stage = some next) :
      Moves features registry (.listing request stage) registry (.listing request next)
  | capabilities {stage next : CapabilitiesStage}
      (step : capabilitiesStep features registry stage = some next) :
      Moves features registry (.capabilities stage) registry (.capabilities next)

/-- A listing moves by its own steps and leaves the registry. -/
theorem Moves.of_listing {registry registry' : Registry} {request : ListingRequest}
    {stage : ListingStage} {thread' : Thread}
    (moves : Moves features registry (.listing request stage) registry' thread') :
    ∃ next, listingStep features registry request stage = some next ∧
      thread' = .listing request next := by
  cases moves with
  | listing step => exact ⟨_, step, rfl⟩

/-- The capabilities move by their own steps and leave the registry. -/
theorem Moves.of_capabilities {registry registry' : Registry} {stage : CapabilitiesStage}
    {thread' : Thread} (moves : Moves features registry (.capabilities stage) registry' thread') :
    ∃ next, capabilitiesStep features registry stage = some next ∧
      thread' = .capabilities next := by
  cases moves with
  | capabilities step => exact ⟨_, step, rfl⟩

/-- What a thread does is one of its moves. -/
theorem moves_of_act {pool : Pool Registry Thread} {thread : Thread} {choice : Choice}
    {effect : Effect Registry Thread} (acted : act features pool thread choice = some effect) :
    effect.started = [] ∧ Moves features pool.shared thread effect.shared effect.thread := by
  unfold act at acted
  split at acted
  · obtain ⟨next, stepped, rfl⟩ := Option.map_eq_some_iff.mp acted
    exact ⟨rfl, .construct (step_of_constructionStep stepped)⟩
  · split at acted
    · cases acted
    · next going =>
        cases acted
        exact ⟨rfl, .construct (.failed _ (Bool.not_eq_true _ ▸ going))⟩
  · cases acted
    exact ⟨rfl, .remove _⟩
  · obtain ⟨next, stepped, rfl⟩ := Option.map_eq_some_iff.mp acted
    exact ⟨rfl, .listing stepped⟩
  · obtain ⟨next, stepped, rfl⟩ := Option.map_eq_some_iff.mp acted
    exact ⟨rfl, .capabilities stepped⟩
  · cases acted
  · cases acted
  · cases acted

/-- A new thread, or a step of one that is there. -/
theorem event_cases {pool after : Pool Registry Thread} {event : PoolEvent Thread Choice}
    (starts : Starts pool event) (stepped : pool.step (act features) event = some after) :
    (∃ thread, thread.isNew = true ∧ after = ⟨pool.shared, pool.threads ++ [thread]⟩) ∨
      ∃ tid choice thread registry' thread', event = .run tid choice ∧
        pool.threads[tid]? = some thread ∧
        Moves features pool.shared thread registry' thread' ∧
        after = ⟨registry', pool.threads.set tid thread'⟩ := by
  cases event with
  | call thread => exact .inl ⟨thread, starts, Pool.step_call stepped⟩
  | run tid choice =>
      obtain ⟨thread, effect, found, acted, rfl⟩ := Pool.step_run stepped
      obtain ⟨noThreads, moves⟩ := moves_of_act acted
      refine .inr ⟨tid, choice, thread, effect.shared, effect.thread, rfl, found, moves, ?_⟩
      rw [Pool.threadsAfter, noThreads, List.append_nil]

/-- A thread stays where it is unless it makes the step itself. -/
theorem place_cases {pool after : Pool Registry Thread} {event : PoolEvent Thread Choice}
    {tid : Nat} {thread : Thread} (found : pool.threads[tid]? = some thread)
    (starts : Starts pool event) (stepped : pool.step (act features) event = some after) :
    after.threads[tid]? = some thread ∨
      ∃ thread', Moves features pool.shared thread after.shared thread' ∧
        after.threads[tid]? = some thread' := by
  obtain ⟨within, -⟩ := List.getElem?_eq_some_iff.mp found
  rcases event_cases starts stepped with
    ⟨new, -, rfl⟩ | ⟨other, _, thread₀, registry', thread', -, found', moves, rfl⟩
  · exact .inl ((List.getElem?_append_left within).trans found)
  · by_cases same : other = tid
    · subst same
      cases found.symm.trans found'
      exact .inr ⟨thread', moves, List.getElem?_set_self within⟩
    · exact .inl ((List.getElem?_set_ne same).trans found)

/-! ### What is never taken back -/

/-- Registered features and data sets stay. -/
structure Registry.Grows (registry registry' : Registry) : Prop where
  used : ∀ name, registry.usedFeatures.contains name = true →
    registry'.usedFeatures.contains name = true
  dataSets : ∀ code ns, registry.dataSetMap.find code = some ns →
    registry'.dataSetMap.find code = some ns

/-- A registry has grown by nothing. -/
theorem Registry.Grows.rfl {registry : Registry} : registry.Grows registry :=
  ⟨fun _ => id, fun _ _ => id⟩

/-- What grows in two steps grows together. -/
theorem Registry.Grows.trans {first second third : Registry} (left : first.Grows second)
    (right : second.Grows third) : first.Grows third :=
  ⟨fun name => right.used name ∘ left.used name,
    fun code ns => right.dataSets code ns ∘ left.dataSets code ns⟩

/-- A data set that is registered stays so. -/
theorem Registry.Grows.isSome {registry registry' : Registry} (grows : registry.Grows registry')
    {code : ByteString} (registered : (registry.dataSetMap.find code).isSome) :
    (registry'.dataSetMap.find code).isSome := by
  obtain ⟨ns, found⟩ := Option.isSome_iff_exists.mp registered
  exact Option.isSome_iff_exists.mpr ⟨ns, grows.dataSets code ns found⟩

/-- The registry grows with every move. -/
theorem grows_of_moves {registry registry' : Registry} {thread thread' : Thread}
    (moves : Moves features registry thread registry' thread') : registry.Grows registry' := by
  cases moves with
  | remove name => exact ⟨fun _ => id, fun _ _ => id⟩
  | listing step => exact .rfl
  | capabilities step => exact .rfl
  | construct step =>
      cases step with
      | featuresDone | dataSetsDone | failed => exact .rfl
      | added => exact ⟨fun _ => id, fun _ _ => id⟩
      | feature stage known =>
          exact ⟨fun name used => OrderedSet.contains_insert.mpr (.inr used), fun _ _ => id⟩
      | dataSet stage fresh =>
          refine ⟨fun _ => id, fun code ns registered => ?_⟩
          apply (OrderedMap.find_set_ne _ _ _).trans registered
          rintro rfl
          exact nomatch fresh.symm.trans registered

/-- The registry grows with every event of the server. -/
theorem grows_of_event {pool after : Pool Registry Thread} {event : PoolEvent Thread Choice}
    (starts : Starts pool event) (stepped : pool.step (act features) event = some after) :
    pool.shared.Grows after.shared := by
  rcases event_cases starts stepped with ⟨_, -, rfl⟩ | ⟨_, _, _, _, _, -, -, moves, rfl⟩
  · exact .rfl
  · exact grows_of_moves moves

end SmartMetWfs.Capabilities
