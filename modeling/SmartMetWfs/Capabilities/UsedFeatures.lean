import SmartMetWfs.Capabilities.Steps

/-!
# Features and data sets in use

What constructors register is known of every state that the server reaches. The features in use
are features that there are, each of them a return type of a stored query that is not hidden,
and every such query in the map has all its return types registered. A data set has been
registered by one construction only, whether that has succeeded or not.
-/

namespace SmartMetWfs.Capabilities

open Foundation

variable {features : Features}

namespace Construction

/-- The features that are still to be registered. -/
def remaining (construction : Construction) : List ByteString :=
  match construction.stage with
  | .features names => names
  | .dataSets _ | .initialising | .added | .failed _ => []

/-- The data sets that are still to be registered. -/
def remainingDataSets (construction : Construction) : List DataSetDef :=
  match construction.stage with
  | .features _ => construction.config.dataSetIds
  | .dataSets rest => rest
  | .initialising | .added | .failed _ => []

/-- Whether the construction has failed. -/
def hasFailed (construction : Construction) : Bool :=
  match construction.stage with
  | .failed _ => true
  | .features _ | .dataSets _ | .initialising | .added => false

/-- What has been registered for a construction, and what is left. -/
structure Sound (registry : Registry) (construction : Construction) : Prop where
  own : ∀ name ∈ construction.remaining,
    construction.config.hidden = false ∧ name ∈ construction.config.returnTypeNames
  used : construction.hasFailed = false → construction.config.hidden = false →
    ∀ name ∈ construction.config.returnTypeNames,
      registry.usedFeatures.contains name = true ∨ name ∈ construction.remaining
  registered : ∀ code, (construction.dataSetMap.find code).isSome →
    (registry.dataSetMap.find code).isSome
  complete : construction.hasFailed = false → ∀ item ∈ construction.config.dataSetIds,
    (construction.dataSetMap.find item.dataSet).isSome ∨ item ∈ construction.remainingDataSets

/-- A construction starts sound. -/
theorem sound_start (registry : Registry) (config : QueryConfig) :
    (start config).Sound registry where
  own name member := by
    cases hidden : config.hidden with
    | true =>
        simp only [remaining, start, hidden, if_true] at member
        exact absurd member List.not_mem_nil
    | false =>
        simp only [remaining, start, hidden, Bool.false_eq_true, if_false] at member
        exact ⟨hidden, member⟩
  used _ visible name member := by
    have visible : config.hidden = false := visible
    simp only [remaining, start, visible, Bool.false_eq_true, if_false]
    exact .inr member
  registered code registered := nomatch registered
  complete _ item member := .inr member

/-- A construction stays sound while the registry grows. -/
theorem Sound.grows {registry registry' : Registry} {construction : Construction}
    (sound : construction.Sound registry) (grows : registry.Grows registry') :
    construction.Sound registry' where
  own := sound.own
  used going visible name member :=
    (sound.used going visible name member).imp_left (grows.used name)
  registered code registered := grows.isSome (sound.registered code registered)
  complete := sound.complete

/-- What a step leaves registered for the construction that makes it. -/
theorem Step.sound {registry registry' : Registry} {construction construction' : Construction}
    (step : construction.Step features registry registry' construction')
    (sound : construction.Sound registry) : construction'.Sound registry' := by
  obtain ⟨config, stage, dataSetMap⟩ := construction
  obtain ⟨own, used, registered, complete⟩ := sound
  cases step with
  | featuresDone isStage | dataSetsDone isStage | added isStage =>
      cases isStage
      exact ⟨own, used, registered, complete⟩
  | @feature name names isStage known =>
      cases isStage
      refine ⟨fun other member => own other (List.mem_cons_of_mem _ member), ?_, registered,
        complete⟩
      intro going visible other member
      rcases used going visible other member with before | left
      · exact .inl (OrderedSet.contains_insert.mpr (.inr before))
      · rcases List.mem_cons.mp left with rfl | later
        · exact .inl (OrderedSet.contains_insert.mpr (.inl rfl))
        · exact .inr later
  | @dataSet item rest isStage fresh =>
      cases isStage
      refine ⟨own, used, fun code isOwn => ?_, fun going other member => ?_⟩
      · simp only [Registry.addDataSet, OrderedMap.find_set] at isOwn ⊢
        split
        · rfl
        · next differs =>
            rw [if_neg differs] at isOwn
            exact registered code isOwn
      · simp only [remainingDataSets, OrderedMap.find_set]
        split
        · exact .inl rfl
        · next differs =>
            rcases complete going other member with before | left
            · exact .inl before
            · rcases List.mem_cons.mp left with rfl | later
              · exact absurd rfl differs
              · exact .inr later
  | failed error going =>
      exact ⟨fun _ member => absurd member List.not_mem_nil, nofun, registered, nofun⟩

end Construction

/-- The thread at this place constructs a handler. -/
def Constructs (pool : Pool Registry Thread) (place : Nat) (construction : Construction) : Prop :=
  pool.threads[place]? = some (.construct construction)

/-- What holds of registrations in every state. -/
structure Consistent (features : Features) (pool : Pool Registry Thread) : Prop where
  sound : ∀ place construction, Constructs pool place construction →
    construction.Sound pool.shared
  used : ∀ name, pool.shared.usedFeatures.contains name = true → (features.find name).isSome ∧
    ∃ place construction, Constructs pool place construction ∧
      construction.config.hidden = false ∧ name ∈ construction.config.returnTypeNames
  owned : ∀ code, (pool.shared.dataSetMap.find code).isSome →
    ∃ place construction, Constructs pool place construction ∧
      (construction.dataSetMap.find code).isSome
  apart : ∀ place place' construction construction' code, Constructs pool place construction →
    Constructs pool place' construction' → (construction.dataSetMap.find code).isSome →
    (construction'.dataSetMap.find code).isSome → place = place'
  handlers : ∀ key handler, pool.shared.handlerMap.find key = some handler →
    handler.config.key = key ∧ ∃ place construction, Constructs pool place construction ∧
      construction.stage = .added ∧ construction.config = handler.config ∧
      construction.dataSetMap = handler.dataSetMap

/-- At the start everything is consistent. -/
theorem consistent_initial : Consistent features ⟨.initial, []⟩ where
  sound _ _ constructs := nomatch constructs
  used _ used := nomatch used
  owned _ registered := nomatch registered
  apart _ _ _ _ _ constructs := nomatch constructs
  handlers _ _ found := nomatch found

section

variable {pool : Pool Registry Thread}

/-- A construction that goes on, or one that there was before. -/
theorem constructs_set {registry' : Registry} {tid : Nat} {thread : Thread}
    {place : Nat} {construction : Construction}
    (constructs : Constructs ⟨registry', pool.threads.set tid thread⟩ place construction) :
    (place = tid ∧ thread = .construct construction) ∨
      (place ≠ tid ∧ Constructs pool place construction) := by
  unfold Constructs at constructs
  rw [List.getElem?_set] at constructs
  split at constructs
  · next same =>
      split at constructs
      · exact .inl ⟨same.symm, Option.some.inj constructs⟩
      · cases constructs
  · next differs => exact .inr ⟨Ne.symm differs, constructs⟩

/-- The other threads construct what they did. -/
theorem Constructs.other {registry' : Registry} {tid place : Nat} {thread : Thread}
    {construction : Construction} (constructs : Constructs pool place construction)
    (differs : place ≠ tid) :
    Constructs ⟨registry', pool.threads.set tid thread⟩ place construction := by
  unfold Constructs
  rw [List.getElem?_set_ne (Ne.symm differs)]
  exact constructs

/-- A thread constructs what it has become. -/
theorem constructs_self {registry' : Registry} {tid : Nat} {thread : Thread}
    {construction : Construction} (found : pool.threads[tid]? = some thread) :
    Constructs ⟨registry', pool.threads.set tid (.construct construction)⟩ tid construction := by
  obtain ⟨within, -⟩ := List.getElem?_eq_some_iff.mp found
  exact List.getElem?_set_self within

/-- A thread that constructs nothing takes no part. -/
theorem constructs_iff_of_reader {registry' : Registry} {tid : Nat} {thread thread' : Thread}
    (found : pool.threads[tid]? = some thread)
    (before : ∀ construction, thread ≠ .construct construction)
    (after : ∀ construction, thread' ≠ .construct construction) (place : Nat)
    (construction : Construction) :
    Constructs ⟨registry', pool.threads.set tid thread'⟩ place construction ↔
      Constructs pool place construction := by
  constructor
  · intro constructs
    rcases constructs_set constructs with ⟨-, same⟩ | ⟨-, old⟩
    · exact absurd same (after construction)
    · exact old
  · intro constructs
    apply constructs.other
    rintro rfl
    exact before construction (Option.some.inj (found.symm.trans constructs))

/-- What only depends on the constructions and the registrations. -/
theorem Consistent.congr {pool' : Pool Registry Thread} (consistent : Consistent features pool)
    (same : ∀ place construction, Constructs pool' place construction ↔
      Constructs pool place construction)
    (used : pool'.shared.usedFeatures = pool.shared.usedFeatures)
    (dataSets : pool'.shared.dataSetMap = pool.shared.dataSetMap)
    (handlers : ∀ key handler, pool'.shared.handlerMap.find key = some handler →
      pool.shared.handlerMap.find key = some handler) : Consistent features pool' := by
  have grows : pool.shared.Grows pool'.shared := by
    refine ⟨fun name => ?_, fun code => ?_⟩
    · rw [used]
      exact id
    · rw [dataSets]
      exact fun _ => id
  refine ⟨?_, ?_, ?_, ?_, ?_⟩
  · intro place construction constructs
    exact (consistent.sound place construction ((same _ _).mp constructs)).grows grows
  · intro name
    simp only [used, same]
    exact consistent.used name
  · intro code
    simp only [dataSets, same]
    exact consistent.owned code
  · intro place place' construction construction' code
    simp only [same]
    exact consistent.apart place place' construction construction' code
  · intro key handler found
    simp only [same]
    exact consistent.handlers key handler (handlers key handler found)

/-- A new thread has registered nothing. -/
theorem Consistent.call (consistent : Consistent features pool) {thread : Thread}
    (isNew : thread.isNew = true) :
    Consistent features ⟨pool.shared, pool.threads ++ [thread]⟩ := by
  have cases_new : ∀ {place construction},
      Constructs ⟨pool.shared, pool.threads ++ [thread]⟩ place construction →
        Constructs pool place construction ∨ construction = .start construction.config := by
    intro place construction constructs
    unfold Constructs at constructs
    rw [List.getElem?_append] at constructs
    split at constructs
    · exact .inl constructs
    · right
      obtain ⟨within, same⟩ := List.getElem?_eq_some_iff.mp constructs
      rw [List.getElem_singleton] at same
      rw [same] at isNew
      exact of_decide_eq_true isNew
  have kept : ∀ {place construction}, Constructs pool place construction →
      Constructs ⟨pool.shared, pool.threads ++ [thread]⟩ place construction := by
    intro place construction constructs
    obtain ⟨within, -⟩ := List.getElem?_eq_some_iff.mp constructs
    exact (List.getElem?_append_left within).trans constructs
  have nothing : ∀ {construction : Construction} {code}, construction = .start construction.config →
      ¬ (construction.dataSetMap.find code).isSome := by
    intro construction code started registered
    rw [started] at registered
    exact nomatch registered
  refine ⟨?_, ?_, ?_, ?_, ?_⟩
  · intro place construction constructs
    rcases cases_new constructs with old | started
    · exact consistent.sound place construction old
    · rw [started]
      exact Construction.sound_start _ _
  · intro name used
    obtain ⟨known, place, construction, constructs, facts⟩ := consistent.used name used
    exact ⟨known, place, construction, kept constructs, facts⟩
  · intro code registered
    obtain ⟨place, construction, constructs, own⟩ := consistent.owned code registered
    exact ⟨place, construction, kept constructs, own⟩
  · intro place place' construction construction' code constructs constructs' own own'
    rcases cases_new constructs with old | started
    · rcases cases_new constructs' with old' | started'
      · exact consistent.apart place place' construction construction' code old old' own own'
      · exact absurd own' (nothing started')
    · exact absurd own (nothing started)
  · intro key handler found
    obtain ⟨sameKey, place, construction, constructs, facts⟩ :=
      consistent.handlers key handler found
    exact ⟨sameKey, place, construction, kept constructs, facts⟩

/-- The data sets of a construction after a step of it: those that it had, and fresh ones. -/
theorem Construction.Step.dataSets {registry registry' : Registry}
    {construction construction' : Construction}
    (step : construction.Step features registry registry' construction') (code : ByteString) :
    ((construction.dataSetMap.find code).isSome → (construction'.dataSetMap.find code).isSome) ∧
    ((construction'.dataSetMap.find code).isSome →
      (construction.dataSetMap.find code).isSome ∨ registry.dataSetMap.find code = none) ∧
    ((registry'.dataSetMap.find code).isSome →
      (registry.dataSetMap.find code).isSome ∨ (construction'.dataSetMap.find code).isSome) := by
  cases step with
  | featuresDone | feature | dataSetsDone | added | failed => exact ⟨id, .inl, .inl⟩
  | @dataSet item rest stage fresh =>
      simp only [Registry.addDataSet, OrderedMap.find_set]
      split
      · next same =>
          rw [same]
          exact ⟨fun _ => rfl, fun _ => .inr fresh, fun _ => .inr rfl⟩
      · exact ⟨id, .inl, .inl⟩

/-- The features in use after a step of a construction. -/
theorem Construction.Step.used {registry registry' : Registry}
    {construction construction' : Construction}
    (step : construction.Step features registry registry' construction')
    (sound : construction.Sound registry) {name : ByteString}
    (used : registry'.usedFeatures.contains name = true) :
    registry.usedFeatures.contains name = true ∨ ((features.find name).isSome ∧
      construction.config.hidden = false ∧ name ∈ construction.config.returnTypeNames) := by
  cases step with
  | featuresDone | dataSet | dataSetsDone | added | failed => exact .inl used
  | @feature first names stage known =>
      rcases OrderedSet.contains_insert.mp used with rfl | before
      · refine .inr ⟨known, sound.own name ?_⟩
        simp only [Construction.remaining, stage]
        exact List.mem_cons_self
      · exact .inl before

/-- The handlers after a step of a construction. -/
theorem Construction.Step.handlers {registry registry' : Registry}
    {construction construction' : Construction}
    (step : construction.Step features registry registry' construction')
    {key : ByteString} {handler : Handler}
    (found : registry'.handlerMap.find key = some handler) :
    registry.handlerMap.find key = some handler ∨
      (handler = ⟨construction'.config, construction'.dataSetMap⟩ ∧ handler.config.key = key ∧
        construction'.stage = .added) := by
  cases step with
  | featuresDone | feature | dataSet | dataSetsDone | failed => exact .inl found
  | added stage =>
      simp only [Registry.addHandler, OrderedMap.find_set] at found
      split at found
      · next same =>
          cases found
          exact .inr ⟨rfl, same.symm, rfl⟩
      · exact .inl found

/-- What is added makes no step. -/
theorem Construction.Step.not_added {registry registry' : Registry}
    {construction construction' : Construction}
    (step : construction.Step features registry registry' construction') :
    construction.stage ≠ .added := by
  intro isAdded
  cases step with
  | failed error going =>
      rw [Construction.ended, isAdded] at going
      cases going
  | featuresDone stage | feature stage | dataSetsDone stage | dataSet stage | added stage =>
      exact nomatch stage.symm.trans isAdded

/-- A step of a constructor keeps the registrations consistent. -/
theorem Consistent.construct (consistent : Consistent features pool) {tid : Nat}
    {construction construction' : Construction} {registry' : Registry}
    (found : Constructs pool tid construction)
    (step : construction.Step features pool.shared registry' construction') :
    Consistent features ⟨registry', pool.threads.set tid (.construct construction')⟩ := by
  have grows := grows_of_moves (.construct step)
  have sound := consistent.sound tid construction found
  have self : Constructs ⟨registry', pool.threads.set tid (.construct construction')⟩ tid
      construction' := constructs_self found
  have follows : ∀ {place other}, Constructs pool place other →
      (place = tid ∧ other = construction) ∨ place ≠ tid := by
    intro place other constructs
    by_cases same : place = tid
    · subst same
      exact .inl ⟨rfl, Thread.construct.inj (Option.some.inj (constructs.symm.trans found))⟩
    · exact .inr same
  refine ⟨?_, ?_, ?_, ?_, ?_⟩
  · intro place other constructs
    rcases constructs_set constructs with ⟨-, same⟩ | ⟨-, old⟩
    · cases same
      exact step.sound sound
    · exact (consistent.sound place other old).grows grows
  · intro name used
    rcases step.used sound used with before | ⟨known, visible, member⟩
    · obtain ⟨known, place, other, constructs, facts⟩ := consistent.used name before
      rcases follows constructs with ⟨rfl, rfl⟩ | differs
      · exact ⟨known, place, construction', self, step.config ▸ facts⟩
      · exact ⟨known, place, other, constructs.other differs, facts⟩
    · exact ⟨known, tid, construction', self, step.config ▸ ⟨visible, member⟩⟩
  · intro code registered
    rcases (step.dataSets code).2.2 registered with before | own
    · obtain ⟨place, other, constructs, own⟩ := consistent.owned code before
      rcases follows constructs with ⟨rfl, rfl⟩ | differs
      · exact ⟨place, construction', self, (step.dataSets code).1 own⟩
      · exact ⟨place, other, constructs.other differs, own⟩
    · exact ⟨tid, construction', self, own⟩
  · -- A data set that the step registers was not registered by anyone before.
    have others : ∀ {place other code}, place ≠ tid → Constructs pool place other →
        (other.dataSetMap.find code).isSome → (construction'.dataSetMap.find code).isSome →
          False := by
      intro place other code differs constructs own own'
      rcases (step.dataSets code).2.1 own' with before | fresh
      · exact differs
          (consistent.apart place tid other construction code constructs found own before)
      · have registered := (consistent.sound place other constructs).registered code own
        rw [fresh] at registered
        cases registered
    intro place place' other other' code constructs constructs' own own'
    rcases constructs_set constructs with ⟨rfl, same⟩ | ⟨differs, old⟩
    · rcases constructs_set constructs' with ⟨rfl, -⟩ | ⟨differs', old'⟩
      · rfl
      · cases same
        exact (others differs' old' own' own).elim
    · rcases constructs_set constructs' with ⟨rfl, same'⟩ | ⟨-, old'⟩
      · cases same'
        exact (others differs old own own').elim
      · exact consistent.apart place place' other other' code old old' own own'
  · intro key handler inMap
    rcases step.handlers inMap with before | ⟨rfl, sameKey, isAdded⟩
    · obtain ⟨sameKey, place, other, constructs, facts⟩ := consistent.handlers key handler before
      rcases follows constructs with ⟨rfl, rfl⟩ | differs
      · exact absurd facts.1 step.not_added
      · exact ⟨sameKey, place, other, constructs.other differs, facts⟩
    · exact ⟨sameKey, tid, construction', self, isAdded, rfl, rfl⟩

/-- Every event keeps everything consistent. -/
theorem Consistent.event {after : Pool Registry Thread} {event : PoolEvent Thread Choice}
    (consistent : Consistent features pool) (starts : Starts pool event)
    (stepped : pool.step (act features) event = some after) : Consistent features after := by
  rcases event_cases starts stepped with
    ⟨thread, isNew, rfl⟩ | ⟨tid, _, thread, registry', thread', -, found, moves, rfl⟩
  · exact consistent.call isNew
  · cases moves with
    | construct step => exact consistent.construct found step
    | remove name =>
        refine consistent.congr (constructs_iff_of_reader found nofun nofun) rfl rfl ?_
        intro key handler inMap
        simp only [Registry.eraseHandler, OrderedMap.find_erase] at inMap
        split at inMap
        · cases inMap
        · exact inMap
    | listing step =>
        exact consistent.congr (constructs_iff_of_reader found nofun nofun) rfl rfl
          fun _ _ => id
    | capabilities step =>
        exact consistent.congr (constructs_iff_of_reader found nofun nofun) rfl rfl
          fun _ _ => id

/-- In every state of the server everything is consistent. -/
theorem consistent_of_reached (state : ServerState features pool) : Consistent features pool :=
  state.invariant consistent_initial fun _ _ _ consistent starts stepped =>
    consistent.event starts stepped

/-- The return types of a handler in the map that is not hidden are in use. -/
theorem Consistent.handler_used (consistent : Consistent features pool) {key : ByteString}
    {handler : Handler} (found : pool.shared.handlerMap.find key = some handler)
    (visible : handler.config.hidden = false) {name : ByteString}
    (member : name ∈ handler.config.returnTypeNames) :
    pool.shared.usedFeatures.contains name = true := by
  obtain ⟨-, place, construction, constructs, isAdded, same, -⟩ :=
    consistent.handlers key handler found
  have sound := consistent.sound place construction constructs
  rw [← same] at visible member
  have notFailed : construction.hasFailed = false := by rw [Construction.hasFailed, isAdded]
  rcases sound.used notFailed visible name member with used | left
  · exact used
  · rw [Construction.remaining, isAdded] at left
    exact absurd left List.not_mem_nil

/-- The features in use are there and are return types of stored queries that are not hidden;
those of every such query in the map are all in use. -/
theorem used_features (state : ServerState features pool) :
    (∀ name, pool.shared.usedFeatures.contains name = true → (features.find name).isSome ∧
      ∃ place construction, Constructs pool place construction ∧
        construction.config.hidden = false ∧ name ∈ construction.config.returnTypeNames) ∧
    ∀ key handler, pool.shared.handlerMap.find key = some handler →
      handler.config.key = key ∧ (handler.config.hidden = false →
        ∀ name ∈ handler.config.returnTypeNames,
          pool.shared.usedFeatures.contains name = true) := by
  have consistent := consistent_of_reached state
  refine ⟨consistent.used, fun key handler found => ⟨(consistent.handlers key handler found).1, ?_⟩⟩
  intro visible name member
  exact consistent.handler_used found visible member

/-- All data sets of a handler that has been added are its own. -/
theorem Construction.Sound.added {construction : Construction}
    (sound : construction.Sound pool.shared) (isAdded : construction.stage = .added)
    {item : DataSetDef} (member : item ∈ construction.config.dataSetIds) :
    (construction.dataSetMap.find item.dataSet).isSome := by
  have notFailed : construction.hasFailed = false := by rw [Construction.hasFailed, isAdded]
  rcases sound.complete notFailed item member with own | left
  · exact own
  · rw [Construction.remainingDataSets, isAdded] at left
    exact absurd left List.not_mem_nil

/-- A data set has been registered by exactly one construction, and two configurations that
name the same data set are never both added, whether one of them has been removed or not. -/
theorem data_set_registered_once (state : ServerState features pool) :
    (∀ code, (pool.shared.dataSetMap.find code).isSome ↔
      ∃! place, ∃ construction, Constructs pool place construction ∧
        (construction.dataSetMap.find code).isSome) ∧
    ∀ place place' construction construction', place ≠ place' →
      Constructs pool place construction → Constructs pool place' construction' →
      construction.stage = .added → construction'.stage = .added →
      ∀ item ∈ construction.config.dataSetIds, ∀ item' ∈ construction'.config.dataSetIds,
        item.dataSet ≠ item'.dataSet := by
  have consistent := consistent_of_reached state
  constructor
  · intro code
    constructor
    · intro registered
      obtain ⟨place, construction, constructs, own⟩ := consistent.owned code registered
      refine ⟨place, ⟨construction, constructs, own⟩, ?_⟩
      intro place' ⟨construction', constructs', own'⟩
      exact consistent.apart place' place construction' construction code constructs' constructs
        own' own
    · rintro ⟨place, ⟨construction, constructs, own⟩, -⟩
      exact (consistent.sound place construction constructs).registered code own
  · intro place place' construction construction' differs constructs constructs' isAdded isAdded'
      item member item' member' same
    have own := (consistent.sound place construction constructs).added isAdded member
    have own' := (consistent.sound place' construction' constructs').added isAdded' member'
    rw [← same] at own'
    exact differs (consistent.apart _ _ _ _ _ constructs constructs' own own')

end

/-! ### A server with two stored queries -/

/-- The name of the type of grids. -/
def gridName : ByteString := ascii "omso:Grid"

/-- The type of grids. -/
def gridFeature : FeatureDef :=
  ⟨gridName, ascii "Grid", ascii "http://omso", none, false, ascii "EPSG:4326", []⟩

/-- The only type. -/
def sampleFeatures : Features := OrderedMap.set gridName gridFeature .empty

/-- A query for forecasts. -/
def forecastQuery : QueryConfig := ⟨ascii "fmi::Forecast", [gridName], false, .ordinary⟩

/-- A query for data sets, one of which is the forecast. -/
def dataSetQuery : QueryConfig :=
  ⟨ascii "GetDataSetById", [], false,
    .getDataSetById [⟨ascii "1000549", ascii "fmi::Forecast", ascii "FI"⟩]⟩

/-- Both are constructed at the same time. -/
def constructionEvents : List (PoolEvent Thread Choice) :=
  [.call (.construct (.start forecastQuery)), .call (.construct (.start dataSetQuery)),
    .run 0 .proceeds, .run 1 .proceeds, .run 0 .proceeds, .run 1 .proceeds, .run 0 .proceeds,
    .run 1 .proceeds, .run 1 .proceeds, .run 0 .proceeds]

/-- The data sets that it has read. -/
def dataSetMapping : OrderedMap ByteString ByteString :=
  OrderedMap.set (ascii "1000549") (ascii "fmi::Forecast") .empty

/-- Both handlers are registered. -/
def sampleRegistry : Registry where
  usedFeatures := OrderedSet.insert gridName .empty
  dataSetMap := OrderedMap.set (ascii "1000549") (ascii "FI") .empty
  handlerMap := (OrderedMap.set dataSetQuery.key ⟨dataSetQuery, dataSetMapping⟩ .empty).set
    forecastQuery.key ⟨forecastQuery, .empty⟩

/-- The server after both constructions. -/
def sampleServer : Pool Registry Thread :=
  ⟨sampleRegistry, [.construct ⟨forecastQuery, .added, .empty⟩,
    .construct ⟨dataSetQuery, .added, dataSetMapping⟩]⟩

/-- It is a state of the server. -/
theorem sampleServer_reached : ServerState sampleFeatures sampleServer :=
  Pool.Reached.start.replay (show Pool.replay (act sampleFeatures) Starts ⟨.initial, []⟩
    constructionEvents = some sampleServer by decide +kernel)

/-- The type of the forecasts is known. -/
theorem sampleServer_features :
    (sampleFeatures.find gridName).isSome ∧ ∃ place construction,
      Constructs sampleServer place construction ∧ construction.config.hidden = false ∧
        gridName ∈ construction.config.returnTypeNames :=
  (used_features sampleServer_reached).1 gridName (by decide +kernel)

/-- The data set is registered by one construction. -/
theorem sampleServer_data_sets :
    ∃! place, ∃ construction, Constructs sampleServer place construction ∧
      (construction.dataSetMap.find (ascii "1000549")).isSome :=
  ((data_set_registered_once sampleServer_reached).1 _).mp (by decide +kernel)

end SmartMetWfs.Capabilities
