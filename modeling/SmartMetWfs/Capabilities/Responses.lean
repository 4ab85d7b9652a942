import SmartMetWfs.Capabilities.UsedFeatures

/-!
# Responses about capabilities

`GetCapabilities` lists features and data sets while stored queries are being added. Whatever
had been registered when the request started is in the response, and whatever is in the response
has been registered when it ends; no feature in use is missing from the map of features.
-/

namespace SmartMetWfs.Capabilities

open Foundation

variable {features : Features}

/-- The features that the names stand for. -/
theorem mapM_featureAt {names : List ByteString}
    (known : ∀ name ∈ names, (features.find name).isSome) :
    ∃ used, names.mapM (featureAt features) = .ok used ∧
      ∀ feature, feature ∈ used ↔ ∃ name ∈ names, features.find name = some feature := by
  induction names with
  | nil => exact ⟨[], rfl, by simp⟩
  | cons name names ih =>
      obtain ⟨first, others⟩ := List.forall_mem_cons.mp known
      obtain ⟨feature, found⟩ := Option.isSome_iff_exists.mp first
      obtain ⟨used, ran, members⟩ := ih others
      refine ⟨feature :: used, ?_, fun other => ?_⟩
      · rw [List.mapM_cons, ran, featureAt, found]
        rfl
      · rw [List.mem_cons, members, List.exists_mem_cons_iff, found, Option.some.injEq, eq_comm]

/-- The listed entries are those of the features in use that are not hidden. -/
theorem listedFeatures_spec {names : List ByteString}
    (known : ∀ name ∈ names, (features.find name).isSome) :
    ∃ listed, listedFeatures features names = .ok listed ∧
      ∀ entry, entry ∈ listed ↔ ∃ name ∈ names, ∃ feature, features.find name = some feature ∧
        feature.hidden = false ∧ feature.entry = entry := by
  obtain ⟨used, ran, members⟩ := mapM_featureAt known
  refine ⟨(used.filter fun feature => !feature.hidden).map FeatureDef.entry, ?_, fun entry => ?_⟩
  · rw [listedFeatures, ran]
    rfl
  · simp only [List.mem_map, List.mem_filter, members, Bool.not_eq_eq_eq_not, Bool.not_true]
    constructor
    · intro ⟨feature, ⟨⟨name, member, found⟩, visible⟩, same⟩
      exact ⟨name, member, feature, found, visible, same⟩
    · intro ⟨name, member, feature, found, visible, same⟩
      exact ⟨feature, ⟨⟨name, member, found⟩, visible⟩, same⟩

/-- The entry is that of a feature in use that is not hidden. -/
def UsesFeature (features : Features) (registry : Registry) (entry : FeatureEntry) : Prop :=
  ∃ name feature, registry.usedFeatures.contains name = true ∧ features.find name = some feature ∧
    feature.hidden = false ∧ feature.entry = entry

/-- A feature that is used stays so while the registry grows. -/
theorem UsesFeature.grows {registry registry' : Registry} {entry : FeatureEntry}
    (uses : UsesFeature features registry entry) (grows : registry.Grows registry') :
    UsesFeature features registry' entry := by
  obtain ⟨name, feature, used, facts⟩ := uses
  exact ⟨name, feature, grows.used name used, facts⟩

/-- What holds of the response between its start and the present. -/
def Between (features : Features) (start now : Registry) : CapabilitiesStage → Prop
  | .starting => True
  | .dataSets listed =>
      (∀ entry, UsesFeature features start entry → entry ∈ listed) ∧
        ∀ entry ∈ listed, UsesFeature features now entry
  | .finished listed dataSets =>
      ((∀ entry, UsesFeature features start entry → entry ∈ listed) ∧
        ∀ entry ∈ listed, UsesFeature features now entry) ∧
      (∀ code ns, start.dataSetMap.find code = some ns → (code, ns) ∈ dataSets) ∧
        ∀ item ∈ dataSets, now.dataSetMap.find item.1 = some item.2
  | .failed _ => False

/-- What lies before now lies before later. -/
theorem Between.grows {start now later : Registry} {stage : CapabilitiesStage}
    (between : Between features start now stage) (grows : now.Grows later) :
    Between features start later stage := by
  cases stage with
  | starting => trivial
  | dataSets listed =>
      exact ⟨between.1, fun entry member => (between.2 entry member).grows grows⟩
  | finished listed dataSets =>
      obtain ⟨⟨complete, sound⟩, dataComplete, dataSound⟩ := between
      exact ⟨⟨complete, fun entry member => (sound entry member).grows grows⟩, dataComplete,
        fun item member => grows.dataSets _ _ (dataSound item member)⟩
  | failed error => exact between

/-- A step of the response, when no feature in use is missing. -/
theorem Between.step {start now : Registry} {stage next : CapabilitiesStage}
    (between : Between features start now stage) (since : start.Grows now)
    (known : ∀ name, now.usedFeatures.contains name = true → (features.find name).isSome)
    (step : capabilitiesStep features now stage = some next) :
    Between features start now next := by
  cases stage with
  | starting =>
      have known' : ∀ name ∈ now.usedFeatures.keys, (features.find name).isSome :=
        fun name member => known name (OrderedSet.mem_keys_iff_contains.mp member)
      obtain ⟨listed, isListed, members⟩ := listedFeatures_spec known'
      simp only [capabilitiesStep, isListed] at step
      cases step
      have uses : ∀ entry, UsesFeature features now entry ↔ entry ∈ listed := by
        intro entry
        rw [members]
        simp only [OrderedSet.mem_keys_iff_contains]
        constructor
        · intro ⟨name, feature, used, facts⟩
          exact ⟨name, used, feature, facts⟩
        · intro ⟨name, used, feature, facts⟩
          exact ⟨name, feature, used, facts⟩
      exact ⟨fun entry used => (uses entry).mp (used.grows since),
        fun entry member => (uses entry).mpr member⟩
  | dataSets listed =>
      cases step
      exact ⟨between, fun code ns registered =>
          OrderedMap.find_eq_some.mp (since.dataSets code ns registered),
        fun item member => OrderedMap.find_eq_some.mpr member⟩
  | finished listed dataSets => cases step
  | failed error => cases step

/-- The response to `GetCapabilities` never fails for want of a feature. It holds all features
and data sets that were in use when the request started and no others than those that are in
use when it ends, whatever is registered in between. -/
theorem capabilities_between {start pool : Pool Registry Thread} {tid : Nat}
    {stage : CapabilitiesStage} (state : ServerState features start)
    (begins : start.threads[tid]? = some (.capabilities .starting))
    (run : Pool.Reached (act features) Starts start pool)
    (now : pool.threads[tid]? = some (.capabilities stage)) :
    Between features start.shared pool.shared stage := by
  have kept : Consistent features pool ∧ start.shared.Grows pool.shared ∧
      ∃ stage, pool.threads[tid]? = some (.capabilities stage) ∧
        Between features start.shared pool.shared stage := by
    apply @Pool.Reached.invariant _ _ _ _ _ _ _ (fun pool => Consistent features pool ∧
      start.shared.Grows pool.shared ∧ ∃ stage, pool.threads[tid]? = some (.capabilities stage) ∧
        Between features start.shared pool.shared stage) run
    · exact ⟨consistent_of_reached state, .rfl, .starting, begins, trivial⟩
    · intro pool event after ⟨consistent, since, stage, here, between⟩ starts stepped
      have grows := grows_of_event starts stepped
      refine ⟨consistent.event starts stepped, since.trans grows, ?_⟩
      rcases place_cases here starts stepped with stays | ⟨thread', moves, here'⟩
      · exact ⟨stage, stays, between.grows grows⟩
      · obtain ⟨next, step, rfl⟩ := moves.of_capabilities
        have known := fun name used => (consistent.used name used).1
        exact ⟨next, here', (between.step since known step).grows grows⟩
  obtain ⟨-, -, stage', now', between⟩ := kept
  cases now.symm.trans now'
  exact between

/-! ### A response -/

/-- A request on the server with two stored queries. -/
def requestedServer : Pool Registry Thread :=
  { sampleServer with threads := sampleServer.threads ++ [.capabilities .starting] }

/-- It is a state of the server. -/
theorem requestedServer_reached : ServerState sampleFeatures requestedServer :=
  sampleServer_reached.replay (show Pool.replay (act sampleFeatures) Starts sampleServer
    [.call (.capabilities .starting)] = some requestedServer by decide +kernel)

/-- The server after the answer. -/
def answeredServer : Pool Registry Thread :=
  { sampleServer with threads := sampleServer.threads ++
      [.capabilities (.finished [gridFeature.entry] [(ascii "1000549", ascii "FI")])] }

/-- It is reached from the server that was asked. -/
theorem answeredServer_reached :
    Pool.Reached (act sampleFeatures) Starts requestedServer answeredServer :=
  Pool.Reached.start.replay (show Pool.replay (act sampleFeatures) Starts requestedServer
    [.run 2 .proceeds, .run 2 .proceeds] = some answeredServer by decide +kernel)

/-- The answer lies between the two registries. -/
theorem answeredServer_between :
    Between sampleFeatures requestedServer.shared answeredServer.shared
      (.finished [gridFeature.entry] [(ascii "1000549", ascii "FI")]) :=
  @capabilities_between _ _ _ 2 _ requestedServer_reached (by decide +kernel)
    answeredServer_reached (by decide +kernel)

end SmartMetWfs.Capabilities
