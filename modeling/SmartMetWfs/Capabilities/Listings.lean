import SmartMetWfs.Capabilities.UsedFeatures

/-!
# Listings of stored queries

A listing takes the names of all handlers and then looks up one after the other, while handlers
are added and removed. It has no lock over the whole of this. Still what it shows under each
name is what was there at one moment between its start and its end, the names are in order, and
no name comes twice. A listing that is not disturbed by a removal gets to its end.
-/

namespace SmartMetWfs.Capabilities

open Foundation

variable {features : Features}

/-- The name under which the entry is found. -/
def QueryEntry.key (entry : QueryEntry) : ByteString := asciiTolowerCopy entry.id

/-- What is listed under a name. -/
def entriesOf (key : ByteString) (entries : List QueryEntry) : List QueryEntry :=
  entries.filter fun entry => entry.key = key

/-- All handlers are to be listed. -/
def ListingRequest.ofAll : ListingRequest → Bool
  | .listStoredQueries => true
  | .describeStoredQueries ids => ids.isEmpty

/-- A listing of all has the names of the registry. -/
theorem names_ofAll {request : ListingRequest} (ofAll : request.ofAll = true)
    (registry : Registry) :
    request.names registry = registry.handlerMap.keys := by
  cases request with
  | listStoredQueries => rfl
  | describeStoredQueries ids => exact if_pos ofAll

/-- What is listed under a name agrees with the handlers at one of these moments. -/
inductive Shows (features : Features) (request : ListingRequest) (moments : Registry → Prop)
    (key : ByteString) : List QueryEntry → Prop
  | absent {registry : Registry} (moment : moments registry)
      (missing : registry.handlerMap.find key = none) : Shows features request moments key []
  | hidden {registry : Registry} {handler : Handler} (moment : moments registry)
      (found : registry.handlerMap.find key = some handler)
      (hides : request.shows handler = false) : Shows features request moments key []
  | listed {registry : Registry} {handler : Handler} {entry : Option QueryEntry}
      (moment : moments registry) (found : registry.handlerMap.find key = some handler)
      (shows : request.shows handler = true) (ordinary : handler.config.kind = .ordinary)
      (described : describeQuery features request handler handler.config.returnTypeNames =
        .ok entry) : Shows features request moments key entry.toList
  | collected {registry registry' : Registry} {handler : Handler} {entry : Option QueryEntry}
      (moment : moments registry) (found : registry.handlerMap.find key = some handler)
      (shows : request.shows handler = true) (collects : handler.config.kind ≠ .ordinary)
      (moment' : moments registry')
      (described : describeQuery features request handler registry'.returnTypeNames = .ok entry) :
      Shows features request moments key entry.toList

/-- A listing has got this far: the names that have been listed and those that are left are in
order, and the given name is left or is listed as at some moment. -/
def Progress (features : Features) (request : ListingRequest) (moments : Registry → Prop)
    (key : ByteString) : ListingStage → Prop
  | .starting | .failed _ => True
  | .scanning names entries =>
      (entries.map QueryEntry.key ++ names).Pairwise (· < ·) ∧
      (∀ name ∈ names, asciiTolowerCopy name = name) ∧
      (key ∈ names ∨ Shows features request moments key (entriesOf key entries))
  | .collecting handler names entries =>
      (entries.map QueryEntry.key ++ handler.config.key :: names).Pairwise (· < ·) ∧
      (∀ name ∈ names, asciiTolowerCopy name = name) ∧
      request.shows handler = true ∧ handler.config.kind ≠ .ordinary ∧
      (key ∈ names ∨
        (key = handler.config.key ∧ ∃ registry, moments registry ∧
          registry.handlerMap.find key = some handler) ∨
        (key ≠ handler.config.key ∧ Shows features request moments key (entriesOf key entries)))
  | .finished entries =>
      (entries.map QueryEntry.key).Pairwise (· < ·) ∧
      Shows features request moments key (entriesOf key entries)

/-- The entry of a handler stands under its name. -/
theorem key_of_describeQuery {request : ListingRequest} {handler : Handler}
    {returnTypes : List ByteString} {entry : QueryEntry}
    (described : describeQuery features request handler returnTypes = .ok (some entry)) :
    entry.key = handler.config.key := by
  cases request with
  | listStoredQueries =>
      obtain ⟨listed, -, rest⟩ := ok_of_bind described
      cases rest
      rfl
  | describeStoredQueries ids =>
      rw [describeQuery] at described
      split at described
      · cases described
      · obtain ⟨types, -, rest⟩ := ok_of_bind described
        cases rest
        rfl

theorem entriesOf_append (key : ByteString) (entries : List QueryEntry) (entry : QueryEntry) :
    entriesOf key (entries ++ [entry]) =
      entriesOf key entries ++ if entry.key = key then [entry] else [] := by
  rw [entriesOf, List.filter_append, List.filter_singleton]
  simp [entriesOf]

/-- What comes before the names that are left is not listed yet. -/
theorem entriesOf_eq_nil {entries : List QueryEntry} {names : List ByteString} {key : ByteString}
    (sorted : (entries.map QueryEntry.key ++ names).Pairwise (· < ·)) (left : key ∈ names) :
    entriesOf key entries = [] := by
  apply List.filter_eq_nil_iff.mpr
  intro entry member same
  have below := (List.pairwise_append.mp sorted).2.2 entry.key (List.mem_map_of_mem member) key left
  exact below.ne (of_decide_eq_true same)

section

variable {request : ListingRequest} {moments : Registry → Prop} {key : ByteString}

/-- A handler has been described, with what is left after it. -/
theorem progress_afterQuery {handler : Handler} {returnTypes names : List ByteString}
    {entries : List QueryEntry}
    (sorted : (entries.map QueryEntry.key ++ handler.config.key :: names).Pairwise (· < ·))
    (lower : ∀ name ∈ names, asciiTolowerCopy name = name)
    (others : key ≠ handler.config.key →
      key ∈ names ∨ Shows features request moments key (entriesOf key entries))
    (shown : ∀ entry, describeQuery features request handler returnTypes = .ok entry →
      key = handler.config.key → Shows features request moments key entry.toList) :
    Progress features request moments key
      (afterQuery features request handler returnTypes names entries) := by
  have nothing : key = handler.config.key → entriesOf key entries = [] := by
    intro same
    exact entriesOf_eq_nil sorted (same ▸ List.mem_cons_self)
  unfold afterQuery
  split
  · trivial
  · next described =>
      refine ⟨sorted.sublist ((List.sublist_cons_self _ _).append_left _), lower, ?_⟩
      by_cases same : key = handler.config.key
      · rw [nothing same]
        exact .inr (shown none described same)
      · exact others same
  · next entry described =>
      have sameKey := key_of_describeQuery described
      refine ⟨?_, lower, ?_⟩
      · rw [List.map_append, List.map_singleton, sameKey, List.append_assoc]
        exact sorted
      · rw [entriesOf_append, sameKey]
        by_cases same : key = handler.config.key
        · rw [nothing same, if_pos same.symm]
          exact .inr (shown (some entry) described same)
        · rw [if_neg (Ne.symm same), List.append_nil]
          exact others same

/-- An access of a listing at one of the moments. -/
theorem Progress.step {registry : Registry} {stage next : ListingStage}
    (progress : Progress features request moments key stage) (ofAll : request.ofAll = true)
    (moment : moments registry)
    (keyed : ∀ name handler, registry.handlerMap.find name = some handler →
      handler.config.key = name)
    (step : listingStep features registry request stage = some next) :
    Progress features request moments key next := by
  cases stage with
  | starting =>
      cases step
      rw [names_ofAll ofAll]
      refine ⟨List.pairwise_map.mpr registry.handlerMap.sorted, ?_, ?_⟩
      · intro name member
        obtain ⟨handler, found⟩ := OrderedMap.mem_keys.mp member
        rw [← keyed name handler found]
        exact asciiTolowerCopy_idempotent _
      · cases found : registry.handlerMap.find key with
        | none => exact .inr (.absent moment found)
        | some handler => exact .inl (OrderedMap.mem_keys.mpr ⟨handler, found⟩)
  | scanning names entries =>
      obtain ⟨sorted, lower, shown⟩ := progress
      cases names with
      | nil =>
          cases step
          rw [List.append_nil] at sorted
          exact ⟨sorted, shown.resolve_left List.not_mem_nil⟩
      | cons name names =>
          obtain ⟨isLower, lower⟩ := List.forall_mem_cons.mp lower
          simp only [listingStep, isLower] at step
          cases found : registry.handlerMap.find name with
          | none =>
              simp only [found] at step
              cases step
              trivial
          | some handler =>
              simp only [found] at step
              have sameKey := keyed name handler found
              have others : key ≠ name →
                  key ∈ names ∨ Shows features request moments key (entriesOf key entries) :=
                fun differs => shown.imp_left fun member =>
                  (List.mem_cons.mp member).resolve_left differs
              rw [← sameKey] at sorted others
              split at step
              · next shows =>
                  split at step
                  · next ordinary =>
                      cases step
                      refine progress_afterQuery sorted lower others fun entry described same => ?_
                      rw [← sameKey, ← same] at found
                      exact .listed moment found shows ordinary described
                  · next collects =>
                      cases step
                      refine ⟨sorted, lower, shows, collects, ?_⟩
                      by_cases same : key = handler.config.key
                      · rw [← sameKey, ← same] at found
                        exact .inr (.inl ⟨same, registry, moment, found⟩)
                      · exact (others same).imp_right fun isShown => .inr ⟨same, isShown⟩
              · next hides =>
                  cases step
                  refine ⟨sorted.sublist ((List.sublist_cons_self _ _).append_left _), lower, ?_⟩
                  by_cases same : key = handler.config.key
                  · rw [entriesOf_eq_nil sorted (same ▸ List.mem_cons_self)]
                    rw [← sameKey, ← same] at found
                    exact .inr (.hidden moment found (Bool.not_eq_true _ ▸ hides))
                  · exact others same
  | collecting handler names entries =>
      cases step
      obtain ⟨sorted, lower, shows, collects, shown⟩ := progress
      apply progress_afterQuery sorted lower
      · intro differs
        rcases shown with left | ⟨same, -⟩ | ⟨-, isShown⟩
        · exact .inl left
        · exact absurd same differs
        · exact .inr isShown
      · intro entry described same
        rcases shown with left | ⟨-, before, wasMoment, found⟩ | ⟨differs, -⟩
        · have below := (List.pairwise_cons.mp (List.pairwise_append.mp sorted).2.1).1 key left
          exact absurd same.symm below.ne
        · exact .collected wasMoment found shows collects moment described
        · exact absurd same differs
  | finished entries => cases step
  | failed error => cases step

/-- What a listing shows under a name is what was there at some moment after its start, and its
names are in order. -/
theorem listing_at_moments {start pool : Pool Registry Thread} {tid : Nat}
    {entries : List QueryEntry} (state : ServerState features start)
    (begins : start.threads[tid]? = some (.listing request .starting))
    (ofAll : request.ofAll = true)
    (run : Pool.Reached (act features)
      (fun pool event => Starts pool event ∧ moments pool.shared) start pool)
    (ends : pool.threads[tid]? = some (.listing request (.finished entries))) :
    (entries.map QueryEntry.key).Pairwise (· < ·) ∧
      Shows features request moments key (entriesOf key entries) := by
  have kept : Consistent features pool ∧ ∃ stage,
      pool.threads[tid]? = some (.listing request stage) ∧
        Progress features request moments key stage := by
    apply @Pool.Reached.invariant _ _ _ _ _ _ _ (fun pool => Consistent features pool ∧ ∃ stage,
      pool.threads[tid]? = some (.listing request stage) ∧
        Progress features request moments key stage) run
    · exact ⟨consistent_of_reached state, .starting, begins, trivial⟩
    · intro pool event after ⟨consistent, stage, here, progress⟩ ⟨starts, moment⟩ stepped
      refine ⟨consistent.event starts stepped, ?_⟩
      rcases place_cases here starts stepped with stays | ⟨thread', moves, here'⟩
      · exact ⟨stage, stays, progress⟩
      · obtain ⟨next, step, rfl⟩ := moves.of_listing
        have keyed := fun name handler found => (consistent.handlers name handler found).1
        exact ⟨next, here', progress.step ofAll moment keyed step⟩
  obtain ⟨-, stage, here, progress⟩ := kept
  cases ends.symm.trans here
  exact progress

end

/-! ### The end of a listing -/

/-- The event takes a handler out of the map. -/
def removesHandler (pool : Pool Registry Thread) : PoolEvent Thread Choice → Bool
  | .call _ => false
  | .run tid _ =>
      match pool.threads[tid]? with
      | some (.remove _ false) => true
      | _ => false

/-- No handler is removed, and the return types of hidden handlers are features. -/
def Undisturbed (features : Features) (pool : Pool Registry Thread)
    (event : PoolEvent Thread Choice) : Prop :=
  Starts pool event ∧ removesHandler pool event = false ∧
    ∀ item ∈ pool.shared.handlerMap.entries, item.2.config.hidden = true →
      ∀ name ∈ item.2.config.returnTypeNames, (features.find name).isSome

instance (pool : Pool Registry Thread) (event : PoolEvent Thread Choice) :
    Decidable (Undisturbed features pool event) :=
  inferInstanceAs (Decidable (_ ∧ _ ∧ _))

/-- A query is described when its types are known. -/
theorem describeQuery_succeeds (request : ListingRequest) (handler : Handler)
    {returnTypes : List ByteString} (known : ∀ name ∈ returnTypes, (features.find name).isSome) :
    ∃ entry, describeQuery features request handler returnTypes = .ok entry := by
  cases request with
  | listStoredQueries =>
      cases ran : returnTypes.mapM (listedType features) with
      | ok listed => exact ⟨_, by rw [describeQuery, ran]; rfl⟩
      | error failure =>
          obtain ⟨name, member, _, fails⟩ := mapM_fails_iff.mp ⟨failure, ran⟩
          obtain ⟨feature, found⟩ := Option.isSome_iff_exists.mp (known name member)
          rw [listedType, found] at fails
          cases fails
  | describeStoredQueries ids =>
      rw [describeQuery]
      split
      · exact ⟨none, rfl⟩
      · have meets := @describeTypes_resolve features returnTypes
        cases ran : describeTypes features returnTypes with
        | ok described => exact ⟨_, rfl⟩
        | error failure =>
            rw [ran] at meets
            obtain ⟨before, name, after, rfl, -, missing, -⟩ := meets
            have isKnown := known name (by simp)
            rw [missing] at isKnown
            cases isKnown

/-- The names of types are those of some handler. -/
theorem mem_returnTypeNames {registry : Registry} {name : ByteString} :
    name ∈ registry.returnTypeNames ↔
      ∃ item ∈ registry.handlerMap.entries, name ∈ item.2.config.returnTypeNames := by
  rw [Registry.returnTypeNames, OrderedSet.mem_keys_foldl_insert, List.mem_flatMap]
  exact or_iff_left List.not_mem_nil

/-- A listing goes on, and the names that are left are in the map. -/
def Waiting (registry : Registry) : ListingStage → Prop
  | .starting => True
  | .scanning names _ | .collecting _ names _ =>
      ∀ name ∈ names, (registry.handlerMap.find (asciiTolowerCopy name)).isSome
  | .finished _ | .failed _ => False

/-- How much is left of a listing. It is not known before the names have been read. -/
def listingRank : Thread → Nat × Nat
  | .listing _ .starting => (1, 0)
  | .listing _ (.scanning names _) => (0, 2 * names.length + 1)
  | .listing _ (.collecting _ names _) => (0, 2 * names.length + 2)
  | _ => (0, 0)

/-- Less is left of the listing. -/
def LessLeft (after before : Nat × Nat) : Prop := Prod.Lex (· < ·) (· < ·) after before

/-- There cannot be less left for ever. -/
theorem lessLeft_wellFounded : WellFounded LessLeft :=
  WellFounded.prod_lex Nat.lt_wfRel.wf Nat.lt_wfRel.wf

/-- An access of a listing goes on or ends it, and leaves less. -/
theorem Waiting.step {registry : Registry} {request : ListingRequest} {stage next : ListingStage}
    (waiting : Waiting registry stage) (ofAll : request.ofAll = true)
    (keyed : ∀ name handler, registry.handlerMap.find name = some handler →
      handler.config.key = name)
    (known : ∀ item ∈ registry.handlerMap.entries, ∀ name ∈ item.2.config.returnTypeNames,
      (features.find name).isSome)
    (step : listingStep features registry request stage = some next) :
    (∃ entries, next = .finished entries) ∨ Waiting registry next ∧
      LessLeft (listingRank (.listing request next)) (listingRank (.listing request stage)) := by
  have described : ∀ handler returnTypes names entries,
      (∀ name ∈ returnTypes, (features.find name).isSome) →
      ∃ entries', afterQuery features request handler returnTypes names entries =
        .scanning names entries' := by
    intro handler returnTypes names entries areKnown
    obtain ⟨entry, described⟩ := describeQuery_succeeds request handler areKnown
    rw [afterQuery, described]
    cases entry with
    | none => exact ⟨_, rfl⟩
    | some entry => exact ⟨_, rfl⟩
  have smaller : ∀ {few many : Nat}, few < many → LessLeft (0, few) (0, many) :=
    fun below => .right 0 below
  cases stage with
  | starting =>
      cases step
      refine .inr ⟨fun name member => ?_, .left _ _ Nat.zero_lt_one⟩
      rw [names_ofAll ofAll] at member
      obtain ⟨handler, found⟩ := OrderedMap.mem_keys.mp member
      rw [← keyed name handler found, QueryConfig.key, asciiTolowerCopy_idempotent,
        ← QueryConfig.key, keyed name handler found, found]
      rfl
  | scanning names entries =>
      cases names with
      | nil =>
          cases step
          exact .inl ⟨entries, rfl⟩
      | cons name names =>
          obtain ⟨present, left⟩ := List.forall_mem_cons.mp waiting
          obtain ⟨handler, found⟩ := Option.isSome_iff_exists.mp present
          simp only [listingStep, found] at step
          split at step
          · split at step
            · cases step
              obtain ⟨entries', same⟩ := described handler _ names entries
                (known _ (OrderedMap.find_eq_some.mp found))
              rw [same]
              refine .inr ⟨left, smaller ?_⟩
              rw [List.length_cons]
              omega
            · cases step
              refine .inr ⟨left, smaller ?_⟩
              rw [List.length_cons]
              omega
          · cases step
            refine .inr ⟨left, smaller ?_⟩
            rw [List.length_cons]
            omega
  | collecting handler names entries =>
      cases step
      obtain ⟨entries', same⟩ := described handler registry.returnTypeNames names entries
        fun name member => by
          obtain ⟨item, inMap, isType⟩ := mem_returnTypeNames.mp member
          exact known item inMap name isType
      rw [same]
      exact .inr ⟨waiting, smaller (by omega)⟩
  | finished entries => cases step
  | failed error => cases step

/-- A listing that waits can go on. -/
theorem Waiting.canStep {registry : Registry} {request : ListingRequest} {stage : ListingStage}
    (waiting : Waiting registry stage) :
    (listingStep features registry request stage).isSome := by
  cases stage with
  | starting => rfl
  | scanning names entries =>
      cases names with
      | nil => rfl
      | cons name names =>
          rw [listingStep]
          split
          · rfl
          · split
            · split
              · rfl
              · rfl
            · rfl
  | collecting handler names entries => rfl
  | finished entries => exact waiting.elim
  | failed error => exact waiting.elim

/-- Without a removal the names stay in the map. -/
theorem Undisturbed.names {pool after : Pool Registry Thread} {event : PoolEvent Thread Choice}
    (undisturbed : Undisturbed features pool event)
    (stepped : pool.step (act features) event = some after) {name : ByteString}
    (present : (pool.shared.handlerMap.find name).isSome) :
    (after.shared.handlerMap.find name).isSome := by
  obtain ⟨starts, keeps, -⟩ := undisturbed
  rcases event_cases starts stepped with
    ⟨_, -, rfl⟩ | ⟨tid, choice, thread, registry', thread', rfl, found, moves, rfl⟩
  · exact present
  · cases moves with
    | listing step | capabilities step => exact present
    | remove erased =>
        rw [removesHandler, found] at keeps
        cases keeps
    | construct step =>
        cases step with
        | featuresDone | feature | dataSetsDone | dataSet | failed => exact present
        | added stage =>
            simp only [Registry.addHandler, OrderedMap.find_set]
            split
            · rfl
            · exact present

/-- A listing waits on when no handler is removed. -/
theorem Waiting.keep {registry registry' : Registry} {stage : ListingStage}
    (waiting : Waiting registry stage)
    (names : ∀ name, (registry.handlerMap.find name).isSome →
      (registry'.handlerMap.find name).isSome) :
    Waiting registry' stage := by
  cases stage with
  | starting => trivial
  | scanning left entries => exact fun name member => names _ (waiting name member)
  | collecting handler left entries => exact fun name member => names _ (waiting name member)
  | finished entries => exact waiting
  | failed error => exact waiting

/-- In a fair run without removals every listing of all stored queries comes to its end, however
many are added meanwhile. -/
theorem listing_ends {run : Pool.InfiniteRun (act features) (Undisturbed features)}
    (fair : run.Fair) {time tid : Nat} {request : ListingRequest}
    (state : ServerState features (run.state time))
    (begins : (run.state time).threads[tid]? = some (.listing request .starting))
    (ofAll : request.ofAll = true) :
    ∃ later entries, time ≤ later ∧
      (run.state later).threads[tid]? = some (.listing request (.finished entries)) := by
  let here : Pool Registry Thread → Prop := fun pool => Consistent features pool ∧
    ∃ stage, pool.threads[tid]? = some (.listing request stage) ∧ Waiting pool.shared stage
  let done : Pool Registry Thread → Prop := fun pool =>
    ∃ entries, pool.threads[tid]? = some (.listing request (.finished entries))
  have known : ∀ {pool event}, Consistent features pool → Undisturbed features pool event →
      ∀ item ∈ pool.shared.handlerMap.entries, ∀ name ∈ item.2.config.returnTypeNames,
        (features.find name).isSome := by
    intro pool event consistent undisturbed item member name isType
    cases hidden : item.2.config.hidden with
    | true => exact undisturbed.2.2 item member hidden name isType
    | false =>
        have found := OrderedMap.find_eq_some.mpr member
        exact (consistent.used name (consistent.handler_used found hidden isType)).1
  -- the listing stays where it is, goes on with less left, or ends
  have turn : ∀ {pool event after stage}, Consistent features pool →
      pool.threads[tid]? = some (.listing request stage) → Waiting pool.shared stage →
      Undisturbed features pool event → pool.step (act features) event = some after →
      Waiting after.shared stage ∧ after.threads[tid]? = some (.listing request stage) ∨
      (∃ next, after.threads[tid]? = some (.listing request next) ∧ Waiting after.shared next ∧
        LessLeft (listingRank (.listing request next)) (listingRank (.listing request stage))) ∨
      done after := by
    intro pool event after stage consistent found waiting undisturbed stepped
    have names := fun name => @Undisturbed.names features _ _ _ undisturbed stepped name
    rcases place_cases found undisturbed.1 stepped with stays | ⟨thread', moves, found'⟩
    · exact .inl ⟨waiting.keep names, stays⟩
    · obtain ⟨next, step, rfl⟩ := moves.of_listing
      have keyed := fun name handler inMap => (consistent.handlers name handler inMap).1
      rcases waiting.step ofAll keyed (known consistent undisturbed) step with
        ⟨entries, rfl⟩ | ⟨waiting', smaller⟩
      · exact .inr (.inr ⟨entries, found'⟩)
      · exact .inr (.inl ⟨next, found', waiting'.keep names, smaller⟩)
  have ended :=
    @Pool.InfiniteRun.eventually_done _ _ _ (act features) (Undisturbed features) run tid
    done here ?_ (Nat × Nat) LessLeft lessLeft_wellFounded listingRank ?_ ?_ fair time
    ⟨consistent_of_reached state, .starting, begins, trivial⟩
  · obtain ⟨later, after, entries, now⟩ := ended
    exact ⟨later, entries, after, now⟩
  · intro pool event after ⟨consistent, stage, found, waiting⟩ undisturbed stepped
    have consistent' := consistent.event undisturbed.1 stepped
    rcases turn consistent found waiting undisturbed stepped with
      ⟨waiting', found'⟩ | ⟨next, found', waiting', -⟩ | finished
    · exact .inl ⟨consistent', stage, found', waiting'⟩
    · exact .inl ⟨consistent', next, found', waiting'⟩
    · exact .inr finished
  · intro pool ⟨_, stage, found, waiting⟩
    apply (Pool.canRun_iff found).mpr
    refine ⟨.proceeds, ?_⟩
    obtain ⟨next, step⟩ := Option.isSome_iff_exists.mp
      (@Waiting.canStep features _ request _ waiting)
    rw [act, step]
    rfl
  · intro pool choice after thread thread' ⟨consistent, stage, found, waiting⟩ undisturbed stepped
      found₀ found'
    cases found.symm.trans found₀
    obtain ⟨_, effect, found₁, acted, rfl⟩ := Pool.step_run stepped
    cases found.symm.trans found₁
    obtain ⟨-, moves⟩ := moves_of_act acted
    obtain ⟨within, -⟩ := List.getElem?_eq_some_iff.mp found
    cases (Pool.threadsAfter_self within).symm.trans found'
    obtain ⟨next, step, isNext⟩ := moves.of_listing
    have keyed := fun name handler inMap => (consistent.handlers name handler inMap).1
    rcases waiting.step ofAll keyed (known consistent undisturbed) step with
      ⟨entries, rfl⟩ | ⟨waiting', smaller⟩
    · exact .inl ⟨entries, by rw [← isNext]; exact Pool.threadsAfter_self within⟩
    · exact .inr (isNext ▸ smaller)

/-! ### A listing -/

/-- A listing is asked for on the server with two stored queries. -/
def askedServer : Pool Registry Thread :=
  { sampleServer with threads := sampleServer.threads ++ [.listing .listStoredQueries .starting] }

/-- It is a state of the server. -/
theorem askedServer_reached : ServerState sampleFeatures askedServer :=
  sampleServer_reached.replay (show Pool.replay (act sampleFeatures) Starts sampleServer
    [.call (.listing .listStoredQueries .starting)] = some askedServer by decide +kernel)

/-- The type as it is listed. -/
def gridType : ListedType := ⟨ascii "Grid", ascii "http://omso", none⟩

/-- A query is removed after it has been listed. -/
def removalEvents : List (PoolEvent Thread Choice) :=
  [.run 2 .proceeds, .run 2 .proceeds, .call (.remove forecastQuery.key false), .run 3 .proceeds,
    .run 2 .proceeds, .run 2 .proceeds, .run 2 .proceeds]

/-- The registry without the forecasts. -/
def removedRegistry : Registry := sampleRegistry.eraseHandler forecastQuery.key

/-- The second query takes its return types from the queries that are left. -/
def overtakenQueries : List QueryEntry :=
  [⟨forecastQuery.queryId, .listed [gridType]⟩, ⟨dataSetQuery.queryId, .listed []⟩]

/-- The handler was removed while the listing was under way. -/
def overtakenServer : Pool Registry Thread :=
  ⟨removedRegistry, sampleServer.threads ++
    [.listing .listStoredQueries (.finished overtakenQueries), .remove forecastQuery.key true]⟩

/-- Before or after the removal. -/
def IsMoment (registry : Registry) : Prop := registry = sampleRegistry ∨ registry = removedRegistry

instance : DecidablePred IsMoment := fun _ => inferInstanceAs (Decidable (_ ∨ _))

instance (pool : Pool Registry Thread) (event : PoolEvent Thread Choice) :
    Decidable (Starts pool event ∧ IsMoment pool.shared) :=
  inferInstanceAs (Decidable (_ ∧ _))

/-- It is reached from the server that was asked. -/
theorem overtakenServer_reached : Pool.Reached (act sampleFeatures)
    (fun pool event => Starts pool event ∧ IsMoment pool.shared) askedServer overtakenServer :=
  Pool.Reached.start.replay (show Pool.replay (act sampleFeatures)
    (fun pool event => Starts pool event ∧ IsMoment pool.shared) askedServer removalEvents =
      some overtakenServer by decide +kernel)

/-- The listing shows what the handler was at some moment. -/
theorem overtakenServer_shows :
    (overtakenQueries.map QueryEntry.key).Pairwise (· < ·) ∧
      Shows sampleFeatures .listStoredQueries IsMoment forecastQuery.key
        (entriesOf forecastQuery.key overtakenQueries) :=
  @listing_at_moments sampleFeatures .listStoredQueries IsMoment _ _ _ 2 _
    askedServer_reached (by decide +kernel) rfl overtakenServer_reached (by decide +kernel)

/-- The two queries as they are listed. -/
def listedQueries : List QueryEntry :=
  [⟨forecastQuery.queryId, .listed [gridType]⟩, ⟨dataSetQuery.queryId, .listed [gridType]⟩]

/-- The server after the listing. -/
def listedServer : Pool Registry Thread :=
  { sampleServer with threads := sampleServer.threads ++
      [.listing .listStoredQueries (.finished listedQueries)] }

/-- The listing goes on five times. -/
def listingEvents : List (PoolEvent Thread Choice) := List.replicate 5 (.run 2 .proceeds)

/-- The queries are constructed, and then they are listed. -/
def wholeEvents : List (PoolEvent Thread Choice) :=
  constructionEvents ++ .call (.listing .listStoredQueries .starting) :: listingEvents

/-- The events lead to the end of the listing. -/
theorem wholeEvents_lead : Pool.replay (act sampleFeatures) (Undisturbed sampleFeatures)
    ⟨.initial, []⟩ wholeEvents = some listedServer := by
  decide +kernel

/-- Nothing is left to do. -/
theorem listedServer_idle (tid : Nat) : ¬Pool.CanRun (act sampleFeatures) listedServer tid := by
  intro ⟨choice, possible⟩
  rcases tid with _ | _ | _ | tid <;> cases choice <;> cases possible

/-- The listing has ended in the run of these events. -/
theorem listing_ends_sample :
    ∃ later entries, 11 ≤ later ∧
      ((Pool.InfiniteRun.ofEvents _ _ _ wholeEvents_lead).state later).threads[2]? =
        some (.listing .listStoredQueries (.finished entries)) :=
  @listing_ends sampleFeatures _ (Pool.InfiniteRun.ofEvents_fair wholeEvents_lead listedServer_idle)
    11 2 .listStoredQueries (Pool.Reached.start.replay (show Pool.replay (act sampleFeatures) Starts
      ⟨.initial, []⟩ (wholeEvents.take 11) =
        some ((Pool.InfiniteRun.ofEvents _ _ _ wholeEvents_lead).state 11) by decide +kernel))
    (by decide +kernel) rfl

end SmartMetWfs.Capabilities
