import SmartMetWfs.Core.ByteString
import SmartMetWfs.Foundation.Interleaving
import SmartMetWfs.Foundation.OrderedMap
import SmartMetWfs.Foundation.Outcomes

/-!
# The facility query and its sub-queries

`StoredEnvMonitoringFacilityQueryHandler::query` starts a sub-query for the station groups,
one for the network memberships and, if asked for, one for the observing capabilities. Each
fills a map of its own while the main thread waits until all have ended, and then joins the
maps to an answer. An exception of a sub-query is left in its future.
-/

namespace SmartMetWfs.Handlers

open Foundation

/-- The sub-queries that run beside the main thread. -/
inductive SubQuery
  | capabilities
  | groups
  | memberships
  deriving DecidableEq

instance : Fintype SubQuery where
  elems := {.capabilities, .groups, .memberships}
  complete sub := by cases sub <;> simp

/-- What a station measures. -/
structure CapabilityData where
  measurandId : ByteString
  measurandCode : ByteString
  measurandName : ByteString
  measurandLayer : ByteString
  aggregatePeriod : ByteString
  aggregateFunction : ByteString
  earliestData : ByteString
  latestData : ByteString

/-- A group that a station is in. -/
structure StationGroup where
  groupId : ByteString
  groupName : ByteString

/-- A network that a station belongs to. -/
structure NetworkMembership where
  networkId : ByteString
  memberCode : ByteString

/-- What a sub-query keeps of a row. -/
def SubQuery.Data : SubQuery → Type
  | .capabilities => CapabilityData
  | .groups => StationGroup
  | .memberships => NetworkMembership

/-- What is known of a station. -/
structure StationData where
  stationName : ByteString
  stationStart : ByteString
  stationEnd : ByteString
  longitude : ByteString
  latitude : ByteString
  elevation : ByteString
  countryId : ByteString
  stationary : ByteString

/-- A row of a query result: its station as text and what comes of the conversion of the rest. -/
structure ResultRow (Failure Data : Type) where
  stationId : ByteString
  data : Except Failure Data

/-- `StationCapabilityMap`, `StationGroupMap`, `NetworkMembershipMap`. -/
abbrev DataMap (Data : Type) := OrderedMap ByteString (List Data)

/-- What the query is made of: the valid stations, the answers of the observation engine to
the sub-queries and the description of a station with what the geo engine knows of it. -/
structure FacilityQuery (Description Failure : Type) where
  validStations : OrderedMap ByteString StationData
  showObservingCapability : Bool
  makeQuery : ∀ sub : SubQuery, Except Failure (List (ResultRow Failure sub.Data))
  describe : ByteString → StationData → Except Failure Description

/-- A station of the answer. -/
structure Station (Description : Type) where
  fmisid : ByteString
  description : Description
  capabilities : List CapabilityData
  memberships : List NetworkMembership
  groups : List StationGroup

/-- How far a sub-query has come. -/
inductive Progress (Failure Data : Type)
  | unlaunched
  | querying
  | mapping (rows : List (ResultRow Failure Data))
  /-- The future is ready and holds an exception or none. -/
  | finished (failure : Option Failure)

/-- A sub-query and the map it fills. -/
structure SubTask (Failure Data : Type) where
  progress : Progress Failure Data
  map : DataMap Data

/-- What the main thread is at. -/
inductive Main (Description Failure : Type)
  | launching (todo : List SubQuery)
  | waiting (todo : List SubQuery)
  | finished (result : Except Failure (List (Station Description)))

/-- The main thread and the three queries. -/
structure FacilityState (Description Failure : Type) where
  main : Main Description Failure
  tasks : ∀ sub : SubQuery, SubTask Failure sub.Data

section

variable {Failure Data : Type}

/-- `mapIt->second.push_back(...)` -/
def pushBack (stationId : ByteString) (data : Data) (map : DataMap Data) : DataMap Data :=
  map.set stationId ((map.find stationId).getD [] ++ [data])

/-- The body of the loop over a result. -/
def mapRow (map : DataMap Data) (row : ResultRow Failure Data) : Except Failure (DataMap Data) :=
  if row.stationId = [] then .ok map
  else do
    let data ← row.data
    .ok (pushBack row.stationId data map)

/-- The loop over a result: the map it leaves and the failure that has ended it. -/
def mapRows : List (ResultRow Failure Data) → DataMap Data → DataMap Data × Option Failure
  | [], map => (map, none)
  | row :: rows, map =>
      match mapRow map row with
      | .ok next => mapRows rows next
      | .error failure => (map, some failure)

end

namespace FacilityQuery

variable {Description Failure : Type} (query : FacilityQuery Description Failure)

/-- The sub-queries that are started, in this order. -/
def launched : List SubQuery :=
  (if query.showObservingCapability then [.capabilities] else []) ++ [.groups, .memberships]

/-- The next step of a sub-query. -/
def advance (sub : SubQuery) (task : SubTask Failure sub.Data) :
    Option (SubTask Failure sub.Data) :=
  match task.progress with
  | .unlaunched => none
  | .querying =>
      if query.validStations.entries.isEmpty then some ⟨.finished none, task.map⟩
      else match query.makeQuery sub with
        | .ok rows => some ⟨.mapping rows, task.map⟩
        | .error failure => some ⟨.finished (some failure), task.map⟩
  | .mapping [] => some ⟨.finished none, task.map⟩
  | .mapping (row :: rows) =>
      match mapRow task.map row with
      | .ok next => some ⟨.mapping rows, next⟩
      | .error failure => some ⟨.finished (some failure), task.map⟩
  | .finished _ => none

/-- The body of the loop over the valid stations. A station must be part of a station group. -/
def joinStation (maps : ∀ sub : SubQuery, DataMap sub.Data)
    (validStation : ByteString × StationData) :
    Except Failure (Option (Station Description)) :=
  match (maps .groups).find validStation.1 with
  | none => .ok none
  | some groups => do
      let description ← query.describe validStation.1 validStation.2
      .ok (some ⟨validStation.1, description, ((maps .capabilities).find validStation.1).getD [],
        ((maps .memberships).find validStation.1).getD [], groups⟩)

/-- The stations of the answer. -/
def join (maps : ∀ sub : SubQuery, DataMap sub.Data) :
    Except Failure (List (Station Description)) := do
  let stations ← query.validStations.entries.mapM (query.joinStation maps)
  .ok stations.reduceOption

/-- A step of the main thread or of a sub-query. -/
inductive Step : FacilityState Description Failure → FacilityState Description Failure → Prop
  | launch {sub : SubQuery} {todo : List SubQuery}
    {tasks : ∀ sub : SubQuery, SubTask Failure sub.Data}
      (fresh : (tasks sub).progress = .unlaunched) :
      Step ⟨.launching (sub :: todo), tasks⟩
        ⟨.launching todo, Function.update tasks sub ⟨.querying, (tasks sub).map⟩⟩
  | launched {tasks : ∀ sub : SubQuery, SubTask Failure sub.Data} :
      Step ⟨.launching [], tasks⟩ ⟨.waiting query.launched, tasks⟩
  /-- `wait` returns once the future is ready. It does not ask for the exception. -/
  | wait {sub : SubQuery} {todo : List SubQuery}
    {tasks : ∀ sub : SubQuery, SubTask Failure sub.Data}
      {failure : Option Failure} (ready : (tasks sub).progress = .finished failure) :
      Step ⟨.waiting (sub :: todo), tasks⟩ ⟨.waiting todo, tasks⟩
  | respond {tasks : ∀ sub : SubQuery, SubTask Failure sub.Data} :
      Step ⟨.waiting [], tasks⟩ ⟨.finished (query.join fun sub => (tasks sub).map), tasks⟩
  | advance {main : Main Description Failure}
    {tasks next : ∀ sub : SubQuery, SubTask Failure sub.Data}
      (moves : Moves query.advance tasks next) : Step ⟨main, tasks⟩ ⟨main, next⟩

/-- No sub-query has been started. -/
def initial : FacilityState Description Failure :=
  ⟨.launching query.launched, fun _ => ⟨.unlaunched, .empty⟩⟩

/-- The states that some order of steps leads to. -/
def Reaches (state : FacilityState Description Failure) : Prop :=
  Relation.ReflTransGen query.Step query.initial state

end FacilityQuery

/-! ### What is asked for -/

/-- The row does not end the loop. -/
def ResultRow.readable {Failure Data : Type} (row : ResultRow Failure Data) : Bool :=
  row.stationId = [] || row.data.toBool

namespace FacilityQuery

variable {Description Failure : Type} (query : FacilityQuery Description Failure)

/-- The sub-query throws: in the query or in the conversion of a row. -/
def Fails (sub : SubQuery) : Prop :=
  query.validStations.entries ≠ [] ∧
    ∀ rows, query.makeQuery sub = .ok rows → ∃ row ∈ rows, row.readable = false

/-- The station has been entered into the map of groups when this sub-query ends. -/
def Grouped (stationId : ByteString) : Prop :=
  ∃ rows, query.makeQuery .groups = .ok rows ∧
    ∃ row ∈ rows.takeWhile ResultRow.readable, row.stationId ≠ [] ∧ row.stationId = stationId

/-- If a sub-query fails the query fails, and an answer is joined from complete results. -/
structure NoPartialAnswer : Prop where
  fails : ∀ sub ∈ query.launched, query.Fails sub → ∀ state, query.Reaches state →
    Final query.Step state → ∃ failure, state.main = .finished (.error failure)
  complete : ∀ state stations, query.Reaches state → state.main = .finished (.ok stations) →
    (∀ sub ∈ query.launched, (state.tasks sub).progress = .finished none) ∧
      query.join (fun sub => (state.tasks sub).map) = .ok stations

end FacilityQuery

/-! ### The sub-queries -/

section

variable {Failure Data : Type}

/-- A station that is pushed is there beside the others. -/
theorem find_pushBack (stationId other : ByteString) (data : Data) (map : DataMap Data) :
    ((pushBack stationId data map).find other).isSome = true ↔
      other = stationId ∨ (map.find other).isSome = true := by
  unfold pushBack
  rw [OrderedMap.find_set]
  by_cases same : other = stationId <;> simp [same]

/-- A row is readable if the loop does not end with it. -/
theorem mapRow_eq (map : DataMap Data) (row : ResultRow Failure Data) :
    (row.readable = true ∧ ∃ next, mapRow map row = .ok next ∧ ∀ stationId,
      (next.find stationId).isSome = true ↔
        (row.stationId ≠ [] ∧ row.stationId = stationId) ∨ (map.find stationId).isSome = true) ∨
    (row.readable = false ∧ ∃ failure, mapRow map row = .error failure) := by
  unfold mapRow ResultRow.readable
  by_cases empty : row.stationId = []
  · refine .inl ⟨by simp [empty], map, if_pos empty, fun stationId => ?_⟩
    simp [empty]
  · rw [if_neg empty]
    cases converted : row.data with
    | error failure => exact .inr ⟨by simp [empty, Except.toBool], failure, rfl⟩
    | ok data =>
        refine .inl ⟨by simp [Except.toBool], _, rfl, fun stationId => ?_⟩
        rw [find_pushBack, eq_comm]
        exact or_congr_left (and_iff_right empty).symm

/-- The rows are mapped to the first one that cannot be read. -/
theorem mapRows_failure {rows : List (ResultRow Failure Data)} {map : DataMap Data} :
    (mapRows rows map).2.isSome = true ↔ ∃ row ∈ rows, row.readable = false := by
  induction rows generalizing map with
  | nil => simp [mapRows]
  | cons row rows ih =>
      obtain ⟨readable, next, mapped, _⟩ | ⟨unreadable, failure, mapped⟩ := mapRow_eq map row
      · simp [mapRows, mapped, ih, readable]
      · simp [mapRows, mapped, unreadable]

/-- The stations of the rows before the first one that ends the loop. -/
theorem mapRows_find {rows : List (ResultRow Failure Data)} {map : DataMap Data}
    {stationId : ByteString} :
    (((mapRows rows map).1).find stationId).isSome = true ↔
      (∃ row ∈ rows.takeWhile ResultRow.readable, row.stationId ≠ [] ∧ row.stationId = stationId) ∨
        (map.find stationId).isSome = true := by
  induction rows generalizing map with
  | nil => simp [mapRows]
  | cons row rows ih =>
      obtain ⟨readable, next, mapped, entered⟩ | ⟨unreadable, failure, mapped⟩ := mapRow_eq map row
      · rw [mapRows, mapped, List.takeWhile_cons_of_pos readable]
        simp only [ih, entered, List.mem_cons, exists_eq_or_imp]
        exact or_left_comm.trans or_assoc.symm
      · rw [mapRows, mapped, List.takeWhile_cons_of_neg (by simp [unreadable])]
        simp

end

namespace FacilityQuery

variable {Description Failure : Type} {query : FacilityQuery Description Failure}

/-- The map and the failure that a sub-query will end with. -/
def ends (query : FacilityQuery Description Failure) (sub : SubQuery)
    (task : SubTask Failure sub.Data) : DataMap sub.Data × Option Failure :=
  match task.progress with
  | .unlaunched | .querying =>
      if query.validStations.entries.isEmpty then (task.map, none)
      else match query.makeQuery sub with
        | .ok rows => mapRows rows task.map
        | .error failure => (task.map, some failure)
  | .mapping rows => mapRows rows task.map
  | .finished failure => (task.map, failure)

/-- What a sub-query ends with that is left alone. -/
def outcome (query : FacilityQuery Description Failure) (sub : SubQuery) :
    DataMap sub.Data × Option Failure := query.ends sub ⟨.querying, .empty⟩

/-- A bound on the steps that are left to a sub-query. -/
def weight (query : FacilityQuery Description Failure) (sub : SubQuery)
    (task : SubTask Failure sub.Data) : Nat :=
  match task.progress with
  | .unlaunched | .querying =>
      match query.makeQuery sub with
        | .ok rows => rows.length + 2
        | .error _ => 1
  | .mapping rows => rows.length + 1
  | .finished _ => 0

/-- What a step of a sub-query can do. -/
structure Advances (query : FacilityQuery Description Failure) (sub : SubQuery)
    (task after : SubTask Failure sub.Data) : Prop where
  active : task.progress ≠ .unlaunched ∧ ∀ failure, task.progress ≠ .finished failure
  started : after.progress ≠ .unlaunched
  ends : query.ends sub after = query.ends sub task
  weight : query.weight sub after < query.weight sub task

/-- A step of a query is one of those that it can make. -/
theorem advances {sub : SubQuery} {task after : SubTask Failure sub.Data}
    (step : query.advance sub task = some after) : query.Advances sub task after := by
  obtain ⟨progress, map⟩ := task
  cases progress with
  | unlaunched => cases step
  | finished failure => cases step
  | querying =>
      simp only [FacilityQuery.advance] at step
      split at step
      · next none =>
          cases step
          refine ⟨⟨nofun, nofun⟩, nofun, by simp only [FacilityQuery.ends, none, if_true], ?_⟩
          simp only [FacilityQuery.weight]
          split <;> omega
      · next some =>
          split at step
          · next rows answered =>
              cases step
              refine ⟨⟨nofun, nofun⟩, nofun, ?_, ?_⟩
              · simp only [FacilityQuery.ends, if_neg some, answered]
              · simp only [FacilityQuery.weight, answered, Nat.lt_succ_self]
          · next failure failed =>
              cases step
              refine ⟨⟨nofun, nofun⟩, nofun, ?_, ?_⟩
              · simp only [FacilityQuery.ends, if_neg some, failed]
              · simp only [FacilityQuery.weight, failed, Nat.zero_lt_one]
  | mapping rows =>
      cases rows with
      | nil =>
          cases step
          exact ⟨⟨nofun, nofun⟩, nofun, rfl, Nat.zero_lt_one⟩
      | cons row rows =>
          simp only [FacilityQuery.advance] at step
          split at step
          · next next mapped =>
              cases step
              refine ⟨⟨nofun, nofun⟩, nofun, ?_, Nat.lt_succ_self _⟩
              simp only [FacilityQuery.ends, mapRows, mapped]
          · next failure failed =>
              cases step
              refine ⟨⟨nofun, nofun⟩, nofun, ?_, Nat.succ_pos _⟩
              simp only [FacilityQuery.ends, mapRows, failed]

/-- A sub-query that has been started goes on until it has ended. -/
theorem advance_or_finished (sub : SubQuery) {task : SubTask Failure sub.Data}
    (started : task.progress ≠ .unlaunched) :
    (∃ after, query.advance sub task = some after) ∨ ∃ failure,
      task.progress = .finished failure := by
  obtain ⟨progress, map⟩ := task
  cases progress with
  | unlaunched => exact absurd rfl started
  | finished failure => exact .inr ⟨failure, rfl⟩
  | querying =>
      refine .inl ?_
      simp only [FacilityQuery.advance]
      split
      · exact ⟨_, rfl⟩
      · split <;> exact ⟨_, rfl⟩
  | mapping rows =>
      refine .inl ?_
      cases rows with
      | nil => exact ⟨_, rfl⟩
      | cons row rows =>
          simp only [FacilityQuery.advance]
          split <;> exact ⟨_, rfl⟩

/-- A sub-query ends with a failure just if it throws. -/
theorem outcome_failure (sub : SubQuery) :
    (query.outcome sub).2.isSome = true ↔ query.Fails sub := by
  simp only [outcome, FacilityQuery.ends, Fails, ← List.isEmpty_iff, ne_eq]
  split
  · next none => simp [none]
  · next some =>
      rw [and_iff_right some]
      cases answered : query.makeQuery sub with
      | error failure => simp
      | ok rows => simp [mapRows_failure]

/-- The stations in the map of groups that this sub-query ends with. -/
theorem outcome_groups {stationId : ByteString} (some : query.validStations.entries ≠ []) :
    ((query.outcome .groups).1.find stationId).isSome = true ↔ query.Grouped stationId := by
  simp only [outcome, FacilityQuery.ends, Grouped, List.isEmpty_iff, if_neg some]
  cases answered : query.makeQuery .groups with
  | error failure => simp [OrderedMap.find, OrderedMap.empty]
  | ok rows =>
      refine mapRows_find.trans ((or_iff_left Bool.false_ne_true).trans ⟨fun entered => ?_, ?_⟩)
      · exact ⟨rows, rfl, entered⟩
      · rintro ⟨_, ⟨rfl⟩, entered⟩
        exact entered

/-! ### The run -/

/-- The main thread has passed the sub-queries before the ones it has left. -/
def MainAt (query : FacilityQuery Description Failure) (main : Main Description Failure)
    (tasks : ∀ sub : SubQuery, SubTask Failure sub.Data) : Prop :=
  match main with
  | .launching todo => ∃ done, query.launched = done ++ todo ∧
      ∀ sub, (tasks sub).progress = .unlaunched ↔ sub ∉ done
  | .waiting todo => (∀ sub, (tasks sub).progress = .unlaunched ↔ sub ∉ query.launched) ∧
      ∃ done, query.launched = done ++ todo ∧
        ∀ sub ∈ done, ∃ failure, (tasks sub).progress = .finished failure
  | .finished result => (∀ sub, (tasks sub).progress = .unlaunched ↔ sub ∉ query.launched) ∧
      (∀ sub ∈ query.launched, ∃ failure, (tasks sub).progress = .finished failure) ∧
      result = query.join fun sub => (tasks sub).map

/-- What holds whatever order the steps are made in. -/
structure Running (query : FacilityQuery Description Failure)
    (state : FacilityState Description Failure) : Prop where
  ends : ∀ sub, query.ends sub (state.tasks sub) = query.outcome sub
  main : query.MainAt state.main state.tasks

/-- At the start everything is running. -/
theorem running_initial : query.Running query.initial where
  ends _ := rfl
  main := ⟨[], rfl, fun _ => iff_of_true rfl List.not_mem_nil⟩

/-- No sub-query is started by the steps of the sub-queries. -/
theorem unlaunched_of_moves {tasks next : ∀ sub : SubQuery, SubTask Failure sub.Data}
    (moves : Moves query.advance tasks next) (sub : SubQuery) :
    (next sub).progress = .unlaunched ↔ (tasks sub).progress = .unlaunched := by
  obtain ⟨moved, after, step, rfl⟩ := moves
  by_cases same : sub = moved
  · subst same
    rw [Function.update_self]
    exact iff_of_false (advances step).started (advances step).active.1
  · rw [Function.update_of_ne same]

/-- A sub-query that has ended stays as it is. -/
theorem eq_of_finished {tasks next : ∀ sub : SubQuery, SubTask Failure sub.Data}
    (moves : Moves query.advance tasks next) {sub : SubQuery} {failure : Option Failure}
    (finished : (tasks sub).progress = .finished failure) : next sub = tasks sub := by
  apply moves.idle
  simp only [FacilityQuery.advance, finished]

/-- The main thread stays where it is when a query moves. -/
theorem MainAt.moves {main : Main Description Failure}
    {tasks next : ∀ sub : SubQuery, SubTask Failure sub.Data} (at_ : query.MainAt main tasks)
    (moves : Moves query.advance tasks next) : query.MainAt main next := by
  have ended : ∀ done : List SubQuery,
      (∀ sub ∈ done, ∃ failure, (tasks sub).progress = .finished failure) →
      ∀ sub ∈ done, ∃ failure, (next sub).progress = .finished failure := by
    intro done finished sub member
    obtain ⟨failure, hasEnded⟩ := finished sub member
    exact ⟨failure, (congrArg SubTask.progress (eq_of_finished moves hasEnded)).trans hasEnded⟩
  cases main with
  | launching todo =>
      obtain ⟨done, split, started⟩ := at_
      exact ⟨done, split, fun sub => (unlaunched_of_moves moves sub).trans (started sub)⟩
  | waiting todo =>
      obtain ⟨started, done, split, finished⟩ := at_
      exact ⟨fun sub => (unlaunched_of_moves moves sub).trans (started sub), done, split,
        ended done finished⟩
  | finished result =>
      obtain ⟨started, finished, rfl⟩ := at_
      refine ⟨fun sub => (unlaunched_of_moves moves sub).trans (started sub),
        ended _ finished, congrArg query.join (funext fun sub => ?_)⟩
      -- The sub-queries that have not been started do not move either.
      have idle : query.advance sub (tasks sub) = none := by
        by_cases member : sub ∈ query.launched
        · obtain ⟨failure, hasEnded⟩ := finished sub member
          simp only [FacilityQuery.advance, hasEnded]
        · simp only [FacilityQuery.advance, (started sub).mpr member]
      exact (congrArg SubTask.map (moves.idle idle)).symm

/-- No query is launched twice. -/
theorem launched_nodup (query : FacilityQuery Description Failure) : query.launched.Nodup := by
  unfold launched
  split <;> decide

/-- A step of the main thread or of a sub-query. -/
theorem Running.step {state next : FacilityState Description Failure}
    (running : query.Running state)
    (step : query.Step state next) : query.Running next := by
  obtain ⟨ends, main⟩ := running
  cases step with
  | @launch sub todo tasks fresh =>
      obtain ⟨done, split, started⟩ := main
      refine ⟨fun other => ?_,
        done ++ [sub], by rw [split, List.append_assoc]; rfl, fun other => ?_⟩
      · by_cases same : other = sub
        · subst same
          have unchanged : query.ends other ⟨.querying, (tasks other).map⟩ =
              query.ends other (tasks other) := by
            simp only [FacilityQuery.ends, fresh]
          simp only [Function.update_self]
          exact unchanged.trans (ends other)
        · simp only [Function.update_of_ne same]
          exact ends other
      · by_cases same : other = sub
        · subst same
          simp
        · simp only [Function.update_of_ne same, List.mem_append, List.mem_singleton, same,
            or_false]
          exact started other
  | launched =>
      obtain ⟨done, split, started⟩ := main
      rw [List.append_nil] at split
      exact ⟨ends, split ▸ started, [], rfl, nofun⟩
  | @wait sub todo tasks failure ready =>
      obtain ⟨started, done, split, finished⟩ := main
      refine ⟨ends, started,
        done ++ [sub], by rw [split, List.append_assoc]; rfl, fun other member => ?_⟩
      rcases List.mem_append.mp member with before | last
      · exact finished other before
      · cases List.mem_singleton.mp last
        exact ⟨failure, ready⟩
  | respond =>
      obtain ⟨started, done, split, finished⟩ := main
      rw [List.append_nil] at split
      exact ⟨ends, started, split ▸ finished, rfl⟩
  | advance moves =>
      refine ⟨moves.keeps (fun sub task => query.ends sub task = query.outcome sub) ?_ ends,
        main.moves moves⟩
      intro sub task after step kept
      exact (advances step).ends.trans kept

/-- What is reached is running as it should. -/
theorem running {state : FacilityState Description Failure} (reaches : query.Reaches state) :
    query.Running state := by
  induction reaches with
  | refl => exact running_initial
  | tail _ step ih => exact ih.step step

/-- The main thread never waits in vain. -/
theorem finished_of_final {state : FacilityState Description Failure}
    (running : query.Running state)
    (final : Final query.Step state) : ∃ result, state.main = .finished result := by
  obtain ⟨main, tasks⟩ := state
  cases main with
  | finished result => exact ⟨result, rfl⟩
  | launching todo =>
      obtain ⟨done, split, started⟩ := running.main
      cases todo with
      | nil => exact absurd .launched (final _)
      | cons sub todo =>
          have nodup := launched_nodup query
          rw [split] at nodup
          have fresh : sub ∉ done := fun member =>
            List.disjoint_of_nodup_append nodup member List.mem_cons_self
          exact absurd (.launch ((started sub).mpr fresh)) (final _)
  | waiting todo =>
      obtain ⟨started, done, split, _⟩ := running.main
      cases todo with
      | nil => exact absurd .respond (final _)
      | cons sub todo =>
          have isStarted : (tasks sub).progress ≠ .unlaunched := by
            rw [ne_eq, started sub, split, not_not]
            exact List.mem_append_right _ List.mem_cons_self
          obtain ⟨after, step⟩ | ⟨failure, ready⟩ := query.advance_or_finished sub isStarted
          · exact absurd (.advance ⟨sub, after, step, rfl⟩) (final _)
          · exact absurd (.wait ready) (final _)

/-- A bound on the steps that are left. -/
def stepsLeft (query : FacilityQuery Description Failure)
    (state : FacilityState Description Failure) : Nat :=
  (match state.main with
  | .launching todo => todo.length + 5
  | .waiting todo => todo.length + 1
  | .finished _ => 0) + ∑ sub, query.weight sub (state.tasks sub)

/-- Every step leaves fewer steps. -/
theorem stepsLeft_lt {state next : FacilityState Description Failure}
    (step : query.Step state next) : query.stepsLeft next < query.stepsLeft state := by
  unfold stepsLeft
  cases step with
  | @launch sub todo tasks fresh =>
      have unchanged : ∀ other, query.weight other (Function.update tasks sub
          ⟨.querying, (tasks sub).map⟩ other) = query.weight other (tasks other) := by
        intro other
        by_cases same : other = sub
        · subst same
          simp only [Function.update_self, FacilityQuery.weight, fresh]
        · rw [Function.update_of_ne same]
      simp only [unchanged, List.length_cons]
      omega
  | launched =>
      have few : query.launched.length ≤ 3 := by
        unfold launched
        split <;> decide
      simp only [List.length_nil]
      omega
  | wait ready => simp only [List.length_cons]; omega
  | respond => simp only [List.length_nil]; omega
  | advance moves =>
      have less := moves.measure_lt query.weight fun sub task after step => (advances step).weight
      exact Nat.add_lt_add_left less _

/-- Some order of steps leads to the end, as all do that are gone on with. -/
theorem exists_final_state (query : FacilityQuery Description Failure) :
    ∃ state, query.Reaches state ∧ Final query.Step state := by
  have decreases : ∀ state next, query.Step state next →
      query.stepsLeft next < query.stepsLeft state := fun _ _ => stepsLeft_lt
  exact exists_final decreases query.initial

/-- Whatever order the steps are made in, the query ends in the same way. -/
theorem main_of_final {state : FacilityState Description Failure} (reaches : query.Reaches state)
    (final : Final query.Step state) :
    state.main = .finished (query.join fun sub => (state.tasks sub).map) := by
  obtain ⟨result, ended⟩ := finished_of_final (running reaches) final
  have main := (running reaches).main
  rw [ended] at main
  rw [ended, main.2.2]

/-! ### The answer -/

/-- Joining fails at a station of the answer that cannot be described. -/
theorem join_fails_iff {maps : ∀ sub : SubQuery, DataMap sub.Data} :
    (∃ failure, query.join maps = .error failure) ↔ ∃ station ∈ query.validStations.entries,
      ((maps .groups).find station.1).isSome = true ∧
        ∃ failure, query.describe station.1 station.2 = .error failure := by
  have station : ∀ station, (∃ failure, query.joinStation maps station = .error failure) ↔
      ((maps .groups).find station.1).isSome = true ∧
        ∃ failure, query.describe station.1 station.2 = .error failure := by
    intro station
    unfold joinStation
    cases (maps .groups).find station.1 with
    | none => simp
    | some groups =>
        cases query.describe station.1 station.2 with
        | error failure => simp [Bind.bind, Except.bind]
        | ok description => simp [Bind.bind, Except.bind]
  simp only [← station, ← mapM_fails_iff]
  unfold join
  cases query.validStations.entries.mapM (query.joinStation maps) with
  | error failure => exact iff_of_true ⟨failure, rfl⟩ ⟨failure, rfl⟩
  | ok stations => exact iff_of_false (fun ⟨_, fails⟩ => nomatch fails) fun ⟨_, fails⟩ =>
    nomatch fails

/-- A station of the answer cannot be described, so that the main thread fails itself. -/
def Undescribed (query : FacilityQuery Description Failure) : Prop :=
  ∃ station ∈ query.validStations.entries, query.Grouped station.1 ∧
    ∃ failure, query.describe station.1 station.2 = .error failure

/-- The sub-queries that have ended have the outcome they would have alone. -/
theorem outcome_of_finished {state : FacilityState Description Failure}
    (reaches : query.Reaches state) {sub : SubQuery} {failure : Option Failure}
    (ended : (state.tasks sub).progress = .finished failure) :
    query.outcome sub = ((state.tasks sub).map, failure) := by
  rw [← (running reaches).ends sub]
  simp only [FacilityQuery.ends, ended]

/-- A failed query fails the answer, whatever the order of the steps. -/
theorem join_fails_of_reaches {state : FacilityState Description Failure}
    {result : Except Failure (List (Station Description))} (reaches : query.Reaches state)
    (ended : state.main = .finished result) :
    (∃ failure, result = .error failure) ↔ query.Undescribed := by
  have main := (running reaches).main
  rw [ended] at main
  obtain ⟨_, finished, rfl⟩ := main
  obtain ⟨failure, hasEnded⟩ := finished .groups (by simp [launched])
  rw [join_fails_iff]
  refine exists_congr fun station => and_congr_right fun member => and_congr_left fun _ => ?_
  rw [← outcome_groups (List.ne_nil_of_mem member), outcome_of_finished reaches hasEnded]

/-- Failing sub-queries make the query fail, and answers come from complete results, just if
none of those that are started fails, or the main thread fails at a station of the answer. -/
theorem noPartialAnswer_iff (query : FacilityQuery Description Failure) :
    query.NoPartialAnswer ↔ (∀ sub ∈ query.launched, ¬query.Fails sub) ∨ query.Undescribed := by
  constructor
  · intro holds
    by_contra neither
    obtain ⟨someFails, described⟩ := not_or.mp neither
    obtain ⟨sub, failing⟩ := not_forall.mp someFails
    obtain ⟨started, fails⟩ := Classical.not_imp.mp failing
    obtain ⟨state, run, final⟩ := query.exists_final_state
    obtain ⟨failure, failed⟩ := holds.fails sub started (not_not.mp fails) state run final
    exact described ((join_fails_of_reaches run failed).mp ⟨failure, rfl⟩)
  · rintro (succeed | undescribed)
    · refine ⟨fun sub started fails => absurd fails (succeed sub started), ?_⟩
      intro state stations reaches answered
      have main := (running reaches).main
      rw [answered] at main
      obtain ⟨_, finished, joined⟩ := main
      refine ⟨fun sub started => ?_, joined.symm⟩
      obtain ⟨failure, hasEnded⟩ := finished sub started
      have outcome := outcome_of_finished reaches hasEnded
      cases failure with
      | none => exact hasEnded
      | some failure =>
          exact absurd (outcome_failure sub |>.mp (by rw [outcome]; rfl)) (succeed sub started)
    · refine ⟨fun sub _ _ state reaches final => ?_, fun state stations reaches answered => ?_⟩
      · obtain ⟨failure, failed⟩ :=
          (join_fails_of_reaches reaches (main_of_final reaches final)).mpr
          undescribed
        exact ⟨failure, (main_of_final reaches final).trans (congrArg Main.finished failed)⟩
      · obtain ⟨failure, failed⟩ := (join_fails_of_reaches reaches answered).mpr undescribed
        cases failed

/-- A query with one valid station, for which the sub-query for the groups fails. -/
def lostGroups : FacilityQuery Unit Unit where
  validStations :=
    ⟨[(ascii "100971", ⟨[], [], [], [], [], [], [], []⟩)], List.pairwise_singleton _ _⟩
  showObservingCapability := false
  makeQuery sub := if sub = .groups then .error () else .ok []
  describe _ _ := .ok ()

/-- The answer has no stations, whatever order the steps are made in. -/
theorem lostGroups_answered :
    (∃ state, lostGroups.Reaches state ∧ Final lostGroups.Step state) ∧
      (∀ state, lostGroups.Reaches state → Final lostGroups.Step state →
        state.main = .finished (.ok [])) ∧ ¬lostGroups.NoPartialAnswer := by
  have answered : ∀ state, lostGroups.Reaches state → Final lostGroups.Step state →
      state.main = .finished (.ok []) := by
    intro state reaches final
    have ended := main_of_final reaches final
    have main := (running reaches).main
    rw [ended] at main
    obtain ⟨failure, hasEnded⟩ := main.2.1 .groups (by simp [launched])
    have lost : (state.tasks .groups).map = .empty :=
      (congrArg Prod.fst (outcome_of_finished reaches hasEnded)).symm
    have noGroups : ((state.tasks .groups).map).find (ascii "100971") = none := by
      rw [lost]
      rfl
    rw [ended]
    simp only [join, lostGroups, List.mapM_cons, List.mapM_nil, joinStation, noGroups]
    rfl
  refine ⟨lostGroups.exists_final_state, answered, fun holds => ?_⟩
  obtain ⟨state, reaches, final⟩ := lostGroups.exists_final_state
  have fails : lostGroups.Fails .groups := by
    refine ⟨List.cons_ne_nil _ _, fun rows answer => ?_⟩
    cases answer
  obtain ⟨failure, failed⟩ := holds.fails .groups (by simp [launched]) fails state reaches final
  rw [answered state reaches final] at failed
  cases failed

end FacilityQuery

end SmartMetWfs.Handlers
