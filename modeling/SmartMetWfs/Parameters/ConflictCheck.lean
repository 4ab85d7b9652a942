import SmartMetWfs.Parameters.Conflicts

/-!
# What the check of the conflicts rejects and what it adds

The check goes through the parameters in the order of their names. Whatever the naming
mode, it looks for the parameter that a conflict names under the lower-case spelling of
the configured name, and it adds the other side of the conflict while it is still on its
way: if the parameter found comes later, the conflict is found there once more, with the
roles exchanged.

`Seen` says which conflicts are met on the way, and `Checked` what has come of those that
have been met so far. From these follow the exact conditions under which a configuration
is rejected (`CheckRefuses`) and under which the conflicts that are kept are the configured
ones in both directions (`Mirrored`).
-/

namespace SmartMetWfs.Parameters

open Foundation StoredQueryConfig

variable {ν : Type}

/-- Descriptions that `parse_param_desc` may return one after another: no two of them have
one name. -/
structure ParamDescs (caseSensitive : Bool) (ν : Type) where
  items : List (ParamDesc ν)
  distinct : items.Pairwise fun item other => ¬ SameName caseSensitive item.name other.name
  limited : ∀ item ∈ items, item.hasBadLimits = false

/-- The description lists the name in its `conflictsWith`. -/
def ParamDesc.Lists (item : ParamDesc ν) (it : ByteString) : Prop :=
  item.conflictsWith.contains it = true

/-- The first parameter is configured to conflict with the second. -/
def Declared (caseSensitive : Bool) (item other : ParamDesc ν) : Prop :=
  ∃ it, item.Lists it ∧ SameName caseSensitive it other.name

/-- Both parameters must be given. -/
def BothMandatory (item other : ParamDesc ν) : Prop := 0 < item.minOccurs ∧ 0 < other.minOccurs

/-- The description kept for the first parameter says that it conflicts with the second. -/
def Keeps (caseSensitive : Bool) (config : StoredQueryConfig ν) (item other : ParamDesc ν) : Prop :=
  ∃ desc, config.paramMap.find item.name = some desc ∧ Declared caseSensitive desc other

namespace ParamDescs

variable {caseSensitive : Bool} (params : ParamDescs caseSensitive ν)

/-- Some parameter conflicts with itself, with one that is not declared, or with a
mandatory one while it is mandatory itself. -/
def Faulty : Prop :=
  ∃ item ∈ params.items, ∃ it, item.Lists it ∧
    (SameName caseSensitive it item.name ∨
      (∀ other ∈ params.items, ¬ SameName caseSensitive it other.name) ∨
      ∃ other ∈ params.items, SameName caseSensitive it other.name ∧ BothMandatory item other)

/-- The faulty configurations are rejected, and the others get the symmetric closure of
the configured conflicts. -/
def ConflictsClosed : Prop :=
  (parseConfig caseSensitive params.items = none ↔ params.Faulty) ∧
    ∀ config, parseConfig caseSensitive params.items = some config →
      ∀ item ∈ params.items, ∀ other ∈ params.items,
        Keeps caseSensitive config item other ↔
          Declared caseSensitive item other ∨ Declared caseSensitive other item

/-- The parameter that the check finds for a configured name. -/
def LooksUp (it : ByteString) (other : ParamDesc ν) : Prop :=
  other ∈ params.items ∧ other.name = asciiTolowerCopy it

/-- The check takes a conflict of a parameter for an error. -/
def Refused (item : ParamDesc ν) (it : ByteString) : Prop :=
  (∀ other, ¬ params.LooksUp it other) ∨
    ∃ other, params.LooksUp it other ∧ (other.name = item.name ∨ BothMandatory item other)

/-- The check refuses a configured conflict, or the other side of one that is met again at
a later parameter. -/
def CheckRefuses : Prop :=
  ∃ item ∈ params.items, ∃ it, item.Lists it ∧
    (params.Refused item it ∨
      ∃ other, params.LooksUp it other ∧ item.name < other.name ∧ params.Refused other item.name)

/-- What the check finds under the lower-case spellings is what the configured names name:
it misses no conflict, and it finds no parameter that is not meant. -/
structure Mirrored : Prop where
  missesNone : ∀ item ∈ params.items, ∀ it, item.Lists it → ∀ other ∈ params.items,
    SameName caseSensitive it other.name →
      other.name = asciiTolowerCopy it ∨ Declared caseSensitive other item
  isMeant : ∀ item ∈ params.items, ∀ it, item.Lists it → ∀ other, params.LooksUp it other →
    Declared caseSensitive item other ∨ Declared caseSensitive other item
  isMeantAgain : ∀ item ∈ params.items, ∀ it, item.Lists it → ∀ other, params.LooksUp it other →
    item.name < other.name → ∀ again, params.LooksUp item.name again →
      Declared caseSensitive again other ∨ Declared caseSensitive other again

/-! ### The descriptions that are read -/

variable {params}

/-- No two parameters have the same name. -/
theorem eq_of_sameName {item other : ParamDesc ν} (member : item ∈ params.items)
    (member' : other ∈ params.items) (same : SameName caseSensitive item.name other.name) :
    item = other := by
  have apart : params.items.Pairwise fun item other =>
      SameName caseSensitive item.name other.name → item = other :=
    params.distinct.imp fun different same => absurd same different
  have apart' : params.items.Pairwise (flip fun item other =>
      SameName caseSensitive item.name other.name → item = other) :=
    params.distinct.imp fun different same => absurd same.symm different
  exact apart.forall_of_forall_of_flip (fun _ _ _ => rfl) apart' member member' same

/-- A parameter is known by its name. -/
theorem eq_of_name {item other : ParamDesc ν} (member : item ∈ params.items)
    (member' : other ∈ params.items) (same : item.name = other.name) : item = other :=
  eq_of_sameName member member' (congrArg (nameKey caseSensitive) same)

variable (params)

/-- The descriptions can all be read. -/
theorem fold_succeeds : ∃ config, params.items.foldlM addParamDesc (initial caseSensitive) =
    some config := by
  obtain ⟨items, distinct, limited⟩ := params
  dsimp only
  induction items using List.reverseRecOn with
  | nil => exact ⟨_, rfl⟩
  | append_singleton items last ih =>
      rw [List.pairwise_append] at distinct
      obtain ⟨config, folded⟩ := ih distinct.1
        fun item member => limited item (List.mem_append_left _ member)
      obtain ⟨found, mode, _⟩ := find_of_fold folded
      have unused : ∀ name desc, config.paramMap.find name = some desc →
          ¬ SameName caseSensitive name last.name := by
        intro name desc isFound
        obtain ⟨member, rfl⟩ := (found name desc).mp isFound
        exact distinct.2.2 desc member last (List.mem_singleton.mpr rfl)
      have freshCase : caseSensitive = false →
          config.caseMap.find (asciiTolowerCopy last.name) = none := by
        rintro rfl
        rw [Option.eq_none_iff_forall_ne_some]
        intro name isFound
        obtain ⟨lowered, desc, stored⟩ :=
          ((indexed_of_fold indexed_initial rfl folded).1.caseMap _ _).mp isFound
        exact unused name desc stored lowered.symm
      have fresh : config.paramMap.find last.name = none := by
        rw [Option.eq_none_iff_forall_ne_some]
        exact fun desc isFound => unused _ _ isFound rfl
      have isLimited := limited last (List.mem_append_right _ (List.mem_singleton.mpr rfl))
      have added : ∃ after, config.addParamDesc last = some after := by
        unfold addParamDesc
        cases caseSensitive with
        | true => simp [mode, isLimited, fresh]
        | false => simp [mode, isLimited, fresh, freshCase]
      obtain ⟨after, added⟩ := added
      exact ⟨after, by rw [List.foldlM_append, folded]; simp [added]⟩

/-! ### The conflicts that are met -/

/-- When the check comes to a parameter, its description has the conflict: it is a
configured one, or an earlier parameter has left its name there. -/
inductive Seen : ParamDesc ν → ByteString → Prop
  | declared {item : ParamDesc ν} {it : ByteString} (member : item ∈ params.items)
      (lists : item.Lists it) : Seen item it
  | added {earlier item : ParamDesc ν} {it : ByteString} (seen : Seen earlier it)
      (found : params.LooksUp it item) (before : earlier.name < item.name) : Seen item earlier.name

/-- What has come of the conflicts that the check has met so far. -/
structure Checked (met : ParamDesc ν → ByteString → Prop)
    (state : Bool × OrderedMap ByteString (ParamDesc ν)) : Prop where
  stored : ∀ item ∈ params.items, ∃ desc, state.2.find item.name = some desc ∧
    desc.withoutConflicts = item.withoutConflicts ∧
    ∀ n, desc.Lists n ↔ item.Lists n ∨
      ∃ earlier it, met earlier it ∧ params.LooksUp it item ∧ n = earlier.name
  found : ∀ name desc, state.2.find name = some desc → ∃ item ∈ params.items, item.name = name
  error : state.1 = true ↔ ∃ item it, met item it ∧ params.Refused item it

variable {params} {met : ParamDesc ν → ByteString → Prop}
  {state : Bool × OrderedMap ByteString (ParamDesc ν)}

/-- What is seen are parameters of the list. -/
theorem Seen.member {item : ParamDesc ν} {it : ByteString} (seen : params.Seen item it) :
    item ∈ params.items := by
  cases seen with
  | declared member _ => exact member
  | added _ found _ => exact found.1

theorem Checked.congr (checked : params.Checked met state) {met' : ParamDesc ν → ByteString → Prop}
    (same : ∀ item it, met item it ↔ met' item it) : params.Checked met' state := by
  have isSame : met = met' := funext fun item => funext fun it => propext (same item it)
  exact isSame ▸ checked

/-- The description that stands under a name belongs to the parameter of that name. -/
theorem Checked.item_of_find (checked : params.Checked met state) {name : ByteString}
    {desc : ParamDesc ν} (found : state.2.find name = some desc) :
    ∃ item ∈ params.items, item.name = name ∧ desc.withoutConflicts = item.withoutConflicts := by
  obtain ⟨item, member, rfl⟩ := checked.found name desc found
  obtain ⟨stored, foundStored, same, _⟩ := checked.stored item member
  cases foundStored.symm.trans found
  exact ⟨item, member, rfl, same⟩

/-- What holds of a conflict that has been met, once another one has been. -/
theorem exists_met_or {item : ParamDesc ν} {it : ByteString} {P : ParamDesc ν → ByteString → Prop} :
    (∃ earlier name, (met earlier name ∨ earlier = item ∧ name = it) ∧ P earlier name) ↔
      (∃ earlier name, met earlier name ∧ P earlier name) ∨ P item it := by
  constructor
  · rintro ⟨earlier, name, isMet | ⟨rfl, rfl⟩, holds⟩
    · exact .inl ⟨earlier, name, isMet, holds⟩
    · exact .inr holds
  · rintro (⟨earlier, name, isMet, holds⟩ | holds)
    · exact ⟨earlier, name, .inl isMet, holds⟩
    · exact ⟨item, it, .inr ⟨rfl, rfl⟩, holds⟩

/-- Where a parameter is found, the conflict is refused for what the two of them are. -/
theorem LooksUp.refused_iff {item item2 : ParamDesc ν} {it : ByteString}
    (found : params.LooksUp it item2) : params.Refused item it ↔
      asciiTolowerCopy it = item.name ∨ (0 < item.minOccurs ∧ 0 < item2.minOccurs) := by
  unfold Refused BothMandatory
  rw [← found.2]
  constructor
  · rintro (missing | ⟨other, foundOther, isError⟩)
    · exact absurd found (missing item2)
    · cases eq_of_name foundOther.1 found.1 (foundOther.2.trans found.2.symm)
      exact isError
  · exact fun isError => .inr ⟨item2, found, isError⟩

/-- A conflict with a parameter that is not found. -/
theorem Checked.missing (checked : params.Checked met state) {it : ByteString}
    (missing : ∀ other, ¬ params.LooksUp it other) (item : ParamDesc ν) :
    params.Checked (fun earlier name => met earlier name ∨ earlier = item ∧ name = it)
      (true, state.2) where
  stored := by
    intro other member
    obtain ⟨stored, found, sameStored, lists⟩ := checked.stored other member
    refine ⟨stored, found, sameStored, fun n => ?_⟩
    rw [lists n, exists_met_or]
    simp only [missing other, false_and, or_false]
  found := checked.found
  error := ⟨fun _ => ⟨item, it, .inr ⟨rfl, rfl⟩, .inl missing⟩, fun _ => rfl⟩

/-- The parameter found is left the name of the one that conflicts with it. -/
theorem Checked.stored_addConflict (checked : params.Checked met state) {item desc2 : ParamDesc ν}
    {it : ByteString} (target : state.2.find (asciiTolowerCopy it) = some desc2)
    {other : ParamDesc ν} (member : other ∈ params.items) :
    ∃ desc, (state.2.set (asciiTolowerCopy it) (desc2.addConflict item.name)).find other.name =
        some desc ∧ desc.withoutConflicts = other.withoutConflicts ∧
      ∀ n, desc.Lists n ↔ other.Lists n ∨ ∃ earlier name,
        (met earlier name ∨ earlier = item ∧ name = it) ∧
          params.LooksUp name other ∧ n = earlier.name := by
  obtain ⟨stored, found, sameStored, lists⟩ := checked.stored other member
  rw [OrderedMap.find_set]
  by_cases isTarget : other.name = asciiTolowerCopy it
  · rw [isTarget, target] at found
    cases found
    rw [if_pos isTarget]
    refine ⟨_, rfl, sameStored, fun n => ?_⟩
    have looksUp : params.LooksUp it other := ⟨member, isTarget⟩
    rw [ParamDesc.Lists, ParamDesc.addConflict, OrderedSet.contains_insert, ← ParamDesc.Lists,
      lists n, exists_met_or]
    simp only [looksUp, true_and]
    exact or_comm.trans or_assoc
  · have notFound : ¬ params.LooksUp it other := fun looksUp => isTarget looksUp.2
    rw [if_neg isTarget]
    refine ⟨stored, found, sameStored, fun n => ?_⟩
    rw [lists n, exists_met_or]
    simp only [notFound, false_and, or_false]

/-- One conflict of a parameter that the check has come to. -/
theorem checkConflict_checked (checked : params.Checked met state) {item desc : ParamDesc ν}
    (same : desc.withoutConflicts = item.withoutConflicts) (it : ByteString) :
    params.Checked (fun earlier name => met earlier name ∨ earlier = item ∧ name = it)
      (checkConflict item.name desc state it) := by
  have sameName : desc.name = item.name := (congrArg ParamDesc.name same :)
  have sameMin : desc.minOccurs = item.minOccurs := (congrArg ParamDesc.minOccurs same :)
  unfold StoredQueryConfig.checkConflict
  cases target : state.2.find (asciiTolowerCopy it) with
  | none =>
      have missing : ∀ other, ¬ params.LooksUp it other := by
        intro other ⟨member, named⟩
        obtain ⟨_, found, _⟩ := checked.stored other member
        rw [named, target] at found
        cases found
      simp only [target]
      exact checked.missing missing item
  | some desc2 =>
      obtain ⟨item2, member2, named2, same2⟩ := checked.item_of_find target
      have sameMin2 : desc2.minOccurs = item2.minOccurs := (congrArg ParamDesc.minOccurs same2 :)
      have looksUp2 : params.LooksUp it item2 := ⟨member2, named2⟩
      simp only [target]
      refine ⟨fun other member => ?_, fun name stored found => ?_, ?_⟩
      · rw [sameName]
        exact checked.stored_addConflict target member
      · rw [OrderedMap.find_set] at found
        split at found
        · next isTarget => exact ⟨item2, member2, named2.trans isTarget.symm⟩
        · exact checked.found name stored found
      · rw [Bool.or_eq_true, Bool.or_eq_true, checked.error, decide_eq_true_eq, Bool.and_eq_true,
          decide_eq_true_eq, decide_eq_true_eq, or_assoc, sameMin, sameMin2, ← looksUp2.refused_iff,
          exists_met_or]

/-- The conflicts of one parameter are checked one after the other. -/
theorem foldl_checkConflict_checked (checked : params.Checked met state) {item desc : ParamDesc ν}
    (same : desc.withoutConflicts = item.withoutConflicts) (its : List ByteString) :
    params.Checked (fun earlier name => met earlier name ∨ earlier = item ∧ name ∈ its)
      (its.foldl (checkConflict item.name desc) state) := by
  induction its generalizing met state with
  | nil => exact checked.congr fun _ _ => by simp
  | cons it its ih =>
      exact (ih (checkConflict_checked checked same it)).congr fun earlier name => by
        rw [List.mem_cons, or_assoc, and_or_left]

/-- One parameter of the map, after those before it. -/
theorem checkConflictsOf_checked {done : List ByteString} {item : ParamDesc ν}
    (checked : params.Checked (fun earlier it => earlier.name ∈ done ∧
      params.Seen earlier it) state)
    (member : item ∈ params.items)
    (isDone : ∀ earlier ∈ params.items, earlier.name ∈ done ↔ earlier.name < item.name) :
    params.Checked (fun earlier it => earlier.name ∈ done ++ [item.name] ∧ params.Seen earlier it)
      (checkConflictsOf state item.name) := by
  obtain ⟨desc, found, same, lists⟩ := checked.stored item member
  have isSeen : ∀ it, it ∈ desc.conflictsWith.keys ↔ params.Seen item it := by
    intro it
    have isKey : it ∈ desc.conflictsWith.keys ↔ desc.Lists it :=
      ⟨OrderedSet.contains_of_mem_keys, fun contained =>
        OrderedMap.mem_keys.mpr ⟨(), OrderedSet.contains_iff.mp contained⟩⟩
    rw [isKey, lists it]
    constructor
    · rintro (isListed | ⟨earlier, name, ⟨earlierDone, seen⟩, looksUp, rfl⟩)
      · exact .declared member isListed
      · exact .added seen looksUp ((isDone earlier seen.member).mp earlierDone)
    · intro seen
      cases seen with
      | declared _ isListed => exact .inl isListed
      | added seen looksUp before =>
          exact .inr ⟨_, _, ⟨(isDone _ seen.member).mpr before, seen⟩, looksUp, rfl⟩
  unfold StoredQueryConfig.checkConflictsOf
  simp only [found]
  refine (foldl_checkConflict_checked checked same desc.conflictsWith.keys).congr fun earlier it =>
    ?_
  rw [isSeen, List.mem_append, List.mem_singleton, or_and_right]
  constructor
  · rintro (isMet | ⟨rfl, seen⟩)
    · exact .inl isMet
    · exact .inr ⟨rfl, seen⟩
  · rintro (isMet | ⟨named, seen⟩)
    · exact .inl isMet
    · cases eq_of_name seen.member member named
      exact .inr ⟨rfl, seen⟩

/-- The parameters are checked one after the other. -/
theorem foldl_checkConflictsOf_checked {done rest : List ByteString}
    (checked : params.Checked (fun earlier it => earlier.name ∈ done ∧
      params.Seen earlier it) state)
    (sorted : (done ++ rest).Pairwise (· < ·))
    (named : ∀ name, name ∈ done ++ rest ↔ ∃ item ∈ params.items, item.name = name) :
    params.Checked (fun earlier it => earlier.name ∈ done ++ rest ∧ params.Seen earlier it)
      (rest.foldl StoredQueryConfig.checkConflictsOf state) := by
  induction rest generalizing done state with
  | nil => exact checked.congr fun _ _ => by rw [List.append_nil]
  | cons name rest ih =>
      obtain ⟨item, member, rfl⟩ := (named name).mp
        (List.mem_append_right _ (List.mem_cons_self ..))
      obtain ⟨_, sortedRest, below⟩ := List.pairwise_append.mp sorted
      have isDone : ∀ earlier ∈ params.items, earlier.name ∈ done ↔ earlier.name < item.name := by
        intro earlier inItems
        constructor
        · exact fun inDone => below _ inDone _ (List.mem_cons_self ..)
        · intro before
          rcases List.mem_append.mp ((named _).mpr ⟨earlier, inItems, rfl⟩) with inDone | later
          · exact inDone
          · rcases List.mem_cons.mp later with same | inRest
            · exact absurd same before.ne
            · exact absurd ((List.pairwise_cons.mp sortedRest).1 _ inRest) before.asymm
      have append : done ++ item.name :: rest = (done ++ [item.name]) ++ rest := by simp
      rw [append] at sorted named ⊢
      exact ih (checkConflictsOf_checked checked member isDone) sorted named

/-- The configuration is rejected if the check has found an error, and otherwise has the
descriptions that the check leaves. -/
theorem parseConfig_checked : ∃ (config : StoredQueryConfig ν) (state : _),
    params.Checked params.Seen state ∧ parseConfig caseSensitive params.items =
      if state.1 then none else some { config with paramMap := state.2 } := by
  obtain ⟨config, folded⟩ := params.fold_succeeds
  obtain ⟨found, _, _⟩ := find_of_fold folded
  have start : params.Checked (fun earlier it => earlier.name ∈ [] ∧ params.Seen earlier it)
      (false, config.paramMap) := by
    refine ⟨fun item member => ⟨item, (found _ item).mpr ⟨member, rfl⟩, rfl, fun n => ?_⟩,
      fun name desc isFound => ⟨desc, (found name desc).mp isFound⟩, nofun, ?_⟩
    · constructor
      · exact .inl
      · rintro (isListed | ⟨_, _, ⟨none, _⟩, _⟩)
        · exact isListed
        · cases none
    · rintro ⟨_, _, ⟨none, _⟩, _⟩
      cases none
  have named : ∀ name, name ∈ [] ++ config.paramMap.keys ↔
      ∃ item ∈ params.items, item.name = name := by
    intro name
    rw [List.nil_append, OrderedMap.mem_keys]
    exact exists_congr (found name)
  have sorted : ([] ++ config.paramMap.keys).Pairwise (· < ·) :=
    List.pairwise_map.mpr config.paramMap.sorted
  refine ⟨config, checkParamConflicts config.paramMap,
    (foldl_checkConflictsOf_checked start sorted named).congr fun earlier it => ?_, ?_⟩
  · constructor
    · exact And.right
    · exact fun seen => ⟨(named _).mpr ⟨earlier, seen.member, rfl⟩, seen⟩
  · unfold parseConfig
    rw [folded]
    rfl

/-! ### What is met, from what is configured -/

/-- A look-up finds only names in lower case. -/
theorem LooksUp.lower {it : ByteString} {item : ParamDesc ν} (found : params.LooksUp it item) :
    asciiTolowerCopy item.name = item.name := by
  rw [found.2, asciiTolowerCopy_idempotent]

/-- A name in lower case is looked up as it is. -/
theorem LooksUp.self {it : ByteString} {item other : ParamDesc ν} (found : params.LooksUp it item)
    (foundBySame : params.LooksUp item.name other) : other = item :=
  eq_of_name foundBySame.1 found.1 (foundBySame.2.trans found.lower)

/-- A conflict that is met is a configured one, the other side of a configured one, or a
conflict with a parameter that has been left the name of a third one, which is found under
another spelling. -/
theorem Seen.cases {item : ParamDesc ν} {n : ByteString} (seen : params.Seen item n) :
    (item ∈ params.items ∧ item.Lists n) ∨
      ∃ source ∈ params.items, ∃ it, source.Lists it ∧ ∃ middle, params.LooksUp it middle ∧
        source.name < middle.name ∧ (middle = item ∧ n = source.name ∨
          params.LooksUp source.name item ∧ middle.name < item.name ∧ n = middle.name) := by
  induction seen with
  | declared member isListed => exact .inl ⟨member, isListed⟩
  | @added earlier item it seen found before ih =>
      right
      rcases ih with ⟨member, isListed⟩ |
        ⟨source, member, name, isListed, middle, foundMiddle, order, same | later⟩
      · exact ⟨earlier, member, it, isListed, item, found, before, .inl ⟨rfl, rfl⟩⟩
      · obtain ⟨rfl, rfl⟩ := same
        exact ⟨source, member, name, isListed, middle, foundMiddle, order,
          .inr ⟨found, before, rfl⟩⟩
      · obtain ⟨_, order', rfl⟩ := later
        cases foundMiddle.self found
        exact absurd before order'.asymm

/-- The check refuses what it meets just when it refuses a configured conflict or the other
side of one. -/
theorem exists_seen_refused :
    (∃ item it, params.Seen item it ∧ params.Refused item it) ↔ params.CheckRefuses := by
  constructor
  · rintro ⟨item, it, seen, refused⟩
    rcases seen.cases with ⟨member, isListed⟩ |
      ⟨source, member, name, isListed, middle, found, order, ⟨rfl, rfl⟩ | ⟨foundItem, later, rfl⟩⟩
    · exact ⟨item, member, it, isListed, .inl refused⟩
    · exact ⟨source, member, name, isListed, .inr ⟨middle, found, order, refused⟩⟩
    · refine ⟨source, member, name, isListed,
        .inr ⟨middle, found, order, .inr ⟨item, foundItem, .inr ?_⟩⟩⟩
      rcases refused with missing | ⟨other, foundOther, isError⟩
      · exact absurd ⟨found.1, found.lower.symm⟩ (missing middle)
      · cases found.self foundOther
        rcases isError with same | both
        · exact absurd same later.ne
        · exact ⟨both.2, both.1⟩
  · rintro ⟨item, member, it, isListed, refused | ⟨other, found, order, refused⟩⟩
    · exact ⟨item, it, .declared member isListed, refused⟩
    · exact ⟨other, item.name, .added (.declared member isListed) found order, refused⟩

/-- The conflicts that are kept are the configured ones and those whose other side has been
met. -/
theorem Checked.keeps_iff (checked : params.Checked params.Seen state)
    (config : StoredQueryConfig ν)
    {item other : ParamDesc ν} (member : item ∈ params.items) (member' : other ∈ params.items) :
    Keeps caseSensitive { config with paramMap := state.2 } item other ↔
      Declared caseSensitive item other ∨ ∃ it, params.Seen other it ∧ params.LooksUp it item := by
  obtain ⟨desc, found, _, lists⟩ := checked.stored item member
  unfold Keeps Declared
  dsimp only
  rw [found]
  constructor
  · rintro ⟨_, ⟨rfl⟩, n, isListed, same⟩
    rcases (lists n).mp isListed with configured | ⟨earlier, it, seen, looksUp, rfl⟩
    · exact .inl ⟨n, configured, same⟩
    · cases eq_of_sameName seen.member member' same
      exact .inr ⟨it, seen, looksUp⟩
  · rintro (⟨n, configured, same⟩ | ⟨it, seen, looksUp⟩)
    · exact ⟨desc, rfl, n, (lists n).mpr (.inl configured), same⟩
    · exact ⟨desc, rfl, other.name, (lists _).mpr (.inr ⟨other, it, seen, looksUp, rfl⟩), rfl⟩

/-- A parameter that another one is found to conflict with is found under the configured
name. -/
theorem LooksUp.of_sameName {other : ParamDesc ν} {it name : ByteString}
    (found : params.LooksUp name other) (member : other ∈ params.items)
    (same : SameName caseSensitive it other.name) : params.LooksUp it other :=
  ⟨member, found.lower.symm.trans same.lower.symm⟩

/-- Conflicts hold both ways when the description is mirrored by what is looked up. -/
theorem symmetric_iff_mirrored :
    (∀ item ∈ params.items, ∀ other ∈ params.items,
      (Declared caseSensitive item other ∨ ∃ it, params.Seen other it ∧ params.LooksUp it item) ↔
        Declared caseSensitive item other ∨ Declared caseSensitive other item) ↔
      params.Mirrored := by
  constructor
  · intro symmetric
    refine ⟨fun item member it isListed other member' same => ?_,
      fun item member it isListed other found => ?_,
      fun item member it isListed other found order again foundAgain => ?_⟩
    · rcases (symmetric other member' item member).mpr (.inr ⟨it, isListed, same⟩) with
        declared | ⟨name, _, found⟩
      · exact .inr declared
      · exact .inl (found.of_sameName member' same).2
    · have isKept := (symmetric other found.1 item member).mp
        (.inr ⟨it, .declared member isListed, found⟩)
      exact isKept.symm
    · exact (symmetric again foundAgain.1 other found.1).mp
        (.inr ⟨item.name, .added (.declared member isListed) found order, foundAgain⟩)
  · intro mirrored item member other member'
    constructor
    · rintro (declared | ⟨n, seen, looksUp⟩)
      · exact .inl declared
      · rcases seen.cases with ⟨_, isListed⟩ |
          ⟨source, inItems, it, isListed, middle, found, order,
            ⟨rfl, rfl⟩ | ⟨foundItem, later, rfl⟩⟩
        · exact (mirrored.isMeant other member' n isListed item looksUp).symm
        · exact mirrored.isMeantAgain source inItems it isListed middle found order item looksUp
        · cases found.self looksUp
          exact (mirrored.isMeantAgain source inItems it isListed item found order other
            foundItem).symm
    · rintro (declared | ⟨it, isListed, same⟩)
      · exact .inl declared
      · rcases mirrored.missesNone other member' it isListed item member
          same with lowered | declared
        · exact .inr ⟨it, .declared member' isListed, member, lowered⟩
        · exact .inl declared

variable (params)

/-- The check rejects just the faulty configurations and closes the conflicts of the others
exactly when both it and the rule find a fault, or neither does and the lower-case
spellings lead to the parameters that are meant. -/
theorem conflictsClosed_iff :
    params.ConflictsClosed ↔ (params.Faulty ∧ params.CheckRefuses) ∨
      (¬ params.Faulty ∧ ¬ params.CheckRefuses ∧ params.Mirrored) := by
  obtain ⟨config, state, checked, parsed⟩ := params.parseConfig_checked
  have error : state.1 = true ↔ params.CheckRefuses := checked.error.trans exists_seen_refused
  unfold ConflictsClosed
  rw [parsed]
  by_cases refuses : params.CheckRefuses
  · rw [if_pos (error.mpr refuses)]
    constructor
    · exact fun ⟨faulty, _⟩ => .inl ⟨faulty.mp rfl, refuses⟩
    · rintro (⟨faulty, _⟩ | ⟨_, accepts, _⟩)
      · exact ⟨⟨fun _ => faulty, fun _ => rfl⟩, nofun⟩
      · exact absurd refuses accepts
  · rw [if_neg fun isError => refuses (error.mp isError)]
    have closed : (∀ after, some { config with paramMap := state.2 } = some after →
        ∀ item ∈ params.items, ∀ other ∈ params.items, Keeps caseSensitive after item other ↔
          Declared caseSensitive item other ∨ Declared caseSensitive other item) ↔
        params.Mirrored := by
      rw [← symmetric_iff_mirrored]
      constructor
      · intro closed item member other member'
        rw [← checked.keeps_iff config member member']
        exact closed _ rfl item member other member'
      · rintro symmetric _ ⟨rfl⟩ item member other member'
        rw [checked.keeps_iff config member member']
        exact symmetric item member other member'
    constructor
    · rintro ⟨faulty, isClosed⟩
      refine .inr ⟨fun isFaulty => ?_, refuses, closed.mp isClosed⟩
      cases faulty.mpr isFaulty
    · rintro (⟨_, isRefused⟩ | ⟨notFaulty, _, mirrored⟩)
      · exact absurd isRefused refuses
      · exact ⟨⟨nofun, fun faulty => absurd faulty notFaulty⟩, closed.mpr mirrored⟩

/-- In case-insensitive mode a parameter `Foo` that conflicts with `bar`. -/
def fooAndBar : ParamDescs false Int where
  items :=
    [⟨[70, 111, 111], 0, 1, ⟨.string, false, 1, 1⟩, none, none,
      OrderedSet.insert [98, 97, 114] .empty⟩,
     ⟨[98, 97, 114], 0, 1, ⟨.string, false, 1, 1⟩, none, none, .empty⟩]
  distinct := by decide
  limited := by decide

/-- The conflict is left at `bar` under the name `Foo`, which is not found from there. -/
theorem fooAndBar_rejected : ¬ fooAndBar.ConflictsClosed := by
  intro ⟨rejected, _⟩
  obtain ⟨item, member, it, isListed, fault⟩ :=
    rejected.mp (by decide : parseConfig false fooAndBar.items = none)
  have isBar : it = [98, 97, 114] ∧ item.minOccurs = 0 ∧ item.name = [70, 111, 111] := by
    rcases List.mem_cons.mp member with rfl | rest
    · rcases OrderedSet.contains_insert.mp isListed with named | none
      · exact ⟨named, rfl, rfl⟩
      · cases none
    · cases List.mem_singleton.mp rest
      cases isListed
  obtain ⟨rfl, optional, named⟩ := isBar
  rcases fault with self | missing | ⟨_, _, _, mandatory, _⟩
  · rw [named] at self
    exact absurd self (by decide)
  · exact missing _ (List.mem_cons_of_mem _ (List.mem_singleton.mpr rfl)) rfl
  · rw [optional] at mandatory
    cases mandatory

end ParamDescs

end SmartMetWfs.Parameters
