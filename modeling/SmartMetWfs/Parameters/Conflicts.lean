import SmartMetWfs.Parameters.StoredQuery

/-!
# Conflicts that are configured and conflicts that are kept

The check of the conflicts adds the other side of each of them, and nothing else about the
descriptions changes. A conflict is added to the description under the lower-case spelling
of a configured name, whatever the naming mode: a description with another spelling keeps
the conflicts that it is configured with.
-/

namespace SmartMetWfs.Parameters

open Foundation

variable {ν : Type}

/-- What is compared of a name in a naming mode. -/
def nameKey (caseSensitive : Bool) (name : ByteString) : ByteString :=
  if caseSensitive then name else asciiTolowerCopy name

/-- Two names are the same for the configuration. -/
def SameName (caseSensitive : Bool) (name other : ByteString) : Prop :=
  nameKey caseSensitive name = nameKey caseSensitive other

instance (caseSensitive : Bool) (name other : ByteString) :
    Decidable (SameName caseSensitive name other) :=
  inferInstanceAs (Decidable (_ = _))

/-- The same names have the same lower case. -/
theorem SameName.lower {caseSensitive : Bool} {name other : ByteString}
    (same : SameName caseSensitive name other) :
      asciiTolowerCopy name = asciiTolowerCopy other := by
  cases caseSensitive with
  | true => exact congrArg asciiTolowerCopy same
  | false => exact same

/-- The description has what the item says, and perhaps more conflicts if the name of the
item is in lower case. -/
structure Completes (item desc : ParamDesc ν) : Prop where
  same : desc.withoutConflicts = item.withoutConflicts
  kept : ∀ it, item.conflictsWith.contains it = true → desc.conflictsWith.contains it = true
  added : ∀ it, desc.conflictsWith.contains it = true →
    item.conflictsWith.contains it = true ∨ asciiTolowerCopy item.name = item.name

/-- A completed parameter keeps its name. -/
theorem Completes.name {item desc : ParamDesc ν} (completes : Completes item desc) :
    desc.name = item.name := (congrArg ParamDesc.name completes.same :)

/-- A completed parameter occurs at least as often. -/
theorem Completes.minOccurs {item desc : ParamDesc ν} (completes : Completes item desc) :
    desc.minOccurs = item.minOccurs := (congrArg ParamDesc.minOccurs completes.same :)

/-- A completed parameter occurs at most as often. -/
theorem Completes.maxOccurs {item desc : ParamDesc ν} (completes : Completes item desc) :
    desc.maxOccurs = item.maxOccurs := (congrArg ParamDesc.maxOccurs completes.same :)

namespace StoredQueryConfig

/-! ### The descriptions that have been read -/

/-- The map has the items under their names. -/
theorem find_of_fold {caseSensitive : Bool} {items : List (ParamDesc ν)}
    {config : StoredQueryConfig ν}
    (folded : items.foldlM addParamDesc (initial caseSensitive) = some config) :
    (∀ name item, config.paramMap.find name = some item ↔ item ∈ items ∧ item.name = name) ∧
      config.useCaseSensitiveParams = caseSensitive ∧
      (caseSensitive = true → config.caseMap = .empty) := by
  induction items using List.reverseRecOn generalizing config with
  | nil =>
      cases folded
      exact ⟨fun name item => ⟨nofun, nofun⟩, rfl, fun _ => rfl⟩
  | append_singleton items last ih =>
      rw [List.foldlM_append] at folded
      obtain ⟨middle, foldedItems, rest⟩ := Option.bind_eq_some_iff.mp folded
      rw [List.foldlM_cons] at rest
      obtain ⟨after, added, done⟩ := Option.bind_eq_some_iff.mp rest
      cases done
      obtain ⟨found, mode, caseMap⟩ := ih foldedItems
      obtain ⟨fresh, paramMap, sameMode, sameCaseMap, _⟩ := addParamDesc_some added
      refine ⟨fun name item => ?_, sameMode.trans mode, fun sensitive => ?_⟩
      · rw [paramMap, OrderedMap.find_set, List.mem_append, List.mem_singleton]
        by_cases isLast : name = last.name
        · rw [if_pos isLast]
          constructor
          · rintro ⟨rfl⟩
            exact ⟨.inr rfl, isLast.symm⟩
          · rintro ⟨inItems | rfl, named⟩
            · have stored := (found name item).mpr ⟨inItems, named⟩
              rw [isLast, fresh] at stored
              cases stored
            · rfl
        · rw [if_neg isLast, found]
          constructor
          · exact fun ⟨inItems, named⟩ => ⟨.inl inItems, named⟩
          · rintro ⟨inItems | rfl, named⟩
            · exact ⟨inItems, named⟩
            · exact absurd named.symm isLast
      · rw [sameCaseMap (mode.trans sensitive), caseMap sensitive]

/-! ### Conflicts that are added -/

/-- The descriptions after some of the check complete those before it. -/
def Extends (before after : OrderedMap ByteString (ParamDesc ν)) : Prop :=
  ∀ name desc, before.find name = some desc →
    ∃ desc', after.find name = some desc' ∧ desc'.withoutConflicts = desc.withoutConflicts ∧
      (∀ it, desc.conflictsWith.contains it = true → desc'.conflictsWith.contains it = true) ∧
      ∀ it, desc'.conflictsWith.contains it = true →
        desc.conflictsWith.contains it = true ∨ asciiTolowerCopy name = name

theorem Extends.refl (paramMap : OrderedMap ByteString (ParamDesc ν)) : Extends paramMap paramMap :=
  fun _ desc found => ⟨desc, found, rfl, fun _ => id, fun _ => .inl⟩

theorem Extends.trans {first second third : OrderedMap ByteString (ParamDesc ν)}
    (extends1 : Extends first second) (extends2 : Extends second third) : Extends first third := by
  intro name desc found
  obtain ⟨desc', found', same', kept', added'⟩ := extends1 name desc found
  obtain ⟨desc'', found'', same'', kept'', added''⟩ := extends2 name desc' found'
  refine ⟨desc'', found'', same''.trans same', fun it contained => kept'' it (kept' it contained),
    fun it contained => ?_⟩
  rcases added'' it contained with older | lowered
  · exact added' it older
  · exact .inr lowered

/-- A conflict that is checked only adds conflicts. -/
theorem checkConflict_extends (name : ByteString) (desc : ParamDesc ν)
    (state : Bool × OrderedMap ByteString (ParamDesc ν)) (it : ByteString) :
    Extends state.2 (checkConflict name desc state it).2 := by
  unfold checkConflict
  cases target : state.2.find (asciiTolowerCopy it) with
  | none =>
      simp only [target]
      exact .refl _
  | some desc2 =>
      simp only [target]
      intro other otherDesc found
      rw [OrderedMap.find_set]
      by_cases isTarget : other = asciiTolowerCopy it
      · rw [isTarget, target] at found
        cases found
        rw [if_pos isTarget]
        refine ⟨_, rfl, rfl, fun _ contained => OrderedSet.contains_insert.mpr (.inr contained), ?_⟩
        intro _ _
        rw [isTarget, asciiTolowerCopy_idempotent]
        exact .inr rfl
      · rw [if_neg isTarget]
        exact ⟨otherDesc, found, rfl, fun _ => id, fun _ => .inl⟩

/-- All conflicts of a parameter that are checked only add conflicts. -/
theorem foldl_checkConflict_extends (name : ByteString) (desc : ParamDesc ν) (its : List ByteString)
    (state : Bool × OrderedMap ByteString (ParamDesc ν)) :
    Extends state.2 (its.foldl (checkConflict name desc) state).2 := by
  induction its generalizing state with
  | nil => exact .refl _
  | cons it its ih => exact (checkConflict_extends name desc state it).trans (ih _)

/-- A parameter that is checked only adds conflicts. -/
theorem checkConflictsOf_extends (state : Bool × OrderedMap ByteString (ParamDesc ν))
    (name : ByteString) : Extends state.2 (checkConflictsOf state name).2 := by
  unfold checkConflictsOf
  split
  · exact .refl _
  · exact foldl_checkConflict_extends _ _ _ _

/-- All parameters that are checked only add conflicts. -/
theorem foldl_checkConflictsOf_extends (names : List ByteString)
    (state : Bool × OrderedMap ByteString (ParamDesc ν)) :
    Extends state.2 (names.foldl checkConflictsOf state).2 := by
  induction names generalizing state with
  | nil => exact .refl _
  | cons name names ih => exact (checkConflictsOf_extends state name).trans (ih _)

/-! ### The other side of a conflict -/

/-- The description under a name conflicts with another name. -/
def Has (paramMap : OrderedMap ByteString (ParamDesc ν)) (name it : ByteString) : Prop :=
  ∃ desc, paramMap.find name = some desc ∧ desc.conflictsWith.contains it = true

/-- A conflict that is there stays. -/
theorem Extends.has {before after : OrderedMap ByteString (ParamDesc ν)}
    (isExtended : Extends before after) {name it : ByteString} (has : Has before name it) :
    Has after name it := by
  obtain ⟨desc, found, contained⟩ := has
  obtain ⟨desc', found', _, kept, _⟩ := isExtended name desc found
  exact ⟨desc', found', kept it contained⟩

/-- A conflict that is fine is there the other way round. -/
theorem checkConflict_has {name : ByteString} {desc : ParamDesc ν}
    {state : Bool × OrderedMap ByteString (ParamDesc ν)} {it : ByteString}
    (fine : (checkConflict name desc state it).1 = false) :
    Has (checkConflict name desc state it).2 (asciiTolowerCopy it) desc.name := by
  unfold checkConflict at fine ⊢
  cases target : state.2.find (asciiTolowerCopy it) with
  | none =>
      simp only [target] at fine
      cases fine
  | some desc2 =>
      simp only [target]
      exact ⟨_, OrderedMap.find_set_self _ _ _, OrderedSet.contains_insert.mpr (.inl rfl)⟩

/-- All conflicts of a parameter that are fine are there the other way round. -/
theorem foldl_checkConflict_has {name : ByteString} {desc : ParamDesc ν} (its : List ByteString)
    {state : Bool × OrderedMap ByteString (ParamDesc ν)}
    (fine : (its.foldl (checkConflict name desc) state).1 = false) :
    ∀ it ∈ its, Has (its.foldl (checkConflict name desc) state).2 (asciiTolowerCopy it)
      desc.name := by
  induction its generalizing state with
  | nil => exact nofun
  | cons first its ih =>
      intro it member
      rw [List.foldl_cons] at fine ⊢
      rcases List.mem_cons.mp member with rfl | inRest
      · have fineFirst := foldl_checkConflict_error name desc its _ fine
        exact (foldl_checkConflict_extends name desc its _).has (checkConflict_has fineFirst)
      · exact ih fine it inRest

/-- After the check every conflict of a description that was gone through has its other
side. -/
theorem foldl_checkConflictsOf_has (names : List ByteString)
    {state : Bool × OrderedMap ByteString (ParamDesc ν)}
    (fine : (names.foldl checkConflictsOf state).1 = false) :
    ∀ name ∈ names, ∀ desc, state.2.find name = some desc → ∀ it,
      desc.conflictsWith.contains it = true →
        Has (names.foldl checkConflictsOf state).2 (asciiTolowerCopy it) desc.name := by
  induction names generalizing state with
  | nil => exact nofun
  | cons first names ih =>
      intro name member desc found it contained
      rw [List.foldl_cons] at fine ⊢
      rcases List.mem_cons.mp member with rfl | inRest
      · have fineFirst := foldl_checkConflictsOf_error names _ fine
        have has : Has (checkConflictsOf state name).2 (asciiTolowerCopy it) desc.name := by
          unfold checkConflictsOf at fineFirst ⊢
          simp only [found] at fineFirst ⊢
          exact foldl_checkConflict_has desc.conflictsWith.keys fineFirst it
            (OrderedMap.mem_keys.mpr ⟨(), OrderedSet.contains_iff.mp contained⟩)
        exact (foldl_checkConflictsOf_extends names _).has has
      · obtain ⟨desc', found', same, kept, _⟩ :=
          checkConflictsOf_extends state first name desc found
        have sameName : desc'.name = desc.name := (congrArg ParamDesc.name same :)
        have has := ih fine name inRest desc' found' it (kept it contained)
        rw [sameName] at has
        exact has

/-! ### Parsed configurations -/

/-- What a configuration that has been parsed has of the items it was parsed from. -/
structure ParsedFrom (caseSensitive : Bool) (items : List (ParamDesc ν))
    (config : StoredQueryConfig ν) : Prop where
  mode : config.useCaseSensitiveParams = caseSensitive
  total : config.Total
  stored : ∀ item ∈ items, ∃ desc, config.paramMap.find item.name = some desc ∧ Completes item desc
  describes : ∀ item ∈ items, ∀ name, SameName caseSensitive item.name name →
    ∃ desc, config.Describes name desc ∧ Completes item desc
  described : ∀ name desc, config.Describes name desc →
    ∃ item ∈ items, SameName caseSensitive item.name name ∧ Completes item desc
  unique : ∀ item ∈ items, ∀ item' ∈ items, SameName caseSensitive item.name item'.name →
    item = item'
  reverse : ∀ item ∈ items, ∀ it, item.conflictsWith.contains it = true →
    ∃ other ∈ items, other.name = asciiTolowerCopy it ∧
      ∀ name desc, SameName caseSensitive other.name name → config.Describes name desc →
        desc.conflictsWith.contains item.name = true

section

variable {caseSensitive : Bool} {items : List (ParamDesc ν)} {config : StoredQueryConfig ν}

/-- The descriptions of a parsed configuration are its items, completed. -/
theorem paramMap_of_parseConfig (parsed : parseConfig caseSensitive items = some config) :
    (∀ item ∈ items, ∃ desc, config.paramMap.find item.name = some desc ∧ Completes item desc) ∧
      (∀ name desc, config.paramMap.find name = some desc →
        ∃ item ∈ items, item.name = name ∧ Completes item desc) ∧
      (∀ item ∈ items, ∀ item' ∈ items, item.name = item'.name → item = item') ∧
      ∀ item ∈ items, ∀ it, item.conflictsWith.contains it = true →
        Has config.paramMap (asciiTolowerCopy it) item.name := by
  unfold parseConfig at parsed
  obtain ⟨middle, folded, checked⟩ := Option.bind_eq_some_iff.mp parsed
  obtain ⟨found, _, _⟩ := find_of_fold folded
  dsimp only at checked
  split at checked
  · cases checked
  · next fine =>
      cases checked
      have isFine : (middle.paramMap.keys.foldl checkConflictsOf (false, middle.paramMap)).1 =
          false := Bool.not_eq_true _ ▸ fine
      have named : ∀ name desc, middle.paramMap.find name = some desc → desc.name = name :=
        fun name desc isFound => ((found name desc).mp isFound).2
      have start : SameButConflicts middle.paramMap middle.paramMap := fun _ => rfl
      obtain ⟨same, _⟩ :=
        foldl_checkConflictsOf_fine middle.paramMap.keys [] start named nofun isFine
      have extended := foldl_checkConflictsOf_extends middle.paramMap.keys (false, middle.paramMap)
      have stored : ∀ item ∈ items, ∃ desc,
          (checkParamConflicts middle.paramMap).2.find item.name = some desc ∧
            Completes item desc := by
        intro item member
        obtain ⟨desc, isStored, sameRest, kept, added⟩ :=
          extended item.name item ((found _ item).mpr ⟨member, rfl⟩)
        exact ⟨desc, isStored, sameRest, kept, added⟩
      refine ⟨stored, fun name desc isFound => ?_, fun item member item' member' sameName => ?_,
        fun item member it contained => ?_⟩
      · obtain ⟨item, foundItem, _, _⟩ := same.found isFound
        obtain ⟨member, isNamed⟩ := (found name item).mp foundItem
        obtain ⟨desc', isStored, completes⟩ := stored item member
        rw [isNamed] at isStored
        cases isStored.symm.trans isFound
        exact ⟨item, member, isNamed, completes⟩
      · have first := (found _ item).mpr ⟨member, sameName⟩
        exact Option.some.inj (first.symm.trans ((found _ item').mpr ⟨member', rfl⟩))
      · have foundItem := (found _ item).mpr ⟨member, rfl⟩
        exact foldl_checkConflictsOf_has middle.paramMap.keys isFine item.name
          (OrderedMap.mem_keys.mpr ⟨item, foundItem⟩) item foundItem it contained

/-- A configuration has the letter case it was asked for. -/
theorem mode_of_parseConfig (parsed : parseConfig caseSensitive items = some config) :
    config.useCaseSensitiveParams = caseSensitive ∧
      (caseSensitive = true → config.caseMap = .empty) := by
  unfold parseConfig at parsed
  obtain ⟨middle, folded, checked⟩ := Option.bind_eq_some_iff.mp parsed
  dsimp only at checked
  split at checked
  · cases checked
  · cases checked
    exact (find_of_fold folded).2

/-- A lookup in case-sensitive mode is one in the map. -/
theorem getParamDesc_of_caseSensitive (parsed : parseConfig true items = some config)
    (name : ByteString) : config.getParamDesc name = .ok (config.paramMap.find name) := by
  unfold getParamDesc
  rw [(mode_of_parseConfig parsed).2 rfl]
  rfl

/-- A name is looked up as the mode prescribes. -/
theorem describes_iff_of_parseConfig (parsed : parseConfig caseSensitive items = some config)
    {name : ByteString} {desc : ParamDesc ν} :
    config.Describes name desc ↔ config.Declares desc ∧ SameName caseSensitive desc.name name := by
  cases caseSensitive with
  | false => exact (consistent_of_parseConfig parsed).describes_iff
  | true =>
      unfold Describes
      rw [getParamDesc_of_caseSensitive parsed, Except.ok.injEq]
      constructor
      · intro found
        obtain ⟨item, _, named, completes⟩ := (paramMap_of_parseConfig parsed).2.1 name desc found
        have isNamed : desc.name = name := completes.name.trans named
        refine ⟨?_, isNamed⟩
        unfold Declares
        rw [isNamed]
        exact found
      · rintro ⟨declares, rfl⟩
        exact declares

/-- No two descriptions answer to one name. -/
theorem declared_unique (parsed : parseConfig caseSensitive items = some config)
    {desc desc' : ParamDesc ν} (declares : config.Declares desc) (declares' : config.Declares desc')
    (same : SameName caseSensitive desc.name desc'.name) : desc = desc' := by
  have describes := (describes_iff_of_parseConfig parsed).mpr ⟨declares, same⟩
  have describes' := (describes_iff_of_parseConfig parsed).mpr ⟨declares', rfl⟩
  exact Option.some.inj (Except.ok.inj (describes.symm.trans describes'))

/-- A configuration describes the parameters it was read from. -/
theorem parsedFrom_of_parseConfig (parsed : parseConfig caseSensitive items = some config) :
    ParsedFrom caseSensitive items config := by
  obtain ⟨stored, found, unique, has⟩ := paramMap_of_parseConfig parsed
  have declares : ∀ name desc, config.paramMap.find name = some desc →
      config.Declares desc ∧ desc.name = name := by
    intro name desc isFound
    obtain ⟨item, _, isNamed, completes⟩ := found name desc isFound
    have named : desc.name = name := completes.name.trans isNamed
    refine ⟨?_, named⟩
    unfold Declares
    rw [named]
    exact isFound
  refine ⟨(mode_of_parseConfig parsed).1, ?_, stored, fun item member name same => ?_,
    fun name desc describes => ?_, fun item member item' member' same => ?_,
    fun item member it contained => ?_⟩
  · cases caseSensitive with
    | false => exact (consistent_of_parseConfig parsed).total
    | true => exact fun name => ⟨_, getParamDesc_of_caseSensitive parsed name⟩
  · obtain ⟨desc, isStored, completes⟩ := stored item member
    obtain ⟨isDeclared, named⟩ := declares _ desc isStored
    rw [← named] at same
    exact ⟨desc, (describes_iff_of_parseConfig parsed).mpr ⟨isDeclared, same⟩, completes⟩
  · obtain ⟨isDeclared, same⟩ := (describes_iff_of_parseConfig parsed).mp describes
    obtain ⟨item, member, _, completes⟩ := found desc.name desc isDeclared
    rw [completes.name] at same
    exact ⟨item, member, same, completes⟩
  · obtain ⟨desc, isStored, completes⟩ := stored item member
    obtain ⟨desc', isStored', completes'⟩ := stored item' member'
    obtain ⟨isDeclared, named⟩ := declares _ desc isStored
    obtain ⟨isDeclared', named'⟩ := declares _ desc' isStored'
    rw [← named, ← named'] at same
    apply unique item member item' member'
    rw [← named, ← named', declared_unique parsed isDeclared isDeclared' same]
  · obtain ⟨desc, isFound, contains⟩ := has item member it contained
    obtain ⟨other, memberOther, isNamed, completes⟩ := found _ desc isFound
    refine ⟨other, memberOther, isNamed, fun name desc' same describes' => ?_⟩
    obtain ⟨isDeclared', same'⟩ := (describes_iff_of_parseConfig parsed).mp describes'
    rw [← completes.name] at same
    rw [declared_unique parsed isDeclared' (declares _ desc isFound).1 (same'.trans same.symm)]
    exact contains

end

end StoredQueryConfig

end SmartMetWfs.Parameters
