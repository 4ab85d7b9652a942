import SmartMetWfs.Core.ByteString
import SmartMetWfs.Foundation.OrderedMap

/-!
# Parameter descriptions of a stored query

`StoredQueryConfig::parse_config` collects the parameter descriptions of a stored query
under their names. In case-insensitive mode a second map leads from the lower-case
spelling of a name to the configured one. A conflict between two parameters may be
configured on either side; the check of the conflicts adds the other side.

What the check guarantees is collected in `Consistent`: a parameter conflicts with
declared parameters only, not with itself, and not with a mandatory one when it is
mandatory itself.
-/

namespace SmartMetWfs.Parameters

open Foundation

/-- `StoredQueryParamDef::ValueType`. -/
inductive ValueType
  | undefined
  | string
  | int
  | uint
  | double
  | time
  | bool
  | point
  | bbox
  deriving DecidableEq

/-- The type of a parameter, and the sizes of an array. -/
structure StoredQueryParamDef where
  valueType : ValueType
  isArray : Bool
  minSize : Nat
  maxSize : Nat

/-- `StoredQueryConfig::ParamDesc`, less what is only shown to users. -/
structure ParamDesc (ν : Type) where
  name : ByteString
  minOccurs : Int
  maxOccurs : Int
  paramDef : StoredQueryParamDef
  lowerLimit : Option ν
  upperLimit : Option ν
  conflictsWith : OrderedSet ByteString

/-- The parameters of a stored query; `caseMap` is empty in case-sensitive mode. -/
structure StoredQueryConfig (ν : Type) where
  useCaseSensitiveParams : Bool
  paramMap : OrderedMap ByteString (ParamDesc ν)
  caseMap : OrderedMap ByteString ByteString

variable {ν : Type}

namespace ParamDesc

/-- The parameter has a limit although its type has no order. -/
def hasBadLimits (desc : ParamDesc ν) : Bool :=
  (desc.upperLimit.isSome || desc.lowerLimit.isSome) &&
    (desc.paramDef.valueType = .undefined || desc.paramDef.valueType = .string ||
      desc.paramDef.valueType = .bool)

/-- One more name that the parameter conflicts with. -/
def addConflict (desc : ParamDesc ν) (name : ByteString) : ParamDesc ν :=
  { desc with conflictsWith := OrderedSet.insert name desc.conflictsWith }

/-- The parameter without its conflicts. -/
def withoutConflicts (desc : ParamDesc ν) : ParamDesc ν :=
  { desc with conflictsWith := .empty }

/-- A parameter of this name is forbidden once this one has been given. -/
def Forbids (desc : ParamDesc ν) (name : ByteString) : Prop :=
  ∃ it, desc.conflictsWith.contains it = true ∧ asciiTolowerCopy it = name

end ParamDesc

namespace StoredQueryConfig

/-- The configuration before its first parameter. -/
def initial (useCaseSensitiveParams : Bool) : StoredQueryConfig ν :=
  ⟨useCaseSensitiveParams, .empty, .empty⟩

/-- `parse_param_desc` and the insertion of its result. -/
def addParamDesc (config : StoredQueryConfig ν) (item : ParamDesc ν) :
    Option (StoredQueryConfig ν) :=
  let lcName := asciiTolowerCopy item.name
  if !config.useCaseSensitiveParams && (config.caseMap.find lcName).isSome then none
  else if item.hasBadLimits then none
  else if (config.paramMap.find item.name).isSome then none
  else some { config with
    paramMap := config.paramMap.set item.name item
    caseMap := if config.useCaseSensitiveParams then config.caseMap
      else config.caseMap.set lcName item.name }

/-- One conflict of the description that stands under the name: whether there has been
an error, and the descriptions. -/
def checkConflict (name : ByteString) (desc : ParamDesc ν)
    (state : Bool × OrderedMap ByteString (ParamDesc ν)) (it : ByteString) :
    Bool × OrderedMap ByteString (ParamDesc ν) :=
  let n2 := asciiTolowerCopy it
  match state.2.find n2 with
  | none => (true, state.2)
  | some desc2 =>
      (state.1 || n2 = name || (0 < desc.minOccurs && 0 < desc2.minOccurs),
        state.2.set n2 (desc2.addConflict desc.name))

/-- All conflicts of the description that stands under the name. A description that
conflicts with itself grows while it is gone through, but then there is an error
anyway. -/
def checkConflictsOf (state : Bool × OrderedMap ByteString (ParamDesc ν)) (name : ByteString) :
    Bool × OrderedMap ByteString (ParamDesc ν) :=
  match state.2.find name with
  | none => state
  | some desc => desc.conflictsWith.keys.foldl (checkConflict name desc) state

/-- `check_param_conflicts`. -/
def checkParamConflicts (paramMap : OrderedMap ByteString (ParamDesc ν)) :
    Bool × OrderedMap ByteString (ParamDesc ν) :=
  paramMap.keys.foldl checkConflictsOf (false, paramMap)

/-- `parse_config`, from the descriptions that have been read. -/
def parseConfig (useCaseSensitiveParams : Bool) (items : List (ParamDesc ν)) :
    Option (StoredQueryConfig ν) := do
  let config ← items.foldlM addParamDesc (initial useCaseSensitiveParams)
  let (haveError, paramMap) := checkParamConflicts config.paramMap
  if haveError then none else some { config with paramMap }

/-- `get_param_desc`; the error is an internal one. -/
def getParamDesc (config : StoredQueryConfig ν) (name : ByteString) :
    Except ByteString (Option (ParamDesc ν)) :=
  if config.caseMap.entries = [] then .ok (config.paramMap.find name)
  else
    match config.caseMap.find (asciiTolowerCopy name) with
    | none => .ok none
    | some realName =>
        match config.paramMap.find realName with
        | none => .error realName
        | some desc => .ok (some desc)

/-- The description is one of the configuration's. -/
def Declares (config : StoredQueryConfig ν) (desc : ParamDesc ν) : Prop :=
  config.paramMap.find desc.name = some desc

/-- What a parsed configuration in case-insensitive mode guarantees. -/
structure Consistent (config : StoredQueryConfig ν) : Prop where
  insensitive : config.useCaseSensitiveParams = false
  named : ∀ name desc, config.paramMap.find name = some desc → desc.name = name
  caseMap : ∀ lower name, config.caseMap.find lower = some name ↔
    lower = asciiTolowerCopy name ∧ ∃ desc, config.paramMap.find name = some desc
  conflicts : ∀ desc, config.Declares desc → ∀ name, desc.Forbids name →
    ∃ other, config.Declares other ∧ asciiTolowerCopy other.name = asciiTolowerCopy name ∧
      other.name ≠ desc.name ∧ ¬ (0 < desc.minOccurs ∧ 0 < other.minOccurs)

end StoredQueryConfig

/-! ### Reading the descriptions -/

namespace StoredQueryConfig

/-- The two maps describe the same parameters. -/
structure Indexed (config : StoredQueryConfig ν) : Prop where
  named : ∀ name desc, config.paramMap.find name = some desc → desc.name = name
  caseMap : ∀ lower name, config.caseMap.find lower = some name ↔
    lower = asciiTolowerCopy name ∧ ∃ desc, config.paramMap.find name = some desc

/-- It is indexed. -/
theorem indexed_initial : (initial false : StoredQueryConfig ν).Indexed where
  named name desc found := by cases found
  caseMap lower name := by
    constructor
    · nofun
    · intro ⟨_, desc, found⟩
      cases found

/-- What adding a description that is accepted does. -/
theorem addParamDesc_some {config after : StoredQueryConfig ν} {item : ParamDesc ν}
    (added : config.addParamDesc item = some after) :
    config.paramMap.find item.name = none ∧
      after.paramMap = config.paramMap.set item.name item ∧
      after.useCaseSensitiveParams = config.useCaseSensitiveParams ∧
      (config.useCaseSensitiveParams = true → after.caseMap = config.caseMap) ∧
      (config.useCaseSensitiveParams = false →
        config.caseMap.find (asciiTolowerCopy item.name) = none ∧
          after.caseMap = config.caseMap.set (asciiTolowerCopy item.name) item.name) := by
  unfold addParamDesc at added
  dsimp only at added
  split at added
  · cases added
  · next freshCase =>
      split at added
      · cases added
      · split at added
        · cases added
        · next fresh =>
            cases added
            refine ⟨by simpa using fresh, rfl, rfl, fun sensitive => if_pos sensitive,
              fun insensitive => ⟨?_, if_neg (by simp [insensitive])⟩⟩
            simpa [insensitive] using freshCase

/-- One more parameter keeps the index. -/
theorem Indexed.addParamDesc {config after : StoredQueryConfig ν} {item : ParamDesc ν}
    (indexed : config.Indexed) (insensitive : config.useCaseSensitiveParams = false)
    (added : config.addParamDesc item = some after) :
    after.Indexed ∧ after.useCaseSensitiveParams = false := by
  obtain ⟨_, paramMap, sameMode, _, cased⟩ := addParamDesc_some added
  obtain ⟨freshCase, caseMap⟩ := cased insensitive
  have unused : ∀ name desc, config.paramMap.find name = some desc →
      asciiTolowerCopy name ≠ asciiTolowerCopy item.name := by
    intro name desc found same
    have taken := (indexed.caseMap _ name).mpr ⟨rfl, desc, found⟩
    rw [same, freshCase] at taken
    cases taken
  refine ⟨⟨fun name desc found => ?_, fun lower name => ?_⟩, sameMode.trans insensitive⟩
  · rw [paramMap, OrderedMap.find_set] at found
    split at found
    · next same =>
        cases found
        exact same.symm
    · exact indexed.named name desc found
  · rw [caseMap, paramMap, OrderedMap.find_set, OrderedMap.find_set]
    by_cases sameLower : lower = asciiTolowerCopy item.name
    · rw [if_pos sameLower]
      constructor
      · rintro ⟨rfl⟩
        exact ⟨sameLower, item, by rw [if_pos rfl]⟩
      · intro ⟨lowered, desc, found⟩
        split at found
        · next same => rw [same]
        · exact absurd (lowered.symm.trans sameLower) (unused name desc found)
    · rw [if_neg sameLower, indexed.caseMap lower name]
      constructor
      · intro ⟨lowered, desc, found⟩
        refine ⟨lowered, desc, ?_⟩
        rw [if_neg, found]
        rintro rfl
        exact sameLower lowered
      · intro ⟨lowered, desc, found⟩
        split at found
        · next same =>
            rw [same] at lowered
            exact absurd lowered sameLower
        · exact ⟨lowered, desc, found⟩

/-- All parameters that are added keep the index. -/
theorem indexed_of_fold {items : List (ParamDesc ν)} {start after : StoredQueryConfig ν}
    (indexed : start.Indexed) (insensitive : start.useCaseSensitiveParams = false)
    (folded : items.foldlM addParamDesc start = some after) :
    after.Indexed ∧ after.useCaseSensitiveParams = false := by
  induction items generalizing start with
  | nil =>
      cases folded
      exact ⟨indexed, insensitive⟩
  | cons item items ih =>
      rw [List.foldlM_cons] at folded
      obtain ⟨middle, added, rest⟩ := Option.bind_eq_some_iff.mp folded
      obtain ⟨indexedMiddle, insensitiveMiddle⟩ := indexed.addParamDesc insensitive added
      exact ih indexedMiddle insensitiveMiddle rest

end StoredQueryConfig

/-! ### The check of the conflicts -/

namespace StoredQueryConfig

variable {start before after : OrderedMap ByteString (ParamDesc ν)}

/-- The descriptions differ in their conflicts only. -/
def SameButConflicts (start after : OrderedMap ByteString (ParamDesc ν)) : Prop :=
  ∀ name, (after.find name).map ParamDesc.withoutConflicts =
    (start.find name).map ParamDesc.withoutConflicts

/-- What is found now was there before. -/
theorem SameButConflicts.found (same : SameButConflicts start after) {name : ByteString}
    {desc : ParamDesc ν} (found : after.find name = some desc) :
    ∃ old, start.find name = some old ∧ old.name = desc.name ∧ old.minOccurs = desc.minOccurs := by
  have image := same name
  rw [found] at image
  obtain ⟨old, foundOld, sameRest⟩ := Option.map_eq_some_iff.mp image.symm
  have sameName : old.name = desc.name := (congrArg ParamDesc.name sameRest :)
  have sameMin : old.minOccurs = desc.minOccurs := (congrArg ParamDesc.minOccurs sameRest :)
  exact ⟨old, foundOld, sameName, sameMin⟩

/-- What was there before is found now. -/
theorem SameButConflicts.found_of_start (same : SameButConflicts start after) {name : ByteString}
    {old : ParamDesc ν} (found : start.find name = some old) :
    ∃ desc, after.find name = some desc ∧ old.name = desc.name ∧
      old.minOccurs = desc.minOccurs := by
  have image := same name
  rw [found] at image
  obtain ⟨desc, foundNew, sameRest⟩ := Option.map_eq_some_iff.mp image
  have sameName : desc.name = old.name := (congrArg ParamDesc.name sameRest :)
  have sameMin : desc.minOccurs = old.minOccurs := (congrArg ParamDesc.minOccurs sameRest :)
  exact ⟨desc, foundNew, sameName.symm, sameMin.symm⟩

/-- One more conflict changes nothing else. -/
theorem SameButConflicts.addConflict (same : SameButConflicts start after) {name : ByteString}
    {desc : ParamDesc ν} (found : after.find name = some desc) (added : ByteString) :
    SameButConflicts start (after.set name (desc.addConflict added)) := by
  intro other
  rw [OrderedMap.find_set]
  split
  · next isName =>
      rw [← same other, isName, found]
      rfl
  · exact same other

/-- The conflict is with another declared parameter, and one of the two is optional. -/
def Proper (start : OrderedMap ByteString (ParamDesc ν)) (name it : ByteString) : Prop :=
  ∃ desc other otherDesc, start.find name = some desc ∧ start.find other = some otherDesc ∧
    asciiTolowerCopy other = asciiTolowerCopy it ∧ other ≠ name ∧
    ¬ (0 < desc.minOccurs ∧ 0 < otherDesc.minOccurs)

/-- An error of a conflict stays. -/
theorem checkConflict_error (name : ByteString) (desc : ParamDesc ν)
    (state : Bool × OrderedMap ByteString (ParamDesc ν)) (it : ByteString)
    (fine : (checkConflict name desc state it).1 = false) : state.1 = false := by
  unfold checkConflict at fine
  dsimp only at fine
  split at fine
  · cases fine
  · rw [Bool.or_eq_false_iff, Bool.or_eq_false_iff] at fine
    exact fine.1.1

/-- An error of any conflict of a parameter stays. -/
theorem foldl_checkConflict_error (name : ByteString) (desc : ParamDesc ν) (its : List ByteString)
    (state : Bool × OrderedMap ByteString (ParamDesc ν))
    (fine : (its.foldl (checkConflict name desc) state).1 = false) : state.1 = false := by
  induction its generalizing state with
  | nil => exact fine
  | cons it its ih => exact checkConflict_error name desc state it (ih _ fine)

/-- An error of a parameter stays. -/
theorem checkConflictsOf_error (state : Bool × OrderedMap ByteString (ParamDesc ν))
    (name : ByteString) (fine : (checkConflictsOf state name).1 = false) : state.1 = false := by
  unfold checkConflictsOf at fine
  split at fine
  · exact fine
  · exact foldl_checkConflict_error _ _ _ _ fine

/-- An error of any parameter stays. -/
theorem foldl_checkConflictsOf_error (names : List ByteString)
    (state : Bool × OrderedMap ByteString (ParamDesc ν))
    (fine : (names.foldl checkConflictsOf state).1 = false) : state.1 = false := by
  induction names generalizing state with
  | nil => exact fine
  | cons name names ih => exact checkConflictsOf_error state name (ih _ fine)

/-- One conflict that is no error is proper, and so is its other side, which is added;
nothing else changes. -/
theorem checkConflict_fine {name it : ByteString} {desc : ParamDesc ν}
    (same : SameButConflicts start before) (found : before.find name = some desc)
    (named : desc.name = name) (fine : (checkConflict name desc (false, before) it).1 = false) :
    Proper start name it ∧
      SameButConflicts start (checkConflict name desc (false, before) it).2 ∧
      (checkConflict name desc (false, before) it).2.find name = some desc ∧
      ∀ other otherDesc added, (checkConflict name desc (false, before) it).2.find other =
        some otherDesc → otherDesc.conflictsWith.contains added = true →
          Proper start other added ∨ ∃ oldDesc, before.find other = some oldDesc ∧
            oldDesc.conflictsWith.contains added = true := by
  unfold checkConflict at fine ⊢
  cases target : before.find (asciiTolowerCopy it) with
  | none =>
      simp only [target] at fine
      cases fine
  | some desc2 =>
      simp only [target, Bool.false_or, Bool.or_eq_false_iff, decide_eq_false_iff_not,
        Bool.and_eq_false_iff] at fine ⊢
      obtain ⟨notSelf, optional⟩ := fine
      obtain ⟨old, foundOld, _, sameMin⟩ := same.found found
      obtain ⟨old2, foundOld2, _, sameMin2⟩ := same.found target
      have notBoth : ¬ (0 < old.minOccurs ∧ 0 < old2.minOccurs) := by
        rw [sameMin, sameMin2]
        intro ⟨first, second⟩
        rcases optional with no | no
        · exact no first
        · exact no second
      refine ⟨⟨old, _, old2, foundOld, foundOld2, asciiTolowerCopy_idempotent it, notSelf, notBoth⟩,
        same.addConflict target desc.name, ?_, ?_⟩
      · rw [OrderedMap.find_set_ne (Ne.symm notSelf), found]
      · intro other otherDesc added foundOther contained
        rw [OrderedMap.find_set] at foundOther
        split at foundOther
        · next isTarget =>
            cases foundOther
            rcases OrderedSet.contains_insert.mp contained with rfl | older
            · left
              rw [isTarget, named]
              exact ⟨old2, name, old, foundOld2, foundOld, rfl, Ne.symm notSelf,
                fun both => notBoth both.symm⟩
            · exact .inr ⟨desc2, isTarget ▸ target, older⟩
        · exact .inr ⟨otherDesc, foundOther, contained⟩

/-- When all conflicts of a parameter are fine each is. -/
theorem foldl_checkConflict_fine {name : ByteString} {desc : ParamDesc ν} (its : List ByteString)
    (same : SameButConflicts start before) (found : before.find name = some desc)
    (named : desc.name = name)
    (fine : (its.foldl (checkConflict name desc) (false, before)).1 = false) :
    (∀ it ∈ its, Proper start name it) ∧
      SameButConflicts start (its.foldl (checkConflict name desc) (false, before)).2 ∧
      (its.foldl (checkConflict name desc) (false, before)).2.find name = some desc ∧
      ∀ other otherDesc added, (its.foldl (checkConflict name desc) (false, before)).2.find other =
        some otherDesc → otherDesc.conflictsWith.contains added = true →
          Proper start other added ∨ ∃ oldDesc, before.find other = some oldDesc ∧
            oldDesc.conflictsWith.contains added = true := by
  induction its generalizing before with
  | nil => exact ⟨nofun, same, found, fun other otherDesc added foundOther contained =>
      .inr ⟨otherDesc, foundOther, contained⟩⟩
  | cons it its ih =>
      rw [List.foldl_cons] at fine ⊢
      have fineFirst := foldl_checkConflict_error name desc its _ fine
      obtain ⟨proper, sameFirst, foundFirst, first⟩ := checkConflict_fine same found named fineFirst
      have split : checkConflict name desc (false, before) it =
          (false, (checkConflict name desc (false, before) it).2) := Prod.ext fineFirst rfl
      rw [split] at fine ⊢
      obtain ⟨properRest, sameRest, foundRest, rest⟩ := ih sameFirst foundFirst fine
      refine ⟨fun other member => ?_, sameRest, foundRest,
        fun other otherDesc added foundOther contained => ?_⟩
      · rcases List.mem_cons.mp member with rfl | inRest
        · exact proper
        · exact properRest other inRest
      · rcases rest other otherDesc added foundOther contained with isProper | ⟨oldDesc, old, has⟩
        · exact .inl isProper
        · exact first other oldDesc added old has

/-- After the names have been gone through without an error, all their conflicts are
proper. -/
theorem foldl_checkConflictsOf_fine (names : List ByteString) {state} (done : List ByteString)
    (same : SameButConflicts start state.2)
    (named : ∀ name desc, start.find name = some desc → desc.name = name)
    (proper : ∀ name ∈ done, ∀ desc it, state.2.find name = some desc →
      desc.conflictsWith.contains it = true → Proper start name it)
    (fine : (names.foldl checkConflictsOf state).1 = false) :
    SameButConflicts start (names.foldl checkConflictsOf state).2 ∧
      ∀ name, name ∈ done ∨ name ∈ names → ∀ desc it,
        (names.foldl checkConflictsOf state).2.find name = some desc →
          desc.conflictsWith.contains it = true → Proper start name it := by
  induction names generalizing state done with
  | nil =>
      refine ⟨same, fun name member => ?_⟩
      rcases member with isDone | none
      · exact proper name isDone
      · cases none
  | cons first names ih =>
      rw [List.foldl_cons] at fine ⊢
      have fineFirst := foldl_checkConflictsOf_error names _ fine
      have fineBefore := checkConflictsOf_error state first fineFirst
      have next : SameButConflicts start (checkConflictsOf state first).2 ∧
          ∀ name ∈ first :: done, ∀ desc it,
            (checkConflictsOf state first).2.find name = some desc →
              desc.conflictsWith.contains it = true → Proper start name it := by
        obtain ⟨haveError, before⟩ := state
        cases fineBefore
        unfold checkConflictsOf at fineFirst ⊢
        cases found : before.find first with
        | none =>
            dsimp only
            refine ⟨same, fun name member desc it foundName contained => ?_⟩
            rcases List.mem_cons.mp member with rfl | isDone
            · cases foundName.symm.trans found
            · exact proper name isDone desc it foundName contained
        | some desc =>
            simp only [found] at fineFirst ⊢
            obtain ⟨old, foundOld, oldName, _⟩ := same.found found
            have isNamed : desc.name = first := oldName.symm.trans (named first old foundOld)
            obtain ⟨properFirst, sameFirst, foundFirst, others⟩ :=
              foldl_checkConflict_fine desc.conflictsWith.keys same found isNamed fineFirst
            refine ⟨sameFirst, fun name member nameDesc it foundName contained => ?_⟩
            rcases List.mem_cons.mp member with rfl | isDone
            · cases foundName.symm.trans foundFirst
              exact properFirst it
                (OrderedMap.mem_keys.mpr ⟨(), OrderedSet.contains_iff.mp contained⟩)
            · rcases others name nameDesc it foundName contained with isProper | ⟨oldDesc,
                found', has⟩
              · exact isProper
              · exact proper name isDone oldDesc it found' has
      obtain ⟨sameRest, properRest⟩ := ih (first :: done) next.1 next.2 fine
      refine ⟨sameRest, fun name member => properRest name ?_⟩
      rcases member with isDone | inNames
      · exact .inl (List.mem_cons_of_mem _ isDone)
      · rcases List.mem_cons.mp inNames with rfl | inRest
        · exact .inl List.mem_cons_self
        · exact .inr inRest

/-- A configuration that is parsed in case-insensitive mode is consistent. -/
theorem consistent_of_parseConfig {items : List (ParamDesc ν)} {config : StoredQueryConfig ν}
    (parsed : parseConfig false items = some config) : config.Consistent := by
  unfold parseConfig at parsed
  obtain ⟨middle, folded, checked⟩ := Option.bind_eq_some_iff.mp parsed
  obtain ⟨indexed, insensitive⟩ := indexed_of_fold indexed_initial rfl folded
  dsimp only at checked
  split at checked
  · cases checked
  · next fine =>
      cases checked
      have start : SameButConflicts middle.paramMap middle.paramMap := fun _ => rfl
      obtain ⟨same, proper⟩ := foldl_checkConflictsOf_fine middle.paramMap.keys [] start
        indexed.named nofun (Bool.not_eq_true _ ▸ fine)
      have declared : ∀ name desc, (checkParamConflicts middle.paramMap).2.find name = some desc →
          desc.name = name := by
        intro name desc found
        obtain ⟨old, foundOld, sameName, _⟩ := same.found found
        exact sameName.symm.trans (indexed.named name old foundOld)
      refine ⟨insensitive, declared, fun lower name => ?_, ?_⟩
      · rw [indexed.caseMap lower name]
        constructor
        · intro ⟨lowered, old, foundOld⟩
          obtain ⟨desc, found, _⟩ := same.found_of_start foundOld
          exact ⟨lowered, desc, found⟩
        · intro ⟨lowered, desc, found⟩
          obtain ⟨old, foundOld, _⟩ := same.found found
          exact ⟨lowered, old, foundOld⟩
      · rintro desc declares _ ⟨it, contained, rfl⟩
        obtain ⟨old, foundOld, _, sameMin⟩ := same.found declares
        obtain ⟨own, other, otherOld, foundOwn, foundOther, sameLower, distinct, optional⟩ :=
          proper desc.name (.inr (OrderedMap.mem_keys.mpr ⟨old, foundOld⟩)) desc it declares
            contained
        cases foundOwn.symm.trans foundOld
        obtain ⟨otherDesc, foundNew, otherName, otherMin⟩ := same.found_of_start foundOther
        have isOther : otherDesc.name = other := declared other otherDesc foundNew
        refine ⟨otherDesc, ?_, ?_, ?_, ?_⟩
        · unfold Declares
          rw [isOther]
          exact foundNew
        · rw [isOther, sameLower, asciiTolowerCopy_idempotent]
        · rw [isOther]
          exact distinct
        · rw [← sameMin, ← otherMin]
          exact optional

end StoredQueryConfig

end SmartMetWfs.Parameters
