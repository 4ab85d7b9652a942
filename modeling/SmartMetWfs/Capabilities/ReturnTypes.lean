import SmartMetWfs.Core.Decimal
import SmartMetWfs.Foundation.OrderedMap
import SmartMetWfs.Foundation.Outcomes

/-!
# Return types of described stored queries

`DescribeStoredQueries` prints the feature types that a stored query returns with prefixes of
its own making, and declares each prefix once, for a namespace. A client that looks up the
prefix of a printed name finds the namespace and the type of the feature, however many
namespaces there are.
-/

namespace SmartMetWfs.Capabilities

open Foundation

/-- `WfsFeatureDef`, less its title and abstract. -/
structure FeatureDef where
  name : ByteString
  xmlType : ByteString
  xmlNamespace : ByteString
  xmlNamespaceLoc : Option ByteString
  hidden : Bool
  defaultCrs : ByteString
  otherCrs : List ByteString
  deriving DecidableEq

/-- The features that `find_feature` finds, by their names. -/
abbrev Features := OrderedMap ByteString FeatureDef

/-- Why a listing fails. -/
inductive ListingError
  | noHandler (name : ByteString)
  | featureNotFound (name : ByteString)
  | outOfRange
  deriving DecidableEq

/-- A namespace with its prefix. -/
structure NamespaceDef where
  nsPrefix : ByteString
  ns : ByteString
  nsLoc : Option ByteString
  deriving DecidableEq

/-- A number in three digits at least. -/
def threeDigits (number : Nat) : ByteString :=
  List.replicate (3 - (decimal number).length) 48 ++ decimal number

/-- `format("wfs_%03u")`. -/
def namespacePrefix (number : Nat) : ByteString := ascii "wfs_" ++ threeDigits number

/-- What `set_namespace_defs` sets, and its local variables. -/
structure NamespaceDefs where
  defs : List NamespaceDef
  nsMap : OrderedMap ByteString ByteString
  haveNsLoc : Bool

section

variable (features : Features)

/-- The namespace of one more return type. -/
def addNamespaceDef (state : NamespaceDefs) (name : ByteString) :
    Except ListingError NamespaceDefs :=
  match features.find name with
  | none => .error (.featureNotFound name)
  | some feature =>
      let ns := feature.xmlNamespace
      if (state.nsMap.find ns).isSome then .ok state
      else
        let ind := state.nsMap.entries.length
        let nsPrefix := namespacePrefix (1 + ind)
        .ok {
          defs := state.defs ++ [⟨nsPrefix, ns, feature.xmlNamespaceLoc⟩]
          nsMap := state.nsMap.set ns nsPrefix
          haveNsLoc := state.haveNsLoc || feature.xmlNamespaceLoc.isSome }

/-- `set_namespace_defs`. -/
def setNamespaceDefs (returnTypes : List ByteString) : Except ListingError NamespaceDefs :=
  returnTypes.foldlM (addNamespaceDef features) ⟨[], .empty, false⟩

/-- The name of one return type with its prefix. -/
def prefixedType (nsMap : OrderedMap ByteString ByteString) (name : ByteString) :
    Except ListingError ByteString :=
  match features.find name with
  | none => .error (.featureNotFound name)
  | some feature =>
      match nsMap.find feature.xmlNamespace with
      | none => .error .outOfRange
      | some nsPrefix => .ok (nsPrefix ++ 58 :: feature.xmlType)

/-- What is set of the return types of a stored query. -/
structure DescribedTypes where
  namespaceDefs : List NamespaceDef
  haveNamespaceLoc : Bool
  returnTypes : List ByteString
  deriving DecidableEq

/-- `set_namespace_defs` and `set_return_types`. -/
def describeTypes (returnTypes : List ByteString) : Except ListingError DescribedTypes := do
  let namespaces ← setNamespaceDefs features returnTypes
  let names ← returnTypes.mapM (prefixedType features namespaces.nsMap)
  return ⟨namespaces.defs, namespaces.haveNsLoc, names⟩

end

/-- What a printed name means under declarations of prefixes. -/
def resolveName (defs : List NamespaceDef) (printed : ByteString) :
    Option (ByteString × ByteString) :=
  let nsPrefix := printed.takeWhile (· ≠ 58)
  (defs.find? fun declared => declared.nsPrefix = nsPrefix).map fun declared =>
    (declared.ns, printed.drop (nsPrefix.length + 1))

/-! ### Prefixes -/

/-- The value of digits does not change when zeros stand before them. -/
theorem ofDigitChars_zeros (count : Nat) (digits : List Char) :
    Nat.ofDigitChars 10 (List.replicate count '0' ++ digits) 0 = Nat.ofDigitChars 10 digits 0 := by
  induction count with
  | zero => rfl
  | succ count ih => exact ih

/-- Different numbers have different digits. -/
theorem threeDigits_injective : Function.Injective threeDigits := by
  have readBack : ∀ number, Nat.ofDigitChars 10
      ((threeDigits number).map fun byte => Char.ofNat byte.toNat) 0 = number := by
    intro number
    rw [threeDigits, List.map_append, List.map_replicate]
    exact (ofDigitChars_zeros _ _).trans (ofDigitChars_decimal number)
  intro first second same
  rw [← readBack first, same, readBack second]

/-- Only digits are written. -/
theorem threeDigits_digit {number : Nat} {byte : UInt8} (member : byte ∈ threeDigits number) :
    48 ≤ byte.toNat ∧ byte.toNat ≤ 57 := by
  rcases List.mem_append.mp member with zero | digit
  · rw [List.eq_of_mem_replicate zero]
    decide
  · exact decimal_digit digit

/-- Different numbers have different prefixes. -/
theorem namespacePrefix_injective : Function.Injective namespacePrefix := fun _ _ same =>
  threeDigits_injective (List.append_cancel_left same)

/-- There is no colon in a prefix. -/
theorem colon_not_mem_namespacePrefix (number : Nat) : 58 ∉ namespacePrefix number := by
  intro member
  rcases List.mem_append.mp member with letters | digits
  · revert letters
    decide
  · have := (threeDigits_digit digits).2
    exact absurd this (by decide)

/-! ### Declarations -/

section

variable {features : Features}

/-- A namespace of a registered feature among the names. -/
def NamespaceOf (features : Features) (names : List ByteString) (ns : ByteString)
    (nsLoc : Option ByteString) : Prop :=
  ∃ name ∈ names, ∃ feature, features.find name = some feature ∧ feature.xmlNamespace = ns ∧
    feature.xmlNamespaceLoc = nsLoc

/-- The namespace of a name stays with more names. -/
theorem NamespaceOf.more {names : List ByteString} {ns : ByteString} {nsLoc : Option ByteString}
    (isNamespace : NamespaceOf features names ns nsLoc) (name : ByteString) :
    NamespaceOf features (names ++ [name]) ns nsLoc := by
  obtain ⟨other, member, found⟩ := isNamespace
  exact ⟨other, List.mem_append_left _ member, found⟩

/-- What holds of the definitions after so many return types. -/
structure Declares (features : Features) (names : List ByteString) (state : NamespaceDefs) :
    Prop where
  numbered : state.defs.map NamespaceDef.nsPrefix =
    (List.range' 1 state.defs.length).map namespacePrefix
  listed : ∀ ns nsPrefix, state.nsMap.find ns = some nsPrefix ↔
    ∃ declared ∈ state.defs, declared.ns = ns ∧ declared.nsPrefix = nsPrefix
  once : (state.defs.map NamespaceDef.ns).Nodup
  used : ∀ declared ∈ state.defs, NamespaceOf features names declared.ns declared.nsLoc
  complete : ∀ ns nsLoc, NamespaceOf features names ns nsLoc →
    ns ∈ state.defs.map NamespaceDef.ns
  located : state.haveNsLoc = state.defs.any fun declared => declared.nsLoc.isSome

/-- Without names no namespace is declared. -/
theorem declares_nothing : Declares features [] ⟨[], .empty, false⟩ where
  numbered := rfl
  listed _ _ := ⟨nofun, fun ⟨_, member, _⟩ => absurd member List.not_mem_nil⟩
  once := .nil
  used _ member := absurd member List.not_mem_nil
  complete _ _ := fun ⟨_, member, _⟩ => absurd member List.not_mem_nil
  located := rfl

/-- A namespace has a prefix when it is declared. -/
theorem Declares.find_isSome {names : List ByteString} {state : NamespaceDefs}
    (declares : Declares features names state) (ns : ByteString) :
    (state.nsMap.find ns).isSome ↔ ns ∈ state.defs.map NamespaceDef.ns := by
  rw [Option.isSome_iff_exists, List.mem_map]
  constructor
  · intro ⟨nsPrefix, found⟩
    obtain ⟨declared, member, sameNs, _⟩ := (declares.listed ns nsPrefix).mp found
    exact ⟨declared, member, sameNs⟩
  · intro ⟨declared, member, sameNs⟩
    exact ⟨declared.nsPrefix, (declares.listed ns _).mpr ⟨declared, member, sameNs, rfl⟩⟩

/-- There are as many namespaces as definitions. -/
theorem Declares.length_entries {names : List ByteString} {state : NamespaceDefs}
    (declares : Declares features names state) :
    state.nsMap.entries.length = state.defs.length := by
  have sameMembers : ∀ ns, ns ∈ state.nsMap.keys ↔ ns ∈ state.defs.map NamespaceDef.ns := by
    intro ns
    rw [← declares.find_isSome, OrderedMap.mem_keys]
    exact Option.isSome_iff_exists.symm
  have same := ((List.perm_ext_iff_of_nodup state.nsMap.nodup_keys declares.once).mpr
    sameMembers).length_eq
  rwa [OrderedMap.keys, List.length_map, List.length_map] at same

/-- The namespaces of the names with one more. -/
theorem NamespaceOf.cases {names : List ByteString} {name ns : ByteString}
    {nsLoc : Option ByteString} {feature : FeatureDef} (found : features.find name = some feature)
    (isNamespace : NamespaceOf features (names ++ [name]) ns nsLoc) :
    NamespaceOf features names ns nsLoc ∨ feature.xmlNamespace = ns := by
  obtain ⟨other, member, feature', found', sameNs, sameLoc⟩ := isNamespace
  rcases List.mem_append.mp member with old | last
  · exact .inl ⟨other, old, feature', found', sameNs, sameLoc⟩
  · rw [List.mem_singleton.mp last] at found'
    cases found.symm.trans found'
    exact .inr sameNs

/-- A return type whose namespace has its prefix already. -/
theorem Declares.repeated {names : List ByteString} {state : NamespaceDefs}
    (declares : Declares features names state) {name : ByteString} {feature : FeatureDef}
    (found : features.find name = some feature)
    (known : (state.nsMap.find feature.xmlNamespace).isSome) :
    Declares features (names ++ [name]) state where
  numbered := declares.numbered
  listed := declares.listed
  once := declares.once
  used declared member := (declares.used declared member).more name
  complete ns nsLoc isNamespace := by
    rcases isNamespace.cases found with old | rfl
    · exact declares.complete ns nsLoc old
    · exact (declares.find_isSome _).mp known
  located := declares.located

/-- A return type of a namespace of its own. -/
theorem Declares.fresh {names : List ByteString} {state : NamespaceDefs}
    (declares : Declares features names state) {name : ByteString} {feature : FeatureDef}
    (found : features.find name = some feature)
    (unknown : ¬ (state.nsMap.find feature.xmlNamespace).isSome) :
    Declares features (names ++ [name]) {
      defs := state.defs ++ [⟨namespacePrefix (1 + state.nsMap.entries.length),
        feature.xmlNamespace, feature.xmlNamespaceLoc⟩]
      nsMap := state.nsMap.set feature.xmlNamespace
        (namespacePrefix (1 + state.nsMap.entries.length))
      haveNsLoc := state.haveNsLoc || feature.xmlNamespaceLoc.isSome } := by
  have isNew : feature.xmlNamespace ∉ state.defs.map NamespaceDef.ns := fun member =>
    unknown ((declares.find_isSome _).mpr member)
  refine ⟨?_, ?_, ?_, ?_, ?_, ?_⟩
  · simp only [List.map_append, List.length_append, declares.numbered, List.map_cons,
      List.map_nil, List.length_cons, List.length_nil, List.range'_1_concat,
      declares.length_entries]
  · intro ns nsPrefix
    have last : ∀ declared ∈ state.defs, declared.ns = ns → ns ≠ feature.xmlNamespace := by
      intro declared member sameNs sameNew
      apply isNew
      rw [← sameNew, ← sameNs]
      exact List.mem_map_of_mem member
    simp only [List.mem_append, or_and_right, exists_or, List.mem_singleton, exists_eq_left,
      ← declares.listed]
    rw [OrderedMap.find_set]
    split
    · next same =>
        have unlisted : state.nsMap.find ns ≠ some nsPrefix := by
          intro listed
          obtain ⟨declared, member, sameNs, _⟩ := (declares.listed ns nsPrefix).mp listed
          exact last declared member sameNs same
        rw [or_iff_right unlisted, Option.some.injEq, and_iff_right same.symm]
    · next other =>
        exact (or_iff_left fun both => other both.1.symm).symm
  · rw [List.map_append]
    exact List.concat_eq_append ▸ declares.once.concat isNew
  · intro declared member
    rcases List.mem_append.mp member with old | last
    · exact (declares.used declared old).more name
    · rw [List.mem_singleton.mp last]
      exact ⟨name, List.mem_append_right _ List.mem_cons_self, feature, found, rfl, rfl⟩
  · intro ns nsLoc isNamespace
    rw [List.map_append]
    rcases isNamespace.cases found with old | rfl
    · exact List.mem_append_left _ (declares.complete ns nsLoc old)
    · exact List.mem_append_right _ List.mem_cons_self
  · rw [List.any_append, ← declares.located]
    simp

/-- A feature that is not there, and is the first such. -/
def Unregistered (features : Features) (names : List ByteString) (failure : ListingError) : Prop :=
  ∃ before name after, names = before ++ name :: after ∧
    (∀ earlier ∈ before, (features.find earlier).isSome) ∧ features.find name = none ∧
    failure = .featureNotFound name

/-- The namespace of a known name is declared. -/
theorem addNamespaceDef_meets {names : List ByteString} {state : NamespaceDefs}
    (declares : Declares features names state) (name : ByteString) :
    Meets (fun failure => features.find name = none ∧ failure = .featureNotFound name)
      (addNamespaceDef features state name) fun next =>
        (features.find name).isSome ∧ Declares features (names ++ [name]) next := by
  unfold addNamespaceDef
  cases found : features.find name with
  | none => exact ⟨rfl, rfl⟩
  | some feature =>
      dsimp only
      split
      · next known => exact ⟨rfl, declares.repeated found known⟩
      · next unknown => exact ⟨rfl, declares.fresh found unknown⟩

/-- The namespaces of known names are declared. -/
theorem setNamespaceDefs_meets (names : List ByteString) :
    Meets (Unregistered features names) (setNamespaceDefs features names) fun state =>
      (∀ name ∈ names, (features.find name).isSome) ∧ Declares features names state := by
  apply Meets.foldlM (fun done state =>
    (∀ name ∈ done, (features.find name).isSome) ∧ Declares features done state)
  · exact ⟨fun _ member => absurd member List.not_mem_nil, declares_nothing⟩
  · intro done name rest state split ⟨registered, declares⟩
    have meets := addNamespaceDef_meets declares name
    cases ran : addNamespaceDef features state name with
    | error failure =>
        rw [ran] at meets
        exact ⟨done, name, rest, split, registered, meets⟩
    | ok next =>
        rw [ran] at meets
        refine ⟨fun other member => ?_, meets.2⟩
        rcases List.mem_append.mp member with old | last
        · exact registered other old
        · rw [List.mem_singleton.mp last]
          exact meets.1

/-! ### Printed names -/

/-- The prefix is what stands before the colon. -/
theorem takeWhile_prefix {nsPrefix rest : ByteString} (colonless : 58 ∉ nsPrefix) :
    (nsPrefix ++ 58 :: rest).takeWhile (· ≠ 58) = nsPrefix := by
  rw [List.takeWhile_append_of_pos]
  · simp
  · intro byte member
    exact decide_eq_true fun isColon => colonless (isColon ▸ member)

/-- A prefix that stands once is found. -/
theorem find?_of_nodup {defs : List NamespaceDef} (once : (defs.map NamespaceDef.nsPrefix).Nodup)
    {declared : NamespaceDef} (member : declared ∈ defs) :
    defs.find? (fun other => other.nsPrefix = declared.nsPrefix) = some declared := by
  cases located : defs.find? fun other => other.nsPrefix = declared.nsPrefix with
  | none =>
      have differs := List.find?_eq_none.mp located declared member
      exact absurd (decide_eq_true rfl) differs
  | some other =>
      have samePrefix : other.nsPrefix = declared.nsPrefix := by
        simpa using List.find?_some located
      exact congrArg some (List.inj_on_of_nodup_map once (List.mem_of_find?_eq_some located)
        member samePrefix)

/-- No prefix is declared twice. -/
theorem Declares.nodup_prefixes {names : List ByteString} {state : NamespaceDefs}
    (declares : Declares features names state) :
    (state.defs.map NamespaceDef.nsPrefix).Nodup := by
  rw [declares.numbered]
  exact (List.nodup_range' 1).map namespacePrefix_injective

/-- A name that is printed with the prefix of its namespace means its feature. -/
theorem Declares.resolveName {names : List ByteString} {state : NamespaceDefs}
    (declares : Declares features names state) {name : ByteString} {feature : FeatureDef}
    (member : name ∈ names) (found : features.find name = some feature) :
    ∃ printed, prefixedType features state.nsMap name = .ok printed ∧
      resolveName state.defs printed = some (feature.xmlNamespace, feature.xmlType) := by
  have listed := declares.complete _ _ ⟨name, member, feature, found, rfl, rfl⟩
  obtain ⟨declared, isDeclared, sameNs⟩ := List.mem_map.mp listed
  have mapped := (declares.listed _ _).mpr ⟨declared, isDeclared, sameNs, rfl⟩
  refine ⟨declared.nsPrefix ++ 58 :: feature.xmlType, ?_, ?_⟩
  · simp only [prefixedType, found, mapped]
  · have numbered : declared.nsPrefix ∈ state.defs.map NamespaceDef.nsPrefix :=
      List.mem_map_of_mem isDeclared
    rw [declares.numbered] at numbered
    obtain ⟨number, _, isNumber⟩ := List.mem_map.mp numbered
    have colonless : 58 ∉ declared.nsPrefix :=
      isNumber ▸ colon_not_mem_namespacePrefix number
    rw [Capabilities.resolveName, takeWhile_prefix colonless,
      find?_of_nodup declares.nodup_prefixes isDeclared, Option.map_some, sameNs]
    simp

/-- The declared prefixes give each printed name its feature; the description fails only at a
return type that is no feature. -/
theorem describeTypes_resolve (names : List ByteString) :
    Meets (Unregistered features names) (describeTypes features names) fun described =>
      (described.namespaceDefs.map NamespaceDef.nsPrefix).Nodup ∧
      (described.namespaceDefs.map NamespaceDef.ns).Nodup ∧
      (∀ ns, ns ∈ described.namespaceDefs.map NamespaceDef.ns ↔
        ∃ nsLoc, NamespaceOf features names ns nsLoc) ∧
      (described.haveNamespaceLoc = true ↔
        ∃ declared ∈ described.namespaceDefs, declared.nsLoc.isSome) ∧
      List.Forall₂ (fun name printed => ∃ feature, features.find name = some feature ∧
        resolveName described.namespaceDefs printed =
          some (feature.xmlNamespace, feature.xmlType)) names described.returnTypes := by
  refine (setNamespaceDefs_meets names).bind fun state ⟨registered, declares⟩ => ?_
  have printed : ∀ name ∈ names, ∃ feature, features.find name = some feature ∧
      ∃ printed, prefixedType features state.nsMap name = .ok printed ∧
        resolveName state.defs printed = some (feature.xmlNamespace, feature.xmlType) := by
    intro name member
    obtain ⟨feature, found⟩ := Option.isSome_iff_exists.mp (registered name member)
    exact ⟨feature, found, declares.resolveName member found⟩
  cases ran : names.mapM (prefixedType features state.nsMap) with
  | error failure =>
      obtain ⟨name, member, failure', fails⟩ := mapM_fails_iff.mp ⟨failure, ran⟩
      obtain ⟨_, _, result, succeeds, _⟩ := printed name member
      exact nomatch fails.symm.trans succeeds
  | ok results =>
      refine ⟨declares.nodup_prefixes, declares.once, fun ns => ?_, ?_, ?_⟩
      · constructor
        · intro member
          obtain ⟨declared, isDeclared, rfl⟩ := List.mem_map.mp member
          exact ⟨_, declares.used declared isDeclared⟩
        · intro ⟨nsLoc, isNamespace⟩
          exact declares.complete ns nsLoc isNamespace
      · rw [declares.located]
        exact List.any_eq_true
      · apply ((List.forall₂_and_left _ _).mpr
          ⟨fun _ member => member, forall₂_of_mapM ran⟩).imp
        intro name result ⟨member, isResult⟩
        obtain ⟨feature, found, other, isOther, resolved⟩ := printed name member
        cases isResult.symm.trans isOther
        exact ⟨feature, found, resolved⟩

end

end SmartMetWfs.Capabilities
