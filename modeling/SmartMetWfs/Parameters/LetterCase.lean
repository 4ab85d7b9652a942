import SmartMetWfs.Parameters.StoredQuery

/-!
# The letter case of parameter names

In case-insensitive mode two requests that differ only in the letter case of their
parameter names should get the same answer. They do when no parameter with a letter
in its name can be given at all. Once such a parameter can be given, it can be given
too often: the occurrences are counted by spelling.

Whether a parameter can be given depends on the mandatory ones it conflicts with, and
here, too, the spelling counts: of two conflicting parameters the later one in the
order of the names is refused when it is spelt in lower case.
-/

namespace SmartMetWfs.Parameters

open Foundation StoredQueryConfig

variable {ν : Type}

/-- The requests differ only in the letter case of parameter names. -/
def CaseVariants (request request' : List (ByteString × ByteString)) : Prop :=
  List.Forall₂ (fun item item' => asciiTolowerCopy item.1 = asciiTolowerCopy item'.1 ∧
    item.2 = item'.2) request request'

/-- The parameter map of a request that is accepted. -/
def kvpAnswer (reader : ValueReader ν) (config : StoredQueryConfig ν)
    (request : List (ByteString × ByteString)) : Option (Multimap ByteString ν) :=
  match extractKvpParameters reader config request with
  | .ok query => some (query.params.getMap false)
  | .error _ => none

/-- Requests that differ in the case of their names only are answered alike. -/
def CaseNeverMatters (reader : ValueReader ν) (config : StoredQueryConfig ν) : Prop :=
  ∀ request request', CaseVariants request request' →
    kvpAnswer reader config request = kvpAnswer reader config request'

/-- Some text is read as a value of the parameter. -/
def CanBeRead (reader : ValueReader ν) (desc : ParamDesc ν) : Prop :=
  ∃ valueStr, (kvpValues reader desc.name valueStr desc).isSome = true

/-- The mandatory parameters can be given, and with them one whose name has a letter,
in a spelling that none of them stands against. -/
def Exposed (reader : ValueReader ν) (config : StoredQueryConfig ν) : Prop :=
  (∀ desc, config.Declares desc → 0 < desc.minOccurs →
    desc.minOccurs ≤ desc.maxOccurs ∧ CanBeRead reader desc) ∧
  ∃ desc, config.Declares desc ∧ hasLetter desc.name = true ∧ 0 < desc.maxOccurs ∧
    CanBeRead reader desc ∧ ∃ spelling, asciiTolowerCopy spelling = asciiTolowerCopy desc.name ∧
      ∀ other, config.Declares other → 0 < other.minOccurs →
        (spelling < other.name → ¬ desc.Forbids other.name) ∧
          (other.name < spelling → ¬ other.Forbids spelling)

section

variable {reader : ValueReader ν} {config : StoredQueryConfig ν}

theorem CaseVariants.symm {request request' : List (ByteString × ByteString)}
    (variants : CaseVariants request request') : CaseVariants request' request :=
  List.Forall₂.flip (variants.imp fun _ _ same => ⟨same.1.symm, same.2.symm⟩)

/-- An admissible request is answered. -/
theorem kvpAnswer_of_admissible (consistent : config.Consistent)
    {request : List (ByteString × ByteString)} (admissible : Admissible reader config request) :
    kvpAnswer reader config request =
      some ((paramsOf reader config (parameterMap request).entries).getMap false) := by
  rcases extractKvpParameters_spec consistent request with ⟨_, query, accepted, params⟩ | ⟨fails, _⟩
  · rw [kvpAnswer, accepted, ← params]
  · exact absurd admissible fails

/-- Other requests are refused. -/
theorem kvpAnswer_of_not_admissible (consistent : config.Consistent)
    {request : List (ByteString × ByteString)} (fails : ¬ Admissible reader config request) :
    kvpAnswer reader config request = none := by
  rcases extractKvpParameters_spec consistent request with ⟨admissible, _⟩ | ⟨_, error, refused⟩
  · exact absurd admissible fails
  · rw [kvpAnswer, refused]

/-! ### Requests without letters -/

variable (config) in
/-- Whether a name is that of a parameter. -/
def isKnown (name : ByteString) : Bool :=
  match config.getParamDesc name with
  | .ok (some _) => true
  | _ => false

/-- A known name has a description. -/
theorem isKnown_iff {name : ByteString} :
    isKnown config name = true ↔ ∃ desc, config.Describes name desc := by
  unfold isKnown Describes
  split
  · next desc found =>
      rw [found]
      exact ⟨fun _ => ⟨desc, rfl⟩, fun _ => rfl⟩
  · next unknown =>
      refine iff_of_false Bool.false_ne_true ?_
      rintro ⟨desc, found⟩
      exact unknown desc found

theorem isKnown_congr (consistent : config.Consistent) {name name' : ByteString}
    (same : asciiTolowerCopy name = asciiTolowerCopy name') :
    isKnown config name = isKnown config name' := by
  rw [Bool.eq_iff_iff, isKnown_iff, isKnown_iff]
  refine exists_congr fun desc => ?_
  rw [consistent.describes_iff, consistent.describes_iff, same]

/-- A known name is counted among the known ones. -/
theorem count_filter_known {name : ByteString} (known : isKnown config name = true)
    (request : List (ByteString × ByteString)) :
    ((request.filter fun item => isKnown config item.1).map Prod.fst).count name =
      (request.map Prod.fst).count name := by
  induction request with
  | nil => rfl
  | cons item rest ih =>
      by_cases same : item.1 = name
      · rw [List.filter_cons_of_pos (by rw [same]; exact known), List.map_cons, List.map_cons,
          List.count_cons, List.count_cons, ih]
      · rw [List.filter_cons]
        split
        · rw [List.map_cons, List.map_cons, List.count_cons, List.count_cons, ih]
        · rw [List.map_cons, List.count_cons_of_ne same, ih]

/-- Unknown parameters have no say in whether a request is accepted. -/
theorem admissible_filter (consistent : config.Consistent)
    (request : List (ByteString × ByteString)) :
    Admissible reader config (request.filter fun item => isKnown config item.1) ↔
      Admissible reader config request := by
  have kept : ∀ {item : ByteString × ByteString} {desc : ParamDesc ν},
      config.Describes item.1 desc →
        (item ∈ request.filter (fun item => isKnown config item.1) ↔ item ∈ request) := by
    intro item desc describes
    rw [List.mem_filter, isKnown_iff]
    exact ⟨And.left, fun member => ⟨member, desc, describes⟩⟩
  have counts : ∀ name desc, config.Describes name desc →
      ((request.filter fun item => isKnown config item.1).map Prod.fst).count name =
        (request.map Prod.fst).count name := fun name desc describes =>
    count_filter_known (isKnown_iff.mpr ⟨desc, describes⟩) request
  have known : ∀ {first second : ByteString × ByteString} {desc : ParamDesc ν},
      config.Describes first.1 desc → desc.Forbids second.1 →
        ∃ other, config.Describes second.1 other := by
    intro first second desc describes forbids
    obtain ⟨other, declares, same, _⟩ := consistent.conflicts desc
      (consistent.describes_iff.mp describes).1 second.1 forbids
    exact ⟨other, consistent.describes_iff.mpr ⟨declares, same⟩⟩
  constructor
  · intro admissible
    refine ⟨fun item member desc describes => ?_, fun item member desc describes => ?_,
      fun first memFirst second memSecond below desc describes forbids => ?_,
      fun desc declares => ?_⟩
    · exact admissible.readable item ((kept describes).mpr member) desc describes
    · rw [← counts item.1 desc describes]
      exact admissible.limited item ((kept describes).mpr member) desc describes
    · obtain ⟨other, isOther⟩ := known describes forbids
      exact admissible.compatible first ((kept describes).mpr memFirst) second
        ((kept isOther).mpr memSecond) below desc describes forbids
    · rw [← counts desc.name desc (consistent.describes_iff.mpr ⟨declares, rfl⟩)]
      exact admissible.enough desc declares
  · intro admissible
    refine ⟨fun item member desc describes => ?_, fun item member desc describes => ?_,
      fun first memFirst second memSecond => ?_, fun desc declares => ?_⟩
    · exact admissible.readable item ((kept describes).mp member) desc describes
    · rw [counts item.1 desc describes]
      exact admissible.limited item ((kept describes).mp member) desc describes
    · exact admissible.compatible first (List.mem_filter.mp memFirst).1 second
        (List.mem_filter.mp memSecond).1
    · rw [counts desc.name desc (consistent.describes_iff.mpr ⟨declares, rfl⟩)]
      exact admissible.enough desc declares

/-- Unknown parameters contribute nothing. -/
theorem paramsOf_filter (request : List (ByteString × ByteString)) :
    paramsOf reader config
      (parameterMap (request.filter fun item => isKnown config item.1)).entries =
      paramsOf reader config (parameterMap request).entries := by
  have dropped : ∀ items : List (ByteString × ByteString),
      (items.filter fun item => isKnown config item.1).flatMap (contribution reader config) =
        items.flatMap (contribution reader config) := by
    intro items
    induction items with
    | nil => rfl
    | cons item rest ih =>
        rw [List.filter_cons]
        split
        · rw [List.flatMap_cons, List.flatMap_cons, ih]
        · next unknown =>
            have nothing : contribution reader config item = [] := by
              unfold contribution
              split
              · next desc found => exact absurd (isKnown_iff.mpr ⟨desc, found⟩) unknown
              · rfl
            rw [List.flatMap_cons, nothing, ih, List.nil_append]
  unfold paramsOf parameterMap
  rw [← Multimap.insertAll_filter request (isKnown config), dropped]

/-- When the known names have no letters, the variants have the same known parameters. -/
theorem CaseVariants.known_eq (consistent : config.Consistent)
    {request request' : List (ByteString × ByteString)} (variants : CaseVariants request request')
    (caseless : ∀ item ∈ request, isKnown config item.1 = true → hasLetter item.1 = false) :
    (request.filter fun item => isKnown config item.1) =
      request'.filter fun item => isKnown config item.1 := by
  induction variants with
  | nil => rfl
  | @cons item item' rest rest' same _ ih =>
      obtain ⟨ownCaseless, restCaseless⟩ := List.forall_mem_cons.mp caseless
      rw [List.filter_cons, List.filter_cons, isKnown_congr consistent same.1, ih restCaseless]
      split
      · next known =>
          have sameName := eq_of_not_hasLetter same.1
            (ownCaseless ((isKnown_congr consistent same.1).trans known))
          rw [Prod.ext sameName same.2]
      · rfl

/-- An admissible request without letters in the known names has variants that are
answered alike. -/
theorem CaseVariants.answer_eq (consistent : config.Consistent)
    {request request' : List (ByteString × ByteString)} (variants : CaseVariants request request')
    (admissible : Admissible reader config request)
    (caseless : ∀ item ∈ request, isKnown config item.1 = true → hasLetter item.1 = false) :
    Admissible reader config request' ∧
      kvpAnswer reader config request = kvpAnswer reader config request' := by
  have known := variants.known_eq consistent caseless
  have admissible' : Admissible reader config request' := by
    rw [← admissible_filter consistent, ← known, admissible_filter consistent]
    exact admissible
  refine ⟨admissible', ?_⟩
  rw [kvpAnswer_of_admissible consistent admissible, kvpAnswer_of_admissible consistent admissible',
    ← paramsOf_filter request, ← paramsOf_filter request', known]

/-! ### Requests with letters -/

/-- A request with a letter in a known name shows that there is a parameter to worry
about. -/
theorem exposed_of_admissible (consistent : config.Consistent)
    {request : List (ByteString × ByteString)} (admissible : Admissible reader config request)
    {item : ByteString × ByteString} (member : item ∈ request)
    (known : isKnown config item.1 = true) (letter : hasLetter item.1 = true) :
    Exposed reader config := by
  have given : ∀ item ∈ request, ∀ desc, config.Describes item.1 desc → CanBeRead reader desc := by
    intro item member desc describes
    refine ⟨item.2, ?_⟩
    rw [kvpValues_congr (consistent.describes_iff.mp describes).2]
    exact admissible.readable item member desc describes
  have mandatory : ∀ desc, config.Declares desc → 0 < desc.minOccurs →
      ∃ item ∈ request, item.1 = desc.name := by
    intro desc declares positive
    have enough := admissible.enough desc declares
    have some : 0 < (request.map Prod.fst).count desc.name := by omega
    obtain ⟨item, member, same⟩ := List.mem_map.mp (List.count_pos_iff.mp some)
    exact ⟨item, member, same⟩
  obtain ⟨desc, describes⟩ := isKnown_iff.mp known
  obtain ⟨declares, same⟩ := consistent.describes_iff.mp describes
  refine ⟨fun other declaresOther positive => ?_, desc, declares, ?_, ?_,
    given item member desc describes, item.1, same.symm, fun other declaresOther positive => ?_⟩
  · obtain ⟨otherItem, otherMember, named⟩ := mandatory other declaresOther positive
    have isOther : config.Describes otherItem.1 other := by
      rw [named]
      exact consistent.describes_iff.mpr ⟨declaresOther, rfl⟩
    have limited := admissible.limited otherItem otherMember other isOther
    rw [named] at limited
    exact ⟨Int.le_trans (admissible.enough other declaresOther) limited,
      given otherItem otherMember other isOther⟩
  · rw [hasLetter_congr same]
    exact letter
  · have limited := admissible.limited item member desc describes
    have some : 0 < (request.map Prod.fst).count item.1 :=
      List.count_pos_iff.mpr (List.mem_map_of_mem member)
    omega
  · obtain ⟨otherItem, otherMember, named⟩ := mandatory other declaresOther positive
    rw [← named]
    refine ⟨fun below =>
      admissible.compatible item member otherItem otherMember below desc describes,
      fun below => admissible.compatible otherItem otherMember item member below other ?_⟩
    rw [named]
    exact consistent.describes_iff.mpr ⟨declaresOther, rfl⟩

/-- Parameters that can be read can be given as often as they are mandatory. -/
theorem exists_mandatory (descs : List (ParamDesc ν))
    (nodup : (descs.map ParamDesc.name).Nodup)
    (readable : ∀ desc ∈ descs, CanBeRead reader desc) :
    ∃ items : List (ByteString × ByteString),
      (∀ item ∈ items, ∃ desc ∈ descs, item.1 = desc.name ∧
        (kvpValues reader item.1 item.2 desc).isSome = true) ∧
      ∀ desc ∈ descs, (items.map Prod.fst).count desc.name = desc.minOccurs.toNat := by
  induction descs with
  | nil => exact ⟨[], nofun, nofun⟩
  | cons desc descs ih =>
      obtain ⟨fresh, restNodup⟩ := List.nodup_cons.mp nodup
      obtain ⟨ownReadable, restReadable⟩ := List.forall_mem_cons.mp readable
      obtain ⟨items, named, counts⟩ := ih restNodup restReadable
      obtain ⟨valueStr, isRead⟩ := ownReadable
      have absent : desc.name ∉ items.map Prod.fst := by
        intro member
        obtain ⟨item, inItems, same⟩ := List.mem_map.mp member
        obtain ⟨other, inDescs, isName, _⟩ := named item inItems
        exact fresh (List.mem_map.mpr ⟨other, inDescs, isName.symm.trans same⟩)
      refine ⟨List.replicate desc.minOccurs.toNat (desc.name, valueStr) ++ items, ?_, ?_⟩
      · intro item member
        rcases List.mem_append.mp member with copied | inItems
        · rw [List.eq_of_mem_replicate copied]
          exact ⟨desc, List.mem_cons_self, rfl, isRead⟩
        · obtain ⟨other, inDescs, rest⟩ := named item inItems
          exact ⟨other, List.mem_cons_of_mem _ inDescs, rest⟩
      · intro other member
        rw [List.map_append, List.count_append, List.map_replicate]
        rcases List.mem_cons.mp member with rfl | inDescs
        · rw [List.count_replicate_self, List.count_eq_zero.mpr absent, Nat.add_zero]
        · have distinct : desc.name ≠ other.name := fun same =>
            fresh (List.mem_map.mpr ⟨other, inDescs, same.symm⟩)
          rw [List.count_replicate, if_neg (by simpa using distinct), Nat.zero_add,
            counts other inDescs]

/-- A name that is not in an accepted request may be added if it goes with the others. -/
theorem Admissible.insert {request : List (ByteString × ByteString)}
    (admissible : Admissible reader config request) {item : ByteString × ByteString}
    {desc : ParamDesc ν} (describes : config.Describes item.1 desc)
    (isRead : (kvpValues reader item.1 item.2 desc).isSome = true) (positive : 0 < desc.maxOccurs)
    (absent : item.1 ∉ request.map Prod.fst)
    (free : ∀ old ∈ request, (item.1 < old.1 → ¬ desc.Forbids old.1) ∧
      (old.1 < item.1 → ∀ found, config.Describes old.1 found → ¬ found.Forbids item.1)) :
    Admissible reader config (item :: request) := by
  have only : ∀ found, config.Describes item.1 found → found = desc := fun found isFound =>
    Option.some.inj (Except.ok.inj (isFound.symm.trans describes))
  have countOf : ∀ name, ((item :: request).map Prod.fst).count name =
      (request.map Prod.fst).count name + if item.1 = name then 1 else 0 := by
    intro name
    rw [List.map_cons, List.count_cons]
    simp only [beq_iff_eq]
  refine ⟨fun given inAll found isFound => ?_, fun given inAll found isFound => ?_,
    fun first memFirst second memSecond below found isFound => ?_, fun given isDeclared => ?_⟩
  · rcases List.mem_cons.mp inAll with rfl | old
    · rw [only found isFound]
      exact isRead
    · exact admissible.readable given old found isFound
  · rw [countOf]
    rcases List.mem_cons.mp inAll with rfl | old
    · rw [only found isFound, if_pos rfl, List.count_eq_zero.mpr absent]
      exact positive
    · have distinct : item.1 ≠ given.1 := by
        intro same
        rw [same] at absent
        exact absent (List.mem_map_of_mem old)
      rw [if_neg distinct, Nat.add_zero]
      exact admissible.limited given old found isFound
  · rcases List.mem_cons.mp memFirst with rfl | firstOld
    · rcases List.mem_cons.mp memSecond with rfl | secondOld
      · exact absurd below (lt_irrefl _)
      · rw [only found isFound]
        exact (free second secondOld).1 below
    · rcases List.mem_cons.mp memSecond with rfl | secondOld
      · exact (free first firstOld).2 below found isFound
      · exact admissible.compatible first firstOld second secondOld below found isFound
  · rw [countOf]
    have bound := admissible.enough given isDeclared
    omega

/-- The mandatory parameters can be listed, each once. -/
theorem exists_mandatoryDescs (consistent : config.Consistent) :
    ∃ descs : List (ParamDesc ν),
      (∀ desc, desc ∈ descs ↔ config.Declares desc ∧ 0 < desc.minOccurs) ∧
        (descs.map ParamDesc.name).Nodup := by
  have keyed : ∀ entry ∈ config.paramMap.entries, entry.2.name = entry.1 := fun entry member =>
    consistent.named _ _ (OrderedMap.find_eq_some.mpr member)
  refine ⟨(config.paramMap.entries.map Prod.snd).filter fun desc => 0 < desc.minOccurs,
    fun desc => ?_, ?_⟩
  · rw [List.mem_filter, decide_eq_true_eq, List.mem_map]
    refine and_congr_left fun _ => ⟨?_, fun isDeclared =>
      ⟨(desc.name, desc), OrderedMap.find_eq_some.mp isDeclared, rfl⟩⟩
    rintro ⟨entry, member, rfl⟩
    unfold Declares
    rw [keyed entry member]
    exact OrderedMap.find_eq_some.mpr member
  · refine List.Nodup.sublist (List.filter_sublist.map _) ?_
    have names : config.paramMap.entries.map (ParamDesc.name ∘ Prod.snd) =
        config.paramMap.entries.map Prod.fst := List.map_congr_left keyed
    rw [List.map_map, names]
    exact (List.pairwise_map.mpr config.paramMap.sorted).imp ne_of_lt

/-- A request for the mandatory parameters alone is accepted. -/
theorem exists_minimal (consistent : config.Consistent)
    (mandatory : ∀ desc, config.Declares desc → 0 < desc.minOccurs →
      desc.minOccurs ≤ desc.maxOccurs ∧ CanBeRead reader desc) :
    ∃ items, Admissible reader config items ∧ ∀ item ∈ items,
      ∃ desc, config.Declares desc ∧ 0 < desc.minOccurs ∧ item.1 = desc.name := by
  obtain ⟨descs, isMandatory, nodup⟩ := exists_mandatoryDescs consistent
  obtain ⟨items, named, counts⟩ := exists_mandatory descs nodup
    fun desc member => (mandatory desc ((isMandatory desc).mp member).1
      ((isMandatory desc).mp member).2).2
  have ofItem : ∀ item ∈ items, ∀ found, config.Describes item.1 found →
      config.Declares found ∧ 0 < found.minOccurs ∧ item.1 = found.name ∧ found ∈ descs ∧
        (kvpValues reader item.1 item.2 found).isSome = true := by
    intro item member found isFound
    obtain ⟨desc, inDescs, isName, readable⟩ := named item member
    obtain ⟨isDeclared, isPositive⟩ := (isMandatory desc).mp inDescs
    have isDesc : config.Describes item.1 desc := by
      rw [isName]
      exact consistent.describes_iff.mpr ⟨isDeclared, rfl⟩
    cases Option.some.inj (Except.ok.inj (isFound.symm.trans isDesc))
    exact ⟨isDeclared, isPositive, isName, inDescs, readable⟩
  refine ⟨items, ⟨fun item member found isFound => ?_, fun item member found isFound => ?_,
    fun first memFirst second memSecond _ found isFound forbids => ?_, fun desc isDeclared => ?_⟩,
    fun item member => ?_⟩
  · exact (ofItem item member found isFound).2.2.2.2
  · obtain ⟨isDeclared, isPositive, isName, inDescs, _⟩ := ofItem item member found isFound
    have bound := (mandatory found isDeclared isPositive).1
    rw [isName, counts found inDescs]
    omega
  · -- Of two parameters that exclude each other one at least is optional.
    obtain ⟨isDeclared, isPositive, _⟩ := ofItem first memFirst found isFound
    obtain ⟨other, inDescs, isName, _⟩ := named second memSecond
    obtain ⟨isDeclared', isPositive'⟩ := (isMandatory other).mp inDescs
    obtain ⟨third, declaresThird, sameThird, _, optional⟩ :=
      consistent.conflicts found isDeclared second.1 forbids
    rw [isName] at sameThird
    rw [consistent.unique declaresThird isDeclared' sameThird] at optional
    exact optional ⟨isPositive, isPositive'⟩
  · by_cases isPositive : 0 < desc.minOccurs
    · rw [counts desc ((isMandatory desc).mpr ⟨isDeclared, isPositive⟩)]
      omega
    · omega
  · obtain ⟨desc, inDescs, isName, _⟩ := named item member
    obtain ⟨isDeclared, isPositive⟩ := (isMandatory desc).mp inDescs
    exact ⟨desc, isDeclared, isPositive, isName⟩

/-- An exposed parameter can be given. -/
theorem Exposed.exists_admissible (consistent : config.Consistent)
    (exposed : Exposed reader config) :
    ∃ request, Admissible reader config request ∧ ∃ item ∈ request,
      isKnown config item.1 = true ∧ hasLetter item.1 = true := by
  obtain ⟨mandatory, desc, declares, letter, positive, ⟨valueStr, isRead⟩, spelling, same, free⟩ :=
    exposed
  obtain ⟨items, minimal, named⟩ := exists_minimal consistent mandatory
  by_cases isPositive : 0 < desc.minOccurs
  · have some : 0 < (items.map Prod.fst).count desc.name := by
      have enough := minimal.enough desc declares
      omega
    obtain ⟨item, member, isName⟩ := List.mem_map.mp (List.count_pos_iff.mp some)
    refine ⟨items, minimal, item, member, ?_, ?_⟩
    · rw [isName, isKnown_iff]
      exact ⟨desc, consistent.describes_iff.mpr ⟨declares, rfl⟩⟩
    · rw [isName]
      exact letter
  · have describes : config.Describes spelling desc :=
      consistent.describes_iff.mpr ⟨declares, same.symm⟩
    have isReadSpelling : (kvpValues reader spelling valueStr desc).isSome = true := by
      rw [kvpValues_congr same]
      exact isRead
    have absent : spelling ∉ items.map Prod.fst := by
      intro member
      obtain ⟨item, inItems, isSpelling⟩ := List.mem_map.mp member
      obtain ⟨other, isDeclared, isPositive', isName⟩ := named item inItems
      rw [isSpelling] at isName
      rw [isName] at same
      rw [consistent.unique isDeclared declares same] at isPositive'
      exact isPositive isPositive'
    refine ⟨(spelling, valueStr) :: items, minimal.insert describes isReadSpelling positive absent
      fun old inItems => ?_, (spelling, valueStr), List.mem_cons_self,
      isKnown_iff.mpr ⟨desc, describes⟩, (hasLetter_congr same).trans letter⟩
    obtain ⟨other, isDeclared, isPositive', isName⟩ := named old inItems
    obtain ⟨freeBelow, freeAbove⟩ := free other isDeclared isPositive'
    rw [isName]
    refine ⟨freeBelow, fun below found isFound => ?_⟩
    have isOther : config.Describes other.name other :=
      consistent.describes_iff.mpr ⟨isDeclared, rfl⟩
    cases Option.some.inj (Except.ok.inj (isFound.symm.trans isOther))
    exact freeAbove below

/-- Spell one name in another way. -/
def respell (old new : ByteString) (request : List (ByteString × ByteString)) :
    List (ByteString × ByteString) :=
  request.map fun item => (if item.1 = old then new else item.1, item.2)

/-- A name in another case is a variant. -/
theorem caseVariants_respell {old new : ByteString}
    (same : asciiTolowerCopy old = asciiTolowerCopy new)
    (request : List (ByteString × ByteString)) :
      CaseVariants request (respell old new request) := by
  induction request with
  | nil => exact .nil
  | cons item rest ih =>
      refine .cons ⟨?_, rfl⟩ ih
      dsimp only
      split
      · next isOld => rw [isOld, same]
      · rfl

/-- The new spelling counts only those that had it. -/
theorem count_respell {old new : ByteString} (distinct : old ≠ new)
    (request : List (ByteString × ByteString)) :
    ((respell old new request).map Prod.fst).count new =
      (request.map Prod.fst).count new + (request.map Prod.fst).count old := by
  induction request with
  | nil => rfl
  | cons item rest ih =>
      change (((if item.1 = old then new else item.1) :: (respell old new rest).map Prod.fst)).count
        new = (item.1 :: rest.map Prod.fst).count new + (item.1 :: rest.map Prod.fst).count old
      rw [List.count_cons, List.count_cons, List.count_cons, ih]
      by_cases isOld : item.1 = old
      · rw [if_pos isOld, isOld]
        simp [distinct]
        omega
      · rw [if_neg isOld]
        simp [isOld]
        omega

/-- An accepted request must have no variant that is refused. -/
theorem CaseNeverMatters.admissible (law : CaseNeverMatters reader config)
    (consistent : config.Consistent) {request request' : List (ByteString × ByteString)}
    (variants : CaseVariants request request') (admissible : Admissible reader config request) :
    Admissible reader config request' := by
  by_contra fails
  have same := law request request' variants
  rw [kvpAnswer_of_admissible consistent admissible, kvpAnswer_of_not_admissible consistent fails]
    at same
  cases same

/-- A name that is given as often as allowed cannot be given in another spelling too. -/
theorem CaseNeverMatters.single_spelling (law : CaseNeverMatters reader config)
    (consistent : config.Consistent) {request : List (ByteString × ByteString)}
    (admissible : Admissible reader config request) {name other : ByteString} {desc : ParamDesc ν}
    (describes : config.Describes name desc)
    (full : ((request.map Prod.fst).count name : Int) = desc.maxOccurs)
    (same : asciiTolowerCopy other = asciiTolowerCopy name) (distinct : other ≠ name) :
    other ∉ request.map Prod.fst := by
  intro otherGiven
  have respelt := law.admissible consistent (caseVariants_respell same request) admissible
  have more := count_respell distinct request
  have some : 0 < (request.map Prod.fst).count other := List.count_pos_iff.mpr otherGiven
  have still : 0 < ((respell other name request).map Prod.fst).count name := by omega
  obtain ⟨item, member, isName⟩ := List.mem_map.mp (List.count_pos_iff.mp still)
  have limited := respelt.limited item member desc (by rw [isName]; exact describes)
  rw [isName] at limited
  omega

/-- A parameter that is given may be given as often as allowed. -/
theorem Admissible.fill {request : List (ByteString × ByteString)}
    (admissible : Admissible reader config request)
    {item : ByteString × ByteString} (member : item ∈ request) {desc : ParamDesc ν}
    (describes : config.Describes item.1 desc) :
    ∃ filled, Admissible reader config filled ∧ item ∈ filled ∧
      ((filled.map Prod.fst).count item.1 : Int) = desc.maxOccurs := by
  have limited := admissible.limited item member desc describes
  let missing := (desc.maxOccurs - ((request.map Prod.fst).count item.1 : Int)).toNat
  have members : ∀ {other}, other ∈ List.replicate missing item ++ request ↔ other ∈ request := by
    intro other
    rw [List.mem_append]
    constructor
    · rintro (copied | old)
      · rw [List.eq_of_mem_replicate copied]
        exact member
      · exact old
    · exact .inr
  have countOf : ∀ name, ((List.replicate missing item ++ request).map Prod.fst).count name =
      (if item.1 = name then missing else 0) + (request.map Prod.fst).count name := by
    intro name
    rw [List.map_append, List.count_append, List.map_replicate, List.count_replicate]
    simp only [beq_iff_eq]
  have full : (((List.replicate missing item ++ request).map Prod.fst).count item.1 : Int) =
      desc.maxOccurs := by
    rw [countOf, if_pos rfl]
    omega
  refine ⟨List.replicate missing item ++ request,
    ⟨fun other inFilled => admissible.readable other (members.mp inFilled),
      fun other inFilled found isFound => ?_,
      fun first memFirst second memSecond =>
        admissible.compatible first (members.mp memFirst) second (members.mp memSecond),
      fun other isDeclared => ?_⟩, members.mpr member, full⟩
  · by_cases same : item.1 = other.1
    · rw [← same] at isFound ⊢
      cases Option.some.inj (Except.ok.inj (isFound.symm.trans describes))
      exact Int.le_of_eq full
    · rw [countOf, if_neg same, Nat.zero_add]
      exact admissible.limited other (members.mp inFilled) found isFound
  · rw [countOf]
    have bound := admissible.enough other isDeclared
    omega

/-- A name with a letter that is given in one spelling only could be given in another
spelling too, when both spellings are fine by themselves. -/
theorem Admissible.add_spelling (consistent : config.Consistent)
    {request : List (ByteString × ByteString)} (admissible : Admissible reader config request)
    {item : ByteString × ByteString} (member : item ∈ request) {desc : ParamDesc ν}
    (describes : config.Describes item.1 desc) {other : ByteString}
    (same : asciiTolowerCopy other = asciiTolowerCopy item.1)
    (absent : other ∉ request.map Prod.fst)
    (respelt : Admissible reader config (respell item.1 other request)) :
    Admissible reader config ((other, item.2) :: request) := by
  obtain ⟨declares, sameName⟩ := consistent.describes_iff.mp describes
  have isOther : config.Describes other desc :=
    consistent.describes_iff.mpr ⟨declares, sameName.trans same.symm⟩
  have inRespelt : (other, item.2) ∈ respell item.1 other request :=
    List.mem_map.mpr ⟨item, member, by rw [if_pos rfl]⟩
  have stays : ∀ {old : ByteString × ByteString}, old ∈ request → old.1 ≠ item.1 →
      old ∈ respell item.1 other request := fun {old} isOld distinct =>
    List.mem_map.mpr ⟨old, isOld, by rw [if_neg distinct]⟩
  have isRead : (kvpValues reader other item.2 desc).isSome = true := by
    rw [kvpValues_congr same]
    exact admissible.readable item member desc describes
  have positive : 0 < desc.maxOccurs := by
    have limited := admissible.limited item member desc describes
    have some : 0 < (request.map Prod.fst).count item.1 :=
      List.count_pos_iff.mpr (List.mem_map_of_mem member)
    omega
  apply admissible.insert isOther isRead positive absent
  intro old inRequest
  by_cases isItem : old.1 = item.1
  · -- The other spellings of the name are not forbidden by the parameter itself.
    rw [isItem]
    refine ⟨fun _ => consistent.not_forbids_self declares sameName, fun _ found isFound => ?_⟩
    cases Option.some.inj (Except.ok.inj (isFound.symm.trans describes))
    exact consistent.not_forbids_self declares (sameName.trans same.symm)
  · have still := stays inRequest isItem
    exact ⟨fun below => respelt.compatible (other, item.2) inRespelt old still below desc isOther,
      fun below => respelt.compatible old still (other, item.2) inRespelt below⟩

/-- When letter case never matters, no accepted request has a letter in a known name. -/
theorem CaseNeverMatters.caseless (law : CaseNeverMatters reader config)
    (consistent : config.Consistent) {request : List (ByteString × ByteString)}
    (admissible : Admissible reader config request) {item : ByteString × ByteString}
    (member : item ∈ request) (known : isKnown config item.1 = true) :
    hasLetter item.1 = false := by
  rw [Bool.eq_false_iff]
  intro letter
  obtain ⟨desc, describes⟩ := isKnown_iff.mp known
  obtain ⟨filled, accepted, inFilled, full⟩ := admissible.fill member describes
  obtain ⟨other, distinct, same⟩ := exists_other_spelling letter
  have absent := law.single_spelling consistent accepted describes full same distinct
  have respelt := law.admissible consistent (caseVariants_respell same.symm filled) accepted
  -- One more parameter, in the other spelling, does not count as one too many.
  have added := accepted.add_spelling consistent inFilled describes same absent respelt
  refine law.single_spelling consistent added describes ?_ same distinct List.mem_cons_self
  rw [List.map_cons, List.count_cons_of_ne distinct]
  exact full

/-- Letter case never matters for a configuration exactly when no parameter with a letter
in its name can be given. -/
theorem caseNeverMatters_iff (reader : ValueReader ν) {items : List (ParamDesc ν)}
    {config : StoredQueryConfig ν} (parsed : parseConfig false items = some config) :
    CaseNeverMatters reader config ↔ ¬ Exposed reader config := by
  have consistent := consistent_of_parseConfig parsed
  constructor
  · intro law exposed
    obtain ⟨request, admissible, item, member, known, letter⟩ :=
      exposed.exists_admissible consistent
    cases letter.symm.trans (law.caseless consistent admissible member known)
  · intro safe request request' variants
    have caseless : ∀ {request : List (ByteString × ByteString)},
        Admissible reader config request → ∀ item ∈ request, isKnown config item.1 = true →
          hasLetter item.1 = false := by
      intro request admissible item member known
      rw [Bool.eq_false_iff]
      exact fun letter => safe (exposed_of_admissible consistent admissible member known letter)
    by_cases admissible : Admissible reader config request
    · exact (variants.answer_eq consistent admissible (caseless admissible)).2
    · have fails : ¬ Admissible reader config request' := fun admissible' =>
        admissible (variants.symm.answer_eq consistent admissible' (caseless admissible')).1
      rw [kvpAnswer_of_not_admissible consistent admissible,
        kvpAnswer_of_not_admissible consistent fails]

end

/-! ### Two configurations -/

/-- A reader that takes every text for a value. -/
def textReader : ValueReader ByteString where
  readValue _ valueStr := some valueStr
  parseMeter valueStr := some valueStr
  checkLimits _ _ _ := true

/-- A mandatory text. -/
def mandatoryText (name : ByteString) : ParamDesc ByteString where
  name := name
  minOccurs := 1
  maxOccurs := 1
  paramDef := ⟨.string, false, 1, 1⟩
  lowerLimit := none
  upperLimit := none
  conflictsWith := .empty

/-- The configuration with one mandatory text. -/
def loneParameter (name : ByteString) : StoredQueryConfig ByteString where
  useCaseSensitiveParams := false
  paramMap := OrderedMap.set name (mandatoryText name) .empty
  caseMap := OrderedMap.set (asciiTolowerCopy name) name .empty

/-- The configuration of a single parameter. -/
theorem parseConfig_loneParameter (name : ByteString) :
    parseConfig false [mandatoryText name] = some (loneParameter name) := by
  have checked : checkParamConflicts (loneParameter name).paramMap =
      (false, (loneParameter name).paramMap) := by
    change checkConflictsOf (false, (loneParameter name).paramMap) name = _
    unfold checkConflictsOf loneParameter
    rw [OrderedMap.find_set_self]
    rfl
  change (let (haveError, paramMap) := checkParamConflicts (loneParameter name).paramMap
    if haveError then none else some { loneParameter name with paramMap }) = _
  rw [checked]
  rfl

/-- For a name without letters the case never matters. -/
theorem caseNeverMatters_iff_sample : CaseNeverMatters textReader (loneParameter (ascii "1")) := by
  refine (caseNeverMatters_iff textReader (parseConfig_loneParameter (ascii "1"))).mpr ?_
  intro ⟨_, desc, declares, letter, _⟩
  unfold Declares loneParameter at declares
  rw [OrderedMap.find_set] at declares
  split at declares
  · next isName =>
      rw [isName] at letter
      exact absurd letter (by decide)
  · cases declares

/-- A mandatory parameter is only found when it is spelt as configured. -/
theorem mandatory_spelling_matters :
    parseConfig false [mandatoryText (ascii "foo")] = some (loneParameter (ascii "foo")) ∧
      ¬ CaseNeverMatters textReader (loneParameter (ascii "foo")) := by
  refine ⟨parseConfig_loneParameter _, fun law => ?_⟩
  have variants : CaseVariants [(ascii "foo", ascii "1")] [(ascii "FOO", ascii "1")] :=
    .cons ⟨by decide, rfl⟩ .nil
  have accepted : (kvpAnswer textReader (loneParameter (ascii "foo"))
      [(ascii "foo", ascii "1")]).isSome = true := by decide +kernel
  have refused : kvpAnswer textReader (loneParameter (ascii "foo"))
      [(ascii "FOO", ascii "1")] = none := by decide +kernel
  rw [law _ _ variants, refused] at accepted
  cases accepted

end SmartMetWfs.Parameters
