import SmartMetWfs.Handlers.TemplateInit
import Mathlib.Algebra.Order.Ring.Int

/-!
# What the sizes of a template can be

The declarations say how many values a request may have for each parameter, and from
these numbers alone follows how many values a template of constants and references has.
The check at start-up calculates with the sizes of one occurrence instead, as if every
parameter were given, and given once: an optional parameter may be left out, and a
repeated one may have more values.
-/

namespace SmartMetWfs

open Foundation

namespace Parameters.ParamDesc

variable {ν : Type}

/-- The declaration accepts the values, those of all occurrences one after another. -/
def Accepts (desc : ParamDesc ν) (values : List ν) : Prop :=
  ∃ occurrences : List (List ν), occurrences.flatten = values ∧
    desc.minOccurs ≤ occurrences.length ∧ occurrences.length ≤ desc.maxOccurs ∧
    ∀ occurrence ∈ occurrences, desc.paramDef.minSize ≤ occurrence.length ∧
      occurrence.length ≤ desc.paramDef.maxSize

/-- So many values can be given in some number of occurrences. -/
def Attains (desc : ParamDesc ν) (number : Nat) : Prop :=
  ∃ times : Nat, desc.minOccurs ≤ times ∧ times ≤ desc.maxOccurs ∧
    times * desc.paramDef.minSize ≤ number ∧ number ≤ times * desc.paramDef.maxSize

/-- Values can be split into lists with lengths within limits if their number allows it. -/
theorem exists_flatten_of_between {least most : Nat} (times : Nat) {values : List ν}
    (above : times * least ≤ values.length) (below : values.length ≤ times * most) :
    ∃ occurrences : List (List ν), occurrences.flatten = values ∧ occurrences.length = times ∧
      ∀ occurrence ∈ occurrences, least ≤ occurrence.length ∧ occurrence.length ≤ most := by
  induction times generalizing values with
  | zero =>
      rw [Nat.zero_mul] at below
      exact ⟨[], (List.eq_nil_of_length_eq_zero (Nat.le_zero.mp below)).symm, rfl, nofun⟩
  | succ times ih =>
      rw [Nat.succ_mul] at above below
      have ordered : least ≤ most := by
        by_contra reversed
        have products := Nat.mul_le_mul_left times (Nat.le_of_not_le reversed)
        omega
      have products := Nat.mul_le_mul_left times ordered
      -- the first list leaves at least what the others need
      obtain ⟨taken, isTaken⟩ : ∃ taken, taken = min most (values.length - times * least) :=
        ⟨_, rfl⟩
      have length : (values.take taken).length = taken := by
        rw [List.length_take]
        omega
      have rest : (values.drop taken).length = values.length - taken := List.length_drop
      obtain ⟨occurrences, joined, number, within⟩ :=
        @ih (values.drop taken) (by omega) (by omega)
      refine ⟨values.take taken :: occurrences, ?_, congrArg Nat.succ number,
        List.forall_mem_cons.mpr ⟨by omega, within⟩⟩
      rw [List.flatten_cons, joined, List.take_append_drop]

/-- Occurrences within sizes are together within so many times the sizes. -/
theorem flatten_between {least most : Nat} {occurrences : List (List ν)}
    (within : ∀ occurrence ∈ occurrences, least ≤ occurrence.length ∧ occurrence.length ≤ most) :
    occurrences.length * least ≤ occurrences.flatten.length ∧
      occurrences.flatten.length ≤ occurrences.length * most := by
  induction occurrences with
  | nil => simp
  | cons first occurrences ih =>
      obtain ⟨bounds, rest⟩ := List.forall_mem_cons.mp within
      have bounds' := ih rest
      rw [List.length_cons, List.flatten_cons, List.length_append, Nat.succ_mul, Nat.succ_mul]
      omega

/-- Whether values are accepted depends on their number only. -/
theorem accepts_iff (desc : ParamDesc ν) (values : List ν) :
    desc.Accepts values ↔ desc.Attains values.length := by
  constructor
  · rintro ⟨occurrences, rfl, atLeast, atMost, within⟩
    exact ⟨occurrences.length, atLeast, atMost, flatten_between within⟩
  · intro ⟨times, atLeast, atMost, above, below⟩
    obtain ⟨occurrences, joined, rfl, within⟩ := exists_flatten_of_between times above below
    exact ⟨occurrences, joined, atLeast, atMost, within⟩

/-- The declaration accepts values that have one at the index. -/
theorem exists_accepts_iff (desc : ParamDesc ν) (value : ν) (index : Nat) :
    (∃ values, desc.Accepts values ∧ index < values.length) ↔
      desc.minOccurs ≤ desc.maxOccurs ∧ desc.paramDef.minSize ≤ desc.paramDef.maxSize ∧
        (index : Int) < desc.maxOccurs * desc.paramDef.maxSize := by
  constructor
  · intro ⟨values, accepts, inRange⟩
    obtain ⟨times, atLeast, atMost, above, below⟩ := (desc.accepts_iff values).mp accepts
    have given : 0 < times := by
      by_contra none
      rw [Nat.eq_zero_of_not_pos none, Nat.zero_mul] at below
      omega
    have ordered := Nat.le_of_mul_le_mul_left (above.trans below) given
    have most : (times : Int) * desc.paramDef.maxSize ≤ desc.maxOccurs * desc.paramDef.maxSize :=
      mul_le_mul_of_nonneg_right atMost (Int.natCast_nonneg _)
    have within : (values.length : Int) ≤ times * desc.paramDef.maxSize := by exact_mod_cast below
    exact ⟨atLeast.trans atMost, ordered, by omega⟩
  · intro ⟨occurs, ordered, inRange⟩
    have positive : 0 ≤ desc.maxOccurs := by
      by_contra negative
      have products : desc.maxOccurs * desc.paramDef.maxSize ≤ 0 :=
        mul_nonpos_of_nonpos_of_nonneg (by omega) (Int.natCast_nonneg _)
      omega
    obtain ⟨times, isTimes⟩ := Int.eq_ofNat_of_zero_le positive
    rw [isTimes] at occurs inRange
    refine ⟨List.replicate (times * desc.paramDef.maxSize) value, ?_, ?_⟩
    · rw [accepts_iff, List.length_replicate]
      exact ⟨times, occurs, isTimes.ge, Nat.mul_le_mul_left times ordered, le_rfl⟩
    · rw [List.length_replicate]
      exact_mod_cast inRange

end Parameters.ParamDesc

namespace Handlers

open Parameters

/-! ### Constants and references -/

/-- An item that is a constant or a strong reference without default and redirection. -/
inductive PlainItem
  | constant (plainText : Value)
  | reference (paramRef : ByteString) (paramInd : Option Nat)

namespace PlainItem

/-- The item as it is configured. -/
def configured : PlainItem → ConfiguredItem
  | constant plainText => ⟨.constant plainText, false⟩
  | reference paramRef paramInd => ⟨⟨false, none, some paramRef, paramInd, none, none⟩, false⟩

/-- The number of values of the item, from the numbers of values of the parameters. -/
def number (count : ByteString → Nat) : PlainItem → Option Nat
  | constant _ => some 1
  | reference paramRef none => some (count paramRef)
  | reference paramRef (some paramInd) =>
      if count paramRef = 0 then some 0 else if paramInd < count paramRef then some 1 else none

/-- It has as many values as the plain item. -/
theorem valueCount_configured (count : ByteString → Nat) (item : PlainItem) :
    item.configured.item.valueCount count = item.number count := by
  cases item with
  | constant plainText => rfl
  | reference paramRef paramInd =>
      by_cases absent : count paramRef = 0
      · cases paramInd <;> simp [configured, number, ParameterTemplateItem.valueCount, absent]
      · cases paramInd <;> simp [configured, number, ParameterTemplateItem.valueCount, absent]

/-- A plain item is not redirected. -/
theorem undirected (redirect : Redirection) (item : PlainItem) :
    item.configured.item.Undirected redirect := by
  cases item with
  | constant plainText => exact nofun
  | reference paramRef paramInd => exact nofun

section

variable (config : StoredQueryConfig Value)

/-- The least and the greatest number of values that the check counts for the item. -/
def countedSizes : PlainItem → Nat × Nat
  | constant _ => (1, 1)
  | reference _ (some _) => (1, 1)
  | reference paramRef none =>
      match config.getParamDesc paramRef with
      | .ok (some desc) =>
          if desc.isArray then (desc.paramDef.minSize, desc.paramDef.maxSize) else (1, 1)
      | _ => (1, 1)

/-- The least number of values of all items. -/
def calcMinSize (items : List PlainItem) : Nat :=
  (items.map fun item => (item.countedSizes config).1).sum

/-- The greatest number of values of all items. -/
def calcMaxSize (items : List PlainItem) : Nat :=
  (items.map fun item => (item.countedSizes config).2).sum

/-- The item refers to a declared parameter, with an index that an occurrence may have. -/
def Fits : PlainItem → Prop
  | constant _ => True
  | reference paramRef paramInd => ∃ desc, config.Describes paramRef desc ∧
      (desc.isArray = true → ∀ index ∈ paramInd, index < desc.paramDef.maxSize)

end

end PlainItem

/-! ### What the checks accept -/

section Checks

variable {config : StoredQueryConfig Value} {paramRef : ByteString} {desc : ParamDesc Value}

/-- A described parameter is found. -/
theorem getParamDesc_of_describes (describes : config.Describes paramRef desc) :
    getParamDesc config paramRef = .ok desc := by
  unfold getParamDesc
  rw [describes]

/-- What a reference adds when it is initialised. -/
theorem initItem_reference (sizes : CalcSizes) (paramRef : ByteString) (paramInd : Option Nat) :
    initItem config sizes (PlainItem.reference paramRef paramInd).configured =
      (getParamDesc config paramRef).bind fun param =>
        addParamRefSize ⟨false, none, some paramRef, paramInd, none, none⟩ param sizes := by
  obtain ⟨weak, least, most⟩ := sizes
  simp only [initItem, PlainItem.configured, Bool.or_false]
  rfl

/-- An item that fits adds its sizes. -/
theorem initItem_of_fits {item : PlainItem} (fits : item.Fits config) (sizes : CalcSizes) :
    initItem config sizes item.configured =
      .ok (sizes.add (item.countedSizes config).1 (item.countedSizes config).2) := by
  cases item with
  | constant plainText =>
      obtain ⟨weak, least, most⟩ := sizes
      simp [initItem, PlainItem.configured, ParameterTemplateItem.constant, CalcSizes.add,
        PlainItem.countedSizes]
  | reference paramRef paramInd =>
      obtain ⟨desc, describes, inRange⟩ := fits
      rw [initItem_reference, getParamDesc_of_describes describes]
      cases paramInd with
      | some index =>
          refine if_neg ?_
          rintro ⟨isArray, tooGreat⟩
          exact absurd (inRange isArray index rfl) (Nat.not_lt.mpr tooGreat)
      | none =>
          unfold StoredQueryConfig.Describes at describes
          simp only [Except.bind, addParamRefSize, PlainItem.countedSizes, describes]
          split <;> rfl

/-- An item that does not fit is rejected, and not for a size. -/
theorem initItem_of_not_fits {item : PlainItem} (notFits : ¬ item.Fits config) (sizes : CalcSizes) :
    ∃ failure, initItem config sizes item.configured = .error failure ∧ failure.isSize = false := by
  cases item with
  | constant plainText => exact absurd trivial notFits
  | reference paramRef paramInd =>
      rw [initItem_reference]
      unfold getParamDesc
      cases found : config.getParamDesc paramRef with
      | error realName => exact ⟨_, rfl, rfl⟩
      | ok paramDesc =>
          cases paramDesc with
          | none => exact ⟨_, rfl, rfl⟩
          | some desc =>
              cases paramInd with
              | none => exact absurd ⟨desc, found, fun _ _ => nofun⟩ notFits
              | some index =>
                  refine ⟨_, if_pos ?_, rfl⟩
                  by_contra accepted
                  refine notFits ⟨desc, found, fun isArray _ isIndex => ?_⟩
                  cases isIndex
                  exact Nat.not_le.mp fun tooGreat => accepted ⟨isArray, tooGreat⟩

/-- Items that fit add their sizes. -/
theorem foldlM_initItem {items : List PlainItem} (fits : ∀ item ∈ items, item.Fits config)
    (sizes : CalcSizes) :
    (items.map PlainItem.configured).foldlM (initItem config) sizes =
      .ok (sizes.add (PlainItem.calcMinSize config items)
        (PlainItem.calcMaxSize config items)) := by
  induction items generalizing sizes with
  | nil => rfl
  | cons item items ih =>
      obtain ⟨first, rest⟩ := List.forall_mem_cons.mp fits
      rw [List.map_cons, List.foldlM_cons, initItem_of_fits first]
      refine (ih rest _).trans (congrArg Except.ok ?_)
      simp only [CalcSizes.add, PlainItem.calcMinSize, PlainItem.calcMaxSize, List.map_cons,
        List.sum_cons, Nat.add_assoc]

/-- An item that does not fit is refused. -/
theorem foldlM_initItem_of_not_fits {items : List PlainItem}
    (notFits : ¬ ∀ item ∈ items, item.Fits config) (sizes : CalcSizes) :
    ∃ failure, (items.map PlainItem.configured).foldlM (initItem config) sizes = .error failure ∧
      failure.isSize = false := by
  induction items generalizing sizes with
  | nil => exact absurd (fun _ none => nomatch none) notFits
  | cons item items ih =>
      rw [List.map_cons, List.foldlM_cons]
      by_cases first : item.Fits config
      · rw [initItem_of_fits first]
        exact ih (fun rest => notFits (List.forall_mem_cons.mpr ⟨first, rest⟩)) _
      · obtain ⟨failure, fails, isOther⟩ := initItem_of_not_fits first sizes
        exact ⟨failure, by rw [fails]; rfl, isOther⟩

/-- The loop and the comparison reject a template for a size. -/
theorem checked_size_iff (items : List PlainItem) (minSize maxSize : Nat)
    (template : ArrayParameterTemplate) :
    (∃ failure, (do
        let sizes ← (items.map PlainItem.configured).foldlM (initItem config) ⟨false, 0, 0⟩
        checkSizes minSize maxSize sizes
        return template) = .error failure ∧ failure.isSize = true) ↔
      (∀ item ∈ items, item.Fits config) ∧ (maxSize < PlainItem.calcMinSize config items ∨
        PlainItem.calcMaxSize config items < minSize) := by
  by_cases fits : ∀ item ∈ items, item.Fits config
  · have added : (items.map PlainItem.configured).foldlM (initItem config) ⟨false, 0, 0⟩ =
        .ok ⟨false, PlainItem.calcMinSize config items, PlainItem.calcMaxSize config items⟩ := by
      rw [foldlM_initItem fits]
      simp only [CalcSizes.add, Nat.zero_add]
    rw [added]
    change (∃ failure, (checkSizes minSize maxSize _ >>= fun _ => _) = .error failure ∧ _) ↔ _
    unfold checkSizes
    rw [if_neg Bool.false_ne_true]
    by_cases above : maxSize < PlainItem.calcMinSize config items
    · rw [if_pos above]
      exact ⟨fun _ => ⟨fits, .inl above⟩, fun _ => ⟨_, rfl, rfl⟩⟩
    · by_cases below : PlainItem.calcMaxSize config items < minSize
      · rw [if_neg above, if_pos below]
        exact ⟨fun _ => ⟨fits, .inr below⟩, fun _ => ⟨_, rfl, rfl⟩⟩
      · rw [if_neg above, if_neg below]
        constructor
        · exact fun ⟨_, isError, _⟩ => nomatch isError
        · rintro ⟨_, exceeds | exceeds⟩
          · exact absurd exceeds above
          · exact absurd exceeds below
  · obtain ⟨failure, fails, isOther⟩ := foldlM_initItem_of_not_fits fits ⟨false, 0, 0⟩
    rw [fails]
    constructor
    · rintro ⟨_, ⟨rfl⟩, isSize⟩
      rw [isOther] at isSize
      cases isSize
    · exact fun ⟨all, _⟩ => absurd all fits

/-- A template is rejected for a size if its items fit and a calculated size is beyond a
limit. -/
theorem init_size_iff (minSize maxSize : Nat) (setting : TemplateSetting PlainItem) :
    (∃ failure, ArrayParameterTemplate.init config minSize maxSize
        (some (setting.map PlainItem.configured)) = .error failure ∧ failure.isSize = true) ↔
      (∀ item ∈ setting.elements, item.Fits config) ∧
        (maxSize < PlainItem.calcMinSize config setting.elements ∨
          PlainItem.calcMaxSize config setting.elements < minSize) := by
  cases setting with
  | single element => exact checked_size_iff [element] minSize maxSize _
  | array elements =>
      cases elements with
      | cons element elements => exact checked_size_iff (element :: elements) minSize maxSize _
      | nil =>
          unfold ArrayParameterTemplate.init
          by_cases required : 0 < minSize
          · have rejected : checkLength minSize maxSize
                ((TemplateSetting.array []).map PlainItem.configured) =
                  .error (.emptyDefinition minSize maxSize) := if_pos required
            simp only [rejected]
            have below : PlainItem.calcMaxSize config [] < minSize := required
            exact ⟨fun _ => ⟨fun _ none => absurd none List.not_mem_nil, .inr below⟩,
              fun _ => ⟨_, rfl, rfl⟩⟩
          · have accepted : checkLength minSize maxSize
                ((TemplateSetting.array []).map PlainItem.configured) = .ok () := if_neg required
            simp only [accepted]
            exact checked_size_iff [] minSize maxSize _

end Checks

/-! ### Sizes -/

section Sizes

variable {config : StoredQueryConfig Value} {items : List PlainItem} {count : ByteString → Nat}

/-- An index that is found leads to one value, or none if the parameter is not given. -/
theorem PlainItem.number_indexed {paramRef : ByteString} {index number : Nat}
    (counted : (PlainItem.reference paramRef (some index)).number count = some number) :
    number ≤ 1 ∧ (count paramRef ≠ 0 → number = 1) := by
  simp only [PlainItem.number] at counted
  split at counted
  · next absent =>
      cases counted
      exact ⟨Nat.zero_le _, fun given => absurd absent given⟩
  · split at counted
    · cases counted
      exact ⟨le_rfl, fun _ => rfl⟩
    · cases counted

/-- A given array has at least as many values as one occurrence must have. -/
theorem minSize_le_of_attains {desc : ParamDesc Value} {number : Nat}
    (attains : desc.Attains number)
    (given : number ≠ 0) : desc.paramDef.minSize ≤ number := by
  obtain ⟨times, _, _, above, below⟩ := attains
  have once : 1 ≤ times := by
    by_contra none
    rw [Nat.lt_one_iff.mp (Nat.not_le.mp none), Nat.zero_mul] at below
    exact given (Nat.le_zero.mp below)
  calc desc.paramDef.minSize = 1 * desc.paramDef.minSize := (Nat.one_mul _).symm
    _ ≤ times * desc.paramDef.minSize := Nat.mul_le_mul_right _ once
    _ ≤ number := above

/-- The calculated least size is not too great if all parameters are given. -/
theorem calcMinSize_le {numbers : List Nat}
    (attains : ∀ paramRef paramInd, .reference paramRef paramInd ∈ items →
      ∀ desc, config.Describes paramRef desc → desc.Attains (count paramRef))
    (given : ∀ paramRef paramInd, .reference paramRef paramInd ∈ items → count paramRef ≠ 0)
    (all : items.mapM (PlainItem.number count) = some numbers) :
    PlainItem.calcMinSize config items ≤ numbers.sum := by
  refine sum_map_le_of_mapM all fun item member number counted => ?_
  match item with
  | .constant plainText =>
      cases counted
      exact le_rfl
  | .reference paramRef (some index) =>
      exact (((PlainItem.number_indexed counted).2 (given _ _ member)).ge :)
  | .reference paramRef none =>
      cases counted
      have once : 1 ≤ count paramRef := Nat.one_le_iff_ne_zero.mpr (given _ _ member)
      simp only [PlainItem.countedSizes]
      split
      · next desc found =>
          split
          · exact minSize_le_of_attains (attains _ _ member desc found) (given _ _ member)
          · exact once
      · exact once

/-- The calculated greatest size is not too small if no parameter has more values than one
occurrence may have. -/
theorem le_calcMaxSize {numbers : List Nat}
    (within : ∀ paramRef, .reference paramRef none ∈ items →
      count paramRef ≤ ((PlainItem.reference paramRef none).countedSizes config).2)
    (all : items.mapM (PlainItem.number count) = some numbers) :
    numbers.sum ≤ PlainItem.calcMaxSize config items := by
  refine le_sum_map_of_mapM all fun item member number counted => ?_
  match item with
  | .constant plainText =>
      cases counted
      exact le_rfl
  | .reference paramRef (some index) => exact (PlainItem.number_indexed counted).1
  | .reference paramRef none =>
      cases counted
      exact within paramRef member

end Sizes

end Handlers

end SmartMetWfs
