import SmartMetWfs.Handlers.TemplateCounts

/-!
# The checks of templates at start-up

`ScalarParameterTemplate::init` and `ArrayParameterTemplate::init` check the items of a
template against the declared request parameters. A scalar may not copy an entire array,
and an index must be within the array. For an array the least and the greatest number of
values are added up over the items and compared with the limits of the template.

A parameter is declared by how often it may be given and by how many values each
occurrence has.
-/

namespace SmartMetWfs

open Foundation

namespace Parameters.ParamDesc

variable {ν : Type}

/-- `isArray`: a parameter may have more than one value. -/
def isArray (desc : ParamDesc ν) : Bool := 1 < desc.maxOccurs || desc.paramDef.isArray

/-- `getMaxSize`, a product of unsigned numbers of 32 bits. -/
def getMaxSize (desc : ParamDesc ν) : Nat :=
  ((desc.maxOccurs * desc.paramDef.maxSize) % 2 ^ 32).toNat

end Parameters.ParamDesc

namespace Handlers

open Parameters

/-! ### The checks -/

/-- An item as it is configured; only a reference that is not weak is checked. -/
structure ConfiguredItem where
  item : ParameterTemplateItem
  weak : Bool

/-- The setting of an array template: an array, or a single element. -/
inductive TemplateSetting (α : Type)
  | array (elements : List α)
  | single (element : α)

/-- The elements of a setting of either form. -/
def TemplateSetting.elements {α : Type} : TemplateSetting α → List α
  | .array elements => elements
  | .single element => [element]

/-- The elements are changed, the form stays. -/
def TemplateSetting.map {α β : Type} (change : α → β) : TemplateSetting α → TemplateSetting β
  | .array elements => .array (elements.map change)
  | .single element => .single (change element)

/-- Why a template is refused. -/
inductive InitError
  | descriptionNotFound (linkName : ByteString)
  | missingDescription (realName : ByteString)
  | indexOutOfRange (paramInd maxSize : Nat)
  | wholeArray (paramRef : ByteString)
  | notProvided (minSize : Nat)
  | emptyDefinition (minSize maxSize : Nat)
  | minimalSizeExceeds (calcMinSize maxSize : Nat)
  | maximalSizeBelow (calcMaxSize minSize : Nat)

/-- The template is rejected for the number of its values. -/
def InitError.isSize : InitError → Bool
  | .notProvided _ => true
  | .emptyDefinition _ _ => true
  | .minimalSizeExceeds _ _ => true
  | .maximalSizeBelow _ _ => true
  | _ => false

section

variable {ν : Type} (config : StoredQueryConfig ν)

/-- `ParameterTemplateBase::get_param_desc`. -/
def getParamDesc (linkName : ByteString) : Except InitError (ParamDesc ν) :=
  match config.getParamDesc linkName with
  | .error realName => .error (.missingDescription realName)
  | .ok none => .error (.descriptionNotFound linkName)
  | .ok (some desc) => .ok desc

/-- `ScalarParameterTemplate::init`; without a definition the item is absent. -/
def ScalarParameterTemplate.init : Option ConfiguredItem → Except InitError ScalarParameterTemplate
  | none => .ok ⟨⟨true, none, none, none, none, none⟩⟩
  | some ⟨item, weak⟩ =>
      match if weak then none else item.paramRef with
      | none => .ok ⟨item⟩
      | some paramRef => do
          let param ← getParamDesc config paramRef
          if param.isArray then
            match item.paramInd with
            | none => .error (.wholeArray paramRef)
            | some paramInd =>
                if param.getMaxSize ≤ paramInd then
                  .error (.indexOutOfRange paramInd param.getMaxSize)
                else .ok ⟨item⟩
          else .ok ⟨item⟩

/-- The local variables of `ArrayParameterTemplate::init`. -/
structure CalcSizes where
  haveWeakRef : Bool
  calcMinSize : Nat
  calcMaxSize : Nat

/-- The sizes of one more item. -/
def CalcSizes.add (sizes : CalcSizes) (minSize maxSize : Nat) : CalcSizes :=
  { sizes with
    calcMinSize := sizes.calcMinSize + minSize
    calcMaxSize := sizes.calcMaxSize + maxSize }

/-- The sizes that a reference adds. -/
def addParamRefSize (item : ParameterTemplateItem) (param : ParamDesc ν) (sizes : CalcSizes) :
    Except InitError CalcSizes :=
  match item.paramInd with
  | some paramInd =>
      if param.isArray ∧ param.paramDef.maxSize ≤ paramInd then
        .error (.indexOutOfRange paramInd param.paramDef.maxSize)
      else .ok (sizes.add 1 1)
  | none =>
      if param.isArray then .ok (sizes.add param.paramDef.minSize param.paramDef.maxSize)
      else .ok (sizes.add 1 1)

/-- One item of an array template. -/
def initItem (sizes : CalcSizes) (configured : ConfiguredItem) : Except InitError CalcSizes :=
  let ⟨item, weak⟩ := configured
  let sizes := { sizes with haveWeakRef := sizes.haveWeakRef || weak }
  match if weak then none else item.paramRef with
  | some paramRef => do
      let param ← getParamDesc config paramRef
      addParamRefSize item param sizes
  | none => .ok (if item.plainText.isSome then sizes.add 1 1 else sizes)

/-- The comparison of the calculated sizes with the limits. -/
def checkSizes (minSize maxSize : Nat) (sizes : CalcSizes) : Except InitError Unit :=
  if sizes.haveWeakRef then .ok ()
  else if maxSize < sizes.calcMinSize then .error (.minimalSizeExceeds sizes.calcMinSize maxSize)
  else if sizes.calcMaxSize < minSize then .error (.maximalSizeBelow sizes.calcMaxSize minSize)
  else .ok ()

/-- The check of the length of a setting that is an array. -/
def checkLength (minSize maxSize : Nat) : TemplateSetting ConfiguredItem → Except InitError Unit
  | .array [] => if 0 < minSize then .error (.emptyDefinition minSize maxSize) else .ok ()
  | _ => .ok ()

/-- `ArrayParameterTemplate::init`. -/
def ArrayParameterTemplate.init (minSize maxSize : Nat) :
    Option (TemplateSetting ConfiguredItem) → Except InitError ArrayParameterTemplate
  | none => if 0 < minSize then .error (.notProvided minSize) else .ok ⟨[], minSize, maxSize⟩
  | some setting => do
      checkLength minSize maxSize setting
      let sizes ← setting.elements.foldlM (initItem config) ⟨false, 0, 0⟩
      checkSizes minSize maxSize sizes
      return ⟨setting.elements.map ConfiguredItem.item, minSize, maxSize⟩

end

end Handlers

end SmartMetWfs
