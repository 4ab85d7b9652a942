import SmartMetWfs.AdHoc.Extraction
import SmartMetWfs.Foundation.DisjunctiveForm
import SmartMetWfs.Foundation.Outcomes
import Mathlib.Data.Multiset.Filter

/-!
# What a query carries

A leaf of a filter contributes parameters with values and conditions. A query carries a
multiset of contributions when its parameters are those contributed, and its filter
expression is the conjunction of the conditions in some order. Reading a leaf adds
contributions, and copying a query adds what it carries.
-/

namespace SmartMetWfs.AdHoc

open Foundation Parameters

variable {ν : Type}

/-- What an element adds to a query. -/
inductive Contribution (ν : Type)
  | parameter (name : ByteString) (value : ν)
  | condition (text : ByteString)

namespace Contribution

/-- The parameter that is added, if it is one. -/
def parameter? : Contribution ν → Option (ByteString × ν)
  | parameter name value => some (name, value)
  | condition _ => none

/-- The condition that is added, if it is one. -/
def condition? : Contribution ν → Option ByteString
  | parameter _ _ => none
  | condition text => some text

end Contribution

/-- The parameters among contributions. -/
def parameters (content : Multiset (Contribution ν)) : Multiset (ByteString × ν) :=
  content.filterMap Contribution.parameter?

/-- The conditions among the contributions. -/
def conditions (content : Multiset (Contribution ν)) : Multiset ByteString :=
  content.filterMap Contribution.condition?

/-- The filter expression over conditions. -/
def renderFilter : List ByteString → ByteString
  | [] => []
  | text :: texts => ascii "//wfs:member[(" ++ text ++
      (texts.flatMap (fun other => ascii ") and (" ++ other) ++ ascii ")]")

/-- The names and values of parameters. -/
def paramPairs (params : RequestParameterMap ν) : Multiset (ByteString × ν) :=
  ↑(params.params.entries.map fun entry => (entry.1, entry.2.value))

/-- All names of parameters are in lower case. -/
def LowerNames (params : RequestParameterMap ν) : Prop :=
  ∀ entry ∈ params.params.entries, asciiTolowerCopy entry.1 = entry.1

/-- The query carries the contributions and nothing else. -/
structure Carries (query : AdHocQuery ν) (content : Multiset (Contribution ν)) : Prop where
  pairs : paramPairs query.params = parameters content
  lower : LowerNames query.params
  filter : ∃ texts : List ByteString, (texts : Multiset ByteString) = conditions content ∧
    query.filterExpression = renderFilter texts

/-- The queries carry the conjunctions of the form, one each. -/
def Holds (queries : List (AdHocQuery ν)) (form : DisjunctiveForm (Contribution ν)) : Prop :=
  ∃ contents : List (Multiset (Contribution ν)), List.Forall₂ Carries queries contents ∧
    (contents : Multiset (Multiset (Contribution ν))) = form

/-- Any failure is tolerated but an access to something that is not there. -/
def Tolerated (failure : Failure) : Prop := ∀ fault, failure ≠ .faulted fault

/-- A refusal is tolerated. -/
theorem Tolerated.refused (error : FilterError) : Tolerated (.refused error) := fun _ => nofun

/-- The parameters of two contents are put together. -/
@[simp] theorem parameters_add (content content' : Multiset (Contribution ν)) :
    parameters (content + content') = parameters content + parameters content' :=
  Multiset.filterMap_add _ _ _

/-- The conditions of two contents are put together. -/
@[simp] theorem conditions_add (content content' : Multiset (Contribution ν)) :
    conditions (content + content') = conditions content + conditions content' :=
  Multiset.filterMap_add _ _ _

/-- A content without parameters and conditions is empty. -/
theorem eq_zero_of_parts {content : Multiset (Contribution ν)}
    (noParameters : parameters content = 0)
    (noConditions : conditions content = 0) : content = 0 := by
  induction content using Multiset.induction_on with
  | empty => rfl
  | cons contribution content _ =>
      cases contribution with
      | parameter name value =>
          rw [parameters,
            Multiset.filterMap_cons_some Contribution.parameter? _ _ rfl] at noParameters
          exact absurd noParameters (Multiset.cons_ne_zero)
      | condition text =>
          rw [conditions,
            Multiset.filterMap_cons_some Contribution.condition? _ _ rfl] at noConditions
          exact absurd noConditions (Multiset.cons_ne_zero)

theorem renderFilter_append (text : ByteString) (texts texts' : List ByteString) :
    renderFilter (text :: texts ++ texts') = ascii "//wfs:member[(" ++ text ++
      (texts.flatMap (fun other => ascii ") and (" ++ other) ++
        (texts'.flatMap (fun other => ascii ") and (" ++ other) ++ ascii ")]")) := by
  rw [List.cons_append, renderFilter, List.flatMap_append]
  simp only [List.append_assoc]

/-- A filter with a condition is not empty. -/
theorem renderFilter_ne_nil (text : ByteString) (texts : List ByteString) :
    renderFilter (text :: texts) ≠ [] := by
  rw [renderFilter]
  exact List.append_ne_nil_of_right_ne_nil _
    (List.append_ne_nil_of_right_ne_nil _ (by decide))

/-- A filter expression without its closing bracket. -/
theorem dropLast_renderFilter (text : ByteString) (texts : List ByteString) :
    (renderFilter (text :: texts)).dropLast = ascii "//wfs:member[(" ++ text ++
      (texts.flatMap (fun other => ascii ") and (" ++ other) ++ ascii ")") := by
  have closing : (ascii ")]" : ByteString) = ascii ")" ++ [93] := by decide
  rw [renderFilter, closing, ← List.append_assoc, ← List.append_assoc, List.dropLast_concat,
    List.append_assoc]

/-- What follows the bracket are the conditions. -/
theorem afterBracket_renderFilter (text : ByteString) (texts : List ByteString) :
    afterBracket (renderFilter (text :: texts)) = ascii "(" ++ (text ++
      (texts.flatMap (fun other => ascii ") and (" ++ other) ++ ascii ")]")) := by
  have opening :
      (ascii "//wfs:member[(" : ByteString) = ascii "//wfs:member" ++ 91 :: ascii "(" := by
    decide
  have absent : (91 : UInt8) ∉ ascii "//wfs:member" := by decide
  have found : ∀ rest : ByteString,
      (ascii "//wfs:member" ++ 91 :: rest).idxOf 91 = (ascii "//wfs:member").length := by
    intro rest
    rw [List.idxOf_append_of_notMem absent, List.idxOf_cons_self, Nat.add_zero]
  rw [renderFilter, opening, List.append_assoc, List.append_assoc, List.cons_append, afterBracket,
    if_pos (by simp), found, ← List.drop_drop, List.drop_left]
  rfl

/-- A condition that is added is rendered behind the others. -/
theorem addFilter_rendered {query : AdHocQuery ν} {texts : List ByteString}
    (rendered : query.filterExpression = renderFilter texts) (newFilter : ByteString) :
    (query.addFilter newFilter).filterExpression = renderFilter (texts ++ [newFilter]) := by
  change (if query.filterExpression = [] then _ else _) = _
  rw [rendered]
  cases texts with
  | nil =>
      have empty : renderFilter [] = [] := rfl
      rw [empty, if_pos rfl]
      rfl
  | cons text texts =>
      have closing : (ascii ") and (" : ByteString) = ascii ")" ++ ascii " and (" := by decide
      rw [if_neg (renderFilter_ne_nil text texts), dropLast_renderFilter, renderFilter_append]
      simp only [List.flatMap_singleton, closing, List.append_assoc]

/-- The filter expression that `copy_params` leaves. -/
def splicedFilter (source target : AdHocQuery ν) : ByteString :=
  if source.filterExpression = [] then target.filterExpression
  else if target.filterExpression = [] then source.filterExpression
  else target.filterExpression.dropLast ++ (ascii " and " ++ afterBracket source.filterExpression)

/-- The conditions of two filters are rendered one behind the other. -/
theorem splicedFilter_rendered {source target : AdHocQuery ν} {texts texts' : List ByteString}
    (rendered : source.filterExpression = renderFilter texts)
    (rendered' : target.filterExpression = renderFilter texts') :
    splicedFilter source target = renderFilter (texts' ++ texts) := by
  unfold splicedFilter
  rw [rendered, rendered']
  have empty : renderFilter [] = [] := rfl
  cases texts with
  | nil => rw [empty, if_pos rfl, List.append_nil]
  | cons text texts =>
      rw [if_neg (renderFilter_ne_nil text texts)]
      cases texts' with
      | nil => rw [empty, if_pos rfl, List.nil_append]
      | cons text' texts' =>
          have joint :
              (ascii ") and (" : ByteString) = ascii ")" ++ (ascii " and " ++ ascii "(") := by
            decide
          rw [if_neg (renderFilter_ne_nil text' texts'), dropLast_renderFilter,
            afterBracket_renderFilter, renderFilter_append]
          simp only [List.flatMap_cons, joint, List.append_assoc]

/-! ### Inserting a parameter -/

/-- A value is inserted under its name in lower case. -/
theorem insertValue_entries (params : RequestParameterMap ν) {name : ByteString}
    (lowered : asciiTolowerCopy name = name) (value : ν) :
    (params.insertValue name value).params.entries =
      Multimap.insertEntry name ⟨name, value⟩ params.params.entries := by
  have key : (if params.caseSensitiveParams then name else asciiTolowerCopy name) = name := by
    rw [lowered, ite_self]
  rw [RequestParameterMap.insertValue, key]
  rfl

/-- The inserted value is one more parameter. -/
theorem paramPairs_insertValue (params : RequestParameterMap ν) {name : ByteString}
    (lowered : asciiTolowerCopy name = name) (value : ν) :
    paramPairs (params.insertValue name value) = paramPairs params + {(name, value)} := by
  have perm := Multimap.insertEntry_perm name (⟨name, value⟩ : ParamInfo ν) params.params.entries
  unfold paramPairs
  rw [insertValue_entries params lowered, Multiset.coe_eq_coe.mpr (perm.map _), List.map_cons,
    ← Multiset.cons_coe, ← Multiset.singleton_add, add_comm]

/-- The names stay in lower case. -/
theorem LowerNames.insertValue {params : RequestParameterMap ν} (lower : LowerNames params)
    {name : ByteString} (lowered : asciiTolowerCopy name = name) (value : ν) :
    LowerNames (params.insertValue name value) := by
  intro entry member
  rw [insertValue_entries params lowered] at member
  rcases Multimap.mem_insertEntry.mp member with rfl | old
  · exact lowered
  · exact lower entry old

namespace Carries

variable {query source target : AdHocQuery ν} {content : Multiset (Contribution ν)}

/-- A new query carries nothing. -/
theorem create (caseSensitiveParams : Bool) (address : Nat) :
    Carries (.create caseSensitiveParams address : AdHocQuery ν) 0 :=
  ⟨rfl, nofun, [], rfl, rfl⟩

/-- A query is used when it carries something. -/
theorem isQueryUsed_iff (carries : Carries query content) :
    query.isQueryUsed = true ↔ content ≠ 0 := by
  obtain ⟨pairs, _, texts, sameTexts, rendered⟩ := carries
  have size : query.params.params.size = 0 ↔ parameters content = 0 := by
    rw [← pairs, Multimap.size, List.length_eq_zero_iff, paramPairs]
    constructor
    · intro empty
      rw [empty]
      rfl
    · intro empty
      exact List.map_eq_nil_iff.mp (Multiset.coe_eq_zero _ |>.mp empty)
  have filter : query.filterExpression = [] ↔ conditions content = 0 := by
    rw [← sameTexts, rendered, Multiset.coe_eq_zero]
    cases texts with
    | nil => exact ⟨fun _ => rfl, fun _ => rfl⟩
    | cons text texts =>
        exact ⟨fun empty => absurd empty (renderFilter_ne_nil text texts), nofun⟩
  rw [AdHocQuery.isQueryUsed, Bool.or_eq_true, decide_eq_true_eq, decide_eq_true_eq]
  constructor
  · rintro (some | some) rfl
    · exact some (size.mpr rfl)
    · exact some (filter.mpr rfl)
  · intro nonempty
    by_contra none
    rw [not_or, not_not, not_not] at none
    exact nonempty (eq_zero_of_parts (size.mp none.1) (filter.mp none.2))

/-- A condition that is added is carried, too. -/
theorem addFilter (carries : Carries query content) (newFilter : ByteString) :
    Carries (query.addFilter newFilter) (content + {.condition newFilter}) := by
  obtain ⟨pairs, lower, texts, sameTexts, rendered⟩ := carries
  refine ⟨?_, lower, texts ++ [newFilter], ?_, ?_⟩
  · rw [parameters_add]
    exact pairs.trans (add_zero _).symm
  · rw [conditions_add, ← sameTexts]
    rfl
  · exact addFilter_rendered rendered newFilter

/-- A parameter that is inserted is carried, too. -/
theorem insertValue (carries : Carries query content) {name : ByteString}
    (lowered : asciiTolowerCopy name = name) (value : ν) :
    Carries { query with params := query.params.insertValue name value }
      (content + {.parameter name value}) := by
  obtain ⟨pairs, lower, texts, sameTexts, rendered⟩ := carries
  refine ⟨?_, lower.insertValue lowered value, texts, ?_, rendered⟩
  · rw [parameters_add, ← pairs]
    exact paramPairs_insertValue query.params lowered value
  · rw [conditions_add, ← sameTexts]
    exact (add_zero _).symm

end Carries

/-! ### Copying a query -/

/-- The query has no parameters. -/
def HasNoParams (query : AdHocQuery ν) : Prop := query.params.params.entries = []

/-- A query has no parameters when its content has none. -/
theorem Carries.hasNoParams_iff {query : AdHocQuery ν} {content : Multiset (Contribution ν)}
    (carries : Carries query content) : HasNoParams query ↔ parameters content = 0 := by
  rw [← carries.pairs, paramPairs, Multiset.coe_eq_zero, List.map_eq_nil_iff]
  exact Iff.rfl

/-- The values that `get_map` gives for a name. -/
theorem getMap_equalRange (query : AdHocQuery ν) (name : ByteString) :
    (query.params.getMap false).equalRange name =
      (query.params.params.equalRange name).map ParamInfo.value := by
  change (query.params.params.entries.foldl (fun result item =>
    result.insert item.1 item.2.value) Multimap.empty).equalRange name = _
  rw [← Multimap.insertAll_map query.params.params.entries (fun item => item.1)
      (fun item => item.2.value) .empty, Multimap.equalRange_insertAll, Multimap.equalRange_empty,
    List.nil_append, List.filter_map, List.map_map, Multimap.equalRange, List.map_map]
  rfl

/-- The value of a parameter that is there has been destroyed when it is read. -/
theorem getParam_of_mem_keys {query : AdHocQuery ν} {name : ByteString}
    (present : name ∈ query.params.params.keys) : getParam query name = .error .destroyedValue := by
  obtain ⟨info, member⟩ := Multimap.mem_keys.mp present
  have inRange : info.value ∈ (query.params.getMap false).equalRange name := by
    rw [getMap_equalRange]
    exact List.mem_map_of_mem (Multimap.mem_equalRange.mpr member)
  unfold getParam
  cases range : (query.params.getMap false).equalRange name with
  | nil =>
      rw [range] at inRange
      cases inRange
  | cons value values => rfl

/-- A query without parameters is copied by its filter expression. -/
theorem copyParams_of_hasNoParams {source : AdHocQuery ν} (none : HasNoParams source)
    (target : AdHocQuery ν) :
    copyParams source target =
      .ok { target with filterExpression := splicedFilter source target } := by
  have noKeys : source.params.params.keys = [] := by
    rw [Multimap.keys, none]
    rfl
  unfold copyParams
  rw [noKeys]
  rfl

/-- A query with parameters cannot be copied. -/
theorem copyParams_of_params {source : AdHocQuery ν} (some : ¬ HasNoParams source)
    (target : AdHocQuery ν) : copyParams source target = .error .destroyedValue := by
  obtain ⟨entry, rest, entries⟩ := List.exists_cons_of_ne_nil some
  have present : entry.1 ∈ source.params.params.keys :=
    Multimap.mem_keys.mpr ⟨entry.2, by rw [entries]; exact List.mem_cons_self⟩
  obtain ⟨name, names, keys⟩ := List.exists_cons_of_ne_nil (List.ne_nil_of_mem present)
  have isKey : name ∈ source.params.params.keys := by
    rw [keys]
    exact List.mem_cons_self
  unfold copyParams
  rw [keys, List.foldlM_cons, getParam_of_mem_keys isKey]
  rfl

/-- Only a query without parameters can be copied. -/
theorem copyParams_ok_iff {source target copied : AdHocQuery ν} :
    copyParams source target = .ok copied ↔ HasNoParams source ∧
      copied = { target with filterExpression := splicedFilter source target } := by
  by_cases none : HasNoParams source
  · rw [copyParams_of_hasNoParams none, Except.ok.injEq, and_iff_right none, eq_comm]
  · rw [copyParams_of_params none]
    exact iff_of_false nofun fun both => none both.1

/-- The target of a copy carries what both have carried. -/
theorem Carries.copyParams {tolerated : Failure → Prop} {source target : AdHocQuery ν}
    {content content' : Multiset (Contribution ν)} (carriesSource : Carries source content)
    (noParameters : parameters content = 0) (carriesTarget : Carries target content') :
    Meets tolerated (copyParams source target) fun copied =>
      copied.address = target.address ∧ Carries copied (content' + content) := by
  rw [copyParams_of_hasNoParams (carriesSource.hasNoParams_iff.mpr noParameters)]
  obtain ⟨_, _, texts, sameTexts, rendered⟩ := carriesSource
  obtain ⟨pairs', lower', texts', sameTexts', rendered'⟩ := carriesTarget
  refine Meets.ok ⟨rfl, ?_, lower', texts' ++ texts, ?_, splicedFilter_rendered rendered rendered'⟩
  · rw [parameters_add, noParameters, add_zero]
    exact pairs'
  · rw [conditions_add, ← sameTexts, ← sameTexts']
    rfl

/-- Two contents have no parameters together when neither has any. -/
theorem parameters_add_eq_zero {content content' : Multiset (Contribution ν)} :
    parameters (content + content') = 0 ↔ parameters content = 0 ∧ parameters content' = 0 := by
  rw [parameters_add, ← Multiset.card_eq_zero, Multiset.card_add, Nat.add_eq_zero_iff,
    Multiset.card_eq_zero, Multiset.card_eq_zero]

/-- No conjunction of the form has a parameter. -/
def WithoutParameters (form : DisjunctiveForm (Contribution ν)) : Prop :=
  ∀ content ∈ form, parameters content = 0

/-- What is conjoined of forms without parameters has none. -/
theorem WithoutParameters.conjoin {left right : DisjunctiveForm (Contribution ν)}
    (noneLeft : WithoutParameters left) (noneRight : WithoutParameters right) :
    WithoutParameters (DisjunctiveForm.conjoin left right) := by
  intro content member
  obtain ⟨first, inLeft, inConjoined⟩ := Multiset.mem_bind.mp member
  obtain ⟨second, inRight, rfl⟩ := Multiset.mem_map.mp inConjoined
  exact parameters_add_eq_zero.mpr ⟨noneLeft first inLeft, noneRight second inRight⟩

end SmartMetWfs.AdHoc
