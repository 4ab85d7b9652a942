import SmartMetWfs.Handlers.ParameterTemplates

/-!
# How many values a template has

Whether an item that is redirected nowhere has values, and how many, depends on the
request only through the numbers of the values of its parameters. An array has values when
each of its items does, and when their number is within the limits.
-/

namespace SmartMetWfs.Handlers

open Foundation Parameters

/-! ### Items -/

namespace ParameterTemplateItem

/-- The number of values of an item that no other parameter stands in for, from the numbers
of values of the parameters; none if `get_value` fails. -/
def valueCount (count : ByteString → Nat) (item : ParameterTemplateItem) : Option Nat :=
  if item.absent then none
  else
    match item.plainText, item.paramRef with
    | some _, _ => some 1
    | none, none => none
    | none, some refName =>
        if count refName = 0 then
          if item.defaultValue.isSome then some 1
          else if item.redirectName.isSome then none
          else some 0
        else
          match item.paramInd with
          | none => some (count refName)
          | some paramInd =>
              if paramInd < count refName ∨ item.defaultValue.isSome then some 1 else none

variable {redirect : Redirection} {reqParamMap : RequestParameterMap Value}

/-- No redirection of the item succeeds. -/
def Undirected (redirect : Redirection) (item : ParameterTemplateItem) : Prop :=
  ∀ name, item.redirectName = some name → ∃ failure, redirect name = .error failure

/-- The outcome has so many values, or none. -/
def Counts (outcome : Except TemplateError (Option TemplateValue)) : Option Nat → Prop
  | some number => ∃ value, outcome = .ok (some value) ∧ value.toList.length = number
  | none => outcome = .ok none ∨ ∃ failure, outcome = .error failure

/-- A parameter without values counts its default. -/
theorem getAbsentRefValue_counts {item : ParameterTemplateItem}
    (undirected : item.Undirected redirect) :
    Counts (item.getAbsentRefValue redirect true)
      (if item.defaultValue.isSome then some 1
        else if item.redirectName.isSome then none else some 0) := by
  unfold getAbsentRefValue
  cases item.defaultValue with
  | some text => exact ⟨_, rfl, rfl⟩
  | none =>
      cases redirected : item.redirectName with
      | none => exact ⟨_, rfl, rfl⟩
      | some name => exact .inr (undirected name redirected)

/-- One value of a parameter counts once if it is there. -/
theorem getIndexedRefValue_counts {item : ParameterTemplateItem}
    (undirected : item.Undirected redirect) (refName : ByteString) (paramInd : Nat)
    (valueVect : List Value) :
    Counts (item.getIndexedRefValue redirect refName paramInd valueVect)
      (if paramInd < valueVect.length ∨ item.defaultValue.isSome then some 1 else none) := by
  unfold getIndexedRefValue
  by_cases inRange : paramInd < valueVect.length
  · rw [if_pos (.inl inRange), List.getElem?_eq_getElem inRange]
    exact ⟨_, rfl, rfl⟩
  · rw [List.getElem?_eq_none (Nat.not_lt.mp inRange)]
    cases item.defaultValue with
    | some text =>
        rw [if_pos (.inr rfl)]
        exact ⟨_, rfl, rfl⟩
    | none =>
        rw [if_neg (by simp [inRange])]
        cases redirected : item.redirectName with
        | none => exact .inr ⟨_, rfl⟩
        | some name => exact .inr (undirected name redirected)

/-- All values of a parameter count. -/
theorem getRefValues_counts (refName : ByteString) (valueVect : List Value) :
    Counts (getRefValues refName valueVect true) (some valueVect.length) := by
  unfold getRefValues
  split
  · exact ⟨_, rfl, rfl⟩
  · exact ⟨_, rfl, rfl⟩

/-- An item counts its values. -/
theorem getOptionalValue_counts {item : ParameterTemplateItem}
    (undirected : item.Undirected redirect) {count : ByteString → Nat}
    (counted : ∀ name, count name = (reqParamMap.getValues name).length) :
    Counts (item.getOptionalValue redirect reqParamMap true) (item.valueCount count) := by
  unfold getOptionalValue valueCount
  cases item.absent with
  | true => exact .inl rfl
  | false =>
      cases item.plainText with
      | some value => exact ⟨_, rfl, rfl⟩
      | none =>
          cases item.paramRef with
          | none => exact .inr ⟨_, rfl⟩
          | some refName =>
              have number := counted refName
              cases values : reqParamMap.getValues refName with
              | nil =>
                  rw [values, List.length_nil] at number
                  simp only [values, number]
                  exact getAbsentRefValue_counts undirected
              | cons value rest =>
                  rw [values] at number
                  have given : (value :: rest).length ≠ 0 := Nat.succ_ne_zero _
                  simp only [values, number, if_neg given]
                  cases item.paramInd with
                  | none => exact getRefValues_counts refName _
                  | some paramInd => exact getIndexedRefValue_counts undirected refName paramInd _

/-- `get_value` for an array has so many values or fails. -/
theorem getValue_count {item : ParameterTemplateItem} (undirected : item.Undirected redirect)
    {count : ByteString → Nat}
    (counted : ∀ name, count name = (reqParamMap.getValues name).length) :
    match item.valueCount count with
    | some number => ∃ value, item.getValue redirect reqParamMap true = .ok value ∧
        value.toList.length = number
    | none => ∃ failure, item.getValue redirect reqParamMap true = .error failure := by
  have counts := item.getOptionalValue_counts undirected counted
  unfold getValue
  cases number : item.valueCount count with
  | some number =>
      rw [number] at counts
      obtain ⟨value, found, length⟩ := counts
      rw [found]
      exact ⟨value, rfl, length⟩
  | none =>
      rw [number] at counts
      rcases counts with found | ⟨failure, fails⟩
      · rw [found]
        exact ⟨_, rfl⟩
      · rw [fails]
        exact ⟨failure, rfl⟩

end ParameterTemplateItem

/-! ### Arrays -/

namespace ArrayParameterTemplate

variable {redirect : Redirection} {reqParamMap : RequestParameterMap Value}

/-- All items have values, and their number is within the limits. -/
def HasValues (template : ArrayParameterTemplate) (count : ByteString → Nat) : Prop :=
  ∃ numbers, template.items.mapM (ParameterTemplateItem.valueCount count) = some numbers ∧
    template.minSize ≤ numbers.sum ∧ numbers.sum ≤ template.maxSize

/-- Items that can be counted are collected with so many values. -/
theorem collectItem_foldlM_of_counts {items : List ParameterTemplateItem}
    (undirected : ∀ item ∈ items, item.Undirected redirect) {count : ByteString → Nat}
    (counted : ∀ name, count name = (reqParamMap.getValues name).length) (collected : Collected) :
    match items.mapM (ParameterTemplateItem.valueCount count) with
    | some numbers => ∃ after, items.foldlM (collectItem redirect reqParamMap true) collected =
        .ok after ∧ after.allResolved = collected.allResolved ∧
          after.tmpResult.length = collected.tmpResult.length + numbers.sum
    | none => ∃ failure, items.foldlM (collectItem redirect reqParamMap true) collected =
        .error failure := by
  induction items generalizing collected with
  | nil => exact ⟨collected, rfl, rfl, rfl⟩
  | cons item items ih =>
      have first := item.getValue_count (undirected item List.mem_cons_self) counted
      rw [List.mapM_cons, List.foldlM_cons, collectItem]
      cases number : item.valueCount count with
      | none =>
          rw [number] at first
          obtain ⟨failure, fails⟩ := first
          exact ⟨failure, by rw [if_pos rfl, fails]; rfl⟩
      | some number' =>
          rw [number] at first
          obtain ⟨value, found, length⟩ := first
          have rest := ih (fun other member => undirected other (List.mem_cons_of_mem _ member))
            { collected with
              someResolved := true
              tmpResult := collected.tmpResult ++ value.toList }
          cases numbers : items.mapM (ParameterTemplateItem.valueCount count) with
          | none =>
              rw [numbers] at rest
              obtain ⟨failure, fails⟩ := rest
              refine ⟨failure, ?_⟩
              rw [if_pos rfl, found]
              exact fails
          | some numbers' =>
              rw [numbers] at rest
              obtain ⟨after, ran, resolved, total⟩ := rest
              refine ⟨after, ?_, resolved, ?_⟩
              · rw [if_pos rfl, found]
                exact ran
              · rw [total, List.length_append, length, List.sum_cons, Nat.add_assoc]

variable {template : ArrayParameterTemplate}

/-- The checks of the number of values after the loop. -/
theorem getVariant_of_ran {strict : Bool} {after : Collected}
    (ran : template.items.foldlM (collectItem redirect reqParamMap strict) ⟨false, true, []⟩ =
      .ok after) :
    template.getVariant redirect reqParamMap strict =
      if template.maxSize < after.tmpResult.length then
        .error (.aboveUpperLimit after.tmpResult.length template.maxSize)
      else if after.tmpResult.length < template.minSize then
        .error (.belowLowerLimit after.tmpResult.length template.minSize)
      else .ok (if after.allResolved then .isTrue
        else if after.someResolved then .indeterminate else .isFalse, after.tmpResult) := by
  unfold getVariant
  rw [ran]
  by_cases above : template.maxSize < after.tmpResult.length
  · rw [if_pos above]
    exact if_pos above
  · by_cases below : after.tmpResult.length < template.minSize
    · rw [if_neg above, if_pos below]
      exact (if_neg above).trans (if_pos below)
    · rw [if_neg above, if_neg below]
      exact (if_neg above).trans (if_neg below)

/-- The strict `get_value` finds values just when the template has them, and never says
that only some of them have been found. -/
theorem getVariant_strict (undirected : ∀ item ∈ template.items, item.Undirected redirect)
    {count : ByteString → Nat}
    (counted : ∀ name, count name = (reqParamMap.getValues name).length) :
    (template.HasValues count ∧
      ∃ values, template.getVariant redirect reqParamMap true = .ok (.isTrue, values)) ∨
    (¬ template.HasValues count ∧
      ∃ failure, template.getVariant redirect reqParamMap true = .error failure) := by
  have collected := collectItem_foldlM_of_counts undirected counted ⟨false, true, []⟩
  unfold HasValues
  cases counts : template.items.mapM (ParameterTemplateItem.valueCount count) with
  | none =>
      rw [counts] at collected
      obtain ⟨failure, fails⟩ := collected
      refine .inr ⟨fun ⟨_, isSome, _⟩ => (nomatch isSome), failure, ?_⟩
      unfold getVariant
      rw [fails]
      rfl
  | some numbers =>
      rw [counts] at collected
      obtain ⟨after, ran, resolved, total⟩ := collected
      rw [List.length_nil, Nat.zero_add] at total
      rw [getVariant_of_ran ran, resolved, total]
      by_cases above : template.maxSize < numbers.sum
      · rw [if_pos above]
        refine .inr ⟨?_, _, rfl⟩
        rintro ⟨_, ⟨rfl⟩, _, within⟩
        exact absurd above (Nat.not_lt.mpr within)
      · rw [if_neg above]
        by_cases below : numbers.sum < template.minSize
        · rw [if_pos below]
          refine .inr ⟨?_, _, rfl⟩
          rintro ⟨_, ⟨rfl⟩, within, _⟩
          exact absurd below (Nat.not_lt.mpr within)
        · rw [if_neg below]
          exact .inl ⟨⟨numbers, rfl, Nat.not_lt.mp below, Nat.not_lt.mp above⟩, _, rfl⟩

/-- A template has a value when its items can be counted and their number is right. -/
theorem getValue_ok_iff (undirected : ∀ item ∈ template.items, item.Undirected redirect)
    {count : ByteString → Nat}
    (counted : ∀ name, count name = (reqParamMap.getValues name).length) :
    (∃ values, template.getValue redirect reqParamMap = .ok values) ↔ template.HasValues count := by
  unfold getValue
  rcases getVariant_strict undirected counted with ⟨has, values, found⟩ | ⟨hasNot, failure, fails⟩
  · rw [found]
    exact ⟨fun _ => has, fun _ => ⟨values, rfl⟩⟩
  · rw [fails]
    exact ⟨fun ⟨_, found⟩ => (nomatch found), fun has => absurd has hasNot⟩

end ArrayParameterTemplate

end SmartMetWfs.Handlers
