import SmartMetWfs.Handlers.ItemDefinitions
import Mathlib.Data.List.Induction

/-!
# Items that are parsed more than once

Whatever an item held before, a definition that is accepted makes it behave as if it had
been parsed into a fresh object: `reset` leaves the redirection alone, but an absent item
and a constant never look at it. A definition that is refused has cleared the item, and is
noticed unless the item was absent.
-/

namespace SmartMetWfs.Handlers

open Foundation Parameters Xml

/-! ### Calls of `parse` -/

/-- A call of the parser with its arguments. -/
structure ParseCall where
  itemDef : Value
  allowAbsent : Bool

namespace ParseCall

/-- What a call makes of the item. -/
def run (call : ParseCall) (configured : ConfiguredItem) :
    Except ByteString Unit × ConfiguredItem :=
  configured.parse call.itemDef call.allowAbsent

/-- What a definition is. -/
inductive Form
  | refused
  | absent
  | present
  deriving DecidableEq

/-- What a call does with its text. -/
def form (call : ParseCall) : Form :=
  match call.itemDef with
  | .string text =>
      let src := trimCopy text
      if (readReference src).isSome then .present
      else if call.allowAbsent ∧ isAbsentMark src then .absent
      else if beginsLikeReference src then .refused
      else .present
  | _ => .present

end ParseCall

/-- One more call on an object, with the last call that has not thrown. -/
def parseNext (state : ConfiguredItem × Option ParseCall) (call : ParseCall) :
    ConfiguredItem × Option ParseCall :=
  match call.run state.1 with
  | (.ok (), configured) => (configured, some call)
  | (.error _, configured) => (configured, state.2)

/-- The calls one after another on one object, and the last of them that has not thrown. -/
def parseAll (calls : List ParseCall) : ConfiguredItem × Option ParseCall :=
  calls.foldl parseNext (.initial, none)

/-- The last call comes after the others. -/
theorem parseAll_concat (calls : List ParseCall) (call : ParseCall) :
    parseAll (calls ++ [call]) = parseNext (parseAll calls) call := List.foldl_concat ..

/-- A fresh object after one call only. -/
def freshAfter : Option ParseCall → ConfiguredItem
  | none => .initial
  | some call => (call.run .initial).2

/-- No `get_value` tells the items apart. -/
structure Indistinct (first second : ConfiguredItem) : Prop where
  weak : first.weak = second.weak
  optional : ∀ extraParams reqParamMap allowArray,
    first.item.getOptionalValue (handleRedirection extraParams reqParamMap) reqParamMap allowArray =
      second.item.getOptionalValue (handleRedirection extraParams reqParamMap) reqParamMap
        allowArray
  required : ∀ extraParams reqParamMap allowArray,
    first.item.getValue (handleRedirection extraParams reqParamMap) reqParamMap allowArray =
      second.item.getValue (handleRedirection extraParams reqParamMap) reqParamMap allowArray

/-- The item behaves as its last successful parse says. -/
def BehavesAsParsed (calls : List ParseCall) : Prop :=
  Indistinct (parseAll calls).1 (freshAfter (parseAll calls).2)

/-- The last call whose definition is not refused. -/
def lastAccepted (calls : List ParseCall) : Option ParseCall :=
  calls.reverse.find? fun call => call.form ≠ .refused

/-- The last definition is accepted, or the last one that is leaves the item absent. -/
def EndsWell (calls : List ParseCall) : Prop :=
  (∀ call ∈ calls.getLast?, call.form ≠ .refused) ∨
    ∀ call ∈ lastAccepted calls, call.form = .absent

/-! ### What one call does -/

theorem Indistinct.refl (configured : ConfiguredItem) : Indistinct configured configured :=
  ⟨rfl, fun _ _ _ => rfl, fun _ _ _ => rfl⟩

/-- Absent items cannot be told apart. -/
theorem indistinct_of_absent {first second : ConfiguredItem} (weak : first.weak = second.weak)
    (absent : first.item.absent = true) (absent' : second.item.absent = true) :
    Indistinct first second := by
  refine ⟨weak, fun _ _ _ => ?_, fun _ _ _ => ?_⟩
  · unfold ParameterTemplateItem.getOptionalValue
    rw [absent, absent']
    rfl
  · unfold ParameterTemplateItem.getValue ParameterTemplateItem.getOptionalValue
    rw [absent, absent']
    rfl

/-- A constant is told by its value. -/
theorem indistinct_of_plainText {first second : ConfiguredItem} {plainText : Value}
    (weak : first.weak = second.weak) (present : first.item.absent = false)
    (present' : second.item.absent = false) (text : first.item.plainText = some plainText)
    (text' : second.item.plainText = some plainText) : Indistinct first second := by
  refine ⟨weak, fun _ _ _ => ?_, fun _ _ _ => ?_⟩
  · unfold ParameterTemplateItem.getOptionalValue
    rw [present, present', text, text']
  · unfold ParameterTemplateItem.getValue ParameterTemplateItem.getOptionalValue
    rw [present, present', text, text']
    rfl

/-- A reference names a parameter. -/
theorem paramRef_of_readReference {src : ByteString} {reference : ConfiguredItem}
    (found : readReference src = some reference) : reference.item.paramRef.isSome = true := by
  unfold readReference at found
  obtain ⟨⟨weak, afterType⟩, _, found⟩ := Option.bind_eq_some_iff.mp found
  obtain ⟨afterBrace, _, found⟩ := Option.bind_eq_some_iff.mp found
  obtain ⟨⟨paramRef, afterName⟩, _, found⟩ := Option.bind_eq_some_iff.mp found
  obtain ⟨rest, _, found⟩ := Option.bind_eq_some_iff.mp found
  dsimp only at found
  split at found
  · cases found
    rfl
  · cases found

namespace ParseCall

/-- What a call with a text does, by the grammar. -/
theorem run_text (text : ByteString) (allowAbsent : Bool) (configured : ConfiguredItem) :
    (⟨.string text, allowAbsent⟩ : ParseCall).run configured =
      configured.parseText text allowAbsent := rfl

/-- A refused definition clears the item. -/
theorem run_refused {call : ParseCall} (refused : call.form = .refused)
    (configured : ConfiguredItem) :
    ∃ src, call.run configured = (.error src, configured.clear) := by
  obtain ⟨itemDef, allowAbsent⟩ := call
  cases itemDef with
  | string text =>
      rw [run_text]
      simp only [form] at refused
      unfold ConfiguredItem.parseText
      cases reference : readReference (trimCopy text) with
      | some found =>
          simp only [reference, Option.isSome_some, if_true] at refused
          cases refused
      | none =>
          simp only [reference, Option.isSome_none, Bool.false_eq_true, if_false] at refused ⊢
          split at refused
          · cases refused
          · next notAbsent =>
              split at refused
              · next malformed =>
                  exact ⟨_, by rw [if_neg notAbsent, if_pos malformed]⟩
              · cases refused
  | _ => cases refused

/-- An accepted definition is absent or not as it says, and a fresh object is told by it
just as any other. -/
theorem run_accepted {call : ParseCall} (accepted : call.form ≠ .refused)
    (configured : ConfiguredItem) :
    ∃ after, call.run configured = (.ok (), after) ∧
      (after.item.absent = true ↔ call.form = .absent) ∧
      (call.form = .absent ∨ after.item.plainText.isSome = true ∨
        after.item.paramRef.isSome = true) ∧
      Indistinct after (call.run .initial).2 := by
  obtain ⟨itemDef, allowAbsent⟩ := call
  cases itemDef with
  | string text =>
      rw [run_text, run_text]
      simp only [form] at accepted ⊢
      unfold ConfiguredItem.parseText
      cases reference : readReference (trimCopy text) with
      | some found =>
          simp only [reference, Option.isSome_some, if_true]
          have given := paramRef_of_readReference reference
          exact ⟨_, rfl, ⟨nofun, nofun⟩, .inr (.inr given), .refl _⟩
      | none =>
          simp only [reference, Option.isSome_none, Bool.false_eq_true, if_false] at accepted ⊢
          by_cases isAbsent : allowAbsent = true ∧ isAbsentMark (trimCopy text) = true
          · simp only [if_pos isAbsent]
            exact ⟨_, rfl, ⟨fun _ => trivial, fun _ => rfl⟩, .inl trivial,
              indistinct_of_absent rfl rfl rfl⟩
          · simp only [if_neg isAbsent] at accepted ⊢
            by_cases malformed : beginsLikeReference (trimCopy text) = true
            · exact absurd (if_pos malformed) accepted
            · simp only [if_neg malformed]
              exact ⟨_, rfl, ⟨nofun, nofun⟩, .inr (.inl rfl),
                indistinct_of_plainText rfl rfl rfl rfl rfl⟩
  | _ => exact ⟨_, rfl, ⟨nofun, nofun⟩, .inr (.inl rfl),
    indistinct_of_plainText rfl rfl rfl rfl rfl⟩

end ParseCall

/-! ### Sequences of calls -/

/-- A call that is accepted is the last one of these. -/
theorem parseAll_accepted (calls : List ParseCall) {call : ParseCall}
    (accepted : call.form ≠ .refused) :
    parseAll (calls ++ [call]) = ((call.run (parseAll calls).1).2, some call) ∧
      lastAccepted (calls ++ [call]) = some call := by
  obtain ⟨after, ran, _⟩ := call.run_accepted accepted (parseAll calls).1
  constructor
  · rw [parseAll_concat, parseNext, ran]
  · unfold lastAccepted
    rw [List.reverse_append]
    exact List.find?_cons_of_pos (decide_eq_true accepted)

/-- A call that is refused leaves the last one that was accepted. -/
theorem parseAll_refused (calls : List ParseCall) {call : ParseCall}
    (refused : call.form = .refused) :
    parseAll (calls ++ [call]) = ((parseAll calls).1.clear, (parseAll calls).2) ∧
      lastAccepted (calls ++ [call]) = lastAccepted calls := by
  obtain ⟨src, ran⟩ := call.run_refused refused (parseAll calls).1
  constructor
  · rw [parseAll_concat, parseNext, ran]
  · unfold lastAccepted
    rw [List.reverse_append]
    exact List.find?_cons_of_neg (by simp [refused])

/-- What is known of an item after a sequence of calls. -/
structure ParsedAs (configured : ConfiguredItem) (last : Option ParseCall) : Prop where
  accepted : ∀ call ∈ last, call.form ≠ .refused
  weak : configured.weak = (freshAfter last).weak
  absent : configured.item.absent = true ↔ ∀ call ∈ last, call.form = .absent

/-- After any calls the item is that of the last one that was accepted. -/
theorem parseAll_parsedAs (calls : List ParseCall) :
    (parseAll calls).2 = lastAccepted calls ∧ ParsedAs (parseAll calls).1 (lastAccepted calls) := by
  induction calls using List.reverseRecOn with
  | nil =>
      have none : lastAccepted [] = none := rfl
      rw [none]
      exact ⟨rfl, by simp, rfl, by simp, fun _ => rfl⟩
  | append_singleton calls call ih =>
      obtain ⟨same, parsedAs⟩ := ih
      by_cases refused : call.form = .refused
      · obtain ⟨parsed, last⟩ := parseAll_refused calls refused
        rw [parsed, last]
        exact ⟨same, parsedAs.accepted, parsedAs.weak, parsedAs.absent⟩
      · obtain ⟨parsed, last⟩ := parseAll_accepted calls refused
        obtain ⟨after, ran, absent, _, indistinct⟩ := call.run_accepted refused (parseAll calls).1
        rw [parsed, last, ran]
        refine ⟨rfl, fun _ isLast => ?_, indistinct.weak, absent.trans ?_⟩
        · cases isLast
          exact refused
        · simp

/-- A fresh object that is not absent is a constant or a reference. -/
theorem freshAfter_cases {last : Option ParseCall}
    (accepted : ∀ call ∈ last, call.form ≠ .refused) :
    ((∀ call ∈ last, call.form = .absent) ∧ (freshAfter last).item.absent = true) ∨
      ((¬ ∀ call ∈ last, call.form = .absent) ∧ (freshAfter last).item.absent = false ∧
        ((freshAfter last).item.plainText.isSome = true ∨
          (freshAfter last).item.paramRef.isSome = true)) := by
  cases last with
  | none => exact .inl ⟨by simp, rfl⟩
  | some call =>
      obtain ⟨after, ran, absent, set, _⟩ := call.run_accepted (accepted call rfl) .initial
      have fresh : freshAfter (some call) = after := congrArg Prod.snd ran
      rw [fresh]
      by_cases isAbsent : call.form = .absent
      · exact .inl ⟨fun _ isLast => Option.some.inj isLast ▸ isAbsent, absent.mpr isAbsent⟩
      · refine .inr ⟨fun all => isAbsent (all call rfl), ?_, ?_⟩
        · exact Bool.eq_false_iff.mpr fun holds => isAbsent (absent.mp holds)
        · rcases set with isAbsent' | set
          · exact absurd isAbsent' isAbsent
          · exact set

/-- A cleared item that is not absent is noticed. -/
theorem not_indistinct_clear {configured second : ConfiguredItem}
    (present : configured.item.absent = false) (present' : second.item.absent = false)
    (set : second.item.plainText.isSome = true ∨ second.item.paramRef.isSome = true) :
    ¬ Indistinct configured.clear second := by
  intro indistinct
  have same := indistinct.optional none (.empty false) true
  have cleared : configured.clear.item.getOptionalValue
      (handleRedirection none (.empty false)) (.empty false) true = .error .neitherIsSet := by
    unfold ParameterTemplateItem.getOptionalValue ConfiguredItem.clear
    rw [present]
    rfl
  rw [cleared] at same
  unfold ParameterTemplateItem.getOptionalValue at same
  rw [present'] at same
  cases text : second.item.plainText with
  | some plainText =>
      rw [text] at same
      cases same
  | none =>
      cases ref : second.item.paramRef with
      | none =>
          rw [text, ref] at set
          rcases set with none | none <;> cases none
      | some paramRef =>
          rw [text, ref] at same
          change _ = second.item.getAbsentRefValue _ true at same
          unfold ParameterTemplateItem.getAbsentRefValue at same
          split at same <;> cases same

/-- An item behaves as its last successful parse says exactly when the last call has not
thrown, or the item was absent before. -/
theorem behavesAsParsed_iff (calls : List ParseCall) : BehavesAsParsed calls ↔ EndsWell calls := by
  unfold BehavesAsParsed EndsWell
  induction calls using List.reverseRecOn with
  | nil => exact ⟨fun _ => .inl (by simp), fun _ => .refl _⟩
  | append_singleton calls call _ =>
      rw [List.getLast?_concat]
      by_cases refused : call.form = .refused
      · obtain ⟨same, parsedAs⟩ := parseAll_parsedAs calls
        obtain ⟨parsed, last⟩ := parseAll_refused calls refused
        rw [parsed, last, same]
        have notLast :
            ¬ ∀ other ∈ some call, other.form ≠ .refused := fun all => all call rfl refused
        rcases freshAfter_cases parsedAs.accepted with ⟨all, absent⟩ | ⟨notAll, present, set⟩
        · exact ⟨fun _ => .inr all, fun _ =>
            indistinct_of_absent parsedAs.weak (parsedAs.absent.mpr all) absent⟩
        · have present' : (parseAll calls).1.item.absent = false :=
            Bool.eq_false_iff.mpr fun absent => notAll (parsedAs.absent.mp absent)
          constructor
          · exact fun indistinct => absurd indistinct (not_indistinct_clear present' present set)
          · rintro (all | all)
            · exact absurd all notLast
            · exact absurd all notAll
      · obtain ⟨parsed, last⟩ := parseAll_accepted calls refused
        obtain ⟨after, ran, _, _, indistinct⟩ := call.run_accepted refused (parseAll calls).1
        rw [parsed, ran]
        refine ⟨fun _ => .inl fun _ isLast => ?_, fun _ => indistinct⟩
        cases isLast
        exact refused

/-- The constant `x` and then the refused text `${}`. -/
def constantThenRefused : List ParseCall :=
  [⟨.string [120], false⟩, ⟨.string [36, 123, 125], false⟩]

/-- The constant is lost. -/
theorem constantThenRefused_lost : ¬ BehavesAsParsed constantThenRefused := by
  intro behaves
  have same := behaves.optional none (.empty false) false
  cases same

end SmartMetWfs.Handlers
