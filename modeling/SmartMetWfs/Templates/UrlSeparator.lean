import Mathlib.Data.List.Induction
import SmartMetWfs.Templates.UrlTemplateGenerator

/-!
# Separators of generated URLs

The separator before the first parameter is chosen by looking at the URL template, before
its references are replaced. Its own characters stay in the expanded URL, but the values
of references may bring a question mark that the template does not show, or end the URL
with a separator.
-/

namespace SmartMetWfs.Templates

open Foundation

/-- The text ends where a parameter can follow at once. -/
def EndsOpen (text : ByteString) : Prop := text.getLast? = some 63 ∨ text.getLast? = some 38

instance (text : ByteString) : Decidable (EndsOpen text) := instDecidableOr

/-- The separator that the expanded URL needs. -/
def rightSeparator (base : ByteString) : ByteString :=
  if 63 ∉ base then ascii "?" else if EndsOpen base then [] else ascii "&"

/-- Whenever parameters are appended, they come after the separator the base needs. -/
def HasRightSeparator (generator : UrlTemplateGenerator) (paramGetter : ParamGetter) : Prop :=
  ∀ base pairs result, evalStringParam generator.url paramGetter false = .ok base →
    pairsOf paramGetter generator.params = .ok pairs → pairs ≠ [] →
      generator.generate paramGetter = .ok result →
        result = base ++ rightSeparator base ++ queryText pairs

/-- What a reference in a URL template stands for. -/
def urlValue (paramGetter : ParamGetter) (name : ParamName) : ByteString :=
  match paramGetter name.1 with
  | .ok values => joinValues values
  | .error _ => []

/-- A reference in a URL template asks for one value at most. -/
def UrlRefMet (paramGetter : ParamGetter) (name : ParamName) : Prop :=
  ∃ values, paramGetter name.1 = .ok values ∧ values.length ≤ 1

/-- A reference of an address has a value when it is met. -/
theorem paramRefText_valued (paramGetter : ParamGetter) :
    TemplateForm.Valued (paramRefText paramGetter false) (UrlRefMet paramGetter)
      (urlValue paramGetter) := by
  intro name replaced
  unfold paramRefText UrlRefMet urlValue
  cases paramGetter name.1 with
  | error failure =>
      refine iff_of_false (fun failed => by cases failed) fun met => ?_
      obtain ⟨⟨values, found, _⟩, _⟩ := met
      cases found
  | ok values =>
      change (if _ then _ else _) = _ ↔ _
      by_cases single : values.length ≤ 1
      · rw [if_neg (by simpa using single)]
        simp [single, eq_comm]
      · rw [if_pos (by simpa using single)]
        simp [single]

/-- The text of a template. -/
def templateText (segments : List urlForm.Segment) : ByteString :=
  segments.flatMap TemplateForm.Segment.spell

/-- The URL that a template expands to. -/
def expansion (paramGetter : ParamGetter) (segments : List urlForm.Segment) : ByteString :=
  segments.flatMap (TemplateForm.Segment.text (urlValue paramGetter))

/-- The template shows what its expansion needs: a question mark of its own, and then no
separator at the end that only a reference brings; or no question mark in it nor in the
values it refers to. -/
def SeparatorFits (paramGetter : ParamGetter) (segments : List urlForm.Segment) : Prop :=
  (63 ∈ templateText segments ∧
      (EndsOpen (templateText segments) ∨ ¬ EndsOpen (expansion paramGetter segments))) ∨
    (63 ∉ templateText segments ∧ templateText segments ≠ [] ∧
      ∀ name, .reference name ∈ segments → 63 ∉ urlValue paramGetter name)

/-! ### Templates and their expansions -/

/-- No part of a reference is a separator. -/
theorem spellUrlRef_plain {name : ParamName} {byte : UInt8} (member : byte ∈ spellUrlRef name) :
    byte ≠ 63 ∧ byte ≠ 38 := by
  rcases List.mem_cons.mp member with rfl | inRest
  · decide
  · rcases List.mem_append.mp inRest with inName | isClose
    · have isName := name.2 byte inName
      constructor <;> rintro rfl <;> exact absurd isName (by decide)
    · rw [List.mem_singleton.mp isClose]
      decide

variable {paramGetter : ParamGetter} {segments : List urlForm.Segment}

/-- A question mark of the template is in the expansion. -/
theorem expansion_of_template (inTemplate : 63 ∈ templateText segments) :
    63 ∈ expansion paramGetter segments := by
  obtain ⟨segment, isSegment, spelled⟩ := List.mem_flatMap.mp inTemplate
  refine List.mem_flatMap.mpr ⟨segment, isSegment, ?_⟩
  cases segment with
  | ordinary symbol plain => exact spelled
  | escaped symbol =>
      rcases List.mem_cons.mp spelled with isEscape | isSymbol
      · exact absurd isEscape (by decide)
      · exact isSymbol
  | reference name =>
      rcases List.mem_cons.mp spelled with isMark | inRef
      · exact absurd isMark (by decide)
      · exact absurd rfl (spellUrlRef_plain inRef).1

/-- Without a question mark of its own, a template gets one only from a value. -/
theorem template_of_expansion (notInTemplate : 63 ∉ templateText segments) :
    63 ∈ expansion paramGetter segments ↔
      ∃ name, .reference name ∈ segments ∧ 63 ∈ urlValue paramGetter name := by
  constructor
  · intro inExpansion
    obtain ⟨segment, isSegment, expanded⟩ := List.mem_flatMap.mp inExpansion
    have notSpelled : 63 ∉ segment.spell := fun spelled =>
      notInTemplate (List.mem_flatMap.mpr ⟨segment, isSegment, spelled⟩)
    cases segment with
    | ordinary symbol plain => exact absurd expanded notSpelled
    | escaped symbol => exact absurd (List.mem_cons_of_mem _ expanded) notSpelled
    | reference name => exact ⟨name, isSegment, expanded⟩
  · intro ⟨name, isSegment, inValue⟩
    exact List.mem_flatMap.mpr ⟨_, isSegment, inValue⟩

theorem endsOpen_append (text : ByteString) {more : ByteString} (nonempty : more ≠ []) :
    EndsOpen (text ++ more) ↔ EndsOpen more := by
  rw [EndsOpen, List.getLast?_append_of_ne_nil _ nonempty]
  rfl

/-- A separator at the end of a template is no part of a reference. -/
theorem endsOpen_expansion (endsOpen : EndsOpen (templateText segments)) :
    EndsOpen (expansion paramGetter segments) := by
  cases segments using List.reverseRecOn with
  | nil => exact absurd endsOpen (by decide)
  | append_singleton segments segment =>
      have spelled : templateText (segments ++ [segment]) =
          templateText segments ++ segment.spell := by
        simp [templateText]
      have expanded : expansion paramGetter (segments ++ [segment]) =
          expansion paramGetter segments ++ segment.text (urlValue paramGetter) := by
        simp [expansion]
      rw [spelled] at endsOpen
      rw [expanded]
      cases segment with
      | ordinary symbol plain =>
          have last := (endsOpen_append _ (List.cons_ne_nil symbol [])).mp endsOpen
          exact (endsOpen_append _ (List.cons_ne_nil symbol [])).mpr last
      | escaped symbol =>
          have last := (endsOpen_append _ (List.cons_ne_nil _ _)).mp endsOpen
          exact (endsOpen_append _ (List.cons_ne_nil symbol [])).mpr last
      | reference name =>
          have last := (endsOpen_append _ (List.cons_ne_nil _ _)).mp endsOpen
          have closed : dollar :: spellUrlRef name = (dollar :: openBrace :: name.1) ++ [125] := rfl
          change EndsOpen (dollar :: spellUrlRef name) at last
          rw [closed, endsOpen_append _ (List.cons_ne_nil _ _)] at last
          exact absurd last (by decide)

/-- The separator for an address without null bytes. -/
theorem firstParamSeparator_eq {url : ByteString} (nulFree : 0 ∉ url) :
    firstParamSeparator url =
      if url = [] then []
      else if 63 ∉ url then ascii "?" else if EndsOpen url then [] else ascii "&" := by
  unfold firstParamSeparator EndsOpen
  rw [cStr_eq nulFree]
  by_cases empty : url = []
  · simp [empty]
  · by_cases inUrl : 63 ∈ url
    · by_cases question : url.getLast? = some 63
      · simp [empty, inUrl, question]
      · by_cases ampersand : url.getLast? = some 38
        · simp [empty, inUrl, ampersand]
        · simp [empty, inUrl, question, ampersand]
    · have question : url.getLast? ≠ some 63 := fun last => inUrl (List.mem_of_getLast? last)
      simp [empty, inUrl, question]

/-- The separator chosen from a template is right exactly when the template shows it. -/
theorem firstParamSeparator_right_iff (nulFree : 0 ∉ templateText segments) :
    firstParamSeparator (templateText segments) =
        rightSeparator (expansion paramGetter segments) ↔
      SeparatorFits paramGetter segments := by
  rw [firstParamSeparator_eq nulFree, rightSeparator, SeparatorFits]
  have mark : ascii "?" ≠ [] ∧ ascii "&" ≠ [] ∧ ascii "?" ≠ ascii "&" := by decide
  obtain ⟨markSome, andSome, markAnd⟩ := mark
  by_cases inTemplate : 63 ∈ templateText segments
  · have nonempty : templateText segments ≠ [] := List.ne_nil_of_mem inTemplate
    have inExpansion := @expansion_of_template paramGetter segments inTemplate
    by_cases open_ : EndsOpen (templateText segments)
    · have expansionOpen := @endsOpen_expansion paramGetter segments open_
      simp [nonempty, inTemplate, inExpansion, open_, expansionOpen]
    · by_cases expansionOpen : EndsOpen (expansion paramGetter segments)
      · simp [nonempty, inTemplate, inExpansion, open_, expansionOpen, andSome]
      · simp [nonempty, inTemplate, inExpansion, open_, expansionOpen]
  · have values := @template_of_expansion paramGetter segments inTemplate
    by_cases empty : templateText segments = []
    · have noSegments : segments = [] := by
        refine List.eq_nil_iff_forall_not_mem.mpr fun segment member => ?_
        have spelled := List.flatMap_eq_nil_iff.mp empty segment member
        cases segment <;> cases spelled
      subst noSegments
      have bare : firstParamSeparator [] ≠ rightSeparator [] := by decide
      rw [firstParamSeparator_eq List.not_mem_nil] at bare
      exact iff_of_false bare (by simp [templateText])
    · by_cases inExpansion : 63 ∈ expansion paramGetter segments
      · obtain ⟨name, isSegment, inValue⟩ := values.mp inExpansion
        refine iff_of_false ?_ ?_
        · rw [if_neg empty, if_pos inTemplate, if_neg (not_not.mpr inExpansion)]
          split
          · exact markSome
          · exact markAnd
        · intro fits
          rcases fits with ⟨absurd_, _⟩ | ⟨_, _, noValue⟩
          · exact inTemplate absurd_
          · exact noValue name isSegment inValue
      · refine iff_of_true ?_ (.inr ⟨inTemplate, empty, fun name isSegment inValue => ?_⟩)
        · rw [if_neg empty, if_pos inTemplate, if_pos inExpansion]
        · exact inExpansion (values.mpr ⟨name, isSegment, inValue⟩)

/-- The parameters of a generated URL come after the separator its base needs exactly when
the template shows it: the template has a question mark of its own and, unless it ends
with a separator itself, its expansion does not; or it is not empty and neither it nor a
value it refers to has a question mark. -/
theorem hasRightSeparator_iff (generator : UrlTemplateGenerator) (paramGetter : ParamGetter)
    (nulFree : 0 ∉ generator.url) {pairs : List (ByteString × ByteString)} {result : ByteString}
    (called : pairsOf paramGetter generator.params = .ok pairs) (someParam : pairs ≠ [])
    (generated : generator.generate paramGetter = .ok result) :
    HasRightSeparator generator paramGetter ↔
      ∃ segments, templateText segments = generator.url ∧ SeparatorFits paramGetter segments := by
  obtain ⟨base, pairs', evaluated, called', written⟩ := generate_eq_ok generated
  obtain rfl := Except.ok.inj (called.symm.trans called')
  rw [if_neg someParam] at written
  have expands : urlForm.Expands (UrlRefMet paramGetter) (urlValue paramGetter) generator.url
      base := by
    have ran := evaluated
    rw [evalStringParam, cStr_eq nulFree] at ran
    exact (TemplateForm.expand_eq_ok_iff (paramRefText_valued paramGetter)).mp ran
  have right_iff : HasRightSeparator generator paramGetter ↔
      firstParamSeparator generator.url = rightSeparator base := by
    constructor
    · intro hasRight
      have placed := hasRight base pairs result evaluated called someParam generated
      rw [written] at placed
      exact List.append_cancel_left (List.append_cancel_right placed)
    · intro right base' pairs' result' evaluated' called' _ generated'
      obtain rfl := Except.ok.inj (evaluated.symm.trans evaluated')
      obtain rfl := Except.ok.inj (called.symm.trans called')
      obtain rfl := Except.ok.inj (generated.symm.trans generated')
      rw [written, right]
  obtain ⟨segments, spelled, _, rfl⟩ := expands
  change templateText segments = generator.url at spelled
  rw [← spelled] at nulFree right_iff
  rw [right_iff]
  refine (firstParamSeparator_right_iff nulFree).trans ⟨fun fits => ⟨segments, spelled, fits⟩, ?_⟩
  intro ⟨others, spelled', fits⟩
  rw [TemplateForm.segments_unique (spelled.trans spelled'.symm)]
  exact fits

/-- A getter of the address of another service. -/
def addressGetter : ParamGetter := fun _ => .ok [ascii "/wms?map=1"]

/-- A generator whose base URL is all in a parameter. -/
def addressGenerator : UrlTemplateGenerator where
  url := ascii "${base}"
  params := [.string ⟨ascii "x", ascii "2"⟩]

/-- The address is the value of the reference. -/
theorem addressGenerator_base :
    evalStringParam addressGenerator.url addressGetter false = .ok (ascii "/wms?map=1") := by
  apply (TemplateForm.expand_eq_ok_iff (paramRefText_valued addressGetter)).mpr
  refine ⟨[.reference ⟨ascii "base", List.all_eq_true.mp (by decide)⟩], by decide, ?_, by decide⟩
  exact fun name _ => ⟨_, rfl, le_rfl⟩

/-- The value of the definition. -/
theorem addressGenerator_value :
    evalStringParam (ascii "2") addressGetter true = .ok (ascii "2") :=
  urlForm.expand_protect (ascii "2")

/-- The only pair. -/
theorem addressGenerator_pairs :
    pairsOf addressGetter addressGenerator.params = .ok [(ascii "x", ascii "2")] := by
  rw [pairsOf, addressGenerator, List.mapM_cons, UrlParam.pairs, addressGenerator_value]
  rfl

/-- The address gets a second question mark. -/
theorem addressGenerator_generate :
    addressGenerator.generate addressGetter = .ok (ascii "/wms?map=1?x=2") := by
  have appended : addressGenerator.params.foldlM (appendParam addressGetter)
      ⟨ascii "/wms?map=1", firstParamSeparator addressGenerator.url⟩ =
        .ok ⟨ascii "/wms?map=1?x=2", ascii "&"⟩ := by
    rw [addressGenerator, List.foldlM_cons, appendParam, addressGenerator_value]
    rfl
  rw [UrlTemplateGenerator.generate, addressGenerator_base]
  exact congrArg (fun looped : Except TemplateError UrlState =>
    looped >>= fun state => pure state.result) appended

/-- The separator is the right one when it fits the address. -/
theorem hasRightSeparator_address :
    HasRightSeparator addressGenerator addressGetter ↔
      ∃ segments, templateText segments = addressGenerator.url ∧
        SeparatorFits addressGetter segments :=
  hasRightSeparator_iff addressGenerator addressGetter (by decide) addressGenerator_pairs
    (List.cons_ne_nil _ _) addressGenerator_generate

/-- The generated URL has a second question mark. -/
theorem second_question_mark : ¬ HasRightSeparator addressGenerator addressGetter := by
  intro hasRight
  have placed := hasRight _ _ _ addressGenerator_base addressGenerator_pairs
    (List.cons_ne_nil _ _) addressGenerator_generate
  exact absurd placed (by decide)

end SmartMetWfs.Templates
