import SmartMetWfs.Templates.UrlDefinitions

/-!
# Which texts define parameters

The documented forms are the only texts that `parse_param_def` should accept. It does not
ask for the end of the text behind a reference, so that more text may follow there.
-/

namespace SmartMetWfs.Templates

open Foundation Xml

/-- The text defines the parameter in one of the documented forms. -/
def Defines (text : ByteString) (param : UrlParam) : Prop :=
  ∃ definition : UrlDefinition, definition.spell = text ∧ definition.param = param

/-- Just the documented forms are accepted, apart from blanks around them. -/
def DefinitionsExact (str : ByteString) : Prop :=
  ∀ param, parseParamDef str = .ok param ↔ Defines (trimCopy str) param

/-- A text that begins with a reference and goes on. -/
def GoesOn (text : ByteString) : Prop :=
  ∃ occurrence name nonempty more, more ≠ [] ∧
    text = (UrlDefinition.reference occurrence name nonempty).spell ++ more

/-! ### What is parsed -/

/-- A constant is a name and a value with an equals sign between them. -/
theorem parseConst_eq_some {src : ByteString} {param : StringParam} :
    parseConst src = some param ↔
      ∃ name : ParamName, name.1 ≠ [] ∧ name.1 = param.name ∧
        src = name.1 ++ 61 :: param.value := by
  constructor
  · intro parsed
    unfold parseConst at parsed
    split at parsed
    · next value dropped =>
        split at parsed
        · cases parsed
        · next nonempty =>
            cases parsed
            refine ⟨⟨src.takeWhile isNameByte, fun _ => List.mem_takeWhile_imp⟩, nonempty, rfl, ?_⟩
            rw [← dropped]
            exact (List.takeWhile_append_dropWhile ..).symm
    · cases parsed
  · rintro ⟨name, nonempty, isName, rfl⟩
    obtain ⟨taken, dropped⟩ :=
      UrlDefinition.takeWhile_nameByte name (by decide : isNameByte 61 = false) param.value
    unfold parseConst
    rw [dropped, taken, isName]
    exact if_neg (isName ▸ nonempty)

theorem readOccurrence_append (src : ByteString) :
    (readOccurrence src).1.spell ++ (readOccurrence src).2 = src := by
  unfold readOccurrence
  split
  · rfl
  · rfl
  · rfl

theorem spell_reference_append (occurrence : Occurrence) (name : ParamName) (nonempty : name.1 ≠ [])
    (more : ByteString) : (UrlDefinition.reference occurrence name nonempty).spell ++ more =
      36 :: 123 :: (occurrence.spell ++ (name.1 ++ closeBrace :: more)) := by
  simp [UrlDefinition.spell, dollar, openBrace]

/-- A reference is read with any text behind it. -/
theorem parseRef_eq_some {src : ByteString} {param : ParamRef} :
    parseRef src = some param ↔ ∃ occurrence name nonempty more,
      src = (UrlDefinition.reference occurrence name nonempty).spell ++ more ∧
        (UrlDefinition.reference occurrence name nonempty).param = .ref param := by
  constructor
  · intro parsed
    unfold parseRef at parsed
    split at parsed
    · next src =>
        dsimp only at parsed
        split at parsed
        · next name more named =>
            split at parsed
            · cases parsed
            · next nonempty =>
                cases parsed
                refine ⟨(readOccurrence src).1, name, nonempty, more, ?_, rfl⟩
                rw [spell_reference_append, ← readName_eq_ok.mp named, readOccurrence_append]
        · cases parsed
    · cases parsed
  · rintro ⟨occurrence, name, nonempty, more, rfl, isParam⟩
    cases isParam
    have flagged := readOccurrence_spell occurrence name more
    have named : readName (name.1 ++ closeBrace :: more) = .ok (name, more) :=
      readName_eq_ok.mpr rfl
    rw [spell_reference_append]
    simp only [parseRef, flagged, named]
    exact if_neg nonempty

/-- A reference is no constant. -/
theorem parseConst_reference (occurrence : Occurrence) (name : ParamName) (nonempty : name.1 ≠ [])
    (more : ByteString) :
    parseConst ((UrlDefinition.reference occurrence name nonempty).spell ++ more) = none := rfl

/-- A constant or, where the text is none, a reference. -/
theorem parseParamDef_eq_ok {str : ByteString} {param : UrlParam} :
    parseParamDef str = .ok param ↔
      (∃ constant, parseConst (trimCopy str) = some constant ∧ param = .string constant) ∨
        (parseConst (trimCopy str) = none ∧
          ∃ ref, parseRef (trimCopy str) = some ref ∧ param = .ref ref) := by
  unfold parseParamDef
  dsimp only
  cases parseConst (trimCopy str) with
  | some constant =>
      rw [or_iff_left fun other => nomatch other.1]
      constructor
      · intro parsed
        exact ⟨constant, rfl, (Except.ok.inj parsed).symm⟩
      · rintro ⟨_, same, rfl⟩
        rw [Option.some.inj same]
  | none =>
      rw [or_iff_right fun ⟨_, isConst, _⟩ => nomatch isConst]
      cases parseRef (trimCopy str) with
      | some ref =>
          constructor
          · intro parsed
            exact ⟨rfl, ref, rfl, (Except.ok.inj parsed).symm⟩
          · rintro ⟨_, _, same, rfl⟩
            rw [Option.some.inj same]
      | none => exact iff_of_false nofun fun ⟨_, _, parsed, _⟩ => nomatch parsed

/-- What is parsed as a constant is documented. -/
theorem defines_of_parseConst {str : ByteString} {constant : StringParam}
    (parsed : parseConst (trimCopy str) = some constant) :
    Defines (trimCopy str) (.string constant) := by
  obtain ⟨name, nonempty, isName, spelled⟩ := parseConst_eq_some.mp parsed
  have trimmed : ∀ byte ∈ constant.value.getLast?, isSpace byte = false := by
    intro byte isLast
    apply trim_getLast isSpace str byte
    change byte ∈ (trimCopy str).getLast?
    rw [spelled, List.getLast?_append_cons, List.getLast?_cons, Option.mem_def.mp isLast]
    rfl
  refine ⟨.constant name nonempty constant.value trimmed, spelled.symm, ?_⟩
  rw [UrlDefinition.param, isName]

/-- A documented form is parsed. -/
theorem parseParamDef_of_defines {str : ByteString} {param : UrlParam}
    (defines : Defines (trimCopy str) param) : parseParamDef str = .ok param := by
  obtain ⟨definition, spelled, rfl⟩ := defines
  have parsed := UrlDefinition.parseParamDef_spell definition
  unfold parseParamDef at parsed ⊢
  rw [UrlDefinition.trimCopy_spell, spelled] at parsed
  exact parsed

/-- The two flags tell the three occurrences apart. -/
theorem occurrence_eq {occurrence occurrence' : Occurrence}
    (optional : decide (occurrence = .optional) = decide (occurrence' = .optional))
    (array : decide (occurrence = .array) = decide (occurrence' = .array)) :
    occurrence = occurrence' := by
  rw [decide_eq_decide] at optional array
  cases occurrence with
  | optional => exact (optional.mp rfl).symm
  | array => exact (array.mp rfl).symm
  | mandatory =>
      cases occurrence' with
      | mandatory => rfl
      | optional => exact optional.mpr rfl
      | array => exact array.mpr rfl

/-- The text of a reference is known from its parameter. -/
theorem spell_eq_of_param {occurrence : Occurrence} {name : ParamName} {nonempty : name.1 ≠ []}
    {definition : UrlDefinition}
    (same : definition.param = (UrlDefinition.reference occurrence name nonempty).param) :
    definition.spell = (UrlDefinition.reference occurrence name nonempty).spell := by
  cases definition with
  | constant => cases same
  | reference occurrence' name' nonempty' =>
      obtain ⟨isName, optional, array⟩ := ParamRef.mk.inj (UrlParam.ref.inj same)
      rw [UrlDefinition.spell, UrlDefinition.spell, isName, occurrence_eq optional array]

/-- A reference that goes on is accepted as the reference alone. -/
theorem not_definitionsExact_of_goesOn {str : ByteString} (goesOn : GoesOn (trimCopy str)) :
    ¬ DefinitionsExact str := by
  intro exact
  obtain ⟨occurrence, name, nonempty, more, some', spelled⟩ := goesOn
  have notConst : parseConst (trimCopy str) = none := by
    rw [spelled]
    exact parseConst_reference occurrence name nonempty more
  have isRef := parseRef_eq_some.mpr ⟨occurrence, name, nonempty, more, spelled, rfl⟩
  have accepted := parseParamDef_eq_ok.mpr (.inr ⟨notConst, _, isRef, rfl⟩)
  obtain ⟨definition, whole, sameParam⟩ := (exact _).mp accepted
  have same : definition.spell = (UrlDefinition.reference occurrence name nonempty).spell :=
    spell_eq_of_param sameParam
  rw [same, spelled] at whole
  exact some' (List.self_eq_append_right.mp whole)

/-- Just the documented forms are accepted exactly if the text is no reference that goes on. -/
theorem definitionsExact_iff (str : ByteString) :
    DefinitionsExact str ↔ ¬ GoesOn (trimCopy str) := by
  refine ⟨fun exact goesOn => not_definitionsExact_of_goesOn goesOn exact, fun ends param => ?_⟩
  refine ⟨fun parsed => ?_, parseParamDef_of_defines⟩
  rcases parseParamDef_eq_ok.mp parsed with ⟨constant, isConst, rfl⟩ | ⟨_, ref, isRef, rfl⟩
  · exact defines_of_parseConst isConst
  · obtain ⟨occurrence, name, nonempty, more, spelled, isParam⟩ := parseRef_eq_some.mp isRef
    have nothing : more = [] := by
      by_contra goesOn
      exact ends ⟨occurrence, name, nonempty, more, goesOn, spelled⟩
    rw [nothing, List.append_nil] at spelled
    exact ⟨.reference occurrence name nonempty, spelled.symm, isParam⟩

/-- A reference with a word behind it. -/
def longReference : ByteString := ascii "$\x7bfoo\x7dbar"

/-- The word is ignored. -/
theorem longReference_accepted :
    parseParamDef longReference = .ok (.ref ⟨ascii "foo", false, false⟩) ∧
      ¬ DefinitionsExact longReference := by
  refine ⟨rfl, not_definitionsExact_of_goesOn ?_⟩
  have isName : ∀ byte ∈ ascii "foo", isNameByte byte = true := List.all_eq_true.mp rfl
  exact ⟨.mandatory, ⟨ascii "foo", isName⟩, List.cons_ne_nil _ _, ascii "bar",
    List.cons_ne_nil _ _, rfl⟩

end SmartMetWfs.Templates
