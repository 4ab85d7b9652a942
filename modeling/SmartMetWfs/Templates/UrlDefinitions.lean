import SmartMetWfs.Foundation.Tokens
import SmartMetWfs.Templates.UrlTemplateGenerator

/-!
# Queries of generated URLs

The four documented forms of parameter definitions and the pairs they call for. A query
that is generated from definitions is read back as these pairs, whatever bytes the values
are made of.
-/

namespace SmartMetWfs.Templates

open Foundation Xml

/-- The forms of definitions: `name=template`, and `${name}`, `${?name}`, `${*name}`. A
definition does not end with blanks, which the constructor would cut off. -/
inductive UrlDefinition where
  | constant (name : ParamName) (nonempty : name.1 ≠ []) (template : ByteString)
      (trimmed : ∀ byte ∈ template.getLast?, isSpace byte = false)
  | reference (occurrence : Occurrence) (name : ParamName) (nonempty : name.1 ≠ [])

namespace UrlDefinition

/-- How a definition is written. -/
def spell : UrlDefinition → ByteString
  | constant name _ template _ => name.1 ++ 61 :: template
  | reference occurrence name _ =>
      dollar :: openBrace :: (occurrence.spell ++ (name.1 ++ [closeBrace]))

/-- What a definition is parsed to. -/
def param : UrlDefinition → UrlParam
  | constant name _ template _ => .string ⟨name.1, template⟩
  | reference occurrence name _ => .ref ⟨name.1, occurrence = .optional, occurrence = .array⟩

/-- The pairs that a definition calls for: one with the value of the template; one with the
values joined, that is left out for no values where the definition says so; or one for
each value. -/
def pairs (paramGetter : ParamGetter) :
    UrlDefinition → Except TemplateError (List (ByteString × ByteString))
  | constant name _ template _ =>
      (fun value => [(name.1, value)]) <$> evalStringParam template paramGetter true
  | reference .mandatory name _ =>
      (fun values => [(name.1, joinValues values)]) <$> paramGetter name.1
  | reference .optional name _ =>
      (fun values => if values = [] then [] else [(name.1, joinValues values)]) <$>
        paramGetter name.1
  | reference .array name _ =>
      (fun values => values.map fun value => (name.1, value)) <$> paramGetter name.1

/-- The parsed definition gives the pairs of the definition. -/
theorem pairs_param (paramGetter : ParamGetter) (definition : UrlDefinition) :
    definition.param.pairs paramGetter = definition.pairs paramGetter := by
  cases definition with
  | constant name nonempty template trimmed => rfl
  | reference occurrence name nonempty =>
      cases occurrence with
      | mandatory => rfl
      | array => rfl
      | optional =>
          refine congrArg (· <$> paramGetter name.1) (funext fun values => ?_)
          cases values <;> rfl

/-- A text without blanks at its ends is trimmed already. -/
theorem trimCopy_eq {text : ByteString} (first : ∀ byte ∈ text.head?, isSpace byte = false)
    (last : ∀ byte ∈ text.getLast?, isSpace byte = false) : trimCopy text = text :=
  trim_eq_self first last

/-- No definition has blanks at its ends. -/
theorem trimCopy_spell (definition : UrlDefinition) :
    trimCopy definition.spell = definition.spell := by
  have nameByte : ∀ byte, isNameByte byte = true → isSpace byte = false := by decide +kernel
  apply trimCopy_eq
  · intro byte isFirst
    cases definition with
    | constant name nonempty template trimmed =>
        obtain ⟨head, rest, isName⟩ := List.exists_cons_of_ne_nil nonempty
        rw [spell, isName] at isFirst
        cases isFirst
        exact nameByte byte (name.2 byte (isName ▸ List.mem_cons_self ..))
    | reference occurrence name nonempty =>
        cases isFirst
        rfl
  · intro byte isLast
    cases definition with
    | constant name nonempty template trimmed =>
        rw [spell, List.getLast?_append_of_ne_nil _ (List.cons_ne_nil _ _)] at isLast
        cases template with
        | nil =>
            cases isLast
            rfl
        | cons head rest => exact trimmed byte (by rwa [List.getLast?_cons_cons] at isLast)
    | reference occurrence name nonempty =>
        rw [spell, ← List.append_assoc, ← List.cons_append, ← List.cons_append,
          List.getLast?_concat] at isLast
        cases isLast
        rfl

/-- A name ends where its bytes do. -/
theorem takeWhile_nameByte (name : ParamName) {stop : UInt8} (stops : isNameByte stop = false)
    (rest : ByteString) :
    (name.1 ++ stop :: rest).takeWhile isNameByte = name.1 ∧
      (name.1 ++ stop :: rest).dropWhile isNameByte = stop :: rest := by
  have stops' := Bool.eq_false_iff.mp stops
  constructor
  · rw [List.takeWhile_append_of_pos name.2, List.takeWhile_cons_of_neg stops', List.append_nil]
  · rw [List.dropWhile_append_of_pos name.2, List.dropWhile_cons_of_neg stops']

/-- A definition is parsed as it is written. -/
theorem parseParamDef_spell (definition : UrlDefinition) :
    parseParamDef definition.spell = .ok definition.param := by
  unfold parseParamDef
  rw [trimCopy_spell]
  cases definition with
  | constant name nonempty template trimmed =>
      obtain ⟨taken, dropped⟩ :=
        takeWhile_nameByte name (by decide : isNameByte 61 = false) template
      have parsed : parseConst (name.1 ++ 61 :: template) = some ⟨name.1, template⟩ := by
        unfold parseConst
        rw [dropped, taken]
        exact if_neg nonempty
      rw [spell]
      simp only [parsed]
      rfl
  | reference occurrence name nonempty =>
      have parsed : parseRef (spell (reference occurrence name nonempty)) =
          some ⟨name.1, occurrence = .optional, occurrence = .array⟩ := by
        have flagged := readOccurrence_spell occurrence name []
        have named : readName (name.1 ++ [closeBrace]) = .ok (name, []) := readName_eq_ok.mpr rfl
        rw [spell]
        simp only [parseRef, dollar, openBrace, flagged, named]
        exact if_neg nonempty
      have notConst : parseConst (spell (reference occurrence name nonempty)) = none := rfl
      simp only [parsed, notConst]
      rfl

/-- The pairs that a list of definitions calls for. -/
def allPairs (paramGetter : ParamGetter) (definitions : List UrlDefinition) :
    Except TemplateError (List (ByteString × ByteString)) :=
  List.flatten <$> definitions.mapM (pairs paramGetter)

/-- The parsed definitions give the pairs of all. -/
theorem pairsOf_param (paramGetter : ParamGetter) (definitions : List UrlDefinition) :
    pairsOf paramGetter (definitions.map param) = allPairs paramGetter definitions := by
  have each : UrlParam.pairs paramGetter ∘ param = pairs paramGetter :=
    funext (pairs_param paramGetter)
  rw [pairsOf, allPairs, List.mapM_map, each]

/-- The definitions of an address are parsed one after the other. -/
theorem ofTemplates_spell (url : ByteString) (definitions : List UrlDefinition) :
    UrlTemplateGenerator.ofTemplates url (definitions.map spell) =
      .ok ⟨url, definitions.map param⟩ := by
  have parsed : (definitions.map spell).mapM parseParamDef = .ok (definitions.map param) := by
    induction definitions with
    | nil => rfl
    | cons definition definitions ih =>
        rw [List.map_cons, List.mapM_cons, parseParamDef_spell, ih]
        rfl
  rw [UrlTemplateGenerator.ofTemplates, parsed]
  rfl

/-- A generator is made from any documented definitions, and what it writes after the base
and the separator is read back as the pairs the definitions call for. -/
theorem generated_query_decodes (url : ByteString) (definitions : List UrlDefinition) :
    ∃ generator, UrlTemplateGenerator.ofTemplates url (definitions.map spell) = .ok generator ∧
      ∀ (paramGetter : ParamGetter) (result : ByteString),
        generator.generate paramGetter = .ok result →
          ∃ base pairs query, evalStringParam url paramGetter false = .ok base ∧
            allPairs paramGetter definitions = .ok pairs ∧
              result = base ++ (if pairs = [] then [] else firstParamSeparator url) ++ query ∧
                FormEncoding.decodeQuery query = pairs := by
  refine ⟨_, ofTemplates_spell url definitions, fun paramGetter result ran => ?_⟩
  obtain ⟨base, pairs, evaluated, called, written⟩ := generate_eq_ok ran
  rw [pairsOf_param] at called
  exact ⟨base, pairs, queryText pairs, evaluated, called, written,
    FormEncoding.decodeQuery_encodeQuery coded pairs⟩

/-- A getter of values that need coding. -/
def awkwardGetter : ParamGetter := fun name =>
  .ok (if name = ascii "x" then [ascii "a&b=%", [0, 200, 32]] else [])

/-- One parameter for each value of `x`. -/
def separateValues : UrlDefinition :=
  .reference .array ⟨ascii "x", List.all_eq_true.mp (by decide)⟩ (by decide)

/-- Signs that mean something in a query are decoded to themselves. -/
theorem awkward_query_decodes :
    UrlTemplateGenerator.generate ⟨ascii "/wfs", [separateValues.param]⟩ awkwardGetter =
        .ok (ascii "/wfs?x=a%26b%3D%25&x=%00%C8+") ∧
      ∃ base pairs query, evalStringParam (ascii "/wfs") awkwardGetter false = .ok base ∧
        allPairs awkwardGetter [separateValues] = .ok pairs ∧
          ascii "/wfs?x=a%26b%3D%25&x=%00%C8+" =
              base ++ (if pairs = [] then [] else firstParamSeparator (ascii "/wfs")) ++ query ∧
            FormEncoding.decodeQuery query = pairs := by
  have generated : UrlTemplateGenerator.generate ⟨ascii "/wfs", [separateValues.param]⟩
      awkwardGetter = .ok (ascii "/wfs?x=a%26b%3D%25&x=%00%C8+") := by
    have base : evalStringParam (ascii "/wfs") awkwardGetter false = .ok (ascii "/wfs") :=
      urlForm.expand_protect (ascii "/wfs")
    rw [UrlTemplateGenerator.generate, base]
    decide
  refine ⟨generated, ?_⟩
  obtain ⟨generator, made, decodes⟩ := generated_query_decodes (ascii "/wfs") [separateValues]
  obtain rfl := Except.ok.inj (made.symm.trans (ofTemplates_spell (ascii "/wfs") [separateValues]))
  exact decodes awkwardGetter _ generated

end UrlDefinition

end SmartMetWfs.Templates
