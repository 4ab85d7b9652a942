import SmartMetWfs.Foundation.FormEncoding
import SmartMetWfs.Templates.References
import SmartMetWfs.Xml.ParameterExtractor

/-!
# URLs generated from templates

`UrlTemplateGenerator` expands a URL template and appends query parameters to it. A
parameter definition is a constant with a template for its value, or a reference to a
request parameter whose values are appended as one list or one by one. A separator is
carried from one definition to the next, so that definitions that append nothing leave
no trace.
-/

namespace SmartMetWfs.Templates

open Foundation Xml

/-! ### Encoding -/

/-- The printable characters that `encode` does not leave as they are. -/
def special : ByteString := ascii "$&+/=?@'\"<>#%\x7b\x7d|\\^~[]"

/-- The bytes that are written with a percent sign. -/
def isUnsafe (byte : UInt8) : Bool := byte ≤ 31 || 127 ≤ byte || special.contains byte

/-- `encode`. -/
def encode (text : ByteString) : ByteString := FormEncoding.encode isUnsafe text

/-- Every byte that means something is unsafe. -/
theorem coded : FormEncoding.Coded isUnsafe := by
  constructor <;> decide

/-! ### Parameter definitions -/

/-- A reference to a parameter, and how its values are written. -/
structure ParamRef where
  name : ByteString
  omitEmpty : Bool := false
  separateParam : Bool := false
  deriving DecidableEq

/-- A constant parameter, whose value may have references in it. -/
structure StringParam where
  name : ByteString
  value : ByteString
  deriving DecidableEq

/-- A parameter of the address. -/
inductive UrlParam where
  | ref (param : ParamRef)
  | string (param : StringParam)
  deriving DecidableEq

/-- A constant definition: a name, an equals sign, and the rest as the value. -/
def parseConst (src : ByteString) : Option StringParam :=
  match src.dropWhile isNameByte with
  | 61 :: value =>
      if src.takeWhile isNameByte = [] then none else some ⟨src.takeWhile isNameByte, value⟩
  | _ => none

/-- A reference. What comes after it is not looked at. -/
def parseRef : ByteString → Option ParamRef
  | 36 :: 123 :: src =>
      let flagged := readOccurrence src
      match readName flagged.2 with
      | .ok (name, _) =>
          if name.1 = [] then none
          else some ⟨name.1, flagged.1 = .optional, flagged.1 = .array⟩
      | .error _ => none
  | _ => none

/-- `UrlTemplateGenerator::parse_param_def`. -/
def parseParamDef (str : ByteString) : Except TemplateError UrlParam :=
  let src := trimCopy str
  match parseConst src with
  | some param => .ok (.string param)
  | none =>
      match parseRef src with
      | some param => .ok (.ref param)
      | none => .error (.badDefinition src)

/-- An address with its parameters. -/
structure UrlTemplateGenerator where
  url : ByteString
  params : List UrlParam

/-- The constructor. -/
def UrlTemplateGenerator.ofTemplates (url : ByteString) (paramTemplates : List ByteString) :
    Except TemplateError UrlTemplateGenerator :=
  (⟨url, ·⟩) <$> paramTemplates.mapM parseParamDef

/-! ### Generation -/

/-- `param_getter_cb`: the values of a parameter, or a refusal of its name. -/
abbrev ParamGetter := ByteString → Except TemplateError (List ByteString)

/-- The reference whose dollar sign has been passed. -/
def readUrlRef : ByteString → Except TemplateError (ParamName × ByteString)
  | 123 :: src => readName src
  | _ => .error .missingBrace

/-- The reference after the dollar sign. -/
def spellUrlRef (name : ParamName) : ByteString := openBrace :: (name.1 ++ [closeBrace])

/-- A reference is read exactly where it is spelt. -/
theorem readUrlRef_eq_ok {src rest : ByteString} {name : ParamName} :
    readUrlRef src = .ok (name, rest) ↔ src = spellUrlRef name ++ rest := by
  unfold readUrlRef spellUrlRef
  split
  · next src =>
      rw [readName_eq_ok]
      simp [openBrace]
  · next notOpen =>
      refine iff_of_false (fun failed => by cases failed) fun spelled => ?_
      exact notOpen _ spelled

/-- The templates of `eval_string_param`. -/
def urlForm : TemplateForm UInt8 ParamName TemplateError where
  escape := backslash
  mark := dollar
  distinct := backslash_ne_dollar
  unfinished := .unexpectedEnd
  read := readUrlRef
  spell := spellUrlRef
  read_eq_ok := readUrlRef_eq_ok

/-- The values that `substitute_param_ref` writes. -/
def paramRefText (paramGetter : ParamGetter) (allowList : Bool) (name : ParamName) :
    Except TemplateError ByteString := do
  let values ← paramGetter name.1
  if !allowList && values.length > 1 then .error (.scalarExpected values)
  else .ok (joinValues values)

/-- `UrlTemplateGenerator::eval_string_param`. -/
def evalStringParam (paramStr : ByteString) (paramGetter : ParamGetter) (allowList : Bool) :
    Except TemplateError ByteString :=
  urlForm.expand (paramRefText paramGetter allowList) (cStr paramStr)

/-- `first_param_separator`. -/
def firstParamSeparator (url : ByteString) : ByteString :=
  if url ≠ [] ∧ url.getLast? ≠ some 63 then
    if 63 ∈ cStr url then (if url.getLast? ≠ some 38 then ascii "&" else [])
    else ascii "?"
  else []

/-- What has been written, and the separator to put before the next parameter. -/
structure UrlState where
  result : ByteString
  sep : ByteString

/-- One of the parameters that `append_param_ref` makes of the values. -/
def appendSeparate (name : ByteString) (state : UrlState) (item : ByteString) : UrlState :=
  ⟨state.result ++ state.sep ++ encode name ++ [61] ++ encode item, ascii "&"⟩

/-- The next item of a list. Here `sep` is the source's `sep2`. -/
def appendItem (state : UrlState) (item : ByteString) : Except TemplateError UrlState :=
  if comma ∈ cStr item then .error (.listItemWithComma item)
  else .ok ⟨state.result ++ state.sep ++ encode item, [comma]⟩

/-- `append_param_ref`. -/
def appendParamRef (ref : ParamRef) (values : List ByteString) (state : UrlState) :
    Except TemplateError UrlState :=
  if ref.separateParam then .ok (values.foldl (appendSeparate ref.name) state)
  else if !(ref.omitEmpty && values.isEmpty) then do
    let listed ← values.foldlM appendItem
      ⟨state.result ++ state.sep ++ encode ref.name ++ [61], []⟩
    return ⟨listed.result, ascii "&"⟩
  else .ok state

/-- The body of the loop over the definitions. -/
def appendParam (paramGetter : ParamGetter) (state : UrlState) :
    UrlParam → Except TemplateError UrlState
  | .ref ref => do
      let values ← paramGetter ref.name
      appendParamRef ref values state
  | .string param => do
      let value ← evalStringParam param.value paramGetter true
      return ⟨state.result ++ state.sep ++ encode param.name ++ [61] ++ encode value, ascii "&"⟩

/-- `UrlTemplateGenerator::generate`. -/
def UrlTemplateGenerator.generate (generator : UrlTemplateGenerator) (paramGetter : ParamGetter) :
    Except TemplateError ByteString := do
  let base ← evalStringParam generator.url paramGetter false
  if generator.params.isEmpty then return base
  let state ← generator.params.foldlM (appendParam paramGetter)
    ⟨base, firstParamSeparator generator.url⟩
  return state.result

/-! ### The parameters that are called for -/

/-- The pairs that a reference to a parameter with the given values calls for. -/
def ParamRef.pairs (reference : ParamRef) (values : List ByteString) :
    List (ByteString × ByteString) :=
  if reference.separateParam then values.map fun value => (reference.name, value)
  else if reference.omitEmpty && values.isEmpty then []
  else [(reference.name, joinValues values)]

/-- The pairs that a definition calls for. -/
def UrlParam.pairs (paramGetter : ParamGetter) :
    UrlParam → Except TemplateError (List (ByteString × ByteString))
  | .ref reference => reference.pairs <$> paramGetter reference.name
  | .string param =>
      (fun value => [(param.name, value)]) <$> evalStringParam param.value paramGetter true

/-- The pairs that a list of definitions calls for. -/
def pairsOf (paramGetter : ParamGetter) (params : List UrlParam) :
    Except TemplateError (List (ByteString × ByteString)) :=
  List.flatten <$> params.mapM (UrlParam.pairs paramGetter)

/-- The query text of a list of pairs. -/
def queryText (pairs : List (ByteString × ByteString)) : ByteString :=
  FormEncoding.encodeQuery isUnsafe pairs

/-- The state of the loop when some pairs have been appended to a base. -/
def UrlState.after (base separator : ByteString) (pairs : List (ByteString × ByteString)) :
    UrlState :=
  if pairs = [] then ⟨base, separator⟩ else ⟨base ++ separator ++ queryText pairs, ascii "&"⟩

/-- One more pair after the others. -/
theorem UrlState.after_concat (base separator : ByteString)
    (pairs : List (ByteString × ByteString)) (name value : ByteString) :
    UrlState.after base separator (pairs ++ [(name, value)]) =
      ⟨(after base separator pairs).result ++ (after base separator pairs).sep ++ encode name ++
        [61] ++ encode value, ascii "&"⟩ := by
  have one : FormEncoding.encodePair isUnsafe (name, value) = encode name ++ 61 :: encode value :=
    rfl
  unfold after queryText
  rw [if_neg (List.append_ne_nil_of_right_ne_nil _ (List.cons_ne_nil _ _)),
    FormEncoding.encodeQuery_concat, one]
  split
  · next none =>
      subst none
      simp [FormEncoding.encodeQuery]
  · simp [ascii]

/-- Values that are written apart are pairs of their own. -/
theorem foldl_appendSeparate (name base separator : ByteString) (values : List ByteString)
    (pairs : List (ByteString × ByteString)) :
    values.foldl (appendSeparate name) (.after base separator pairs) =
      .after base separator (pairs ++ values.map fun value => (name, value)) := by
  induction values generalizing pairs with
  | nil => rw [List.map_nil, List.append_nil]; rfl
  | cons value values ih =>
      rw [List.foldl_cons, appendSeparate, ← UrlState.after_concat, ih, List.append_assoc]
      rfl

theorem encode_append (text more : ByteString) :
    encode (text ++ more) = encode text ++ encode more :=
  List.flatMap_append

/-- A list is written as its items, coded one by one; a comma is not coded. -/
theorem foldlM_appendItem {values : List ByteString} {start after : UrlState}
    (ran : values.foldlM appendItem start = .ok after) :
    after.result = start.result ++
      (if values = [] then [] else start.sep ++ encode (joinValues values)) := by
  induction values generalizing start with
  | nil =>
      cases ran
      simp
  | cons value values ih =>
      rw [List.foldlM_cons] at ran
      obtain ⟨middle, stepped, rest⟩ := ok_of_bind ran
      unfold appendItem at stepped
      split at stepped
      · cases stepped
      · obtain rfl := Except.ok.inj stepped
        rw [ih rest, if_neg (List.cons_ne_nil _ _)]
        cases values with
        | nil => simp [joinValues]
        | cons next values =>
            have plain : encode [comma] = [comma] := by decide
            have joined : joinValues (value :: next :: values) =
                value ++ [comma] ++ joinValues (next :: values) := List.intercalate_cons_cons
            rw [if_neg (List.cons_ne_nil _ _), joined, encode_append, encode_append, plain]
            simp

/-- A reference appends its pairs. -/
theorem appendParamRef_after {base separator : ByteString}
    {pairs : List (ByteString × ByteString)} {reference : ParamRef} {values : List ByteString}
    {state : UrlState}
    (ran : appendParamRef reference values (.after base separator pairs) = .ok state) :
    state = .after base separator (pairs ++ reference.pairs values) := by
  unfold appendParamRef at ran
  unfold ParamRef.pairs
  split at ran
  · next separate =>
      rw [if_pos separate, ← foldl_appendSeparate]
      exact (Except.ok.inj ran).symm
  · next notSeparate =>
      rw [if_neg notSeparate]
      split at ran
      · next written =>
          obtain ⟨listed, ranItems, made⟩ := ok_of_bind ran
          obtain rfl := Except.ok.inj made
          rw [if_neg (by simpa only [Bool.not_eq_true', Bool.not_eq_true] using written),
            UrlState.after_concat, foldlM_appendItem ranItems]
          by_cases none : values = []
          · subst none
            rfl
          · rw [if_neg none, List.nil_append]
      · next omitted =>
          rw [if_pos (by simpa using omitted), List.append_nil]
          exact (Except.ok.inj ran).symm

/-- What one definition appends are the pairs it calls for. -/
theorem appendParam_after {paramGetter : ParamGetter} {base separator : ByteString}
    {pairs : List (ByteString × ByteString)} {param : UrlParam} {state : UrlState}
    (ran : appendParam paramGetter (.after base separator pairs) param = .ok state) :
    ∃ added, param.pairs paramGetter = .ok added ∧
      state = .after base separator (pairs ++ added) := by
  cases param with
  | string param =>
      obtain ⟨value, evaluated, appended⟩ := ok_of_bind ran
      refine ⟨[(param.name, value)], ?_, ?_⟩
      · rw [UrlParam.pairs, evaluated]
        rfl
      · rw [UrlState.after_concat]
        exact (Except.ok.inj appended).symm
  | ref reference =>
      obtain ⟨values, found, appended⟩ := ok_of_bind ran
      refine ⟨reference.pairs values, ?_, appendParamRef_after appended⟩
      rw [UrlParam.pairs, found]
      rfl

/-- The parameters append their pairs one after the other. -/
theorem foldlM_appendParam {paramGetter : ParamGetter} {base separator : ByteString}
    {pairs : List (ByteString × ByteString)} {params : List UrlParam} {state : UrlState}
    (ran : params.foldlM (appendParam paramGetter) (.after base separator pairs) = .ok state) :
    ∃ added, pairsOf paramGetter params = .ok added ∧
      state = .after base separator (pairs ++ added) := by
  induction params generalizing pairs with
  | nil =>
      cases ran
      exact ⟨[], rfl, by rw [List.append_nil]⟩
  | cons param params ih =>
      rw [List.foldlM_cons] at ran
      obtain ⟨middle, stepped, rest⟩ := ok_of_bind ran
      obtain ⟨first, called, rfl⟩ := appendParam_after stepped
      obtain ⟨later, calledLater, rfl⟩ := ih rest
      obtain ⟨lists, mapped, rfl⟩ := ok_of_map calledLater
      refine ⟨first ++ lists.flatten, ?_, by rw [List.append_assoc]⟩
      rw [pairsOf, List.mapM_cons, called, mapped]
      rfl

/-- A generated URL is the expanded base, and the coded pairs after a separator. -/
theorem generate_eq_ok {generator : UrlTemplateGenerator} {paramGetter : ParamGetter}
    {result : ByteString} (ran : generator.generate paramGetter = .ok result) :
    ∃ base pairs, evalStringParam generator.url paramGetter false = .ok base ∧
      pairsOf paramGetter generator.params = .ok pairs ∧
        result = base ++ (if pairs = [] then [] else firstParamSeparator generator.url) ++
          queryText pairs := by
  obtain ⟨base, evaluated, appended⟩ := ok_of_bind ran
  split at appended
  · next none =>
      obtain rfl := Except.ok.inj appended
      refine ⟨base, [], evaluated, ?_, ?_⟩
      · rw [List.isEmpty_iff.mp none]
        rfl
      · simp [queryText, FormEncoding.encodeQuery]
  · obtain ⟨state, looped, made⟩ := ok_of_bind appended
    obtain ⟨pairs, called, rfl⟩ := @foldlM_appendParam _ _ _ [] _ _ looped
    refine ⟨base, pairs, evaluated, called, ?_⟩
    rw [← Except.ok.inj made]
    rw [List.nil_append, UrlState.after]
    split
    · next none =>
        subst none
        simp [queryText, FormEncoding.encodeQuery]
    · rfl

end SmartMetWfs.Templates
