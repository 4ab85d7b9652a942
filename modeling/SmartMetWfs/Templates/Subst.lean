import SmartMetWfs.Handlers.LocationParameters
import SmartMetWfs.Templates.References

/-!
# Substituting request parameters

`RequestParameterMap::subst` expands a template with the values of a parameter map. A
reference `${name}` asks for one value, `${?name}` for one at most, and `${*name}` stands
for all the values of the parameter.
-/

namespace SmartMetWfs.Templates

open Foundation Parameters

/-- A reference of `subst`. -/
structure SubstRef where
  occurrence : Occurrence
  name : ParamName

/-- The first half of `RequestParameterMap::subst_ref`, after the dollar sign. -/
def readSubstRef : ByteString → Except TemplateError (SubstRef × ByteString)
  | 123 :: src =>
      let flagged := readOccurrence src
      (fun (name, rest) => (⟨flagged.1, name⟩, rest)) <$> readName flagged.2
  | _ => .error .missingBrace

/-- The reference after the dollar sign. -/
def SubstRef.spell (ref : SubstRef) : ByteString :=
  openBrace :: (ref.occurrence.spell ++ (ref.name.1 ++ [closeBrace]))

theorem readSubstRef_openBrace (src : ByteString) :
    readSubstRef (openBrace :: src) =
      (fun (name, rest) => (⟨(readOccurrence src).1, name⟩, rest)) <$>
        readName (readOccurrence src).2 := rfl

/-- A reference is read exactly where it is spelt. -/
theorem readSubstRef_eq_ok {src rest : ByteString} {ref : SubstRef} :
    readSubstRef src = .ok (ref, rest) ↔ src = ref.spell ++ rest := by
  constructor
  · intro found
    unfold readSubstRef at found
    split at found
    · next src =>
        obtain ⟨⟨name, after⟩, isName, made⟩ := ok_of_map found
        obtain ⟨rfl, rfl⟩ := Prod.mk.inj made
        have flagged := spell_readOccurrence src
        rw [readName_eq_ok.mp isName] at flagged
        refine (congrArg (openBrace :: ·) flagged.symm).trans ?_
        simp [SubstRef.spell]
    · cases found
  · rintro rfl
    have named : readName (ref.name.1 ++ closeBrace :: rest) = .ok (ref.name, rest) :=
      readName_eq_ok.mpr rfl
    have flagged := readOccurrence_spell ref.occurrence ref.name rest
    simp only [SubstRef.spell, List.cons_append, List.append_assoc, List.nil_append]
    rw [readSubstRef_openBrace, flagged, named]
    rfl

/-- The templates of `RequestParameterMap::subst`. -/
def substForm : TemplateForm UInt8 SubstRef TemplateError where
  escape := backslash
  mark := dollar
  distinct := backslash_ne_dollar
  unfinished := .unexpectedEnd
  read := readSubstRef
  spell := SubstRef.spell
  read_eq_ok := readSubstRef_eq_ok

section Values

variable {ν : Type} (toText : ν → ByteString)

/-- `write_ref_values`. -/
def writeRefValues (data : List ν) (ref : SubstRef) : Except TemplateError ByteString :=
  if ref.occurrence = .array then .ok (joinValues (data.map toText))
  else if data.length > 1 then .error (.tooManyValues ref.name.1 data.length)
  else if ref.occurrence ≠ .optional ∧ data.isEmpty then .error (.missingValue ref.name.1)
  else match data with
    | [] => .ok []
    | value :: _ => .ok (toText value)

/-- `RequestParameterMap::subst`, where `toText` is `Value::to_string`. -/
def subst (params : RequestParameterMap ν) (input : ByteString) :
    Except TemplateError ByteString :=
  substForm.expand (fun ref => writeRefValues toText (params.getValues ref.name.1) ref)
    (cStr input)

/-- The number of values that a reference asks for. -/
def Occurrence.Allows : Occurrence → Nat → Prop
  | .mandatory, count => count = 1
  | .optional, count => count ≤ 1
  | .array, _ => True

instance (occurrence : Occurrence) (count : Nat) : Decidable (occurrence.Allows count) := by
  cases occurrence <;> unfold Occurrence.Allows <;> infer_instance

/-- The parameter map has as many values as the reference asks for. -/
def RequirementMet (params : RequestParameterMap ν) (ref : SubstRef) : Prop :=
  ref.occurrence.Allows (params.getValues ref.name.1).length

/-- What a reference stands for: its values, separated by commas. -/
def refText (params : RequestParameterMap ν) (ref : SubstRef) : ByteString :=
  joinValues ((params.getValues ref.name.1).map toText)

/-- The values are written when there are as many as the reference allows. -/
theorem writeRefValues_eq_ok {data : List ν} {ref : SubstRef} {replaced : ByteString} :
    writeRefValues toText data ref = .ok replaced ↔
      ref.occurrence.Allows data.length ∧ replaced = joinValues (data.map toText) := by
  obtain ⟨occurrence, name⟩ := ref
  unfold writeRefValues joinValues
  cases occurrence with
  | array => simp [Occurrence.Allows, eq_comm]
  | optional =>
      match data with
      | [] => simp [Occurrence.Allows, eq_comm]
      | [value] => simp [Occurrence.Allows, eq_comm]
      | _ :: _ :: _ => simp [Occurrence.Allows]
  | mandatory =>
      match data with
      | [] => simp [Occurrence.Allows]
      | [value] => simp [Occurrence.Allows, eq_comm]
      | _ :: _ :: _ => simp [Occurrence.Allows]

/-- A reference has a value when its requirement is met. -/
theorem writeRefValues_valued (params : RequestParameterMap ν) :
    TemplateForm.Valued (fun ref => writeRefValues toText (params.getValues ref.name.1) ref)
      (RequirementMet params) (refText toText params) :=
  fun _ _ => writeRefValues_eq_ok toText

/-- Put a backslash before every backslash and every dollar sign. -/
def escapeText (text : ByteString) : ByteString :=
  text.flatMap fun byte => if byte = backslash ∨ byte = dollar then [backslash, byte] else [byte]

/-- A text without NUL is expanded exactly when it is made of ordinary characters, escaped
characters and references whose requirement the map meets, and then to what these stand
for; and an escaped text is expanded to the text itself. -/
theorem subst_implements_grammar (params : RequestParameterMap ν) (input : ByteString)
    (nulFree : 0 ∉ input) :
    (∀ output, subst toText params input = .ok output ↔
      ∃ segments : List substForm.Segment,
        segments.flatMap TemplateForm.Segment.spell = input ∧
          (∀ ref, .reference ref ∈ segments → RequirementMet params ref) ∧
            output = segments.flatMap (TemplateForm.Segment.text (refText toText params))) ∧
      subst toText params (escapeText input) = .ok input := by
  have escapedNulFree : 0 ∉ escapeText input := by
    intro isNul
    obtain ⟨byte, member, spelled⟩ := List.mem_flatMap.mp isNul
    have nonzero : byte ≠ 0 := fun zero => nulFree (zero ▸ member)
    split at spelled
    · rcases List.mem_pair.mp spelled with isBackslash | isByte
      · exact absurd isBackslash (by decide)
      · exact nonzero isByte.symm
    · exact nonzero (List.mem_singleton.mp spelled).symm
  constructor
  · intro output
    rw [subst, cStr_eq nulFree]
    exact TemplateForm.expand_eq_ok_iff (writeRefValues_valued toText params)
  · rw [subst, cStr_eq escapedNulFree]
    exact substForm.expand_protect input

end Values

/-- Two times of a request. -/
def twoTimes : RequestParameterMap ByteString :=
  RequestParameterMap.insertValues (ascii "Time") [ascii "12", ascii "15"] (.empty false)

/-- A list reference is replaced by all the values, and an escaped one is not replaced. -/
theorem subst_twoTimes :
    subst id twoTimes (ascii "t=${*time}") = .ok (ascii "t=12,15") ∧
      subst id twoTimes (escapeText (ascii "${*time}")) = .ok (ascii "${*time}") := by
  refine ⟨?_, (subst_implements_grammar id twoTimes (ascii "${*time}") (by decide)).2⟩
  apply ((subst_implements_grammar id twoTimes (ascii "t=${*time}") (by decide)).1 _).mpr
  refine ⟨[.ordinary 116 (by decide), .ordinary 61 (by decide),
    .reference ⟨.array,
      ⟨ascii "time", List.all_eq_true.mp (by decide)⟩⟩], by decide, fun ref member => ?_, by decide⟩
  rcases List.mem_cons.mp member with absurd_ | later
  · cases absurd_
  · rcases List.mem_cons.mp later with absurd_ | last
    · cases absurd_
    · cases List.mem_singleton.mp last
      trivial

end SmartMetWfs.Templates
