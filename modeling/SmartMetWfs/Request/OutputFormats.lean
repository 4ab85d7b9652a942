import SmartMetWfs.Foundation.OrderedMap
import SmartMetWfs.Foundation.Respacing
import SmartMetWfs.Request.PresentationParameters
import SmartMetWfs.Xml.ParameterExtractor

/-!
# Output formats

The output format of a request is checked twice. `check_output_format_attribute` brings
the spacing around its semicolon to the normal one and looks for it among the configured
formats, `set_output_format` turns its letters to lower case and looks for it among the
formats it knows.
-/

namespace SmartMetWfs.Request

open Foundation Xml

/-! ### The configured formats -/

/-- `CapabilitiesConf::conv_output_format_str`: of two parts around a semicolon the blanks
at the ends are dropped, and one is put behind the semicolon. -/
def convOutputFormatStr (src : ByteString) : ByteString := respace isSpace 59 (ascii "; ") src

/-- The setting `outputFormats` of the configuration. -/
inductive OutputFormatsSetting
  | string (text : ByteString)
  | array (texts : List ByteString)
  | other

inductive CapabilitiesFailure
  | emptyArray
  | incorrectOutputFormats

def formatSet (formats : List ByteString) : OrderedSet ByteString :=
  formats.foldl (fun set format => set.insert format) .empty

/-- `supportedFormats` after the constructor of `CapabilitiesConf`. -/
def defaultFormats : OrderedSet ByteString :=
  formatSet [ascii "text/xml; subtype=gml/3.2", ascii "text/xml; version=3.2",
    ascii "application/gml+xml; subtype=gml/3.2", ascii "application/gml+xml; version=3.2"]

/-- The formats of a setting. -/
def configuredFormats (texts : List ByteString) : OrderedSet ByteString :=
  formatSet ((formatSet (texts.map asciiTolowerCopy)).keys.map convOutputFormatStr)

/-- The part of `CapabilitiesConf::parse` that reads the formats. -/
def parseOutputFormats :
    Option OutputFormatsSetting → Except CapabilitiesFailure (OrderedSet ByteString)
  | none => .ok defaultFormats
  | some (.string text) => .ok (configuredFormats [text])
  | some (.array []) => .error .emptyArray
  | some (.array texts) => .ok (configuredFormats texts)
  | some .other => .error .incorrectOutputFormats

/-- The formats that `set_output_format` knows. -/
def knownFormats : List ByteString := supportedFormats ++ [debugOutputFormat]

/-- A configured set of formats that are known. -/
structure KnownFormats where
  formats : OrderedSet ByteString
  known : ∀ format, formats.contains format = true → format ∈ knownFormats

/-! ### The checks of a request -/

/-- The message of `report_incorrect_output_format`. -/
def incorrectOutputFormat (value : ByteString) (formats : OrderedSet ByteString) : ByteString :=
  ascii "Unsupported output format '" ++ value ++ ascii "' (One of" ++
    (formats.keys.foldl
      (fun (msg, dlm) item => (msg ++ dlm ++ ascii "'" ++ item ++ ascii "'", ascii ", "))
      (([] : ByteString), ascii " ")).1 ++
    ascii " expected)"

/-- Why the output format of a request is refused. -/
inductive OutputFormatFailure
  | unsupported (message : ByteString)
  | presentation (error : PresentationError)

/-- `RequestBase::check_output_format_attribute`. -/
def checkOutputFormatAttribute (formats : OrderedSet ByteString) (value : ByteString) :
    Except OutputFormatFailure Unit :=
  let fmt := convOutputFormatStr value
  if formats.contains fmt then .ok () else .error (.unsupported (incorrectOutputFormat fmt formats))

/-- How `GetFeature::create_from_kvp` checks and reads the parameters of presentation. -/
def kvpPresentation (formats : OrderedSet ByteString) (lexicalCast : ByteString → Option UInt32)
    (getParameter : ByteString → Option ByteString) :
    Except OutputFormatFailure PresentationParameters := do
  match getParameter (ascii "outputformat") with
  | some format => checkOutputFormatAttribute formats format
  | none => pure ()
  (PresentationParameters.readFromKvp lexicalCast getParameter).mapError .presentation

/-- How `GetFeature::create_from_xml` does. -/
def xmlPresentation (formats : OrderedSet ByteString) (stoul : ByteString → Option UInt64)
    (getAttr : ByteString → Option ByteString) :
    Except OutputFormatFailure PresentationParameters := do
  match getAttr (ascii "outputFormat") with
  | some format => checkOutputFormatAttribute formats format
  | none => pure ()
  (PresentationParameters.readFromXml stoul getAttr).mapError .presentation

/-! ### Letters and spacing -/

theorem asciiTolower_of_isSpace (byte : UInt8) (blank : isSpace byte = true) :
    asciiTolower byte = byte := by
  revert byte
  decide +kernel

theorem asciiTolower_eq_semicolon (byte : UInt8) : asciiTolower byte = 59 ↔ byte = 59 := by
  revert byte
  decide +kernel

theorem convOutputFormatStr_asciiTolowerCopy (text : ByteString) :
    convOutputFormatStr (asciiTolowerCopy text) = asciiTolowerCopy (convOutputFormatStr text) :=
  respace_map isSpace_asciiTolower asciiTolower_eq_semicolon (by decide) text

theorem filter_convOutputFormatStr (text : ByteString) :
    (convOutputFormatStr text).filter (fun byte => !isSpace byte) =
      text.filter fun byte => !isSpace byte :=
  filter_respace (by decide) (by decide) text

/-- A text that is equal in lower case and equal but for blanks is the same text. -/
theorem eq_of_lower_of_bare {text text' : ByteString}
    (lower : asciiTolowerCopy text = asciiTolowerCopy text')
    (bare : text.filter (fun byte => !isSpace byte) = text'.filter fun byte => !isSpace byte) :
    text = text' :=
  eq_of_map_of_filter isSpace_asciiTolower asciiTolower_of_isSpace lower bare

/-- The normal spacing does not change whether a text is in lower case. -/
theorem lower_convOutputFormatStr_iff {text : ByteString} :
    asciiTolowerCopy (convOutputFormatStr text) = convOutputFormatStr text ↔
      asciiTolowerCopy text = text := by
  have bareLower : ∀ text : ByteString, (asciiTolowerCopy text).filter (fun byte => !isSpace byte) =
      asciiTolowerCopy (text.filter fun byte => !isSpace byte) := by
    intro text
    rw [asciiTolowerCopy, List.filter_map]
    refine congrArg (List.map asciiTolower) (List.filter_congr fun byte _ => ?_)
    rw [Function.comp_apply, isSpace_asciiTolower]
  have of_bare : ∀ text : ByteString, asciiTolowerCopy text = text ↔
      asciiTolowerCopy (text.filter fun byte => !isSpace byte) =
        text.filter fun byte => !isSpace byte := by
    intro text
    rw [← bareLower]
    refine ⟨fun lower => by rw [lower], fun bare => ?_⟩
    exact eq_of_lower_of_bare (asciiTolowerCopy_idempotent text) bare
  rw [of_bare, filter_convOutputFormatStr, ← of_bare]

theorem lower_of_mem_knownFormats {format : ByteString} (known : format ∈ knownFormats) :
    asciiTolowerCopy format = format := by
  have all : ∀ format ∈ knownFormats, asciiTolowerCopy format = format := by decide
  exact all format known

theorem spaced_of_mem_knownFormats {format : ByteString} (known : format ∈ knownFormats) :
    convOutputFormatStr format = format := by
  have all : ∀ format ∈ knownFormats, convOutputFormatStr format = format := by decide
  exact all format known

theorem count_of_mem_knownFormats {format : ByteString} (known : format ∈ knownFormats) :
    format.count 59 ≤ 1 := by
  have all : ∀ format ∈ knownFormats, format.count 59 ≤ 1 := by decide
  exact all format known

/-! ### What the checks accept -/

theorem checkOutputFormatAttribute_eq_ok {formats : OrderedSet ByteString} {value : ByteString} :
    checkOutputFormatAttribute formats value = .ok () ↔
      formats.contains (convOutputFormatStr value) = true := by
  unfold checkOutputFormatAttribute
  dsimp only
  split
  · next supported => exact iff_of_true rfl supported
  · next unsupported => exact iff_of_false (fun accepted => by cases accepted) unsupported

theorem readOutputFormat_eq_ok {value format : ByteString} :
    PresentationParameters.readOutputFormat value = .ok format ↔
      asciiTolowerCopy value ∈ knownFormats ∧ format = asciiTolowerCopy value := by
  have known : asciiTolowerCopy value ∈ knownFormats ↔ asciiTolowerCopy value ∈ supportedFormats ∨
      asciiTolowerCopy value = debugOutputFormat := by
    rw [knownFormats, List.mem_append, List.mem_singleton]
  unfold PresentationParameters.readOutputFormat
  rw [known]
  dsimp only
  split
  · next supported =>
      rw [and_iff_right (.inl supported), Except.ok.injEq, eq_comm]
  · next unsupported =>
      split
      · next isDebug =>
          rw [and_iff_right (.inr isDebug), Except.ok.injEq, eq_comm, isDebug]
      · next notDebug =>
          refine iff_of_false (fun accepted => by cases accepted) fun accepted => ?_
          exact accepted.1.elim unsupported notDebug

/-- Strings that differ only in letter case or in white space around semicolons. -/
def FormatVariants (text text' : ByteString) : Prop := Respelled asciiTolower isSpace 59 text text'

/-- What the first check accepts the second one accepts as the same format, and variants of
accepted strings are accepted by both checks or by none. -/
def FormatChecksAgree (formats : OrderedSet ByteString) (value : ByteString) : Prop :=
  (checkOutputFormatAttribute formats value = .ok () →
      PresentationParameters.readOutputFormat value = .ok (convOutputFormatStr value)) ∧
    ∀ accepted, checkOutputFormatAttribute formats accepted = .ok () →
      FormatVariants accepted value →
        (checkOutputFormatAttribute formats value = .ok () ↔
          ∃ format, PresentationParameters.readOutputFormat value = .ok format)

namespace KnownFormats

variable (known : KnownFormats)

/-- Of the spellings of a format, the first check accepts those in lower case. -/
theorem check_eq_ok_iff {value : ByteString}
    (isFormat : known.formats.contains (asciiTolowerCopy (convOutputFormatStr value)) = true) :
    checkOutputFormatAttribute known.formats value = .ok () ↔ asciiTolowerCopy value = value := by
  rw [checkOutputFormatAttribute_eq_ok, ← lower_convOutputFormatStr_iff]
  refine ⟨fun supported => lower_of_mem_knownFormats (known.known _ supported), fun lower => ?_⟩
  rwa [lower] at isFormat

/-- Of the spellings of a format, the second check accepts those with the normal spacing. -/
theorem read_eq_ok_iff {value : ByteString}
    (isFormat : known.formats.contains (asciiTolowerCopy (convOutputFormatStr value)) = true) :
    (∃ format, PresentationParameters.readOutputFormat value = .ok format) ↔
      convOutputFormatStr value = value := by
  have readable : (∃ format, PresentationParameters.readOutputFormat value = .ok format) ↔
      asciiTolowerCopy value ∈ knownFormats := by
    simp only [readOutputFormat_eq_ok, exists_and_left, exists_eq, and_true]
  rw [readable]
  constructor
  · intro member
    have spaced := spaced_of_mem_knownFormats member
    rw [convOutputFormatStr_asciiTolowerCopy] at spaced
    exact eq_of_lower_of_bare spaced (filter_convOutputFormatStr value)
  · intro spaced
    rw [spaced] at isFormat
    exact known.known _ isFormat

/-- A variant of an accepted string is a spelling of the same format. -/
theorem format_of_variant {accepted value : ByteString}
    (supported : checkOutputFormatAttribute known.formats accepted = .ok ())
    (variants : FormatVariants accepted value) :
    known.formats.contains (asciiTolowerCopy (convOutputFormatStr value)) = true := by
  rw [checkOutputFormatAttribute_eq_ok] at supported
  have member := known.known _ supported
  have count : accepted.count 59 ≤ 1 := by
    rcases respace_cases isSpace 59 (ascii "; ") accepted with
      ⟨first, second, rfl, inFirst, inSecond, _⟩ | ⟨_, same⟩
    · rw [List.count_append, List.count_cons_self, List.count_eq_zero_of_not_mem inFirst,
        List.count_eq_zero_of_not_mem inSecond]
    · rw [← same]
      exact count_of_mem_knownFormats member
  have same : asciiTolowerCopy (convOutputFormatStr value) =
      asciiTolowerCopy (convOutputFormatStr accepted) :=
    (variants.respace_eq isSpace_asciiTolower asciiTolower_eq_semicolon (by decide) (by decide)
      count).2
  have lower := same.trans (lower_of_mem_knownFormats member)
  rw [lower]
  exact supported

end KnownFormats

/-- The two checks agree on a string exactly when it is no spelling of a supported format, or
is in lower case exactly if its spacing is the normal one. -/
theorem formatChecksAgree_iff (known : KnownFormats) (value : ByteString) :
    FormatChecksAgree known.formats value ↔
      (known.formats.contains (asciiTolowerCopy (convOutputFormatStr value)) = true →
        (asciiTolowerCopy value = value ↔ convOutputFormatStr value = value)) := by
  constructor
  · rintro ⟨selects, agree⟩ isFormat
    constructor
    · intro lower
      have accepted := (known.check_eq_ok_iff isFormat).mpr lower
      exact (known.read_eq_ok_iff isFormat).mp ⟨_, selects accepted⟩
    · intro spaced
      have member := known.known _ isFormat
      have canonical : checkOutputFormatAttribute known.formats
          (asciiTolowerCopy (convOutputFormatStr value)) = .ok () := by
        rw [checkOutputFormatAttribute_eq_ok, spaced_of_mem_knownFormats member]
        exact isFormat
      have variants : FormatVariants (asciiTolowerCopy (convOutputFormatStr value)) value := by
        rw [spaced]
        exact .folding (asciiTolowerCopy_idempotent value)
      refine (known.check_eq_ok_iff isFormat).mp ((agree _ canonical variants).mpr ?_)
      exact (known.read_eq_ok_iff isFormat).mpr spaced
  · intro same
    constructor
    · intro accepted
      have supported := checkOutputFormatAttribute_eq_ok.mp accepted
      have member := known.known _ supported
      have lower := lower_of_mem_knownFormats member
      have isFormat :
          known.formats.contains (asciiTolowerCopy (convOutputFormatStr value)) = true := by
        rwa [lower]
      have spaced := (same isFormat).mp (lower_convOutputFormatStr_iff.mp lower)
      rw [spaced] at member lower ⊢
      rw [readOutputFormat_eq_ok, lower]
      exact ⟨member, rfl⟩
    · intro accepted supported variants
      have isFormat := known.format_of_variant supported variants
      rw [known.check_eq_ok_iff isFormat, known.read_eq_ok_iff isFormat]
      exact same isFormat

theorem contains_formatSet {formats : List ByteString} {format : ByteString} :
    (formatSet formats).contains format = true ↔ format ∈ formats := by
  rw [← OrderedSet.mem_keys_iff_contains, formatSet, OrderedSet.mem_keys_foldl_insert]
  exact or_iff_left List.not_mem_nil

namespace KnownFormats

/-- The formats of a configuration without the setting. -/
def default : KnownFormats where
  formats := defaultFormats
  known := by
    intro format contained
    exact List.mem_append_left [debugOutputFormat] (contains_formatSet.mp contained)

end KnownFormats

/-- The first check accepts a format without a blank behind the semicolon, the second refuses it. -/
theorem unspacedFormat_refused :
    ¬ FormatChecksAgree KnownFormats.default.formats (ascii "text/xml;subtype=gml/3.2") := by
  intro agree
  have accepted : checkOutputFormatAttribute KnownFormats.default.formats
      (ascii "text/xml;subtype=gml/3.2") = .ok () :=
    checkOutputFormatAttribute_eq_ok.mpr (contains_formatSet.mpr (by decide))
  have selected := readOutputFormat_eq_ok.mp (agree.1 accepted)
  exact absurd selected.1 (by decide)

/-! ### Formats that requests state -/

/-- Configured formats are in lower case. -/
theorem lower_of_configured {setting : Option OutputFormatsSetting}
    {formats : OrderedSet ByteString} (parsed : parseOutputFormats setting = .ok formats)
    {format : ByteString} (contained : formats.contains format = true) :
    asciiTolowerCopy format = format := by
  have ofTexts : ∀ texts, (configuredFormats texts).contains format = true →
      asciiTolowerCopy format = format := by
    intro texts inSet
    obtain ⟨lower, inLower, rfl⟩ := List.mem_map.mp (contains_formatSet.mp inSet)
    rw [OrderedSet.mem_keys_iff_contains, contains_formatSet] at inLower
    obtain ⟨text, _, rfl⟩ := List.mem_map.mp inLower
    exact lower_convOutputFormatStr_iff.mpr (asciiTolowerCopy_idempotent text)
  unfold parseOutputFormats at parsed
  split at parsed
  · cases parsed
    exact lower_of_mem_knownFormats
      (List.mem_append_left [debugOutputFormat] (contains_formatSet.mp contained))
  · cases parsed
    exact ofTexts _ contained
  · cases parsed
  · cases parsed
    exact ofTexts _ contained
  · cases parsed

/-- Of the texts that a request can state, both checks accept the formats that are configured and
known, letter for letter. -/
theorem statedFormat_iff {setting : Option OutputFormatsSetting}
    {formats : OrderedSet ByteString} (parsed : parseOutputFormats setting = .ok formats)
    {value format : ByteString} :
    (checkOutputFormatAttribute formats value = .ok () ∧
        PresentationParameters.readOutputFormat value = .ok format) ↔
      format = value ∧ formats.contains value = true ∧ value ∈ knownFormats := by
  rw [checkOutputFormatAttribute_eq_ok, readOutputFormat_eq_ok]
  constructor
  · rintro ⟨contained, known, rfl⟩
    -- The first check refuses capital letters, the second one other spacing.
    have lower := lower_convOutputFormatStr_iff.mp (lower_of_configured parsed contained)
    rw [lower] at known ⊢
    rw [spaced_of_mem_knownFormats known] at contained
    exact ⟨rfl, contained, known⟩
  · rintro ⟨rfl, contained, known⟩
    rw [spaced_of_mem_knownFormats known, lower_of_mem_knownFormats known]
    exact ⟨contained, known, rfl⟩

/-- The request is refused because of its output format. -/
def OutputFormatFailure.OfFormat : OutputFormatFailure → Prop
  | .unsupported _ | .presentation (.incorrectOutputFormat _) => True
  | .presentation _ => False

namespace PresentationParameters

/-- What becomes of parameters that are made of a format and a result type. -/
theorem made_cases {ρ : Type} {formatRead : Except PresentationError ByteString}
    {resultRead : Except PresentationError ρ} {make : ByteString → ρ → PresentationParameters}
    (keeps : ∀ format result, (make format result).outputFormat = format)
    {outcome : Except PresentationError PresentationParameters}
    (ran : (do
      let format ← formatRead
      let result ← resultRead
      pure (make format result)) = outcome) :
    (∃ error, formatRead = .error error ∧ outcome = .error error) ∨
      (∃ error, resultRead = .error error ∧ outcome = .error error) ∨
      ∃ spp, outcome = .ok spp ∧ formatRead = .ok spp.outputFormat := by
  subst ran
  cases formatRead with
  | error error => exact .inl ⟨error, rfl, rfl⟩
  | ok format =>
      cases resultRead with
      | error error => exact .inr (.inl ⟨error, rfl, rfl⟩)
      | ok result => exact .inr (.inr ⟨make format result, rfl, by rw [keeps]⟩)

/-- The format is that of the text, unless it or something else is refused. -/
def ReadsFormat (text : ByteString) (outcome : Except PresentationError PresentationParameters) :
    Prop :=
  (∀ spp, outcome = .ok spp → readOutputFormat text = .ok spp.outputFormat) ∧
    ∀ format, outcome = .error (.incorrectOutputFormat format) →
      ∃ error, readOutputFormat text = .error error

theorem numberOr_error {readNumber : ByteString → Option UInt32} {text : Option ByteString}
    {defaultValue : UInt32} {error : PresentationError}
    (failed : numberOr readNumber text defaultValue = .error error) :
    ∃ text, error = .notANumber text := by
  unfold numberOr at failed
  split at failed
  · cases failed
  · split at failed
    · cases failed
    · cases failed
      exact ⟨_, rfl⟩

theorem readResultType_error {text : ByteString} {error : PresentationError}
    (failed : readResultType text = .error error) : ∃ text, error = .incorrectResultType text := by
  unfold readResultType at failed
  dsimp only at failed
  split at failed
  · cases failed
  · split at failed
    · cases failed
    · cases failed
      exact ⟨_, rfl⟩

theorem readsFormat_of_made {text resultText : ByteString}
    {make : ByteString → ResultType → PresentationParameters}
    (keeps : ∀ format result, (make format result).outputFormat = format)
    {outcome : Except PresentationError PresentationParameters}
    (ran : (do
      let format ← readOutputFormat text
      let result ← readResultType resultText
      pure (make format result)) = outcome) : ReadsFormat text outcome := by
  rcases made_cases keeps ran with ⟨error, failed, rfl⟩ | ⟨error, failed, rfl⟩ | ⟨spp, rfl, read⟩
  · exact ⟨nofun, fun _ _ => ⟨error, failed⟩⟩
  · obtain ⟨_, rfl⟩ := readResultType_error failed
    exact ⟨nofun, nofun⟩
  · refine ⟨fun _ same => ?_, nofun⟩
    cases same
    exact read

theorem readsFormat_of_notANumber {text : ByteString} {error : PresentationError}
    (number : ∃ text, error = .notANumber text) : ReadsFormat text (.error error) := by
  obtain ⟨_, rfl⟩ := number
  exact ⟨nofun, nofun⟩

theorem readFromKvp_readsFormat (lexicalCast : ByteString → Option UInt32)
    (getParameter : ByteString → Option ByteString) :
    ReadsFormat ((getParameter (ascii "outputformat")).getD defaultOutputFormat)
      (readFromKvp lexicalCast getParameter) := by
  unfold readFromKvp
  dsimp only
  split
  · exact readsFormat_of_made (fun _ _ => rfl) rfl
  · next failed => exact readsFormat_of_notANumber (numberOr_error failed)
  · next failed _ => exact readsFormat_of_notANumber (numberOr_error failed)

theorem readFromXml_readsFormat (stoul : ByteString → Option UInt64)
    (getAttr : ByteString → Option ByteString) :
    ReadsFormat ((getAttr (ascii "outputFormat")).getD defaultOutputFormat)
      (readFromXml stoul getAttr) := by
  unfold readFromXml
  dsimp only
  split
  · exact readsFormat_of_made (fun _ _ => rfl) rfl
  · next failed => exact readsFormat_of_notANumber (numberOr_error failed)
  · next failed _ => exact readsFormat_of_notANumber (numberOr_error failed)

end PresentationParameters

/-- A request that states this format gets exactly it, configured and known, and one that states
such a format is not refused because of it. -/
structure HonoursFormat (formats : OrderedSet ByteString) (value : ByteString)
    (outcome : Except OutputFormatFailure PresentationParameters) : Prop where
  accepted : ∀ spp, outcome = .ok spp →
    spp.outputFormat = value ∧ formats.contains value = true ∧ value ∈ knownFormats
  refused : formats.contains value = true → value ∈ knownFormats →
    ∀ failure, outcome = .error failure → ¬ failure.OfFormat

theorem honoursFormat_of_readsFormat {setting : Option OutputFormatsSetting}
    {formats : OrderedSet ByteString} (parsed : parseOutputFormats setting = .ok formats)
    {value : ByteString} {read : Except PresentationError PresentationParameters}
    (reads : PresentationParameters.ReadsFormat value read) :
    HonoursFormat formats value (do
      checkOutputFormatAttribute formats value
      read.mapError .presentation) where
  accepted := by
    intro spp ran
    obtain ⟨_, checked, rest⟩ := ok_of_bind ran
    exact (statedFormat_iff parsed).mp ⟨checked, reads.1 spp (ok_of_mapError rest)⟩
  refused := by
    intro contained known failure failed ofFormat
    obtain ⟨checked, readable⟩ := (statedFormat_iff parsed).mpr ⟨rfl, contained, known⟩
    rw [checked] at failed
    cases read with
    | ok spp => cases failed
    | error error =>
        cases failed
        cases error with
        | incorrectOutputFormat format =>
            obtain ⟨_, unreadable⟩ := reads.2 format rfl
            cases unreadable.symm.trans readable
        | notANumber _ | incorrectResultType _ => exact ofFormat

/-- Whatever formats are configured, requests of either form that state an output format get
exactly the one they state. -/
theorem stated_format_honoured {setting : Option OutputFormatsSetting}
    {formats : OrderedSet ByteString} (parsed : parseOutputFormats setting = .ok formats)
    (value : ByteString) :
    (∀ lexicalCast getParameter, getParameter (ascii "outputformat") = some value →
      HonoursFormat formats value (kvpPresentation formats lexicalCast getParameter)) ∧
    ∀ stoul getAttr, getAttr (ascii "outputFormat") = some value →
      HonoursFormat formats value (xmlPresentation formats stoul getAttr) := by
  constructor
  · intro lexicalCast getParameter given
    unfold kvpPresentation
    have reads := PresentationParameters.readFromKvp_readsFormat lexicalCast getParameter
    rw [given] at reads ⊢
    exact honoursFormat_of_readsFormat parsed reads
  · intro stoul getAttr given
    unfold xmlPresentation
    have reads := PresentationParameters.readFromXml_readsFormat stoul getAttr
    rw [given] at reads ⊢
    exact honoursFormat_of_readsFormat parsed reads

/-- A setting with a format in capital letters and one that is unknown. -/
def twoFormats : List ByteString := [ascii "TEXT/XML;version=3.2", ascii "text/html"]

theorem twoFormats_honoured :
    (configuredFormats twoFormats).contains (ascii "text/xml; version=3.2") = true ∧
    (∀ lexicalCast getParameter,
      getParameter (ascii "outputformat") = some (ascii "text/xml; version=3.2") →
        HonoursFormat (configuredFormats twoFormats) (ascii "text/xml; version=3.2")
          (kvpPresentation (configuredFormats twoFormats) lexicalCast getParameter)) ∧
    ∀ stoul getAttr, getAttr (ascii "outputFormat") = some (ascii "text/xml; version=3.2") →
      HonoursFormat (configuredFormats twoFormats) (ascii "text/xml; version=3.2")
        (xmlPresentation (configuredFormats twoFormats) stoul getAttr) :=
  ⟨by decide, stated_format_honoured
    (show parseOutputFormats (some (.array twoFormats)) = .ok _ from rfl)
    (ascii "text/xml; version=3.2")⟩

end SmartMetWfs.Request
