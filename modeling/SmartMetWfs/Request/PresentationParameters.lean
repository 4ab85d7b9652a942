import SmartMetWfs.Core.ByteString

/-!
# Standard presentation parameters

Which part of the result a request asks for and in which format. Index and count are
32-bit numbers; without either of them in the request they have their default values,
which is a field of the parameters here.
-/

namespace SmartMetWfs.Request

inductive ResultType
  | results
  | hits
  deriving DecidableEq

def defaultOutputFormat : ByteString := ascii "application/gml+xml; version=3.2"

def debugOutputFormat : ByteString := ascii "debug"

def supportedFormats : List ByteString :=
  [ascii "text/xml; subtype=gml/3.2", ascii "text/xml; version=3.2",
    ascii "application/gml+xml; subtype=gml/3.2", defaultOutputFormat]

def defaultCount : UInt32 := 0x00FFFFFF

/-- `StandardPresentationParameters`. -/
structure PresentationParameters where
  haveCounts : Bool
  startIndex : UInt32
  count : UInt32
  outputFormat : ByteString
  resultType : ResultType
  defaults : haveCounts = false → startIndex = 0 ∧ count = defaultCount

/-- Why the parameters are refused. -/
inductive PresentationError
  | notANumber (text : ByteString)
  | incorrectOutputFormat (format : ByteString)
  | incorrectResultType (resultType : ByteString)

namespace PresentationParameters

def isHitsOnlyRequest (spp : PresentationParameters) : Bool := spp.resultType = .hits

def usesDefaultFormat (spp : PresentationParameters) : Bool :=
  spp.outputFormat = defaultOutputFormat

def readOutputFormat (text : ByteString) : Except PresentationError ByteString :=
  let lstr := asciiTolowerCopy text
  if lstr ∈ supportedFormats then .ok lstr
  else if lstr = debugOutputFormat then .ok debugOutputFormat
  else .error (.incorrectOutputFormat lstr)

def readResultType (text : ByteString) : Except PresentationError ResultType :=
  let lstr := asciiTolowerCopy text
  if lstr = ascii "results" then .ok .results
  else if lstr = ascii "hits" then .ok .hits
  else .error (.incorrectResultType text)

/-- A number from the text of a parameter, or the default value. -/
def numberOr (readNumber : ByteString → Option UInt32) (text : Option ByteString)
    (defaultValue : UInt32) : Except PresentationError UInt32 :=
  match text with
  | none => .ok defaultValue
  | some text =>
      match readNumber text with
      | some number => .ok number
      | none => .error (.notANumber text)

theorem numberOr_none {readNumber : ByteString → Option UInt32} {defaultValue number : UInt32}
    (read : numberOr readNumber none defaultValue = .ok number) : number = defaultValue :=
  (Except.ok.inj read).symm

/-- `read_from_kvp`. The numbers are read by `lexical_cast`. -/
def readFromKvp (lexicalCast : ByteString → Option UInt32)
    (getParameter : ByteString → Option ByteString) :
    Except PresentationError PresentationParameters :=
  let startText := getParameter (ascii "startindex")
  let countText := getParameter (ascii "count")
  match starts : numberOr lexicalCast startText 0,
      counts : numberOr lexicalCast countText defaultCount with
  | .ok startIndex, .ok count => do
      let outputFormat ← readOutputFormat
        ((getParameter (ascii "outputformat")).getD defaultOutputFormat)
      let resultType ← readResultType ((getParameter (ascii "resulttype")).getD (ascii "results"))
      pure ⟨startText.isSome || countText.isSome, startIndex, count, outputFormat, resultType, by
        intro absent
        rw [Bool.or_eq_false_iff, Option.isSome_eq_false_iff, Option.isSome_eq_false_iff,
          Option.isNone_iff_eq_none, Option.isNone_iff_eq_none] at absent
        rw [absent.1] at starts
        rw [absent.2] at counts
        exact ⟨numberOr_none starts, numberOr_none counts⟩⟩
  | .error failure, _ => .error failure
  | _, .error failure => .error failure

/-- `read_from_xml`. The numbers are read by `stoul` and cut to 32 bits; an index of zero
does not count as given. -/
def readFromXml (stoul : ByteString → Option UInt64) (getAttr : ByteString → Option ByteString) :
    Except PresentationError PresentationParameters :=
  let narrowed := fun text => (stoul text).map UInt64.toUInt32
  let countText := getAttr (ascii "count")
  match numberOr narrowed (getAttr (ascii "startIndex")) 0,
      counts : numberOr narrowed countText defaultCount with
  | .ok startIndex, .ok count => do
      let outputFormat ← readOutputFormat
        ((getAttr (ascii "outputFormat")).getD defaultOutputFormat)
      let resultType ← readResultType ((getAttr (ascii "resultType")).getD (ascii "results"))
      pure ⟨startIndex ≠ 0 || countText.isSome, startIndex, count, outputFormat, resultType, by
        intro absent
        rw [Bool.or_eq_false_iff, decide_eq_false_iff_not, not_not, Option.isSome_eq_false_iff,
          Option.isNone_iff_eq_none] at absent
        rw [absent.2] at counts
        exact ⟨absent.1, numberOr_none counts⟩⟩
  | .error failure, _ => .error failure
  | _, .error failure => .error failure

theorem startIndex_lt (spp : PresentationParameters) : spp.startIndex.toNat < 2 ^ 32 :=
  spp.startIndex.toNat_lt

theorem count_lt (spp : PresentationParameters) : spp.count.toNat < 2 ^ 32 := spp.count.toNat_lt

/-- Parameters of a request for the results in the default format. -/
def ofCounts (startIndex count : UInt32) : PresentationParameters :=
  ⟨true, startIndex, count, defaultOutputFormat, .results, nofun⟩

end PresentationParameters

end SmartMetWfs.Request
