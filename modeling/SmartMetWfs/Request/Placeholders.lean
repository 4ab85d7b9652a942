import Mathlib.Data.List.TakeWhile
import SmartMetWfs.Foundation.Placeholders
import SmartMetWfs.Request.QueryResponses

/-!
# Placeholders of a response

`substitute_all` puts the values of four placeholders into a response. It is applied once to
the responses of several queries and twice to the response of a single one. The second time
changes nothing unless the values that have been put in make a new placeholder of the text
around them, or end the text early with a null byte.
-/

namespace SmartMetWfs.Request

open Foundation

inductive Placeholder
  | apikeyPrefix
  | apikey
  | hostname
  | protocol
  deriving DecidableEq

def Placeholder.word : Placeholder → ByteString
  | .apikeyPrefix => ascii "FMI_APIKEY_PREFIX"
  | .apikey => ascii "FMI_APIKEY"
  | .hostname => ascii "HOSTNAME"
  | .protocol => ascii "PROTOCOL"

/-- `@`. -/
def atSign : UInt8 := 64

def RequestContext.valueOf (context : RequestContext) : Placeholder → ByteString
  | .apikeyPrefix => context.fmiApikeyPrefix.getD []
  | .apikey => context.fmiApikey.getD []
  | .hostname => context.hostname.getD (ascii "localhost")
  | .protocol => context.protocol.getD (ascii "http") ++ ascii "://"

/-! ### The values of a request -/

def isAlnum (byte : UInt8) : Bool := isAsciiLetter byte || (48 ≤ byte && byte ≤ 57)

/-- `is_valid`. In each list of further characters `strchr` finds the null byte, too. -/
def isValid (s extra : ByteString) : Bool :=
  !s.isEmpty && s.all fun c => isAlnum c || extra.contains c || c = 0

/-- What `execute_request` is given of a request, and what is configured instead. -/
structure RequestOrigin where
  hostname : ByteString
  protocol : ByteString
  fmiApikey : Option ByteString
  shouldReturnApiKey : Bool
  fallbackHostname : ByteString
  fallbackProtocol : ByteString

namespace RequestOrigin

variable (origin : RequestOrigin)

def validHostname : Bool := isValid origin.hostname (ascii ".-:[]")

def validProtocol : Bool := origin.protocol = ascii "http" || origin.protocol = ascii "https"

/-- The values are let through, or the configured ones do not have the delimiter. -/
structure LetsThrough : Prop where
  hostname : origin.validHostname = true ∨ atSign ∉ origin.fallbackHostname
  protocol : origin.validProtocol = true ∨ atSign ∉ origin.fallbackProtocol

end RequestOrigin

/-- What `execute_request` sets before the request is executed. -/
def RequestContext.setOrigin (context : RequestContext) (origin : RequestOrigin) : RequestContext :=
  let context := { context with
    hostname := some (if origin.validHostname then origin.hostname else origin.fallbackHostname) }
  let context := { context with
    protocol := some (if origin.validProtocol then origin.protocol else origin.fallbackProtocol) }
  match origin.fmiApikey with
  | some fmiApikey =>
      if isValid fmiApikey (ascii "-_") ∧ origin.shouldReturnApiKey then
        { context with
          fmiApikeyPrefix := some (ascii "/fmi-apikey/")
          fmiApikey := some fmiApikey }
      else context
  | none => context

/-! ### One pass and two -/

/-- The pieces in which the pass finds a text. -/
def ReadAs (text : ByteString) (pieces : List (Piece UInt8 Placeholder)) : Prop :=
  ReadsAs atSign Placeholder.word text pieces

/-- Each placeholder gets its value, all else is kept, and another pass changes nothing. -/
structure CleanAndStable (context : RequestContext) (text : ByteString) : Prop where
  clean : ∃ pieces, ReadAs text pieces ∧
    context.substituteAll text = pieces.flatMap (Piece.render context.valueOf)
  stable : context.substituteAll (context.substituteAll text) = context.substituteAll text

/-- A placeholder of the text gets a value with a null byte. -/
def CutsText (context : RequestContext) (text : ByteString) : Prop :=
  ∃ pieces, ReadAs text pieces ∧ ∃ name, .placeholder name ∈ pieces ∧ 0 ∈ context.valueOf name

/-- Values and what is around them make a new placeholder. -/
def JoinsText (context : RequestContext) (text : ByteString) : Prop :=
  ∃ pieces, ReadAs text pieces ∧ Joins atSign Placeholder.word context.valueOf pieces

variable {context : RequestContext}

theorem substitute_skip (substList : List (ByteString × ByteString)) (skipped : Nat)
    (text : ByteString) : RequestContext.substitute substList skipped text =
      RequestContext.substitute substList 0 (text.drop skipped) := by
  induction skipped generalizing text with
  | zero => rfl
  | succ skipped ih =>
      cases text with
      | nil => rfl
      | cons byte rest => exact ih rest

theorem substitute_of_find {substList : List (ByteString × ByteString)} {byte : UInt8}
    {rest : ByteString} {entry : ByteString × ByteString}
    (found : (substList.find? fun entry => entry.1.isPrefixOf (byte :: rest)) = some entry) :
    RequestContext.substitute substList 0 (byte :: rest) =
      entry.2 ++ RequestContext.substitute substList (entry.1.length - 1) rest := by
  rw [RequestContext.substitute, found]

theorem substitute_of_find_none {substList : List (ByteString × ByteString)} {byte : UInt8}
    {rest : ByteString}
    (missing : (substList.find? fun entry => entry.1.isPrefixOf (byte :: rest)) = none) :
    RequestContext.substitute substList 0 (byte :: rest) =
      byte :: RequestContext.substitute substList 0 rest := by
  rw [RequestContext.substitute, missing]

/-- At a placeholder the list is searched up to its entry. -/
theorem find_placeholder (context : RequestContext) (name : Placeholder) (rest : ByteString) :
    (context.substList.find? fun entry =>
        entry.1.isPrefixOf (delimited atSign name.word ++ rest)) =
      some (delimited atSign name.word, context.valueOf name) := by
  cases name <;> rfl

/-- The pass puts the values in. -/
theorem substitute_of_readAs {text : ByteString} {pieces : List (Piece UInt8 Placeholder)}
    (reads : ReadAs text pieces) : RequestContext.substitute context.substList 0 text =
      pieces.flatMap (Piece.render context.valueOf) := by
  induction reads with
  | nil => rfl
  | @placeholder name rest pieces _ ih =>
      have found := find_placeholder context name rest
      have after : RequestContext.substitute context.substList
          ((delimited atSign name.word).length - 1) (name.word ++ [atSign] ++ rest) =
          RequestContext.substitute context.substList 0 rest := by
        rw [substitute_skip, delimited, List.length_cons, Nat.add_sub_cancel, List.drop_left]
      rw [List.flatMap_cons, Piece.render, ← ih, ← after]
      exact substitute_of_find found
  | @kept letter rest pieces notBegun _ ih =>
      have missing : (context.substList.find? fun entry =>
          entry.1.isPrefixOf (letter :: rest)) = none := by
        refine List.find?_eq_none.mpr fun entry inList begins => ?_
        have isName : ∃ name : Placeholder, entry.1 = delimited atSign name.word := by
          simp only [RequestContext.substList, List.mem_cons, List.not_mem_nil, or_false] at inList
          rcases inList with rfl | rfl | rfl | rfl
          · exact ⟨.apikeyPrefix, rfl⟩
          · exact ⟨.apikey, rfl⟩
          · exact ⟨.hostname, rfl⟩
          · exact ⟨.protocol, rfl⟩
        obtain ⟨name, isName⟩ := isName
        rw [isName] at begins
        exact notBegun name (List.isPrefixOf_iff_prefix.mp begins)
      rw [substitute_of_find_none missing, List.flatMap_cons, ← ih]
      rfl

/-- A text without null bytes is gone through to its end. -/
theorem substituteAll_of_readAs {text : ByteString} {pieces : List (Piece UInt8 Placeholder)}
    (nulFree : 0 ∉ text) (reads : ReadAs text pieces) :
    context.substituteAll text = pieces.flatMap (Piece.render context.valueOf) := by
  have whole : (text.takeWhile fun byte => byte ≠ 0) = text := by
    refine List.takeWhile_eq_self_iff.mpr fun byte inside => decide_eq_true ?_
    rintro rfl
    exact nulFree inside
  rw [RequestContext.substituteAll, whole, substitute_of_readAs reads]

theorem atSign_not_mem_word (name : Placeholder) : atSign ∉ name.word := by
  cases name <;> decide

/-- Another pass changes nothing when the text has neither null bytes nor placeholders. -/
theorem substituteAll_eq_self_iff (clean : ∀ name, atSign ∉ context.valueOf name)
    (text : ByteString) :
    context.substituteAll text = text ↔
      0 ∉ text ∧ ∀ name : Placeholder, ¬delimited atSign name.word <:+: text := by
  constructor
  · intro stays
    obtain ⟨pieces, reads⟩ := exists_readsAs atSign Placeholder.word
      (text.takeWhile fun byte => byte ≠ 0)
    have passed : pieces.flatMap (Piece.render context.valueOf) = text := by
      rw [← substitute_of_readAs reads]
      exact stays
    have begins : (text.takeWhile fun byte => byte ≠ 0) <+:
        pieces.flatMap (Piece.render context.valueOf) := by
      rw [passed]
      exact List.takeWhile_prefix _
    obtain ⟨all, same⟩ := eq_of_render_prefix clean reads begins
    rw [passed] at same
    have absent := reads.not_infix all
    rw [← same] at absent
    refine ⟨fun inside => ?_, absent⟩
    have notNull := List.takeWhile_eq_self_iff.mp same.symm 0 inside
    cases notNull
  · rintro ⟨nulFree, absent⟩
    obtain ⟨pieces, reads⟩ := exists_readsAs atSign Placeholder.word text
    rw [substituteAll_of_readAs nulFree reads,
      render_eq_spell atSign Placeholder.word context.valueOf (reads.all_kept absent), reads.spell]

/-- After one pass there is a null byte just when a value has brought it. -/
theorem null_render_iff {text : ByteString} {pieces : List (Piece UInt8 Placeholder)}
    (nulFree : 0 ∉ text) (reads : ReadAs text pieces) :
    0 ∈ pieces.flatMap (Piece.render context.valueOf) ↔
      ∃ name, .placeholder name ∈ pieces ∧ 0 ∈ context.valueOf name := by
  rw [List.mem_flatMap]
  constructor
  · rintro ⟨piece, inside, inPiece⟩
    cases piece with
    | placeholder name => exact ⟨name, inside, inPiece⟩
    | kept letter =>
        refine absurd ?_ nulFree
        rw [← reads.spell]
        exact List.mem_flatMap.mpr ⟨_, inside, inPiece⟩
  · rintro ⟨name, inside, inValue⟩
    exact ⟨_, inside, inValue⟩

theorem atSign_not_mem_of_isValid {s extra : ByteString} (valid : isValid s extra = true)
    (notExtra : atSign ∉ extra) : atSign ∉ s := by
  intro inside
  obtain ⟨_, all⟩ := Bool.and_eq_true_iff.mp valid
  have allowed := List.all_eq_true.mp all atSign inside
  have notContained : extra.contains atSign = false := by
    refine Bool.eq_false_iff.mpr fun contained => notExtra ?_
    simpa using contained
  rw [notContained] at allowed
  cases allowed

/-- The key is the one the request had before, or one that has been let through. -/
theorem setOrigin_cases (context : RequestContext) (origin : RequestOrigin) :
    (context.setOrigin origin).hostname =
        some (if origin.validHostname then origin.hostname else origin.fallbackHostname) ∧
      (context.setOrigin origin).protocol =
        some (if origin.validProtocol then origin.protocol else origin.fallbackProtocol) ∧
      (((context.setOrigin origin).fmiApikeyPrefix = context.fmiApikeyPrefix ∧
          (context.setOrigin origin).fmiApikey = context.fmiApikey) ∨
        ∃ fmiApikey, isValid fmiApikey (ascii "-_") = true ∧
          (context.setOrigin origin).fmiApikeyPrefix = some (ascii "/fmi-apikey/") ∧
          (context.setOrigin origin).fmiApikey = some fmiApikey) := by
  unfold RequestContext.setOrigin
  cases origin.fmiApikey with
  | none => exact ⟨rfl, rfl, .inl ⟨rfl, rfl⟩⟩
  | some fmiApikey =>
      dsimp only
      by_cases returned : isValid fmiApikey (ascii "-_") = true ∧ origin.shouldReturnApiKey = true
      · rw [if_pos returned]
        exact ⟨rfl, rfl, .inr ⟨fmiApikey, returned.1, rfl, rfl⟩⟩
      · rw [if_neg returned]
        exact ⟨rfl, rfl, .inl ⟨rfl, rfl⟩⟩

/-- The values of an executed request have no delimiter. -/
theorem atSign_not_mem_valueOf {origin : RequestOrigin} (fresh : context.fmiApikey = none)
    (fresh' : context.fmiApikeyPrefix = none) (letsThrough : origin.LetsThrough)
    (name : Placeholder) : atSign ∉ (context.setOrigin origin).valueOf name := by
  obtain ⟨hostname, protocol, keys⟩ := setOrigin_cases context origin
  have apikey : atSign ∉ (context.setOrigin origin).valueOf .apikeyPrefix ∧
      atSign ∉ (context.setOrigin origin).valueOf .apikey := by
    dsimp only [RequestContext.valueOf]
    rcases keys with ⟨samePrefix, same⟩ | ⟨fmiApikey, valid, newPrefix, new⟩
    · rw [samePrefix, same, fresh, fresh']
      exact ⟨List.not_mem_nil, List.not_mem_nil⟩
    · rw [newPrefix, new]
      exact ⟨by decide, atSign_not_mem_of_isValid valid (by decide)⟩
  cases name with
  | apikeyPrefix => exact apikey.1
  | apikey => exact apikey.2
  | hostname =>
      dsimp only [RequestContext.valueOf]
      rw [hostname, Option.getD_some]
      split
      · next valid => exact atSign_not_mem_of_isValid valid (by decide)
      · next invalid => exact letsThrough.hostname.resolve_left invalid
  | protocol =>
      dsimp only [RequestContext.valueOf]
      rw [protocol, Option.getD_some, List.mem_append, not_or]
      refine ⟨?_, by decide⟩
      split
      · next valid =>
          rcases Bool.or_eq_true_iff.mp valid with http | https
          · rw [of_decide_eq_true http]
            decide
          · rw [of_decide_eq_true https]
            decide
      · next invalid => exact letsThrough.protocol.resolve_left invalid

/-- One pass is clean, and another one changes nothing exactly when no value brings a null
byte and no values make a new placeholder. -/
theorem cleanAndStable_iff {origin : RequestOrigin} (fresh : context.fmiApikey = none)
    (fresh' : context.fmiApikeyPrefix = none) (letsThrough : origin.LetsThrough)
    {text : ByteString} (nulFree : 0 ∉ text) :
    CleanAndStable (context.setOrigin origin) text ↔
      ¬ CutsText (context.setOrigin origin) text ∧ ¬ JoinsText (context.setOrigin origin) text := by
  have clean := atSign_not_mem_valueOf fresh fresh' letsThrough
  generalize context.setOrigin origin = context at clean
  constructor
  · rintro ⟨_, stable⟩
    obtain ⟨notNull, absent⟩ := (substituteAll_eq_self_iff clean _).mp stable
    constructor
    · rintro ⟨pieces, reads, cuts⟩
      rw [substituteAll_of_readAs nulFree reads] at notNull
      exact notNull ((null_render_iff nulFree reads).mpr cuts)
    · rintro ⟨pieces, reads, joins⟩
      rw [substituteAll_of_readAs nulFree reads] at absent
      obtain ⟨name, found⟩ := (infix_render_iff atSign_not_mem_word clean reads).mpr joins
      exact absent name found
  · rintro ⟨notCut, notJoined⟩
    obtain ⟨pieces, reads⟩ := exists_readsAs atSign Placeholder.word text
    have passed : context.substituteAll text = pieces.flatMap (Piece.render context.valueOf) :=
      substituteAll_of_readAs nulFree reads
    refine ⟨⟨pieces, reads, passed⟩, (substituteAll_eq_self_iff clean _).mpr ⟨?_, ?_⟩⟩
    · rw [passed, null_render_iff nulFree reads]
      exact fun cuts => notCut ⟨pieces, reads, cuts⟩
    · intro name found
      rw [passed] at found
      exact notJoined ⟨pieces, reads,
        (infix_render_iff atSign_not_mem_word clean reads).mp ⟨name, found⟩⟩

/-- A request without an API key. -/
def plainOrigin : RequestOrigin where
  hostname := ascii "example.org"
  protocol := ascii "https"
  fmiApikey := none
  shouldReturnApiKey := false
  fallbackHostname := ascii "localhost"
  fallbackProtocol := ascii "http"

/-- A text that the missing key leaves a placeholder of. -/
def joiningText : ByteString := ascii "@HOST@FMI_APIKEY@NAME@"

theorem cleanAndStable_joiningText :
    CleanAndStable ((sampleContext []).setOrigin plainOrigin) joiningText ↔
      ¬ CutsText ((sampleContext []).setOrigin plainOrigin) joiningText ∧
        ¬ JoinsText ((sampleContext []).setOrigin plainOrigin) joiningText :=
  cleanAndStable_iff rfl rfl ⟨.inl rfl, .inl rfl⟩ (by decide)

/-- The second pass puts the host name in. -/
theorem joiningText_notStable :
    ¬ CleanAndStable ((sampleContext []).setOrigin plainOrigin) joiningText := by
  rintro ⟨_, stable⟩
  have once : ((sampleContext []).setOrigin plainOrigin).substituteAll joiningText =
      ascii "@HOSTNAME@" := rfl
  have twice : ((sampleContext []).setOrigin plainOrigin).substituteAll (ascii "@HOSTNAME@") =
      ascii "example.org" := rfl
  rw [once, twice] at stable
  exact absurd stable (by decide)

end SmartMetWfs.Request
